import Archspec.Collectors.Features

/-!
# The RISC-V extensions of an ISA string

`IsaString` is a string of the naming grammar in lower case: `rv32` or `rv64`, single letters with
optional versions, some behind underscores, and names of several letters.  The search of
`riscvHasExtension` looks at the letters before the first underscore, and at those right behind one.
So it takes letters of a name that has no underscore in front of it for extensions, and misses letters
that have others between them and the underscore (`hasExtension_iff`).
-/

namespace Archspec

open Lib

/-! ## The naming grammar -/

/-- A non-empty run of digits. -/
structure Digits where
  text : Bytes
  ne_nil : text ≠ []
  digit : ∀ c ∈ text, 48 ≤ c ∧ c ≤ 57

/-- A single-letter extension, with its version if it has one. -/
structure SingleLetter where
  letter : UInt8
  version : Option (Digits × Digits) := none
  lower : 97 ≤ letter ∧ letter ≤ 122 := by decide
  single : letter ∉ bytes "sxz" := by decide

/-- The name of a multi-letter extension. -/
structure MultiLetter where
  text : Bytes
  length : 2 ≤ text.length := by decide
  first : ∀ c ∈ text.head?, c ∈ bytes "sxz" := by decide
  alphanumeric : ∀ c ∈ text, 48 ≤ c ∧ c ≤ 57 ∨ 97 ≤ c ∧ c ≤ 122 := by decide

def SingleLetter.text (extension : SingleLetter) : Bytes :=
  extension.letter ::
    match extension.version with
    | none => []
    | some (major, minor) => major.text ++ 112 :: minor.text

/-- A string of the grammar. -/
structure IsaString where
  /-- `rv64`, not `rv32` -/
  wide : Bool
  /-- the single letters before the first underscore -/
  head : List SingleLetter := []
  /-- the runs of single letters behind an underscore -/
  groups : List (SingleLetter × List SingleLetter) := []
  /-- a name that follows the single letters directly -/
  attached : Option MultiLetter := none
  /-- the names behind an underscore -/
  names : List MultiLetter := []
  /-- an underscore separates single letters -/
  head_ne_nil : groups ≠ [] → head ≠ [] := by decide

namespace IsaString

variable (isa : IsaString)

/-- The text of a run of single letters. -/
def singlesText (singles : List SingleLetter) : Bytes := singles.flatMap SingleLetter.text

def attachedText : Bytes := (isa.attached.map MultiLetter.text).getD []

/-- The text behind `rv32` or `rv64`. -/
def tail : Bytes :=
  singlesText isa.head ++ (isa.groups.flatMap fun group => 95 :: singlesText (group.1 :: group.2)) ++
    isa.attachedText ++ isa.names.flatMap fun name => 95 :: name.text

def text : Bytes := bytes (if isa.wide then "rv64" else "rv32") ++ isa.tail

/-- The letters of the single-letter extensions. -/
def letters : List UInt8 :=
  (isa.head ++ isa.groups.flatMap fun group => group.1 :: group.2).map SingleLetter.letter

/-- The string has the extension: by its letter, or by `g`. -/
def Has (extension : UInt8) : Prop :=
  extension ∈ isa.letters ∨ 103 ∈ isa.letters ∧ extension ∈ bytes "imafd"

/-! ## What the search sees -/

/-- The text behind a later `rv32`, where the search starts instead. -/
def laterRv32 : Option Bytes := if isa.wide then findAfter "rv32" isa.tail else none

/-- The bytes before the first underscore: single letters and the name attached to them, or what is
behind a later `rv32`. -/
def front : Bytes :=
  match isa.laterRv32 with
  | none => isa.head.map SingleLetter.letter ++ if isa.groups = [] then isa.attachedText else []
  | some rest => rest.takeWhile (· ≠ 95)

/-- The letters right behind an underscore. -/
def behind : List UInt8 := isa.groups.map fun group => group.1.letter

/-- The search is not misled about the extension. -/
structure Plain (extension : UInt8) : Prop where
  /-- no letter of a name is taken for the extension -/
  stray : extension ∈ isa.front ∨ 103 ∈ isa.front ∧ extension ∈ bytes "imafd" → isa.Has extension
  /-- not all letters that stand for the extension have others between them and the underscore -/
  buried : isa.Has extension →
    extension ∈ isa.front ∨ 103 ∈ isa.front ∧ extension ∈ bytes "imafd" ∨ extension ∈ isa.behind

end IsaString

/-! ## Searches for an underscore and a letter -/

section Search

theorem contains_cons (c : UInt8) (s part : Bytes) :
    Lib.contains (c :: s) part = (startsWith (c :: s) part || Lib.contains s part) := by
  rw [Lib.contains, findAfter, Lib.contains]
  cases startsWith (c :: s) part <;> rfl

variable {e : UInt8}

theorem contains_append {u : Bytes} (hu : ∀ c ∈ u, c ≠ 95) (v : Bytes) :
    Lib.contains (u ++ v) [95, e] = Lib.contains v [95, e] := by
  induction u with
  | nil => rfl
  | cons c u ih =>
    rw [List.cons_append, contains_cons,
      startsWith_cons_of_ne (Ne.symm (hu c List.mem_cons_self)), Bool.false_or]
    exact ih fun d hd => hu d (List.mem_cons_of_mem c hd)

theorem contains_underscore (c : UInt8) (v : Bytes) :
    Lib.contains (95 :: c :: v) [95, e] = (c == e || Lib.contains (c :: v) [95, e]) := by
  rw [contains_cons]
  congr 1
  simp [startsWith, List.isPrefixOf, eq_comm]

end Search

/-! ## The pieces of a string have no underscore -/

theorem SingleLetter.text_ne (extension : SingleLetter) : ∀ c ∈ extension.text, c ≠ 95 := by
  have hletter : extension.letter ≠ 95 := by
    intro h
    have hlower := extension.lower.1
    rw [h] at hlower
    revert hlower
    decide
  have hdigits : ∀ digits : Digits, ∀ c ∈ digits.text, c ≠ 95 := by
    rintro digits c hc rfl
    have hle := (digits.digit 95 hc).2
    revert hle
    decide
  intro c hc
  rw [SingleLetter.text] at hc
  rcases List.mem_cons.1 hc with rfl | hc
  · exact hletter
  · split at hc
    · cases hc
    · rename_i major minor _
      rcases List.mem_append.1 hc with hc | hc
      · exact hdigits major c hc
      · rcases List.mem_cons.1 hc with rfl | hc
        · decide
        · exact hdigits minor c hc

theorem singlesText_ne (singles : List SingleLetter) :
    ∀ c ∈ IsaString.singlesText singles, c ≠ 95 := by
  intro c hc
  obtain ⟨extension, -, hc⟩ := List.mem_flatMap.1 hc
  exact extension.text_ne c hc

theorem MultiLetter.text_ne (name : MultiLetter) : ∀ c ∈ name.text, c ≠ 95 := by
  rintro c hc rfl
  have h := name.alphanumeric 95 hc
  revert h
  decide

theorem attachedText_ne (isa : IsaString) : ∀ c ∈ isa.attachedText, c ≠ 95 := by
  rw [IsaString.attachedText]
  cases isa.attached with
  | none => exact fun c hc => absurd hc List.not_mem_nil
  | some name => exact name.text_ne

/-- Among letters other than `p`, the text of a run has just the letters of its extensions. -/
theorem mem_singlesText {singles : List SingleLetter} {e : UInt8} (he : 97 ≤ e) (hp : e ≠ 112) :
    e ∈ IsaString.singlesText singles ↔ e ∈ singles.map SingleLetter.letter := by
  have hdigits : ∀ digits : Digits, e ∉ digits.text := by
    intro digits hmem
    have hle := UInt8.le_trans he (digits.digit e hmem).2
    revert hle
    decide
  have htext : ∀ extension : SingleLetter, e ∈ extension.text ↔ extension.letter = e := by
    intro extension
    rw [SingleLetter.text, List.mem_cons, eq_comm, or_iff_left]
    split
    · exact List.not_mem_nil
    · rename_i major minor _
      rw [List.mem_append, List.mem_cons]
      rintro (h | h | h)
      · exact hdigits major h
      · exact hp h
      · exact hdigits minor h
  simp only [IsaString.singlesText, List.mem_flatMap, List.mem_map, htext]

/-! ## The search on a string of the grammar -/

namespace IsaString

variable (isa : IsaString)

/-- The search starts behind the first `rv32`, or else behind the first `rv64`. -/
theorem findAfter_text :
    (findAfter "rv32" isa.text).or (findAfter "rv64" isa.text) =
      some (isa.laterRv32.getD isa.tail) := by
  have hskip : ∀ s : Bytes, findAfter "rv32" (bytes "rv64" ++ s) = findAfter "rv32" s := fun s => rfl
  have hhere : ∀ marker s : Bytes, marker ≠ [] → findAfter marker (marker ++ s) = some s := by
    intro marker s hne
    obtain ⟨c, marker, rfl⟩ := List.exists_cons_of_ne_nil hne
    have hpre : startsWith (c :: (marker ++ s)) (c :: marker) = true :=
      List.isPrefixOf_iff_prefix.2 (List.prefix_append (c :: marker) s)
    rw [List.cons_append, findAfter, if_pos hpre, ← List.cons_append, List.drop_left]
  rw [text, laterRv32]
  by_cases hwide : isa.wide = true
  · rw [if_pos hwide, if_pos hwide, hskip, hhere "rv64" isa.tail (by decide)]
    cases findAfter "rv32" isa.tail <;> rfl
  · rw [if_neg hwide, if_neg hwide, hhere "rv32" isa.tail (by decide)]
    rfl

theorem takeWhile_of_head {s t : Bytes} (hs : ∀ c ∈ s, c ≠ 95) (ht : ∀ c ∈ t.head?, c = 95) :
    (s ++ t).takeWhile (· ≠ 95) = s := by
  rw [List.takeWhile_append_of_pos (fun c hc => decide_eq_true (hs c hc))]
  cases t with
  | nil => simp
  | cons c t => simp [ht c rfl]

/-- What comes before the first underscore. -/
theorem takeWhile_tail :
    isa.tail.takeWhile (· ≠ 95) =
      singlesText isa.head ++ if isa.groups = [] then isa.attachedText else [] := by
  have hnames : ∀ c ∈ (isa.names.flatMap fun name => 95 :: name.text).head?, c = 95 := by
    cases isa.names with
    | nil => exact fun c hc => absurd hc (by simp)
    | cons name names => exact fun c hc => (Option.some.inj hc).symm
  rw [tail]
  by_cases hgroups : isa.groups = []
  · rw [hgroups, List.flatMap_nil, List.append_nil, if_pos rfl]
    refine takeWhile_of_head (fun c hc => ?_) hnames
    rcases List.mem_append.1 hc with hc | hc
    · exact singlesText_ne isa.head c hc
    · exact attachedText_ne isa c hc
  · obtain ⟨group, groups, hcons⟩ := List.exists_cons_of_ne_nil hgroups
    rw [if_neg hgroups, List.append_nil, List.append_assoc, List.append_assoc, hcons]
    exact takeWhile_of_head (singlesText_ne isa.head) fun c hc => (Option.some.inj hc).symm

/-- An underscore and a letter stand side by side only at a run of single letters. -/
theorem contains_text {e : UInt8} (he : e ∉ bytes "sxz") :
    Lib.contains isa.text [95, e] = true ↔ e ∈ isa.behind := by
  have hnames : ∀ names : List MultiLetter,
      Lib.contains (names.flatMap fun name => 95 :: name.text) [95, e] = false := by
    intro names
    induction names with
    | nil => rfl
    | cons name names ih =>
      obtain ⟨c, rest, hname⟩ := List.exists_cons_of_ne_nil
        (List.ne_nil_of_length_pos (Nat.lt_of_lt_of_le (by decide) name.length))
      have hc : c ≠ e := by
        rintro rfl
        exact he (name.first c (by rw [hname]; rfl))
      rw [List.flatMap_cons, hname, List.cons_append, List.cons_append, contains_underscore,
        beq_false_of_ne hc, Bool.false_or, ← List.cons_append, ← hname,
        contains_append name.text_ne]
      exact ih
  have hgroups : ∀ (groups : List (SingleLetter × List SingleLetter)) (rest : Bytes),
      Lib.contains ((groups.flatMap fun group => 95 :: singlesText (group.1 :: group.2)) ++ rest)
        [95, e] = true ↔
      e ∈ groups.map (fun group => group.1.letter) ∨ Lib.contains rest [95, e] = true := by
    intro groups rest
    induction groups with
    | nil => simp
    | cons group groups ih =>
      have hcons : singlesText (group.1 :: group.2) = group.1.letter ::
          (group.1.text.tail ++ singlesText group.2) := rfl
      rw [List.flatMap_cons, List.append_assoc, List.cons_append, hcons, List.cons_append,
        contains_underscore, ← List.cons_append, ← hcons,
        contains_append (singlesText_ne (group.1 :: group.2)), Bool.or_eq_true, ih, List.map_cons,
        List.mem_cons, beq_iff_eq, or_assoc, eq_comm]
  have hmarker : ∀ c ∈ bytes (if isa.wide then "rv64" else "rv32"), c ≠ 95 := by
    cases isa.wide <;> decide
  rw [text, contains_append hmarker, tail, List.append_assoc, List.append_assoc,
    contains_append (singlesText_ne isa.head), hgroups, contains_append (attachedText_ne isa), hnames]
  simp [behind]

/-- The letters the search finds before the underscore. -/
theorem mem_takeWhile_iff {e : UInt8} (he : 97 ≤ e) (hp : e ≠ 112) :
    e ∈ (isa.laterRv32.getD isa.tail).takeWhile (· ≠ 95) ↔ e ∈ isa.front := by
  rw [front]
  cases isa.laterRv32 with
  | none =>
    rw [Option.getD_none, takeWhile_tail, List.mem_append, List.mem_append, mem_singlesText he hp]
  | some rest => rw [Option.getD_some]

end IsaString

/-- On a string of the grammar the search finds an extension if and only if the string has it, exactly
when it is not misled about it. -/
theorem hasExtension_iff (isa : IsaString) (raw : Bytes) (hraw : lowered raw = isa.text)
    (extension : UInt8) (hextension : extension ∈ bytes "imafdcvh") :
    (riscvHasExtension raw extension = true ↔ isa.Has extension) ↔ isa.Plain extension := by
  have hfacts : ∀ e ∈ bytes "imafdcvh", 97 ≤ e ∧ e ≠ 112 ∧ e ∉ bytes "sxz" := by decide
  obtain ⟨hlower, hp, hsingle⟩ := hfacts extension hextension
  have hfound : riscvHasExtension raw extension = true ↔
      (extension ∈ isa.front ∨ 103 ∈ isa.front ∧ extension ∈ bytes "imafd") ∨
        extension ∈ isa.behind := by
    rw [riscvHasExtension, hraw]
    dsimp only
    rw [isa.findAfter_text]
    dsimp only
    rw [Bool.or_eq_true, Bool.or_eq_true, Bool.and_eq_true, List.contains_iff_mem,
      List.contains_iff_mem, List.contains_iff_mem, isa.contains_text hsingle,
      isa.mem_takeWhile_iff hlower hp, isa.mem_takeWhile_iff (by decide) (by decide)]
    tauto
  rw [hfound]
  constructor
  · intro h
    exact ⟨fun hfront => h.1 (Or.inl hfront), fun hhas => or_assoc.1 (h.2 hhas)⟩
  · rintro ⟨hstray, hburied⟩
    refine ⟨?_, fun hhas => or_assoc.2 (hburied hhas)⟩
    rintro (hfront | hbehind)
    · exact hstray hfront
    · obtain ⟨group, hgroup, rfl⟩ := List.mem_map.1 hbehind
      left
      refine List.mem_map.2 ⟨group.1, List.mem_append_right _ ?_, rfl⟩
      exact List.mem_flatMap.2 ⟨group, hgroup, List.mem_cons_self⟩

/-- The name of the extension of the control and status registers. -/
def zicsr : MultiLetter := { text := bytes "zicsr" }

/-- `rv64imac_zicsr`, the letters of the name behind an underscore. -/
def plainIsa : IsaString :=
  { wide := true, head := [{ letter := 105 }, { letter := 109 }, { letter := 97 }, { letter := 99 }]
    names := [zicsr] }

theorem hasExtension_plain : riscvHasExtension "RV64IMAC_Zicsr" 99 = true :=
  ((hasExtension_iff plainIsa "RV64IMAC_Zicsr" (by decide) 99 (by decide)).2
    ⟨fun _ => Or.inl (by decide), fun _ => Or.inl (by decide)⟩).2 (Or.inl (by decide))

/-- `rv64imazicsr`: the name follows the letters directly. -/
def attachedIsa : IsaString :=
  { wide := true, head := [{ letter := 105 }, { letter := 109 }, { letter := 97 }]
    attached := some zicsr }

/-- `rv64i_mac`: two letters stand between the underscore and `c`. -/
def buriedIsa : IsaString :=
  { wide := true, head := [{ letter := 105 }]
    groups := [({ letter := 109 }, [{ letter := 97 }, { letter := 99 }])] }

/-- The `c` of a name is found, the extension `c` is not. -/
theorem hasExtension_misled :
    (attachedIsa.text = bytes "rv64imazicsr" ∧ riscvHasExtension attachedIsa.text 99 = true ∧
        ¬ attachedIsa.Has 99) ∧
      buriedIsa.text = bytes "rv64i_mac" ∧ riscvHasExtension buriedIsa.text 99 = false ∧
        buriedIsa.Has 99 := by
  refine ⟨⟨by decide, by decide, ?_⟩, by decide, by decide, Or.inl (by decide)⟩
  rintro (h | ⟨-, h⟩)
  · revert h
    decide
  · revert h
    decide

end Archspec
