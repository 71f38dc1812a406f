import Archspec.Lib.Json

/-!
# UTF-8

A text is well-formed when it is the encoding of a sequence of Unicode scalar values.  A byte below
128 stands for itself and is no part of another encoding, so a text can be cut and joined at such
bytes (`utf8_split`), and what replaces them by others of the kind changes nothing
(`utf8_flatMap_iff`).  In particular the text of a JSON tree is well-formed exactly when all its
strings are (`Json.utf8_render_iff`).
-/

namespace Lib

/-- The text is the encoding of a sequence of scalar values. -/
def Utf8 (s : Bytes) : Prop := ∃ cs : List Char, s = cs.flatMap String.utf8EncodeChar

theorem utf8_iff_isValidUTF8 {s : Bytes} : Utf8 s ↔ s.toByteArray.IsValidUTF8 := by
  constructor
  · rintro ⟨cs, rfl⟩
    exact ⟨cs, rfl⟩
  · rintro ⟨cs, hcs⟩
    exact ⟨cs, List.toByteArray_inj.1 hcs⟩

instance (s : Bytes) : Decidable (Utf8 s) := decidable_of_iff _ utf8_iff_isValidUTF8.symm

/-! ## Bytes below 128 -/

/-- Every byte of the text is below 128. -/
def Ascii (s : Bytes) : Prop := ∀ c ∈ s, c < 128

instance (s : Bytes) : Decidable (Ascii s) := inferInstanceAs (Decidable (∀ c ∈ s, c < 128))

/-- A literal is checked character by character. -/
theorem ascii_literal (cs : List Char) (h : (cs.all fun c => c.toNat < 128) = true) :
    Ascii (bytes (String.ofList cs)) := by
  intro b hb
  rw [bytes, String.toList_ofList] at hb
  obtain ⟨c, hc, rfl⟩ := List.mem_map.1 hb
  have hlt : c.toNat < 128 := of_decide_eq_true (List.all_eq_true.1 h c hc)
  rw [UInt8.lt_iff_toNat_lt, Nat.toUInt8_eq, UInt8.toNat_ofNat', Nat.mod_eq_of_lt (by omega)]
  exact hlt

theorem utf8_nil : Utf8 [] := ⟨[], rfl⟩

theorem Utf8.append {a b : Bytes} (ha : Utf8 a) (hb : Utf8 b) : Utf8 (a ++ b) := by
  obtain ⟨cs, rfl⟩ := ha
  obtain ⟨ds, rfl⟩ := hb
  exact ⟨cs ++ ds, List.flatMap_append.symm⟩

theorem utf8_encode (c : Char) : Utf8 (String.utf8EncodeChar c) :=
  ⟨[c], (List.flatMap_singleton _ _).symm⟩

theorem encode_of_lt {c : UInt8} (hc : c < 128) :
    String.utf8EncodeChar (Char.ofUInt8 c) = [c] := by
  have hval : (Char.ofUInt8 c).val.toNat = c.toNat := UInt8.toNat_toUInt32 c
  have hlt : c.toNat < 128 := hc
  rw [String.utf8EncodeChar, hval, if_pos (by omega), UInt8.ofNat_toNat]

/-- An encoding is one byte below 128, or all its bytes are from 128 on and below 0xF8. -/
theorem encode_cases (c : Char) :
    (∃ b < 128, String.utf8EncodeChar c = [b]) ∨
      ∀ b ∈ String.utf8EncodeChar c, 128 ≤ b ∧ b < 0xF8 := by
  have hhigh : ∀ n, 128 ≤ n → n < 248 → 128 ≤ UInt8.ofNat n ∧ UInt8.ofNat n < 0xF8 := by
    intro n hle hlt
    rw [UInt8.le_iff_toNat_le, UInt8.lt_iff_toNat_lt, UInt8.toNat_ofNat',
      Nat.mod_eq_of_lt (by omega)]
    exact ⟨hle, hlt⟩
  rw [String.utf8EncodeChar]
  split
  · refine Or.inl ⟨_, ?_, rfl⟩
    rw [UInt8.lt_iff_toNat_lt, UInt8.toNat_ofNat']
    show _ < 128
    omega
  · right
    split
    · simp only [List.forall_mem_cons]
      exact ⟨hhigh _ (by omega) (by omega), hhigh _ (by omega) (by omega), nofun⟩
    · split
      · simp only [List.forall_mem_cons]
        exact ⟨hhigh _ (by omega) (by omega), hhigh _ (by omega) (by omega),
          hhigh _ (by omega) (by omega), nofun⟩
      · simp only [List.forall_mem_cons]
        exact ⟨hhigh _ (by omega) (by omega), hhigh _ (by omega) (by omega),
          hhigh _ (by omega) (by omega), hhigh _ (by omega) (by omega), nofun⟩

/-- No encoding has a byte from 0xF8 on. -/
theorem Utf8.lt_of_mem {s : Bytes} (h : Utf8 s) {b : UInt8} (hb : b ∈ s) : b < 0xF8 := by
  obtain ⟨cs, rfl⟩ := h
  obtain ⟨c, -, hc⟩ := List.mem_flatMap.1 hb
  rcases encode_cases c with ⟨d, hd, hencode⟩ | hhigh
  · rw [hencode, List.mem_singleton] at hc
    exact UInt8.lt_trans (hc ▸ hd) (by decide)
  · exact (hhigh b hc).2

/-- A text can be cut and joined at a byte below 128. -/
theorem utf8_split {a b : Bytes} {c : UInt8} (hc : c < 128) :
    Utf8 (a ++ c :: b) ↔ Utf8 a ∧ Utf8 b := by
  constructor
  · rintro ⟨cs, hcs⟩
    induction cs generalizing a with
    | nil => simp at hcs
    | cons d ds ih =>
      rw [List.flatMap_cons] at hcs
      -- the byte is in the rest, unless it is the first encoding
      rcases List.append_eq_append_iff.1 hcs with ⟨a', hencode, hrest⟩ | ⟨a', rfl, hrest⟩
      · cases a' with
        | nil =>
          rw [List.append_nil] at hencode
          exact ⟨hencode ▸ utf8_encode d, (ih (a := []) hrest).2⟩
        | cons x a'' =>
          obtain ⟨rfl, rfl⟩ := List.cons.inj hrest
          rcases encode_cases d with ⟨e, -, he⟩ | hhigh
          · rw [he] at hencode
            obtain ⟨rfl, -, rfl⟩ : a = [] ∧ e = c ∧ a'' = [] := by
              cases a <;> simp_all
            exact ⟨utf8_nil, ds, rfl⟩
          · have hge := (hhigh c (by rw [hencode]; simp)).1
            exact absurd hc (UInt8.not_lt.2 hge)
      · obtain ⟨ha', hb⟩ := ih hrest.symm
        exact ⟨(utf8_encode d).append ha', hb⟩
  · rintro ⟨ha, hb⟩
    have hsingle : Utf8 [c] := encode_of_lt hc ▸ utf8_encode _
    exact ha.append (hsingle.append hb)

theorem utf8_cons {c : UInt8} (hc : c < 128) (s : Bytes) : Utf8 (c :: s) ↔ Utf8 s := by
  rw [← List.nil_append (c :: s), utf8_split hc]
  exact and_iff_right utf8_nil

theorem utf8_ascii_append {a : Bytes} (ha : Ascii a) (b : Bytes) : Utf8 (a ++ b) ↔ Utf8 b := by
  induction a with
  | nil => rfl
  | cons c a ih =>
    obtain ⟨hc, ha⟩ := List.forall_mem_cons.1 ha
    rw [List.cons_append, utf8_cons hc, ih ha]

theorem Ascii.utf8 {s : Bytes} (h : Ascii s) : Utf8 s := by
  rw [← List.append_nil s, utf8_ascii_append h]
  exact utf8_nil

theorem utf8_append_ascii (a : Bytes) {b : Bytes} (hb : Ascii b) : Utf8 (a ++ b) ↔ Utf8 a := by
  cases b with
  | nil => rw [List.append_nil]
  | cons c b =>
    obtain ⟨hc, hb⟩ := List.forall_mem_cons.1 hb
    rw [utf8_split hc]
    exact and_iff_left (Ascii.utf8 hb)

/-! ## What leaves the other bytes alone -/

/-- Bytes below 128 replaced by texts of such bytes. -/
theorem utf8_flatMap_iff {f : UInt8 → Bytes} (hhigh : ∀ c, 128 ≤ c → f c = [c])
    (hlow : ∀ c < 128, f c ≠ [] ∧ Ascii (f c)) (s : Bytes) : Utf8 (s.flatMap f) ↔ Utf8 s := by
  have h : ∀ before, Utf8 (before ++ s.flatMap f) ↔ Utf8 (before ++ s) := by
    induction s with
    | nil => exact fun before => Iff.rfl
    | cons c s ih =>
      intro before
      rw [List.flatMap_cons]
      by_cases hc : c < 128
      · obtain ⟨hne, hascii⟩ := hlow c hc
        obtain ⟨d, ds, hf⟩ := List.exists_cons_of_ne_nil hne
        rw [hf] at hascii ⊢
        obtain ⟨hd, hds⟩ := List.forall_mem_cons.1 hascii
        have hrest := ih []
        rw [List.nil_append, List.nil_append] at hrest
        rw [List.cons_append, utf8_split hd, utf8_split hc, utf8_ascii_append hds, hrest]
      · have hstep := ih (before ++ [c])
        rw [List.append_assoc, List.append_assoc] at hstep
        rw [hhigh c (UInt8.not_lt.1 hc)]
        exact hstep
  exact h []

theorem isSpace_lt {c : UInt8} (h : isSpace c = true) : c < 128 := by
  rcases Bool.or_eq_true_iff.1 h with h | h
  · rw [eq_of_beq h]
    decide
  · have hle : c ≤ 13 := of_decide_eq_true (Bool.and_eq_true_iff.1 h).2
    exact UInt8.lt_of_le_of_lt hle (by decide)

theorem utf8_trim (s : Bytes) : Utf8 (trim s) ↔ Utf8 s := by
  have hfront : Ascii (s.takeWhile isSpace) := fun c hc => isSpace_lt (List.mem_takeWhile_imp hc)
  have hback : Ascii ((s.dropWhile isSpace).rtakeWhile isSpace) := fun c hc =>
    isSpace_lt (List.mem_rtakeWhile_imp hc)
  calc Utf8 (trim s)
      ↔ Utf8 ((s.dropWhile isSpace).rdropWhile isSpace ++ (s.dropWhile isSpace).rtakeWhile isSpace) :=
        (utf8_append_ascii _ hback).symm
    _ ↔ Utf8 (s.takeWhile isSpace ++ s.dropWhile isSpace) := by
        rw [List.rdropWhile_append_rtakeWhile, utf8_ascii_append hfront]
    _ ↔ Utf8 s := by rw [List.takeWhile_append_dropWhile]

/-! ## Lists of texts -/

/-- Every text of the list is well-formed. -/
def AllUtf8 (texts : List Bytes) : Prop := ∀ text ∈ texts, Utf8 text

instance (texts : List Bytes) : Decidable (AllUtf8 texts) :=
  inferInstanceAs (Decidable (∀ text ∈ texts, Utf8 text))

section Lists

variable {α : Type}

@[simp] theorem allUtf8_nil : AllUtf8 [] := nofun

@[simp] theorem allUtf8_cons (text : Bytes) (texts : List Bytes) :
    AllUtf8 (text :: texts) ↔ Utf8 text ∧ AllUtf8 texts := List.forall_mem_cons

@[simp] theorem allUtf8_append (texts texts' : List Bytes) :
    AllUtf8 (texts ++ texts') ↔ AllUtf8 texts ∧ AllUtf8 texts' := List.forall_mem_append

@[simp] theorem allUtf8_flatMap (as : List α) (texts : α → List Bytes) :
    AllUtf8 (as.flatMap texts) ↔ ∀ a ∈ as, AllUtf8 (texts a) := List.forall_mem_flatMap

end Lists

/-! ## JSON -/

namespace Json

/-- Every string of the tree satisfies `P`, the keys included. -/
inductive AllStrings (P : Bytes → Prop) : Json → Prop where
  | null : AllStrings P null
  | bool (b : Bool) : AllStrings P (bool b)
  | number (m e : ℤ) : AllStrings P (number m e)
  | string {s : Bytes} (h : P s) : AllStrings P (string s)
  | array {items : List Json} (h : ∀ j ∈ items, AllStrings P j) : AllStrings P (array items)
  | object {members : List (Bytes × Json)} (hkeys : ∀ m ∈ members, P m.1)
      (h : ∀ m ∈ members, AllStrings P m.2) : AllStrings P (object members)

section AllStrings

variable {P : Bytes → Prop}

theorem allStrings_string (s : Bytes) : (string s).AllStrings P ↔ P s :=
  ⟨fun h => by cases h; assumption, .string⟩

theorem allStrings_array (items : List Json) :
    (array items).AllStrings P ↔ ∀ j ∈ items, j.AllStrings P :=
  ⟨fun h => by cases h; assumption, .array⟩

theorem allStrings_object (members : List (Bytes × Json)) :
    (object members).AllStrings P ↔ ∀ m ∈ members, P m.1 ∧ m.2.AllStrings P :=
  ⟨fun h m hm => by cases h with | object hkeys h => exact ⟨hkeys m hm, h m hm⟩,
    fun h => .object (fun m hm => (h m hm).1) fun m hm => (h m hm).2⟩

end AllStrings

theorem utf8_escape (s : Bytes) : Utf8 (s.flatMap escapeByte) ↔ Utf8 s := by
  have hlow : ∀ n < 128, escapeByte (UInt8.ofNat n) ≠ [] ∧ Ascii (escapeByte (UInt8.ofNat n)) := by
    decide
  have hhigh : ∀ n < 256, 128 ≤ n → escapeByte (UInt8.ofNat n) = [UInt8.ofNat n] := by decide +kernel
  refine utf8_flatMap_iff (fun c hc => ?_) (fun c hc => ?_) s
  · rw [← UInt8.ofNat_toNat (x := c)]
    exact hhigh c.toNat c.toNat_lt hc
  · rw [← UInt8.ofNat_toNat (x := c)]
    exact hlow c.toNat hc

theorem utf8_quote (s : Bytes) : Utf8 (quote s) ↔ Utf8 s := by
  rw [quote, utf8_append_ascii _ (by decide), utf8_cons (by decide), utf8_escape]

theorem utf8_commas (ts : List Bytes) : Utf8 (commas ts) ↔ ∀ t ∈ ts, Utf8 t := by
  induction ts with
  | nil => exact iff_of_true utf8_nil nofun
  | cons t ts ih =>
    by_cases hts : ts = []
    · subst hts
      rw [commas_singleton]
      exact List.forall_mem_singleton.symm
    · rw [commas_cons hts, utf8_split (by decide), ih, List.forall_mem_cons]

theorem ascii_decimalInt (m : ℤ) : Ascii (decimalInt m) := by
  have hdigits : Ascii (decimal m.natAbs) := forall_decimal (by decide) _
  rw [decimalInt]
  split
  · exact List.forall_mem_cons.2 ⟨by decide, hdigits⟩
  · exact hdigits

theorem utf8_number (m e : ℤ) : Utf8 (render (number m e)) := by
  rw [render, utf8_ascii_append (ascii_decimalInt m)]
  split
  · exact utf8_nil
  · exact (utf8_cons (by decide) _).2 (ascii_decimalInt e).utf8

/-- The text of a tree is well-formed exactly when its strings are. -/
theorem utf8_render_iff (j : Json) : Utf8 (render j) ↔ j.AllStrings Utf8 := by
  induction j using Json.induct with
  | null => exact iff_of_true (by rw [render]; decide) .null
  | bool b => exact iff_of_true (by rw [render]; cases b <;> decide) (.bool b)
  | number m e => exact iff_of_true (utf8_number m e) (.number m e)
  | string s =>
    rw [render, utf8_quote, allStrings_string]
  | array items ih =>
    rw [render_array, utf8_append_ascii _ (by decide), utf8_cons (by decide), utf8_commas,
      List.forall_mem_map, allStrings_array]
    exact forall₂_congr ih
  | object members ih =>
    rw [render_object, utf8_append_ascii _ (by decide), utf8_cons (by decide), utf8_commas,
      List.forall_mem_map, allStrings_object]
    refine forall₂_congr fun m hm => ?_
    rw [utf8_split (by decide), utf8_quote, ih m hm]

end Json

end Lib
