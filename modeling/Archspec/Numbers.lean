import Archspec.Readings
import Archspec.Lib.Numerals

/-!
# Numbers

The parsers of `internal.hh` write their result through a reference.  `parseU64Into`,
`parseI64Into` and `parseSizeBytesInto` keep the reference; what they return and leave in it is the
`outcome` of `parseU64`, `parseI64` and `parseSizeBytes`.  The accepted texts are given by grammars
over the trimmed text: `IsU64`, `IsI64` and `IsSize`.

An integer parser reads the text in front of the first NUL (`parseU64_iff`, `parseI64_iff`), so it
is exact on the texts whose part in front of a NUL is no number (`integers_exact_iff`).
-/

namespace Archspec

open Lib Program

/-! ## The parsers with their references -/

/-- `parse_u64`: the result, and `value` afterwards. -/
def parseU64Into (text : Bytes) (value : UInt64) : Bool × UInt64 :=
  let trimmed := trim text
  if trimmed.head? = none ∨ trimmed.head? = some 45 then (false, value)
  else match strtoull (cString trimmed) 0 with
    | .number parsed rest => if rest.all isSpace then (true, parsed) else (false, value)
    | _ => (false, value)

/-- `parse_i64`. -/
def parseI64Into (text : Bytes) (value : Int64) : Bool × Int64 :=
  let trimmed := trim text
  if trimmed = [] then (false, value)
  else match strtoll (cString trimmed) 0 with
    | .number parsed rest => if rest.all isSpace then (true, parsed) else (false, value)
    | _ => (false, value)

/-- `parse_size_bytes`. -/
def parseSizeBytesInto (text : Bytes) (bytes : UInt64) : Bool × UInt64 :=
  let value := trim text
  if value.head? = none ∨ value.head? = some 45 then (false, bytes)
  else match strtoull (cString value) 10 with
    | .number parsed rest =>
      match sizeMultiplier (lowered (trim rest)) with
      | none => (false, bytes)
      | some multiplier =>
        if multiplier ≠ 0 ∧ parsed > u64Max / multiplier then (false, bytes)
        else (true, parsed * multiplier)
    | _ => (false, bytes)

/-- What a call with a result returns and leaves in its reference. -/
def outcome {α : Type} (result : Option α) (out : α) : Bool × α :=
  match result with
  | some value => (true, value)
  | none => (false, out)

theorem outcome_conversion_number {α : Type} (value : α) (rest : Bytes) (out : α) :
    outcome (conversion (.number value rest)) out =
      if rest.all isSpace then (true, value) else (false, out) := by
  rw [conversion]
  split <;> rfl

theorem parseU64Into_eq (text : Bytes) (value : UInt64) :
    parseU64Into text value = outcome (parseU64 text) value := by
  rw [parseU64Into, parseU64]
  split
  · rfl
  · cases strtoull (cString (trim text)) 0 with
    | number parsed rest => rw [outcome_conversion_number]
    | noConversion => rfl
    | outOfRange => rfl

theorem parseI64Into_eq (text : Bytes) (value : Int64) :
    parseI64Into text value = outcome (parseI64 text) value := by
  rw [parseI64Into, parseI64]
  split
  · rfl
  · cases strtoll (cString (trim text)) 0 with
    | number parsed rest => rw [outcome_conversion_number]
    | noConversion => rfl
    | outOfRange => rfl

theorem parseSizeBytesInto_eq (text : Bytes) (bytes : UInt64) :
    parseSizeBytesInto text bytes = outcome (parseSizeBytes text) bytes := by
  rw [parseSizeBytesInto, parseSizeBytes]
  split
  · rfl
  · cases strtoull (cString (trim text)) 10 with
    | number parsed rest =>
      dsimp only
      cases sizeMultiplier (lowered (trim rest)) with
      | none => rfl
      | some multiplier =>
        dsimp only [Option.bind_eq_bind, Option.bind_some]
        rw [scaled]
        split <;> rfl
    | noConversion => rfl
    | outOfRange => rfl

/-! ## Integers -/

/-- The trimmed text is a numeral of the value, perhaps with a plus sign. -/
def IsU64 (text : Bytes) (v : UInt64) : Prop :=
  ∃ sign run, trim text = sign ++ run ∧ (sign = [] ∨ sign = "+") ∧ IsNumeral run v.toNat

/-- The trimmed text is a numeral, perhaps with a sign, of an integer of this value. -/
def IsI64 (text : Bytes) (v : Int64) : Prop :=
  ∃ sign run n, trim text = sign ++ run ∧ IsNumeral run n ∧
    ((sign = [] ∨ sign = "+") ∧ v.toInt = n ∨ sign = "-" ∧ v.toInt = -n)

/-- A call returns true and stores the number that the text is, and returns false and leaves the
reference alone when the text is none. -/
def ReadsExactly {α : Type} (parse : Bytes → α → Bool × α) (IsNumber : Bytes → α → Prop)
    (text : Bytes) : Prop :=
  ∀ out, (∀ v, IsNumber text v → parse text out = (true, v)) ∧
    ((∀ v, ¬ IsNumber text v) → parse text out = (false, out))

theorem conversion_eq_some_iff {α : Type} {converted : Converted α} {v : α} :
    conversion converted = some v ↔ ∃ rest, converted = .number v rest ∧ Blank rest := by
  constructor
  · intro h
    cases converted with
    | number value rest =>
      rw [conversion] at h
      split at h
      · rename_i hrest
        exact ⟨rest, by rw [Option.some.inj h], List.all_eq_true.1 hrest⟩
      · cases h
    | noConversion => cases h
    | outOfRange => cases h
  · rintro ⟨rest, rfl, hrest⟩
    exact if_pos (List.all_eq_true.2 hrest)

/-- The text in front of the first NUL is a sign and a numeral, up to blanks. -/
theorem trim_cString_eq_iff {text sign run : Bytes} {n : ℕ} (hrun : IsNumeral run n) :
    trim (cString text) = sign ++ run ↔
      ∃ rest, Blank rest ∧ cString (trim text) = sign ++ (run ++ rest) := by
  rw [trim_cString, rdropWhile_eq_iff (hrun.getLast sign)]
  simp only [List.append_assoc]

/-- Digits, perhaps with a plus sign, pass the check for a minus sign. -/
theorem head_not_minus {sign run : Bytes} (rest : Bytes) (hsign : sign = [] ∨ sign = "+") (hne : run ≠ [])
    (hrun : ∀ c ∈ run, digitValue c ≠ none) :
    ∃ c, (sign ++ (run ++ rest)).head? = some c ∧ c ≠ 45 := by
  rcases hsign with rfl | rfl
  · obtain ⟨c, run, rfl⟩ := List.exists_cons_of_ne_nil hne
    refine ⟨c, rfl, ?_⟩
    rintro rfl
    exact hrun _ List.mem_cons_self (by decide)
  · exact ⟨43, rfl, by decide⟩

/-- `parse_u64` reads the text in front of the first NUL. -/
theorem parseU64_iff (text : Bytes) (v : UInt64) :
    parseU64 text = some v ↔ IsU64 (cString text) v := by
  have hhead := cString_trim_head text
  constructor
  · intro h
    rw [parseU64] at h
    split at h
    · cases h
    · rename_i hne
      obtain ⟨rest, hnumber, hrest⟩ := conversion_eq_some_iff.1 h
      obtain ⟨sign, negative, run, n, hsplit, hsign, hrun, hlt, rfl⟩ :=
        (strtoull_number_iff hhead hrest).1 hnumber
      have hvalue : (UInt64.ofNat n).toNat = n := UInt64.toNat_ofNat_of_lt' hlt
      cases hsign with
      | absent =>
        exact ⟨[], run, (trim_cString_eq_iff hrun).2 ⟨rest, hrest, hsplit⟩, Or.inl rfl,
          hvalue.symm ▸ hrun⟩
      | plus =>
        exact ⟨[43], run, (trim_cString_eq_iff hrun).2 ⟨rest, hrest, hsplit⟩, Or.inr rfl,
          hvalue.symm ▸ hrun⟩
      | minus => exact absurd (Or.inr (cString_head (by rw [hsplit]; rfl))) hne
  · rintro ⟨sign, run, htrim, hsign, hrun⟩
    obtain ⟨rest, hrest, hsplit⟩ := (trim_cString_eq_iff hrun).1 htrim
    obtain ⟨c, hc, hminus⟩ := head_not_minus rest hsign hrun.ne_nil hrun.digitValue_ne_none
    rw [← hsplit] at hc
    rw [parseU64, if_neg (by simp [cString_head hc, hminus]), conversion_eq_some_iff]
    refine ⟨rest, (strtoull_number_iff hhead hrest).2 ⟨sign, false, run, v.toNat, hsplit, ?_, hrun,
      v.toNat_lt, UInt64.ofNat_toNat.symm⟩, hrest⟩
    rcases hsign with rfl | rfl
    · exact .absent
    · exact .plus

/-- `parse_i64` reads the text in front of the first NUL. -/
theorem parseI64_iff (text : Bytes) (v : Int64) :
    parseI64 text = some v ↔ IsI64 (cString text) v := by
  have hhead := cString_trim_head text
  constructor
  · intro h
    rw [parseI64] at h
    split at h
    · cases h
    · obtain ⟨rest, hnumber, hrest⟩ := conversion_eq_some_iff.1 h
      obtain ⟨sign, negative, run, n, hsplit, hsign, hrun, hv⟩ :=
        (strtoll_number_iff hhead hrest).1 hnumber
      refine ⟨sign, run, n, (trim_cString_eq_iff hrun).2 ⟨rest, hrest, hsplit⟩, hrun, ?_⟩
      cases hsign with
      | absent => exact Or.inl ⟨Or.inl rfl, hv⟩
      | plus => exact Or.inl ⟨Or.inr rfl, hv⟩
      | minus => exact Or.inr ⟨rfl, hv⟩
  · rintro ⟨sign, run, n, htrim, hrun, hsign⟩
    obtain ⟨rest, hrest, hsplit⟩ := (trim_cString_eq_iff hrun).1 htrim
    have hne : trim text ≠ [] := by
      intro hnil
      rw [hnil] at hsplit
      have hrun' := (List.append_eq_nil_iff.1 (List.append_eq_nil_iff.1 hsplit.symm).2).1
      exact hrun.ne_nil hrun'
    rw [parseI64, if_neg hne, conversion_eq_some_iff]
    refine ⟨rest, (strtoll_number_iff hhead hrest).2 ?_, hrest⟩
    rcases hsign with ⟨rfl | rfl, hv⟩ | ⟨rfl, hv⟩
    · exact ⟨[], false, run, n, hsplit, .absent, hrun, hv⟩
    · exact ⟨_, false, run, n, hsplit, .plus, hrun, hv⟩
    · exact ⟨_, true, run, n, hsplit, .minus, hrun, hv⟩

/-- A number has no NUL. -/
theorem IsU64.notMem_of_noDigit {text : Bytes} {v : UInt64} (h : IsU64 text v) {c : UInt8}
    (hdigit : digitValue c = none) (hspace : isSpace c = false) (hplus : c ≠ 43) : c ∉ text := by
  obtain ⟨sign, run, htrim, hsign, hrun⟩ := h
  apply notMem_of_notMem_trim hspace
  rw [htrim, List.mem_append, not_or]
  refine ⟨?_, hrun.notMem hdigit⟩
  rcases hsign with rfl | rfl
  · exact List.not_mem_nil
  · exact fun hmem => hplus (List.mem_singleton.mp hmem)

theorem IsU64.notMem {text : Bytes} {v : UInt64} (h : IsU64 text v) : 0 ∉ text :=
  h.notMem_of_noDigit (by decide) (by decide) (by decide)

/-- A text without a NUL is read exactly as the numeral that it is. -/
theorem parseU64_iff_isU64 {text : Bytes} (h : 0 ∉ text) (v : UInt64) :
    parseU64 text = some v ↔ IsU64 text v := by
  rw [parseU64_iff, cString_eq_self h]

theorem parseU64_of_isU64 {text : Bytes} {v : UInt64} (h : IsU64 text v) : parseU64 text = some v :=
  (parseU64_iff_isU64 h.notMem v).2 h

theorem IsI64.notMem {text : Bytes} {v : Int64} (h : IsI64 text v) : 0 ∉ text := by
  obtain ⟨sign, run, n, htrim, hrun, hsign⟩ := h
  apply notMem_of_notMem_trim (by decide)
  rw [htrim, List.mem_append, not_or]
  refine ⟨?_, hrun.notMem (by decide)⟩
  rcases hsign with ⟨rfl | rfl, -⟩ | ⟨rfl, -⟩ <;> decide

/-- A parser is exact on a text when its result is the number that the text is. -/
theorem readsExactly_of_iff {α : Type} {parse : Bytes → α → Bool × α} {result : Bytes → Option α}
    {IsNumber : Bytes → α → Prop} {text : Bytes}
    (hparse : ∀ out, parse text out = outcome (result text) out)
    (hresult : ∀ v, result text = some v ↔ IsNumber text v) : ReadsExactly parse IsNumber text := by
  intro out
  rw [hparse]
  constructor
  · intro v hv
    rw [(hresult v).2 hv]
    rfl
  · intro hnone
    have hresult' : result text = none :=
      Option.eq_none_iff_forall_not_mem.2 fun v hv => hnone v ((hresult v).1 hv)
    rw [hresult']
    rfl

/-- A parser that reads the text in front of the first NUL is exact where that is no number. -/
theorem readsExactly_iff {α : Type} {parse : Bytes → α → Bool × α} {result : Bytes → Option α}
    {IsNumber : Bytes → α → Prop} (hparse : ∀ text out, parse text out = outcome (result text) out)
    (hresult : ∀ text v, result text = some v ↔ IsNumber (cString text) v)
    (hnul : ∀ text v, IsNumber text v → 0 ∉ text) (text : Bytes) :
    ReadsExactly parse IsNumber text ↔ (0 ∈ text → ∀ v, ¬ IsNumber (cString text) v) := by
  constructor
  · intro h hmem v hv
    have hfalse := (h v).2 fun w hw => hnul text w hw hmem
    rw [hparse, (hresult text v).2 hv] at hfalse
    cases hfalse
  · intro h
    apply readsExactly_of_iff (hparse text)
    intro v
    rw [hresult]
    by_cases hmem : 0 ∈ text
    · exact iff_of_false (h hmem v) fun hv => hnul text v hv hmem
    · rw [cString_eq_self hmem]

/-- The integer parsers are exact on the texts without a NUL, and on those with one in front of which
no number stands. -/
theorem integers_exact_iff (text : Bytes) :
    (ReadsExactly parseU64Into IsU64 text ↔ (0 ∈ text → ∀ v, ¬ IsU64 (cString text) v)) ∧
      (ReadsExactly parseI64Into IsI64 text ↔ (0 ∈ text → ∀ v, ¬ IsI64 (cString text) v)) :=
  ⟨readsExactly_iff parseU64Into_eq parseU64_iff (fun _ _ h => h.notMem) text,
    readsExactly_iff parseI64Into_eq parseI64_iff (fun _ _ h => h.notMem) text⟩

/-- The digit 5, a NUL and a letter are read as 5. -/
theorem integers_exact_nul :
    ¬ ReadsExactly parseU64Into IsU64 [53, 0, 120] ∧ ¬ ReadsExactly parseI64Into IsI64 [53, 0, 120] := by
  constructor
  · intro h
    have hread := (h 0).2 fun v hv => hv.notMem (by decide)
    rw [show parseU64Into [53, 0, 120] 0 = (true, 5) by decide] at hread
    cases hread
  · intro h
    have hread := (h 0).2 fun v hv => hv.notMem (by decide)
    rw [show parseI64Into [53, 0, 120] 0 = (true, 5) by decide] at hread
    cases hread

/-! ## Sizes -/

/-- The size suffixes in lower case, with the powers of 1024 they stand for. -/
def sizeSuffixes : List (Bytes × ℕ) :=
  [("", 0), ("b", 0), ("k", 1), ("kb", 1), ("kib", 1), ("m", 2), ("mb", 2), ("mib", 2), ("g", 3),
    ("gb", 3), ("gib", 3)]

/-- The trimmed text is a decimal number below `2 ^ 64` and a suffix, and `v` is the product. -/
def IsSize (text : Bytes) (v : UInt64) : Prop :=
  ∃ sign run gap suffix n power, trim text = sign ++ (run ++ (gap ++ suffix)) ∧
    (sign = [] ∨ sign = "+") ∧ run ≠ [] ∧ Denotes 10 run n ∧ n < 2 ^ 64 ∧ Blank gap ∧
    (lowered suffix, power) ∈ sizeSuffixes ∧ v.toNat = n * 1024 ^ power

theorem sizeMultiplier_eq_some_iff {suffix : Bytes} {m : UInt64} :
    sizeMultiplier suffix = some m ↔
      ∃ power, (suffix, power) ∈ sizeSuffixes ∧ m.toNat = 1024 ^ power := by
  constructor
  · intro h
    rw [sizeMultiplier] at h
    split at h
    · obtain rfl := Option.some.inj h
      rename_i hk
      exact ⟨1, by rcases hk with rfl | rfl | rfl <;> decide, by decide⟩
    · split at h
      · obtain rfl := Option.some.inj h
        rename_i hm
        exact ⟨2, by rcases hm with rfl | rfl | rfl <;> decide, by decide⟩
      · split at h
        · obtain rfl := Option.some.inj h
          rename_i hg
          exact ⟨3, by rcases hg with rfl | rfl | rfl <;> decide, by decide⟩
        · split at h
          · cases h
          · obtain rfl := Option.some.inj h
            rename_i hb
            by_cases hnil : suffix = []
            · exact ⟨0, by rw [hnil]; decide, by decide⟩
            · exact ⟨0, by rw [not_not.1 fun hne => hb ⟨hnil, hne⟩]; decide, by decide⟩
  · rintro ⟨power, hmem, hm⟩
    have hvalue : ∀ entry ∈ sizeSuffixes,
        sizeMultiplier entry.1 = some (UInt64.ofNat (1024 ^ entry.2)) := by decide
    rw [hvalue _ hmem, ← hm, UInt64.ofNat_toNat]

theorem u64Max_toNat : u64Max.toNat = 2 ^ 64 - 1 := by decide

/-- A scaled number is the product, if that fits. -/
theorem scaled_eq_some_iff {n m v : UInt64} (hm : m ≠ 0) :
    scaled n m = some v ↔ v.toNat = n.toNat * m.toNat := by
  have hpos : 0 < m.toNat := Nat.pos_of_ne_zero fun h => hm (UInt64.toNat_inj.1 h)
  have hguard : n > u64Max / m ↔ 2 ^ 64 ≤ n.toNat * m.toNat := by
    rw [gt_iff_lt, UInt64.lt_iff_toNat_lt, UInt64.toNat_div, u64Max_toNat,
      Nat.div_lt_iff_lt_mul hpos]
    omega
  rw [scaled]
  by_cases hbig : 2 ^ 64 ≤ n.toNat * m.toNat
  · rw [if_pos ⟨hm, hguard.2 hbig⟩]
    refine iff_of_false nofun fun h => ?_
    have hlt := v.toNat_lt
    omega
  · rw [if_neg fun h => hbig (hguard.1 h.2), Option.some.injEq, ← UInt64.toNat_inj,
      UInt64.toNat_mul, Nat.mod_eq_of_lt (Nat.not_le.1 hbig)]
    exact eq_comm

/-- A size suffix has no blank and begins with no digit. -/
theorem suffix_bytes {suffix : Bytes} {power : ℕ} (h : (lowered suffix, power) ∈ sizeSuffixes) :
    ∀ c ∈ suffix, isSpace c = false ∧ ∀ d ∈ digitValue c, 10 ≤ d := by
  have htable : ∀ entry ∈ sizeSuffixes, ∀ c ∈ entry.1,
      isSpace c = false ∧ ∀ d ∈ digitValue c, 10 ≤ d := by decide
  have hlower : ∀ c, isSpace (toLower c) = isSpace c ∧ digitValue (toLower c) = digitValue c :=
    forall_byte (by decide +kernel)
  intro c hc
  have hbyte := htable _ h (toLower c) (List.mem_map_of_mem hc)
  rwa [(hlower c).1, (hlower c).2] at hbyte

theorem endsDigits_suffix {gap suffix : Bytes} {power : ℕ} (hgap : Blank gap)
    (h : (lowered suffix, power) ∈ sizeSuffixes) : EndsDigits 10 (gap ++ suffix) := by
  cases gap with
  | nil => exact fun c hc => (suffix_bytes h c (List.mem_of_mem_head? hc)).2
  | cons c gap =>
    have hc := endsDigits_of_blank 10 hgap
    exact hc

/-- What follows the number in a trimmed text ends in its trimmed part. -/
theorem exists_gap {s rest : Bytes} (h : Trimmed (s ++ rest)) :
    ∃ gap, Blank gap ∧ rest = gap ++ trim rest := by
  obtain ⟨a, b, ha, hb, hrest⟩ := exists_trim rest
  cases b using List.reverseRecOn with
  | nil => exact ⟨a, ha, by rwa [List.append_nil] at hrest⟩
  | append_singleton b c =>
    have hlast : (s ++ rest).getLast? = some c := by
      rw [hrest, ← List.append_assoc, ← List.append_assoc, ← List.append_assoc, List.getLast?_concat]
    have hc := h.2 c hlast
    rw [hb c (List.mem_append_right _ (List.mem_singleton_self c))] at hc
    cases hc

theorem parseSizeBytes_iff {text : Bytes} (htext : 0 ∉ text) (v : UInt64) :
    parseSizeBytes text = some v ↔ IsSize text v := by
  have hcut : cString (trim text) = trim text :=
    cString_eq_self fun hmem => htext (mem_of_mem_trim hmem)
  have hhead := (trimmed_trim text).1
  rw [parseSizeBytes, hcut]
  constructor
  · intro h
    split at h
    · cases h
    · rename_i hne
      split at h
      · rename_i parsed rest hnumber
        obtain ⟨multiplier, hmultiplier, hscaled⟩ := Option.bind_eq_some_iff.1 h
        obtain ⟨sign, negative, run, n, hsplit, hsign, hrun, hn, -, hlt, rfl⟩ :=
          (strtoull_ten_iff hhead).1 hnumber
        obtain ⟨power, hpower, hvalue⟩ := sizeMultiplier_eq_some_iff.1 hmultiplier
        have hpos : multiplier ≠ 0 := by
          rintro rfl
          exact absurd hvalue.symm (Nat.pow_pos (by decide)).ne'
        rw [scaled_eq_some_iff hpos, hvalue] at hscaled
        obtain ⟨gap, hgap, hrest⟩ : ∃ gap, Blank gap ∧ rest = gap ++ trim rest := by
          apply exists_gap (s := sign ++ run)
          rw [List.append_assoc, ← hsplit]
          exact trimmed_trim text
        have hsplit' : trim text = sign ++ (run ++ (gap ++ trim rest)) := by rw [← hrest, hsplit]
        have hparsed : (UInt64.ofNat n).toNat = n := UInt64.toNat_ofNat_of_lt' hlt
        cases hsign with
        | absent =>
          rw [if_neg Bool.false_ne_true, hparsed] at hscaled
          exact ⟨[], run, gap, trim rest, n, power, hsplit', Or.inl rfl, hrun, hn, hlt, hgap, hpower,
            hscaled⟩
        | plus =>
          rw [if_neg Bool.false_ne_true, hparsed] at hscaled
          exact ⟨[43], run, gap, trim rest, n, power, hsplit', Or.inr rfl, hrun, hn, hlt, hgap, hpower,
            hscaled⟩
        | minus => exact absurd (Or.inr (by rw [hsplit]; rfl)) hne
      · cases h
  · rintro ⟨sign, run, gap, suffix, n, power, hsplit, hsign, hrun, hn, hlt, hgap, hpower, hv⟩
    have hpowers : ∀ entry ∈ sizeSuffixes, UInt64.ofNat (1024 ^ entry.2) ≠ 0 ∧
        (UInt64.ofNat (1024 ^ entry.2)).toNat = 1024 ^ entry.2 := by decide
    obtain ⟨hpos, hvalue⟩ := hpowers _ hpower
    have hmultiplier := sizeMultiplier_eq_some_iff.2 ⟨power, hpower, hvalue⟩
    have htrim : trim (gap ++ suffix) = suffix := by
      have hpadded := trim_padded suffix hgap blank_nil
      rw [List.append_nil] at hpadded
      rw [hpadded, trim_of_blankFree fun c hc => (suffix_bytes hpower c hc).1]
    have hnumber : strtoull (trim text) 10 = .number (UInt64.ofNat n) (gap ++ suffix) := by
      refine (strtoull_ten_iff hhead).2 ⟨sign, false, run, n, hsplit, ?_, hrun, hn,
        endsDigits_suffix hgap hpower, hlt, rfl⟩
      rcases hsign with rfl | rfl
      · exact .absent
      · exact .plus
    obtain ⟨c, hc, hminus⟩ :=
      head_not_minus (gap ++ suffix) hsign hrun hn.digitValue_ne_none
    rw [← hsplit] at hc
    rw [if_neg (by simp [hc, hminus]), hnumber]
    dsimp only
    rw [htrim, hmultiplier]
    refine Option.bind_eq_some_iff.2 ⟨_, rfl, ?_⟩
    rw [scaled_eq_some_iff hpos, hvalue, UInt64.toNat_ofNat_of_lt' hlt, hv]

/-- A number read from a file is scaled, or refused when the product does not fit. -/
theorem run_readU64Field_scaled (env : Env) {path line : Bytes} {multiplier n : UInt64}
    (hm : multiplier ≠ 0) (hline : env.line path = some line) (hn : parseU64 line = some n) :
    (∀ v : UInt64, v.toNat = n.toNat * multiplier.toNat →
        (readU64Field path multiplier).run env = .ofValue v) ∧
      (2 ^ 64 ≤ n.toNat * multiplier.toNat →
        (readU64Field path multiplier).run env = .unavailable .parseError) := by
  have hread : (readU64Field path multiplier).run env =
      (scaled n multiplier).elim (.unavailable .parseError) .ofValue := by
    rw [readU64Field, run_readParsed, hline]
    dsimp only
    rw [hn, Option.bind_eq_bind, Option.bind_some]
    cases scaled n multiplier <;> rfl
  rw [hread]
  constructor
  · intro v hv
    rw [(scaled_eq_some_iff hm).2 hv, Option.elim_some]
  · intro hbig
    have hnone : scaled n multiplier = none := by
      apply Option.eq_none_iff_forall_not_mem.2
      intro v hv
      have hvalue := (scaled_eq_some_iff hm).1 hv
      have hlt := v.toNat_lt
      omega
    rw [hnone, Option.elim_none]

/-- A size is the exact product or refused, and so is a number read with a multiplier. -/
theorem sizes_exact :
    (∀ text, 0 ∉ text → ReadsExactly parseSizeBytesInto IsSize text) ∧
      ∀ (env : Env) (path line : Bytes) (multiplier n : UInt64), 1 ≤ multiplier →
        env.line path = some line → parseU64 line = some n →
        (∀ v : UInt64, v.toNat = n.toNat * multiplier.toNat →
            (readU64Field path multiplier).run env = .ofValue v) ∧
          (2 ^ 64 ≤ n.toNat * multiplier.toNat →
            (readU64Field path multiplier).run env = .unavailable .parseError) := by
  constructor
  · intro text htext
    exact readsExactly_of_iff (parseSizeBytesInto_eq text) (parseSizeBytes_iff htext)
  · intro env path line multiplier n hm hline hn
    refine run_readU64Field_scaled env ?_ hline hn
    rintro rfl
    exact absurd hm (by decide)

theorem sizes_exact_sectors :
    ReadsExactly parseSizeBytesInto IsSize " 48 KiB\n" ∧
      (readU64Field "size" 512).run (Env.ofFiles [("size", { content := bytes "976773168\n" })]) =
        .ofValue 500107862016 :=
  ⟨sizes_exact.1 _ (by decide),
    (sizes_exact.2 _ "size" "976773168" 512 976773168 (by decide) (by decide) (by decide)).1 _
      (by decide)⟩

end Archspec
