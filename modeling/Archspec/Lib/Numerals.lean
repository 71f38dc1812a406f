import Mathlib.Data.Nat.Digits.Defs
import Archspec.Lib.Lines

/-!
# C integer numerals

`IsNumeral s n` says that the whole of `s` is a numeral of the value `n`: `0x` with hexadecimal
digits, `0` with octal digits, or decimal digits.  The scanners `takeDigits`, `digits` and `numeral`
of the conversions find exactly the digits and numerals in front (`digits_eq_some_iff`,
`numeral_zero_iff`, `numeral_ten_iff`), and a conversion that leaves only blanks has read a signed
numeral (`signed_numeral_iff`).
-/

namespace Lib

/-! ## Digits -/

/-- The bytes are digits of the base and `n` is their value. -/
def Denotes (base : ℕ) (s : Bytes) (n : ℕ) : Prop :=
  ∃ ds : List ℕ, s.map digitValue = ds.map some ∧ (∀ d ∈ ds, d < base) ∧
    n = Nat.ofDigits base ds.reverse

/-- The text does not go on with a digit of the base. -/
def EndsDigits (base : ℕ) (s : Bytes) : Prop := ∀ c ∈ s.head?, ∀ d ∈ digitValue c, base ≤ d

/-- The scan goes over the digits in front. -/
theorem takeDigits_append {base : ℕ} {run rest : Bytes} {ds : List ℕ} (acc : ℕ)
    (hrun : run.map digitValue = ds.map some) (hds : ∀ d ∈ ds, d < base)
    (hrest : EndsDigits base rest) :
    takeDigits base acc (run ++ rest) =
      (acc * base ^ ds.length + Nat.ofDigits base ds.reverse, rest) := by
  induction run generalizing acc ds with
  | nil =>
    obtain rfl : ds = [] := by simpa using hrun.symm
    simpa using takeDigits_of_ends acc hrest
  | cons c run ih =>
    cases ds with
    | nil => cases hrun
    | cons d ds =>
      obtain ⟨hc, hrun⟩ := List.cons.inj hrun
      obtain ⟨hd, hds⟩ := List.forall_mem_cons.1 hds
      rw [List.cons_append, takeDigits, hc]
      dsimp only
      rw [if_pos hd, ih _ hrun hds, Nat.ofDigits_reverse_cons, List.length_cons, pow_succ]
      congr 1
      ring

/-- Every text is a run of digits and a text that does not go on with one. -/
theorem exists_run (base : ℕ) (s : Bytes) :
    ∃ (run rest : Bytes) (ds : List ℕ), s = run ++ rest ∧ run.map digitValue = ds.map some ∧ (∀ d ∈ ds, d < base) ∧
      EndsDigits base rest := by
  induction s with
  | nil => exact ⟨[], [], [], rfl, rfl, by simp, nofun⟩
  | cons c s ih =>
    by_cases hc : ∃ d, digitValue c = some d ∧ d < base
    · obtain ⟨d, hd, hlt⟩ := hc
      obtain ⟨run, rest, ds, rfl, hrun, hds, hrest⟩ := ih
      exact ⟨c :: run, rest, d :: ds, rfl, by rw [List.map_cons, hd, hrun, List.map_cons],
        List.forall_mem_cons.2 ⟨hlt, hds⟩, hrest⟩
    · refine ⟨[], c :: s, [], rfl, rfl, by simp, ?_⟩
      rintro _ ⟨⟩ d hd
      exact Nat.not_lt.1 fun hlt => hc ⟨d, hd, hlt⟩

/-- `digits` reads the longest run of digits, which must not be empty. -/
theorem digits_eq_some_iff {base n : ℕ} {s rest : Bytes} :
    digits base s = some (n, rest) ↔
      ∃ run, s = run ++ rest ∧ run ≠ [] ∧ Denotes base run n ∧ EndsDigits base rest := by
  have key : ∀ {run rest : Bytes} {ds : List ℕ}, run.map digitValue = ds.map some →
      (∀ d ∈ ds, d < base) → EndsDigits base rest → digits base (run ++ rest) =
        if run = [] then none else some (Nat.ofDigits base ds.reverse, rest) := by
    intro run rest ds hrun hds hrest
    rw [digits, takeDigits_append 0 hrun hds hrest, Nat.zero_mul, Nat.zero_add]
    cases run with
    | nil => exact if_neg (Nat.lt_irrefl _)
    | cons c run => exact if_pos (by simp only [List.length_append, List.length_cons]; omega)
  constructor
  · intro h
    obtain ⟨run, rest', ds, rfl, hrun, hds, hrest⟩ := exists_run base s
    rw [key hrun hds hrest] at h
    split at h
    · cases h
    · obtain ⟨rfl, rfl⟩ := Prod.mk.inj (Option.some.inj h)
      exact ⟨run, rfl, ‹_›, ⟨ds, hrun, hds, rfl⟩, hrest⟩
  · rintro ⟨run, rfl, hne, ⟨ds, hrun, hds, rfl⟩, hrest⟩
    rw [key hrun hds hrest, if_neg hne]

/-! ## Numerals -/

/-- The whole of `s` is a numeral of the value `n`. -/
inductive IsNumeral : Bytes → ℕ → Prop where
  | hexadecimal {x : UInt8} {s : Bytes} {n : ℕ} (hx : x = 120 ∨ x = 88) (hne : s ≠ [])
      (hs : Denotes 16 s n) : IsNumeral (48 :: x :: s) n
  | octal {s : Bytes} {n : ℕ} (hs : Denotes 8 s n) : IsNumeral (48 :: s) n
  | decimal {c : UInt8} {s : Bytes} {n : ℕ} (hc : c ≠ 48) (hs : Denotes 10 (c :: s) n) :
      IsNumeral (c :: s) n

theorem toLower_eq_x_iff {x : UInt8} : toLower x = 120 ↔ x = 120 ∨ x = 88 := by
  apply forall_byte (p := fun x => toLower x = 120 ↔ x = 120 ∨ x = 88)
  decide +kernel

theorem Denotes.digit {base n : ℕ} {c : UInt8} {s : Bytes} (h : Denotes base (c :: s) n) :
    ∃ d, digitValue c = some d ∧ d < base := by
  obtain ⟨_ | ⟨d, ds⟩, hmap, hds, -⟩ := h
  · cases hmap
  · exact ⟨d, (List.cons.inj hmap).1, hds d List.mem_cons_self⟩

/-- A zero in front does not count. -/
theorem denotes_zero_cons {base n : ℕ} {s : Bytes} (hbase : 0 < base) :
    Denotes base (48 :: s) n ↔ Denotes base s n := by
  have hzero : digitValue 48 = some 0 := by decide
  constructor
  · rintro ⟨_ | ⟨d, ds⟩, hmap, hds, rfl⟩
    · cases hmap
    · obtain ⟨hd, htail⟩ := List.cons.inj hmap
      obtain rfl : 0 = d := Option.some.inj (hzero.symm.trans hd)
      exact ⟨ds, htail, (List.forall_mem_cons.1 hds).2, Nat.ofDigits_reverse_zero_cons ds⟩
  · rintro ⟨ds, hmap, hds, rfl⟩
    exact ⟨0 :: ds, by rw [List.map_cons, hzero, hmap, List.map_cons],
      List.forall_mem_cons.2 ⟨hbase, hds⟩, (Nat.ofDigits_reverse_zero_cons ds).symm⟩

theorem endsDigits_of_blank (base : ℕ) {s : Bytes} (h : Blank s) : EndsDigits base s := by
  have hspace : ∀ c, isSpace c = true → digitValue c = none := forall_byte (by decide +kernel)
  rintro c hc d hd
  rw [hspace c (h c (List.mem_of_mem_head? hc))] at hd
  cases hd

/-! ## The scanners -/

/-- In base 10 there is no prefix. -/
theorem numeral_ten (s : Bytes) : numeral 10 s = digits 10 s := by
  unfold numeral
  split
  · rw [if_neg (by simp), if_neg (by decide)]
  · rw [if_neg (by decide)]
  · rw [if_neg (by decide)]

theorem numeral_zero_cons (x : UInt8) (s : Bytes) :
    numeral 0 (48 :: x :: s) =
      if toLower x = 120 ∧ (digits 16 s).isSome then digits 16 s else digits 8 (48 :: x :: s) := by
  rw [numeral]
  simp only [true_or, true_and, if_true]

theorem numeral_zero_of_ne {s : Bytes} (h : s.head? ≠ some 48) : numeral 0 s = digits 10 s := by
  unfold numeral
  split
  · exact absurd rfl h
  · exact absurd rfl h
  · rw [if_pos rfl]

/-- A run of octal digits with a zero in front is a numeral. -/
theorem isNumeral_of_digits {s rest : Bytes} {n : ℕ} (h : digits 8 (48 :: s) = some (n, rest)) :
    ∃ run, 48 :: s = run ++ rest ∧ IsNumeral run n := by
  obtain ⟨run, heq, hne, hrun, -⟩ := digits_eq_some_iff.1 h
  obtain ⟨c, run, rfl⟩ := List.exists_cons_of_ne_nil hne
  obtain ⟨rfl, -⟩ := List.cons.inj heq
  exact ⟨_, heq, .octal ((denotes_zero_cons (by decide)).1 hrun)⟩

/-- What `numeral` reads in base 0 is a numeral. -/
theorem isNumeral_of_numeral {s rest : Bytes} {n : ℕ} (h : numeral 0 s = some (n, rest)) :
    ∃ run, s = run ++ rest ∧ IsNumeral run n := by
  by_cases hhead : s.head? = some 48
  · obtain ⟨s, rfl⟩ := List.head?_eq_some_iff.1 hhead
    cases s with
    | nil => exact isNumeral_of_digits h
    | cons x s =>
      rw [numeral_zero_cons] at h
      split at h
      · obtain ⟨run, rfl, hne, hrun, -⟩ := digits_eq_some_iff.1 h
        exact ⟨48 :: x :: run, rfl, .hexadecimal (toLower_eq_x_iff.1 (‹_ ∧ _›).1) hne hrun⟩
      · exact isNumeral_of_digits h
  · rw [numeral_zero_of_ne hhead] at h
    obtain ⟨run, rfl, hne, hrun, -⟩ := digits_eq_some_iff.1 h
    obtain ⟨c, run, rfl⟩ := List.exists_cons_of_ne_nil hne
    exact ⟨c :: run, rfl, .decimal (fun hc => hhead (hc ▸ rfl)) hrun⟩

/-- A numeral in front of blanks is what `numeral` reads in base 0. -/
theorem numeral_of_isNumeral {run rest : Bytes} {n : ℕ} (h : IsNumeral run n) (hrest : Blank rest) :
    numeral 0 (run ++ rest) = some (n, rest) := by
  cases h with
  | @hexadecimal x s _ hx hne hs =>
    have hdigits : digits 16 (s ++ rest) = some (n, rest) :=
      digits_eq_some_iff.2 ⟨s, rfl, hne, hs, endsDigits_of_blank 16 hrest⟩
    rw [List.cons_append, List.cons_append, numeral_zero_cons, hdigits]
    exact if_pos ⟨toLower_eq_x_iff.2 hx, rfl⟩
  | @octal s _ hs =>
    have hdigits : digits 8 (48 :: (s ++ rest)) = some (n, rest) :=
      digits_eq_some_iff.2 ⟨48 :: s, rfl, List.cons_ne_nil _ _,
        (denotes_zero_cons (by decide)).2 hs, endsDigits_of_blank 8 hrest⟩
    rw [List.cons_append]
    cases hsr : s ++ rest with
    | nil => rwa [hsr] at hdigits
    | cons y t =>
      -- what follows the zero is an octal digit or a blank
      have hy : toLower y ≠ 120 := by
        have hvalue : ∀ c : UInt8, isSpace c = true ∨ (∃ d ∈ digitValue c, d < 8) →
            toLower c ≠ 120 := forall_byte (by decide +kernel)
        apply hvalue
        cases s with
        | nil =>
          rw [List.nil_append] at hsr
          exact Or.inl (hrest y (hsr ▸ List.mem_cons_self))
        | cons c s =>
          obtain ⟨rfl, -⟩ := List.cons.inj hsr
          exact Or.inr hs.digit
      rw [numeral_zero_cons, if_neg fun h => hy h.1, ← hsr]
      exact hdigits
  | @decimal c s _ hc hs =>
    have hhead : (c :: s ++ rest).head? ≠ some 48 := fun hhead => hc (Option.some.inj hhead)
    rw [numeral_zero_of_ne hhead]
    exact digits_eq_some_iff.2 ⟨c :: s, rfl, List.cons_ne_nil _ _, hs, endsDigits_of_blank 10 hrest⟩

/-! ## Signs -/

/-- A sign that may stand in front of a numeral, and whether it is a minus. -/
inductive IsSign : Bytes → Bool → Prop where
  | absent : IsSign [] false
  | plus : IsSign [43] false
  | minus : IsSign [45] true

theorem exists_sign (s : Bytes) : ∃ sign, s = sign ++ (signed s).2 ∧ IsSign sign (signed s).1 := by
  cases s with
  | nil => exact ⟨[], rfl, .absent⟩
  | cons c s =>
    rw [signed]
    split
    · rename_i hc
      exact ⟨[45], by rw [hc]; rfl, .minus⟩
    · split
      · rename_i hc
        exact ⟨[43], by rw [hc]; rfl, .plus⟩
      · exact ⟨[], rfl, .absent⟩

/-- A sign is told from a text that goes on with a digit. -/
theorem signed_append {sign s : Bytes} {negative : Bool} (hsign : IsSign sign negative)
    (hs : ∀ c ∈ s.head?, digitValue c ≠ none) : signed (sign ++ s) = (negative, s) := by
  cases hsign with
  | plus => rfl
  | minus => rfl
  | absent =>
    cases s with
    | nil => rfl
    | cons c s =>
      have hnone : digitValue 45 = none ∧ digitValue 43 = none := by decide
      rw [List.nil_append, signed, if_neg, if_neg]
      · rintro rfl
        exact hs _ rfl hnone.2
      · rintro rfl
        exact hs _ rfl hnone.1

theorem IsNumeral.head {run : Bytes} {n : ℕ} (h : IsNumeral run n) :
    ∃ c s d, run = c :: s ∧ digitValue c = some d ∧ d < 10 := by
  cases h with
  | @hexadecimal x s => exact ⟨48, x :: s, 0, rfl, by decide, by decide⟩
  | @octal s => exact ⟨48, s, 0, rfl, by decide, by decide⟩
  | @decimal c s _ _ hs =>
    obtain ⟨d, hd, hlt⟩ := hs.digit
    exact ⟨c, s, d, rfl, hd, hlt⟩

/-- A sign and a numeral in front of blanks are read as such, and nothing else is. -/
theorem signed_numeral_iff {s rest : Bytes} {negative : Bool} {n : ℕ} (hrest : Blank rest) :
    ((signed s).1 = negative ∧ numeral 0 (signed s).2 = some (n, rest)) ↔
      ∃ sign run, s = sign ++ (run ++ rest) ∧ IsSign sign negative ∧ IsNumeral run n := by
  constructor
  · rintro ⟨rfl, h⟩
    obtain ⟨sign, hs, hsign⟩ := exists_sign s
    obtain ⟨run, hrun, hnumeral⟩ := isNumeral_of_numeral h
    exact ⟨sign, run, by rw [← hrun, ← hs], hsign, hnumeral⟩
  · rintro ⟨sign, run, rfl, hsign, hnumeral⟩
    obtain ⟨c, t, d, rfl, hd, -⟩ := hnumeral.head
    rw [signed_append hsign]
    · exact ⟨rfl, numeral_of_isNumeral hnumeral hrest⟩
    · rintro _ ⟨⟩
      rw [hd]
      exact Option.some_ne_none d

/-! ## What a numeral is made of -/

theorem Denotes.digitValue_ne_none {base n : ℕ} {s : Bytes} (h : Denotes base s n) :
    ∀ c ∈ s, digitValue c ≠ none := by
  obtain ⟨ds, hmap, -, -⟩ := h
  intro c hc hnone
  have hmem : none ∈ ds.map some := by
    rw [← hmap, ← hnone]
    exact List.mem_map_of_mem hc
  obtain ⟨d, -, hd⟩ := List.mem_map.1 hmem
  cases hd

/-- Every byte of a numeral is a digit or a letter. -/
theorem IsNumeral.digitValue_ne_none {run : Bytes} {n : ℕ} (h : IsNumeral run n) :
    ∀ c ∈ run, digitValue c ≠ none := by
  have hzero : digitValue 48 ≠ none := by decide
  cases h with
  | hexadecimal hx _ hs =>
    have hvalue : ∀ x, x = 120 ∨ x = 88 → digitValue x ≠ none := forall_byte (by decide +kernel)
    exact List.forall_mem_cons.2
      ⟨hzero, List.forall_mem_cons.2 ⟨hvalue _ hx, hs.digitValue_ne_none⟩⟩
  | octal hs => exact List.forall_mem_cons.2 ⟨hzero, hs.digitValue_ne_none⟩
  | decimal _ hs => exact hs.digitValue_ne_none

/-- A numeral has none of the bytes that have no digit value. -/
theorem IsNumeral.notMem {run : Bytes} {n : ℕ} (h : IsNumeral run n) {c : UInt8}
    (hc : digitValue c = none) : c ∉ run :=
  fun hmem => h.digitValue_ne_none c hmem hc

theorem isSpace_of_digitValue {c : UInt8} (h : digitValue c ≠ none) : isSpace c = false := by
  have hvalue : ∀ c, digitValue c ≠ none → isSpace c = false := forall_byte (by decide +kernel)
  exact hvalue c h

theorem IsNumeral.ne_nil {run : Bytes} {n : ℕ} (h : IsNumeral run n) : run ≠ [] := by
  cases h <;> exact List.cons_ne_nil _ _

/-- No blank ends a numeral. -/
theorem IsNumeral.getLast {run : Bytes} {n : ℕ} (h : IsNumeral run n) (sign : Bytes) :
    ∀ c ∈ (sign ++ run).getLast?, isSpace c = false := by
  intro c hc
  rw [List.getLast?_append, List.getLast?_eq_some_getLast h.ne_nil, Option.some_or] at hc
  obtain rfl := Option.some.inj hc
  exact isSpace_of_digitValue (h.digitValue_ne_none _ (List.getLast_mem h.ne_nil))

/-! ## Conversions -/

/-- The integer of a numeral with a sign. -/
def signedValue (negative : Bool) (n : ℕ) : ℤ := if negative then -n else n

/-- `strtoull` stops before blanks exactly behind a signed numeral below `2 ^ 64`. -/
theorem strtoull_number_iff {s rest : Bytes} {v : UInt64} (hs : ∀ c ∈ s.head?, isSpace c = false)
    (hrest : Blank rest) :
    strtoull s 0 = .number v rest ↔
      ∃ sign negative run n, s = sign ++ (run ++ rest) ∧ IsSign sign negative ∧ IsNumeral run n ∧
        n < 2 ^ 64 ∧ v = if negative then -UInt64.ofNat n else UInt64.ofNat n := by
  rw [strtoull, dropWhile_eq_self hs]
  dsimp only
  constructor
  · intro h
    split at h
    · cases h
    · rename_i n rest' hnumeral
      split at h
      · cases h
      · obtain ⟨hv, rfl⟩ := Converted.number.inj h
        obtain ⟨sign, run, hsplit, hsign, hrun⟩ := (signed_numeral_iff hrest).1 ⟨rfl, hnumeral⟩
        exact ⟨sign, _, run, n, hsplit, hsign, hrun, Nat.not_le.1 ‹_›, hv.symm⟩
  · rintro ⟨sign, negative, run, n, hsplit, hsign, hrun, hlt, rfl⟩
    obtain ⟨hnegative, hnumeral⟩ := (signed_numeral_iff hrest).2 ⟨sign, run, hsplit, hsign, hrun⟩
    rw [hnumeral, hnegative]
    exact if_neg (Nat.not_le.2 hlt)

/-- In base 10 `strtoull` stops behind a signed run of digits of a value below `2 ^ 64`. -/
theorem strtoull_ten_iff {s rest : Bytes} {v : UInt64} (hs : ∀ c ∈ s.head?, isSpace c = false) :
    strtoull s 10 = .number v rest ↔
      ∃ sign negative run n, s = sign ++ (run ++ rest) ∧ IsSign sign negative ∧ run ≠ [] ∧
        Denotes 10 run n ∧ EndsDigits 10 rest ∧ n < 2 ^ 64 ∧
        v = if negative then -UInt64.ofNat n else UInt64.ofNat n := by
  rw [strtoull, dropWhile_eq_self hs]
  dsimp only
  rw [numeral_ten]
  constructor
  · intro h
    split at h
    · cases h
    · rename_i n rest' hdigits
      split at h
      · cases h
      · obtain ⟨hv, rfl⟩ := Converted.number.inj h
        obtain ⟨sign, hsplit, hsign⟩ := exists_sign s
        obtain ⟨run, hrun, hne, hn, hrest⟩ := digits_eq_some_iff.1 hdigits
        exact ⟨sign, _, run, n, by rw [← hrun, ← hsplit], hsign, hne, hn, hrest,
          Nat.not_le.1 ‹_›, hv.symm⟩
  · rintro ⟨sign, negative, run, n, rfl, hsign, hne, hn, hrest, hlt, rfl⟩
    have hsigned : signed (sign ++ (run ++ rest)) = (negative, run ++ rest) := by
      apply signed_append hsign
      intro c hc
      obtain ⟨d, run, rfl⟩ := List.exists_cons_of_ne_nil hne
      obtain rfl : d = c := Option.some.inj hc
      exact hn.digitValue_ne_none d List.mem_cons_self
    rw [hsigned]
    dsimp only
    rw [digits_eq_some_iff.2 ⟨run, rfl, hne, hn, hrest⟩]
    exact if_neg (Nat.not_le.2 hlt)

/-- `strtoll` stops before blanks exactly behind a signed numeral that fits. -/
theorem strtoll_number_iff {s rest : Bytes} {v : Int64} (hs : ∀ c ∈ s.head?, isSpace c = false)
    (hrest : Blank rest) :
    strtoll s 0 = .number v rest ↔
      ∃ sign negative run n, s = sign ++ (run ++ rest) ∧ IsSign sign negative ∧ IsNumeral run n ∧
        v.toInt = signedValue negative n := by
  rw [strtoll, dropWhile_eq_self hs]
  dsimp only
  constructor
  · intro h
    split at h
    · cases h
    · rename_i n rest' hnumeral
      rw [← signedValue] at h
      split at h
      · cases h
      · obtain ⟨hv, rfl⟩ := Converted.number.inj h
        obtain ⟨sign, run, hsplit, hsign, hrun⟩ := (signed_numeral_iff hrest).1 ⟨rfl, hnumeral⟩
        refine ⟨sign, _, run, n, hsplit, hsign, hrun, ?_⟩
        rename_i hrange
        obtain ⟨hlow, hhigh⟩ := not_or.1 hrange
        rw [← hv]
        exact Int64.toInt_ofInt_of_le (Int.not_lt.1 hlow) (Int.not_le.1 hhigh)
  · rintro ⟨sign, negative, run, n, hsplit, hsign, hrun, hv⟩
    obtain ⟨hnegative, hnumeral⟩ := (signed_numeral_iff hrest).2 ⟨sign, run, hsplit, hsign, hrun⟩
    have hlow := v.le_toInt
    have hhigh := v.toInt_lt
    rw [hv] at hlow hhigh
    rw [hnumeral, hnegative]
    dsimp only
    rw [← signedValue, if_neg (not_or.2 ⟨Int.not_lt.2 hlow, Int.not_le.2 hhigh⟩), ← hv,
      Int64.ofInt_toInt]

/-! ## Trimming and NULs -/

/-- A text begins with what a C routine sees of it. -/
theorem cString_head {s : Bytes} {c : UInt8} (h : (cString s).head? = some c) : s.head? = some c := by
  obtain ⟨t, ht⟩ := List.takeWhile_prefix (fun c : UInt8 => decide (c ≠ 0)) (l := s)
  rw [← ht, List.head?_append]
  exact congrArg (·.or t.head?) h

theorem cString_trim_head (s : Bytes) : ∀ c ∈ (cString (trim s)).head?, isSpace c = false :=
  fun c hc => (trimmed_trim s).1 c (cString_head hc)

/-- The text that trimming leaves, cut at a NUL, has no blank in front; behind it blanks may be left
that stood before the NUL. -/
theorem trim_cString (s : Bytes) : trim (cString s) = (cString (trim s)).rdropWhile isSpace := by
  have hzero : ∀ {t : Bytes}, Blank t → ∀ c ∈ t, decide (c ≠ 0) = true := by
    intro t ht c hc
    rw [decide_eq_true_eq]
    rintro rfl
    exact absurd (ht 0 hc) (by decide)
  obtain ⟨a, b, ha, hb, hs⟩ := exists_trim s
  obtain ⟨b', hb', hcut⟩ : ∃ b', Blank b' ∧ cString (trim s ++ b) = cString (trim s) ++ b' := by
    rw [cString, List.takeWhile_append, List.takeWhile_eq_self_iff.2 (hzero hb)]
    split
    · rename_i hlen
      have hwhole := (List.takeWhile_prefix (fun c : UInt8 => decide (c ≠ 0)) (l := trim s)).eq_of_length hlen
      exact ⟨b, hb, by rw [cString, hwhole]⟩
    · exact ⟨[], blank_nil, by rw [List.append_nil, cString]⟩
  calc trim (cString s) = trim (a ++ (cString (trim s) ++ b')) := by
        conv_lhs => rw [hs, cString, List.takeWhile_append_of_pos (hzero ha)]
        rw [← hcut, cString]
    _ = trim (cString (trim s)) := trim_padded _ ha hb'
    _ = (cString (trim s)).rdropWhile isSpace := by rw [trim, dropWhile_eq_self (cString_trim_head s)]

theorem rdropWhile_eq_iff {s t : Bytes} (ht : ∀ c ∈ t.getLast?, isSpace c = false) :
    s.rdropWhile isSpace = t ↔ ∃ rest, Blank rest ∧ s = t ++ rest := by
  constructor
  · rintro rfl
    exact ⟨s.rtakeWhile isSpace, fun c => List.mem_rtakeWhile_imp,
      List.rdropWhile_append_rtakeWhile.symm⟩
  · rintro ⟨rest, hrest, rfl⟩
    rw [rdropWhile_append_blank hrest, rdropWhile_eq_self ht]

end Lib
