import Mathlib.Algebra.Group.Int.Defs
import Mathlib.Algebra.Group.Nat.Defs
import Mathlib.Data.List.DropRight

/-!
# Byte strings

A text is a list of bytes.  This file has the character classes of the C locale, trimming, the
reading of lines and of blank-separated words, splitting at a delimiter, decimal numerals, and the
conversion of a C numeral (`strtoull`, `strtoll`).
-/

namespace Lib

/-- A byte string. -/
abbrev Bytes := List UInt8

/-- The bytes of an ASCII literal. -/
def bytes (s : String) : Bytes := s.toList.map fun c => c.toNat.toUInt8

instance : Coe String Bytes := ⟨bytes⟩

/-- A statement about the members of a list is decided along the list, not over the whole type. -/
instance decidableForallMem {α : Type} (s : List α) (p : α → Prop) [DecidablePred p] :
    Decidable (∀ a ∈ s, p a) := List.decidableBAll p s

instance decidableForallMemOption {α : Type} (a? : Option α) (p : α → Prop) [DecidablePred p] :
    Decidable (∀ a ∈ a?, p a) := Option.decidableForallMem a?

/-! ## Characters of the C locale -/

/-- `isspace`: blank, `\t`, `\n`, `\v`, `\f` and `\r`. -/
def isSpace (c : UInt8) : Bool := c == 32 || (9 ≤ c && c ≤ 13)

/-- `tolower`. -/
def toLower (c : UInt8) : UInt8 := if 65 ≤ c && c ≤ 90 then c + 32 else c

/-- `tolower` on every byte. -/
def lowered (s : Bytes) : Bytes := s.map toLower

/-- The value of a digit or letter read as a digit: `0`-`9`, then `a`-`z` in either case. -/
def digitValue (c : UInt8) : Option ℕ :=
  if 48 ≤ c && c ≤ 57 then some (c.toNat - 48)
  else if 97 ≤ toLower c && toLower c ≤ 122 then some ((toLower c).toNat - 87)
  else none

/-- What holds of the first 256 numbers as bytes holds of every byte. -/
theorem forall_byte {p : UInt8 → Prop} (h : ∀ n < 256, p (UInt8.ofNat n)) (c : UInt8) : p c := by
  have hc := h c.toNat c.toNat_lt
  rwa [UInt8.ofNat_toNat] at hc

/-! ## Prefixes, lines and words -/

/-- `value` begins with `pre`. -/
def startsWith (value pre : Bytes) : Bool := pre.isPrefixOf value

theorem startsWith_cons_of_ne {a c : UInt8} (h : a ≠ c) (s t : Bytes) :
    startsWith (c :: s) (a :: t) = false := by
  simp [startsWith, List.isPrefixOf, h]

/-- Drop leading and trailing blanks. -/
def trim (s : Bytes) : Bytes := (s.dropWhile isSpace).rdropWhile isSpace

/-- The lines that repeated `getline` calls deliver: a final delimiter starts no further line. -/
def getlines (delim : UInt8) : Bytes → List Bytes
  | [] => []
  | c :: s =>
    if c = delim then [] :: getlines delim s
    else match getlines delim s with
      | [] => [[c]]
      | l :: ls => (c :: l) :: ls

/-- The lines of a text. -/
def lines (s : Bytes) : List Bytes := getlines 10 s

/-- The first line of a text, empty when there is none. -/
def firstLine (s : Bytes) : Bytes := s.takeWhile (· ≠ 10)

theorem getlines_ne_nil (delim : UInt8) {s : Bytes} (h : s ≠ []) : getlines delim s ≠ [] := by
  cases s with
  | nil => exact absurd rfl h
  | cons c s =>
    rw [getlines]
    split
    · exact List.cons_ne_nil _ _
    · split <;> exact List.cons_ne_nil _ _

/-- The pieces between delimiters: repeated `getline` calls miss only an empty last one. -/
theorem splitOn_eq_getlines (delim : UInt8) (s : Bytes) :
    s.splitOn delim =
      getlines delim s ++ if s = [] ∨ s.getLast? = some delim then [[]] else [] := by
  induction s with
  | nil => rfl
  | cons c s ih =>
    rw [List.splitOn_cons_eq_if_modifyHead, getlines, ih]
    by_cases hnil : s = []
    · subst hnil
      by_cases hc : c = delim <;> simp [hc, getlines]
    · have hlast : (c :: s).getLast? = s.getLast? := by
        rw [List.getLast?_cons, List.getLast?_eq_some_getLast hnil, Option.getD_some]
      simp only [hnil, false_or, hlast, reduceCtorEq]
      by_cases hc : c = delim
      · simp [hc]
      · cases hlines : getlines delim s with
        | nil => exact absurd hlines (getlines_ne_nil delim hnil)
        | cons l ls => simp [hc]

/-- Split at the first occurrence of `delim`. -/
def splitFirst (delim : UInt8) : Bytes → Option (Bytes × Bytes)
  | [] => none
  | c :: s => if c = delim then some ([], s) else (splitFirst delim s).map fun p => (c :: p.1, p.2)

theorem splitFirst_append {delim : UInt8} {s t : Bytes} (h : delim ∉ s) :
    splitFirst delim (s ++ delim :: t) = some (s, t) := by
  induction s with
  | nil => simp [splitFirst]
  | cons c s ih =>
    obtain ⟨hc, hs⟩ := not_or.1 fun hmem => h (List.mem_cons.2 hmem)
    rw [List.cons_append, splitFirst, if_neg (Ne.symm hc), ih hs, Option.map_some]

theorem splitFirst_eq_none {delim : UInt8} {s : Bytes} (h : delim ∉ s) : splitFirst delim s = none := by
  induction s with
  | nil => rfl
  | cons c s ih =>
    obtain ⟨hc, hs⟩ := not_or.1 fun hmem => h (List.mem_cons.2 hmem)
    rw [splitFirst, if_neg (Ne.symm hc), ih hs, Option.map_none]

/-- The text behind the first occurrence of `part`. -/
def findAfter (part : Bytes) : Bytes → Option Bytes
  | [] => if part = [] then some [] else none
  | c :: s => if startsWith (c :: s) part then some ((c :: s).drop part.length) else findAfter part s

/-- `value` contains `part` as a block of consecutive bytes. -/
def contains (value part : Bytes) : Bool := (findAfter part value).isSome

/-- The word loop: `word` holds the bytes of the word being read. -/
def splitWordsFrom (word : Bytes) : Bytes → List Bytes
  | [] => if word = [] then [] else [word]
  | c :: s =>
    if isSpace c then
      if word = [] then splitWordsFrom [] s else word :: splitWordsFrom [] s
    else splitWordsFrom (word ++ [c]) s

/-- The maximal blank-free words of a text, in order. -/
def splitWords (s : Bytes) : List Bytes := splitWordsFrom [] s

/-- Lexicographic order on byte strings, bytes unsigned. -/
def lexLe : Bytes → Bytes → Bool
  | [], _ => true
  | _ :: _, [] => false
  | a :: s, b :: t => a < b || (a == b && lexLe s t)

theorem lexLe_total (s t : Bytes) : lexLe s t = true ∨ lexLe t s = true := by
  induction s generalizing t with
  | nil => exact Or.inl rfl
  | cons a s ih =>
    cases t with
    | nil => exact Or.inr rfl
    | cons b t =>
      simp only [lexLe, Bool.or_eq_true, Bool.and_eq_true, decide_eq_true_eq, beq_iff_eq]
      by_cases hab : a = b
      · subst hab
        rcases ih t with h | h
        · exact Or.inl (Or.inr ⟨rfl, h⟩)
        · exact Or.inr (Or.inr ⟨rfl, h⟩)
      · rcases UInt8.lt_or_lt_of_ne hab with hlt | hlt
        · exact Or.inl (Or.inl hlt)
        · exact Or.inr (Or.inl hlt)

theorem lexLe_trans {s t u : Bytes} (hst : lexLe s t = true) (htu : lexLe t u = true) :
    lexLe s u = true := by
  induction s generalizing t u with
  | nil => rfl
  | cons a s ih =>
    cases t with
    | nil => cases hst
    | cons b t =>
      cases u with
      | nil => cases htu
      | cons c u =>
        simp only [lexLe, Bool.or_eq_true, Bool.and_eq_true, decide_eq_true_eq, beq_iff_eq] at *
        rcases hst with hab | ⟨rfl, hst⟩
        · rcases htu with hbc | ⟨rfl, -⟩
          · exact Or.inl (UInt8.lt_trans hab hbc)
          · exact Or.inl hab
        · rcases htu with hbc | ⟨rfl, htu⟩
          · exact Or.inl hbc
          · exact Or.inr ⟨rfl, ih hst htu⟩

/-! ## Words -/

theorem trim_of_blankFree {s : Bytes} (h : ∀ c ∈ s, isSpace c = false) : trim s = s := by
  have hdrop : s.dropWhile isSpace = s := by
    cases s with
    | nil => rfl
    | cons c s => rw [List.dropWhile_cons_of_neg (by simp [h c List.mem_cons_self])]
  rw [trim, hdrop, List.rdropWhile_eq_self_iff]
  intro hne
  simp [h _ (List.getLast_mem hne)]

/-- `w` is a maximal blank-free piece of the text. -/
def IsWord (text w : Bytes) : Prop :=
  w ≠ [] ∧ (∀ c ∈ w, isSpace c = false) ∧
    ∃ before after, text = before ++ (w ++ after) ∧
      (∀ c ∈ before.getLast?, isSpace c = true) ∧ ∀ c ∈ after.head?, isSpace c = true

/-- A text without blanks is its only word. -/
theorem isWord_of_blankFree {text w : Bytes} (htext : ∀ c ∈ text, isSpace c = false) :
    IsWord text w ↔ text ≠ [] ∧ w = text := by
  constructor
  · rintro ⟨hne, -, before, after, rfl, hbefore, hafter⟩
    have hb : before = [] := by
      by_contra h
      have hc := List.getLast_mem h
      have hs := hbefore _ (List.getLast?_eq_some_getLast h)
      rw [htext _ (List.mem_append_left _ hc)] at hs
      exact Bool.false_ne_true hs
    have ha : after = [] := by
      cases after with
      | nil => rfl
      | cons c after =>
        have hs := hafter c rfl
        rw [htext c (by simp)] at hs
        exact absurd hs Bool.false_ne_true
    subst hb ha
    simpa using hne
  · rintro ⟨hne, rfl⟩
    exact ⟨hne, htext, [], [], by simp, by simp, by simp⟩

/-- A blank-free piece in front of a blank or the end. -/
theorem takeWhile_blankFree {w after : Bytes} (hw : ∀ c ∈ w, isSpace c = false)
    (hafter : ∀ c ∈ after.head?, isSpace c = true) :
    (w ++ after).takeWhile (fun c => !isSpace c) = w := by
  rw [List.takeWhile_append_of_pos (fun c h => by rw [hw c h]; rfl)]
  cases after with
  | nil => simp
  | cons c after => simp [hafter c rfl]

/-- The words of a text are the piece before its first blank and the words behind it. -/
theorem isWord_append_blank {word s w : Bytes} {c : UInt8}
    (hword : ∀ c ∈ word, isSpace c = false) (hc : isSpace c = true) :
    IsWord (word ++ c :: s) w ↔ (word ≠ [] ∧ w = word) ∨ IsWord s w := by
  constructor
  · rintro ⟨hne, hw, before, after, heq, hbefore, hafter⟩
    rcases List.append_eq_append_iff.1 heq with ⟨t, rfl, ht⟩ | ⟨t, rfl, ht⟩
    · -- the word lies behind the blank
      cases t with
      | nil =>
        obtain ⟨d, w, rfl⟩ := List.exists_cons_of_ne_nil hne
        obtain ⟨rfl, -⟩ := List.cons.inj ht
        rw [hw c List.mem_cons_self] at hc
        exact absurd hc Bool.false_ne_true
      | cons d t =>
        obtain ⟨rfl, rfl⟩ := List.cons.inj ht
        refine Or.inr ⟨hne, hw, t, after, rfl, ?_, hafter⟩
        intro e he
        apply hbefore e
        cases t with
        | nil => cases he
        | cons a t => simpa using he
    · -- the word starts in front of the blank, hence at the start of the text
      have hb : before = [] := by
        by_contra h
        have hs := hbefore _ (List.getLast?_eq_some_getLast h)
        rw [hword _ (List.mem_append_left _ (List.getLast_mem h))] at hs
        exact Bool.false_ne_true hs
      subst hb
      rw [List.nil_append] at hword
      left
      have hwt : w = t := by
        have htail : ∀ d ∈ (c :: s).head?, isSpace d = true := by simpa using hc
        have hcut := congrArg (List.takeWhile fun c => !isSpace c) ht
        rwa [takeWhile_blankFree hw hafter, takeWhile_blankFree hword htail] at hcut
      subst hwt
      exact ⟨hne, rfl⟩
  · rintro (⟨hne, rfl⟩ | ⟨hne, hw, before, after, rfl, hbefore, hafter⟩)
    · exact ⟨hne, hword, [], c :: s, rfl, by simp, by simpa using hc⟩
    · refine ⟨hne, hw, word ++ c :: before, after, by simp, ?_, hafter⟩
      intro d hd
      cases before with
      | nil =>
        obtain rfl : c = d := by simpa using hd
        exact hc
      | cons a before => exact hbefore d (by simpa using hd)

theorem mem_splitWordsFrom {word s w : Bytes} (hword : ∀ c ∈ word, isSpace c = false) :
    w ∈ splitWordsFrom word s ↔ IsWord (word ++ s) w := by
  induction s generalizing word with
  | nil =>
    rw [List.append_nil, isWord_of_blankFree hword, splitWordsFrom]
    by_cases h : word = [] <;> simp [h]
  | cons c s ih =>
    rw [splitWordsFrom]
    by_cases hc : isSpace c = true
    · rw [if_pos hc, isWord_append_blank hword hc]
      by_cases h : word = []
      · simp [h, ih]
      · simp [h, ih]
    · rw [if_neg hc, ih, List.append_assoc]
      · rfl
      · intro d hd
        rcases List.mem_append.1 hd with hd | hd
        · exact hword d hd
        · rw [List.mem_singleton.1 hd]
          simpa using hc

/-- `splitWords` finds the words. -/
theorem mem_splitWords {text w : Bytes} : w ∈ splitWords text ↔ IsWord text w := by
  rw [splitWords, mem_splitWordsFrom (by simp)]
  rfl

/-! ## Numerals -/

/-- The decimal numeral of a natural number. -/
def decimal (n : ℕ) : Bytes := (Nat.toDigits 10 n).map fun c => c.toNat.toUInt8

/-- The decimal numeral of an integer. -/
def decimalInt (n : ℤ) : Bytes := if n < 0 then 45 :: decimal n.natAbs else decimal n.natAbs

/-- The longest run of digits of the base, as the number it denotes read after `acc`, and the
text behind it. -/
def takeDigits (base acc : ℕ) : Bytes → ℕ × Bytes
  | [] => (acc, [])
  | c :: s =>
    match digitValue c with
    | some d => if d < base then takeDigits base (acc * base + d) s else (acc, c :: s)
    | none => (acc, c :: s)

/-- A non-empty run of digits of the base. -/
def digits (base : ℕ) (s : Bytes) : Option (ℕ × Bytes) :=
  let (n, rest) := takeDigits base 0 s
  if rest.length < s.length then some (n, rest) else none

/-! ### Reading back decimal numerals -/

theorem decimal_eq (n : ℕ) :
    decimal n =
      if n < 10 then [(48 + n).toUInt8] else decimal (n / 10) ++ [(48 + n % 10).toUInt8] := by
  have digit : ∀ d < 10, (Nat.digitChar d).toNat.toUInt8 = (48 + d).toUInt8 := by decide
  unfold decimal
  rw [Nat.toDigits_eq_if (by decide)]
  split
  · rw [List.map_singleton, digit n ‹_›]
  · rw [List.map_append, List.map_singleton, digit _ (Nat.mod_lt n (by decide))]

theorem takeDigits_digit {d : ℕ} (hd : d < 10) (acc : ℕ) (s : Bytes) :
    takeDigits 10 acc ((48 + d).toUInt8 :: s) = takeDigits 10 (acc * 10 + d) s := by
  have value : ∀ d < 10, digitValue (48 + d).toUInt8 = some d := by decide
  rw [takeDigits, value d hd]
  exact if_pos hd

theorem takeDigits_decimal (n : ℕ) (s : Bytes) :
    takeDigits 10 0 (decimal n ++ s) = takeDigits 10 n s := by
  induction n using Nat.strongRecOn generalizing s with
  | ind n ih =>
    rw [decimal_eq]
    split
    · rw [List.singleton_append, takeDigits_digit ‹_›, Nat.zero_mul, Nat.zero_add]
    · rw [List.append_assoc, ih (n / 10) (by omega), List.singleton_append,
        takeDigits_digit (Nat.mod_lt n (by decide)), Nat.div_add_mod']

theorem decimal_ne_nil (n : ℕ) : decimal n ≠ [] := by
  rw [decimal_eq]
  split <;> simp

/-- A numeral begins with a digit, and only the one of zero with `0`. -/
theorem decimal_head (n : ℕ) :
    ∃ d < 10, ∃ s, decimal n = (48 + d).toUInt8 :: s ∧ (n ≠ 0 → d ≠ 0) := by
  induction n using Nat.strongRecOn with
  | ind n ih =>
    rw [decimal_eq]
    split
    · exact ⟨n, ‹_›, [], rfl, id⟩
    · obtain ⟨d, hd, s, hs, hn⟩ := ih (n / 10) (by omega)
      exact ⟨d, hd, s ++ [_], by rw [hs, List.cons_append], fun _ => hn (by omega)⟩

/-- What holds of every digit holds of every byte of a numeral. -/
theorem forall_decimal {p : UInt8 → Prop} (h : ∀ d < 10, p (48 + d).toUInt8) (n : ℕ) :
    ∀ c ∈ decimal n, p c := by
  induction n using Nat.strongRecOn with
  | ind n ih =>
    intro c hc
    rw [decimal_eq] at hc
    split at hc
    · rw [List.mem_singleton.1 hc]
      exact h n ‹_›
    · rcases List.mem_append.1 hc with hc | hc
      · exact ih (n / 10) (by omega) c hc
      · rw [List.mem_singleton.1 hc]
        exact h _ (Nat.mod_lt n (by decide))

/-- The first byte of a numeral: neither a blank nor a sign, and `0` for zero only. -/
theorem decimal_cons (n : ℕ) :
    ∃ c s, decimal n = c :: s ∧ isSpace c = false ∧ c ≠ 45 ∧ c ≠ 43 ∧ (n ≠ 0 → c ≠ 48) := by
  obtain ⟨d, hd, s, hs, hzero⟩ := decimal_head n
  have hdigit : ∀ d < 10, isSpace (48 + d).toUInt8 = false ∧ (48 + d).toUInt8 ≠ 45 ∧
      (48 + d).toUInt8 ≠ 43 ∧ (d ≠ 0 → (48 + d).toUInt8 ≠ 48) := by decide
  obtain ⟨hspace, hminus, hplus, hne⟩ := hdigit d hd
  exact ⟨_, s, hs, hspace, hminus, hplus, fun hn => hne (hzero hn)⟩

/-- The text does not go on with a decimal digit. -/
def NoDigit (s : Bytes) : Prop := ∀ c ∈ s.head?, ∀ d ∈ digitValue c, 10 ≤ d

/-- The scan stops where no digit of the base follows. -/
theorem takeDigits_of_ends {base : ℕ} (acc : ℕ) {s : Bytes}
    (hs : ∀ c ∈ s.head?, ∀ d ∈ digitValue c, base ≤ d) : takeDigits base acc s = (acc, s) := by
  cases s with
  | nil => rfl
  | cons c s =>
    rw [takeDigits]
    cases hd : digitValue c with
    | none => rfl
    | some d => exact if_neg (Nat.not_lt.2 (hs c rfl d hd))

theorem digits_decimal (n : ℕ) {s : Bytes} (hs : NoDigit s) :
    digits 10 (decimal n ++ s) = some (n, s) := by
  have hlen := List.length_pos_iff.2 (decimal_ne_nil n)
  rw [digits, takeDigits_decimal, takeDigits_of_ends n hs]
  exact if_pos (by rw [List.length_append]; omega)

/-- The numeral at the front of `s`.  Base 0 reads the base off the prefix, and `0x` counts as a
prefix only before a hexadecimal digit. -/
def numeral (base : ℕ) (s : Bytes) : Option (ℕ × Bytes) :=
  match s with
  | 48 :: x :: rest =>
    if (base = 0 ∨ base = 16) ∧ toLower x = 120 ∧ (digits 16 rest).isSome then digits 16 rest
    else digits (if base = 0 then 8 else base) s
  | 48 :: [] => digits (if base = 0 then 8 else base) s
  | s => digits (if base = 0 then 10 else base) s

/-- An optional sign: whether it is a minus, and the text behind it. -/
def signed : Bytes → Bool × Bytes
  | c :: s => if c = 45 then (true, s) else if c = 43 then (false, s) else (false, c :: s)
  | [] => (false, [])

/-- What a conversion of the `strto` family reports. -/
inductive Converted (α : Type) where
  /-- No numeral: `end` is the start of the text. -/
  | noConversion
  /-- The value does not fit: `errno` is `ERANGE`. -/
  | outOfRange
  /-- A value and the text `end` points at. -/
  | number (value : α) (rest : Bytes)
  deriving DecidableEq

/-- The part of a byte string a C routine sees: everything before the first NUL. -/
def cString (s : Bytes) : Bytes := s.takeWhile (· ≠ 0)

/-- `strtoull`: a minus sign negates modulo `2 ^ 64`. -/
def strtoull (s : Bytes) (base : ℕ) : Converted UInt64 :=
  let (negative, s) := signed (s.dropWhile isSpace)
  match numeral base s with
  | none => .noConversion
  | some (n, rest) =>
    if 2 ^ 64 ≤ n then .outOfRange
    else .number (if negative then -UInt64.ofNat n else UInt64.ofNat n) rest

/-- `strtoll`. -/
def strtoll (s : Bytes) (base : ℕ) : Converted Int64 :=
  let (negative, s) := signed (s.dropWhile isSpace)
  match numeral base s with
  | none => .noConversion
  | some (n, rest) =>
    let value : ℤ := if negative then -n else n
    if value < -2 ^ 63 ∨ 2 ^ 63 ≤ value then .outOfRange else .number (Int64.ofInt value) rest

/-- A text without a NUL is seen whole. -/
theorem cString_eq_self {text : Bytes} (h : 0 ∉ text) : cString text = text := by
  rw [cString, List.takeWhile_eq_self_iff]
  intro c hc
  exact decide_eq_true fun hzero : c = 0 => h (hzero ▸ hc)

/-! ### The conversion of a decimal numeral -/

theorem trim_decimal (n : ℕ) : trim (decimal n) = decimal n :=
  trim_of_blankFree (forall_decimal (by decide) n)

theorem cString_decimal (n : ℕ) : cString (decimal n) = decimal n := by
  apply cString_eq_self
  exact fun h => forall_decimal (p := (· ≠ 0)) (by decide) n 0 h rfl

/-- In base 0 a decimal numeral is read as what it stands for. -/
theorem numeral_decimal (n : ℕ) : numeral 0 (decimal n) = some (n, []) := by
  have hdigits : digits 10 (decimal n) = some (n, []) := by
    have h := digits_decimal n (s := []) (by rintro c ⟨⟩)
    rwa [List.append_nil] at h
  by_cases hn : n = 0
  · subst hn
    rfl
  · obtain ⟨c, s, hs, -, -, -, hzero⟩ := decimal_cons n
    rw [← hdigits, hs, numeral]
    · rfl
    · rintro x rest ⟨rfl, -⟩
      exact hzero hn rfl
    · rintro ⟨rfl, -⟩
      exact hzero hn rfl

/-- A decimal numeral is read unless it needs more than 64 bits. -/
theorem strtoull_decimal (n : ℕ) :
    strtoull (decimal n) 0 = if 2 ^ 64 ≤ n then .outOfRange else .number (UInt64.ofNat n) [] := by
  obtain ⟨c, s, hs, hspace, hminus, hplus, -⟩ := decimal_cons n
  have hsigned : signed ((decimal n).dropWhile isSpace) = (false, decimal n) := by
    rw [hs, List.dropWhile_cons_of_neg (by simp [hspace]), signed, if_neg hminus, if_neg hplus]
  rw [strtoull, hsigned]
  dsimp only
  rw [numeral_decimal]
  rfl

end Lib
