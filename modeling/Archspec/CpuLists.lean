import Mathlib.Order.Interval.Finset.Nat
import Archspec.CpuDirs
import Archspec.Numbers
import Archspec.Lib.Pieces

/-!
# CPU lists

The token loop of `cpuListCount` adds the sizes of the tokens, each a number or a range of numbers
(`TokenCount`), and gives up when a token is neither or the sum does not fit into 64 bits
(`cpuListCountFrom_iff`).  On a set of CPUs printed as ranges the sum is the size of the set
(`cpuList_exact`).
-/

namespace Archspec

open Lib

/-! ## Tokens -/

/-- The number of CPUs a token stands for: one, or the length of a range. -/
inductive TokenCount : Bytes → ℕ → Prop where
  | single {token : Bytes} {cpu : UInt64} (hcpu : parseU64 token = some cpu) : TokenCount token 1
  | range {token before behind : Bytes} {first last : UInt64}
      (hdash : splitFirst 45 token = some (before, behind))
      (hfirst : parseU64 before = some first) (hlast : parseU64 behind = some last)
      (hle : first ≤ last) : TokenCount token (last.toNat - first.toNat + 1)

/-- A number has no dash. -/
theorem splitFirst_of_parseU64 {token : Bytes} {cpu : UInt64} (htoken : 0 ∉ token)
    (h : parseU64 token = some cpu) : splitFirst 45 token = none := by
  rw [parseU64_iff_isU64 htoken] at h
  exact splitFirst_eq_none (h.notMem_of_noDigit (by decide) (by decide) (by decide))

/-- A token without a dash stands for one CPU. -/
theorem tokenCount_single {token : Bytes} {n : ℕ} (hdash : splitFirst 45 token = none) :
    TokenCount token n ↔ n = 1 ∧ ∃ cpu, parseU64 token = some cpu := by
  constructor
  · intro h
    cases h with
    | single hcpu => exact ⟨rfl, _, hcpu⟩
    | range hsome => exact nomatch hdash.symm.trans hsome
  · rintro ⟨rfl, cpu, hcpu⟩
    exact .single hcpu

/-- A token with a dash stands for a range. -/
theorem tokenCount_range {token before behind : Bytes} {n : ℕ} (htoken : 0 ∉ token)
    (hdash : splitFirst 45 token = some (before, behind)) :
    TokenCount token n ↔ ∃ first last, parseU64 before = some first ∧ parseU64 behind = some last ∧
      first ≤ last ∧ n = last.toNat - first.toNat + 1 := by
  constructor
  · intro h
    cases h with
    | single hcpu => exact nomatch (splitFirst_of_parseU64 htoken hcpu).symm.trans hdash
    | range hdash' hfirst hlast hle =>
      obtain ⟨rfl, rfl⟩ := Prod.mk.inj (Option.some.inj (hdash.symm.trans hdash'))
      exact ⟨_, _, hfirst, hlast, hle, rfl⟩
  · rintro ⟨first, last, hfirst, hlast, hle, rfl⟩
    exact .range hdash hfirst hlast hle

theorem TokenCount.unique {token : Bytes} {m n : ℕ} (htoken : 0 ∉ token) (hm : TokenCount token m)
    (hn : TokenCount token n) : m = n := by
  cases hdash : splitFirst 45 token with
  | none =>
    rw [tokenCount_single hdash] at hm hn
    rw [hm.1, hn.1]
  | some parts =>
    obtain ⟨before, behind⟩ := parts
    obtain ⟨first, last, hfirst, hlast, -, rfl⟩ := (tokenCount_range htoken hdash).1 hm
    obtain ⟨first', last', hfirst', hlast', -, rfl⟩ := (tokenCount_range htoken hdash).1 hn
    obtain rfl := Option.some.inj (hfirst.symm.trans hfirst')
    obtain rfl := Option.some.inj (hlast.symm.trans hlast')
    rfl

/-- The tokens of a text without a NUL stand for one number of CPUs each. -/
theorem tokenCounts_unique {tokens : List Bytes} (htokens : ∀ token ∈ tokens, 0 ∉ token)
    {m n : List ℕ} (hm : List.Forall₂ TokenCount tokens m) (hn : List.Forall₂ TokenCount tokens n) :
    m = n := by
  have hunique : Relator.RightUnique fun token n => 0 ∉ token ∧ TokenCount token n :=
    fun token m n hm hn => hm.2.unique hm.1 hn.2
  exact List.right_unique_forall₂' hunique ((List.forall₂_and_left _ _).2 ⟨htokens, hm⟩)
    ((List.forall₂_and_left _ _).2 ⟨htokens, hn⟩)

/-! ## The loop -/

theorem u64_add_toNat {a b : UInt64} (h : a.toNat + b.toNat < 2 ^ 64) :
    (a + b).toNat = a.toNat + b.toNat := by
  rw [UInt64.toNat_add, Nat.mod_eq_of_lt h]

/-- The two overflow checks of a range refuse exactly the sums that do not fit. -/
theorem range_guard {first last : UInt64} (count : UInt64) (hle : first ≤ last) :
    (last - first + 1 = 0 ∨ count > u64Max - (last - first + 1)) ↔
      2 ^ 64 ≤ count.toNat + (last.toNat - first.toNat + 1) := by
  have hdiff : (last - first).toNat = last.toNat - first.toNat := UInt64.toNat_sub_of_le _ _ hle
  have hcount := count.toNat_lt
  have hlast := last.toNat_lt
  have hmax := u64Max_toNat
  by_cases hfull : last.toNat - first.toNat + 1 = 2 ^ 64
  · -- the size of the full range wraps to zero
    have hzero : last - first + 1 = 0 := by
      rw [← UInt64.toNat_inj, UInt64.toNat_add, hdiff]
      simp [hfull]
    exact iff_of_true (Or.inl hzero) (by omega)
  · have hsize : (last - first + 1).toNat = last.toNat - first.toNat + 1 := by
      rw [u64_add_toNat, hdiff]
      · rfl
      · rw [hdiff]
        show last.toNat - first.toNat + 1 < 2 ^ 64
        omega
    have hne : last - first + 1 ≠ 0 := by
      intro hzero
      rw [hzero] at hsize
      cases hsize
    have hroom : (u64Max - (last - first + 1)).toNat =
        2 ^ 64 - 1 - (last.toNat - first.toNat + 1) := by
      rw [UInt64.toNat_sub_of_le, hmax, hsize]
      rw [UInt64.le_iff_toNat_le, hmax, hsize]
      omega
    rw [or_iff_right hne, gt_iff_lt, UInt64.lt_iff_toNat_lt, hroom]
    omega

theorem range_sum {first last count : UInt64} (hle : first ≤ last)
    (hfit : count.toNat + (last.toNat - first.toNat + 1) < 2 ^ 64) :
    (count + (last - first + 1)).toNat = count.toNat + (last.toNat - first.toNat + 1) := by
  have hdiff : (last - first).toNat = last.toNat - first.toNat := UInt64.toNat_sub_of_le _ _ hle
  have hsize : (last - first + 1).toNat = last.toNat - first.toNat + 1 := by
    rw [u64_add_toNat, hdiff]
    · rfl
    · rw [hdiff]
      show last.toNat - first.toNat + 1 < 2 ^ 64
      omega
  rw [u64_add_toNat, hsize]
  rwa [hsize]

/-- A number adds one, if the sum fits. -/
theorem cpuListCountFrom_single {token : Bytes} {tokens : List Bytes} {count v : UInt64}
    (hdash : splitFirst 45 (trim token) = none) :
    cpuListCountFrom count (token :: tokens) = some v ↔
      (∃ cpu, parseU64 (trim token) = some cpu) ∧
        ∃ count' : UInt64, count'.toNat = count.toNat + 1 ∧ cpuListCountFrom count' tokens = some v := by
  rw [cpuListCountFrom, hdash]
  dsimp only
  cases hcpu : parseU64 (trim token) with
  | none => exact iff_of_false nofun fun h => nomatch h.1.choose_spec
  | some cpu =>
    have hone : (1 : UInt64).toNat = 1 := rfl
    have hmax : count = u64Max ↔ count.toNat = 2 ^ 64 - 1 := by
      rw [← u64Max_toNat, UInt64.toNat_inj]
    have hlt := count.toNat_lt
    dsimp only
    constructor
    · intro h
      split at h
      · cases h
      · rename_i hcount
        rw [hmax] at hcount
        exact ⟨⟨cpu, rfl⟩, count + 1, u64_add_toNat (by omega), h⟩
    · rintro ⟨-, count', hcount', h⟩
      have hlt' := count'.toNat_lt
      have hsum : count' = count + 1 := by
        rw [← UInt64.toNat_inj, hcount', u64_add_toNat (by omega), hone]
      rw [if_neg (by rw [hmax]; omega), ← hsum, h]

/-- A range adds its length, if the sum fits. -/
theorem cpuListCountFrom_range {token before behind : Bytes} {tokens : List Bytes} {count v : UInt64}
    (hdash : splitFirst 45 (trim token) = some (before, behind)) :
    cpuListCountFrom count (token :: tokens) = some v ↔
      ∃ first last, parseU64 before = some first ∧ parseU64 behind = some last ∧ first ≤ last ∧
        ∃ count' : UInt64, count'.toNat = count.toNat + (last.toNat - first.toNat + 1) ∧
          cpuListCountFrom count' tokens = some v := by
  rw [cpuListCountFrom, hdash]
  dsimp only
  cases hfirst : parseU64 before with
  | none => exact iff_of_false nofun fun ⟨_, _, h, _⟩ => nomatch h
  | some first =>
    cases hlast : parseU64 behind with
    | none => exact iff_of_false nofun fun ⟨_, _, _, h, _⟩ => nomatch h
    | some last =>
      dsimp only
      constructor
      · intro h
        split at h
        · cases h
        · rename_i hle
          split at h
          · cases h
          · rename_i hguard
            have hle' : first ≤ last := UInt64.not_lt.1 hle
            rw [range_guard count hle', Nat.not_le] at hguard
            exact ⟨first, last, rfl, rfl, hle', _, range_sum hle' hguard, h⟩
      · rintro ⟨first', last', hfirst', hlast', hle, count', hcount', h⟩
        obtain rfl := Option.some.inj hfirst'
        obtain rfl := Option.some.inj hlast'
        have hfit : count.toNat + (last.toNat - first.toNat + 1) < 2 ^ 64 := by
          rw [← hcount']
          exact count'.toNat_lt
        have hsum : count' = count + (last - first + 1) := by
          rw [← UInt64.toNat_inj, hcount', range_sum hle hfit]
        rw [if_neg (UInt64.not_lt.2 hle), if_neg, ← hsum, h]
        rw [range_guard count hle]
        exact Nat.not_le.2 hfit

/-- One token: its size is added, if the sum fits. -/
theorem cpuListCountFrom_cons {token : Bytes} {tokens : List Bytes} {count v : UInt64}
    (htoken : 0 ∉ trim token) :
    cpuListCountFrom count (token :: tokens) = some v ↔
      ∃ n, TokenCount (trim token) n ∧ ∃ count' : UInt64, count'.toNat = count.toNat + n ∧
        cpuListCountFrom count' tokens = some v := by
  cases hdash : splitFirst 45 (trim token) with
  | none =>
    simp only [cpuListCountFrom_single hdash, tokenCount_single hdash, and_assoc, exists_eq_left]
  | some parts =>
    obtain ⟨before, behind⟩ := parts
    rw [cpuListCountFrom_range hdash]
    constructor
    · rintro ⟨first, last, hfirst, hlast, hle, h⟩
      exact ⟨_, .range hdash hfirst hlast hle, h⟩
    · rintro ⟨n, hn, h⟩
      obtain ⟨first, last, hfirst, hlast, hle, rfl⟩ := (tokenCount_range htoken hdash).1 hn
      exact ⟨first, last, hfirst, hlast, hle, h⟩

/-- The loop returns the count so far and the sizes of all tokens, if every token has one and the sum
fits. -/
theorem cpuListCountFrom_iff {tokens : List Bytes} (htokens : ∀ token ∈ tokens, 0 ∉ trim token)
    (count v : UInt64) :
    cpuListCountFrom count tokens = some v ↔
      ∃ counts, List.Forall₂ TokenCount (tokens.map trim) counts ∧
        v.toNat = count.toNat + counts.sum := by
  induction tokens generalizing count with
  | nil =>
    rw [cpuListCountFrom, Option.some.injEq, ← UInt64.toNat_inj, List.map_nil]
    constructor
    · intro h
      exact ⟨[], .nil, h.symm⟩
    · rintro ⟨counts, hcounts, h⟩
      cases hcounts
      exact h.symm
  | cons token tokens ih =>
    obtain ⟨htoken, htokens⟩ := List.forall_mem_cons.1 htokens
    rw [cpuListCountFrom_cons htoken, List.map_cons]
    constructor
    · rintro ⟨n, hn, count', hcount', h⟩
      obtain ⟨counts, hcounts, hv⟩ := (ih htokens count').1 h
      exact ⟨n :: counts, .cons hn hcounts, by rw [hv, hcount', List.sum_cons, Nat.add_assoc]⟩
    · rintro ⟨counts, hcounts, hv⟩
      obtain ⟨n, counts, hn, htail, rfl⟩ := List.forall₂_cons_left_iff.1 hcounts
      have hlt := v.toNat_lt
      rw [List.sum_cons] at hv
      have hcount' : (UInt64.ofNat (count.toNat + n)).toNat = count.toNat + n :=
        UInt64.toNat_ofNat_of_lt' (by show _ < 2 ^ 64; omega)
      refine ⟨n, hn, UInt64.ofNat (count.toNat + n), hcount', (ih htokens _).2 ⟨counts, htail, ?_⟩⟩
      omega

theorem cpuListCount_blank {text : Bytes} (h : Blank text) : cpuListCount text = some 0 :=
  if_pos (trim_eq_nil_iff.2 h)

/-- A list that is not blank has a count exactly when every token has one and the sum fits. -/
theorem cpuListCount_iff {text : Bytes} (htext : 0 ∉ text) (hblank : ¬ Blank text) (v : UInt64) :
    cpuListCount text = some v ↔
      ∃ counts, List.Forall₂ TokenCount ((text.splitOn 44).map trim) counts ∧
        v.toNat = counts.sum := by
  have htokens : ∀ token ∈ (trim text).splitOn 44, 0 ∉ trim token := by
    intro token htoken hmem
    apply htext
    apply mem_of_mem_trim
    exact mem_of_mem_splitOn htoken (mem_of_mem_trim hmem)
  rw [cpuListCount, if_neg (fun h => hblank (trim_eq_nil_iff.1 h)), cpuListCountFrom_iff htokens,
    map_trim_splitOn (by decide)]
  simp only [UInt64.toNat_zero, Nat.zero_add]

/-! ## Sets of CPUs -/

/-- The text of a range of numbers; a range of one may be printed as the number. -/
inductive PrintsRange : ℕ × ℕ → Bytes → Prop where
  | single (n : ℕ) : PrintsRange (n, n) (decimal n)
  | range (first last : ℕ) : PrintsRange (first, last) (decimal first ++ 45 :: decimal last)

/-- The set is printed as ascending disjoint ranges. -/
def PrintsCpus (cpus : Finset ℕ) (text : Bytes) : Prop :=
  ∃ ranges pieces, (∀ r ∈ ranges, r.1 ≤ r.2) ∧ ranges.Pairwise (fun a b => a.2 < b.1) ∧
    (∀ cpu, cpu ∈ cpus ↔ ∃ r ∈ ranges, r.1 ≤ cpu ∧ cpu ≤ r.2) ∧
    List.Forall₂ PrintsRange ranges pieces ∧ text = [44].intercalate pieces

/-- The length of a range. -/
def rangeLength (r : ℕ × ℕ) : ℕ := r.2 - r.1 + 1

/-- The numbers of disjoint ranges. -/
theorem card_ranges {ranges : List (ℕ × ℕ)} {cpus : Finset ℕ} (hle : ∀ r ∈ ranges, r.1 ≤ r.2)
    (hdisjoint : ranges.Pairwise fun a b => a.2 < b.1)
    (hmem : ∀ cpu, cpu ∈ cpus ↔ ∃ r ∈ ranges, r.1 ≤ cpu ∧ cpu ≤ r.2) :
    cpus.card = (ranges.map rangeLength).sum := by
  induction ranges generalizing cpus with
  | nil =>
    have hempty : cpus = ∅ := Finset.eq_empty_of_forall_notMem fun cpu hcpu => by
      obtain ⟨r, hr, -⟩ := (hmem cpu).1 hcpu
      cases hr
    rw [hempty]
    rfl
  | cons r ranges ih =>
    obtain ⟨hr, hle⟩ := List.forall_mem_cons.1 hle
    obtain ⟨hfirst, hdisjoint⟩ := List.pairwise_cons.1 hdisjoint
    have hrest := @ih (cpus \ Finset.Icc r.1 r.2) hle hdisjoint fun cpu => by
      rw [Finset.mem_sdiff, hmem, Finset.mem_Icc]
      constructor
      · rintro ⟨⟨r', hr', hcpu⟩, hnot⟩
        rcases List.mem_cons.1 hr' with rfl | hr'
        · exact absurd hcpu hnot
        · exact ⟨r', hr', hcpu⟩
      · rintro ⟨r', hr', hcpu⟩
        refine ⟨⟨r', List.mem_cons_of_mem r hr', hcpu⟩, fun hin => ?_⟩
        have hlt := hfirst r' hr'
        omega
    have hsub : Finset.Icc r.1 r.2 ⊆ cpus := fun cpu hcpu =>
      (hmem cpu).2 ⟨r, List.mem_cons_self, Finset.mem_Icc.1 hcpu⟩
    rw [List.map_cons, List.sum_cons, ← hrest, ← Finset.card_sdiff_add_card_eq_card hsub, Nat.card_Icc,
      rangeLength]
    omega

section Printed

variable {r : ℕ × ℕ} {piece : Bytes}

/-- What holds of the digits and the dash holds of every byte of a printed range. -/
theorem PrintsRange.forall_bytes {p : UInt8 → Prop} (h : PrintsRange r piece)
    (hdigit : ∀ d < 10, p (48 + d).toUInt8) (hdash : p 45) : ∀ c ∈ piece, p c := by
  cases h with
  | single n => exact forall_decimal hdigit n
  | range first last =>
    exact List.forall_mem_append.2
      ⟨forall_decimal hdigit first, List.forall_mem_cons.2 ⟨hdash, forall_decimal hdigit last⟩⟩

theorem PrintsRange.ne_nil (h : PrintsRange r piece) : piece ≠ [] := by
  cases h with
  | single n => exact decimal_ne_nil n
  | range first last => exact List.append_ne_nil_of_left_ne_nil (decimal_ne_nil first) _

theorem PrintsRange.trim_eq (h : PrintsRange r piece) : trim piece = piece :=
  trim_of_blankFree (h.forall_bytes (p := (isSpace · = false)) (by decide) (by decide))

/-- A printed range of CPUs stands for its length. -/
theorem PrintsRange.tokenCount (h : PrintsRange r piece) (hle : r.1 ≤ r.2) (hlt : r.2 < 2 ^ 64) :
    TokenCount piece (rangeLength r) := by
  cases h with
  | single n =>
    have hone : rangeLength (n, n) = 1 := by rw [rangeLength, Nat.sub_self]
    rw [hone]
    exact .single (parseU64_decimal hlt)
  | range first last =>
    have hfirst : first < 2 ^ 64 := lt_of_le_of_lt hle hlt
    have hnodash : (45 : UInt8) ∉ decimal first :=
      fun hmem => forall_decimal (p := (· ≠ 45)) (by decide) first 45 hmem rfl
    have hcount := TokenCount.range (splitFirst_append hnodash) (parseU64_decimal hfirst)
      (parseU64_decimal hlt) (UInt64.le_iff_toNat_le.2 ?_)
    · rwa [UInt64.toNat_ofNat_of_lt' hfirst, UInt64.toNat_ofNat_of_lt' hlt] at hcount
    · rwa [UInt64.toNat_ofNat_of_lt' hfirst, UInt64.toNat_ofNat_of_lt' hlt]

/-- A printed range beyond 64 bits stands for nothing. -/
theorem PrintsRange.not_tokenCount (h : PrintsRange r piece) (hle : r.1 ≤ r.2) (hbig : 2 ^ 64 ≤ r.2)
    (n : ℕ) : ¬ TokenCount piece n := by
  have hnodash : ∀ m, (45 : UInt8) ∉ decimal m :=
    fun m hmem => forall_decimal (p := (· ≠ 45)) (by decide) m 45 hmem rfl
  intro hcount
  cases h with
  | single m =>
    obtain ⟨-, cpu, hcpu⟩ := (tokenCount_single (splitFirst_eq_none (hnodash m))).1 hcount
    rw [parseU64_decimal_eq, if_pos hbig] at hcpu
    cases hcpu
  | range first last =>
    have hnul : (0 : UInt8) ∉ decimal first ++ 45 :: decimal last := fun hmem =>
      (PrintsRange.range first last).forall_bytes (p := (· ≠ 0)) (by decide) (by decide) 0 hmem rfl
    obtain ⟨first', last', -, hlast, -⟩ :=
      (tokenCount_range hnul (splitFirst_append (hnodash first))).1 hcount
    rw [parseU64_decimal_eq, if_pos hbig] at hlast
    cases hlast

end Printed

theorem forall_intercalate {p : UInt8 → Prop} {pieces : List Bytes} (hcomma : p 44)
    (h : ∀ piece ∈ pieces, ∀ c ∈ piece, p c) : ∀ c ∈ [44].intercalate pieces, p c := by
  induction pieces with
  | nil => exact fun c hc => absurd hc List.not_mem_nil
  | cons piece pieces ih =>
    obtain ⟨hpiece, hpieces⟩ := List.forall_mem_cons.1 h
    cases pieces with
    | nil => rwa [List.intercalate_singleton]
    | cons next pieces =>
      rw [List.intercalate_cons_cons]
      exact List.forall_mem_append.2
        ⟨List.forall_mem_append.2 ⟨hpiece, List.forall_mem_singleton.2 hcomma⟩, ih hpieces⟩

/-- A piece is the text of one of the ranges. -/
theorem exists_range {ranges : List (ℕ × ℕ)} {pieces : List Bytes}
    (h : List.Forall₂ PrintsRange ranges pieces) : ∀ piece ∈ pieces, ∃ r, PrintsRange r piece := by
  induction h with
  | nil => exact fun piece hpiece => absurd hpiece List.not_mem_nil
  | cons hr _ ih => exact List.forall_mem_cons.2 ⟨⟨_, hr⟩, ih⟩

theorem tokenCounts_printed {ranges : List (ℕ × ℕ)} {pieces : List Bytes}
    (h : List.Forall₂ PrintsRange ranges pieces) (hle : ∀ r ∈ ranges, r.1 ≤ r.2)
    (hlt : ∀ r ∈ ranges, r.2 < 2 ^ 64) :
    List.Forall₂ TokenCount (pieces.map trim) (ranges.map rangeLength) := by
  induction h with
  | nil => exact .nil
  | cons hr _ ih =>
    obtain ⟨hle, hle'⟩ := List.forall_mem_cons.1 hle
    obtain ⟨hlt, hlt'⟩ := List.forall_mem_cons.1 hlt
    refine .cons ?_ (ih hle' hlt')
    rw [hr.trim_eq]
    exact hr.tokenCount hle hlt

/-- A token that stands for nothing leaves the tokens without counts. -/
theorem not_tokenCounts {ranges : List (ℕ × ℕ)} {pieces : List Bytes}
    (h : List.Forall₂ PrintsRange ranges pieces) (hle : ∀ r ∈ ranges, r.1 ≤ r.2) {r : ℕ × ℕ}
    (hr : r ∈ ranges) (hbig : 2 ^ 64 ≤ r.2) (counts : List ℕ) :
    ¬ List.Forall₂ TokenCount (pieces.map trim) counts := by
  intro hcounts
  induction h generalizing counts with
  | nil => cases hr
  | cons hpiece _ ih =>
    obtain ⟨hle, hle'⟩ := List.forall_mem_cons.1 hle
    rw [List.map_cons, hpiece.trim_eq] at hcounts
    cases hcounts with
    | cons hcount hcounts =>
      obtain rfl | hr := List.mem_cons.1 hr
      · exact hpiece.not_tokenCount hle hbig _ hcount
      · exact ih hle' hr _ hcounts

theorem notMem_token_printed {ranges : List (ℕ × ℕ)} {pieces : List Bytes}
    (h : List.Forall₂ PrintsRange ranges pieces) : ∀ token ∈ pieces.map trim, 0 ∉ token := by
  intro token htoken h0
  obtain ⟨piece, hpiece, rfl⟩ := List.mem_map.1 htoken
  obtain ⟨r, hr⟩ := exists_range h piece hpiece
  exact hr.forall_bytes (p := (· ≠ 0)) (by decide) (by decide) 0 (mem_of_mem_trim h0) rfl

/-- The tokens of printed ranges are the printed ranges. -/
theorem cpuListCount_intercalate_iff {ranges : List (ℕ × ℕ)} {pieces : List Bytes}
    (h : List.Forall₂ PrintsRange ranges pieces) (hne : pieces ≠ []) (v : UInt64) :
    cpuListCount ([44].intercalate pieces) = some v ↔
      ∃ counts, List.Forall₂ TokenCount (pieces.map trim) counts ∧ v.toNat = counts.sum := by
  have hnul : 0 ∉ [44].intercalate pieces := by
    refine fun h0 => forall_intercalate (p := (· ≠ 0)) (by decide) (fun piece hpiece => ?_) 0 h0 rfl
    obtain ⟨r, hr⟩ := exists_range h piece hpiece
    exact hr.forall_bytes (by decide) (by decide)
  have hsplit : ([44].intercalate pieces).splitOn 44 = pieces := by
    refine List.splitOn_intercalate 44 (fun piece hpiece hcomma => ?_) hne
    obtain ⟨r, hr⟩ := exists_range h piece hpiece
    exact hr.forall_bytes (p := (· ≠ 44)) (by decide) (by decide) 44 hcomma rfl
  have hblank : ¬ Blank ([44].intercalate pieces) := by
    obtain ⟨piece, hpiece⟩ := List.exists_mem_of_ne_nil pieces hne
    obtain ⟨r, hr⟩ := exists_range h piece hpiece
    obtain ⟨c, hc⟩ := List.exists_mem_of_ne_nil piece hr.ne_nil
    intro hblank
    have hspace := hblank c (mem_of_mem_splitOn (hsplit.symm ▸ hpiece) hc)
    rw [hr.forall_bytes (p := (isSpace · = false)) (by decide) (by decide) c hc] at hspace
    cases hspace
  rw [cpuListCount_iff hnul hblank, hsplit]

/-- On a printed set of CPUs the count is the size of the set, if the CPUs and the size fit. -/
theorem cpuListCount_printed {cpus : Finset ℕ} {text : Bytes} (h : PrintsCpus cpus text) :
    cpuListCount text =
      if (∀ cpu ∈ cpus, cpu < 2 ^ 64) ∧ cpus.card < 2 ^ 64 then some (UInt64.ofNat cpus.card)
      else none := by
  obtain ⟨ranges, pieces, hle, hdisjoint, hmem, hpieces, rfl⟩ := h
  have hcard := card_ranges hle hdisjoint hmem
  by_cases hnil : pieces = []
  · subst hnil
    cases hpieces
    have hempty : cpus = ∅ := Finset.card_eq_zero.1 hcard
    rw [hempty]
    rfl
  have hiff := cpuListCount_intercalate_iff hpieces hnil
  by_cases hlt : ∀ cpu ∈ cpus, cpu < 2 ^ 64
  · have hbound : ∀ r ∈ ranges, r.2 < 2 ^ 64 :=
      fun r hr => hlt _ ((hmem _).2 ⟨r, hr, hle r hr, le_rfl⟩)
    have hcounts := tokenCounts_printed hpieces hle hbound
    by_cases hfit : cpus.card < 2 ^ 64
    · rw [if_pos ⟨hlt, hfit⟩, hiff]
      exact ⟨_, hcounts, by rw [UInt64.toNat_ofNat_of_lt' hfit, hcard]⟩
    · rw [if_neg fun h => hfit h.2, Option.eq_none_iff_forall_not_mem]
      intro v hv
      obtain ⟨counts, hcounts', hsum⟩ := (hiff v).1 hv
      rw [tokenCounts_unique (notMem_token_printed hpieces) hcounts' hcounts, ← hcard] at hsum
      exact hfit (hsum ▸ v.toNat_lt)
  · rw [if_neg fun h => hlt h.1, Option.eq_none_iff_forall_not_mem]
    intro v hv
    obtain ⟨counts, hcounts, -⟩ := (hiff v).1 hv
    push Not at hlt
    obtain ⟨cpu, hcpu, hbig⟩ := hlt
    obtain ⟨r, hr, -, hle'⟩ := (hmem cpu).1 hcpu
    exact not_tokenCounts hpieces hle hr (hbig.trans hle') counts hcounts

/-- The count of a text without a NUL: zero when it is blank, and otherwise the sum over its tokens,
when every token has a size and the sum fits; so it is the size of a set of CPUs that is printed. -/
theorem cpuList_exact :
    (∀ text, 0 ∉ text → (Blank text → cpuListCount text = some 0) ∧
      (¬ Blank text → ∀ v, cpuListCount text = some v ↔
        ∃ counts, List.Forall₂ TokenCount ((text.splitOn 44).map trim) counts ∧
          v.toNat = counts.sum)) ∧
      ∀ cpus text, PrintsCpus cpus text → cpuListCount text =
        if (∀ cpu ∈ cpus, cpu < 2 ^ 64) ∧ cpus.card < 2 ^ 64 then some (UInt64.ofNat cpus.card)
        else none :=
  ⟨fun _ htext => ⟨cpuListCount_blank, cpuListCount_iff htext⟩,
    fun _ _ hprinted => cpuListCount_printed hprinted⟩

theorem cpuList_exact_twelve :
    cpuListCount " " = some 0 ∧ cpuListCount "0-3,8-15\n" = some 12 ∧ cpuListCount "0-1,3" = some 3 := by
  refine ⟨(cpuList_exact.1 " " (by decide)).1 (by decide), ?_, ?_⟩
  · refine ((cpuList_exact.1 "0-3,8-15\n" (by decide)).2 (by decide) 12).2
      ⟨[4, 8], .cons ?_ (.cons ?_ .nil), by decide⟩
    · exact @TokenCount.range _ "0" "3" 0 3 (by decide) (by decide) (by decide) (by decide)
    · exact @TokenCount.range _ "8" "15" 8 15 (by decide) (by decide) (by decide) (by decide)
  · refine cpuList_exact.2 {0, 1, 3} "0-1,3" ⟨[(0, 1), (3, 3)], ["0-1", "3"], by decide, by decide, ?_,
      .cons (.range 0 1) (.cons (.single 3) .nil), by decide⟩
    intro cpu
    simp only [Finset.mem_insert, Finset.mem_singleton, List.mem_cons, List.not_mem_nil, or_false,
      exists_eq_or_imp, exists_eq_left]
    omega

end Archspec
