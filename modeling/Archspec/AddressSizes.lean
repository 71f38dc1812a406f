import Archspec.CpuDirs
import Archspec.Cpuinfo
import Archspec.Numbers
import Archspec.Lib.Words

/-!
# Address sizes

The word loop of `parse_address_sizes` remembers the last number across the commas, so a width is the
number nearest in front of the last word of its kind (`foldl_addressSizesWord`).  The width comes from a
clause of its own exactly when that number stands in the clause of the word, or some clause happens to
have it in front of such a word (`addressSizes_own_clause_iff`).
-/

namespace Archspec

open Lib Program

/-! ## Clauses -/

/-- The clause has the number as a numeral, and behind it a word that starts with `kind`. -/
def Gives (kind clause : Bytes) (n : UInt64) : Prop :=
  ∃ before numeral between word after,
    splitWords clause = before ++ numeral :: (between ++ word :: after) ∧ IsU64 numeral n ∧
      startsWith word kind = true

/-- The value of the field comes from a clause of its kind, and the field is malformed when there is
none. -/
structure OwnClause (text kind : Bytes) (field : U64Field) : Prop where
  own : field.valid = true → ∃ clause ∈ text.splitOn 44, Gives kind clause field.value
  absent : (∀ clause ∈ text.splitOn 44, ∀ n, ¬ Gives kind clause n) → field.status = .parseError

/-- The line of the usual form: the one width, what stands between, the other width, the end. -/
def sizesLine (m : UInt64) (middle : Bytes) (n : UInt64) (tail : Bytes) : Bytes :=
  decimal m.toNat ++ (middle ++ (decimal n.toNat ++ tail))

/-- Both widths come from clauses of their own, and a line of the usual form gives the widths it names. -/
structure OwnSizes (text : Bytes) (sizes : U64Field × U64Field) : Prop where
  physical : OwnClause text "physical" sizes.1
  virtualBits : OwnClause text "virtual" sizes.2
  usual : ∀ p v, text = sizesLine p " bits physical, " v " bits virtual" ∨
    text = sizesLine v " bits virtual, " p " bits physical" → sizes = (.ofValue p, .ofValue v)

/-- `n` is the last number among the words. -/
def LastNumber (words : List Bytes) (n : UInt64) : Prop :=
  ∃ before numeral between, words = before ++ numeral :: between ∧ parseU64 numeral = some n ∧
    ∀ w ∈ between, parseU64 w = none

/-- `numeral` is the number nearest in front of the last word that starts with `kind`, and `between`
stands between the two. -/
def Nearest (kind : Bytes) (words : List Bytes) (numeral : Bytes) (between : List Bytes) (n : UInt64) :
    Prop :=
  ∃ before word after, words = before ++ numeral :: (between ++ word :: after) ∧
    parseU64 numeral = some n ∧ (∀ w ∈ between, parseU64 w = none) ∧ startsWith word kind = true ∧
      ∀ w ∈ after, ¬ startsWith w kind = true

/-- The number nearest in front of the last word of the kind stands in the same clause, or some clause has
it in front of such a word. -/
def InOneClause (text kind : Bytes) : Prop :=
  ∀ numeral between n, Nearest kind (splitWords text) numeral between n →
    (0 ∉ numeral ∧ ∀ w ∈ between, 44 ∉ w) ∨ ∃ clause ∈ text.splitOn 44, Gives kind clause n

/-! ## The word loop -/

/-- One word more stands behind the word of a decomposition, or is that word. -/
theorem concat_eq_append_cons {words before after : List Bytes} {w v : Bytes}
    (h : words ++ [w] = before ++ v :: after) :
    (words = before ∧ w = v ∧ after = []) ∨
      ∃ after', words = before ++ v :: after' ∧ after = after' ++ [w] := by
  obtain rfl | ⟨after, w', rfl⟩ := List.eq_nil_or_concat' after
  · obtain ⟨hwords, hw⟩ := List.append_inj' h rfl
    exact .inl ⟨hwords, List.singleton_inj.mp hw, rfl⟩
  · rw [← List.cons_append, ← List.append_assoc] at h
    obtain ⟨hwords, hw⟩ := List.append_inj' h rfl
    obtain rfl := List.singleton_inj.mp hw
    exact .inr ⟨after, hwords, rfl⟩

theorem lastNumber_concat {words : List Bytes} {w : Bytes} {n : UInt64} :
    LastNumber (words ++ [w]) n ↔
      parseU64 w = some n ∨ parseU64 w = none ∧ LastNumber words n := by
  constructor
  · rintro ⟨before, numeral, between, heq, hn, hbetween⟩
    obtain ⟨-, rfl, -⟩ | ⟨between, rfl, rfl⟩ := concat_eq_append_cons heq
    · exact .inl hn
    · rw [List.forall_mem_append, List.forall_mem_singleton] at hbetween
      exact .inr ⟨hbetween.2, before, numeral, between, rfl, hn, hbetween.1⟩
  · rintro (hw | ⟨hw, before, numeral, between, rfl, hn, hbetween⟩)
    · exact ⟨words, w, [], rfl, hw, by simp⟩
    · refine ⟨before, numeral, between ++ [w], by simp, hn, ?_⟩
      rw [List.forall_mem_append, List.forall_mem_singleton]
      exact ⟨hbetween, hw⟩

theorem nearest_concat {kind : Bytes} {words : List Bytes} {w : Bytes} {n : UInt64} :
    (∃ numeral between, Nearest kind (words ++ [w]) numeral between n) ↔
      if startsWith w kind then LastNumber words n
      else ∃ numeral between, Nearest kind words numeral between n := by
  constructor
  · rintro ⟨numeral, between, before, word, after, heq, hn, hbetween, hword, hafter⟩
    rw [← List.cons_append, ← List.append_assoc] at heq
    obtain ⟨rfl, rfl, -⟩ | ⟨after, rfl, rfl⟩ := concat_eq_append_cons heq
    · rw [if_pos hword]
      exact ⟨before, numeral, between, rfl, hn, hbetween⟩
    · rw [List.forall_mem_append, List.forall_mem_singleton] at hafter
      rw [if_neg hafter.2]
      exact ⟨numeral, between, before, word, after, by simp, hn, hbetween, hword, hafter.1⟩
  · intro h
    by_cases hw : startsWith w kind = true
    · rw [if_pos hw] at h
      obtain ⟨before, numeral, between, rfl, hn, hbetween⟩ := h
      exact ⟨numeral, between, before, w, [], by simp, hn, hbetween, hw, by simp⟩
    · rw [if_neg hw] at h
      obtain ⟨numeral, between, before, word, after, rfl, hn, hbetween, hword, hafter⟩ := h
      refine ⟨numeral, between, before, word, after ++ [w], by simp, hn, hbetween, hword, ?_⟩
      rw [List.forall_mem_append, List.forall_mem_singleton]
      exact ⟨hafter, hw⟩

/-- Words with a number have a last one. -/
theorem exists_lastNumber {words : List Bytes} {w : Bytes} {n : UInt64} (hw : w ∈ words)
    (hn : parseU64 w = some n) : ∃ m, LastNumber words m := by
  induction words using List.reverseRecOn with
  | nil => cases hw
  | append_singleton words v ih =>
    cases hv : parseU64 v with
    | some m => exact ⟨m, lastNumber_concat.mpr (.inl hv)⟩
    | none =>
      rcases List.mem_append.mp hw with hmem | hmem
      · obtain ⟨m, hm⟩ := ih hmem
        exact ⟨m, lastNumber_concat.mpr (.inr ⟨hv, hm⟩)⟩
      · rw [List.mem_singleton.mp hmem, hv] at hn
        cases hn

/-- The last number and the width of a kind that the words give. -/
structure Found (kind : Bytes) (words : List Bytes) (last width : Option UInt64) : Prop where
  last_iff : ∀ n, last = some n ↔ LastNumber words n
  width_iff : ∀ n, width = some n ↔ ∃ numeral between, Nearest kind words numeral between n

theorem found_nil (kind : Bytes) : Found kind [] none none := by
  constructor
  · simp [LastNumber]
  · simp [Nearest]

theorem Found.concat {kind : Bytes} {words : List Bytes} {last width : Option UInt64}
    (h : Found kind words last width) (w : Bytes) :
    Found kind (words ++ [w]) ((parseU64 w).or last)
      (if startsWith w kind then last.or width else width) := by
  constructor
  · intro n
    rw [lastNumber_concat, ← h.last_iff]
    cases parseU64 w <;> simp
  · intro n
    rw [nearest_concat]
    split
    · cases hlast : last with
      | some m =>
        rw [Option.some_or, ← hlast]
        exact h.last_iff n
      | none =>
        have hnone : ∀ m, ¬ LastNumber words m := by
          intro m hm
          rw [← h.last_iff, hlast] at hm
          cases hm
        rw [Option.none_or]
        refine iff_of_false (fun hwidth => ?_) (hnone n)
        obtain ⟨numeral, between, before, word, after, rfl, hn, -⟩ := (h.width_iff n).mp hwidth
        obtain ⟨m, hm⟩ := exists_lastNumber (List.mem_append_right before List.mem_cons_self) hn
        exact hnone m hm
    · exact h.width_iff n

/-- A word that a letter beyond the decimal digits begins is no number. -/
theorem parseU64_eq_none {c : UInt8} (hzero : c ≠ 0) (hplus : c ≠ 43) (hspace : isSpace c = false)
    (hdigit : ∀ d ∈ digitValue c, 10 ≤ d) (s : Bytes) : parseU64 (c :: s) = none := by
  by_contra h
  obtain ⟨v, hv⟩ := Option.ne_none_iff_exists'.mp h
  obtain ⟨sign, run, htrim, hsign, hrun⟩ := (parseU64_iff _ v).mp hv
  have hhead := head?_trim blank_nil hspace (cString s)
  have hcString : cString (c :: s) = c :: cString s :=
    List.takeWhile_cons_of_pos (decide_eq_true hzero)
  rw [List.nil_append, ← hcString, htrim] at hhead
  rcases hsign with rfl | rfl
  · obtain ⟨c', s', d, rfl, hd, hlt⟩ := hrun.head
    obtain rfl := Option.some.inj hhead
    have := hdigit d hd
    omega
  · exact hplus (Option.some.inj hhead).symm

/-- A word of one of the two kinds is no number. -/
theorem parseU64_of_startsWith {w : Bytes} {kind : Bytes} (hkind : kind = "physical" ∨ kind = "virtual")
    (h : startsWith w kind = true) : parseU64 w = none := by
  obtain ⟨rest, rfl⟩ := List.isPrefixOf_iff_prefix.mp h
  rcases hkind with rfl | rfl
  · exact parseU64_eq_none (by decide) (by decide) (by decide) (by decide) _
  · exact parseU64_eq_none (by decide) (by decide) (by decide) (by decide) _

theorem not_startsWith_virtual {w : Bytes} (h : startsWith w "physical" = true) :
    startsWith w "virtual" = false := by
  obtain ⟨rest, rfl⟩ := List.isPrefixOf_iff_prefix.mp h
  exact startsWith_cons_of_ne (by decide) _ _

/-- What a word does to the last number and to each width. -/
theorem addressSizesWord_eq (state : AddressSizes) (w : Bytes) :
    addressSizesWord state w =
      { lastNumber := (parseU64 w).or state.lastNumber
        physical := if startsWith w "physical" then state.lastNumber.or state.physical
          else state.physical
        virtualBits := if startsWith w "virtual" then state.lastNumber.or state.virtualBits
          else state.virtualBits } := by
  obtain ⟨last, physical, virtualBits⟩ := state
  unfold addressSizesWord
  by_cases hphysical : startsWith w "physical" = true
  · rw [parseU64_of_startsWith (.inl rfl) hphysical, not_startsWith_virtual hphysical]
    simp only [hphysical, if_true]
    cases last <;> rfl
  · by_cases hvirtual : startsWith w "virtual" = true
    · rw [parseU64_of_startsWith (.inr rfl) hvirtual]
      simp only [hphysical, hvirtual, if_true]
      cases last <;> rfl
    · simp only [hphysical, hvirtual]
      cases parseU64 w <;> cases last <;> rfl

/-- The loop finds the widths of both kinds. -/
theorem foldl_addressSizesWord (words : List Bytes) :
    Found "physical" words (words.foldl addressSizesWord {}).lastNumber
        (words.foldl addressSizesWord {}).physical ∧
      Found "virtual" words (words.foldl addressSizesWord {}).lastNumber
        (words.foldl addressSizesWord {}).virtualBits := by
  induction words using List.reverseRecOn with
  | nil => exact ⟨found_nil _, found_nil _⟩
  | append_singleton words w ih =>
    rw [List.foldl_append, List.foldl_cons, List.foldl_nil, addressSizesWord_eq]
    exact ⟨ih.1.concat w, ih.2.concat w⟩

/-! ## The widths -/

/-- A number in the clause of the word is a number of the clause. -/
theorem gives_of_nearest {text kind numeral : Bytes} {between : List Bytes} {n : UInt64}
    (h : Nearest kind (splitWords text) numeral between n) (hne : kind ≠ []) (hkind : 44 ∉ kind)
    (hnumeral : 0 ∉ numeral) (hbetween : ∀ w ∈ between, 44 ∉ w) :
    ∃ clause ∈ text.splitOn 44, Gives kind clause n := by
  obtain ⟨before, word, after, hwords, hn, -, hword, -⟩ := h
  have hnumber := (parseU64_iff_isU64 hnumeral n).1 hn
  obtain ⟨clause, hclause, before', word', after', hwords', hword'⟩ :=
    exists_piece (by decide) hwords
      (hnumber.notMem_of_noDigit (by decide) (by decide) (by decide)) hbetween hne
      (List.isPrefixOf_iff_prefix.mp hword) hkind
  exact ⟨clause, hclause, before', numeral, between, word', after', hwords', hnumber,
    List.isPrefixOf_iff_prefix.mpr hword'⟩

theorem ownClause_iff {text kind : Bytes} {last width : Option UInt64}
    (h : Found kind (splitWords text) last width) (hne : kind ≠ []) (hkind : 44 ∉ kind) :
    OwnClause text kind (addressField width) ↔ InOneClause text kind := by
  constructor
  · intro hown numeral between n hnearest
    obtain rfl := (h.width_iff n).mpr ⟨numeral, between, hnearest⟩
    exact .inr (hown.own rfl)
  · intro hone
    have hgives : ∀ n, width = some n → ∃ clause ∈ text.splitOn 44, Gives kind clause n := by
      intro n hn
      obtain ⟨numeral, between, hnearest⟩ := (h.width_iff n).mp hn
      obtain ⟨hnumeral, hbetween⟩ | hclause := hone numeral between n hnearest
      · exact gives_of_nearest hnearest hne hkind hnumeral hbetween
      · exact hclause
    cases width with
    | none => exact ⟨nofun, fun _ => rfl⟩
    | some n =>
      obtain ⟨clause, hclause, hn⟩ := hgives n rfl
      exact ⟨fun _ => ⟨clause, hclause, hn⟩, fun hnone => absurd hn (hnone clause hclause n)⟩

/-- The words of a line of the usual form. -/
theorem splitWords_sizesLine (m n : UInt64) {middle tail : Bytes} (hmiddle : middle ≠ [])
    (hstart : StartsBlank middle) (hend : EndsBlank middle) (htail : StartsBlank tail) :
    splitWords (sizesLine m middle n tail) =
      decimal m.toNat :: (splitWords middle ++ decimal n.toNat :: splitWords tail) := by
  have hfree : ∀ k, ∀ c ∈ decimal k, isSpace c = false :=
    forall_decimal (p := fun c => isSpace c = false) (by decide)
  have hstart' : ∀ t, StartsBlank (middle ++ t) := by
    obtain ⟨c, rest, rfl⟩ := List.exists_cons_of_ne_nil hmiddle
    exact fun t => hstart
  rw [sizesLine, splitWords_word (decimal_ne_nil _) (hfree _) (hstart' _), splitWords_append_end hend,
    splitWords_word (decimal_ne_nil _) (hfree _) htail]

theorem parseU64_toNat (n : UInt64) : parseU64 (decimal n.toNat) = some n := by
  rw [parseU64_decimal n.toNat_lt, UInt64.ofNat_toNat]

/-- A line of the usual form gives its widths, in both orders. -/
theorem foldl_sizesLine (p v : UInt64) :
    (splitWords (sizesLine p " bits physical, " v " bits virtual")).foldl addressSizesWord {} =
        ⟨some v, some p, some v⟩ ∧
      (splitWords (sizesLine v " bits virtual, " p " bits physical")).foldl addressSizesWord {} =
        ⟨some p, some p, some v⟩ := by
  have hbits : parseU64 "bits" = none := by decide
  have hphysical : splitWords (sizesLine p " bits physical, " v " bits virtual") =
      [decimal p.toNat, "bits", "physical,", decimal v.toNat, "bits", "virtual"] :=
    splitWords_sizesLine p v (by decide) (by decide) (by decide) (by decide)
  have hvirtual : splitWords (sizesLine v " bits virtual, " p " bits physical") =
      [decimal v.toNat, "bits", "virtual,", decimal p.toNat, "bits", "physical"] :=
    splitWords_sizesLine v p (by decide) (by decide) (by decide) (by decide)
  rw [hphysical, hvirtual]
  constructor
  · simp only [List.foldl_cons, List.foldl_nil, addressSizesWord, parseU64_toNat, hbits]
    rfl
  · simp only [List.foldl_cons, List.foldl_nil, addressSizesWord, parseU64_toNat, hbits]
    rfl

/-- An empty value counts as a missing line. -/
theorem parseAddressSizes_empty {block : KeyValueMap}
    (h : block.lookup (bytes "address sizes") = some []) :
    parseAddressSizes block = (.unavailable .notFound, .unavailable .notFound) := by
  have hvalue : mapValue block "address sizes" = none := by
    rw [mapValue, h]
    rfl
  rw [parseAddressSizes, hvalue]

theorem not_ownSizes_empty {sizes : U64Field × U64Field} (h : sizes.1.status = .notFound) :
    ¬ OwnSizes [] sizes := by
  intro hown
  have hnone : ∀ clause ∈ List.splitOn 44 ([] : Bytes), ∀ n, ¬ Gives "physical" clause n := by
    rintro clause hclause n ⟨before, numeral, between, word, after, hwords, -⟩
    have hnil : ∀ clause ∈ List.splitOn 44 ([] : Bytes), splitWords clause = [] := by decide
    rw [hnil clause hclause] at hwords
    exact List.append_ne_nil_of_right_ne_nil before (List.cons_ne_nil _ _) hwords.symm
  have habsent := hown.physical.absent hnone
  rw [h] at habsent
  cases habsent

/-- The widths come from clauses of their own exactly if the value is not empty and for both kinds
the number nearest in front of the last word stands in the same clause, or in front of such a word
in some clause.  Of an empty value both widths are not found. -/
theorem addressSizes_own_clause_iff (block : KeyValueMap) {text : Bytes}
    (h : block.lookup (bytes "address sizes") = some text) :
    (OwnSizes text (parseAddressSizes block) ↔
      text ≠ [] ∧ InOneClause text "physical" ∧ InOneClause text "virtual") ∧
    (text = [] → parseAddressSizes block = (.unavailable .notFound, .unavailable .notFound)) := by
  have hempty : text = [] →
      parseAddressSizes block = (.unavailable .notFound, .unavailable .notFound) :=
    fun htext => parseAddressSizes_empty (htext ▸ h)
  refine ⟨?_, hempty⟩
  by_cases htext : text = []
  · rw [hempty htext]
    subst htext
    exact iff_of_false (not_ownSizes_empty rfl) fun hone => hone.1 rfl
  have hvalue : mapValue block "address sizes" = some text := by
    rw [mapValue, h, Option.filter_some]
    exact if_pos (decide_eq_true htext)
  obtain ⟨hphysical, hvirtual⟩ := foldl_addressSizesWord (splitWords text)
  have hphysical := ownClause_iff hphysical (by decide) (by decide)
  have hvirtual := ownClause_iff hvirtual (by decide) (by decide)
  rw [parseAddressSizes, hvalue]
  constructor
  · intro hown
    exact ⟨htext, hphysical.mp hown.physical, hvirtual.mp hown.virtualBits⟩
  · intro hone
    refine ⟨hphysical.mpr hone.2.1, hvirtual.mpr hone.2.2, fun p v htext => ?_⟩
    obtain rfl | rfl := htext
    · dsimp only
      rw [(foldl_sizesLine p v).1]
      rfl
    · dsimp only
      rw [(foldl_sizesLine p v).2]
      rfl

theorem addressSizes_own_clause_iff_usual :
    InOneClause "57 bits virtual, 46 bits physical" "physical" ∧
      InOneClause "57 bits virtual, 46 bits physical" "virtual" := by
  have hparse : parseAddressSizes (blockOf [("address sizes", "57 bits virtual, 46 bits physical")]) =
      (.ofValue 46, .ofValue 57) := by decide
  have hfold : (splitWords "57 bits virtual, 46 bits physical").foldl addressSizesWord {} =
      ⟨some 46, some 46, some 57⟩ := rfl
  have hphysical : Gives "physical" " 46 bits physical" 46 :=
    ⟨[], "46", ["bits"], "physical", [], by decide, (parseU64_iff_isU64 (by decide) 46).1 (by decide), by decide⟩
  have hvirtual : Gives "virtual" "57 bits virtual" 57 :=
    ⟨[], "57", ["bits"], "virtual", [], by decide, (parseU64_iff_isU64 (by decide) 57).1 (by decide), by decide⟩
  refine ((addressSizes_own_clause_iff
    (blockOf [("address sizes", "57 bits virtual, 46 bits physical")]) (by decide)).1.1 ?_).2
  rw [hparse]
  refine ⟨⟨fun _ => ⟨_, by decide, hphysical⟩, fun hnone => ?_⟩,
    ⟨fun _ => ⟨_, by decide, hvirtual⟩, fun hnone => ?_⟩, fun p v htext => ?_⟩
  · exact absurd hphysical (hnone _ (by decide) 46)
  · exact absurd hvirtual (hnone _ (by decide) 57)
  · have hwidths : some p = some (46 : UInt64) ∧ some v = some (57 : UInt64) := by
      obtain h | h := htext
      · rw [h, (foldl_sizesLine p v).1] at hfold
        exact ⟨congrArg AddressSizes.physical hfold, congrArg AddressSizes.virtualBits hfold⟩
      · rw [h, (foldl_sizesLine p v).2] at hfold
        exact ⟨congrArg AddressSizes.physical hfold, congrArg AddressSizes.virtualBits hfold⟩
    rw [Option.some.inj hwidths.1, Option.some.inj hwidths.2]

/-- A clause without a number takes the number of the clause in front. -/
theorem addressSizes_borrowed :
    mapValue (blockOf [("address sizes", "36 bits physical, virtual")]) "address sizes" =
        some (bytes "36 bits physical, virtual") ∧
      ¬ OwnSizes "36 bits physical, virtual"
        (parseAddressSizes (blockOf [("address sizes", "36 bits physical, virtual")])) := by
  have hparse : parseAddressSizes (blockOf [("address sizes", "36 bits physical, virtual")]) =
      (.ofValue 36, .ofValue 36) := by decide
  refine ⟨by decide, fun h => ?_⟩
  rw [hparse] at h
  obtain ⟨clause, hclause, before, numeral, between, word, after, hwords, hnumeral, hword⟩ :=
    h.virtualBits.own rfl
  have hparsed := parseU64_of_isU64 hnumeral
  have hnone : ∀ clause ∈ (bytes "36 bits physical, virtual").splitOn 44, ∀ word ∈ splitWords clause,
      startsWith word "virtual" = true → ∀ numeral ∈ splitWords clause, parseU64 numeral ≠ some 36 := by
    decide
  exact hnone clause hclause word (by simp [hwords]) hword numeral (by simp [hwords]) hparsed

end Archspec
