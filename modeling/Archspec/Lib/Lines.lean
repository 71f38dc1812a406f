import Archspec.Lib.Bytes

/-!
# Trimming and lines

A text is its trimmed part between two pieces of blanks (`exists_trim`), and blanks put around a
text do not change what trimming leaves (`trim_padded`).  A text written as lines (`Writes`) is read
as these lines, but for an empty last one (`lines_of_writes`).
-/

namespace Lib

/-! ## Trimming -/

/-- Only blanks. -/
def Blank (s : Bytes) : Prop := ∀ c ∈ s, isSpace c = true

instance (s : Bytes) : Decidable (Blank s) := inferInstanceAs (Decidable (∀ c ∈ s, _))

/-- No blank at either end. -/
def Trimmed (s : Bytes) : Prop :=
  (∀ c ∈ s.head?, isSpace c = false) ∧ ∀ c ∈ s.getLast?, isSpace c = false

instance (s : Bytes) : Decidable (Trimmed s) := inferInstanceAs (Decidable (_ ∧ _))

theorem blank_nil : Blank [] := fun _ h => absurd h List.not_mem_nil

theorem blank_append_iff {s t : Bytes} : Blank (s ++ t) ↔ Blank s ∧ Blank t :=
  List.forall_mem_append

theorem rdropWhile_append_blank {s b : Bytes} (hb : Blank b) :
    (s ++ b).rdropWhile isSpace = s.rdropWhile isSpace := by
  induction b using List.reverseRecOn with
  | nil => rw [List.append_nil]
  | append_singleton b c ih =>
    obtain ⟨hb, hc⟩ := blank_append_iff.1 hb
    rw [← List.append_assoc, List.rdropWhile_concat_pos _ _ _ (hc c (List.mem_singleton_self c)),
      ih hb]

/-- Dropping blanks at the end leaves a text that ends in none. -/
theorem rdropWhile_eq_self {s : Bytes} (h : ∀ c ∈ s.getLast?, isSpace c = false) :
    s.rdropWhile isSpace = s := by
  rw [List.rdropWhile_eq_self_iff]
  intro hne
  rw [h _ (List.getLast?_eq_some_getLast hne)]
  exact Bool.false_ne_true

theorem dropWhile_eq_self {s : Bytes} (h : ∀ c ∈ s.head?, isSpace c = false) :
    s.dropWhile isSpace = s := by
  cases s with
  | nil => rfl
  | cons c s => rw [List.dropWhile_cons_of_neg (by simp [h c rfl])]

theorem trim_of_trimmed {s : Bytes} (h : Trimmed s) : trim s = s := by
  rw [trim, dropWhile_eq_self h.1, rdropWhile_eq_self h.2]

theorem trim_eq_nil_iff {s : Bytes} : trim s = [] ↔ Blank s := by
  rw [trim, List.rdropWhile_eq_nil_iff]
  constructor
  · intro h c hc
    rw [← List.takeWhile_append_dropWhile (p := isSpace) (l := s)] at hc
    rcases List.mem_append.1 hc with hc | hc
    · exact List.mem_takeWhile_imp hc
    · exact h c hc
  · intro h c hc
    exact h c ((List.dropWhile_suffix _).subset hc)

theorem trimmed_trim (s : Bytes) : Trimmed (trim s) := by
  constructor
  · intro c hc
    obtain ⟨t, ht⟩ : trim s <+: s.dropWhile isSpace := List.rdropWhile_prefix _ _
    have hhead : (s.dropWhile isSpace).head? = some c := by
      rw [← ht, List.head?_append, hc, Option.some_or]
    have hnot := List.head?_dropWhile_not isSpace s
    rw [hhead] at hnot
    simpa using hnot
  · intro c hc
    have hne : trim s ≠ [] := by
      rintro hnil
      rw [hnil] at hc
      cases hc
    have hlast := List.rdropWhile_last_not isSpace (s.dropWhile isSpace) hne
    rw [Option.mem_def, List.getLast?_eq_some_getLast hne] at hc
    rw [← Option.some.inj hc]
    exact Bool.eq_false_iff.2 hlast

/-- A text is its trimmed part between blanks. -/
theorem exists_trim (s : Bytes) : ∃ a b, Blank a ∧ Blank b ∧ s = a ++ (trim s ++ b) := by
  refine ⟨s.takeWhile isSpace, (s.dropWhile isSpace).rtakeWhile isSpace, fun c => List.mem_takeWhile_imp,
    fun c => List.mem_rtakeWhile_imp, ?_⟩
  rw [trim, List.rdropWhile_append_rtakeWhile, List.takeWhile_append_dropWhile]

/-- Blanks around a text are trimmed away. -/
theorem trim_padded {a b : Bytes} (s : Bytes) (ha : Blank a) (hb : Blank b) :
    trim (a ++ (s ++ b)) = trim s := by
  rw [trim, List.dropWhile_append_of_pos ha, trim]
  by_cases hs : Blank s
  · have hsb : (s ++ b).dropWhile isSpace = [] :=
      List.dropWhile_eq_nil_iff.2 (blank_append_iff.2 ⟨hs, hb⟩)
    rw [hsb, List.dropWhile_eq_nil_iff.2 hs]
  · have hne : (s.dropWhile isSpace).isEmpty = false := by
      rw [List.isEmpty_eq_false_iff]
      exact fun hnil => hs (List.dropWhile_eq_nil_iff.1 hnil)
    rw [List.dropWhile_append, hne, if_neg Bool.false_ne_true, rdropWhile_append_blank hb]

/-- The first byte that is no blank begins the trimmed text. -/
theorem head?_trim {a : Bytes} {c : UInt8} (ha : Blank a) (hc : isSpace c = false) (s : Bytes) :
    (trim (a ++ c :: s)).head? = some c := by
  have hpadded := trim_padded (c :: s) ha blank_nil
  rw [List.append_nil] at hpadded
  obtain ⟨front, back, hfront, hback, hs⟩ := exists_trim (c :: s)
  have hblank : ∀ {t : Bytes}, Blank (c :: t) → False := by
    intro t ht
    rw [ht c List.mem_cons_self] at hc
    cases hc
  rw [hpadded]
  cases front with
  | cons d front =>
    obtain ⟨rfl, -⟩ := List.cons.inj hs
    exact (hblank hfront).elim
  | nil =>
    cases htrim : trim (c :: s) with
    | nil =>
      rw [htrim, List.nil_append, List.nil_append] at hs
      exact (hblank (hs ▸ hback)).elim
    | cons d t =>
      rw [htrim] at hs
      obtain ⟨rfl, -⟩ := List.cons.inj hs
      rfl

theorem mem_of_mem_trim {s : Bytes} {c : UInt8} (h : c ∈ trim s) : c ∈ s := by
  obtain ⟨a, b, -, -, hs⟩ := exists_trim s
  rw [hs]
  exact List.mem_append_right a (List.mem_append_left b h)

/-- What is no blank stands in a text only if it stands in the trimmed text. -/
theorem notMem_of_notMem_trim {s : Bytes} {c : UInt8} (hc : isSpace c = false) (h : c ∉ trim s) :
    c ∉ s := by
  obtain ⟨a, b, ha, hb, hs⟩ := exists_trim s
  intro hmem
  rw [hs, List.mem_append, List.mem_append] at hmem
  rcases hmem with hmem | hmem | hmem
  · rw [ha c hmem] at hc
    cases hc
  · exact h hmem
  · rw [hb c hmem] at hc
    cases hc

/-! ## Lines -/

/-- The text writes the lines one after another, the last with or without a newline. -/
def Writes (ls : List Bytes) (text : Bytes) : Prop :=
  (∀ line ∈ ls, 10 ∉ line) ∧
    (text = ls.flatMap (· ++ [10]) ∨ text ++ [10] = ls.flatMap (· ++ [10]))

theorem getlines_of_notMem {delim : UInt8} {line : Bytes} (h : delim ∉ line) (hne : line ≠ []) :
    getlines delim line = [line] := by
  induction line with
  | nil => exact absurd rfl hne
  | cons c line ih =>
    obtain ⟨hc, hline⟩ := not_or.1 fun hmem => h (List.mem_cons.2 hmem)
    rw [getlines, if_neg (Ne.symm hc)]
    by_cases hnil : line = []
    · subst hnil
      rfl
    · rw [ih hline hnil]

theorem getlines_append {delim : UInt8} {line : Bytes} (h : delim ∉ line) (s : Bytes) :
    getlines delim (line ++ delim :: s) = line :: getlines delim s := by
  induction line with
  | nil => rw [List.nil_append, getlines, if_pos rfl]
  | cons c line ih =>
    obtain ⟨hc, hline⟩ := not_or.1 fun hmem => h (List.mem_cons.2 hmem)
    rw [List.cons_append, getlines, if_neg (Ne.symm hc), ih hline]

theorem lines_flatMap_append {ls : List Bytes} (h : ∀ line ∈ ls, 10 ∉ line) (s : Bytes) :
    lines (ls.flatMap (· ++ [10]) ++ s) = ls ++ lines s := by
  induction ls with
  | nil => rfl
  | cons line ls ih =>
    obtain ⟨hline, hls⟩ := List.forall_mem_cons.1 h
    rw [List.flatMap_cons, List.append_assoc, List.append_assoc, List.singleton_append, lines,
      getlines_append hline]
    exact congrArg (line :: ·) (ih hls)

/-- The lines of a text are those it was written as; an empty last one without a newline is none. -/
theorem lines_of_writes {ls : List Bytes} {text : Bytes} (h : Writes ls text) :
    lines text = ls ∨ ls = lines text ++ [[]] := by
  obtain ⟨hls, htext | htext⟩ := h
  · rw [← List.append_nil (ls.flatMap _)] at htext
    rw [htext, lines_flatMap_append hls]
    exact Or.inl (List.append_nil ls)
  · cases ls using List.reverseRecOn with
    | nil => simp at htext
    | append_singleton ls line =>
      obtain ⟨hls, hline⟩ := List.forall_mem_append.1 hls
      rw [List.flatMap_append, List.flatMap_singleton, ← List.append_assoc,
        List.append_left_inj] at htext
      rw [htext, lines_flatMap_append hls]
      by_cases hnil : line = []
      · subst hnil
        exact Or.inr (by rw [lines, getlines, List.append_nil])
      · rw [lines, getlines_of_notMem (hline line (List.mem_singleton_self line)) hnil]
        exact Or.inl rfl

end Lib
