import Archspec.Lib.Pieces

/-!
# Words of a text

The words in front of and behind a blank are the words of the two parts (`splitWords_append_start`,
`splitWords_append_end`), and a text falls apart around each of its words (`exists_around`).  Words
without a delimiter among them stand in one piece of the text (`exists_piece`).
-/

namespace Lib

/-- The text is empty or a blank stands in front. -/
def StartsBlank (s : Bytes) : Prop := ∀ c ∈ s.head?, isSpace c = true

/-- The text is empty or a blank stands at its end. -/
def EndsBlank (s : Bytes) : Prop := ∀ c ∈ s.getLast?, isSpace c = true

instance (s : Bytes) : Decidable (StartsBlank s) := inferInstanceAs (Decidable (∀ c ∈ s.head?, _))

instance (s : Bytes) : Decidable (EndsBlank s) := inferInstanceAs (Decidable (∀ c ∈ s.getLast?, _))

theorem Blank.endsBlank {s : Bytes} (h : Blank s) : EndsBlank s :=
  fun c hc => h c (List.mem_of_mem_getLast? hc)

theorem splitWords_cons_blank {c : UInt8} (hc : isSpace c = true) (s : Bytes) :
    splitWords (c :: s) = splitWords s := by
  unfold splitWords
  rw [splitWordsFrom, if_pos hc, if_pos rfl]

theorem splitWords_blank {s : Bytes} (h : Blank s) : splitWords s = [] := by
  induction s with
  | nil => rfl
  | cons c s ih =>
    rw [splitWords_cons_blank (h c List.mem_cons_self)]
    exact ih fun d hd => h d (List.mem_cons_of_mem c hd)

theorem splitWordsFrom_append (word s : Bytes) {t : Bytes} (ht : StartsBlank t) :
    splitWordsFrom word (s ++ t) = splitWordsFrom word s ++ splitWords t := by
  induction s generalizing word with
  | nil =>
    cases t with
    | nil => exact (List.append_nil _).symm
    | cons c t =>
      have hc : isSpace c = true := ht c rfl
      rw [List.nil_append, splitWords_cons_blank hc, splitWordsFrom.eq_2, if_pos hc, splitWordsFrom.eq_1]
      split <;> rfl
  | cons c s ih =>
    rw [List.cons_append, splitWordsFrom, splitWordsFrom, ih, ih]
    split
    · split <;> rfl
    · rfl

theorem splitWords_append_start (s : Bytes) {t : Bytes} (ht : StartsBlank t) :
    splitWords (s ++ t) = splitWords s ++ splitWords t := splitWordsFrom_append [] s ht

theorem splitWords_append_end {s : Bytes} (hs : EndsBlank s) (t : Bytes) :
    splitWords (s ++ t) = splitWords s ++ splitWords t := by
  obtain rfl | ⟨s, c, rfl⟩ := List.eq_nil_or_concat' s
  · rfl
  · have hc : isSpace c = true := hs c (by rw [List.getLast?_concat]; rfl)
    have hsingle : StartsBlank [c] := fun d hd => Option.some.inj hd ▸ hc
    have hcons : StartsBlank (c :: t) := fun d hd => Option.some.inj hd ▸ hc
    rw [splitWords_append_start s hsingle, List.append_assoc, List.singleton_append,
      splitWords_append_start s hcons, splitWords_cons_blank hc, splitWords_cons_blank hc]
    show _ = splitWords s ++ [] ++ splitWords t
    rw [List.append_nil]

theorem splitWordsFrom_blankFree {word w : Bytes} (hne : word ++ w ≠ [])
    (hw : ∀ c ∈ w, isSpace c = false) : splitWordsFrom word w = [word ++ w] := by
  induction w generalizing word with
  | nil =>
    rw [List.append_nil] at hne ⊢
    rw [splitWordsFrom, if_neg hne]
  | cons c w ih =>
    rw [splitWordsFrom, if_neg (by rw [hw c List.mem_cons_self]; exact Bool.false_ne_true)]
    have hassoc : word ++ c :: w = word ++ [c] ++ w := by simp
    rw [hassoc] at hne ⊢
    exact ih hne fun d hd => hw d (List.mem_cons_of_mem c hd)

/-- A word with a blank behind it. -/
theorem splitWords_word {w t : Bytes} (hne : w ≠ []) (hw : ∀ c ∈ w, isSpace c = false)
    (ht : StartsBlank t) : splitWords (w ++ t) = w :: splitWords t := by
  have hword : splitWords w = [w] := @splitWordsFrom_blankFree [] w hne hw
  rw [splitWords_append_start w ht, hword, List.singleton_append]

theorem startsBlank_dropWhile (s : Bytes) : StartsBlank (s.dropWhile fun c => !isSpace c) := by
  intro c hc
  have hnot := List.head?_dropWhile_not (fun c => !isSpace c) s
  rw [Option.mem_def.mp hc] at hnot
  simpa using hnot

/-- The word that a text without a blank begins. -/
theorem splitWords_beginning {k : Bytes} (hne : k ≠ []) (hk : ∀ c ∈ k, isSpace c = false) (t : Bytes) :
    splitWords (k ++ t) =
      (k ++ t.takeWhile fun c => !isSpace c) :: splitWords (t.dropWhile fun c => !isSpace c) := by
  have hword : ∀ c ∈ k ++ t.takeWhile fun c => !isSpace c, isSpace c = false := by
    intro c hc
    rcases List.mem_append.mp hc with hc | hc
    · exact hk c hc
    · simpa using List.mem_takeWhile_imp hc
  rw [← splitWords_word (List.append_ne_nil_of_left_ne_nil hne _) hword (startsBlank_dropWhile t),
    List.append_assoc, List.takeWhile_append_dropWhile]

/-! ## Around a word -/

/-- The first word has only blanks in front. -/
theorem exists_first {s w : Bytes} {ws : List Bytes} (h : splitWords s = w :: ws) :
    ∃ gap after, s = gap ++ (w ++ after) ∧ Blank gap ∧ StartsBlank after ∧ splitWords after = ws := by
  induction s with
  | nil => cases h
  | cons c s ih =>
    by_cases hc : isSpace c = true
    · rw [splitWords_cons_blank hc] at h
      obtain ⟨gap, after, rfl, hgap, hafter, hws⟩ := ih h
      exact ⟨c :: gap, after, rfl, List.forall_mem_cons.mpr ⟨hc, hgap⟩, hafter, hws⟩
    · have hsingle : ∀ d ∈ [c], isSpace d = false := by simpa using hc
      have hcons := splitWords_beginning (List.cons_ne_nil c []) hsingle s
      rw [List.singleton_append, h] at hcons
      obtain ⟨rfl, rfl⟩ := List.cons.inj hcons
      refine ⟨[], _, ?_, blank_nil, startsBlank_dropWhile s, rfl⟩
      rw [List.nil_append, List.append_assoc, List.takeWhile_append_dropWhile, List.singleton_append]

/-- What stands between a blank and a word is not empty. -/
theorem startsBlank_of_append {s w t : Bytes} (h : StartsBlank (s ++ (w ++ t))) (hne : w ≠ [])
    (hfree : ∀ c ∈ w, isSpace c = false) : s ≠ [] ∧ ∀ u, StartsBlank (s ++ u) := by
  cases s with
  | nil =>
    obtain ⟨c, w, rfl⟩ := List.exists_cons_of_ne_nil hne
    have hblank : isSpace c = true := h c rfl
    rw [hfree c List.mem_cons_self] at hblank
    cases hblank
  | cons c s => exact ⟨List.cons_ne_nil c s, fun u => h⟩

/-- The parts of a text around one of its words. -/
theorem exists_around {s w : Bytes} {ws ws' : List Bytes} (h : splitWords s = ws ++ w :: ws') :
    ∃ before after, s = before ++ (w ++ after) ∧ EndsBlank before ∧ StartsBlank after ∧
      splitWords before = ws ∧ splitWords after = ws' := by
  induction ws generalizing s with
  | nil =>
    obtain ⟨gap, after, hs, hgap, hafter, hws⟩ := exists_first h
    exact ⟨gap, after, hs, hgap.endsBlank, hafter, splitWords_blank hgap, hws⟩
  | cons w₀ ws ih =>
    obtain ⟨gap, rest, rfl, hgap, hrest, hws⟩ := exists_first h
    obtain ⟨before, after, rfl, hbefore, hafter, hws₁, hws₂⟩ := ih hws
    have hmem : ∀ v ∈ splitWords (gap ++ (w₀ ++ (before ++ (w ++ after)))), IsWord _ v :=
      fun v hv => mem_splitWords.mp hv
    rw [h] at hmem
    obtain ⟨hne₀, hfree₀, -⟩ := hmem w₀ (by simp)
    obtain ⟨hne, hfree, -⟩ := hmem w (by simp)
    obtain ⟨hne', hstart⟩ := startsBlank_of_append hrest hne hfree
    refine ⟨gap ++ (w₀ ++ before), after, by simp, ?_, hafter, ?_, hws₂⟩
    · intro c hc
      rw [← List.append_assoc, List.getLast?_append_of_ne_nil _ hne'] at hc
      exact hbefore c hc
    · have hbefore' : StartsBlank before := List.append_nil before ▸ hstart []
      rw [splitWords_append_end hgap.endsBlank, splitWords_blank hgap, List.nil_append,
        splitWords_word hne₀ hfree₀ hbefore', hws₁]

theorem mem_word_from {word s : Bytes} {c : UInt8} (h : c ∈ word ++ s) :
    isSpace c = true ∨ ∃ w ∈ splitWordsFrom word s, c ∈ w := by
  induction s generalizing word with
  | nil =>
    rw [List.append_nil] at h
    rw [splitWordsFrom, if_neg (List.ne_nil_of_mem h)]
    exact .inr ⟨word, List.mem_singleton_self word, h⟩
  | cons d s ih =>
    rw [splitWordsFrom]
    split
    · rename_i hd
      rcases List.mem_append.mp h with hword | hmem
      · rw [if_neg (List.ne_nil_of_mem hword)]
        exact .inr ⟨word, List.mem_cons_self, hword⟩
      · rcases List.mem_cons.mp hmem with rfl | hmem
        · exact .inl hd
        · rcases @ih [] hmem with hc | ⟨w, hw, hcw⟩
          · exact .inl hc
          · refine .inr ⟨w, ?_, hcw⟩
            split
            · exact hw
            · exact List.mem_cons_of_mem word hw
    · apply ih
      rwa [List.append_assoc]

/-- A byte of a text is a blank or stands in a word. -/
theorem mem_word {s : Bytes} {c : UInt8} (h : c ∈ s) :
    isSpace c = true ∨ ∃ w ∈ splitWords s, c ∈ w := @mem_word_from [] s c h

/-! ## Words of one piece -/

theorem EndsBlank.of_suffix {s t : Bytes} (h : EndsBlank (s ++ t)) : EndsBlank t := by
  intro c hc
  apply h c
  rw [List.getLast?_append, Option.mem_def.mp hc]
  rfl

/-- A word and the words behind it up to one that starts with `k` stand in one piece, when none of them
has a delimiter. -/
theorem exists_piece {delim : UInt8} (hdelim : isSpace delim = false) {text first word k : Bytes}
    {before between after : List Bytes} (h : splitWords text = before ++ first :: (between ++ word :: after))
    (hfirst : delim ∉ first) (hbetween : ∀ w ∈ between, delim ∉ w) (hne : k ≠ []) (hk : k <+: word)
    (hkdelim : delim ∉ k) :
    ∃ piece ∈ text.splitOn delim, ∃ before' word' after',
      splitWords piece = before' ++ first :: (between ++ word' :: after') ∧ k <+: word' := by
  have hwords : ∀ w ∈ splitWords text, w ≠ [] ∧ ∀ c ∈ w, isSpace c = false := fun w hw =>
    ⟨(mem_splitWords.mp hw).1, (mem_splitWords.mp hw).2.1⟩
  rw [h] at hwords
  obtain ⟨hfirstNe, hfirstFree⟩ := hwords first (by simp)
  obtain ⟨hwordNe, hwordFree⟩ := hwords word (by simp)
  obtain ⟨s, t, rfl, hs, ht, -, htwords⟩ := exists_around h
  obtain ⟨u, v, rfl, hu, -, huwords, -⟩ := exists_around htwords
  obtain ⟨rest, rfl⟩ := hk
  -- the text from the first word to the end of `k` has no delimiter
  have hcore : delim ∉ first ++ (u ++ k) := by
    simp only [List.mem_append, not_or]
    refine ⟨hfirst, fun hmem => ?_, hkdelim⟩
    rcases mem_word hmem with hblank | ⟨w, hw, hmem⟩
    · rw [hdelim] at hblank
      cases hblank
    · rw [huwords] at hw
      exact hbetween w hw hmem
  obtain ⟨init, last, head, pieces, hhead, hpieces, ⟨s', rfl⟩, -⟩ :=
    @splitOn_append delim s (first ++ (u ++ k) ++ (rest ++ v))
  obtain ⟨tail, pieces', htail⟩ := List.exists_cons_of_ne_nil (List.splitOn_ne_nil delim (rest ++ v))
  rw [splitOn_append_left hcore, htail, List.modifyHead_cons] at hhead
  obtain ⟨rfl, rfl⟩ := List.cons.inj hhead
  have hkfree : ∀ c ∈ k, isSpace c = false := fun c hc => hwordFree c (List.mem_append_left rest hc)
  have hstart := (startsBlank_of_append ht hwordNe hwordFree).2
  refine ⟨last ++ (first ++ (u ++ k) ++ tail), ?_, splitWords last,
    k ++ tail.takeWhile (fun c => !isSpace c), splitWords (tail.dropWhile fun c => !isSpace c), ?_,
    List.prefix_append k _⟩
  · have htext : s' ++ last ++ (first ++ (u ++ (k ++ rest ++ v))) =
        s' ++ last ++ (first ++ (u ++ k) ++ (rest ++ v)) := by simp
    rw [htext, hpieces]
    exact List.mem_append_right init List.mem_cons_self
  · rw [splitWords_append_end hs.of_suffix, List.append_assoc, List.append_assoc,
      splitWords_word hfirstNe hfirstFree (hstart _), splitWords_append_end hu, huwords,
      splitWords_beginning hne hkfree]

end Lib
