import Archspec.Lib.Lines

/-!
# Pieces between delimiters

The pieces of a text are what `List.splitOn` gives: their bytes are bytes of the text
(`mem_of_mem_splitOn`), and blanks around the text do not matter once the pieces are trimmed
(`map_trim_splitOn`).
-/

namespace Lib

variable {delim : UInt8}

theorem mem_of_mem_splitOn {s piece : Bytes} {c : UInt8} (hpiece : piece ∈ s.splitOn delim)
    (hc : c ∈ piece) : c ∈ s := by
  induction s generalizing piece with
  | nil =>
    rw [List.splitOn_nil, List.mem_singleton] at hpiece
    subst hpiece
    cases hc
  | cons d s ih =>
    rw [List.splitOn_cons_eq_if_modifyHead] at hpiece
    split at hpiece
    · rcases List.mem_cons.1 hpiece with rfl | hpiece
      · cases hc
      · exact List.mem_cons_of_mem d (ih hpiece hc)
    · obtain ⟨first, rest, hsplit⟩ := List.exists_cons_of_ne_nil (List.splitOn_ne_nil delim s)
      rw [hsplit, List.modifyHead_cons] at hpiece
      rcases List.mem_cons.1 hpiece with rfl | hpiece
      · rcases List.mem_cons.1 hc with rfl | hc
        · exact List.mem_cons_self
        · exact List.mem_cons_of_mem d (ih (hsplit ▸ List.mem_cons_self) hc)
      · exact List.mem_cons_of_mem d (ih (hsplit ▸ List.mem_cons_of_mem first hpiece) hc)

/-- What stands in front of a text without a delimiter goes into the first piece. -/
theorem splitOn_append_left {a : Bytes} (ha : delim ∉ a) (s : Bytes) :
    (a ++ s).splitOn delim = (s.splitOn delim).modifyHead (a ++ ·) := by
  induction a with
  | nil =>
    obtain ⟨first, rest, hsplit⟩ := List.exists_cons_of_ne_nil (List.splitOn_ne_nil delim s)
    rw [hsplit]
    exact hsplit
  | cons c a ih =>
    obtain ⟨hc, ha⟩ := not_or.1 fun hmem => ha (List.mem_cons.2 hmem)
    obtain ⟨first, rest, hsplit⟩ := List.exists_cons_of_ne_nil (List.splitOn_ne_nil delim s)
    rw [List.cons_append, List.splitOn_cons_eq_if_modifyHead, if_neg (by simpa using Ne.symm hc), ih ha,
      hsplit]
    rfl

/-- What stands behind a text without a delimiter goes into the last piece. -/
theorem splitOn_append_right {b : Bytes} (hb : delim ∉ b) (s : Bytes) :
    ∃ init last, s.splitOn delim = init ++ [last] ∧ (s ++ b).splitOn delim = init ++ [last ++ b] := by
  induction s with
  | nil => exact ⟨[], [], rfl, List.splitOn_eq_singleton hb⟩
  | cons c s ih =>
    obtain ⟨init, last, hs, hsb⟩ := ih
    rw [List.cons_append, List.splitOn_cons_eq_if_modifyHead, List.splitOn_cons_eq_if_modifyHead, hs, hsb]
    split
    · exact ⟨[] :: init, last, rfl, rfl⟩
    · cases init with
      | nil => exact ⟨[], c :: last, rfl, rfl⟩
      | cons first init => exact ⟨(c :: first) :: init, last, rfl, rfl⟩

/-- Where two texts meet, the last piece of the one and the first piece of the other are one piece. -/
theorem splitOn_append (s t : Bytes) :
    ∃ init last first rest, t.splitOn delim = first :: rest ∧
      (s ++ t).splitOn delim = init ++ (last ++ first) :: rest ∧ last <:+ s ∧ (init = [] → last = s) := by
  obtain ⟨first, rest, ht⟩ := List.exists_cons_of_ne_nil (List.splitOn_ne_nil delim t)
  induction s with
  | nil => exact ⟨[], [], first, rest, ht, ht, List.suffix_rfl, fun _ => rfl⟩
  | cons c s ih =>
    obtain ⟨init, last, first', rest', ht', hst, hlast, hwhole⟩ := ih
    have hsuffix : last <:+ c :: s := hlast.trans (List.suffix_cons c s)
    rw [List.cons_append, List.splitOn_cons_eq_if_modifyHead, hst]
    split
    · exact ⟨[] :: init, last, first', rest', ht', rfl, hsuffix, nofun⟩
    · cases init with
      | nil =>
        obtain rfl := hwhole rfl
        exact ⟨[], c :: last, first', rest', ht', rfl, List.suffix_rfl, fun _ => rfl⟩
      | cons piece init => exact ⟨(c :: piece) :: init, last, first', rest', ht', rfl, hsuffix, nofun⟩

/-- The trimmed pieces of a text are those of the trimmed text. -/
theorem map_trim_splitOn (hdelim : isSpace delim = false) (s : Bytes) :
    ((trim s).splitOn delim).map trim = (s.splitOn delim).map trim := by
  obtain ⟨a, b, ha, hb, hs⟩ := exists_trim s
  have hnot : ∀ {t : Bytes}, Blank t → delim ∉ t := by
    intro t ht hmem
    rw [ht delim hmem] at hdelim
    cases hdelim
  obtain ⟨init, last, htrim, hpadded⟩ := splitOn_append_right (hnot hb) (trim s)
  have hlast : trim (last ++ b) = trim last := trim_padded last blank_nil hb
  have hfirst : ∀ ps : List Bytes, (ps.modifyHead (a ++ ·)).map trim = ps.map trim := by
    intro ps
    cases ps with
    | nil => rfl
    | cons p ps =>
      have hp := trim_padded p ha blank_nil
      rw [List.append_nil] at hp
      rw [List.modifyHead_cons, List.map_cons, List.map_cons, hp]
  conv_rhs => rw [hs, splitOn_append_left (hnot ha), hfirst, hpadded]
  rw [htrim, List.map_append, List.map_append, List.map_singleton, List.map_singleton, hlast]

end Lib
