import Mathlib.Data.Finset.Insert
import Mathlib.Data.List.Nodup

/-!
# Keeping the first element of each key

A loop that remembers the keys it has seen and keeps an element only when its key is new computes
`keepFirst`: of the elements with one key it keeps the first (`mem_keepFirst`), so the keys of the
kept elements are distinct (`nodup_keys`), every key is represented (`mem_keys`), and the order of the
list stays (`keepFirst_sublist`).
-/

namespace Lib

section KeepFirst

variable {α κ : Type} [DecidableEq κ] (key : α → κ)

/-- The elements whose keys are new, when those in `seen` are not. -/
def keepFirst (seen : Finset κ) : List α → List α
  | [] => []
  | a :: as => if key a ∈ seen then keepFirst seen as else a :: keepFirst (insert (key a) seen) as

theorem keepFirst_sublist (seen : Finset κ) (as : List α) : (keepFirst key seen as).Sublist as := by
  induction as generalizing seen with
  | nil => exact List.Sublist.refl []
  | cons a as ih =>
    rw [keepFirst]
    split
    · exact (ih seen).cons a
    · exact (ih _).cons_cons a

/-- The first element with its key is kept, unless the key was seen. -/
theorem mem_keepFirst {seen : Finset κ} {as : List α} {a : α} :
    a ∈ keepFirst key seen as ↔ key a ∉ seen ∧ as.find? (fun b => key b = key a) = some a := by
  induction as generalizing seen with
  | nil => simp [keepFirst]
  | cons b as ih =>
    rw [keepFirst, List.find?_cons]
    by_cases hb : key b = key a
    · rw [decide_eq_true hb]
      by_cases hseen : key b ∈ seen
      · rw [if_pos hseen, ih, ← hb]
        exact iff_of_false (fun h => h.1 hseen) fun h => h.1 hseen
      · rw [if_neg hseen, List.mem_cons, ih, ← hb]
        simp [hseen, eq_comm]
    · rw [decide_eq_false hb]
      by_cases hseen : key b ∈ seen
      · rw [if_pos hseen, ih]
      · have hne : a ≠ b := fun h => hb (congrArg key h.symm)
        rw [if_neg hseen, List.mem_cons, ih, or_iff_right hne, Finset.mem_insert,
          or_iff_right (Ne.symm hb)]

theorem mem_of_mem_keepFirst {seen : Finset κ} {as : List α} {a : α}
    (h : a ∈ keepFirst key seen as) : a ∈ as :=
  (keepFirst_sublist key seen as).subset h

/-- The kept elements have distinct keys. -/
theorem nodup_keys (seen : Finset κ) (as : List α) : ((keepFirst key seen as).map key).Nodup := by
  induction as generalizing seen with
  | nil => exact List.nodup_nil
  | cons a as ih =>
    rw [keepFirst]
    split
    · exact ih seen
    · rw [List.map_cons, List.nodup_cons]
      refine ⟨fun h => ?_, ih _⟩
      obtain ⟨b, hb, heq⟩ := List.mem_map.1 h
      apply ((mem_keepFirst key).1 hb).1
      rw [heq]
      exact Finset.mem_insert_self _ _

/-- Every new key is the key of a kept element. -/
theorem mem_keys {seen : Finset κ} {as : List α} {k : κ} :
    k ∈ (keepFirst key seen as).map key ↔ k ∈ as.map key ∧ k ∉ seen := by
  constructor
  · intro h
    obtain ⟨a, ha, rfl⟩ := List.mem_map.1 h
    exact ⟨List.mem_map_of_mem (mem_of_mem_keepFirst key ha), ((mem_keepFirst key).1 ha).1⟩
  · rintro ⟨hk, hseen⟩
    obtain ⟨a, ha, rfl⟩ := List.mem_map.1 hk
    obtain ⟨b, hb⟩ : ∃ b, as.find? (fun b => key b = key a) = some b := by
      apply Option.isSome_iff_exists.1
      exact List.find?_isSome.2 ⟨a, ha, decide_eq_true rfl⟩
    have hkey : key b = key a := by simpa using List.find?_some hb
    refine List.mem_map.2 ⟨b, (mem_keepFirst key).2 ⟨hkey ▸ hseen, ?_⟩, hkey⟩
    rw [hkey]
    exact hb

/-- Every element is represented by a kept one. -/
theorem exists_kept {as : List α} {a : α} (ha : a ∈ as) :
    ∃ b ∈ keepFirst key ∅ as, key b = key a := by
  apply List.mem_map.1
  exact (mem_keys key).2 ⟨List.mem_map_of_mem ha, Finset.notMem_empty _⟩

end KeepFirst

end Lib
