import Mathlib.Algebra.Order.BigOperators.Group.Finset
import Mathlib.Data.Finmap
import Mathlib.Data.Finset.Lattice.Fold
import Mathlib.Order.Lattice.Nat

/-!
# Counting a list of pairs by groups

The pairs `(a, b)` of a list fall into groups by their first component.  `groups` are the first
components, `members a` the second components that occur with `a`, `largestGroup` the most members a
group has and `largestCount` how often the most frequent pair occurs.  The three numbers bound the
length of the list (`length_le_mul`), and loops that fill maps group by group compute them
(`sup_of_lookup`).
-/

namespace Lib

section Grouping

variable {α β : Type} [DecidableEq α] (pairs : List (α × β))

/-- The first components. -/
def groups : Finset α := (pairs.map Prod.fst).toFinset

variable {pairs}

theorem mem_groups {a : α} : a ∈ groups pairs ↔ ∃ b, (a, b) ∈ pairs := by
  simp [groups]

theorem groups_eq_empty_iff : groups pairs = ∅ ↔ pairs = [] := by
  rw [groups, List.toFinset_eq_empty_iff, List.map_eq_nil_iff]

theorem groups_concat (a : α) (b : β) : groups (pairs ++ [(a, b)]) = insert a (groups pairs) := by
  ext c
  simp [groups]

variable [DecidableEq β] (pairs)

/-- The second components that occur with a first one. -/
def members (a : α) : Finset β := ((pairs.filter fun p => p.1 = a).map Prod.snd).toFinset

/-- The most members a group has. -/
def largestGroup : ℕ := (groups pairs).sup fun a => (members pairs a).card

/-- How often the most frequent pair occurs. -/
def largestCount : ℕ := pairs.toFinset.sup fun p => pairs.count p

variable {pairs}

theorem mem_members {a : α} {b : β} : b ∈ members pairs a ↔ (a, b) ∈ pairs := by
  simp [members]

theorem members_concat_self (a : α) (b : β) :
    members (pairs ++ [(a, b)]) a = insert b (members pairs a) := by
  ext c
  simp only [mem_members, Finset.mem_insert, List.mem_append, List.mem_singleton, Prod.mk.injEq,
    true_and]
  exact or_comm

theorem members_concat_of_ne {a c : α} (h : c ≠ a) (b : β) :
    members (pairs ++ [(a, b)]) c = members pairs c := by
  ext d
  simp [mem_members, h]

theorem members_eq_empty {a : α} (h : a ∉ groups pairs) : members pairs a = ∅ := by
  apply Finset.eq_empty_of_forall_notMem
  intro b hb
  exact h (mem_groups.2 ⟨b, mem_members.1 hb⟩)

variable (pairs)

theorem card_toFinset_le : pairs.toFinset.card ≤ largestGroup pairs * (groups pairs).card := by
  apply Finset.card_le_mul_card_image_of_maps_to (f := Prod.fst)
  · intro p hp
    exact mem_groups.2 ⟨p.2, List.mem_toFinset.1 hp⟩
  · intro a ha
    calc (pairs.toFinset.filter fun p => p.1 = a).card
        = ((pairs.toFinset.filter fun p => p.1 = a).image Prod.snd).card := by
          refine (Finset.card_image_of_injOn ?_).symm
          rintro ⟨c, b⟩ hp ⟨c', b'⟩ hq (rfl : b = b')
          obtain rfl : c = a := (Finset.mem_filter.1 hp).2
          obtain rfl : c' = c := (Finset.mem_filter.1 hq).2
          rfl
      _ ≤ (members pairs a).card := by
          apply Finset.card_le_card
          intro b hb
          obtain ⟨⟨c, b⟩, hp, rfl⟩ := Finset.mem_image.1 hb
          obtain ⟨hpair, rfl⟩ := Finset.mem_filter.1 hp
          exact mem_members.2 (List.mem_toFinset.1 hpair)
      _ ≤ largestGroup pairs := Finset.le_sup (f := fun a => (members pairs a).card) ha

theorem sum_count_eq_length : ∑ p ∈ pairs.toFinset, pairs.count p = pairs.length := by
  rw [lawful_beq_subsingleton instBEqProd instBEqOfDecidableEq]
  exact List.sum_toFinset_count_eq_length pairs

/-- Groups, members of a group and occurrences of a pair bound the number of pairs. -/
theorem length_le_mul :
    pairs.length ≤ (groups pairs).card * largestGroup pairs * largestCount pairs := by
  calc pairs.length
      = ∑ p ∈ pairs.toFinset, pairs.count p := (sum_count_eq_length pairs).symm
    _ ≤ ∑ _p ∈ pairs.toFinset, largestCount pairs :=
        Finset.sum_le_sum fun p hp => Finset.le_sup (f := fun p => pairs.count p) hp
    _ = pairs.toFinset.card * largestCount pairs := Finset.sum_const_nat fun _ _ => rfl
    _ ≤ largestGroup pairs * (groups pairs).card * largestCount pairs :=
        Nat.mul_le_mul_right _ (card_toFinset_le pairs)
    _ = _ := by rw [Nat.mul_comm (largestGroup pairs)]

theorem largestCount_le : largestCount pairs ≤ pairs.length :=
  Finset.sup_le fun _ _ => List.count_le_length

end Grouping

/-! ## Maps that hold a value for every member of a set -/

section Maps

variable {α δ : Type} [DecidableEq α] {map : Finmap fun _ : α => δ} {s : Finset α} {g : α → δ}

/-- The largest measure of a value. -/
theorem sup_of_lookup (h : ∀ a, map.lookup a = if a ∈ s then some (g a) else none) (f : δ → ℕ) :
    (map.entries.map fun item => f item.2).fold max 0 = s.sup fun a => f (g a) := by
  apply le_antisymm
  · refine Multiset.sup_le.2 fun n hn => ?_
    obtain ⟨⟨a, d⟩, hitem, rfl⟩ := Multiset.mem_map.1 hn
    have hlookup := Finmap.mem_lookup_iff.2 hitem
    rw [h] at hlookup
    by_cases ha : a ∈ s
    · rw [if_pos ha] at hlookup
      obtain rfl := Option.some.inj hlookup
      exact Finset.le_sup (f := fun a => f (g a)) ha
    · rw [if_neg ha] at hlookup
      cases hlookup
  · refine Finset.sup_le fun a ha => ?_
    have hlookup : map.lookup a = some (g a) := by rw [h, if_pos ha]
    exact Multiset.le_sup (Multiset.mem_map_of_mem _ (Finmap.mem_lookup_iff.1 hlookup))

theorem eq_empty_of_lookup (h : ∀ a, map.lookup a = if a ∈ s then some (g a) else none) :
    map = ∅ ↔ s = ∅ := by
  constructor
  · rintro rfl
    apply Finset.eq_empty_of_forall_notMem
    intro a ha
    have ha' := h a
    rw [Finmap.lookup_empty, if_pos ha] at ha'
    cases ha'
  · rintro rfl
    apply Finmap.ext_lookup
    intro a
    rw [h]
    rfl

end Maps

end Lib
