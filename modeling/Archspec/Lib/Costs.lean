import Archspec.Lib.Traces
import Mathlib.Algebra.Ring.Nat

/-!
# The number of calls of a run

`CallsAtMost env weight rate n p` bounds the number of calls that the program makes against an
environment by `n`, plus `rate` for each unit that the answers deliver.  A program that goes through
what it has been given has such a bound: the cost of a round is put on the unit it handles
(`bind_delivered`).
-/

namespace Lib

namespace Program

variable {Call : Type} {Reply : Call → Type} {α β γ : Type}

/-- What the answers of a run deliver, in total. -/
def delivered (env : (c : Call) → Reply c) (weight : (c : Call) → Reply c → ℕ)
    (p : Program Reply α) : ℕ :=
  ((p.trace env).map fun c => weight c (env c)).sum

/-- The run makes at most `n` calls, and `rate` more for each unit that is delivered. -/
def CallsAtMost (env : (c : Call) → Reply c) (weight : (c : Call) → Reply c → ℕ) (rate n : ℕ)
    (p : Program Reply α) : Prop :=
  (p.trace env).length ≤ n + rate * p.delivered env weight

section CallsAtMost

variable {env : (c : Call) → Reply c} {weight : (c : Call) → Reply c → ℕ} {rate n m : ℕ}

theorem delivered_bind (p : Program Reply α) (f : α → Program Reply β) :
    (p >>= f).delivered env weight =
      p.delivered env weight + (f (p.run env)).delivered env weight := by
  rw [delivered, trace_bind, List.map_append, List.sum_append]
  rfl

theorem CallsAtMost.mono {p : Program Reply α} (h : p.CallsAtMost env weight rate n)
    (hn : n ≤ m) : p.CallsAtMost env weight rate m := by
  unfold CallsAtMost at h ⊢
  omega

theorem callsAtMost_pure (a : α) (n : ℕ) :
    (Pure.pure a : Program Reply α).CallsAtMost env weight rate n := Nat.zero_le _

theorem callsAtMost_call (c : Call) :
    (call c : Program Reply (Reply c)).CallsAtMost env weight rate 1 := Nat.le_add_right _ _

/-- The calls of both parts; against a bound that is given, the first part takes its share of it and
the second has the rest. -/
theorem CallsAtMost.bind {p : Program Reply α} {f : α → Program Reply β}
    (hp : p.CallsAtMost env weight rate n) (hf : ∀ a, (f a).CallsAtMost env weight rate m) :
    (p >>= f).CallsAtMost env weight rate (m + n) := by
  have hrest := hf (p.run env)
  unfold CallsAtMost at hp hrest ⊢
  rw [trace_bind, List.length_append, delivered_bind, Nat.mul_add]
  omega

/-- The second part may spend `rate` calls on each unit of what the first has delivered. -/
theorem CallsAtMost.bind_delivered {p : Program Reply α} {f : α → Program Reply β} {size : ℕ}
    (hp : (p.trace env).length + rate * size ≤ n + rate * p.delivered env weight)
    (hf : (f (p.run env)).CallsAtMost env weight rate (m + rate * size)) :
    (p >>= f).CallsAtMost env weight rate (m + n) := by
  unfold CallsAtMost at hf ⊢
  rw [trace_bind, List.length_append, delivered_bind, Nat.mul_add]
  omega

theorem CallsAtMost.map {p : Program Reply α} (h : p.CallsAtMost env weight rate n) (f : α → β) :
    (f <$> p).CallsAtMost env weight rate n := by
  rw [map_eq_pure_bind, ← Nat.zero_add n]
  exact h.bind fun a => callsAtMost_pure (f a) 0

theorem CallsAtMost.ite {c : Prop} [Decidable c] {p q : Program Reply α}
    (hp : p.CallsAtMost env weight rate n) (hq : q.CallsAtMost env weight rate n) :
    (if c then p else q).CallsAtMost env weight rate n := by
  split
  · exact hp
  · exact hq

/-- A loop costs what its rounds cost. -/
theorem CallsAtMost.foldlM {f : β → α → Program Reply β} {cost : α → ℕ}
    (h : ∀ b a, (f b a).CallsAtMost env weight rate (cost a)) (as : List α) (b : β) :
    (as.foldlM f b).CallsAtMost env weight rate (as.map cost).sum := by
  induction as generalizing b with
  | nil => exact callsAtMost_pure b _
  | cons a as ih =>
    rw [List.foldlM_cons, List.map_cons, List.sum_cons, Nat.add_comm]
    exact (h b a).bind ih

theorem CallsAtMost.gather {f : α → Program Reply (Option β)} {cost : α → ℕ}
    (h : ∀ a, (f a).CallsAtMost env weight rate (cost a)) (as : List α) :
    (Program.gather f as).CallsAtMost env weight rate (as.map cost).sum := by
  induction as with
  | nil => exact callsAtMost_pure [] _
  | cons a as ih =>
    rw [Program.gather, List.map_cons, List.sum_cons, Nat.add_comm]
    refine (h a).bind fun b => ?_
    rw [← Nat.zero_add (as.map cost).sum]
    exact ih.bind fun bs => callsAtMost_pure _ 0

theorem sum_map_const (as : List α) (n : ℕ) : (as.map fun _ => n).sum = n * as.length := by
  rw [List.map_const', List.sum_replicate_nat, Nat.mul_comm]

/-- A loop whose rounds each cost at most `rate` fits what its list has delivered. -/
theorem CallsAtMost.foldlM_rate {f : β → α → Program Reply β} (hn : n ≤ rate)
    (h : ∀ b a, (f b a).CallsAtMost env weight rate n) (as : List α) (b : β) :
    (as.foldlM f b).CallsAtMost env weight rate (rate * as.length) := by
  have hloop : (as.foldlM f b).CallsAtMost env weight rate (as.map fun _ => n).sum :=
    CallsAtMost.foldlM h as b
  rw [sum_map_const] at hloop
  exact hloop.mono (Nat.mul_le_mul_right _ hn)

theorem CallsAtMost.gather_rate {f : α → Program Reply (Option β)} (hn : n ≤ rate)
    (h : ∀ a, (f a).CallsAtMost env weight rate n) (as : List α) :
    (Program.gather f as).CallsAtMost env weight rate (rate * as.length) := by
  have hloop : (Program.gather f as).CallsAtMost env weight rate (as.map fun _ => n).sum :=
    CallsAtMost.gather h as
  rw [sum_map_const] at hloop
  exact hloop.mono (Nat.mul_le_mul_right _ hn)

end CallsAtMost

end Program

end Lib
