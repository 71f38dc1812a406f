import Mathlib.Data.List.Basic
import Mathlib.Tactic.Common

/-!
# Programs that call an environment

A `Program Reply α` computes an `α` by calls `c`, each answered by a value of type `Reply c`.
Against a fixed environment `env` it has one result, `run env`.  When every call may be answered by
anything, `Returns` relates the program to its possible results and `Issues` to the calls it may
make.

`Meets guard post` says that every call the program may make satisfies `guard` and every result it
may return satisfies `post`, whatever the answers are.  It is proved along the text of a program,
with one rule for each construct (`meets_bind`, `Meets.gather`, `Meets.foldlM`), and used through
`Meets.returns`, `Meets.issues` and `Meets.run_congr`: two environments that agree on the guarded
calls give the same result.
-/

namespace Lib

/-- A computation that calls an environment. -/
inductive Program {Call : Type} (Reply : Call → Type) (α : Type) where
  | pure (a : α)
  | request (c : Call) (next : Reply c → Program Reply α)

namespace Program

variable {Call : Type} {Reply : Call → Type} {α β γ : Type}

/-- Sequential composition. -/
def bind : Program Reply α → (α → Program Reply β) → Program Reply β
  | .pure a, f => f a
  | .request c next, f => .request c fun r => (next r).bind f

instance : Monad (Program Reply) where
  pure := .pure
  bind := bind

/-- Make a call and return its answer. -/
def call (c : Call) : Program Reply (Reply c) := .request c .pure

theorem bind_pure_self (p : Program Reply α) : p.bind .pure = p := by
  induction p with
  | pure a => rfl
  | request c next ih => exact congrArg (Program.request c) (funext ih)

theorem bind_bind (p : Program Reply α) (f : α → Program Reply β) (g : β → Program Reply γ) :
    (p.bind f).bind g = p.bind fun a => (f a).bind g := by
  induction p with
  | pure a => rfl
  | request c next ih => exact congrArg (Program.request c) (funext ih)

instance : LawfulMonad (Program Reply) :=
  LawfulMonad.mk' (Program Reply) bind_pure_self (fun _ _ => rfl) bind_bind

/-- The loop that applies `f` to the elements in order and keeps the results that are there. -/
def gather (f : α → Program Reply (Option β)) : List α → Program Reply (List β)
  | [] => Pure.pure []
  | a :: as => do
    let b ← f a
    let bs ← gather f as
    Pure.pure (b.toList ++ bs)

/-! ## Running against an environment -/

/-- The result against a fixed environment. -/
def run (env : (c : Call) → Reply c) : Program Reply α → α
  | .pure a => a
  | .request c next => (next (env c)).run env

section Run

variable (env : (c : Call) → Reply c)

@[simp] theorem run_pure (a : α) : (Pure.pure a : Program Reply α).run env = a := rfl

@[simp] theorem run_call (c : Call) : (call c : Program Reply (Reply c)).run env = env c := rfl

@[simp] theorem run_bind (p : Program Reply α) (f : α → Program Reply β) :
    (p >>= f).run env = (f (p.run env)).run env := by
  induction p with
  | pure a => rfl
  | request c next ih => exact ih (env c)

@[simp] theorem run_map (p : Program Reply α) (f : α → β) :
    (f <$> p).run env = f (p.run env) := by
  rw [map_eq_pure_bind, run_bind, run_pure]

theorem run_ite (c : Prop) [Decidable c] (p q : Program Reply α) :
    (if c then p else q).run env = if c then p.run env else q.run env := by
  split <;> rfl

@[simp] theorem run_gather (f : α → Program Reply (Option β)) (as : List α) :
    (gather f as).run env = as.filterMap fun a => (f a).run env := by
  induction as with
  | nil => rfl
  | cons a as ih =>
    simp only [gather, run_bind, run_pure, ih, List.filterMap_cons]
    cases (f a).run env <;> rfl

@[simp] theorem run_foldlM (f : β → α → Program Reply β) (as : List α) (b : β) :
    (as.foldlM f b).run env = as.foldl (fun b a => (f b a).run env) b := by
  induction as generalizing b with
  | nil => rfl
  | cons a as ih => simp only [List.foldlM_cons, run_bind, ih, List.foldl_cons]

end Run

/-! ## All answers at once -/

/-- The program may return this result. -/
inductive Returns : Program Reply α → α → Prop where
  | pure (a : α) : Returns (.pure a) a
  | request {c : Call} {next : Reply c → Program Reply α} {a : α} (r : Reply c)
      (h : Returns (next r) a) : Returns (.request c next) a

/-- The program may make this call. -/
inductive Issues : Program Reply α → Call → Prop where
  | here (c : Call) (next : Reply c → Program Reply α) : Issues (.request c next) c
  | later {c : Call} {next : Reply c → Program Reply α} {d : Call} (r : Reply c)
      (h : Issues (next r) d) : Issues (.request c next) d

theorem returns_run (env : (c : Call) → Reply c) (p : Program Reply α) :
    p.Returns (p.run env) := by
  induction p with
  | pure a => exact .pure a
  | request c next ih => exact .request (env c) (ih (env c))

theorem returns_bind_iff {p : Program Reply α} {f : α → Program Reply β} {b : β} :
    (p >>= f).Returns b ↔ ∃ a, p.Returns a ∧ (f a).Returns b := by
  induction p with
  | pure a =>
    refine ⟨fun h => ⟨a, .pure a, h⟩, ?_⟩
    rintro ⟨_, ⟨⟩, h⟩
    exact h
  | request c next ih =>
    constructor
    · rintro (_ | ⟨r, h⟩)
      obtain ⟨a, ha, hb⟩ := (ih r).1 h
      exact ⟨a, .request r ha, hb⟩
    · rintro ⟨a, _ | ⟨r, ha⟩, hb⟩
      exact .request r ((ih r).2 ⟨a, ha, hb⟩)

/-- Every call satisfies `guard` and every result satisfies `post`, whatever is answered. -/
def Meets (guard : Call → Prop) (post : α → Prop) : Program Reply α → Prop
  | .pure a => post a
  | .request c next => guard c ∧ ∀ r, (next r).Meets guard post

section Meets

variable {guard guard' : Call → Prop} {post post' : α → Prop}

theorem meets_pure_iff (a : α) :
    (Pure.pure a : Program Reply α).Meets guard post ↔ post a := Iff.rfl

theorem meets_call {c : Call} {post : Reply c → Prop} (hc : guard c) (h : ∀ r, post r) :
    (call c : Program Reply (Reply c)).Meets guard post := ⟨hc, h⟩

theorem meets_bind_iff {p : Program Reply α} {f : α → Program Reply β} {post : β → Prop} :
    (p >>= f).Meets guard post ↔ p.Meets guard fun a => (f a).Meets guard post := by
  induction p with
  | pure a => exact Iff.rfl
  | request c next ih => exact and_congr_right fun _ => forall_congr' ih

theorem Meets.mono {p : Program Reply α} (h : p.Meets guard post)
    (hg : ∀ c, guard c → guard' c) (hp : ∀ a, post a → post' a) : p.Meets guard' post' := by
  induction p with
  | pure a => exact hp a h
  | request c next ih => exact ⟨hg c h.1, fun r => ih r (h.2 r)⟩

/-- The rule of sequential composition. -/
theorem Meets.bind {p : Program Reply α} {f : α → Program Reply β} {post' : β → Prop}
    (h : p.Meets guard post) (hf : ∀ a, post a → (f a).Meets guard post') :
    (p >>= f).Meets guard post' :=
  meets_bind_iff.2 (h.mono (fun _ => id) hf)

theorem Meets.ite {c : Prop} [Decidable c] {p q : Program Reply α}
    (hp : c → p.Meets guard post) (hq : ¬ c → q.Meets guard post) :
    (if c then p else q).Meets guard post := by
  split
  · exact hp ‹_›
  · exact hq ‹_›

/-- The rule of the `gather` loop: what each round keeps satisfies `post`. -/
theorem Meets.gather {f : α → Program Reply (Option β)} {post : β → Prop} {as : List α}
    (h : ∀ a ∈ as, (f a).Meets guard fun b => ∀ x ∈ b, post x) :
    (Program.gather f as).Meets guard fun bs => ∀ b ∈ bs, post b := by
  induction as with
  | nil => exact fun _ h => absurd h List.not_mem_nil
  | cons a as ih =>
    refine (h a List.mem_cons_self).bind fun b hb => ?_
    refine (ih fun a' ha => h a' (List.mem_cons_of_mem _ ha)).bind fun bs hbs => ?_
    rw [meets_pure_iff]
    intro x hx
    rcases List.mem_append.1 hx with hx | hx
    · exact hb x (Option.mem_toList.1 hx)
    · exact hbs x hx

/-- The rule of an accumulating loop: an invariant that each round keeps. -/
theorem Meets.foldlM {f : β → α → Program Reply β} {inv : β → Prop} {as : List α}
    (h : ∀ b, inv b → ∀ a ∈ as, (f b a).Meets guard inv) {b : β} (hb : inv b) :
    (as.foldlM f b).Meets guard inv := by
  induction as generalizing b with
  | nil => exact hb
  | cons a as ih =>
    rw [List.foldlM_cons]
    refine (h b hb a List.mem_cons_self).bind fun b' hb' => ?_
    exact ih (fun b hb a ha => h b hb a (List.mem_cons_of_mem _ ha)) hb'

theorem Meets.returns {p : Program Reply α} (h : p.Meets guard post) {a : α}
    (ha : p.Returns a) : post a := by
  induction ha with
  | pure a => exact h
  | request r _ ih => exact ih (h.2 r)

theorem Meets.issues {p : Program Reply α} (h : p.Meets guard post) {c : Call}
    (hc : p.Issues c) : guard c := by
  induction hc with
  | here c next => exact h.1
  | later r _ ih => exact ih (h.2 r)

theorem Meets.run {p : Program Reply α} (h : p.Meets guard post) (env : (c : Call) → Reply c) :
    post (p.run env) :=
  h.returns (returns_run env p)

/-- Environments that agree on the guarded calls give the same result. -/
theorem Meets.run_congr {p : Program Reply α} (h : p.Meets guard post)
    {env env' : (c : Call) → Reply c} (agree : ∀ c, guard c → env c = env' c) :
    p.run env = p.run env' := by
  induction p with
  | pure a => rfl
  | request c next ih =>
    simp only [Program.run, agree c h.1]
    exact ih _ (h.2 _)

end Meets

end Program

end Lib
