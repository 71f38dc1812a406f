import Archspec.Lib.Program

/-!
# The calls of a run

`trace env p` lists the calls that the program makes against an environment.
`Unless env bad post p` says that the result satisfies `post` unless one of these calls is bad, and
has one rule for each construct, like `Meets`.  A result that does not satisfy `post` is then put
down to a bad call of the run (`Unless.exists_bad`).
-/

namespace Lib

namespace Program

variable {Call : Type} {Reply : Call → Type} {α β : Type}

/-- The calls of a run, in order. -/
def trace (env : (c : Call) → Reply c) : Program Reply α → List Call
  | .pure _ => []
  | .request c next => c :: (next (env c)).trace env

theorem trace_bind (env : (c : Call) → Reply c) (p : Program Reply α) (f : α → Program Reply β) :
    (p >>= f).trace env = p.trace env ++ (f (p.run env)).trace env := by
  induction p with
  | pure a => rfl
  | request c next ih =>
    show c :: ((next (env c)).bind f).trace env = _
    rw [trace, List.cons_append]
    exact congrArg (c :: ·) (ih (env c))

/-- The result satisfies `post`, unless the run makes a bad call. -/
def Unless (env : (c : Call) → Reply c) (bad : Call → Prop) (post : α → Prop)
    (p : Program Reply α) : Prop :=
  (∀ c ∈ p.trace env, ¬ bad c) → post (p.run env)

section Unless

variable {env : (c : Call) → Reply c} {bad : Call → Prop} {post : α → Prop}

theorem unless_pure_iff (a : α) : (Pure.pure a : Program Reply α).Unless env bad post ↔ post a :=
  ⟨fun h => h fun _ hc => absurd hc List.not_mem_nil, fun h _ => h⟩

/-- A round of a `gather` loop that keeps nothing. -/
theorem unless_none {post : β → Prop} :
    (Pure.pure none : Program Reply (Option β)).Unless env bad fun b => ∀ x ∈ b, post x := by
  rw [unless_pure_iff]
  rintro _ ⟨⟩

theorem unless_call {c : Call} {post : Reply c → Prop} (h : ¬ bad c → post (env c)) :
    (call c : Program Reply (Reply c)).Unless env bad post :=
  fun hquiet => h (hquiet c List.mem_cons_self)

/-- The rule of sequential composition. -/
theorem Unless.bind {p : Program Reply α} {f : α → Program Reply β} {post' : β → Prop}
    (h : p.Unless env bad post) (hf : ∀ a, post a → (f a).Unless env bad post') :
    (p >>= f).Unless env bad post' := by
  intro hquiet
  rw [trace_bind, List.forall_mem_append] at hquiet
  rw [run_bind]
  have hfirst : post (p.run env) := h hquiet.1
  exact hf (p.run env) hfirst hquiet.2

theorem Unless.ite {c : Prop} [Decidable c] {p q : Program Reply α}
    (hp : c → p.Unless env bad post) (hq : ¬ c → q.Unless env bad post) :
    (if c then p else q).Unless env bad post := by
  split
  · exact hp ‹_›
  · exact hq ‹_›

/-- The rule of the `gather` loop: what each round keeps satisfies `post`. -/
theorem Unless.gather {f : α → Program Reply (Option β)} {post : β → Prop} {as : List α}
    (h : ∀ a ∈ as, (f a).Unless env bad fun b => ∀ x ∈ b, post x) :
    (Program.gather f as).Unless env bad fun bs => ∀ b ∈ bs, post b := by
  induction as with
  | nil => exact fun _ _ h => absurd h List.not_mem_nil
  | cons a as ih =>
    refine (h a List.mem_cons_self).bind fun b hb => ?_
    refine (ih fun a' ha => h a' (List.mem_cons_of_mem _ ha)).bind fun bs hbs => ?_
    rw [unless_pure_iff]
    intro x hx
    rcases List.mem_append.1 hx with hx | hx
    · exact hb x (Option.mem_toList.1 hx)
    · exact hbs x hx

/-- The rule of an accumulating loop: an invariant that each round keeps. -/
theorem Unless.foldlM {f : β → α → Program Reply β} {inv : β → Prop} {as : List α}
    (h : ∀ b, inv b → ∀ a ∈ as, (f b a).Unless env bad inv) {b : β} (hb : inv b) :
    (as.foldlM f b).Unless env bad inv := by
  induction as generalizing b with
  | nil => exact fun _ => hb
  | cons a as ih =>
    rw [List.foldlM_cons]
    refine (h b hb a List.mem_cons_self).bind fun b' hb' => ?_
    exact ih (fun b hb a ha => h b hb a (List.mem_cons_of_mem _ ha)) hb'

/-- A result that does not satisfy `post` has a bad call behind it. -/
theorem Unless.exists_bad {p : Program Reply α} (h : p.Unless env bad post)
    (hpost : ¬ post (p.run env)) : ∃ c ∈ p.trace env, bad c := by
  by_contra hnone
  apply hpost
  apply h
  intro c hc hbad
  exact hnone ⟨c, hc, hbad⟩

end Unless

end Program

end Lib
