import Archspec.Lib.Program

/-!
# Programs that cannot tell answers apart

`Respects rel` says of a program that it goes on in the same way after any two answers that `rel`
relates, at every call it makes.  Such a program has the same result in any two environments whose
answers are related call by call (`Respects.run_eq`).

The rules follow the constructs of a program.  They are simp lemmas: `respects_bind_iff` passes a
first part that is known to respect the relation, so that a program made of known parts is settled
by `simp` with the name of the program; a call whose answer must be looked at before the program
forgets the difference has the rule `respects_call_bind`.
-/

namespace Lib

namespace Program

variable {Call : Type} {Reply : Call → Type} {α β : Type}

/-- The program goes on in the same way after related answers. -/
def Respects (rel : (c : Call) → Reply c → Reply c → Prop) : Program Reply α → Prop
  | .pure _ => True
  | .request c next => (∀ r r', rel c r r' → next r = next r') ∧ ∀ r, (next r).Respects rel

variable {rel : (c : Call) → Reply c → Reply c → Prop}

@[simp] theorem respects_pure (a : α) : (Pure.pure a : Program Reply α).Respects rel := trivial

/-- A call whose answers are related only to themselves. -/
theorem respects_call {c : Call} (h : ∀ r r', rel c r r' → r = r') :
    (call c : Program Reply (Reply c)).Respects rel :=
  ⟨fun r r' hr => congrArg _ (h r r' hr), fun _ => trivial⟩

/-- A call whose answer is used up to the relation. -/
theorem respects_call_bind {c : Call} {f : Reply c → Program Reply α}
    (heq : ∀ r r', rel c r r' → f r = f r') (h : ∀ r, (f r).Respects rel) :
    (call c >>= f).Respects rel := ⟨heq, h⟩

/-- What comes behind a part that respects the relation. -/
@[simp] theorem respects_bind_iff {p : Program Reply α} {f : α → Program Reply β} (hp : p.Respects rel) :
    (p >>= f).Respects rel ↔ ∀ a, p.Returns a → (f a).Respects rel := by
  induction p with
  | pure a =>
    refine ⟨fun h b hb => ?_, fun h => h a (.pure a)⟩
    cases hb
    exact h
  | request c next ih =>
    constructor
    · rintro ⟨-, h⟩ a (_ | ⟨r, ha⟩)
      exact (ih r (hp.2 r)).1 (h r) a ha
    · intro h
      refine ⟨fun r r' hr => ?_, fun r => (ih r (hp.2 r)).2 fun a ha => h a (.request r ha)⟩
      show (next r).bind f = (next r').bind f
      rw [hp.1 r r' hr]

theorem Respects.bind {p : Program Reply α} {f : α → Program Reply β} (hp : p.Respects rel)
    (hf : ∀ a, (f a).Respects rel) : (p >>= f).Respects rel :=
  (respects_bind_iff hp).2 fun a _ => hf a

@[simp] theorem Respects.map {p : Program Reply α} (hp : p.Respects rel) (f : α → β) :
    (f <$> p).Respects rel := by
  rw [map_eq_pure_bind]
  exact hp.bind fun _ => trivial

@[simp] theorem respects_ite (c : Prop) [Decidable c] (p q : Program Reply α) :
    (if c then p else q).Respects rel ↔ (c → p.Respects rel) ∧ (¬ c → q.Respects rel) := by
  by_cases h : c <;> simp [h]

@[simp] theorem Respects.gather {f : α → Program Reply (Option β)} (h : ∀ a, (f a).Respects rel)
    (as : List α) : (Program.gather f as).Respects rel := by
  induction as with
  | nil => trivial
  | cons a as ih => exact (h a).bind fun _ => ih.bind fun _ => trivial

@[simp] theorem Respects.foldlM {f : β → α → Program Reply β} (h : ∀ b a, (f b a).Respects rel)
    (as : List α) (b : β) : (as.foldlM f b).Respects rel := by
  induction as generalizing b with
  | nil => trivial
  | cons a as ih =>
    rw [List.foldlM_cons]
    exact (h b a).bind ih

/-- Related environments give the same result. -/
theorem Respects.run_eq {p : Program Reply α} (h : p.Respects rel)
    {env env' : (c : Call) → Reply c} (hrel : ∀ c, rel c (env c) (env' c)) :
    p.run env = p.run env' := by
  induction p with
  | pure a => rfl
  | request c next ih =>
    show (next (env c)).run env = (next (env' c)).run env'
    rw [h.1 _ _ (hrel c)]
    exact ih _ (h.2 _)

end Program

end Lib
