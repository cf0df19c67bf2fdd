import Mathlib.Logic.Basic

/-!
# Steps that can fail

When a step that can fail succeeds, when two of them do, and when one does whose causes are told in
other words.

* `bind_eq_ok`, `mapError_eq_ok`: what success comes from.
* `failure?`: what a step fails for.  Of two steps the first that fails decides
  (`failure?_bind_bind`).
* `toOption_map`, `toOption_mapError`: what is left without the causes.
-/

namespace Decipher

variable {ε ε' α β γ : Type}

/-- Two steps that can fail succeed together.  With this a run of steps is taken apart without
looking at how it might have failed. -/
theorem bind_eq_ok {x : Except ε α} {f : α → Except ε β} {b : β} :
    x >>= f = .ok b ↔ ∃ a, x = .ok a ∧ f a = .ok b := by
  cases x with
  | error e => simp [bind, Except.bind]
  | ok a => simp [bind, Except.bind]

/-- A step succeeds in whatever words it would fail. -/
theorem mapError_eq_ok {x : Except ε α} {f : ε → ε'} {a : α} :
    x.mapError f = .ok a ↔ x = .ok a := by
  constructor
  · intro same
    cases x with
    | error e => cases same
    | ok a' =>
      cases same
      rfl
  · intro same
    cases same
    rfl

/-! ## Causes -/

/-- The cause for which a step fails.  What a success would have given is left out, so that checks
with different results can be compared. -/
def failure? : Except ε α → Option ε
  | .error e => some e
  | .ok _ => none

theorem failure?_eq_some {x : Except ε α} {e : ε} : failure? x = some e ↔ x = .error e := by
  cases x <;> simp [failure?]

theorem failure?_eq_none {x : Except ε α} : failure? x = none ↔ ∃ a, x = .ok a := by
  cases x <;> simp [failure?]

/-- What is done with the value of a step is not among the causes. -/
theorem failure?_bind_pure (x : Except ε α) (f : α → β) :
    failure? (x >>= fun a => pure (f a)) = failure? x := by
  cases x <;> rfl

/-- The second of two steps is not taken where the first one fails.  So the first cause comes before
the second. -/
theorem failure?_bind_bind (x : Except ε α) (y : Except ε β) (f : α → β → γ) :
    failure? (x >>= fun a => y >>= fun b => pure (f a b)) = (failure? x).or (failure? y) := by
  cases x with
  | error e => rfl
  | ok a => exact failure?_bind_pure y (f a)

/-! ## Without the causes -/

@[simp] theorem toOption_map (f : α → β) (x : Except ε α) :
    (x.map f).toOption = x.toOption.map f := by
  cases x <;> rfl

@[simp] theorem toOption_mapError (f : ε → ε') (x : Except ε α) :
    (x.mapError f).toOption = x.toOption := by
  cases x <;> rfl

/-- What is left when causes are dropped is what a success gave. -/
theorem eq_ok_of_toOption {x : Except ε α} {a : α} (some : x.toOption = some a) : x = .ok a := by
  cases x with
  | error e => cases some
  | ok a' =>
    cases some
    rfl

end Decipher
