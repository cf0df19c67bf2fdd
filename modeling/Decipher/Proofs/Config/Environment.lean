import Decipher.Config.Environment
import Decipher.Proofs.Text.Word

/-!
# What the environment can do to a configuration

Two settings can be overridden and no others, and to override them twice is to override them once.
Whether a valid configuration stays valid is another matter.  A number of slots is taken only if
it is one that a configuration may have, but a timeout is taken whatever it is: with a timeout of
zero in the environment no configuration is valid.

* `SetsNumber`: that an environment has a number for a variable, told without reading it.
* `withEnvironment_eq`: the overridden settings in closed form.
* `withEnvironment_problems`: a valid configuration stays valid just if the environment does not
  set a timeout of zero.

The two settings are read in the same way and checked in the same way; they differ in what is done
between.  For the number of slots a zero is left out before it is taken (`Option.filter` in
`withEnvironment_eq`), for the timeout it is not.  So the condition in `withEnvironment_problems`
is about one variable only, and it is exact: with it the configuration has a problem, and this one
and no other.

Texts that write a number may have blanks around it, a sign and zeros in front
(`Proofs.Text.Word`), so that there are many ways to set a timeout of zero.
-/

namespace Decipher

namespace Config

variable {env : Environment} {name : String} {c : Config} {n : Nat}

/-! ## Numbers in the environment -/

/-- That a variable is set to a text that writes a word between blanks.  A variable that is set to
anything else counts as one that is not set. -/
def SetsNumber (env : Environment) (name : String) (n : Nat) : Prop :=
  ∃ value, env.lookup name = some value ∧ WritesNumber value.toList n ∧ n < wordLimit

/-- What is read of a variable is the number that its text writes.  A text that writes none is as
good as no text. -/
theorem numberOf_eq_some : numberOf env name = some n ↔ SetsNumber env name n := by
  simp only [numberOf, Option.bind_eq_some_iff, word?_trimChars, SetsNumber]

/-! ## Overridden settings -/

/-- The number of slots and the timeout are overridden, each on its own.  The first is not
overridden with zero, and the second is. -/
theorem withEnvironment_eq (env : Environment) (c : Config) :
    c.withEnvironment env =
      { c with
        concurrency := ((numberOf env concurrencyVariable).filter (0 < ·)).getD c.concurrency
        taskTimeout := (numberOf env timeoutVariable).getD c.taskTimeout } := by
  unfold withEnvironment
  cases numberOf env concurrencyVariable with
  | none => cases numberOf env timeoutVariable <;> rfl
  | some n =>
    obtain rfl | positive := Nat.eq_zero_or_pos n
    · cases numberOf env timeoutVariable <;> rfl
    · simp only [if_pos positive, Option.filter_some, decide_eq_true positive, if_true]
      cases numberOf env timeoutVariable <;> rfl

/-- A configuration is valid if none of its numbers is zero and the directory has a name. -/
theorem problems_eq_nil :
    c.problems = [] ↔
      c.concurrency ≠ 0 ∧ c.taskTimeout ≠ 0 ∧ c.maxPayload ≠ 0 ∧ c.cacheDir.isEmpty = false := by
  simp [problems]

/-- To override settings twice is to override them once.  The environment says what the values are
and not by how much they change. -/
theorem withEnvironment_twice (env : Environment) (c : Config) :
    (c.withEnvironment env).withEnvironment env = c.withEnvironment env := by
  simp only [withEnvironment_eq]
  congr 1
  · cases (numberOf env concurrencyVariable).filter (0 < ·) <;> rfl
  · cases numberOf env timeoutVariable <;> rfl

/-- Zero slots are not taken from the environment, so that a number of slots which is none cannot
come from there. -/
theorem concurrency_withEnvironment (env : Environment) (some : c.concurrency ≠ 0) :
    (c.withEnvironment env).concurrency ≠ 0 := by
  rw [withEnvironment_eq]
  dsimp only
  cases taken : (numberOf env concurrencyVariable).filter (0 < ·) with
  | none => exact some
  | some n =>
    have positive := (Option.filter_eq_some_iff.mp taken).2
    exact Nat.pos_iff_ne_zero.mp (of_decide_eq_true positive)

/-- A timeout of zero is taken from the environment, and is the only way to come by one. -/
theorem taskTimeout_withEnvironment (env : Environment) (some : c.taskTimeout ≠ 0) :
    (c.withEnvironment env).taskTimeout = 0 ↔ SetsNumber env timeoutVariable 0 := by
  rw [withEnvironment_eq, ← numberOf_eq_some]
  dsimp only
  cases numberOf env timeoutVariable with
  | none => simpa using some
  | some n => simp

/-- **A valid configuration stays valid just if the environment does not set a timeout of zero.**
If it does, that is the one thing wrong with what comes of it.  Two settings at most are changed,
and nothing more by the same environment once again. -/
theorem withEnvironment_problems (env : Environment) (valid : c.problems = []) :
    ((c.withEnvironment env).problems = [] ↔ ¬ SetsNumber env timeoutVariable 0) ∧
      (SetsNumber env timeoutVariable 0 →
        (c.withEnvironment env).problems = ["task_timeout_ms must be greater than 0"]) ∧
      { c.withEnvironment env with
        concurrency := c.concurrency, taskTimeout := c.taskTimeout } = c ∧
      (c.withEnvironment env).withEnvironment env = c.withEnvironment env := by
  obtain ⟨slots, timeout, payload, dir⟩ := problems_eq_nil.mp valid
  have slots' := concurrency_withEnvironment env slots
  have timeout' := taskTimeout_withEnvironment env timeout
  have payload' : (c.withEnvironment env).maxPayload ≠ 0 := by rwa [withEnvironment_eq]
  have dir' : (c.withEnvironment env).cacheDir.isEmpty = false := by rwa [withEnvironment_eq]
  refine ⟨?_, fun zero => ?_, by rw [withEnvironment_eq], withEnvironment_twice env c⟩
  · rw [problems_eq_nil, ← timeout']
    exact ⟨fun all => all.2.1, fun some => ⟨slots', some, payload', dir'⟩⟩
  · simp [problems, slots', timeout'.mpr zero, payload', dir']

/-- Zero for both variables.  In the second one it is written with a sign and between blanks, and is
zero all the same. -/
def zeros : Environment := [("MAX_THREADS", "0"), ("WORKER_TASK_TIMEOUT", " +00 ")]

/-- Zero slots are not taken, a timeout of zero is. -/
theorem zeros_problems :
    ({} : Config).problems = [] ∧ SetsNumber zeros concurrencyVariable 0 ∧
      SetsNumber zeros timeoutVariable 0 ∧
      (withEnvironment zeros {}).problems = ["task_timeout_ms must be greater than 0"] := by
  have valid : ({} : Config).problems = [] := by decide
  have slots : SetsNumber zeros concurrencyVariable 0 := numberOf_eq_some.mp (by decide)
  have timeout : SetsNumber zeros timeoutVariable 0 := numberOf_eq_some.mp (by decide)
  exact ⟨valid, slots, timeout, (withEnvironment_problems zeros valid).2.1 timeout⟩

/-- Not every environment leaves a valid configuration valid. -/
theorem not_withEnvironment_valid :
    ¬ ∀ (env : Environment) (c : Config),
        c.problems = [] → (c.withEnvironment env).problems = [] := by
  intro keeps
  exact absurd (keeps [("WORKER_TASK_TIMEOUT", "0")] {} (by decide)) (by decide)

end Config

end Decipher
