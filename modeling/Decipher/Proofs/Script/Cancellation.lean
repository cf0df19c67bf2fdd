import Decipher.Proofs.Script.Idempotence
import Decipher.Proofs.Script.Nesting
import Mathlib.Order.Bounds.Defs

/-!
# A cancelled run leaves nothing half done

A run that is cancelled gives no script at all, and one that is not gives the whole of what a run
gives that nobody tries to cancel.  The flag is looked at before the first statement and before
every 256th after that, and only there, so what a run does can be told from what it sees: `sift` is
the run over the statements together with the list of those that it examined.

* `Sees`: that the flag is looked at before a statement, and is raised.
* `sift_cases`: a run stops at the first statement before which it sees the flag.
* `run_eq_cancelled_or`, `run_eq_error_iff`: what a flag leaves as it is.
* `run_eq_cancelled_iff`: when a run over a program is cancelled.
* `run_cancellation`: what a flag can change of a run over a source, and when it does.

## What a flag can do

A flag is a function from looks to what is seen there.  It may go up and down again, and nothing is
said of who raises it; a flag that stays up from some index on is the special case in the last part
of `run_cancellation`.

`sift` is the recursion of the run with a list beside it.  `sift_snd` says that the list changes
nothing of the outcome, so that what is said about `sift` is said about the run.  `sift_cases`
determines both, the list and the outcome, from where the flag is seen first.  Everything else
follows from it: that a cancelled run has examined all statements before the one and none from
there on, that it has no script to show for them, and that a run which is not cancelled has seen no
flag.

A run over a source may fail before the first look, because the source is empty or too large,
cannot be read, or is no program.  These errors come before the flag is looked at, so that they are
the same for all flags (`run_cases`).
-/

namespace Decipher

open Shape

namespace Prune

variable {raised : Nat → Bool} {index : Nat} {statements : List Json}

/-- That a run sees the flag raised before it examines the statement at an index. -/
def Sees (raised : Nat → Bool) (index : Nat) : Prop :=
  index % lookInterval = 0 ∧ raised (index / lookInterval) = true

instance (raised : Nat → Bool) (index : Nat) : Decidable (Sees raised index) := by
  unfold Sees
  infer_instance

/-- A run over statements: those that it examines, in order, and what it comes to. -/
def sift (raised : Nat → Bool) (index : Nat) :
    List Json → List Json × Except PreprocessError (List Json)
  | [] => ([], .ok [])
  | statement :: rest =>
    if Sees raised index then ([], .error .cancelled)
    else
      let (examined, outcome) := sift raised (index + 1) rest
      (statement :: examined, outcome.map fun kept =>
        if functionShapedPattern.accepts statement then statement :: kept else kept)

/-- To note what is examined changes nothing: without its notes `sift` comes to what `keepFunctions`
does. -/
theorem sift_snd (raised : Nat → Bool) (index : Nat) (statements : List Json) :
    (sift raised index statements).2 = keepFunctions raised index statements := by
  induction statements generalizing index with
  | nil => rfl
  | cons statement rest ih =>
    rw [sift, keepFunctions, ← ih]
    have seen : (decide (index % lookInterval = 0) && raised (index / lookInterval)) = true ↔
        Sees raised index := by
      rw [Sees, Bool.and_eq_true, decide_eq_true_eq]
    simp only [seen]
    split
    · rfl
    · cases (sift raised (index + 1) rest).2 with
      | error e => rfl
      | ok kept =>
        show Except.ok _ = _
        split <;> rfl

/-- **A run stops at the first statement before which it sees the flag**, and examines none from
there on; if there is none, it examines all of them and keeps those that define functions. -/
theorem sift_cases (raised : Nat → Bool) (index : Nat) (statements : List Json) :
    (∃ n < statements.length, Sees raised (index + n) ∧ (∀ i < n, ¬ Sees raised (index + i)) ∧
        sift raised index statements = (statements.take n, .error .cancelled)) ∨
      (∀ i < statements.length, ¬ Sees raised (index + i)) ∧
        sift raised index statements =
          (statements, .ok (statements.filter functionShapedPattern.accepts)) := by
  induction statements generalizing index with
  | nil => exact .inr ⟨nofun, rfl⟩
  | cons statement rest ih =>
    by_cases sees : Sees raised index
    · exact .inl ⟨0, Nat.succ_pos _, sees, nofun, by rw [sift, if_pos sees]; rfl⟩
    · -- The statements behind the first one are at the index behind its own.
      have behind {n : Nat} (blind : ∀ i < n, ¬ Sees raised (index + 1 + i)) :
          ∀ i < n + 1, ¬ Sees raised (index + i) := by
        intro i less
        cases i with
        | zero => exact sees
        | succ i =>
          rw [Nat.add_comm i 1, ← Nat.add_assoc]
          exact blind i (Nat.lt_of_succ_lt_succ less)
      rw [sift, if_neg sees]
      obtain ⟨n, less, there, blind, run⟩ | ⟨blind, run⟩ := ih (index + 1)
      · refine .inl ⟨n + 1, Nat.succ_lt_succ less, ?_, behind blind, by rw [run]; rfl⟩
        rwa [Nat.add_comm n 1, ← Nat.add_assoc]
      · refine .inr ⟨behind blind, ?_⟩
        rw [run, List.filter_cons]
        rfl

/-- The statements before which the flag is looked at are every 256th. -/
theorem sees_look (raised : Nat → Bool) (look : Nat) :
    Sees raised (look * lookInterval) ↔ raised look = true := by
  have positive : 0 < lookInterval := by decide
  rw [Sees, Nat.mul_mod_left, Nat.mul_div_cancel _ positive]
  exact and_iff_right rfl

theorem Sees.exists_look {n : Nat} (sees : Sees raised n) :
    ∃ look, look * lookInterval = n ∧ raised look = true :=
  ⟨n / lookInterval, Nat.div_mul_cancel (Nat.dvd_of_mod_eq_zero sees.1), sees.2⟩

/-- What a run over statements comes to: nothing, if it sees the flag before one of them, and
else what it comes to if nobody raises the flag. -/
theorem keepFunctions_cases (raised : Nat → Bool) (statements : List Json) :
    (keepFunctions raised 0 statements = .error .cancelled ∧
        ∃ look, look * lookInterval < statements.length ∧ raised look = true) ∨
      keepFunctions raised 0 statements = keepFunctions (fun _ => false) 0 statements ∧
        ∀ look, look * lookInterval < statements.length → raised look = false := by
  rw [keepFunctions_unraised, ← sift_snd]
  obtain ⟨n, less, sees, -, run⟩ | ⟨blind, run⟩ := sift_cases raised 0 statements
  · rw [Nat.zero_add] at sees
    obtain ⟨look, rfl, seen⟩ := sees.exists_look
    exact .inl ⟨by rw [run], look, less, seen⟩
  · refine .inr ⟨by rw [run], fun look less => Bool.eq_false_iff.mpr fun seen => ?_⟩
    refine blind _ less ?_
    rwa [Nat.zero_add, sees_look]

/-- **A run over statements is cancelled just if the flag is up at a look before one of them.**  A
flag that goes up behind the last look is never seen. -/
theorem keepFunctions_eq_cancelled_iff (raised : Nat → Bool) (statements : List Json) :
    keepFunctions raised 0 statements = .error .cancelled ↔
      ∃ look, look * lookInterval < statements.length ∧ raised look = true := by
  obtain ⟨run, seen⟩ | ⟨run, blind⟩ := keepFunctions_cases raised statements
  · exact ⟨fun _ => seen, fun _ => run⟩
  · rw [run, keepFunctions_unraised]
    refine ⟨nofun, fun ⟨look, less, seen⟩ => ?_⟩
    rw [blind look less] at seen
    cases seen

/-- Nothing is examined from a look on at which the flag is seen, whatever was seen before. -/
theorem sift_length_le {look : Nat} (seen : raised look = true) (statements : List Json) :
    (sift raised 0 statements).1.length ≤ look * lookInterval := by
  have sees : Sees raised (0 + look * lookInterval) := by rwa [Nat.zero_add, sees_look]
  obtain ⟨n, -, -, blind, run⟩ | ⟨blind, run⟩ := sift_cases raised 0 statements
  · have first : n ≤ look * lookInterval := Nat.le_of_not_lt fun less => blind _ less sees
    rw [run]
    exact Nat.le_trans (List.length_take_le n statements) first
  · rw [run]
    exact Nat.le_of_not_lt fun less => blind _ less sees

/-! ## Runs over a source -/

/-- A run over a tree fails before it looks at the flag, or comes to a run over statements. -/
theorem pruneTree_cases (tree : Json) :
    (∀ raised, pruneTree raised tree = .error .notAProgram) ∨
      ∃ body, ∀ raised, pruneTree raised tree =
        (keepFunctions raised 0 (unwrapAll body)).map (program (tree.get "sourceType")) := by
  unfold pruneTree
  split
  · cases tree.array? ["body"] with
    | none => exact .inl fun _ => rfl
    | some body => exact .inr ⟨body, fun _ => rfl⟩
  · exact .inl fun _ => rfl

theorem checkSize_ne_cancelled {source : String} {limit : Nat} {e : PreprocessError}
    (fails : checkSize source limit = .error e) : e ≠ .cancelled := by
  unfold checkSize at fails
  split at fails
  · cases fails
    nofun
  · split at fails
    · cases fails
      nofun
    · cases fails

/-- A source that is not too large and can be read is pruned as a tree and written again. -/
theorem run_of_parse {limit : Nat} {source : String} {tree : Json}
    (size : checkSize source limit = .ok ()) (parses : Json.parse source = .ok tree)
    (raised : Nat → Bool) : run limit raised source = (pruneTree raised tree).map Json.text := by
  rw [run, size, parses]
  show ((pruneTree raised tree).bind fun pruned => .ok pruned.text) = _
  cases pruneTree raised tree <;> rfl

/-- A run over a source fails before it looks at the flag, or comes to a run over statements.  Which
of the two it is does not depend on the flag. -/
theorem run_cases (limit : Nat) (source : String) :
    (∃ e, e ≠ .cancelled ∧ ∀ raised, run limit raised source = .error e) ∨
      ∃ (tree : Json) (body : List Json), ∀ raised, run limit raised source =
        (keepFunctions raised 0 (unwrapAll body)).map
          fun kept => (program (tree.get "sourceType") kept).text := by
  cases size : checkSize source limit with
  | error e =>
    refine .inl ⟨e, checkSize_ne_cancelled size, fun raised => ?_⟩
    rw [run, size]
    rfl
  | ok done =>
    cases parses : Json.parse source with
    | error message =>
      refine .inl ⟨.invalidTree message, nofun, fun raised => ?_⟩
      rw [run, size, parses]
      rfl
    | ok tree =>
      obtain fails | ⟨body, prunes⟩ := pruneTree_cases tree
      · refine .inl ⟨.notAProgram, nofun, fun raised => ?_⟩
        rw [run_of_parse size parses, fails]
        rfl
      · refine .inr ⟨tree, body, fun raised => ?_⟩
        rw [run_of_parse size parses, prunes]
        cases keepFunctions raised 0 (unwrapAll body) <;> rfl

/-- A run is cancelled, or the flag makes no difference to it. -/
theorem run_eq_cancelled_or (limit : Nat) (raised : Nat → Bool) (source : String) :
    run limit raised source = .error .cancelled ∨
      run limit raised source = run limit (fun _ => false) source := by
  obtain ⟨e, -, fails⟩ | ⟨tree, body, runs⟩ := run_cases limit source
  · exact .inr (by rw [fails, fails])
  · rw [runs, runs]
    obtain ⟨cancelled, -⟩ | ⟨same, -⟩ := keepFunctions_cases raised (unwrapAll body)
    · exact .inl (by rw [cancelled]; rfl)
    · exact .inr (by rw [same])

/-- A run that nobody cancels is not cancelled. -/
theorem run_unraised_ne_cancelled (limit : Nat) (source : String) :
    run limit (fun _ => false) source ≠ .error .cancelled := by
  obtain ⟨e, other, fails⟩ | ⟨tree, body, runs⟩ := run_cases limit source
  · rw [fails]
    exact fun is => other (Except.error.inj is)
  · rw [runs, keepFunctions_unraised]
    nofun

/-- A run that fails for another reason than the flag fails for it with any flag.  All other
reasons are found before the first look at it. -/
theorem run_eq_error_iff (limit : Nat) (raised : Nat → Bool) (source : String)
    {e : PreprocessError} (other : e ≠ .cancelled) :
    run limit raised source = .error e ↔ run limit (fun _ => false) source = .error e := by
  obtain ⟨e', -, fails⟩ | ⟨tree, body, runs⟩ := run_cases limit source
  · rw [fails, fails]
  · rw [runs, runs, keepFunctions_unraised]
    obtain ⟨cancelled, -⟩ | ⟨same, -⟩ := keepFunctions_cases raised (unwrapAll body)
    · rw [cancelled]
      exact ⟨fun is => absurd (Except.error.inj is).symm other, nofun⟩
    · rw [same, keepFunctions_unraised]

section Program

variable {limit : Nat} {source : String} {tree : Json} {body hoisted : List Json}
  (size : checkSize source limit = .ok ()) (parses : Json.parse source = .ok tree)
  (kind : tree.IsKind "Program") (is : tree.get "body" = .array body) (opens : Opens body hoisted)
include size parses kind is opens

/-- A run over a program keeps functions among its opened statements, and writes what is kept. -/
theorem run_of_opens (raised : Nat → Bool) :
    run limit raised source = (keepFunctions raised 0 hoisted).map
      fun kept => (program (tree.get "sourceType") kept).text := by
  rw [run_of_parse size parses, pruneTree_of_program raised kind is, opens.eq]
  cases keepFunctions raised 0 hoisted <;> rfl

/-- A run over a program is cancelled just if the flag is raised at a look before one of its opened
statements. -/
theorem run_eq_cancelled_iff (raised : Nat → Bool) :
    run limit raised source = .error .cancelled ↔
      ∃ look, look * lookInterval < hoisted.length ∧ raised look = true := by
  rw [run_of_opens size parses kind is opens, ← keepFunctions_eq_cancelled_iff]
  cases keepFunctions raised 0 hoisted with
  | error e => exact ⟨congrArg _ ∘ Except.error.inj, congrArg _ ∘ Except.error.inj⟩
  | ok kept => exact ⟨nofun, nofun⟩

end Program

/-- **A cancelled run leaves nothing half done.**  Whatever the flag shows, a run over a source is
cancelled or comes to what it comes to if nobody raises the flag, and every other error is the same
for all flags.

Over the opened statements of a program the run examines those before the first at which it sees
the flag, and is cancelled there without a script; if there is none it examines all of them, and
keeps those that define functions.  So it is cancelled just if the flag is raised at a look before
one of them.  If it is raised from index `k` on, and `m` is the first multiple of 256 from there, no
statement from index `m` on is examined, and the run is cancelled if there is one. -/
theorem run_cancellation (limit : Nat) (raised : Nat → Bool) (source : String) :
    (run limit raised source = .error .cancelled ∨
        run limit raised source = run limit (fun _ => false) source) ∧
      (∀ e, e ≠ .cancelled →
        (run limit raised source = .error e ↔ run limit (fun _ => false) source = .error e)) ∧
      run limit (fun _ => false) source ≠ .error .cancelled ∧
      ∀ (tree : Json) (body hoisted : List Json), checkSize source limit = .ok () →
        Json.parse source = .ok tree → tree.IsKind "Program" → tree.get "body" = .array body →
        Opens body hoisted →
          run limit raised source = (sift raised 0 hoisted).2.map
              (fun kept => (program (tree.get "sourceType") kept).text) ∧
            ((∃ n < hoisted.length, Sees raised n ∧ (∀ i < n, ¬ Sees raised i) ∧
                sift raised 0 hoisted = (hoisted.take n, .error .cancelled)) ∨
              (∀ i < hoisted.length, ¬ Sees raised i) ∧
                sift raised 0 hoisted =
                  (hoisted, .ok (hoisted.filter functionShapedPattern.accepts))) ∧
            (run limit raised source = .error .cancelled ↔
              ∃ look, look * lookInterval < hoisted.length ∧ raised look = true) ∧
            ∀ k m, IsLeast {m | k ≤ m ∧ lookInterval ∣ m} m →
              (∀ look, k ≤ look * lookInterval → raised look = true) →
                (sift raised 0 hoisted).1.length ≤ m ∧
                  (m < hoisted.length → run limit raised source = .error .cancelled) := by
  refine ⟨run_eq_cancelled_or limit raised source,
    fun e other => run_eq_error_iff limit raised source other,
    run_unraised_ne_cancelled limit source, fun tree body hoisted size parses kind is opens => ?_⟩
  have runs := run_of_opens size parses kind is opens raised
  have cancelled_iff := run_eq_cancelled_iff size parses kind is opens raised
  -- What is looked at is the list of hoisted statements, from its beginning.
  have trace := sift_cases raised 0 hoisted
  simp only [Nat.zero_add] at trace
  refine ⟨by rw [runs, sift_snd], trace, cancelled_iff, ?_⟩
  rintro k m ⟨⟨reached, look, rfl⟩, -⟩ stays
  rw [Nat.mul_comm] at reached ⊢
  have seen := stays look reached
  exact ⟨sift_length_le seen hoisted, fun more => cancelled_iff.mpr ⟨look, more, seen⟩⟩

/-! ## A run that is cancelled late -/

/-- A program of 257 statements that define nothing. -/
def blanks : Json := program .null (List.replicate 257 .null)

theorem fits_blanks : Json.Fits 2 blanks := by
  refine program_fits (Json.fits_null 1) fun s member => ?_
  rw [List.eq_of_mem_replicate member]
  exact Json.fits_null 0

theorem parse_blanks : Json.parse blanks.text = .ok blanks := by
  have shallow : blanks.depth ≤ Json.maxNesting := fits_blanks.shallow.trans (by decide)
  refine eq_ok_of_toOption ?_
  rw [Json.parse_text fits_blanks.wellFormed shallow, Json.reread_eq_self_iff]
  have numbers : blanks.numbers = [] := by decide +kernel
  rw [numbers]
  nofun

theorem checkSize_blanks : checkSize blanks.text 2000 = .ok () := by
  rw [checkSize, Json.text, utf8ByteSize_ofList]
  decide +kernel

/-- A flag that goes up when the first statement was examined is seen behind the 256th, and not
before: so many are examined, and the last one is not. -/
theorem late_cancellation :
    run 2000 (fun look => look != 0) blanks.text = .error .cancelled ∧
      sift (fun look => look != 0) 0 (List.replicate 257 .null) =
        (List.replicate 256 .null, .error .cancelled) := by
  have plain : ∀ s ∈ List.replicate 257 Json.null, ∀ inner, ¬ Wraps s inner := by
    intro s member inner wraps
    rw [List.eq_of_mem_replicate member] at wraps
    exact nomatch wraps.kind
  have least : IsLeast {m | 1 ≤ m ∧ lookInterval ∣ m} 256 :=
    ⟨⟨by decide, Nat.dvd_refl _⟩, fun m ⟨positive, multiple⟩ => Nat.le_of_dvd positive multiple⟩
  obtain ⟨-, -, -, program⟩ := run_cancellation 2000 (fun look => look != 0) blanks.text
  obtain ⟨-, trace, -, late⟩ := program blanks _ _ checkSize_blanks parse_blanks rfl rfl
    (opens_of_plain plain)
  obtain ⟨-, cancelled⟩ := late 1 256 least fun look reached => by
    cases look with
    | zero => simp at reached
    | succ look => rfl
  refine ⟨cancelled (by rw [List.length_replicate]; decide), ?_⟩
  obtain ⟨n, less, ⟨multiple, seen⟩, -, run⟩ | ⟨blind, -⟩ := trace
  · -- The first look shows nothing, and there is only one more.
    have last : n = 256 := by
      rw [List.length_replicate] at less
      rw [lookInterval] at multiple seen
      have positive : n ≠ 0 := by
        rintro rfl
        cases seen
      omega
    rw [run, last, List.take_replicate]
    rfl
  · exact absurd (by decide) (blind 256 (by rw [List.length_replicate]; decide))

end Prune

end Decipher
