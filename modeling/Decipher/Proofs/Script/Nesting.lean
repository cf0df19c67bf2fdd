import Decipher.Proofs.Json.RoundTrip
import Decipher.Proofs.Json.WellFormed
import Decipher.Proofs.Script.Prune

/-!
# A pruned tree is no deeper

What a wrapper wraps lies deeper in a tree than the wrapper itself, so its statements have room
where it stood.  So a pruned tree is well formed if the tree is, and no brackets are open in it
at once beyond those that are open in the tree.

* `fits_of_mem_unwrapAll`: opened statements.
* `pruneTree_fits`: pruned trees.

The bound for a pruned tree is that of the tree and not a lower one, although what was wrapped
moves up.  A statement that is kept where it was lies as deep as before.  Wrappers that are inside
of others are not opened, so that nothing moves up by more than one wrapper, but for a bound from
above this does not matter.
-/

namespace Decipher

open Json

namespace Prune

variable {nesting : Nat} {statement x sourceType : Json} {body kept : List Json}

/-- A statement that stands for another one fits in its place. -/
theorem fits_of_mem_unwrap (fits : Fits nesting statement) (there : x ∈ unwrap statement) :
    Fits nesting x := by
  unfold unwrap at there
  split at there
  · extract_lets callee function at there
    have called : Fits nesting callee := (fits.path _).mono (by omega)
    have runs : Fits nesting function := by
      unfold function
      split
      · exact (called.get _).mono (by omega)
      · exact called
    cases found : function.array? ["body", "body"] with
    | none =>
      rw [found] at there
      rw [List.mem_singleton.mp there]
      exact fits
    | some inner =>
      rw [found] at there
      exact ((runs.path _).item found there).mono (by omega)
  · rw [List.mem_singleton.mp there]
    exact fits

/-- Opened statements fit where the statements of the script do, as each of them fits where the one
did that it came from. -/
theorem fits_of_mem_unwrapAll (fits : ∀ s ∈ body, Fits nesting s) (there : x ∈ unwrapAll body) :
    Fits nesting x := by
  obtain ⟨s, member, inner⟩ := List.mem_flatMap.mp there
  exact fits_of_mem_unwrap (fits s member) inner

theorem program_fits (type : Fits (nesting + 1) sourceType) (fits : ∀ s ∈ kept, Fits nesting s) :
    Fits (nesting + 2) (program sourceType kept) := by
  refine fits_object.mpr ⟨by simp only [Sorted, List.map_cons, List.map_nil]; decide, ?_⟩
  intro m there
  simp only [List.mem_cons, List.not_mem_nil, or_false] at there
  obtain rfl | rfl | rfl := there
  · exact fits_array.mpr fits
  · exact type
  · exact fits_string _ _

/-- What a run over a tree comes from, and what it comes to. -/
theorem pruneTree_eq_ok {raised : Nat → Bool} {tree pruned : Json}
    (done : pruneTree raised tree = .ok pruned) :
    ∃ body, tree.IsKind "Program" ∧ tree.get "body" = .array body ∧
      pruned = program (tree.get "sourceType")
        ((unwrapAll body).filter Shape.functionShapedPattern.accepts) := by
  unfold pruneTree at done
  split at done
  · rename_i kind
    split at done
    · cases done
    · rename_i body array
      cases keeps : keepFunctions raised 0 (unwrapAll body) with
      | error e =>
        rw [keeps] at done
        cases done
      | ok kept =>
        rw [keeps] at done
        cases done
        exact ⟨body, same_string.mp kind, array?_eq_some.mp array, by rw [keepFunctions_eq keeps]⟩
  · cases done

/-- **A pruned tree fits where the tree does.**  Opening wrappers brings statements up and never
down, and the filter takes some away. -/
theorem pruneTree_fits {raised : Nat → Bool} {tree pruned : Json} (fits : Fits nesting tree)
    (done : pruneTree raised tree = .ok pruned) : Fits nesting pruned := by
  obtain ⟨body, -, is, rfl⟩ := pruneTree_eq_ok done
  have whole := fits.get "body"
  rw [is] at whole
  have room := whole.shallow
  obtain ⟨n, rfl⟩ : ∃ n, nesting = n + 2 := by
    refine Nat.exists_eq_add_of_le' ?_
    rw [depth] at room
    omega
  refine program_fits (fits.get _) fun s member => ?_
  exact fits_of_mem_unwrapAll (fits_array.mp whole) (List.mem_filter.mp member).1

end Prune

end Decipher
