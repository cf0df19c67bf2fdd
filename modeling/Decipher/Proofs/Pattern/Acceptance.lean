import Decipher.Pattern.Basic
import Mathlib.Logic.Basic

/-!
# What patterns accept

The matcher is a recursion over patterns.  Here each kind of pattern is given by what it says
about a node, so that a pattern can be read without running the matcher.

A member that is not there reads as `null`.  Most patterns do not accept `null`
(`Pattern.Solid`); below such patterns it makes no difference whether a member is looked up
or read (`exists_get?_accepts`).

* `accepts_fields`, `accepts_elements`, `accepts_anyOf`, `accepts_anyChild`: one lemma for each
  kind of pattern, over all of its parts at once.
* `accepts_fields_cons`, `accepts_elements_cons`, `accepts_anyOf_cons`: the same for one part and
  the others, in the form in which a template of the program is taken apart.

The first form is for statements about all patterns, which are proved by induction over them; the
second is for patterns that are written down.  The recursion of the matcher is not opened anywhere
else.
-/

namespace Decipher

namespace Json

variable {key : String} {node : Json}

/-- A value other than `null` is read just where it is a member.  Looking a member up tells a
missing one from one that is `null`, and reading it does not. -/
theorem exists_get?_iff {P : Json → Prop} (solid : ¬ P null) :
    (∃ v, node.get? key = some v ∧ P v) ↔ P (node.get key) := by
  unfold get
  cases node.get? key with
  | none => simpa using solid
  | some v => simp

end Json

namespace Pattern

/-! ## One kind of pattern at a time -/

@[simp] theorem accepts_anything (node : Json) : anything.accepts node = true := rfl

/-- A string is compared as it is.  For numbers this would not hold, since two of them can be the
same without being equal. -/
theorem accepts_exactly_string {s : String} {node : Json} :
    (exactly (.string s)).accepts node = true ↔ node = .string s := by
  cases node <;> simp [accepts, Json.same]

/-- Each of the named members is looked for, and what is found under its name has to match.  Members
that are not named do not matter. -/
theorem acceptsFields_eq_true {members : List (String × Pattern)}
    {nodes : List (String × Json)} :
    acceptsFields members nodes = true ↔
      ∀ m ∈ members, ∃ v, Json.lookup m.1 nodes = some v ∧ m.2.accepts v = true := by
  induction members with
  | nil => simp [acceptsFields]
  | cons m rest ih =>
    obtain ⟨key, p⟩ := m
    rw [acceptsFields, Bool.and_eq_true, ih, List.forall_mem_cons]
    cases Json.lookup key nodes <;> simp

/-- Named members ask for an object in which each of them is there and matches. -/
theorem accepts_fields {members : List (String × Pattern)} {node : Json} (some : members ≠ []) :
    (fields members).accepts node = true ↔
      ∀ m ∈ members, ∃ v, node.get? m.1 = Option.some v ∧ m.2.accepts v = true := by
  cases node with
  | object nodes => exact acceptsFields_eq_true
  | _ =>
    obtain ⟨m, member⟩ := List.exists_mem_of_ne_nil members some
    refine ⟨fun h => ?_, fun all => ?_⟩
    · simp [accepts] at h
    · obtain ⟨v, found, -⟩ := all m member
      cases found

@[simp] theorem accepts_elements_nil_array (vs : List Json) :
    (elements []).accepts (.array vs) = true := rfl

/-- Items are matched one after another from the front, and those of the node that are left over do
not matter. -/
theorem accepts_elements_cons {p : Pattern} {ps : List Pattern} {node : Json} :
    (elements (p :: ps)).accepts node = true ↔
      ∃ v vs, node = .array (v :: vs) ∧ p.accepts v = true ∧
        (elements ps).accepts (.array vs) = true := by
  cases node with
  | array nodes =>
    cases nodes with
    | nil => simp [accepts, acceptsElements]
    | cons v vs =>
      rw [accepts, acceptsElements, Bool.and_eq_true]
      refine ⟨fun ⟨first, others⟩ => ⟨v, vs, rfl, first, others⟩, ?_⟩
      rintro ⟨v', vs', same, first, others⟩
      cases same
      exact ⟨first, others⟩
  | _ => simp [accepts]

/-- Each pattern has an item at its place that matches.  The places are counted from the front in
both lists. -/
theorem acceptsElements_eq_true {ps : List Pattern} {vs : List Json} :
    acceptsElements ps vs = true ↔
      ∀ (i : Nat) (p : Pattern), ps[i]? = some p →
        ∃ v, vs[i]? = some v ∧ p.accepts v = true := by
  induction ps generalizing vs with
  | nil => simp [acceptsElements]
  | cons p ps ih =>
    -- There are as many items as are asked for, and perhaps more, which may be anything.
    cases vs with
    | nil =>
      constructor
      · intro h
        cases h
      · intro all
        obtain ⟨v, found, -⟩ := all 0 p rfl
        cases found
    | cons v vs =>
      rw [acceptsElements, Bool.and_eq_true, ih]
      constructor
      · rintro ⟨first, others⟩ i q found
        cases i with
        | zero =>
          cases found
          exact ⟨v, rfl, first⟩
        | succ i => exact others i q found
      · intro all
        refine ⟨?_, fun i q found => all (i + 1) q found⟩
        obtain ⟨w, found, first⟩ := all 0 p rfl
        cases found
        exact first

/-- Items ask for an array that has a matching item at each of their places.  The array may be
longer, and its other items may be anything. -/
theorem accepts_elements {ps : List Pattern} {node : Json} :
    (elements ps).accepts node = true ↔
      ∃ vs : List Json, node = .array vs ∧
        ∀ (i : Nat) (p : Pattern), ps[i]? = some p →
          ∃ v, vs[i]? = some v ∧ p.accepts v = true := by
  cases node with
  | array vs =>
    rw [accepts, acceptsElements_eq_true]
    constructor
    · exact fun all => ⟨vs, rfl, all⟩
    · rintro ⟨_, ⟨⟩, all⟩
      exact all
  | _ => simp [accepts]

/-- Alternatives ask for one of them.  Without any nothing is accepted. -/
theorem accepts_anyOf {ps : List Pattern} {node : Json} :
    (anyOf ps).accepts node = true ↔ ∃ p ∈ ps, p.accepts node = true := by
  rw [accepts]
  induction ps with
  | nil => simp [acceptsAnyOf]
  | cons p ps ih => simp only [acceptsAnyOf, Bool.or_eq_true, ih, List.mem_cons, exists_eq_or_imp]

theorem accepts_anyOf_singleton {p : Pattern} {node : Json} :
    (anyOf [p]).accepts node = true ↔ p.accepts node = true := by
  simp [accepts, acceptsAnyOf]

/-- Alternatives as a disjunction, which is how templates are described. -/
theorem accepts_anyOf_cons {p q : Pattern} {ps : List Pattern} {node : Json} :
    (anyOf (p :: q :: ps)).accepts node = true ↔
      p.accepts node = true ∨ (anyOf (q :: ps)).accepts node = true := by
  rw [accepts, acceptsAnyOf, Bool.or_eq_true, accepts]

/-- A child of a node is an item or the value of a member. -/
theorem accepts_anyChild {p : Pattern} {node : Json} :
    (anyChild p).accepts node = true ↔ ∃ v ∈ node.children, p.accepts v = true := by
  rw [accepts, List.any_eq_true]

/-! ## Members that are not there -/

/-- A pattern that does not accept `null`.  All patterns for kinds of nodes are of this sort;
`anything` is not. -/
def Solid (p : Pattern) : Prop := p.accepts .null = false

instance (p : Pattern) : Decidable p.Solid := inferInstanceAs (Decidable (_ = false))

/-- A member with a solid pattern may as well be read. -/
theorem exists_get?_accepts {p : Pattern} (solid : p.Solid) {key : String} {node : Json} :
    (∃ v, node.get? key = some v ∧ p.accepts v = true) ↔ p.accepts (node.get key) = true := by
  refine Json.exists_get?_iff (P := fun v => p.accepts v = true) ?_
  rw [solid]
  exact Bool.false_ne_true

theorem accepts_fields_singleton {key : String} {p : Pattern} {node : Json} (solid : p.Solid) :
    (fields [(key, p)]).accepts node = true ↔ p.accepts (node.get key) = true := by
  rw [accepts_fields (List.cons_ne_nil _ _), List.forall_mem_singleton]
  exact exists_get?_accepts solid

/-- One named member after another. -/
theorem accepts_fields_cons_iff {m m' : String × Pattern} {rest : List (String × Pattern)}
    {node : Json} :
    (fields (m :: m' :: rest)).accepts node = true ↔
      (∃ v, node.get? m.1 = some v ∧ m.2.accepts v = true) ∧
        (fields (m' :: rest)).accepts node = true := by
  rw [accepts_fields (List.cons_ne_nil _ _), List.forall_mem_cons,
    accepts_fields (List.cons_ne_nil _ _)]

/-- The same for a member with a solid pattern, which may as well be read. -/
theorem accepts_fields_cons {key : String} {p : Pattern} {m : String × Pattern}
    {rest : List (String × Pattern)} {node : Json} (solid : p.Solid) :
    (fields ((key, p) :: m :: rest)).accepts node = true ↔
      p.accepts (node.get key) = true ∧ (fields (m :: rest)).accepts node = true := by
  rw [accepts_fields_cons_iff]
  exact and_congr_left' (exists_get?_accepts solid)

/-- A member of which nothing is asked must be there all the same.  This is the one case in which
looking up cannot be replaced by reading. -/
theorem accepts_fields_anything {key : String} {m : String × Pattern}
    {rest : List (String × Pattern)} {node : Json} :
    (fields ((key, anything) :: m :: rest)).accepts node = true ↔
      (∃ v, node.get? key = some v) ∧ (fields (m :: rest)).accepts node = true := by
  simp only [accepts_fields_cons_iff, accepts_anything, and_true]

end Pattern

end Decipher
