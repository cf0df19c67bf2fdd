import Decipher.Pattern.Template
import Decipher.Proofs.Pattern.Acceptance
import Decipher.Proofs.Results

/-!
# What templates are compiled to

* `ofTemplateAt_sole`, `ofTemplateAt_several`: how an object is compiled, without regard to how
  its members are told apart.
* `Pattern.Compiled`: the patterns that come of templates.  They compare nothing but leaves, and
  what they want of members they want of one member at least.
* `Json.MarkerFree`: values in which no object has the key of a marker.  Such a value can be
  compiled, and `Json.literal` is the pattern that it is compiled to.

Two facts are needed of compilation, and they pull in different directions.  For every template the
pattern that comes of it is of a certain form, so that statements about such patterns hold of all
templates; and for a value without markers the pattern is known, so that a value can be used as a
template of itself.

An object with one member stands apart from the others in the definition, because only such an
object can be a marker.  All case distinctions over objects here are therefore three: no member,
one, and more than one.
-/

namespace Decipher

/-- A value with nothing below it.  Leaves are what patterns compare, and the only values that they
compare. -/
def Json.IsLeaf : Json → Prop
  | array _ => False
  | object _ => False
  | _ => True

namespace Pattern

open Template

/-! ## Objects -/

/-- An object with one member is a marker or it is not, and its key decides. -/
theorem ofTemplateAt_sole (path : Path) (key : String) (v : Json) :
    ofTemplateAt path (.object [(key, v)]) =
      if key = orKey then
        match v with
        | .array [] => .error ⟨path, .noAlternatives⟩
        | .array items => do return anyOf (← ofAlternatives path 0 items)
        | _ => .error ⟨path, .notAnArray⟩
      else if key = anyKey then do return anyChild (← ofTemplateAt (path ++ [.child]) v)
      else do return fields [(key, ← ofTemplateAt (path ++ [.field key]) v)] := by
  cases v with
  | array items =>
    cases items with
    | nil => rfl
    | cons a as => simp only [ofTemplateAt, ofAlternatives, bind_assoc, pure_bind]
  | _ => rfl

/-- An object with more members is no marker, and must have the key of none. -/
theorem ofTemplateAt_several (path : Path) (m m' : String × Json) (rest : List (String × Json)) :
    ofTemplateAt path (.object (m :: m' :: rest)) =
      match mixedMarker? (m :: m' :: rest) with
      | some marker => .error ⟨path, .mixedMarker marker⟩
      | none => do return fields (← ofFields path (m :: m' :: rest)) := by
  rw [ofTemplateAt]
  cases mixedMarker? (m :: m' :: rest) with
  | some marker => rfl
  | none => simp only [ofFields, bind_assoc, pure_bind]

/-! ## Patterns of templates -/

/-- The patterns that templates are compiled to.  More patterns can be written down, and some of
them behave otherwise: members of which there are none ask for an object and for nothing in it,
alternatives of which there are none accept nothing, and a comparison with an array sees how it goes
on. -/
inductive Compiled : Pattern → Prop
  | anything : Compiled anything
  | exactly (v : Json) (leaf : v.IsLeaf) : Compiled (exactly v)
  | fields (members : List (String × Pattern)) (some : members ≠ [])
      (parts : ∀ m ∈ members, Compiled m.2) : Compiled (fields members)
  | elements (items : List Pattern) (parts : ∀ p ∈ items, Compiled p) :
    Compiled (elements items)
  | anyOf (alternatives : List Pattern) (some : alternatives ≠ [])
      (parts : ∀ p ∈ alternatives, Compiled p) : Compiled (anyOf alternatives)
  | anyChild (p : Pattern) (part : Compiled p) : Compiled (anyChild p)

/-- Members that are compiled are as many as before, so that none of them are lost. -/
theorem ofFields_ne_nil {path : Path} {m : String × Json} {rest : List (String × Json)}
    {ps : List (String × Pattern)} (h : ofFields path (m :: rest) = .ok ps) : ps ≠ [] := by
  obtain ⟨p, -, h⟩ := bind_eq_ok.mp h
  obtain ⟨others, -, same⟩ := bind_eq_ok.mp h
  cases same
  exact List.cons_ne_nil _ _

/-- Neither are alternatives. -/
theorem ofAlternatives_ne_nil {path : Path} {index : Nat} {v : Json} {rest : List Json}
    {ps : List Pattern} (h : ofAlternatives path index (v :: rest) = .ok ps) : ps ≠ [] := by
  obtain ⟨p, -, h⟩ := bind_eq_ok.mp h
  obtain ⟨others, -, same⟩ := bind_eq_ok.mp h
  cases same
  exact List.cons_ne_nil _ _

mutual

/-- **A template that has a pattern has a compiled one.**  The recursion is that of the compiler,
over a value and the three kinds of lists in it; the size of the value is what goes down, since an
array of alternatives lies two steps below its object. -/
theorem compiled_of_ofTemplateAt (path : Path) (p : Pattern) :
    ∀ template : Json, ofTemplateAt path template = .ok p → p.Compiled
  | .null, h => by
    cases h
    exact .exactly _ trivial
  | .bool b, h => by
    cases h
    exact .exactly _ trivial
  | .number n, h => by
    cases h
    exact .exactly _ trivial
  | .string s, h => by
    cases h
    exact .exactly _ trivial
  | .array items, h => by
    obtain ⟨ps, parts, same⟩ := bind_eq_ok.mp h
    cases same
    exact .elements ps (compiled_of_ofItems path 0 ps items parts)
  | .object [], h => by
    cases h
    exact .anything
  | .object [(key, v)], h => by
    -- An object with one key may be a marker, and is a template for this key otherwise.
    rw [ofTemplateAt_sole] at h
    split at h
    · split at h
      · cases h
      · rename_i items some
        obtain ⟨ps, parts, same⟩ := bind_eq_ok.mp h
        cases same
        refine .anyOf ps ?_ (compiled_of_ofAlternatives path 0 ps items parts)
        cases items with
        | nil => exact absurd rfl some
        | cons a as => exact ofAlternatives_ne_nil parts
      · cases h
    · split at h
      · obtain ⟨q, part, same⟩ := bind_eq_ok.mp h
        cases same
        exact .anyChild q (compiled_of_ofTemplateAt _ q v part)
      · obtain ⟨q, part, same⟩ := bind_eq_ok.mp h
        cases same
        exact .fields _ (List.cons_ne_nil _ _)
          (List.forall_mem_singleton.mpr (compiled_of_ofTemplateAt _ q v part))
  | .object (m :: m' :: rest), h => by
    rw [ofTemplateAt_several] at h
    split at h
    · cases h
    · obtain ⟨qs, parts, same⟩ := bind_eq_ok.mp h
      cases same
      exact .fields qs (ofFields_ne_nil parts) (compiled_of_ofFields path qs _ parts)
termination_by template => sizeOf template

theorem compiled_of_ofAlternatives (path : Path) (index : Nat) (ps : List Pattern) :
    ∀ vs : List Json, ofAlternatives path index vs = .ok ps → ∀ p ∈ ps, p.Compiled
  | [], h => by
    cases h
    exact List.forall_mem_nil _
  | v :: rest, h => by
    obtain ⟨p, first, h⟩ := bind_eq_ok.mp h
    obtain ⟨others, more, same⟩ := bind_eq_ok.mp h
    cases same
    exact List.forall_mem_cons.mpr ⟨compiled_of_ofTemplateAt _ p v first,
      compiled_of_ofAlternatives path (index + 1) others rest more⟩
termination_by vs => sizeOf vs

theorem compiled_of_ofItems (path : Path) (index : Nat) (ps : List Pattern) :
    ∀ vs : List Json, ofItems path index vs = .ok ps → ∀ p ∈ ps, p.Compiled
  | [], h => by
    cases h
    exact List.forall_mem_nil _
  | v :: rest, h => by
    obtain ⟨p, first, h⟩ := bind_eq_ok.mp h
    obtain ⟨others, more, same⟩ := bind_eq_ok.mp h
    cases same
    exact List.forall_mem_cons.mpr ⟨compiled_of_ofTemplateAt _ p v first,
      compiled_of_ofItems path (index + 1) others rest more⟩
termination_by vs => sizeOf vs

theorem compiled_of_ofFields (path : Path) (ps : List (String × Pattern)) :
    ∀ ms : List (String × Json), ofFields path ms = .ok ps → ∀ p ∈ ps, p.2.Compiled
  | [], h => by
    cases h
    exact List.forall_mem_nil _
  | (key, v) :: rest, h => by
    obtain ⟨p, first, h⟩ := bind_eq_ok.mp h
    obtain ⟨others, more, same⟩ := bind_eq_ok.mp h
    cases same
    exact List.forall_mem_cons.mpr ⟨compiled_of_ofTemplateAt _ p v first,
      compiled_of_ofFields path others rest more⟩
termination_by vs => sizeOf vs

end

end Pattern

/-! ## Values without markers -/

namespace Json

open Template

/-- That no object in a value, at any depth, has the key of a marker.  Such a value is a template
that means itself, and it has no defect. -/
inductive MarkerFree : Json → Prop
  | leaf (v : Json) (leaf : v.IsLeaf) : MarkerFree v
  | array (items : List Json) (parts : ∀ v ∈ items, MarkerFree v) : MarkerFree (array items)
  | object (members : List (String × Json))
      (keys : ∀ m ∈ members, m.1 ≠ orKey ∧ m.1 ≠ anyKey)
      (parts : ∀ m ∈ members, MarkerFree m.2) : MarkerFree (object members)

mutual

/-- The pattern of a value in which no object is read as a marker.  The empty object is one all
the same: it stands for anything. -/
def literal : Json → Pattern
  | object [] => .anything
  | object (m :: rest) => .fields (literalMembers (m :: rest))
  | array items => .elements (literalItems items)
  | v => .exactly v

/-- The patterns of items. -/
def literalItems : List Json → List Pattern
  | [] => []
  | v :: rest => literal v :: literalItems rest

/-- The patterns of members. -/
def literalMembers : List (String × Json) → List (String × Pattern)
  | [] => []
  | (key, v) :: rest => (key, literal v) :: literalMembers rest

end

/-- A leaf is compared. -/
theorem literal_of_isLeaf {v : Json} (leaf : v.IsLeaf) : v.literal = .exactly v := by
  cases v with
  | array items => exact leaf.elim
  | object members => exact leaf.elim
  | _ => rfl

theorem literalItems_eq (items : List Json) : literalItems items = items.map literal := by
  induction items with
  | nil => rfl
  | cons v rest ih => rw [literalItems, ih, List.map_cons]

theorem literalMembers_eq (members : List (String × Json)) :
    literalMembers members = members.map fun m => (m.1, m.2.literal) := by
  induction members with
  | nil => rfl
  | cons m rest ih => rw [literalMembers, ih, List.map_cons]

/-- Nothing is found under a key that no member has. -/
theorem lookup_eq_none {key : String} {members : List (String × Json)}
    (other : ∀ m ∈ members, m.1 ≠ key) : lookup key members = none := by
  induction members with
  | nil => rfl
  | cons m rest ih =>
    obtain ⟨first, others⟩ := List.forall_mem_cons.mp other
    rw [lookup, if_neg first, ih others]

end Json

namespace Pattern

open Template

/-- Items are compiled to their own patterns if each of them is, wherever it stands.  The path only
matters to what is said of a defect, and there is none. -/
theorem ofItems_literal {items : List Json} (path : Path) (index : Nat)
    (parts : ∀ v ∈ items, ∀ path, ofTemplateAt path v = .ok v.literal) :
    ofItems path index items = .ok (Json.literalItems items) := by
  induction items generalizing index with
  | nil => rfl
  | cons v rest ih =>
    obtain ⟨first, others⟩ := List.forall_mem_cons.mp parts
    rw [ofItems, first, ih (index + 1) others]
    rfl

theorem ofFields_literal {members : List (String × Json)} (path : Path)
    (parts : ∀ m ∈ members, ∀ path, ofTemplateAt path m.2 = .ok m.2.literal) :
    ofFields path members = .ok (Json.literalMembers members) := by
  induction members with
  | nil => rfl
  | cons m rest ih =>
    obtain ⟨first, others⟩ := List.forall_mem_cons.mp parts
    rw [ofFields, first, ih others]
    rfl

/-- Without the key of a marker no marker is mixed with anything. -/
theorem mixedMarker?_eq_none {members : List (String × Json)}
    (keys : ∀ m ∈ members, m.1 ≠ orKey ∧ m.1 ≠ anyKey) : mixedMarker? members = none := by
  simp [mixedMarker?, Json.lookup_eq_none fun m member => (keys m member).1,
    Json.lookup_eq_none fun m member => (keys m member).2]

/-- **A value without markers has a pattern**, which is the one that says what the value looks like.
-/
theorem ofTemplateAt_of_markerFree {v : Json} (free : v.MarkerFree) (path : Path) :
    ofTemplateAt path v = .ok v.literal := by
  induction free generalizing path with
  | leaf v leaf =>
    cases v with
    | array items => exact leaf.elim
    | object members => exact leaf.elim
    | _ => rfl
  | array items parts ih =>
    rw [ofTemplateAt, ofItems_literal path 0 ih]
    rfl
  | object members keys parts ih =>
    match members with
    | [] => rfl
    | [(key, v)] =>
      obtain ⟨notOr, notAny⟩ := keys _ List.mem_cons_self
      rw [ofTemplateAt_sole, if_neg notOr, if_neg notAny, ih _ List.mem_cons_self]
      rfl
    | m :: m' :: rest =>
      rw [ofTemplateAt_several, mixedMarker?_eq_none keys, ofFields_literal path ih]
      rfl

end Pattern

end Decipher
