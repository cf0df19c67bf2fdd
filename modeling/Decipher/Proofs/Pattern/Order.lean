import Decipher.Proofs.Json.WellFormed
import Decipher.Proofs.Pattern.Compilation
import Mathlib.Logic.Relation
import Mathlib.Order.Defs.Unbundled

/-!
# The order of descriptions

A value describes another one if the template that it is has a pattern, and the other one matches
it.  A pattern looks at a node from above: it reads members by their keys and items by their
places, and all that it compares are leaves.  So if what there is in one node is found again in a
second one, a pattern that accepts the first accepts the second.

* `Json.Simulation`: that a relation finds in one node all that there is in another.
* `Compiled.accepts_of_simulation`: the patterns of templates respect every simulation.
* `simulation_literal`: being accepted by the pattern of a value is a simulation of the value. It
  is an empty object that is delicate here: its pattern accepts anything, but there is also nothing
  in it that could be missed.
* `simulation_grows`: growing is another one.
* `describes_preorder`: hence descriptions are transitive, and survive all growth.

## One argument for transitivity and for growth

Transitivity and invariance under growth look like two theorems, with an induction over patterns
for each.  They are one: in both cases there is a relation between two nodes that finds in the
second what there is in the first, and patterns respect every such relation.  For growth the
relation is growth itself.  For transitivity it is acceptance by the pattern of the value in the
middle, and here one has to know this pattern; a value with markers in it would have another, and
would not even accept itself.

Leaves are compared by `Json.same`, for which the two zeros are equal although they are not the
same number.  That a simulation respects leaves is therefore a clause of its own and not an
equation.
-/

namespace Decipher

namespace Json

open Relation

/-! ## Equal leaves -/

/-- A leaf equals itself, also if it is a number.  There is no number among these values that would
not equal itself. -/
theorem same_refl_of_isLeaf {v : Json} (leaf : v.IsLeaf) : v.same v = true := by
  cases v with
  | number n => cases n <;> simp [same, Number.same, Binary64.sameValue]
  | array items => exact leaf.elim
  | object members => exact leaf.elim
  | _ => simp [same]

/-- Two numbers that equal the same number are equal.  That there are two zeros makes this a
statement of its own. -/
theorem Number.same_trans {k m n : Number} (first : k.same m = true) (second : m.same n = true) :
    k.same n = true := by
  cases k <;> cases m <;> cases n <;>
    simp only [Number.same, Binary64.sameValue, beq_iff_eq, Bool.or_eq_true, Bool.and_eq_true,
      Bool.false_eq_true] at first second ⊢
  · exact first.trans second
  · rcases first with ⟨zero, zero'⟩ | rfl
    · rcases second with ⟨-, zero''⟩ | rfl
      · exact Or.inl ⟨zero, zero''⟩
      · exact Or.inl ⟨zero, zero'⟩
    · exact second

/-- What equals the same leaf is equal. -/
theorem same_trans_of_isLeaf {u v w : Json} (leaf : v.IsLeaf) (first : u.same v = true)
    (second : v.same w = true) : u.same w = true := by
  cases v with
  | array items => exact leaf.elim
  | object members => exact leaf.elim
  | number n =>
    cases u <;> cases w <;> simp only [same, Bool.false_eq_true] at first second ⊢
    exact Number.same_trans first second
  | _ =>
    cases u <;> cases w <;>
      simp only [same, beq_iff_eq, Bool.false_eq_true] at first second ⊢ <;>
      exact first.trans second

/-- What equals a leaf is one. -/
theorem isLeaf_of_same {v c : Json} (leaf : c.IsLeaf) (same : v.same c = true) : v.IsLeaf := by
  cases v with
  | array items => cases c <;> first | exact leaf.elim | cases same
  | object members => cases c <;> first | exact leaf.elim | cases same
  | _ => trivial

/-! ## Members -/

/-- What is found under a key is a child. -/
theorem mem_children_of_get? {v x : Json} {key : String} (found : v.get? key = some x) :
    x ∈ v.children := by
  cases v with
  | object members => exact List.mem_map_of_mem (mem_of_lookup found)
  | _ => cases found

/-- Of sorted members each is found under its key. -/
theorem lookup_of_mem {members : List (String × Json)} (sorted : Sorted members)
    {m : String × Json} (member : m ∈ members) : lookup m.1 members = some m.2 := by
  induction members with
  | nil => cases member
  | cons n rest ih =>
    obtain ⟨first, others⟩ := sorted_cons.mp sorted
    obtain rfl | there := List.mem_cons.mp member
    · rw [lookup, if_pos rfl]
    · rw [lookup, if_neg (String.ne_of_lt (first m there)), ih others there]

/-! ## Simulations -/

/-- That `R` finds in the second value all that there is in the first.  It asks for no more than a
pattern can ask about: leaves, members under their keys, items in their places, and children. -/
structure Simulation (R : Json → Json → Prop) : Prop where
  leaf : ∀ {v w c : Json}, R v w → v.IsLeaf → v.same c = true → w.same c = true
  member : ∀ {v w : Json} {key : String} {x : Json}, R v w → v.get? key = some x →
    ∃ y, w.get? key = some y ∧ R x y
  item : ∀ {items : List Json} {w : Json}, R (array items) w →
    ∃ items' : List Json, w = array items' ∧
      ∀ (i : Nat) (x : Json), items[i]? = some x → ∃ y, items'[i]? = some y ∧ R x y
  child : ∀ {v w x : Json}, R v w → x ∈ v.children → ∃ y ∈ w.children, R x y

end Json

/-- **The patterns of templates cannot tell a node from one that simulates it.**  The induction is
on the pattern, and each of its constructors asks for one of the four clauses of a simulation. -/
theorem Pattern.Compiled.accepts_of_simulation {R : Json → Json → Prop}
    (simulation : Json.Simulation R) {p : Pattern} (compiled : p.Compiled) {v w : Json}
    (related : R v w) (accepts : p.accepts v = true) : p.accepts w = true := by
  induction compiled generalizing v w with
  | anything => rfl
  | exactly c leaf => exact simulation.leaf related (Json.isLeaf_of_same leaf accepts) accepts
  | fields members some parts ih =>
    rw [accepts_fields some] at accepts ⊢
    intro m member
    obtain ⟨x, found, accepted⟩ := accepts m member
    -- What is found in the first is found in the second, and is related to it again.
    obtain ⟨y, found', deeper⟩ := simulation.member related found
    exact ⟨y, found', ih m member deeper accepted⟩
  | elements items parts ih =>
    obtain ⟨vs, rfl, all⟩ := accepts_elements.mp accepts
    obtain ⟨ws, rfl, matched⟩ := simulation.item related
    refine accepts_elements.mpr ⟨ws, rfl, fun i p wanted => ?_⟩
    obtain ⟨x, found, accepted⟩ := all i p wanted
    obtain ⟨y, found', deeper⟩ := matched i x found
    exact ⟨y, found', ih p (List.mem_of_getElem? wanted) deeper accepted⟩
  | anyOf alternatives some parts ih =>
    rw [accepts_anyOf] at accepts ⊢
    obtain ⟨p, member, accepted⟩ := accepts
    exact ⟨p, member, ih p member related accepted⟩
  | anyChild p part ih =>
    rw [accepts_anyChild] at accepts ⊢
    obtain ⟨x, below, accepted⟩ := accepts
    obtain ⟨y, below', deeper⟩ := simulation.child related below
    exact ⟨y, below', ih deeper accepted⟩

namespace Json

open Relation

/-! ## The pattern of a value -/

/-- An object as a pattern, in terms of its members.  For the empty object there is nothing to ask.
-/
theorem accepts_literal_object {members : List (String × Json)} {w : Json} :
    (literal (object members)).accepts w = true ↔
      ∀ m ∈ members, ∃ y, w.get? m.1 = some y ∧ m.2.literal.accepts y = true := by
  cases members with
  | nil => simp [literal]
  | cons m rest =>
    rw [literal, Pattern.accepts_fields (by simp [literalMembers_eq]), literalMembers_eq]
    simp only [List.forall_mem_map]

/-- An array as a pattern, in terms of its items. -/
theorem accepts_literal_array {items : List Json} {w : Json} :
    (literal (array items)).accepts w = true ↔
      ∃ items' : List Json, w = array items' ∧
        ∀ (i : Nat) (x : Json), items[i]? = some x →
          ∃ y, items'[i]? = some y ∧ x.literal.accepts y = true := by
  rw [literal, Pattern.accepts_elements, literalItems_eq]
  simp only [List.getElem?_map, Option.map_eq_some_iff, forall_exists_index, and_imp,
    forall_apply_eq_imp_iff₂]

/-- **What the pattern of a value accepts has in it all that there is in the value.**  The clauses
are shown by the kind of the value, which tells what its pattern is. -/
theorem simulation_literal : Simulation fun v w => v.literal.accepts w = true where
  leaf := by
    intro v w c accepts leaf same
    rw [literal_of_isLeaf leaf] at accepts
    exact same_trans_of_isLeaf leaf accepts same
  member := by
    intro v w key x accepts found
    cases v with
    | object members => exact accepts_literal_object.mp accepts (key, x) (mem_of_lookup found)
    | _ => cases found
  item accepts := accepts_literal_array.mp accepts
  child := by
    intro v w x accepts below
    cases v with
    | array items =>
      obtain ⟨items', rfl, all⟩ := accepts_literal_array.mp accepts
      -- A child keeps its place, as an item or under its key.
      obtain ⟨i, found⟩ := List.getElem?_of_mem below
      obtain ⟨y, found', accepted⟩ := all i x found
      exact ⟨y, List.mem_of_getElem? found', accepted⟩
    | object members =>
      obtain ⟨m, member, rfl⟩ := List.mem_map.mp below
      obtain ⟨y, found, accepted⟩ := accepts_literal_object.mp accepts m member
      exact ⟨y, mem_children_of_get? found, accepted⟩
    | _ => cases below

/-- A value is accepted by its own pattern.  Its members have to be sorted, since otherwise a key
might be found with the value of another. -/
theorem accepts_literal_self {v : Json} (free : v.MarkerFree) (wellFormed : v.WellFormed) :
    v.literal.accepts v = true := by
  induction free with
  | leaf v leaf =>
    rw [literal_of_isLeaf leaf]
    exact same_refl_of_isLeaf leaf
  | array items parts ih =>
    refine accepts_literal_array.mpr ⟨items, rfl, fun i x found => ⟨x, found, ?_⟩⟩
    have member := List.mem_of_getElem? found
    exact ih x member (wellFormedItems_iff.mp wellFormed x member)
  | object members keys parts ih =>
    obtain ⟨sorted, wellFormed⟩ := wellFormed
    refine accepts_literal_object.mpr fun m member => ⟨m.2, lookup_of_mem sorted member, ?_⟩
    exact ih m member (wellFormedMembers_iff.mp wellFormed m member)

/-! ## Growth -/

/-- One value becomes another by a single addition, at some depth: of an item at the end of an
array, or of a member to an object. -/
inductive Grows : Json → Json → Prop
  | append (items : List Json) (v : Json) : Grows (array items) (array (items ++ [v]))
  | add (before after : List (String × Json)) (key : String) (v : Json)
      (new : lookup key (before ++ after) = none) :
    Grows (object (before ++ after)) (object (before ++ (key, v) :: after))
  | item (before after : List Json) (v w : Json) (grows : Grows v w) :
    Grows (array (before ++ v :: after)) (array (before ++ w :: after))
  | member (before after : List (String × Json)) (key : String) (v w : Json)
      (grows : Grows v w) :
    Grows (object (before ++ (key, v) :: after)) (object (before ++ (key, w) :: after))

/-- A key is found in the first of two lists that has it. -/
theorem lookup_append (key : String) (before after : List (String × Json)) :
    lookup key (before ++ after) = (lookup key before).or (lookup key after) := by
  induction before with
  | nil => rfl
  | cons m rest ih =>
    rw [List.cons_append, lookup, lookup, ih]
    split <;> rfl

/-- A member that is found is found again, perhaps grown.  A new one cannot stand in its way, for
its key is none that was there. -/
theorem Grows.member_of_lookup {v w x : Json} {key : String} (grows : Grows v w)
    (found : v.get? key = some x) : ∃ y, w.get? key = some y ∧ ReflGen Grows x y := by
  cases grows with
  | append items v => cases found
  | item before after v w grows => cases found
  | add before after added v new =>
    refine ⟨x, ?_, .refl⟩
    -- The key that is added is new, so it hides no other.
    have other : added ≠ key := by
      rintro rfl
      rw [get?, new] at found
      cases found
    rw [get?, lookup_append] at found ⊢
    rwa [lookup, if_neg other]
  | member before after place v w grows =>
    rw [get?, lookup_append, lookup] at found ⊢
    cases earlier : lookup key before with
    | some z =>
      rw [earlier] at found
      exact ⟨x, found, .refl⟩
    | none =>
      rw [earlier, Option.none_or] at found
      rw [Option.none_or]
      by_cases here : place = key
      · rw [if_pos here] at found ⊢
        cases found
        exact ⟨w, rfl, .single grows⟩
      · rw [if_neg here] at found ⊢
        exact ⟨x, found, .refl⟩

/-- Items keep their places.  This is why growth appends to an array and does not insert into it. -/
theorem Grows.items {items : List Json} {w : Json} (grows : Grows (array items) w) :
    ∃ items' : List Json, w = array items' ∧ ∀ (i : Nat) (x : Json), items[i]? = some x →
      ∃ y, items'[i]? = some y ∧ ReflGen Grows x y := by
  generalize same : array items = v at grows
  cases grows with
  | add | member => cases same
  | append items' v =>
    cases same
    refine ⟨_, rfl, fun i x found => ⟨x, ?_, .refl⟩⟩
    rwa [List.getElem?_append_left (List.getElem?_eq_some_iff.mp found).1]
  | item before after v w grows =>
    cases same
    refine ⟨_, rfl, fun i x found => ?_⟩
    by_cases earlier : i < before.length
    · rw [List.getElem?_append_left earlier] at found ⊢
      exact ⟨x, found, .refl⟩
    · rw [List.getElem?_append_right (Nat.le_of_not_lt earlier)] at found ⊢
      -- It is the item that has grown, or one behind it.
      cases later : i - before.length with
      | zero =>
        rw [later] at found
        cases found
        exact ⟨w, rfl, .single grows⟩
      | succ i =>
        rw [later] at found
        exact ⟨x, found, .refl⟩

/-- A child is found again among the children, perhaps grown. -/
theorem Grows.child {v w x : Json} (grows : Grows v w) (below : x ∈ v.children) :
    ∃ y ∈ w.children, ReflGen Grows x y := by
  cases grows with
  | append items v => exact ⟨x, List.mem_append_left _ below, .refl⟩
  | add before after key v new =>
    refine ⟨x, ?_, .refl⟩
    simp only [children, List.map_append, List.map_cons, List.mem_append, List.mem_cons] at below ⊢
    exact below.imp_right Or.inr
  | item before after v w grows =>
    simp only [children, List.mem_append, List.mem_cons] at below
    rcases below with earlier | rfl | later
    · exact ⟨x, by simp [children, earlier], .refl⟩
    · exact ⟨w, by simp [children], .single grows⟩
    · exact ⟨x, by simp [children, later], .refl⟩
  | member before after key v w grows =>
    simp only [children, List.map_append, List.map_cons, List.mem_append, List.mem_cons] at below
    rcases below with earlier | rfl | later
    · exact ⟨x, by simp [children, earlier], .refl⟩
    · exact ⟨w, by simp [children], .single grows⟩
    · exact ⟨x, by simp [children, later], .refl⟩

/-- **Nothing is lost when a value grows.**  Growth by one addition is taken together with no growth
at all, since what lies beside the addition stays as it is. -/
theorem simulation_grows : Simulation (ReflGen Grows) where
  leaf := by
    intro v w c related leaf same
    cases related with
    | refl => exact same
    | single grows => cases grows <;> exact leaf.elim
  member := by
    intro v w key x related found
    cases related with
    | refl => exact ⟨x, found, .refl⟩
    | single grows => exact grows.member_of_lookup found
  item := by
    intro items w related
    cases related with
    | refl => exact ⟨items, rfl, fun i x found => ⟨x, found, .refl⟩⟩
    | single grows => exact grows.items
  child := by
    intro v w x related below
    cases related with
    | refl => exact ⟨x, below, .refl⟩
    | single grows => exact grows.child below

/-! ## Descriptions -/

/-- That a value, read as a template, has a pattern that a node matches.  A template with a defect
describes nothing. -/
def Describes (template node : Json) : Prop :=
  ∃ p, Pattern.ofTemplate template = .ok p ∧ p.accepts node = true

/-- A value without markers describes what its own pattern accepts. -/
theorem describes_iff_of_markerFree {v w : Json} (free : v.MarkerFree) :
    v.Describes w ↔ v.literal.accepts w = true := by
  rw [Describes, Pattern.ofTemplate, Pattern.ofTemplateAt_of_markerFree free]
  simp

/-- Descriptions hold of all that simulates what they hold of.  Growth and description are both
simulations, so that this one induction over patterns does for them. -/
theorem Describes.of_simulation {R : Json → Json → Prop} (simulation : Simulation R)
    {template v w : Json} (describes : template.Describes v) (related : R v w) :
    template.Describes w := by
  obtain ⟨p, compiles, accepts⟩ := describes
  have compiled := Pattern.compiled_of_ofTemplateAt [] p template compiles
  exact ⟨p, compiles, compiled.accepts_of_simulation simulation related accepts⟩

/-- Such a value describes itself. -/
theorem Describes.refl {v : Json} (wellFormed : v.WellFormed) (free : v.MarkerFree) :
    v.Describes v :=
  (describes_iff_of_markerFree free).mpr (accepts_literal_self free wellFormed)

/-- What a template says of such a value it says of all that the value describes. -/
theorem Describes.trans {template v w : Json} (free : v.MarkerFree)
    (first : template.Describes v) (second : v.Describes w) : template.Describes w :=
  first.of_simulation simulation_literal ((describes_iff_of_markerFree free).mp second)

/-- Descriptions survive growth, by any number of additions.  So a template never has to be
rewritten for nodes that come to say more. -/
theorem Describes.of_grows {template v w : Json} (describes : template.Describes v)
    (grows : ReflTransGen Grows v w) : template.Describes w := by
  induction grows with
  | refl => exact describes
  | tail _ last ih => exact ih.of_simulation simulation_grows (.single last)

/-- **Descriptions make a preorder of the values without markers.**  Such a value has a pattern,
and matches it; what a template says of such a value it says of all that the value describes;
what it says of a node it says of all that the node can grow into; and a description need not
hold in the other direction. -/
theorem describes_preorder :
    (∀ v : Json, v.WellFormed → v.MarkerFree → v.Describes v) ∧
    (∀ template v w : Json, v.MarkerFree → template.Describes v → v.Describes w →
      template.Describes w) ∧
    (∀ template v w : Json, template.Describes v → ReflTransGen Grows v w →
      template.Describes w) ∧
    IsPreorder {v : Json // v.WellFormed ∧ v.MarkerFree} (fun v w => v.1.Describes w.1) ∧
    ∃ v w : Json, v.MarkerFree ∧ w.MarkerFree ∧ v.Describes w ∧ ¬ w.Describes v := by
  refine ⟨fun v => Describes.refl, fun template v w => Describes.trans,
    fun template v w => Describes.of_grows, ?_, ?_⟩
  · exact
      { refl := fun v => Describes.refl v.2.1 v.2.2
        trans := fun u v w => Describes.trans v.2.2 }
  · -- The empty array describes an array of one item, but not the other way round.
    refine ⟨array [], array [null], .array [] (List.forall_mem_nil _), ?_,
      ⟨.elements [], rfl, rfl⟩, ?_⟩
    · exact .array [null] (List.forall_mem_singleton.mpr (.leaf null trivial))
    · rintro ⟨p, compiles, accepts⟩
      cases compiles
      cases accepts

/-- A tree with an empty object and an empty array in it. -/
def sprout : Json := object [("body", array [object [], array []])]

/-- What the tree can become. -/
def sprouted : Json :=
  object [("body", array [object [("name", string "f")], array [null]]), ("type", string "Program")]

/-- A template with both markers in it, one below the other.  An array with nothing in it, as a
template, describes an array whatever is appended to it. -/
def someList : Json :=
  object [("body", object [("anykey", object [("or", array [ofInt 0, array []])])])]

theorem sprout_describes :
    sprout.WellFormed ∧ sprout.MarkerFree ∧ sprout.Describes sprout ∧
      someList.Describes sprout ∧ sprout.Describes sprouted ∧ someList.Describes sprouted := by
  have wellFormed : sprout.WellFormed := by
    simp [sprout, WellFormed, WellFormedItems, WellFormedMembers, Sorted]
  have free : sprout.MarkerFree := by
    refine .object _ (by decide) (List.forall_mem_singleton.mpr (.array _ ?_))
    exact List.forall_mem_cons.mpr ⟨.object [] (List.forall_mem_nil _) (List.forall_mem_nil _),
      List.forall_mem_singleton.mpr (.array [] (List.forall_mem_nil _))⟩
  have first : someList.Describes sprout := ⟨_, rfl, rfl⟩
  have second : sprout.Describes sprouted := ⟨_, rfl, rfl⟩
  exact ⟨wellFormed, free, describes_preorder.1 sprout wellFormed free, first, second,
    describes_preorder.2.1 someList sprout sprouted free first second⟩

end Json

end Decipher
