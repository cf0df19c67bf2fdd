import Decipher.Proofs.Json.WellFormed
import Decipher.Proofs.Pattern.Compilation
import Mathlib.Data.List.Lex

/-!
# Defects of templates

Which templates have no pattern, and what is said of those that have none, is told here without
compiling: a template is taken apart into its positions, a position may be defective, and the
positions of a template have an order.

* `StandsAt`: what stands where in a template.  Nothing stands below what is defective.
* `Defective`: what is wrong with an object, and under which name.
* `Path.Before`: document order.  A value comes before its parts, and of two parts the one with
  the lower index or the smaller key comes first with all that is below it.
* `Pattern.failure?_ofTemplateAt`: compiling a value looks at the value itself and then, in their
  order, at its parts, whatever the kind of the value.
* `Pattern.ofTemplate_firstDefect`: hence a template has a pattern just if no position is
  defective, and is refused for the first one that is.

## Why the parts of a value

The compiler treats items, alternatives, members and the child of a marker by different functions,
and an induction over it has all of these as cases.  `parts` puts them into one list, with a step
for each, and `flaw?` says what the compiler looks at before it goes to them.  In these terms
compiling is one equation (`Pattern.failure?_ofTemplateAt`), so that the theorem about first
defects is proved once and not four times.

The order of keys is that of texts, and the order of steps of different kinds is left undefined,
since they never belong to one value.  Document order is the lexicographic order over that.  It is
not total on all paths, but it is on the positions of one template, and this is all that a first
defect needs.
-/

namespace Decipher

namespace Json

/-- Something is found under a key just if there is a member with it. -/
theorem isSome_lookup_iff {key : String} {members : List (String × Json)} :
    (lookup key members).isSome = true ↔ ∃ v, (key, v) ∈ members := by
  constructor
  · intro some
    obtain ⟨v, found⟩ := Option.isSome_iff_exists.mp some
    exact ⟨v, mem_of_lookup found⟩
  · rintro ⟨v, member⟩
    induction members with
    | nil => cases member
    | cons m rest ih =>
      rw [lookup]
      split
      · rfl
      · rename_i other
        obtain rfl | there := List.mem_cons.mp member
        · exact absurd rfl other
        · exact ih there

/-- Two members in order are sorted. -/
theorem sorted_pair {key key' : String} (lt : key < key') (v w : Json) :
    Sorted [(key, v), (key', w)] :=
  sorted_cons.mpr ⟨List.forall_mem_singleton.mpr lt, List.pairwise_singleton _ _⟩

end Json

namespace Template

/-! ## Positions and their defects -/

/-- What makes an object no template: that a marker stands beside another key, or that the
alternatives of a sole `or` are no array or none at all. -/
inductive Defective : Json → Flaw → Prop
  | mixedOr (members : List (String × Json)) (there : ∃ v, (orKey, v) ∈ members)
      (beside : ∃ m ∈ members, m.1 ≠ orKey) : Defective (.object members) (.mixedMarker orKey)
  | mixedAny (members : List (String × Json)) (absent : ¬ ∃ v, (orKey, v) ∈ members)
      (there : ∃ v, (anyKey, v) ∈ members) (beside : ∃ m ∈ members, m.1 ≠ anyKey) :
    Defective (.object members) (.mixedMarker anyKey)
  | notAnArray (v : Json) (other : ∀ items, v ≠ .array items) :
    Defective (.object [(orKey, v)]) .notAnArray
  | noAlternatives : Defective (.object [(orKey, .array [])]) .noAlternatives

/-- What stands one step below a value, with the words for the step. -/
inductive Part : Json → Step → String → Json → Prop
  | item (items : List Json) (i : Nat) (v : Json) (there : items[i]? = some v) :
    Part (.array items) (.item i) ("[" ++ toString i ++ "]") v
  | alternative (items : List Json) (i : Nat) (v : Json) (there : items[i]? = some v) :
    Part (.object [(orKey, .array items)]) (.alternative i) (".or[" ++ toString i ++ "]") v
  | child (v : Json) : Part (.object [(anyKey, v)]) .child ".anykey" v
  | field (members : List (String × Json)) (key : String) (v : Json)
      (notOr : ∀ w, members ≠ [(orKey, w)]) (notAny : ∀ w, members ≠ [(anyKey, w)])
      (there : (key, v) ∈ members) : Part (.object members) (.field key) ("." ++ key) v

/-- What stands at a path in a template, with the words for the path.  The template itself stands
in it, and if it is not defective, so does all that stands in its parts. -/
inductive StandsAt : Json → Path → String → Json → Prop
  | whole (t : Json) : StandsAt t [] "" t
  | under {t v w : Json} {step : Step} {path : Path} {label labels : String}
      (sound : ∀ flaw, ¬ Defective t flaw) (part : Part t step label v)
      (deeper : StandsAt v path labels w) : StandsAt t (step :: path) (label ++ labels) w

/-- The order of the parts of one value. -/
inductive Step.Before : Step → Step → Prop
  | field {k l : String} (lt : k < l) : Before (.field k) (.field l)
  | item {i j : Nat} (lt : i < j) : Before (.item i) (.item j)
  | alternative {i j : Nat} (lt : i < j) : Before (.alternative i) (.alternative j)

/-- Document order: a path comes before those that go on behind it, and before those that part
from it by a later step. -/
def Path.Before : Path → Path → Prop := List.Lex Step.Before

/-- That a template has a defective position, and what is wrong there. -/
def Defect.Spoils (d : Defect) (t : Json) : Prop :=
  ∃ label v, StandsAt t d.path label v ∧ Defective v d.flaw

/-- That no defect of a template comes before a given one. -/
structure Defect.IsFirst (d : Defect) (t : Json) : Prop where
  spoils : d.Spoils t
  first : ∀ d' : Defect, d'.Spoils t → d' = d ∨ d.path.Before d'.path

/-! ## The value itself -/

/-- What is wrong with a value itself. -/
def flaw? : Json → Option Flaw
  | .object [] => none
  | .object [(key, v)] =>
    if key = orKey then
      match v with
      | .array [] => some .noAlternatives
      | .array _ => none
      | _ => some .notAnArray
    else none
  | .object members => (mixedMarker? members).map .mixedMarker
  | _ => none

/-- Of several members with sorted keys one has another key than a given one. -/
theorem exists_beside {m m' : String × Json} {rest : List (String × Json)}
    (sorted : Json.Sorted (m :: m' :: rest)) (key : String) :
    ∃ n ∈ m :: m' :: rest, n.1 ≠ key := by
  by_cases same : m.1 = key
  · have lt : m.1 < m'.1 := (Json.sorted_cons.mp sorted).1 m' List.mem_cons_self
    exact ⟨m', by simp, fun same' => String.ne_of_lt lt (same.trans same'.symm)⟩
  · exact ⟨m, List.mem_cons_self, same⟩

/-- Of two markers among the members `or` is named, for it is looked for first. -/
theorem mixedMarker?_eq_some {members : List (String × Json)} {marker : String} :
    mixedMarker? members = some marker ↔
      (∃ v, (orKey, v) ∈ members) ∧ marker = orKey ∨
        (¬ ∃ v, (orKey, v) ∈ members) ∧ (∃ v, (anyKey, v) ∈ members) ∧ marker = anyKey := by
  unfold mixedMarker?
  split
  · rename_i found
    have hasOr := Json.isSome_lookup_iff.mp found
    simp only [Option.some.injEq, hasOr, true_and, not_true_eq_false, false_and, or_false, eq_comm]
  · rename_i notFound
    have noOr := mt Json.isSome_lookup_iff.mpr notFound
    split
    · rename_i found
      have hasAny := Json.isSome_lookup_iff.mp found
      simp only [Option.some.injEq, noOr, hasAny, true_and, not_false_eq_true, false_and, false_or,
        eq_comm]
    · rename_i notFound'
      have noAny := mt Json.isSome_lookup_iff.mpr notFound'
      simp only [reduceCtorEq, noOr, noAny, false_and, and_false, or_self]

variable {t v : Json} {step : Step} {label : String}

/-- A member that is alone has none beside it. -/
theorem not_beside_sole {key key' : String} {v : Json} (there : ∃ w, (key, w) ∈ [(key', v)]) :
    ¬ ∃ m ∈ [(key', v)], m.1 ≠ key := by
  obtain ⟨w, there⟩ := there
  cases List.mem_singleton.mp there
  simp

/-- What is wrong with a value itself is found by looking at its members.  That the members are
sorted, and so no key occurs twice, is needed where there are several: one of them has another key
than the marker. -/
theorem defective_iff (wellFormed : t.WellFormed) {flaw : Flaw} :
    Defective t flaw ↔ flaw? t = some flaw := by
  match t with
  | .null | .bool _ | .number _ | .string _ | .array _ => exact ⟨nofun, nofun⟩
  | .object [] =>
    refine ⟨fun defective => ?_, nofun⟩
    cases defective with
    | mixedOr _ there => exact nomatch there
    | mixedAny _ _ there => exact nomatch there
  | .object [(key, v)] =>
    constructor
    · intro defective
      cases defective with
      | mixedOr _ there beside => exact absurd beside (not_beside_sole there)
      | mixedAny _ _ there beside => exact absurd beside (not_beside_sole there)
      | notAnArray _ other =>
        cases v with
        | array items => exact absurd rfl (other items)
        | _ => rfl
      | noAlternatives => rfl
    · intro found
      simp only [flaw?] at found
      split at found
      · rename_i isOr
        subst isOr
        split at found
        · cases found
          exact .noAlternatives
        · cases found
        · rename_i other
          cases found
          exact .notAnArray _ other
      · cases found
  | .object (m :: m' :: rest) =>
    -- Among several members every marker has something beside it.
    have beside := exists_beside wellFormed.1
    simp only [flaw?, Option.map_eq_some_iff, mixedMarker?_eq_some]
    constructor
    · intro defective
      cases defective with
      | mixedOr _ there _ => exact ⟨_, .inl ⟨there, rfl⟩, rfl⟩
      | mixedAny _ absent there _ => exact ⟨_, .inr ⟨absent, there, rfl⟩, rfl⟩
    · rintro ⟨marker, ⟨there, rfl⟩ | ⟨absent, there, rfl⟩, rfl⟩
      · exact .mixedOr _ there (beside orKey)
      · exact .mixedAny _ absent there (beside anyKey)

/-! ## Its parts -/

/-- The parts of a value in their order. -/
def parts : Json → List (Step × Json)
  | .array items => items.zipIdx.map fun x => (.item x.2, x.1)
  | .object [(key, v)] =>
    if key = orKey then
      match v with
      | .array items => items.zipIdx.map fun x => (.alternative x.2, x.1)
      | _ => []
    else if key = anyKey then [(.child, v)]
    else [(.field key, v)]
  | .object members => members.map fun m => (.field m.1, m.2)
  | _ => []

/-- An element of a numbered list stands at its number. -/
theorem mem_numbered {items : List Json} {number : Nat → Step} :
    (step, v) ∈ items.zipIdx.map (fun x => (number x.2, x.1)) ↔
      ∃ i, items[i]? = some v ∧ step = number i := by
  rw [List.mem_map]
  constructor
  · rintro ⟨⟨w, i⟩, there, same⟩
    cases same
    exact ⟨i, List.mem_zipIdx_iff_getElem?.mp there, rfl⟩
  · rintro ⟨i, there, rfl⟩
    exact ⟨(v, i), List.mem_zipIdx_iff_getElem?.mpr there, rfl⟩

/-- The parts of a value are those in the list, and the words for them are told by the step.  The
relation says what is a part; the list says in which order they are looked at. -/
theorem part_iff : Part t step label v ↔ (step, v) ∈ parts t ∧ label = step.label := by
  constructor
  · intro part
    cases part with
    | item items i _ there => exact ⟨mem_numbered.mpr ⟨i, there, rfl⟩, rfl⟩
    | alternative items i _ there => exact ⟨mem_numbered.mpr ⟨i, there, rfl⟩, rfl⟩
    | child => exact ⟨List.mem_cons_self, rfl⟩
    | field members key _ notOr notAny there =>
      refine ⟨?_, rfl⟩
      match members with
      | [(key', w)] =>
        -- A single key is that of a field unless it is a marker, which the two hypotheses exclude.
        cases List.mem_singleton.mp there
        have notOr : key ≠ orKey := fun same => notOr v (by rw [same])
        have notAny : key ≠ anyKey := fun same => notAny v (by rw [same])
        simp only [parts, if_neg notOr, if_neg notAny, List.mem_cons_self]
      | m :: m' :: rest => exact List.mem_map.mpr ⟨(key, v), there, rfl⟩
  · rintro ⟨there, rfl⟩
    match t with
    | .null | .bool _ | .number _ | .string _ | .object [] => exact nomatch there
    | .array items =>
      obtain ⟨i, found, rfl⟩ := mem_numbered.mp there
      exact .item items i v found
    | .object [(key, w)] =>
      simp only [parts] at there
      split at there
      · rename_i isOr
        subst isOr
        split at there
        · obtain ⟨i, found, rfl⟩ := mem_numbered.mp there
          exact .alternative _ i v found
        · cases there
      · rename_i notOr
        split at there
        · rename_i isAny
          subst isAny
          cases List.mem_singleton.mp there
          exact .child v
        · rename_i notAny
          cases List.mem_singleton.mp there
          refine .field _ key v ?_ ?_ List.mem_cons_self
          · rintro w ⟨⟩
            exact notOr rfl
          · rintro w ⟨⟩
            exact notAny rfl
    | .object (m :: m' :: rest) =>
      obtain ⟨⟨key, w⟩, member, same⟩ := List.mem_map.mp there
      cases same
      exact .field _ key w nofun nofun member

/-- The parts of a well-formed value are well formed. -/
theorem Part.wellFormed (part : Part t step label v) (wellFormed : t.WellFormed) :
    v.WellFormed := by
  cases part with
  | item items i _ there =>
    exact Json.wellFormedItems_iff.mp wellFormed v (List.mem_of_getElem? there)
  | alternative items i _ there =>
    exact Json.wellFormedItems_iff.mp wellFormed.2.1 v (List.mem_of_getElem? there)
  | child => exact wellFormed.2.1
  | field members key _ _ _ there => exact Json.wellFormedMembers_iff.mp wellFormed.2 _ there

/-- A part is smaller than the value, which makes the recursion over parts end. -/
theorem Part.sizeOf_lt (part : Part t step label v) : sizeOf v < sizeOf t := by
  cases part with
  | item items i _ there =>
    have smaller := List.sizeOf_lt_of_mem (List.mem_of_getElem? there)
    simp only [Json.array.sizeOf_spec]
    omega
  | alternative items i _ there =>
    have smaller := List.sizeOf_lt_of_mem (List.mem_of_getElem? there)
    simp only [Json.object.sizeOf_spec, List.cons.sizeOf_spec, Prod.mk.sizeOf_spec,
      Json.array.sizeOf_spec]
    omega
  | child =>
    simp only [Json.object.sizeOf_spec, List.cons.sizeOf_spec, Prod.mk.sizeOf_spec]
    omega
  | field members key _ _ _ there =>
    have smaller := List.sizeOf_lt_of_mem there
    simp only [Prod.mk.sizeOf_spec] at smaller
    simp only [Json.object.sizeOf_spec]
    omega

/-- The words for a path are what messages name it by. -/
theorem StandsAt.pathLabel_eq {path : Path} {labels : String} {w : Json}
    (stands : StandsAt t path labels w) : pathLabel path = "$" ++ labels := by
  have words : labels = String.join (path.map Step.label) := by
    induction stands with
    | whole => rfl
    | under _ part _ ih => rw [List.map_cons, String.join_cons, ← ih, (part_iff.mp part).2]
  rw [pathLabel, words]

/-! ## Order -/

/-- Of two parts of one value only one comes before the other. -/
instance : Std.Asymm Step.Before where
  asymm a b before after := by
    cases before with
    | field lt =>
      cases after with
      | field gt => exact String.lt_irrefl _ (String.lt_trans lt gt)
    | item lt =>
      cases after with
      | item gt => exact Nat.lt_asymm lt gt
    | alternative lt =>
      cases after with
      | alternative gt => exact Nat.lt_asymm lt gt

/-- Of two paths only one comes before the other. -/
theorem Path.Before.asymm {p q : Path} (before : p.Before q) : ¬ q.Before p :=
  (List.Lex.asymm Step.Before).asymm p q before

/-- A list that is numbered upward is in the order of its steps. -/
theorem pairwise_numbered {number : Nat → Step}
    (mono : ∀ {i j}, i < j → (number i).Before (number j)) (items : List Json) :
    (items.zipIdx.map fun x => (number x.2, x.1)).Pairwise fun a b => a.1.Before b.1 := by
  have ascending : (items.zipIdx.map Prod.snd).Pairwise (· < ·) := by
    rw [List.zipIdx_map_snd]
    exact List.pairwise_lt_range'
  exact List.pairwise_map.mpr ((List.pairwise_map.mp ascending).imp mono)

/-- **The parts of a value are listed in document order.**  For members this is the order of their
keys, in which a well-formed object has them. -/
theorem parts_pairwise (wellFormed : t.WellFormed) :
    (parts t).Pairwise fun a b => a.1.Before b.1 := by
  match t with
  | .null | .bool _ | .number _ | .string _ | .object [] => exact .nil
  | .array items => exact pairwise_numbered .item items
  | .object [(key, v)] =>
    simp only [parts]
    split
    · split
      · exact pairwise_numbered .alternative _
      · exact .nil
    · split <;> exact List.pairwise_singleton _ _
  | .object (m :: m' :: rest) =>
    have sorted := List.pairwise_map.mp wellFormed.1
    exact List.pairwise_map.mpr (sorted.imp .field)

/-! ## First defects -/

/-- The defects of a template are in the template itself, or else in its parts. -/
theorem Defect.spoils_iff {d : Defect} :
    d.Spoils t ↔ d.path = [] ∧ Defective t d.flaw ∨
      (∀ flaw, ¬ Defective t flaw) ∧
        ∃ part ∈ parts t, ∃ inner : Defect, inner.Spoils part.2 ∧
          d = ⟨part.1 :: inner.path, inner.flaw⟩ := by
  obtain ⟨path, flaw⟩ := d
  constructor
  · rintro ⟨label, v, position, defective⟩
    cases position with
    | whole => exact .inl ⟨rfl, defective⟩
    | under sound part deeper =>
      exact .inr ⟨sound, _, (part_iff.mp part).1, ⟨_, flaw⟩, ⟨_, v, deeper, defective⟩, rfl⟩
  · rintro (⟨rfl, defective⟩ | ⟨sound, part, there, inner, ⟨label, v, deeper, defective⟩, same⟩)
    · exact ⟨_, t, .whole t, defective⟩
    · cases same
      exact ⟨_, v, .under sound (part_iff.mpr ⟨there, rfl⟩) deeper, defective⟩

/-- A template that is defective itself has no other defect. -/
theorem Defect.isFirst_whole (wellFormed : t.WellFormed) {flaw : Flaw} (here : Defective t flaw) :
    Defect.IsFirst ⟨[], flaw⟩ t := by
  refine ⟨spoils_iff.mpr (.inl ⟨rfl, here⟩), fun d spoils => .inl ?_⟩
  obtain ⟨whole, defective⟩ | ⟨sound, -⟩ := spoils_iff.mp spoils
  · have same := (defective_iff wellFormed).mp here
    rw [(defective_iff wellFormed).mp defective] at same
    obtain ⟨path, flaw'⟩ := d
    cases whole
    cases same
    rfl
  · exact absurd here (sound flaw)

/-- The first defect of the first part that has one is the first defect of the whole.  Parts before
it have none, and parts behind it come later with all that is in them. -/
theorem Defect.isFirst_part (wellFormed : t.WellFormed) (sound : ∀ flaw, ¬ Defective t flaw)
    {before after : List (Step × Json)} {part : Step × Json} {inner : Defect}
    (splits : parts t = before ++ part :: after)
    (fine : ∀ other ∈ before, ∀ d : Defect, ¬ d.Spoils other.2) (first : inner.IsFirst part.2) :
    Defect.IsFirst ⟨part.1 :: inner.path, inner.flaw⟩ t := by
  have ordered := parts_pairwise wellFormed
  rw [splits, List.pairwise_append, List.pairwise_cons] at ordered
  obtain ⟨-, ⟨later, -⟩, -⟩ := ordered
  have there : part ∈ parts t := by simp [splits]
  refine ⟨spoils_iff.mpr (.inr ⟨sound, part, there, inner, first.spoils, rfl⟩), fun d spoils => ?_⟩
  obtain ⟨-, defective⟩ | ⟨-, other, member, inner', spoils', rfl⟩ := spoils_iff.mp spoils
  · exact absurd defective (sound _)
  · rw [splits] at member
    obtain earlier | rfl | behind := by simpa using member
    · exact absurd spoils' (fine other earlier inner')
    · obtain rfl | deeper := first.first inner' spoils'
      · exact .inl rfl
      · exact .inr (.cons deeper)
    · exact .inr (.rel (later other behind))

/-- A template has one first defect at most. -/
theorem Defect.IsFirst.unique {d d' : Defect} (first : d.IsFirst t) (first' : d'.IsFirst t) :
    d = d' := by
  obtain same | before := first.first d' first'.spoils
  · exact same.symm
  · obtain same | after := first'.first d first.spoils
    · exact same
    · exact absurd after before.asymm

end Template

/-! ## Compiling -/

namespace Pattern

open Template

/-- A numbered list is gone through up to the first element that is refused.  Items and alternatives
are gone through in this way, with other steps. -/
theorem failure?_numbered {path : Path} {number : Nat → Step}
    {compile : Nat → List Json → Except Defect (List Pattern)} (nil : ∀ i, compile i [] = .ok [])
    (cons : ∀ i v rest, compile i (v :: rest) = do
      let p ← ofTemplateAt (path ++ [number i]) v
      let ps ← compile (i + 1) rest
      return p :: ps) (index : Nat) (vs : List Json) :
    failure? (compile index vs) =
      (vs.zipIdx index).findSome? fun x => failure? (ofTemplateAt (path ++ [number x.2]) x.1) := by
  induction vs generalizing index with
  | nil =>
    rw [nil]
    rfl
  | cons v rest ih =>
    rw [cons, failure?_bind_bind, ih, List.zipIdx_cons, List.findSome?_cons]
    cases failure? (ofTemplateAt (path ++ [number index]) v) <;> rfl

theorem failure?_ofItems (path : Path) (vs : List Json) :
    failure? (ofItems path 0 vs) =
      vs.zipIdx.findSome? fun x => failure? (ofTemplateAt (path ++ [.item x.2]) x.1) :=
  failure?_numbered (fun _ => by rw [ofItems]) (fun _ _ _ => by rw [ofItems]) 0 vs

theorem failure?_ofAlternatives (path : Path) (vs : List Json) :
    failure? (ofAlternatives path 0 vs) =
      vs.zipIdx.findSome? fun x => failure? (ofTemplateAt (path ++ [.alternative x.2]) x.1) :=
  failure?_numbered (fun _ => by rw [ofAlternatives]) (fun _ _ _ => by rw [ofAlternatives]) 0 vs

/-- Members are gone through in the same way, by their keys. -/
theorem failure?_ofFields (path : Path) (members : List (String × Json)) :
    failure? (ofFields path members) =
      members.findSome? fun m => failure? (ofTemplateAt (path ++ [.field m.1]) m.2) := by
  induction members with
  | nil => rfl
  | cons m rest ih =>
    rw [ofFields, failure?_bind_bind, ih, List.findSome?_cons]
    cases failure? (ofTemplateAt (path ++ [.field m.1]) m.2) <;> rfl

/-- **A value is refused for what is wrong with it, or else for the first of its parts that is
refused.** -/
theorem failure?_ofTemplateAt (path : Path) (t : Json) :
    failure? (ofTemplateAt path t) =
      match flaw? t with
      | some flaw => some ⟨path, flaw⟩
      | none => (parts t).findSome? fun part =>
          failure? (ofTemplateAt (path ++ [part.1]) part.2) := by
  match t with
  | .null | .bool _ | .number _ | .string _ | .object [] => rfl
  | .array items =>
    rw [ofTemplateAt, failure?_bind_pure, failure?_ofItems]
    simp only [flaw?, parts, List.findSome?_map]
    rfl
  | .object [(key, v)] =>
    rw [ofTemplateAt_sole]
    simp only [flaw?, parts]
    by_cases isOr : key = orKey
    · simp only [if_pos isOr]
      cases v with
      | array items =>
        cases items with
        | nil => rfl
        | cons a as =>
          simp only [failure?_bind_pure, failure?_ofAlternatives, List.findSome?_map]
          rfl
      | _ => rfl
    · simp only [if_neg isOr]
      by_cases isAny : key = anyKey
      · simp only [if_pos isAny, failure?_bind_pure, List.findSome?_singleton]
      · simp only [if_neg isAny, failure?_bind_pure, List.findSome?_singleton]
  | .object (m :: m' :: rest) =>
    rw [ofTemplateAt_several]
    simp only [flaw?, parts]
    -- m' :: rest) with :: A marker beside other keys is a flaw of the object itself, found before
    -- its parts are looked at.
    cases mixedMarker? (m :: m' :: rest) with
    | some marker => rfl
    | none =>
      simp only [failure?_bind_pure, failure?_ofFields, List.findSome?_map, Option.map_none]
      rfl

/-- What stands at a path is compiled, and then nothing in it is defective, or it is refused for
the first defect in it. -/
theorem ofTemplateAt_firstDefect (t : Json) (wellFormed : t.WellFormed) (path : Path) :
    (failure? (ofTemplateAt path t) = none → ∀ d : Defect, ¬ d.Spoils t) ∧
      ∀ d, failure? (ofTemplateAt path t) = some d →
        ∃ inner : Defect, inner.IsFirst t ∧ d = ⟨path ++ inner.path, inner.flaw⟩ := by
  -- The parts are smaller, and what comes of them is all that compiling the value depends on.
  have deeper : ∀ part ∈ parts t,
      (failure? (ofTemplateAt (path ++ [part.1]) part.2) = none →
        ∀ d : Defect, ¬ d.Spoils part.2) ∧
      ∀ d, failure? (ofTemplateAt (path ++ [part.1]) part.2) = some d →
        ∃ inner : Defect, inner.IsFirst part.2 ∧ d = ⟨path ++ [part.1] ++ inner.path, inner.flaw⟩ :=
    fun part there =>
      have isPart := part_iff.mpr ⟨there, rfl⟩
      have := isPart.sizeOf_lt
      ofTemplateAt_firstDefect part.2 (isPart.wellFormed wellFormed) (path ++ [part.1])
  rw [failure?_ofTemplateAt]
  cases found : flaw? t with
  | some flaw =>
    have here := (defective_iff wellFormed).mpr found
    refine ⟨nofun, fun d same => ?_⟩
    cases same
    exact ⟨⟨[], flaw⟩, Defect.isFirst_whole wellFormed here, by rw [List.append_nil]⟩
  | none =>
    have sound : ∀ flaw, ¬ Defective t flaw := by
      intro flaw defective
      rw [(defective_iff wellFormed).mp defective] at found
      cases found
    constructor
    · intro none d spoils
      obtain ⟨-, defective⟩ | ⟨-, part, there, inner, spoils', -⟩ := Defect.spoils_iff.mp spoils
      · exact sound _ defective
      · exact (deeper part there).1 (List.findSome?_eq_none_iff.mp none part there) inner spoils'
    · intro d some
      obtain ⟨before, part, after, splits, fails, passed⟩ := List.findSome?_eq_some_iff.mp some
      have member : ∀ other ∈ before ++ part :: after, other ∈ parts t :=
        fun _ there => splits ▸ there
      obtain ⟨inner, first, rfl⟩ := (deeper part (member part (by simp))).2 d fails
      refine ⟨_, Defect.isFirst_part wellFormed sound splits (fun other there => ?_) first, ?_⟩
      · exact (deeper other (member other (by simp [there]))).1 (passed other there)
      · rw [List.append_assoc, List.singleton_append]
termination_by sizeOf t

/-- **A template is compiled just if no position in it is defective, and is refused for the first
one that is.**  The place of the defect is named by the steps that lead to it.  What is compiled
asks for at least one member where it asks for members, has at least one alternative where it has
alternatives, and compares leaves only, at every depth. -/
theorem ofTemplate_firstDefect {t : Json} (wellFormed : t.WellFormed) :
    ((∃ p, ofTemplate t = .ok p) ↔
        ∀ path label v flaw, StandsAt t path label v → ¬ Defective v flaw) ∧
      (∀ d, ofTemplate t = .error d ↔ d.IsFirst t) ∧
      (∀ path label v, StandsAt t path label v → pathLabel path = "$" ++ label) ∧
      ∀ p, ofTemplate t = .ok p → p.Compiled := by
  obtain ⟨compiles, refused⟩ := ofTemplateAt_firstDefect t wellFormed []
  have error : ∀ d, ofTemplate t = .error d → d.IsFirst t := by
    intro d is
    obtain ⟨inner, first, rfl⟩ := refused d (failure?_eq_some.mpr is)
    exact first
  refine ⟨⟨fun ok path label v flaw position defective => ?_, fun sound => ?_⟩,
    fun d => ⟨error d, fun first => ?_⟩, fun path label v position => position.pathLabel_eq,
    fun p is => compiled_of_ofTemplateAt [] p t is⟩
  · exact compiles (failure?_eq_none.mpr ok) ⟨path, flaw⟩ ⟨label, v, position, defective⟩
  · cases is : ofTemplate t with
    | ok p => exact ⟨p, rfl⟩
    | error d =>
      obtain ⟨label, v, position, defective⟩ := (error d is).spoils
      exact absurd defective (sound d.path label v d.flaw position)
  · cases is : ofTemplate t with
    | ok p => exact absurd first.spoils (compiles (failure?_eq_none.mpr ⟨p, is⟩) d)
    | error d' => rw [first.unique (error d' is)]

/-- A template with a defect in an array and another one behind it. -/
def crooked : Json :=
  .object [("params", .array [.object [], .object [("or", .ofInt 3)]]),
    ("type", .object [("anykey", .object []), ("or", .array [])])]

/-- It is refused for the defect in the array. -/
theorem crooked_firstDefect :
    crooked.WellFormed ∧
      ofTemplate crooked = .error ⟨[.field "params", .item 1], .notAnArray⟩ ∧
      Defect.IsFirst ⟨[.field "params", .item 1], .notAnArray⟩ crooked ∧
      Defect.message ⟨[.field "params", .item 1], .notAnArray⟩ =
        "$.params[1]: `or` expects an array of alternatives" := by
  have wellFormed : crooked.WellFormed := by
    have outer : ∀ v w, Json.Sorted [("params", v), ("type", w)] := Json.sorted_pair (by decide)
    have inner : ∀ v w, Json.Sorted [("anykey", v), ("or", w)] := Json.sorted_pair (by decide)
    have sole : ∀ v, Json.Sorted [("or", v)] := fun _ => List.pairwise_singleton _ _
    have none : Json.Sorted [] := .nil
    simp [crooked, Json.ofInt, Json.WellFormed, Json.WellFormedItems, Json.WellFormedMembers,
      Number.WellFormed, Number.inRange, outer, inner, sole, none]
  have refused : ofTemplate crooked = .error ⟨[.field "params", .item 1], .notAnArray⟩ := rfl
  exact ⟨wellFormed, refused, ((ofTemplate_firstDefect wellFormed).2.1 _).mp refused, rfl⟩

end Pattern

end Decipher
