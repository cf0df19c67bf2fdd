import Decipher.Binary64.Basic

/-!
# JSON values

`Json` is the data model that syntax trees, templates and stored entries share.
Members of an object are kept in the order of their keys, without repetition
(`Json.Sorted`); `insertMember` keeps them so.

An integer and a binary64 number are two kinds of number and are never equal,
whatever their values.  `Json.same` is equality of values: it differs from
equality of data only in that the two zeros of binary64 are one number.
-/

namespace Decipher

/-- A number is an integer of 64 bits, with or without a sign, or a binary64
number. -/
inductive Number
  | integer (n : Int)
  | real (x : Binary64)
  deriving DecidableEq

namespace Number

/-- The integers that a number can hold. -/
def inRange (n : Int) : Bool :=
  -9223372036854775808 ≤ n && n ≤ 18446744073709551615

/-- Equality of value within one kind of number. -/
def same : Number → Number → Bool
  | integer m, integer n => m == n
  | real x, real y => x.sameValue y
  | _, _ => false

/-- Numbers that a text can denote. -/
def WellFormed : Number → Prop
  | integer n => inRange n = true
  | real x => x.Canonical

end Number

inductive Json
  | null
  | bool (b : Bool)
  | number (n : Number)
  | string (s : String)
  | array (items : List Json)
  | object (members : List (String × Json))
  deriving Inhabited

namespace Json

/-! ## Views -/

def asString? : Json → Option String
  | string s => some s
  | _ => none

def asArray? : Json → Option (List Json)
  | array items => some items
  | _ => none

def asBool? : Json → Option Bool
  | bool b => some b
  | _ => none

/-- The value under a key in a list of members. -/
def lookup (key : String) : List (String × Json) → Option Json
  | [] => none
  | (k, v) :: rest => if k = key then some v else lookup key rest

/-- The value of a member of an object. -/
def get? (key : String) : Json → Option Json
  | object members => lookup key members
  | _ => none

/-- The value of a member, `null` where there is none. -/
def get (key : String) (v : Json) : Json := (v.get? key).getD null

/-- The value at a sequence of keys, `null` where a step finds none. -/
def path (keys : List String) (v : Json) : Json :=
  keys.foldl (fun node key => node.get key) v

/-- The member at a sequence of keys, if it holds a string. -/
def string? (keys : List String) (v : Json) : Option String := (v.path keys).asString?

/-- The member at a sequence of keys, if it holds an array. -/
def array? (keys : List String) (v : Json) : Option (List Json) := (v.path keys).asArray?

@[simp] theorem get_eq_getD (key : String) (v : Json) : v.get key = (v.get? key).getD null := rfl

@[simp] theorem path_nil (v : Json) : v.path [] = v := rfl

@[simp] theorem path_cons (key : String) (keys : List String) (v : Json) :
    v.path (key :: keys) = (v.get key).path keys := rfl

/-! ## Construction -/

/-- Puts a member at its place in the order of keys; a member that was there
under the same key gives way. -/
def insertMember (key : String) (v : Json) : List (String × Json) → List (String × Json)
  | [] => [(key, v)]
  | (k, w) :: rest =>
    if key < k then (key, v) :: (k, w) :: rest
    else if key = k then (key, v) :: rest
    else (k, w) :: insertMember key v rest

/-- The object with the given members, of which a later one replaces an earlier
one with its key. -/
def ofMembers (members : List (String × Json)) : Json :=
  object (members.foldl (fun acc m => insertMember m.1 m.2 acc) [])

def ofInt (n : Int) : Json := number (.integer n)

def ofNat (n : Nat) : Json := number (.integer n)

/-! ## Equality of values -/

mutual

/-- Whether two values are equal as values. -/
def same : Json → Json → Bool
  | null, null => true
  | bool a, bool b => a == b
  | number a, number b => a.same b
  | string a, string b => a == b
  | array xs, array ys => sameItems xs ys
  | object xs, object ys => sameMembers xs ys
  | _, _ => false

/-- Whether two lists of values are equal item by item. -/
def sameItems : List Json → List Json → Bool
  | [], [] => true
  | x :: xs, y :: ys => same x y && sameItems xs ys
  | _, _ => false

/-- Whether two lists of members are equal member by member. -/
def sameMembers : List (String × Json) → List (String × Json) → Bool
  | [], [] => true
  | (k, x) :: xs, (l, y) :: ys => k == l && same x y && sameMembers xs ys
  | _, _ => false

end

instance : BEq Json := ⟨same⟩

/-! ## Well-formedness -/

/-- Keys in strictly increasing order. -/
def Sorted (members : List (String × Json)) : Prop :=
  (members.map Prod.fst).Pairwise (· < ·)

mutual

/-- Every object lists its keys in strictly increasing order, and every number
is one that a text can denote. -/
def WellFormed : Json → Prop
  | null => True
  | bool _ => True
  | number n => n.WellFormed
  | string _ => True
  | array items => WellFormedItems items
  | object members => Sorted members ∧ WellFormedMembers members

/-- Every item is well formed. -/
def WellFormedItems : List Json → Prop
  | [] => True
  | x :: xs => WellFormed x ∧ WellFormedItems xs

/-- Every member's value is well formed. -/
def WellFormedMembers : List (String × Json) → Prop
  | [] => True
  | (_, x) :: xs => WellFormed x ∧ WellFormedMembers xs

end

/-! ## Nesting -/

mutual

/-- How many brackets are open at the deepest point of a value. -/
def depth : Json → Nat
  | array items => depthItems items + 1
  | object members => depthMembers members + 1
  | _ => 0

/-- The greatest depth of an item. -/
def depthItems : List Json → Nat
  | [] => 0
  | x :: xs => max (depth x) (depthItems xs)

/-- The greatest depth of a member's value. -/
def depthMembers : List (String × Json) → Nat
  | [] => 0
  | (_, x) :: xs => max (depth x) (depthMembers xs)

end

end Json

end Decipher
