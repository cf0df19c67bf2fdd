import Decipher.Proofs.Script.Shape
import Decipher.Script.Expression

/-!
# Expressions apart from their nodes

A node may carry more than its text shows: where it stood in a script, how a literal was
written.  `Term` is what is left of an expression without that, for names, natural literals,
member expressions and unary operators; two nodes show one expression just when they depict one
term.

* `Depicts`: the term that a node shows.
* `isName`: which texts are names.  Names are part of terms together with the proof that they are.
* `Term.text`: the text of a term.
* `sourceText?_of_depicts`: a node that depicts a term has its text.

A term is no node, and no node is made from it.  This is why `Depicts` is a relation: many nodes
depict one term, and most nodes depict none, since calls, operators with two operands and literals
that say how they were written are left out.  What is said about texts in terms of it is said about
the nodes that have a term.
-/

namespace Decipher

namespace Expression

/-! ## Terms -/

/-- A character that a name may start with.  Of the letters these are the ones of ASCII. -/
def isNameStart (c : Char) : Bool := c.isAlpha || c == '_' || c == '$'

/-- A character that a name may go on with. -/
def isNamePart (c : Char) : Bool := isNameStart c || c.isDigit

/-- The operators in front of one operand. -/
inductive Operator
  | minus
  | plus
  | not
  | complement
  | typeof
  | void
  | delete
  deriving DecidableEq

def Operator.symbol : Operator → String
  | minus => "-"
  | plus => "+"
  | not => "!"
  | complement => "~"
  | typeof => "typeof"
  | void => "void"
  | delete => "delete"

/-- The operators that would be names if they were none.  They are kept out of the names, so that a
text that starts with such a word starts with an operator. -/
def operatorWords : List String := ["typeof", "void", "delete"]

/-- Whether a text is a name of ASCII characters.  Of the reserved words only the operators are
told apart; the others are treated as names. -/
def isName (text : String) : Bool :=
  match text.toList with
  | [] => false
  | c :: cs => isNameStart c && cs.all isNamePart && !operatorWords.contains text

/-- A name that is valid as one, so that no term has to be checked for what its names are. -/
structure Name where
  text : String
  valid : isName text = true
  deriving DecidableEq

/-- A name or a literal. -/
inductive Atom
  | name (n : Name)
  | literal (value : Nat)
  deriving DecidableEq

/-- An expression, apart from the node that shows it. -/
inductive Term
  | atom (a : Atom)
  | dotted (object : Term) (property : Name)
  | indexed (object property : Term)
  | unary (operator : Operator) (argument : Term)
  deriving DecidableEq

/-! ## Nodes -/

/-- That a node is a name. -/
structure DepictsName (node : Json) (n : Name) : Prop where
  kind : node.IsKind "Identifier"
  name : node.get "name" = .string n.text

/-- Whether the property of a member expression is computed, which it is only where the node says
so. -/
def isComputed (node : Json) : Bool := ((node.get? "computed").bind Json.asBool?).getD false

/-- **The term that a node shows.**  Whatever else a node holds does not matter.  A literal that
says how it was written shows no term, since its text is then anything that it says. -/
inductive Depicts : Json → Term → Prop
  | name {node : Json} {n : Name} (named : DepictsName node n) : Depicts node (.atom (.name n))
  | literal {node : Json} {value : Nat} (kind : node.IsKind "Literal")
      (unwritten : (node.get? "raw").bind Json.asString? = none)
      (is : node.get "value" = .ofNat value) : Depicts node (.atom (.literal value))
  | dotted {node : Json} {object : Term} {property : Name}
      (kind : node.IsKind "MemberExpression") (plain : isComputed node = false)
      (of : Depicts (node.get "object") object)
      (named : DepictsName (node.get "property") property) : Depicts node (.dotted object property)
  | indexed {node : Json} {object property : Term}
      (kind : node.IsKind "MemberExpression") (computed : isComputed node = true)
      (of : Depicts (node.get "object") object)
      (inside : Depicts (node.get "property") property) : Depicts node (.indexed object property)
  | unary {node : Json} {operator : Operator} {argument : Term}
      (kind : node.IsKind "UnaryExpression")
      (operates : node.get "operator" = .string operator.symbol)
      (on : Depicts (node.get "argument") argument) : Depicts node (.unary operator argument)

/-! ## Texts -/

def Atom.chars : Atom → List Char
  | name n => n.text.toList
  | literal value => Decimal.digitChars value

/-- The text of a term.  It is put together as the program does it, so that the text of a node is
the text of the term that it shows. -/
def Term.text : Term → String
  | atom a => String.ofList a.chars
  | dotted object property => memberText false object.text property.text
  | indexed object property => memberText true object.text property.text
  | unary operator argument => unaryText operator.symbol argument.text

theorem lookup_memberTexts (key : String) (members : List (String × Json)) :
    (memberTexts members).lookup key = (Json.lookup key members).map sourceText? := by
  induction members with
  | nil => rfl
  | cons m rest ih =>
    obtain ⟨k, v⟩ := m
    by_cases same : k = key
    · subst same
      simp [memberTexts, Json.lookup]
    · have other : (key == k) = false := beq_false_of_ne fun eq => same eq.symm
      simp [memberTexts, Json.lookup, List.lookup_cons, same, other, ih]

/-! ## The text of a node -/

section Node

variable {node : Json}

theorem exists_members {kind : String} (is : node.IsKind kind) :
    ∃ members, node = .object members := by
  cases node with
  | object members => exact ⟨members, rfl⟩
  | _ => exact nomatch is

/-- What a node has under a key is what is found there, or nothing that has a text. -/
theorem bind_asString? (key : String) (members : List (String × Json)) :
    (Json.lookup key members).bind Json.asString? = ((Json.object members).get key).asString? := by
  rw [Json.get_eq_getD, Json.get?]
  cases Json.lookup key members <;> rfl

theorem join_lookup_memberTexts (key : String) (members : List (String × Json)) :
    ((memberTexts members).lookup key).join = sourceText? ((Json.object members).get key) := by
  rw [lookup_memberTexts, Json.get_eq_getD, Json.get?]
  cases Json.lookup key members <;> rfl

theorem asString?_type {kind : String} (is : node.IsKind kind) :
    (node.get "type").asString? = some kind := by
  rw [show node.get "type" = .string kind from is]
  rfl

/-- A name is written as it is.  An identifier without a name has no text. -/
theorem sourceText?_name (kind : node.IsKind "Identifier") :
    sourceText? node = (node.get "name").asString? := by
  obtain ⟨members, rfl⟩ := exists_members kind
  rw [sourceText?]
  simp only [nodeText?, bind_asString?, asString?_type kind]

/-- A literal that does not say how it was written is written as its value. -/
theorem sourceText?_literal (kind : node.IsKind "Literal")
    (unwritten : (node.get? "raw").bind Json.asString? = none) {value : Nat}
    (is : node.get "value" = .ofNat value) :
    sourceText? node = some (String.ofList (Decimal.digitChars value)) := by
  obtain ⟨members, rfl⟩ := exists_members kind
  have raw : (Json.lookup "raw" members).bind Json.asString? = none := unwritten
  have there : Json.lookup "value" members = some (.ofNat value) := by
    rw [Json.get_eq_getD, Json.get?] at is
    cases found : Json.lookup "value" members with
    | none => exact nomatch found ▸ is
    | some v => rw [← is, found, Option.getD_some]
  have text : (Json.ofNat value).text = String.ofList (Decimal.digitChars value) := by
    have natural : ¬ (value : Int) < 0 := by omega
    rw [Json.text, Json.ofNat, Json.write, Number.text, integerText, if_neg natural,
      Int.natAbs_natCast, List.append_nil]
  rw [sourceText?]
  simp only [nodeText?, bind_asString?, asString?_type kind, literalText?, raw, there]
  rw [← text]
  rfl

/-- A member expression is written with brackets if its property is computed, and with a dot if it
is not.  Nothing is put around the object, whatever it is. -/
theorem sourceText?_member (kind : node.IsKind "MemberExpression") {object property : String}
    (of : sourceText? (node.get "object") = some object)
    (named : sourceText? (node.get "property") = some property) :
    sourceText? node = some (memberText (isComputed node) object property) := by
  obtain ⟨members, rfl⟩ := exists_members kind
  rw [sourceText?]
  simp only [nodeText?, bind_asString?, join_lookup_memberTexts, asString?_type kind, of, named]
  rfl

/-- An operator is written in front of its operand, with a blank between them if the operator is a
word. -/
theorem sourceText?_unary (kind : node.IsKind "UnaryExpression") {operator argument : String}
    (operates : node.get "operator" = .string operator)
    (on : sourceText? (node.get "argument") = some argument) :
    sourceText? node = some (unaryText operator argument) := by
  obtain ⟨members, rfl⟩ := exists_members kind
  rw [sourceText?]
  simp only [nodeText?, bind_asString?, join_lookup_memberTexts, asString?_type kind, operates, on]
  rfl

end Node

/-- A node that depicts a name has it for its text. -/
theorem DepictsName.sourceText?_eq {node : Json} {n : Name} (named : DepictsName node n) :
    sourceText? node = some n.text := by
  rw [sourceText?_name named.kind, named.name, Json.asString?]

/-- **A node has the text of the term that it depicts.**  The induction is on how the node depicts
the term, for a node has more in it than its term and the parts that do not matter are not visited.
-/
theorem sourceText?_of_depicts {node : Json} {t : Term} (depicts : Depicts node t) :
    sourceText? node = some t.text := by
  induction depicts with
  | name named => rw [named.sourceText?_eq, Term.text, Atom.chars, String.ofList_toList]
  | literal kind unwritten is => exact sourceText?_literal kind unwritten is
  | dotted kind plain of named ih =>
    rw [sourceText?_member kind ih named.sourceText?_eq, plain, Term.text]
  | indexed kind computed of inside ih ih' =>
    rw [sourceText?_member kind ih ih', computed, Term.text]
  | unary kind operates on ih => rw [sourceText?_unary kind operates ih, Term.text]

end Expression

end Decipher
