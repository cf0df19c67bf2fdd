import Decipher.Proofs.Json.RoundTrip
import Decipher.Proofs.Json.WellFormed
import Decipher.Solver.Entry

/-!
# Solvers read back

What `SolverSet.toEntry` writes is read by `SolverSet.ofText`.  The name and the kinds of the
arguments come back as they were; the callee and the preserved arguments come back as values
do, with their numbers read again (`SolverSet.reread`).

Entries are records, and the reader of a record takes its members one by one, in whatever order
they stand.  What is written has them in the order of their keys, so that a proof follows the text
from one member to the next.  Each member that holds a value may fail to be read, and then the
record fails; this is why the lemmas compare `toOption` of what is read with what comes back, and
say nothing of the place of the fault.

* `Json.foldMembers_ok`, `Json.foldMembers_error`, `Json.foldMembers_end`: one member of a record,
  given the key that comes next.  They are all that is needed of the loop over members.
* `Argument.reads_toEntry`, `Solver.reads_toEntry`, `SolverSet.reads_toEntry`: what is read of an
  entry with another text behind it.
* `SolverSet.ofText_toEntry`: an entry as a whole text.
* `SolverSet.reread_eq_none_iff`, `SolverSet.reread_eq_self_iff`: which sets of solvers do not come
  back, and which come back as they were.  Their numbers alone decide.

The bounds grow by what is written around a part: two brackets around an argument, and two around
the members of a solver.  They matter, since the reader counts brackets from the outside.
-/

namespace Decipher

open Json

namespace Json

/-- A record in its object form is read as its members are, up to the closing brace.  Only what is
found is compared, and not where a fault is said to be. -/
theorem readRecord_object {α : Type} {expected : String} {nesting : Nat}
    {ofItems ofMembers : Nat → List Char → Reading α} {cs rest : List Char} {result : Option α}
    (members : (ofMembers nesting cs).toOption = result.map fun x => (x, '}' :: rest)) :
    (readRecord expected (nesting + 1) ofItems ofMembers ('{' :: cs)).toOption =
      result.map fun x => (x, rest) := by
  have brace : skipBlanks ('{' :: cs) = '{' :: cs := skipBlanks_cons rfl _
  unfold readRecord
  rw [brace]
  obtain ⟨x, found, read⟩ | ⟨missing, fault, failed⟩ := reading_cases members
  · simp only [read, found]
    rfl
  · simp only [failed, missing]
    rfl

section Members

variable {σ : Type} {step : σ → String → List Char → Reading σ} {fuel cs rest : List Char}
  {first : Bool} {known known' : σ} {key : String}

/-- A member that is taken leaves the others to be read with what is known by then.  Each costs one
mark of the fuel. -/
theorem foldMembers_ok (mark : Char) (next : nextMember first cs = .ok (some (key, rest)))
    {cs' : List Char} (taken : step known key rest = .ok (known', cs')) :
    foldMembers step (mark :: fuel) first known cs = foldMembers step fuel false known' cs' := by
  rw [foldMembers, next]
  simp only [taken]

/-- A member with a fault in it is a fault of the record.  What comes behind it is not looked at. -/
theorem foldMembers_error (mark : Char) (next : nextMember first cs = .ok (some (key, rest)))
    {fault : Fault} (failed : step known key rest = .error fault) :
    foldMembers step (mark :: fuel) first known cs = .error fault := by
  rw [foldMembers, next]
  simp only [failed]

/-- At the closing brace all is known that there is to know. -/
theorem foldMembers_end (mark : Char) :
    foldMembers step (mark :: fuel) false known ('}' :: rest) = .ok (known, '}' :: rest) := rfl

end Members

end Json

namespace Argument

/-- What an argument is when it is read from its own entry.  The parameter has no numbers in it, and
comes back always. -/
def reread : Argument → Option Argument
  | parameter => some parameter
  | preserved node => node.reread.map preserved

/-- That what an argument preserves is well formed and not too deep. -/
def Fits (nesting : Nat) : Argument → Prop
  | parameter => True
  | preserved node => node.Fits nesting

/-! ## Members of an entry -/

/-- The kind of an argument stands first, for members are written in the order of their keys. -/
theorem nextPart_kind (rest : List Char) :
    nextPart (writeString "kind" rest) true (writeString "kind" rest) =
      .ok (some .kind, rest) := by
  have next := nextMember_write_first "kind" rest
  rw [writeString] at next ⊢
  rw [nextPart, next]
  rfl

theorem nextPart_content (rest : List Char) :
    nextPart (',' :: writeString "node" rest) false (',' :: writeString "node" rest) =
      .ok (some .content, rest) := by
  rw [nextPart, nextMember_write_next]
  rfl

theorem nextPart_end (rest : List Char) :
    nextPart ('}' :: rest) false ('}' :: rest) = .ok (none, '}' :: rest) := rfl

theorem readKind_write (nesting : Nat) (name : String) {kind : ArgumentKind}
    (named : ArgumentKind.ofName name = .ok kind) (rest : List Char) :
    readMember (readKind nesting) (':' :: writeString name rest) = .ok (kind, rest) := by
  have quote : skipBlanks ('"' :: writeBody name.toList rest) =
      '"' :: writeBody name.toList rest := skipBlanks_cons rfl _
  simp only [readMember, readColon_write, writeString, readKind, quote, readKindName, readString,
    readQuoted_writeBody, named]

/-! ## Arguments -/

theorem readMembers_parameter (nesting : Nat) (rest : List Char) :
    readMembers nesting (writeString "kind" (':' :: writeString "param" ('}' :: rest))) =
      .ok (parameter, '}' :: rest) := by
  have kind := nextPart_kind (':' :: writeString "param" ('}' :: rest))
  have name := readKind_write nesting "param" rfl ('}' :: rest)
  simp only [readMembers, bind, Except.bind, kind, readKindFirst, name, nextPart_end]
  rfl

/-- **A parameter comes back**, whatever surrounds it.  One level of nesting is enough, that of its
own object. -/
theorem reads_parameter (nesting : Nat) :
    Reads (Argument.read (nesting + 1)) parameter.toEntry parameter.reread := by
  intro rest _
  have members : (readMembers nesting (writeString "kind" (':' ::
      writeString "param" ('}' :: rest)))).toOption =
        parameter.reread.map fun argument => (argument, '}' :: rest) :=
    congrArg Except.toOption (readMembers_parameter nesting rest)
  exact readRecord_object members

/-- The node is read as any value is, and comes back as far as its numbers do. -/
theorem readMembers_preserved {nesting : Nat} {node : Json} (fits : node.Fits nesting)
    (rest : List Char) :
    (readMembers nesting (writeString "kind" (':' :: writeString "preserved"
      (',' :: writeString "node" (':' :: node.write ('}' :: rest)))))).toOption =
        (preserved node).reread.map fun argument => (argument, '}' :: rest) := by
  have kind := nextPart_kind (':' :: writeString "preserved"
      (',' :: writeString "node" (':' :: node.write ('}' :: rest))))
  have name := readKind_write nesting "preserved" rfl
    (',' :: writeString "node" (':' :: node.write ('}' :: rest)))
  have content := nextPart_content (':' :: node.write ('}' :: rest))
  have closing : Stops ('}' :: rest) := .inr (.inr rfl)
  simp only [readMembers, bind, Except.bind, kind, readKindFirst, name, content]
  simp only [readMember, readColon_write, readContent, reread]
  obtain ⟨v, found, read⟩ | ⟨missing, fault, failed⟩ :=
    reading_cases (readValue_write node fits.wellFormed fits.shallow _ closing)
  · simp only [read, found]
    rfl
  · simp only [failed, missing]
    rfl

/-- **A preserved argument comes back** as what is read of its node.  The bound is one higher for
the argument than for the node, because of the braces around it. -/
theorem reads_preserved {nesting : Nat} {node : Json} (fits : node.Fits nesting) :
    Reads (Argument.read (nesting + 1)) (preserved node).toEntry (preserved node).reread := by
  intro rest stops
  exact readRecord_object (readMembers_preserved fits rest)

/-- **An argument comes back as what is read of its node.** -/
theorem reads_toEntry {nesting : Nat} (a : Argument) (fits : a.Fits nesting) :
    Reads (Argument.read (nesting + 1)) a.toEntry a.reread := by
  cases a with
  | parameter => exact reads_parameter nesting
  | preserved node => exact reads_preserved fits

end Argument

namespace Solver

/-- What a solver is when it is read from its own entry.  It is none as soon as one part of it
cannot be read. -/
def reread (s : Solver) : Option Solver := do
  return ⟨s.sourceFunction, ← s.callee.reread, ← s.arguments.mapM Argument.reread⟩

/-- That the parts of a solver are well formed and not too deep.  Arguments stand in an array and in
an object of their own, which takes two levels more than the callee does. -/
structure Fits (nesting : Nat) (s : Solver) : Prop where
  callee : s.callee.Fits nesting
  arguments : ∀ a ∈ s.arguments, a.Fits (nesting - 2)

/-- A list of arguments comes back if each of them does.  The brackets of the list and the braces of
an argument make two. -/
theorem readArguments_write (nesting : Nat) {arguments : List Argument}
    (fits : ∀ a ∈ arguments, a.Fits nesting) :
    Reads (readArguments (nesting + 2)) (.array (arguments.map Argument.toEntry))
      (arguments.mapM Argument.reread) := by
  intro rest _
  obtain ⟨cs, written⟩ : ∃ cs, (Json.array (arguments.map Argument.toEntry)).write rest =
      '[' :: cs := by
    cases arguments <;> exact ⟨_, rfl⟩
  have opened : readArguments (nesting + 2) ('[' :: cs) =
      readArray (Argument.read (nesting + 1)) cs := rfl
  rw [written, opened]
  exact readArray_write (fun a there => a.reads_toEntry (fits a there)) written

/-! ## Members of an entry -/

section Members

variable {nesting : Nat} {known : Partial} {cs rest : List Char}

/-- The name of the source function is taken once.  A second one would be a fault, so that it has to
be missing so far. -/
theorem readMemberInto_sourceFunction (missing : known.sourceFunction = none) (name : String) :
    readMemberInto nesting known "source_function" (':' :: writeString name rest) =
      .ok ({ known with sourceFunction := some name }, rest) := by
  have quote : skipBlanks ('"' :: writeBody name.toList rest) =
      '"' :: writeBody name.toList rest := skipBlanks_cons rfl _
  simp only [readMemberInto, if_true, readField, missing, Option.isSome_none, Bool.false_eq_true,
    if_false, readMember, readColon_write, writeString, readString, quote, readQuoted_writeBody]
  rfl

theorem readMemberInto_callee (missing : known.callee = none) :
    readMemberInto nesting known "callee" (':' :: cs) =
      (readValue nesting cs).map fun (v, cs) => ({ known with callee := some v }, cs) := by
  simp [readMemberInto, readField, missing, readMember, readColon_write]

theorem readMemberInto_arguments (missing : known.arguments = none) :
    readMemberInto nesting known "args" (':' :: cs) =
      (readArguments nesting cs).map fun (xs, cs) => ({ known with arguments := some xs }, cs) := by
  simp [readMemberInto, readField, missing, readMember, readColon_write]

end Members

/-- The last member of a solver's entry.  Each of these three texts goes on with the next, as the
reader takes them. -/
def argumentsText (s : Solver) (rest : List Char) : List Char :=
  writeString "args" (':' :: (Json.array (s.arguments.map Argument.toEntry)).write rest)

/-- The members of a solver's entry from the callee on. -/
def calleeText (s : Solver) (rest : List Char) : List Char :=
  writeString "callee" (':' :: s.callee.write (',' :: s.argumentsText rest))

/-- The members of a solver's entry. -/
def membersText (s : Solver) (rest : List Char) : List Char :=
  writeString "source_function" (':' :: writeString s.sourceFunction (',' :: s.calleeText rest))

/-- The three members are read one after another, and each reading may fail.  What is then known of
the solver is what `Solver.reread` puts together, in the same order. -/
theorem readMembers_write {nesting : Nat} {s : Solver} (fits : s.Fits (nesting + 2))
    (rest : List Char) :
    (readMembers (nesting + 2) (s.membersText ('}' :: rest))).toOption =
      s.reread.map fun s => (s, '}' :: rest) := by
  -- Each member costs one mark of the fuel, which is the text, and so is the end of the record.
  obtain ⟨a, b, c, d, fuel, text⟩ : ∃ a b c d fuel,
      s.membersText ('}' :: rest) = a :: b :: c :: d :: fuel := ⟨_, _, _, _, _, rfl⟩
  have callee := readValue_write s.callee fits.callee.wellFormed fits.callee.shallow
    (',' :: s.argumentsText ('}' :: rest)) (.inl rfl)
  have arguments := readArguments_write nesting fits.arguments ('}' :: rest) (.inr (.inr rfl))
  have start : nextMember true (a :: b :: c :: d :: fuel) = .ok (some ("source_function",
      ':' :: writeString s.sourceFunction (',' :: s.calleeText ('}' :: rest)))) := by
    rw [← text]
    exact nextMember_write_first _ _
  have second : nextMember false (',' :: s.calleeText ('}' :: rest)) =
      .ok (some ("callee", ':' :: s.callee.write (',' :: s.argumentsText ('}' :: rest)))) :=
    nextMember_write_next _ _
  have third : nextMember false (',' :: s.argumentsText ('}' :: rest)) =
      .ok (some ("args",
        ':' :: (Json.array (s.arguments.map Argument.toEntry)).write ('}' :: rest))) :=
    nextMember_write_next _ _
  unfold readMembers reread
  rw [text, foldMembers_ok a start (readMemberInto_sourceFunction rfl s.sourceFunction)]
  let named : Partial := { sourceFunction := some s.sourceFunction }
  obtain ⟨v, found, read⟩ | ⟨missing, fault, failed⟩ := reading_cases callee
  · let called : Partial := { named with callee := some v }
    rw [foldMembers_ok b second ((readMemberInto_callee rfl).trans (congrArg _ read))]
    obtain ⟨xs, foundAll, readAll⟩ | ⟨missing, fault, failed⟩ := reading_cases arguments
    · rw [foldMembers_ok c third ((readMemberInto_arguments rfl).trans (congrArg _ readAll)),
        foldMembers_end d, found, foundAll]
      rfl
    · have missed : called.arguments = none := rfl
      rw [foldMembers_error c third
        ((readMemberInto_arguments missed).trans (congrArg _ failed)), found, missing]
      rfl
  · have missed : named.callee = none := rfl
    rw [foldMembers_error b second
      ((readMemberInto_callee missed).trans (congrArg _ failed)), missing]
    rfl

/-- **A solver comes back with its numbers read again.** -/
theorem reads_toEntry {nesting : Nat} {s : Solver} (fits : s.Fits (nesting + 2)) :
    Reads (Solver.read (nesting + 3)) s.toEntry s.reread :=
  fun rest _ => readRecord_object (readMembers_write fits rest)

end Solver

namespace SolverSet

/-- What a set of solvers is when it is read from its own entry. -/
def reread (s : SolverSet) : Option SolverSet := s.signature.reread.map mk

/-- That the solvers in a set are well formed and not too deep. -/
def Fits (nesting : Nat) (s : SolverSet) : Prop := s.signature.Fits (nesting - 2)

/-- The one member of a set of solvers is read as a solver is. -/
theorem readMembers_write {nesting : Nat} {s : SolverSet} (fits : s.Fits (nesting + 4))
    (rest : List Char) :
    (readMembers (nesting + 3) (writeString "sig" (':' ::
      s.signature.toEntry.write ('}' :: rest)))).toOption =
        s.reread.map fun s => (s, '}' :: rest) := by
  have signature := Solver.reads_toEntry fits ('}' :: rest) (.inr (.inr rfl))
  obtain ⟨a, b, fuel, text⟩ : ∃ a b fuel, writeString "sig" (':' ::
      s.signature.toEntry.write ('}' :: rest)) = a :: b :: fuel := ⟨_, _, _, rfl⟩
  have start : nextMember true (a :: b :: fuel) =
      .ok (some ("sig", ':' :: s.signature.toEntry.write ('}' :: rest))) := by
    rw [← text]
    exact nextMember_write_first _ _
  have member : readMemberInto (nesting + 3) none "sig" (':' ::
      s.signature.toEntry.write ('}' :: rest)) =
        (Solver.read (nesting + 3) (s.signature.toEntry.write ('}' :: rest))).map
          fun found => (some found.1, found.2) := rfl
  unfold readMembers reread
  rw [text]
  obtain ⟨v, found, read⟩ | ⟨missing, fault, failed⟩ := reading_cases signature
  · rw [foldMembers_ok a start (member.trans (congrArg _ read)), foldMembers_end b, found]
    rfl
  · rw [foldMembers_error a start (member.trans (congrArg _ failed)), missing]
    rfl

/-- **A set of solvers comes back with its numbers read again.** -/
theorem reads_toEntry {nesting : Nat} {s : SolverSet} (fits : s.Fits (nesting + 4)) :
    Reads (SolverSet.read (nesting + 4)) s.toEntry s.reread :=
  fun rest _ => readRecord_object (readMembers_write fits rest)

/-- **What a cache holds of a set of solvers is read back with its numbers read again**, if
they can be. -/
theorem ofText_toEntry {s : SolverSet} (fits : s.Fits maxNesting) :
    (ofText s.toEntry.text).toOption = s.reread := by
  have reads : Reads (SolverSet.read (123 + 4)) s.toEntry s.reread := reads_toEntry fits
  exact (toOption_mapError _ _).trans reads.whole

end SolverSet

/-! ## Which solvers change -/

theorem mapM_eq_none_iff {α β : Type} {f : α → Option β} {xs : List α} :
    xs.mapM f = none ↔ ∃ x ∈ xs, f x = none := by
  induction xs with
  | nil => simp
  | cons x xs ih =>
    simp only [List.mapM_cons, List.mem_cons, exists_eq_or_imp, ← ih]
    cases f x <;> cases xs.mapM f <;> simp

theorem mapM_eq_self_iff {α : Type} {f : α → Option α} {xs : List α} :
    xs.mapM f = some xs ↔ ∀ x ∈ xs, f x = some x := by
  induction xs with
  | nil => simp
  | cons x xs ih =>
    rw [List.mapM_cons, List.forall_mem_cons, ← ih]
    cases f x <;> cases xs.mapM f <;> simp

namespace Argument

/-- The numbers in an argument. -/
def numbers : Argument → List Number
  | parameter => []
  | preserved node => node.numbers

/-- An argument cannot be read again just if one of its numbers cannot. -/
theorem reread_eq_none_iff (a : Argument) : a.reread = none ↔ ∃ n ∈ a.numbers, n.reread = none := by
  cases a with
  | parameter => simp [reread, numbers]
  | preserved node => simp [reread, numbers, Json.reread_eq_none_iff]

/-- An argument comes back as it was just if all its numbers do.  A parameter has no numbers, and
comes back always. -/
theorem reread_eq_self_iff (a : Argument) :
    a.reread = some a ↔ ∀ n ∈ a.numbers, n.reread = some n := by
  cases a with
  | parameter => simp [reread, numbers]
  | preserved node => simp [reread, numbers, Json.reread_eq_self_iff]

end Argument

namespace SolverSet

/-- The numbers in the callee and in the arguments of a solver.  Nothing else in its entry can come
back changed. -/
def numbers (s : SolverSet) : List Number :=
  s.signature.callee.numbers ++ s.signature.arguments.flatMap Argument.numbers

/-- A solver cannot be read again just if one of its numbers cannot. -/
theorem reread_eq_none_iff (s : SolverSet) :
    s.reread = none ↔ ∃ n ∈ s.numbers, n.reread = none := by
  obtain ⟨name, callee, arguments⟩ := s
  have called := callee.reread_eq_none_iff
  have given : arguments.mapM Argument.reread = none ↔
      ∃ n ∈ arguments.flatMap Argument.numbers, n.reread = none := by
    simp only [mapM_eq_none_iff, Argument.reread_eq_none_iff, List.mem_flatMap]
    tauto
  simp only [reread, Solver.reread, numbers, List.mem_append, or_and_right, exists_or, ← called,
    ← given]
  cases callee.reread <;> cases arguments.mapM Argument.reread <;> simp

/-- A solver comes back as it was just if all its numbers do. -/
theorem reread_eq_self_iff (s : SolverSet) :
    s.reread = some s ↔ ∀ n ∈ s.numbers, n.reread = some n := by
  obtain ⟨name, callee, arguments⟩ := s
  have called := callee.reread_eq_self_iff
  have given : arguments.mapM Argument.reread = some arguments ↔
      ∀ n ∈ arguments.flatMap Argument.numbers, n.reread = some n := by
    simp only [mapM_eq_self_iff, Argument.reread_eq_self_iff, List.mem_flatMap]
    exact ⟨fun all n ⟨a, there, among⟩ => all a there n among,
      fun all a there n among => all n ⟨a, there, among⟩⟩
  simp only [reread, Solver.reread, numbers, List.mem_append, or_imp, forall_and, ← called,
    ← given]
  cases callee.reread <;> cases arguments.mapM Argument.reread <;> simp

/-- All numbers in a set of solvers that can be stored are well formed, so that what is known of
reading them again applies. -/
theorem Fits.numbers {nesting : Nat} {s : SolverSet} (fits : s.Fits nesting) :
    ∀ n ∈ s.numbers, n.WellFormed := by
  intro n there
  obtain called | given := List.mem_append.mp there
  · exact wellFormed_numbers _ fits.callee.wellFormed n called
  · obtain ⟨a, listed, among⟩ := List.mem_flatMap.mp given
    have fits' := fits.arguments a listed
    cases a with
    | parameter => cases among
    | preserved node => exact wellFormed_numbers node fits'.wellFormed n among

end SolverSet

end Decipher
