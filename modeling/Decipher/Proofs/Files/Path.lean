import Decipher.Files.Path

/-!
# Files in a directory

A file is named by the path of its directory with the name of the file behind it (`Path.join`).
Whatever the path of the directory looks like, the last step of such a path is the name, and it
does not end in a slash.

* `IsName`: which texts name a file.
* `steps_join`: the steps of the path of a file.
* `fileName_join`, `parent_join`: what is read off the path again.
* `steps_trimEnd`: what is taken off the end of a path to find the directory leads nowhere else.

The two functions that read a path from its end work on the reversed list of its characters, and so
do the lemmas about them.  Slashes at the end of a directory, and dots behind slashes, go away on
the way back: from `d/./` and `f` the path is `d/./f`, and the directory of this path is `d`.  So
the directory that is read off is not the text that was given, but it takes the same steps, up to
those that stay (`parent_join_append`).
-/

namespace Decipher

namespace Path

/-- A text that names a file: it is not empty, has no slash in it, and no dot at its end, so
that it means neither a directory nor the way to one. -/
structure IsName (name : String) : Prop where
  noSlash : '/' ∉ name.toList
  last : ∃ c cs, name.toList.reverse = c :: cs ∧ c ≠ '.'

variable {name dir : String}

theorem IsName.toList_ne_nil (named : IsName name) : name.toList ≠ [] := by
  obtain ⟨c, cs, last, -⟩ := named.last
  intro empty
  rw [empty] at last
  cases last

/-- It is no absolute path, so that it is looked for in the directory. -/
theorem IsName.not_isAbsolute (named : IsName name) : isAbsolute name = false := by
  unfold isAbsolute
  cases chars : name.toList with
  | nil => rfl
  | cons c cs =>
    have other : c ≠ '/' := by
      rintro rfl
      exact named.noSlash (chars ▸ List.mem_cons_self)
    simpa using other

/-- A name with another one behind it is a name. -/
theorem IsName.append (named : IsName name) {suffix : String} (suffixed : IsName suffix) :
    IsName (name ++ suffix) := by
  obtain ⟨c, cs, last, noDot⟩ := suffixed.last
  refine ⟨?_, c, cs ++ name.toList.reverse, by simp [last], noDot⟩
  simp [named.noSlash, suffixed.noSlash]

/-- What stands before the name in the path of a file is nothing or ends in a slash. -/
theorem toList_join (named : IsName name) (dir : String) :
    (join dir name).toList = name.toList ∨
      ∃ cs, (join dir name).toList = cs ++ '/' :: name.toList := by
  simp only [join, named.not_isAbsolute, Bool.false_or]
  split
  · exact .inl rfl
  · split
    · rename_i slash
      obtain ⟨cs, ends⟩ := List.getLast?_eq_some_iff.mp (eq_of_beq slash)
      exact .inr ⟨cs, by simp [ends]⟩
    · exact .inr ⟨dir.toList, by simp⟩

/-- A name has no slash in it, so that it is one part. -/
theorem split_name (named : IsName name) : split name.toList = [name.toList] :=
  List.splitOn_eq_singleton named.noSlash

/-- The steps of a path that goes on behind a slash are those before the slash and those behind it.
-/
theorem steps_append (before behind : List Char) :
    steps (String.ofList (before ++ '/' :: behind)) =
      steps (String.ofList before) ++ steps (String.ofList behind) := by
  have parts : split (before ++ '/' :: behind) = split before ++ split behind :=
    List.splitOnP_append_cons before behind rfl
  simp only [steps, String.toList_ofList, parts, List.filter_append, List.map_append]

theorem steps_nil : steps (String.ofList []) = [] := by decide

theorem steps_name (named : IsName name) : steps name = [name] := by
  have kept : (!name.toList.isEmpty) = true := by simp [named.toList_ne_nil]
  rw [steps, split_name named]
  simp [kept]

/-- **The path of a file takes the steps of its directory and then one more**, with or without a
slash at the end of the directory. -/
theorem steps_join (named : IsName name) (dir : String) :
    steps (join dir name) = steps dir ++ [name] := by
  rw [← steps_name named]
  simp only [join, named.not_isAbsolute, Bool.false_or]
  split
  · rename_i empty
    have nothing : dir = String.ofList [] := by simpa using empty
    rw [nothing, steps_nil, List.nil_append]
  · split
    · rename_i slash
      obtain ⟨cs, ends⟩ := List.getLast?_eq_some_iff.mp (eq_of_beq slash)
      have whole : dir = String.ofList (cs ++ '/' :: []) := by rw [← ends, String.ofList_toList]
      have joined : dir ++ name = String.ofList (cs ++ '/' :: name.toList) := by
        apply String.toList_inj.mp
        simp [ends]
      rw [joined, steps_append, String.ofList_toList, whole, steps_append, steps_nil,
        List.append_nil]
    · have joined : dir ++ "/" ++ name = String.ofList (dir.toList ++ '/' :: name.toList) := by
        apply String.toList_inj.mp
        simp
      rw [joined, steps_append, String.ofList_toList, String.ofList_toList]

/-- Between a directory and a name there is a slash, which may be the directory's own. -/
theorem join_eq (named : IsName name) (nonempty : dir ≠ "") :
    join dir name = dir ++ name ∨ join dir name = dir ++ "/" ++ name := by
  have some : dir.isEmpty = false := by simpa using nonempty
  simp only [join, named.not_isAbsolute, some, Bool.or_self, Bool.false_eq_true, if_false]
  split
  · exact .inl rfl
  · exact .inr rfl

theorem isAbsolute_join (named : IsName name) (nonempty : dir ≠ "") :
    isAbsolute (join dir name) = isAbsolute dir := by
  obtain ⟨c, cs, chars⟩ : ∃ c cs, dir.toList = c :: cs := by
    cases chars : dir.toList with
    | nil => exact absurd (String.toList_inj.mp chars) nonempty
    | cons c cs => exact ⟨c, cs, rfl⟩
  obtain joined | joined := join_eq named nonempty
  · simp [joined, isAbsolute, chars]
  · simp [joined, isAbsolute, chars]

theorem mem_join {c : Char} (named : IsName name) (nonempty : dir ≠ "")
    (there : c ∈ (join dir name).toList) : c ∈ dir.toList ∨ c = '/' ∨ c ∈ name.toList := by
  obtain joined | joined := join_eq named nonempty
  · rw [joined, String.toList_append, List.mem_append] at there
    exact there.imp_right .inr
  · simpa [joined, or_assoc] using there

theorem utf8ByteSize_join_le (named : IsName name) (nonempty : dir ≠ "") :
    (join dir name).utf8ByteSize ≤ dir.utf8ByteSize + name.utf8ByteSize + 1 := by
  have slash : ("/" : String).utf8ByteSize = 1 := rfl
  obtain joined | joined := join_eq named nonempty
  · rw [joined, String.utf8ByteSize_append]
    omega
  · rw [joined, String.utf8ByteSize_append, String.utf8ByteSize_append, slash]
    omega

/-- The last step of a path to a file is the name of the file. -/
theorem steps_join_getLast? (named : IsName name) (dir : String) :
    (steps (join dir name)).getLast? = some name := by
  rw [steps_join named, List.getLast?_append]
  rfl

/-- The path of a file, read from its end. -/
theorem reverse_join (named : IsName name) (dir : String) :
    ∃ before, (join dir name).toList.reverse = name.toList.reverse ++ before ∧
      (before = [] ∨ ∃ cs, before = '/' :: cs) := by
  obtain alone | ⟨cs, behind⟩ := toList_join named dir
  · exact ⟨[], by simp [alone], .inl rfl⟩
  · exact ⟨'/' :: cs.reverse, by simp [behind], .inr ⟨_, rfl⟩⟩

theorem endsInSlash_join (named : IsName name) (dir : String) :
    endsInSlash (join dir name) = false := by
  obtain ⟨before, reversed, -⟩ := reverse_join named dir
  obtain ⟨c, cs, last, -⟩ := named.last
  have other : c ≠ '/' := by
    rintro rfl
    have there : '/' ∈ name.toList.reverse := last ▸ List.mem_cons_self
    exact named.noSlash (List.mem_reverse.mp there)
  rw [endsInSlash, ← List.head?_reverse, reversed, last]
  simpa using other

/-- Nothing is taken off a path that ends in something else than a slash or a dot. -/
theorem trimEnd_of_ne {c : Char} (noSlash : c ≠ '/') (noDot : c ≠ '.') (cs : List Char) :
    trimEnd (c :: cs) = c :: cs := by
  unfold trimEnd
  split
  · rename_i same
    exact absurd (List.cons.inj same).1 noSlash
  · rename_i same
    exact absurd (List.cons.inj same).1 noDot
  · rfl

/-- The name of a file is read off its path again. -/
theorem fileName_join (named : IsName name) (dir : String) : fileName (join dir name) = name := by
  obtain ⟨before, reversed, slash⟩ := reverse_join named dir
  obtain ⟨c, cs, last, noDot⟩ := named.last
  have inside : ∀ d ∈ name.toList.reverse, d ≠ '/' := by
    rintro d there rfl
    exact named.noSlash (List.mem_reverse.mp there)
  have whole : trimEnd (name.toList.reverse ++ before) = name.toList.reverse ++ before := by
    rw [last]
    exact trimEnd_of_ne (inside c (last ▸ List.mem_cons_self)) noDot _
  have taken : (name.toList.reverse ++ before).takeWhile (· ≠ '/') = name.toList.reverse := by
    rw [List.takeWhile_append_of_pos (by simpa using inside)]
    obtain rfl | ⟨cs, rfl⟩ := slash <;> simp
  rw [fileName, reversed, whole, taken, List.reverse_reverse, String.ofList_toList]

/-! ## The directory of a path -/

/-- Nothing is taken off unless there is a slash to take, or a step that stays. -/
theorem trimEnd_eq_self {cs : List Char} (noSlash : ∀ c rest, cs = '/' :: c :: rest → False)
    (noDot : ∀ rest, cs = '.' :: '/' :: rest → False) : trimEnd cs = cs := by
  unfold trimEnd
  split
  · rename_i c rest
    exact absurd rfl (noSlash c rest)
  · rename_i rest
    exact absurd rfl (noDot rest)
  · rfl

/-- What is taken off the end of a path leads nowhere else: it is some steps that stay, and slashes,
which are no steps. -/
theorem steps_trimEnd (cs : List Char) :
    ∃ k, steps (String.ofList cs.reverse) =
      steps (String.ofList (trimEnd cs).reverse) ++ List.replicate k "." := by
  induction cs using trimEnd.induct with
  | case1 c rest ih =>
    obtain ⟨k, same⟩ := ih
    refine ⟨k, ?_⟩
    rw [trimEnd, ← same, List.reverse_cons, steps_append, steps_nil, List.append_nil]
  | case2 rest ih =>
    obtain ⟨k, same⟩ := ih
    refine ⟨k + 1, ?_⟩
    have dot : steps (String.ofList ['.']) = ["."] := by decide
    rw [List.reverse_cons, steps_append, steps_nil, List.append_nil] at same
    rw [trimEnd, List.replicate_succ', ← List.append_assoc, ← same, List.reverse_cons,
      List.reverse_cons, List.append_assoc, List.singleton_append, steps_append, dot]
  | case3 cs noSlash noDot =>
    refine ⟨0, ?_⟩
    rw [trimEnd_eq_self noSlash noDot, List.replicate_zero, List.append_nil]

/-- It leaves the beginning of the path, and at least one character of it, so that the root does not
become nothing. -/
theorem trimEnd_suffix (cs : List Char) :
    ∃ dropped, cs = dropped ++ trimEnd cs ∧ (cs ≠ [] → trimEnd cs ≠ []) := by
  induction cs using trimEnd.induct with
  | case1 c rest ih =>
    obtain ⟨dropped, split, left⟩ := ih
    rw [trimEnd]
    exact ⟨'/' :: dropped, congrArg _ split, fun _ => left (List.cons_ne_nil _ _)⟩
  | case2 rest ih =>
    obtain ⟨dropped, split, left⟩ := ih
    rw [trimEnd]
    exact ⟨'.' :: dropped, congrArg _ split, fun _ => left (List.cons_ne_nil _ _)⟩
  | case3 cs noSlash noDot =>
    rw [trimEnd_eq_self noSlash noDot]
    exact ⟨[], rfl, id⟩

/-- The directory of a path to a file is the one it was made of, up to its end. -/
theorem parent_join (named : IsName name) (nonempty : dir ≠ "") :
    parent (join dir name) = String.ofList (trimEnd dir.toList.reverse).reverse := by
  obtain ⟨c, cs, last, noDot⟩ := named.last
  have inside : ∀ d ∈ name.toList.reverse, d ≠ '/' := by
    rintro d there rfl
    exact named.noSlash (List.mem_reverse.mp there)
  obtain ⟨before, reversed, trimmed⟩ : ∃ before,
      (join dir name).toList.reverse = name.toList.reverse ++ '/' :: before ∧
        trimEnd ('/' :: before) = trimEnd dir.toList.reverse := by
    have some : dir.isEmpty = false := by simpa using nonempty
    simp only [join, named.not_isAbsolute, some, Bool.or_self, Bool.false_eq_true, if_false]
    split
    · rename_i slash
      obtain ⟨cs, ends⟩ := List.getLast?_eq_some_iff.mp (eq_of_beq slash)
      exact ⟨cs.reverse, by simp [ends], by simp [ends]⟩
    · refine ⟨dir.toList.reverse, by simp, ?_⟩
      cases chars : dir.toList.reverse with
      | nil => exact absurd (String.toList_inj.mp (List.reverse_eq_nil_iff.mp chars)) nonempty
      | cons d ds => rw [trimEnd]
  -- A name ends in something else than a slash or a step that stays, so nothing is trimmed off it.
  have whole : trimEnd (name.toList.reverse ++ '/' :: before) =
      name.toList.reverse ++ '/' :: before := by
    rw [last]
    exact trimEnd_of_ne (inside c (last ▸ List.mem_cons_self)) noDot _
  have dropped : (name.toList.reverse ++ '/' :: before).dropWhile (· ≠ '/') = '/' :: before := by
    rw [List.dropWhile_append_of_pos (by simpa using inside)]
    simp
  rw [parent, reversed, whole, dropped, trimmed]

/-- What is left of the path of the directory is its beginning, and leads to the same place. -/
theorem parent_join_append (named : IsName name) (nonempty : dir ≠ "") :
    parent (join dir name) ≠ "" ∧ (∃ behind, dir = parent (join dir name) ++ behind) ∧
      ∃ k, steps dir = steps (parent (join dir name)) ++ List.replicate k "." := by
  obtain ⟨dropped, split, left⟩ := trimEnd_suffix dir.toList.reverse
  obtain ⟨k, same⟩ := steps_trimEnd dir.toList.reverse
  rw [List.reverse_reverse, String.ofList_toList] at same
  rw [parent_join named nonempty]
  refine ⟨?_, ⟨String.ofList dropped.reverse, ?_⟩, k, same⟩
  · have some : dir.toList.reverse ≠ [] := by
      simpa using fun none => nonempty (String.toList_inj.mp none)
    simpa using left some
  · have whole := congrArg List.reverse split
    rw [List.reverse_reverse, List.reverse_append] at whole
    rw [← String.ofList_append, ← whole, String.ofList_toList]

end Path

end Decipher
