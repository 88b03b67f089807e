import PyxProject.Files.Resolution
import PyxProject.Proofs.Files.JoinedPaths

/-!
# The names of a path

A path leads along the names between its slashes. If none of them leads to a link, a `.` stays,
a `..` goes to the parent, and every other name goes to the entry of that name (`place`). A name
that is joined to a path is one more name at the end, from wherever the path is taken
(`namesOf_join_name`), so its place lies in the place of the path (`place_join`).
-/

namespace PyxProject.Files

open FilePath

/-- Where one name leads if it leads to no link. -/
def advance (here : Location) (name : Text) : Location :=
  if name = "." then here else if name = ".." then here.dropLast else here ++ [name]

/-- Where the names of a path lead if none of them leads to a link. -/
def place (directory path : FilePath) : Location :=
  (namesOf (directory.join path).text).foldl advance []

namespace FilePath

/-- A slash separates the names before it from the names after it. -/
theorem namesOf_append_slash (before after : Text) :
    namesOf (before ++ '/' :: after) = namesOf before ++ namesOf after := by
  rw [namesOf, List.splitOn_append_cons_self, List.filter_append, namesOf, namesOf]

/-- A segment is its own only name. -/
theorem namesOf_segment {name : Text} (segment : IsSegment name) : namesOf name = [name] := by
  rw [namesOf, List.splitOn_eq_singleton segment.whole]
  simp [segment.filled]

/-- Slashes at an end separate nothing. -/
theorem namesOf_append_slashes (text : Text) {slashes : Text} (all : ∀ char ∈ slashes, char = '/') :
    namesOf (text ++ slashes) = namesOf text := by
  induction slashes generalizing text with
  | nil => rw [List.append_nil]
  | cons char rest inductionHypothesis =>
    obtain ⟨rfl, others⟩ := List.forall_mem_cons.mp all
    have nothing : namesOf ([] ++ rest) = [] := inductionHypothesis [] others
    rw [namesOf_append_slash, ← List.nil_append rest, nothing, List.append_nil]

/-- An ordinary name on a path can be held in a directory. -/
theorem isName_of_mem_namesOf {text name : Text} (member : name ∈ namesOf text)
    (ordinary : ¬(name = "." ∨ name = "..")) : IsName name := by
  obtain ⟨piece, filled⟩ := List.mem_filter.mp member
  have proper := not_or.mp ordinary
  exact ⟨⟨by simpa using filled, Text.notMem_of_mem_splitOn piece⟩, proper.1, proper.2⟩

/-- What is left after the slashes at an end were dropped does not end in one. -/
theorem getLast_bare (text : Text) : (Text.dropEndWhile (· == '/') text).getLast? ≠ some '/' := by
  rw [Text.dropEndWhile, List.getLast?_reverse]
  intro starts
  have kept := List.head?_dropWhile_not (· == '/') text.reverse
  rw [starts] at kept
  simp at kept

/-- Slashes at the end separate no names. -/
theorem namesOf_bare (text : Text) :
    namesOf (Text.dropEndWhile (· == '/') text) = namesOf text := by
  obtain ⟨dropped, whole, slashes⟩ := Text.rdropWhile_append (· == '/') text
  conv => rhs; rw [whole]
  exact (namesOf_append_slashes _ (by simpa using slashes)).symm

/-- Without a slash at its end a path takes one step for each name. -/
theorem steps_of_open {text : Text} (noSlash : text.getLast? ≠ some '/') :
    steps text = namesOf text := by
  rw [steps, if_neg noSlash, namesOf]

/-- Without the slashes at its end a path has nothing but its names as steps. -/
theorem steps_bare (text : Text) : steps (Text.dropEndWhile (· == '/') text) = namesOf text := by
  rw [steps_of_open (getLast_bare text), namesOf_bare]

/-- A slash at an end asks for a directory, and leads nowhere else. -/
theorem foldl_advance_steps (here : Location) (text : Text) :
    (steps text).foldl advance here = (namesOf text).foldl advance here := by
  rw [steps]
  split
  · rw [List.concat_eq_append, List.foldl_concat, advance, if_pos rfl, namesOf]
  · rw [namesOf]

/-- The joint of a path has the names of the path, and keeps them apart from what is put behind.
-/
theorem namesOf_joint_append (base : FilePath) (text : Text) :
    namesOf (base.joint ++ text) = namesOf base.text ++ namesOf text := by
  rw [joint]
  split
  · next ends =>
    rcases ends with empty | slash
    · rw [empty]
      rfl
    · obtain ⟨front, whole⟩ := List.getLast?_eq_some_iff.mp slash
      rw [whole, List.append_assoc, List.singleton_append, namesOf_append_slash,
        namesOf_append_slashes front (by simp)]
  · rw [List.append_assoc, List.singleton_append, namesOf_append_slash]

/-- To join a relative path is to put it behind the joint. -/
theorem text_join_of_relative (base : FilePath) {path : FilePath}
    (relative : path.isAbsolute = false) :
    (base.join path).text = base.joint ++ path.text := by
  rw [join, relative, joint]
  split
  · contradiction
  · split <;> simp

/-- The names of a path that is taken relative to another one. -/
theorem namesOf_join (base path : FilePath) :
    namesOf (base.join path).text =
      if path.isAbsolute then namesOf path.text else namesOf base.text ++ namesOf path.text := by
  split
  · next absolute =>
    have whole : base.join path = path := if_pos absolute
    rw [whole]
  · next relative =>
    rw [text_join_of_relative base (Bool.eq_false_iff.mpr relative), namesOf_joint_append]

/-- A path to which a name is joined is absolute if it was. -/
theorem isAbsolute_join (base : FilePath) {name : Text} (segment : IsSegment name) :
    (base.join ⟨name⟩).isAbsolute = base.isAbsolute := by
  by_cases empty : base.text = []
  · have alone : (base.join ⟨name⟩).text = name := by simp [text_join base segment, joint, empty]
    have relative := isAbsolute_of_segment segment
    rw [isAbsolute, alone, isAbsolute, empty]
    exact relative
  · rw [isAbsolute, text_join base segment, joint, isAbsolute]
    split
    · rw [List.head?_append_of_ne_nil _ empty]
    · rw [List.append_assoc, List.head?_append_of_ne_nil _ empty]

/-- Joining a name adds it to the names, from wherever the path is taken. -/
theorem namesOf_join_name (directory base : FilePath) {name : Text} (segment : IsSegment name) :
    namesOf (directory.join (base.join ⟨name⟩)).text =
      namesOf (directory.join base).text ++ [name] := by
  have relative := isAbsolute_of_segment segment
  simp only [namesOf_join, isAbsolute_join base segment, relative, Bool.false_eq_true, if_false,
    namesOf_segment segment]
  split
  · rfl
  · rw [List.append_assoc]

/-- A joined name is the last step of a path. -/
theorem steps_join_name (directory base : FilePath) {name : Text} (segment : IsSegment name) :
    steps (directory.join (base.join ⟨name⟩)).text =
      namesOf (directory.join base).text ++ [name] := by
  have ends : ∃ front, (directory.join (base.join ⟨name⟩)).text = front ++ name := by
    have joined := text_join base segment
    rw [join]
    split
    · exact ⟨base.joint, joined⟩
    · split
      · exact ⟨directory.text ++ base.joint, by rw [joined, List.append_assoc]⟩
      · exact ⟨directory.text ++ "/" ++ base.joint, by rw [joined, List.append_assoc _ base.joint]⟩
  obtain ⟨front, whole⟩ := ends
  have noSlash : (directory.join (base.join ⟨name⟩)).text.getLast? ≠ some '/' := by
    rw [whole, List.getLast?_append_of_ne_nil _ segment.filled]
    exact fun slash => segment.whole (List.mem_of_getLast? slash)
  rw [steps_of_open noSlash, namesOf_join_name directory base segment]

end FilePath

/-- Proper names lead downwards, one after the other. -/
theorem foldl_advance_of_isName {here location : Location}
    (names : ∀ name ∈ location, IsName name) :
    location.foldl advance here = here ++ location := by
  induction location generalizing here with
  | nil => simp
  | cons name rest inductionHypothesis =>
    obtain ⟨proper, others⟩ := List.forall_mem_cons.mp names
    rw [List.foldl_cons, advance, if_neg proper.notCurrent, if_neg proper.notParent,
      inductionHypothesis others, List.append_assoc, List.singleton_append]

/-- The place of a path to which a name was joined is below the place of the path. -/
theorem place_join (directory base : FilePath) {name : Text} (proper : IsName name) :
    place directory (base.join ⟨name⟩) = place directory base ++ [name] := by
  rw [place, namesOf_join_name directory base proper.toIsSegment, List.foldl_concat, advance,
    if_neg proper.notCurrent, if_neg proper.notParent, place]

/-- What a path says behind its last component leads nowhere else. -/
theorem place_trimmed (directory base : FilePath) :
    place directory base.trimmed = place directory base := by
  obtain ⟨absolute, -, dots, names, idle⟩ := sameWay_trimmed base
  have stays (here : Location) : dots.foldl advance here = here := by
    clear names
    induction dots generalizing here with
    | nil => rfl
    | cons dot rest inductionHypothesis =>
      obtain ⟨rfl, others⟩ := List.forall_mem_cons.mp idle
      exact inductionHypothesis others here
  rw [place, place, namesOf_join, namesOf_join, absolute, names]
  split
  · rw [List.foldl_append, stays]
  · simp only [List.foldl_append, stays]

end PyxProject.Files
