import PyxProject.Proofs.Files.AbsolutePaths

/-!
# Paths with a joined name

A name that is joined to a path is its last component, after the components of the path
(`components_join`), whatever the path ends in. Another extension changes the name only
(`withExtension_join`). The parent of a joined path is the path as far as its last component
reaches (`parent?_join`), which has the same components (`sameWay_trimmed`).
-/

namespace PyxProject.Files.FilePath

open Build

/-- What stands before a name that is joined to a path. -/
def joint (base : FilePath) : Text :=
  if base.text = [] ∨ base.text.getLast? = some '/' then base.text else base.text ++ ['/']

/-- A segment is a relative path: it has no slash. -/
theorem isAbsolute_of_segment {name : Text} (segment : IsSegment name) :
    (FilePath.mk name).isAbsolute = false := by
  refine Bool.eq_false_iff.mpr fun absolute => ?_
  have starts : name.head? = some '/' := by simpa [isAbsolute] using absolute
  exact segment.whole (List.mem_of_mem_head? starts)

/-- To join a segment is to put it behind the joint. -/
theorem text_join (base : FilePath) {name : Text} (segment : IsSegment name) :
    (base.join ⟨name⟩).text = base.joint ++ name := by
  rw [join, isAbsolute_of_segment segment, joint]
  split
  · rename_i absolute
    cases absolute
  · split <;> simp

/-- A slash in front of each segment is a slash between them and one in front of all. -/
theorem locationText_eq_join {segments : List Text} (filled : segments ≠ []) :
    locationText segments = '/' :: Text.join ['/'] segments := by
  induction segments with
  | nil => exact absurd rfl filled
  | cons segment rest inductionHypothesis =>
    cases rest with
    | nil => simp [locationText, Text.join]
    | cons next rest =>
      have later := inductionHypothesis (by simp)
      rw [Text.join, List.intercalate_cons_cons, ← Text.join, locationText, List.flatMap_cons,
        ← locationText, later]
      simp

/-- Segments of a text, with a slash in front of each. -/
theorem locationText_split (text : Text) :
    locationText (text.splitOn '/') = '/' :: text := by
  rw [locationText_eq_join (List.splitOn_ne_nil _ _), Text.join, List.intercalate_splitOn]

/-- A path is absolute or not as its joint is, and has the components of its joint. -/
theorem joint_cases (base : FilePath) :
    base.text = [] ∧ base.joint = [] ∨
      ∃ front, base.joint = front ++ ['/'] ∧ base.isAbsolute = (FilePath.mk base.joint).isAbsolute ∧
        piecesFrom 0 (base.text.splitOn '/') = piecesFrom 0 (front.splitOn '/') := by
  by_cases empty : base.text = []
  · exact .inl ⟨empty, by simp [joint, empty]⟩
  refine .inr ?_
  by_cases slash : base.text.getLast? = some '/'
  · obtain ⟨front, whole⟩ : ∃ front, base.text = front ++ ['/'] := List.getLast?_eq_some_iff.mp slash
    refine ⟨front, by simp [joint, whole], by simp [joint, slash, isAbsolute], ?_⟩
    rw [whole, List.splitOn_append_cons_self, piecesFrom_append]
    simp [piecesFrom, component?]
  · refine ⟨base.text, by simp [joint, empty, slash], ?_, rfl⟩
    simp only [joint, empty, slash, or_self, if_false, isAbsolute]
    rw [List.head?_append_of_ne_nil _ empty]

/-- The component that a segment stands for behind other components. -/
def componentOf (segment : Text) : Component := if segment = ".." then .parent else .name segment

/-- A proper name stands for itself. -/
theorem componentOf_of_isName {name : Text} (proper : IsName name) :
    componentOf name = .name name := if_neg proper.notParent

/-- The components of a path to which a segment is joined. -/
theorem pieces_join (base : FilePath) {name : Text} (segment : IsSegment name)
    (notCurrent : name ≠ ".") :
    (base.join ⟨name⟩).pieces = base.pieces ++
      [⟨componentOf name, base.joint.length, base.joint.length + name.length⟩] := by
  have component (first : Bool) : component? first name = some (componentOf name) := by
    simp only [component?, segment.filled, notCurrent, componentOf, if_false]
    split <;> rfl
  have whole := List.splitOn_eq_singleton segment.whole
  rcases joint_cases base with ⟨empty, nothing⟩ | ⟨front, cut, absolute, same⟩
  · have text : (base.join ⟨name⟩).text = name := by rw [text_join base segment, nothing]; rfl
    have relative := isAbsolute_of_segment segment
    have first : piecesFrom 0 [name] = [⟨componentOf name, 0, name.length⟩] := by
      simp only [piecesFrom, component, Nat.zero_add]
    have noPieces : base.pieces = [] := by
      simp [pieces, isAbsolute, empty, piecesFrom, component?]
    have starts : (base.join ⟨name⟩).isAbsolute = false := by rw [isAbsolute, text, ← isAbsolute, relative]
    rw [pieces, starts, text, whole, first, noPieces, nothing]
    simp
  · have text : (base.join ⟨name⟩).text = front ++ '/' :: name := by
      rw [text_join base segment, cut]
      simp
    have starts : (base.join ⟨name⟩).isAbsolute = base.isAbsolute := by
      rw [absolute, isAbsolute, text_join base segment, isAbsolute,
        List.head?_append_of_ne_nil _ (by simp [cut])]
    have length : (locationText (front.splitOn '/')).length = base.joint.length := by
      rw [locationText_split, cut]
      simp
    have cutText : (base.join ⟨name⟩).text.splitOn '/' = front.splitOn '/' ++ [name] := by
      rw [text, List.splitOn_append_cons_self, whole]
    have last : piecesFrom base.joint.length [name] =
        [⟨componentOf name, base.joint.length, base.joint.length + name.length⟩] := by
      simp [piecesFrom, component]
    rw [pieces, starts, cutText, piecesFrom_append, length, Nat.zero_add, last, pieces, same]
    split <;> simp

/-- The components of a path to which a name is joined. -/
theorem components_join (base : FilePath) {name : Text} (proper : IsName name) :
    (base.join ⟨name⟩).components = base.components ++ [.name name] := by
  rw [components, pieces_join base proper.toIsSegment proper.notCurrent, List.map_append,
    componentOf_of_isName proper]
  rfl

/-- The last name of a path to which a name was joined is that name, and starts at the joint. -/
theorem lastName?_join (base : FilePath) {name : Text} (proper : IsName name) :
    (base.join ⟨name⟩).lastName? = some (name, base.joint.length) := by
  rw [lastName?, pieces_join base proper.toIsSegment proper.notCurrent, List.getLast?_concat,
    componentOf_of_isName proper]

/-- The file name of a path to which a name was joined is that name. -/
theorem fileName?_join (base : FilePath) {name : Text} (proper : IsName name) :
    (base.join ⟨name⟩).fileName? = some name := by
  rw [fileName?, lastName?_join base proper]
  rfl

/-- A path that ends in `..` has no last name. -/
theorem lastName?_join_parent (base : FilePath) : (base.join "..").lastName? = none := by
  have segment : IsSegment ".." := by decide
  rw [lastName?, pieces_join base segment (by decide), List.getLast?_concat]
  rfl

/-- Another extension changes the name that was joined and nothing else. A stem that is a dot
leaves a path that ends in the parent directory, which has no name to change. -/
theorem withExtension_join (base : FilePath) {stem old extension : Text} (filled : stem ≠ [])
    (noDot : '.' ∉ old) (proper : IsName (stem ++ '.' :: old)) (noSlash : '/' ∉ extension) :
    (base.join ⟨stem ++ '.' :: old⟩).withExtension extension =
      base.join ⟨renamed stem extension⟩ := by
  have found : (base.join ⟨stem ++ '.' :: old⟩).extension? = some old := by
    simp [extension?, fileName?_join base proper, splitName_append stem noDot, filled]
  have whole : '/' ∉ stem := fun member => proper.whole (List.mem_append_left _ member)
  have bareSegment : IsSegment (stem ++ ['.']) := ⟨by simp, by simp [whole]⟩
  have bare : (base.join ⟨stem ++ '.' :: old⟩).withoutExtension = base.join ⟨stem ++ ['.']⟩ := by
    have text : (base.join ⟨stem ++ '.' :: old⟩).text = (base.join ⟨stem ++ ['.']⟩).text ++ old := by
      rw [text_join base proper.toIsSegment, text_join base bareSegment]
      simp
    simp [withoutExtension, found, text]
  rw [withExtension, bare]
  by_cases dots : stem = "."
  · have two : stem ++ ['.'] = ".." := by rw [dots]; rfl
    rw [two, lastName?_join_parent, renamed, if_pos dots]
  · have newSegment : IsSegment (stem ++ '.' :: extension) := ⟨by simp, by simp [whole, noSlash]⟩
    have kept : (base.joint ++ (stem ++ ['.'])).take (base.joint.length + stem.length) =
        base.joint ++ stem := by
      rw [← List.append_assoc, ← List.length_append, List.take_left]
    rw [lastName?_join base (isName_bare filled whole dots), renamed, if_neg dots]
    simp only [splitName_bare filled, text_join base bareSegment, kept]
    have text := text_join base newSegment
    generalize base.join ⟨stem ++ '.' :: extension⟩ = joined at text
    cases joined
    simp only at text
    rw [text]
    simp

/-- A path as far as its last component reaches. -/
def trimmed (path : FilePath) : FilePath :=
  ⟨path.text.take ((path.pieces.getLast?.map Piece.stop).getD 0)⟩

/-- A segment that is no component behind others. -/
def IsIdle (segment : Text) : Prop := segment = [] ∨ segment = "."

/-- A segment without a component is empty or a dot. -/
theorem idle_of_no_component {first : Bool} {segment : Text} (none : component? first segment = none) :
    IsIdle segment := by
  simp only [component?] at none
  split at none
  · exact .inl ‹_›
  split at none
  · exact .inr ‹_›
  split at none <;> cases none

/-- Segments without pieces are idle, all of them. -/
theorem idle_of_no_pieces {position : Nat} {segments : List Text}
    (none : piecesFrom position segments = []) : ∀ segment ∈ segments, IsIdle segment := by
  induction segments generalizing position with
  | nil => simp
  | cons segment rest inductionHypothesis =>
    simp only [piecesFrom] at none
    split at none
    · cases none
    · next component =>
      exact List.forall_mem_cons.mpr ⟨idle_of_no_component component, inductionHypothesis none⟩

/-- Segments up to the last component, and those that are passed over behind it. -/
theorem exists_front {segments : List Text} {before : List Piece} {last : Piece}
    (found : piecesFrom 0 segments = before ++ [last]) :
    ∃ front rest, segments = front ++ rest ∧ front ≠ [] ∧
      piecesFrom 0 front = before ++ [last] ∧ (locationText front).length = last.stop + 1 ∧
      0 < last.stop ∧ ∀ segment ∈ rest, IsIdle segment := by
  induction segments using List.reverseRecOn with
  | nil => simp [piecesFrom] at found
  | append_singleton init segment inductionHypothesis =>
    rw [piecesFrom_append, Nat.zero_add] at found
    cases component : component? ((locationText init).length == 0) segment with
    | none =>
      have idle := idle_of_no_component component
      have nothing : piecesFrom (locationText init).length [segment] = [] := by
        simp only [piecesFrom, component]
      rw [nothing, List.append_nil] at found
      obtain ⟨front, rest, rfl, filled, same, length, positive, idles⟩ := inductionHypothesis found
      refine ⟨front, rest ++ [segment], by simp, filled, same, length, positive, ?_⟩
      intro other member
      rcases List.mem_append.mp member with inside | final
      · exact idles other inside
      · exact List.mem_singleton.mp final ▸ idle
    | some kind =>
      have one : piecesFrom (locationText init).length [segment] =
          [⟨kind, (locationText init).length, (locationText init).length + segment.length⟩] := by
        simp only [piecesFrom, component]
      have filled : segment ≠ [] := by
        rintro rfl
        simp [component?] at component
      have positive := List.length_pos_of_ne_nil filled
      rw [one] at found
      obtain ⟨-, same⟩ := List.append_inj' found rfl
      obtain rfl := List.singleton_inj.mp same
      refine ⟨init ++ [segment], [], by simp, by simp, ?_, ?_, ?_, by simp⟩
      · rw [piecesFrom_append, Nat.zero_add, one, found]
      · simp [locationText]
        omega
      · simp only
        omega

/-- A text that is cut behind one of its segments. -/
theorem split_take {text : Text} {front rest : List Text}
    (whole : text.splitOn '/' = front ++ rest) (filled : front ≠ []) {length : Nat}
    (reaches : (locationText front).length = length + 1) :
    (text.take length).splitOn '/' = front := by
  have noSlash : ∀ segment ∈ front, '/' ∉ segment := by
    intro segment member
    have inside : segment ∈ text.splitOn '/' := whole ▸ List.mem_append_left _ member
    exact Text.notMem_of_mem_splitOn inside
  have cut : '/' :: text.take length = locationText front := by
    have text_eq : '/' :: text = locationText front ++ locationText rest := by
      rw [← locationText_split, whole, locationText, List.flatMap_append]
      rfl
    rw [← List.take_succ_cons, text_eq, ← reaches, List.take_left]
  rw [locationText_eq_join filled] at cut
  rw [(List.cons.inj cut).2, Text.join, List.splitOn_intercalate '/' noSlash filled]

/-- The names between the slashes of a text. -/
def namesOf (text : Text) : List Text := (text.splitOn '/').filter (· ≠ [])

/-- What a path has in common with the path as far as its last component reaches. -/
structure SameWay (path other : FilePath) : Prop where
  absolute : other.isAbsolute = path.isAbsolute
  components : other.components = path.components
  /-- Behind the last component there is nothing but dots. -/
  names : ∃ dots, namesOf path.text = namesOf other.text ++ dots ∧ ∀ dot ∈ dots, dot = "."

/-- The names among idle segments are dots. -/
theorem names_of_idle {rest : List Text} (idle : ∀ segment ∈ rest, IsIdle segment) :
    ∀ dot ∈ rest.filter (· ≠ []), dot = "." := by
  intro dot member
  obtain ⟨inside, filled⟩ := List.mem_filter.mp member
  exact (idle dot inside).resolve_left (by simpa using filled)

/-- How far the last component of a path reaches, if there is one besides the root. -/
theorem last_piece_cases (path : FilePath) :
    piecesFrom 0 (path.text.splitOn '/') = [] ∧
        path.pieces = (if path.isAbsolute then [⟨.root, 0, 1⟩] else []) ∨
      ∃ last front rest, path.pieces.getLast? = some last ∧
        path.text.splitOn '/' = front ++ rest ∧ front ≠ [] ∧
        piecesFrom 0 (path.text.splitOn '/') = piecesFrom 0 front ∧
        (locationText front).length = last.stop + 1 ∧ 0 < last.stop ∧
        ∀ segment ∈ rest, IsIdle segment := by
  rcases List.eq_nil_or_concat' (piecesFrom 0 (path.text.splitOn '/')) with
    none | ⟨before, last, found⟩
  · exact .inl ⟨none, by rw [pieces, none]⟩
  · obtain ⟨front, rest, whole, filled, same, reaches, positive, idle⟩ := exists_front found
    refine .inr ⟨last, front, rest, ?_, whole, filled, by rw [found, same], reaches, positive, idle⟩
    rw [pieces, found]
    split
    · rw [← List.cons_append, List.getLast?_concat]
    · rw [List.getLast?_concat]

/-- An absolute path starts with a slash. -/
theorem starts_of_isAbsolute {path : FilePath} (absolute : path.isAbsolute) :
    ∃ rest, path.text = '/' :: rest := by
  cases text : path.text with
  | nil => simp [isAbsolute, text] at absolute
  | cons char rest =>
    have slash : char = '/' := by simpa [isAbsolute, text] using absolute
    exact ⟨rest, by rw [slash]⟩

/-- Trimming a path leaves the way: behind the last component there are only idle segments, so
dots and slashes are all that is cut off. -/
theorem sameWay_trimmed (path : FilePath) : path.SameWay path.trimmed := by
  rcases last_piece_cases path with
    ⟨none, alone⟩ | ⟨last, front, rest, final, whole, filled, same, reaches, positive, idle⟩
  · have dots := names_of_idle (idle_of_no_pieces none)
    cases absolute : path.isAbsolute with
    | false =>
      have text : path.trimmed = ⟨[]⟩ := by simp [trimmed, alone, absolute]
      rw [text]
      refine ⟨absolute.symm, ?_, _, rfl, dots⟩
      rw [components, components, alone, absolute]
      rfl
    | true =>
      obtain ⟨rest, starts⟩ := starts_of_isAbsolute absolute
      have text : path.trimmed = "/" := by simp [trimmed, alone, absolute, starts]
      rw [text]
      refine ⟨absolute.symm, ?_, _, rfl, dots⟩
      rw [components, components, alone, absolute]
      rfl
  · have text : path.trimmed.text = path.text.take last.stop := by rw [trimmed, final]; rfl
    have cut : path.trimmed.text.splitOn '/' = front := by
      rw [text, split_take whole filled reaches]
    have absolute : path.trimmed.isAbsolute = path.isAbsolute := by
      rw [isAbsolute, isAbsolute, text, List.head?_take, if_neg (by omega)]
    refine ⟨absolute, ?_, rest.filter (· ≠ []), ?_, names_of_idle idle⟩
    · rw [components, components, pieces, pieces, absolute, cut, same]
    · rw [namesOf, namesOf, cut, whole, List.filter_append]

/-- The last component of a path ends within the path. -/
theorem stop_le (path : FilePath) :
    (path.pieces.getLast?.map Piece.stop).getD 0 ≤ path.text.length := by
  rcases last_piece_cases path with ⟨-, alone⟩ | ⟨last, front, rest, final, whole, -, -, reaches, -, -⟩
  · cases absolute : path.isAbsolute with
    | false => simp [alone, absolute]
    | true =>
      obtain ⟨rest, starts⟩ := starts_of_isAbsolute absolute
      simp [alone, absolute, starts]
  · have lengths := congrArg List.length (locationText_split path.text)
    rw [whole, locationText, List.flatMap_append, List.length_append, ← locationText, reaches,
      List.length_cons] at lengths
    rw [final]
    simp only [Option.map_some, Option.getD_some]
    omega

/-- The parent of a joined path is the path as far as its last component reaches. -/
theorem parent?_join (base : FilePath) {name : Text} (proper : IsName name) :
    (base.join ⟨name⟩).parent? = some base.trimmed := by
  rw [parent?, pieces_join base proper.toIsSegment proper.notCurrent, List.reverse_concat]
  have short : (base.pieces.getLast?.map Piece.stop).getD 0 ≤ base.text.length := stop_le base
  have starts : (base.join ⟨name⟩).text.take ((base.pieces.getLast?.map Piece.stop).getD 0) =
      base.text.take ((base.pieces.getLast?.map Piece.stop).getD 0) := by
    rw [text_join base proper.toIsSegment, joint]
    split
    · rw [List.take_append_of_le_length short]
    · rw [List.append_assoc, List.take_append_of_le_length short]
  simp only [componentOf_of_isName proper, reduceCtorEq, if_false, List.head?_reverse, starts]
  rfl

end PyxProject.Files.FilePath
