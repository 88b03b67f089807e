import PyxProject.Build.SetupScript
import PyxProject.Proofs.Text.QuotedLiterals

/-!
# Reading a setup script back

Names and paths enter the script as literals that stay on their lines (`lines_scriptText`). So
the literals of each line are those that were put there, the script is read back as what it
was written from, and scripts for different builds differ (`script_readBack`).
-/

namespace PyxProject.Build

open Files

/-- The extension that a line of a script lists, if it lists one. -/
def readExtension? (line : Text) : Option Extension :=
  if Text.startsWith line "    Extension(" then
    match Text.literals line with
    | some [name, source] => some ⟨name, ⟨source⟩⟩
    | _ => none
  else none

/-- The directories that a line of a script gives for headers, if it gives them. -/
def readIncludeDirs? (line : Text) : Option (List FilePath) :=
  if Text.startsWith line "include_dirs = " then
    (Text.literals line).map fun texts => texts.map FilePath.mk
  else none

/-- Whether a line of a script asks for reports, if it says so. -/
def readAnnotate? (line : Text) : Option Bool :=
  if line = "Cython.Compiler.Options.annotate = True" then some true
  else if line = "Cython.Compiler.Options.annotate = False" then some false
  else none

/-- What a script is to build: extensions, directories for headers, and whether reports are
asked for. -/
def readScript? (script : Text) : Option (List Extension × List FilePath × Bool) := do
  let lines := Text.lines script
  let includeDirs ← lines.findSome? readIncludeDirs?
  let annotate ← lines.findSome? readAnnotate?
  return (lines.filterMap readExtension?, includeDirs, annotate)

/-- A text without line ends. -/
def StaysOnLine (text : Text) : Prop := ∀ char ∈ text, char ≠ '\n' ∧ char ≠ '\r'

/-- Whether a text has line ends is found by going through it. -/
instance (text : Text) : Decidable (StaysOnLine text) :=
  inferInstanceAs (Decidable (∀ char ∈ text, char ≠ '\n' ∧ char ≠ '\r'))

/-- Two texts without line ends make one. -/
theorem StaysOnLine.append {first second : Text} (whole : StaysOnLine first)
    (rest : StaysOnLine second) : StaysOnLine (first ++ second) := by
  intro char member
  rcases List.mem_append.mp member with inside | inside
  · exact whole char inside
  · exact rest char inside

/-- A quoted text has no line ends, since they are written as escapes. -/
theorem staysOnLine_quote (text : Text) : StaysOnLine (Text.quote text) :=
  fun _ member => Text.oneLine_quote member

/-- A truth value is a word. -/
theorem staysOnLine_truth (value : Bool) : StaysOnLine (truth value) := by
  cases value <;> decide

/-- The line of an extension has no line ends, whatever its name and its source are. -/
theorem staysOnLine_scriptLine (extension : Extension) : StaysOnLine extension.scriptLine := by
  have opening : StaysOnLine "    Extension(name=" := by decide
  have between : StaysOnLine ", sources=[" := by decide
  have closing : StaysOnLine "], include_dirs=include_dirs)," := by decide
  exact (((opening.append (staysOnLine_quote _)).append between).append
    (staysOnLine_quote _)).append closing

/-- The line that gives the directories for headers. -/
theorem staysOnLine_includeDirs (includeDirs : List FilePath) :
    StaysOnLine ("include_dirs = [" ++
      Text.join ", " (includeDirs.map fun dir => Text.quote dir.text) ++ "]") := by
  have opening : StaysOnLine "include_dirs = [" := by decide
  have closing : StaysOnLine "]" := by decide
  have joined : StaysOnLine (Text.join ", " (includeDirs.map fun dir => Text.quote dir.text)) := by
    refine Text.holds_join StaysOnLine (by decide) StaysOnLine.append (by decide) ?_
    intro piece member
    obtain ⟨dir, -, rfl⟩ := List.mem_map.mp member
    exact staysOnLine_quote dir.text
  exact (opening.append joined).append closing

/-- The lines above the extensions hold line ends nowhere: all but two of them are fixed. -/
theorem staysOnLine_of_mem_openingLines {includeDirs : List FilePath} {annotate : Bool}
    {line : Text} (member : line ∈ openingLines includeDirs annotate) : StaysOnLine line := by
  simp only [openingLines, List.mem_cons, List.not_mem_nil, or_false] at member
  rcases member with rfl | rfl | rfl | rfl | rfl | rfl | rfl | rfl
  · decide
  · decide
  · decide
  · decide
  · exact StaysOnLine.append (by decide) (staysOnLine_truth annotate)
  · exact staysOnLine_includeDirs includeDirs
  · decide
  · decide

/-- The lines below the extensions are fixed, but for the answer whether reports are wanted. -/
theorem staysOnLine_of_mem_closingLines {annotate : Bool} {line : Text}
    (member : line ∈ closingLines annotate) : StaysOnLine line := by
  cases annotate <;> revert line <;> decide

/-- No line of a script holds a line end, so each of them is a line of the written text. -/
theorem staysOnLine_of_mem_scriptLines {extensions : List Extension} {includeDirs : List FilePath}
    {annotate : Bool} {line : Text} (member : line ∈ scriptLines extensions includeDirs annotate) :
    StaysOnLine line := by
  rw [scriptLines, List.append_assoc, List.mem_append, List.mem_append] at member
  rcases member with opening | listed | closing
  · exact staysOnLine_of_mem_openingLines opening
  · obtain ⟨extension, -, rfl⟩ := List.mem_map.mp listed
    exact staysOnLine_scriptLine extension
  · exact staysOnLine_of_mem_closingLines closing

/-- A script has the lines that it was written with. -/
theorem lines_scriptText (extensions : List Extension) (includeDirs : List FilePath)
    (annotate : Bool) :
    Text.lines (scriptText extensions includeDirs annotate) =
      scriptLines extensions includeDirs annotate := by
  rw [scriptText]
  refine Text.lines_unlines fun line member => ?_
  have whole := staysOnLine_of_mem_scriptLines member
  exact ⟨fun broken => (whole '\n' broken).1 rfl,
    fun returned => (whole '\r' (List.mem_of_getLast? returned)).2 rfl⟩

/-- A line with two quoted texts between others holds these two literals. -/
theorem literals_of_two {opening between closing : Text} (beforePlain : '"' ∉ opening)
    (betweenPlain : '"' ∉ between) (afterPlain : '"' ∉ closing) (first second : Text) :
    Text.literals (opening ++ Text.quote first ++ between ++ Text.quote second ++ closing) =
      some [first, second] := by
  simp only [Text.literals, List.append_assoc, Text.literalsFrom_plain beforePlain,
    Text.literalsFrom_quote, Text.literalsFrom_plain betweenPlain,
    Text.literalsFrom_of_plain afterPlain, Option.map_some]

/-- The literals on the line of an extension are its name and its source. -/
theorem literals_scriptLine (extension : Extension) :
    Text.literals extension.scriptLine = some [extension.name, extension.source.text] :=
  literals_of_two (by decide) (by decide) (by decide) extension.name extension.source.text

/-- The literals on the line of the directories are the directories, in their order. -/
theorem literals_includeDirs (includeDirs : List FilePath) :
    Text.literals ("include_dirs = [" ++
        Text.join ", " (includeDirs.map fun dir => Text.quote dir.text) ++ "]") =
      some (includeDirs.map FilePath.text) := by
  have quoted : (includeDirs.map fun dir => Text.quote dir.text) =
      (includeDirs.map FilePath.text).map Text.quote := by
    rw [List.map_map]
    rfl
  rw [Text.literals, List.append_assoc, Text.literalsFrom_plain (by decide), quoted,
    Text.literalsFrom_join (by decide), Text.literalsFrom_of_plain (by decide), Option.map_some,
    List.append_nil]

/-- The literals of a script, line by line. Only the directories and the extensions put in any, so
nothing that is quoted reaches another line. -/
theorem map_literals_scriptLines (extensions : List Extension) (includeDirs : List FilePath)
    (annotate : Bool) :
    (scriptLines extensions includeDirs annotate).map Text.literals =
      List.replicate 5 (some []) ++ some (includeDirs.map FilePath.text) ::
        List.replicate 2 (some []) ++
          (extensions.map fun extension => some [extension.name, extension.source.text]) ++
        List.replicate 3 (some []) := by
  have listed : (extensions.map Extension.scriptLine).map Text.literals =
      extensions.map fun extension => some [extension.name, extension.source.text] := by
    rw [List.map_map]
    exact List.map_congr_left fun extension _ => literals_scriptLine extension
  have opening : (openingLines includeDirs annotate).map Text.literals =
      List.replicate 5 (some []) ++ some (includeDirs.map FilePath.text) ::
        List.replicate 2 (some []) := by
    simp only [openingLines, List.map_cons, literals_includeDirs]
    cases annotate <;> rfl
  have closing : (closingLines annotate).map Text.literals = List.replicate 3 (some []) := by
    cases annotate <;> rfl
  rw [scriptLines, List.map_append, List.map_append, listed, opening, closing]

/-- The line of an extension is read back as the extension. -/
theorem readExtension?_scriptLine (extension : Extension) :
    readExtension? extension.scriptLine = some extension := by
  rw [readExtension?, literals_scriptLine]
  rfl

/-- A script is read back as what it was written from. -/
theorem readScript?_scriptText (extensions : List Extension) (includeDirs : List FilePath)
    (annotate : Bool) :
    readScript? (scriptText extensions includeDirs annotate) =
      some (extensions, includeDirs, annotate) := by
  have dirs : (scriptLines extensions includeDirs annotate).findSome? readIncludeDirs? =
      some includeDirs := by
    have given : readIncludeDirs? ("include_dirs = [" ++
        Text.join ", " (includeDirs.map fun dir => Text.quote dir.text) ++ "]") =
          some includeDirs := by
      have whole : (includeDirs.map FilePath.text).map FilePath.mk = includeDirs :=
        List.map_map.trans (List.map_id includeDirs)
      rw [readIncludeDirs?, literals_includeDirs, Option.map_some, whole]
      rfl
    rw [scriptLines, List.append_assoc, List.findSome?_append, openingLines]
    simp only [List.findSome?_cons, given]
    cases annotate <;> rfl
  have flag : (scriptLines extensions includeDirs annotate).findSome? readAnnotate? =
      some annotate := by
    cases annotate <;> rfl
  have listed : (scriptLines extensions includeDirs annotate).filterMap readExtension? =
      extensions := by
    have others : (openingLines includeDirs annotate).filterMap readExtension? = [] := by
      cases annotate <;> rfl
    have own : (extensions.map Extension.scriptLine).filterMap readExtension? = extensions := by
      rw [List.filterMap_map]
      exact (List.filterMap_congr fun extension _ => readExtension?_scriptLine extension).trans
        List.filterMap_some
    have rest : (closingLines annotate).filterMap readExtension? = [] := by
      cases annotate <;> rfl
    rw [scriptLines, List.filterMap_append, List.filterMap_append, others, own, rest,
      List.append_nil, List.nil_append]
  simp only [readScript?, lines_scriptText, dirs, flag, listed]
  rfl

/-- Nothing that is written into a script can be taken for something else. The script has
eleven lines and one for each extension. Its literals are, line by line, the directories for
headers and then name and source of each extension. So it is read back as what it was written
from, and different builds have different scripts. -/
theorem script_readBack (extensions : List Extension) (includeDirs : List FilePath)
    (annotate : Bool) :
    (Text.lines (scriptText extensions includeDirs annotate)).length = 11 + extensions.length ∧
      (Text.lines (scriptText extensions includeDirs annotate)).map Text.literals =
        List.replicate 5 (some []) ++ some (includeDirs.map FilePath.text) ::
          List.replicate 2 (some []) ++
            (extensions.map fun extension => some [extension.name, extension.source.text]) ++
          List.replicate 3 (some []) ∧
      readScript? (scriptText extensions includeDirs annotate) =
        some (extensions, includeDirs, annotate) ∧
      ∀ others dirs flag, scriptText others dirs flag = scriptText extensions includeDirs annotate ↔
        others = extensions ∧ dirs = includeDirs ∧ flag = annotate := by
  refine ⟨?_, ?_, readScript?_scriptText extensions includeDirs annotate, ?_⟩
  · simp only [lines_scriptText, scriptLines, openingLines, closingLines, List.length_append,
      List.length_cons, List.length_map, List.length_nil]
    omega
  · rw [lines_scriptText, map_literals_scriptLines]
  · intro others dirs flag
    constructor
    · intro same
      have read := readScript?_scriptText others dirs flag
      rw [same, readScript?_scriptText] at read
      simpa [eq_comm] using read
    · rintro ⟨rfl, rfl, rfl⟩
      rfl

end PyxProject.Build
