import PyxProject.Command.Tasks
import PyxProject.Proofs.Build.CompileRuns
import PyxProject.Proofs.Project.Discovery
import PyxProject.Proofs.Text.Lines

/-!
# Questions and their answers

A question takes one line of standard input, and the answer is yes if that line means yes
(`ask_performed`). A build asks about numpy before it asks whether to go on, so the answer
that consents to it is the first line or the second (`decideNumpy_performed`). Everything
else that happens before consent only observes.
-/

namespace PyxProject.Command

open Files Project

/-- Whether a line of standard input, counted from zero, means yes. -/
def agrees (input : Text) (line : Nat) : Bool := (Text.lines input)[line]?.any meansYes

/-- A blank at the end of an answer does not matter. -/
theorem meansYes_concat {char : Char} (blank : Text.isBlank char) (answer : Text) :
    meansYes (answer ++ [char]) = meansYes answer := by
  have trimmed : Text.trim (answer ++ [char]) = Text.trim answer := by
    simp only [Text.trim, Text.trimStart, List.dropWhile_append]
    split
    · next empty =>
      rw [List.isEmpty_iff.mp empty]
      simp [blank]
    · simp [Text.trimEnd, Text.dropEndWhile, blank]
  rw [meansYes, meansYes, trimmed]

/-- A carriage return at the end of an answer is blank, so it does not change what is meant. -/
theorem meansYes_dropReturn (answer : Text) : meansYes (Text.dropReturn answer) = meansYes answer := by
  rcases List.eq_nil_or_concat' answer with rfl | ⟨front, last, rfl⟩
  · rfl
  · rw [Text.dropReturn, List.getLast?_concat]
    split
    · next carriage =>
      cases carriage
      rw [List.dropLast_concat, meansYes_concat (by decide)]
    · rfl

/-- What is taken of an input that has a first line, and what is left. -/
theorem takeWhile_line {line : Text} (oneLine : '\n' ∉ line) (rest : Text) :
    (line ++ '\n' :: rest).takeWhile (· != '\n') = line := by
  have others : ∀ char ∈ line, (char != '\n') = true := fun char member => by
    have different : char ≠ '\n' := fun same => oneLine (same ▸ member)
    simpa using different
  rw [List.takeWhile_append_of_pos others]
  simp

/-- The line that is taken is the first one, and the lines after it are left. -/
theorem takeLine_performed (host : Host) (session : Session) :
    ∃ line after, takeLine.perform host session = (.ok line, after) ∧
      after.tree = session.tree ∧ meansYes line = agrees session.input 0 ∧
      ∀ n, agrees after.input n = agrees session.input (n + 1) := by
  let line := session.input.takeWhile (· != '\n')
  let rest := session.input.drop line.length
  refine ⟨line ++ rest.take 1, { session with
    input := rest.drop 1, questions := session.questions ++ [session.out.length] }, rfl, rfl, ?_⟩
  simp only [line, rest, agrees]
  by_cases more : '\n' ∈ session.input
  · obtain ⟨first, others, whole, oneLine⟩ := List.eq_append_cons_of_mem more
    rw [whole, takeWhile_line oneLine, List.drop_left, Text.lines_append oneLine]
    refine ⟨?_, fun n => rfl⟩
    simp [meansYes_dropReturn, meansYes_concat (by decide : Text.isBlank '\n')]
  · have all : session.input.takeWhile (· != '\n') = session.input :=
      List.takeWhile_eq_self_iff.mpr fun char member => by
        have different : char ≠ '\n' := fun same => more (same ▸ member)
        simpa using different
    rw [all, List.drop_length, List.take_nil, List.drop_nil, List.append_nil]
    by_cases empty : session.input = []
    · rw [empty]
      exact ⟨by decide, fun n => rfl⟩
    · rw [Text.lines_of_line empty more]
      exact ⟨rfl, fun n => rfl⟩

/-- A question is answered by the first line that is left. -/
theorem ask_performed (question : String) (host : Host) (session : Session) :
    ∃ after, (ask question).perform host session = (.ok (agrees session.input 0), after) ∧
      after.tree = session.tree ∧ ∀ n, agrees after.input n = agrees session.input (n + 1) := by
  obtain ⟨printed, printing, alike⟩ := talks_print (question ++ " [y/N] ") host session
  obtain ⟨line, taken, taking, unchanged, means, left⟩ := takeLine_performed host printed
  rw [alike.input] at means left
  have kept : taken.tree = session.tree := unchanged.trans alike.tree
  simp only [ask, perform_bind, printing, taking, means]
  cases agrees session.input 0 with
  | true => exact ⟨taken, rfl, kept, left⟩
  | false =>
    obtain ⟨after, cancelled, alikeAfter⟩ := talks_printLine "Cancelled." host taken
    refine ⟨after, ?_, alikeAfter.tree.trans kept, fun n => by rw [alikeAfter.input, left]⟩
    simp only [Bool.not_false, if_true, perform_bind, cancelled, perform_pure]

/-- Consent is given before, or by the first line that is left. -/
theorem askConsent_performed (workplace : Workplace) (action : String) (sources : List FilePath)
    (accept : Bool) (host : Host) (session : Session) :
    ∃ after, (workplace.askConsent action sources accept).perform host session =
        (.ok (accept || agrees session.input 0), after) ∧ after.tree = session.tree := by
  cases accept with
  | true => exact ⟨session, rfl, rfl⟩
  | false =>
    have shows : Talks (workplace.show sources) := talks_forM fun _ _ => talks_printLine _
    obtain ⟨announced, announcing, alike⟩ := talks_printLine
      (s!"About to {action} {sources.length} pyx file(s):") host session
    obtain ⟨shown, showing, alikeShown⟩ := shows host announced
    obtain ⟨after, asked, kept, -⟩ := ask_performed "Continue?" host shown
    refine ⟨after, ?_, kept.trans (alikeShown.tree.trans alike.tree)⟩
    rw [(alike.trans alikeShown).input] at asked
    simp only [Workplace.askConsent, Bool.false_eq_true, if_false, perform_bind, announcing, showing,
      asked, Bool.false_or]

/-- What is read from a configuration file. -/
def loadedFile (path : FilePath) (host : Host) (tree : FileTree) : Except Failure Config :=
  match readText tree host.directory path with
  | .error fault => .error (.configUnreadable path fault)
  | .ok content =>
    match Config.read? content with
    | none => .error (.configMalformed path)
    | some config => .ok config

/-- Loading a file of settings only observes it. -/
theorem observes_loadFile (path : FilePath) :
    Observes (Config.loadFile path) (loadedFile path) := by
  intro host session
  simp only [Config.loadFile, loadedFile, perform_bind, perform_inspect]
  cases readText session.tree host.directory path with
  | error fault => exact ⟨session, rfl, .refl session⟩
  | ok content =>
    dsimp only
    cases Config.read? content with
    | none => exact ⟨session, rfl, .refl session⟩
    | some config => exact ((observes_pure config).after (talks_report _)) host session

/-- The configuration of the project in the working directory. -/
def configured (globals : Globals) (host : Host) (tree : FileTree) : Except Failure Config :=
  if globals.norc then .ok {}
  else match globals.config? with
    | some path => loadedFile ⟨path⟩ host tree
    | none =>
      match (Config.candidates host host.directory).find? (isFile tree host.directory) with
      | some path => loadedFile path host tree
      | none => .ok {}

/-- The project that a command line is about. -/
def workplaceOf (globals : Globals) (host : Host) (tree : FileTree) : Except Failure Workplace :=
  (configured globals host tree).map fun config =>
    { config, layout := Layout.of host.directory config }

/-- Setting up the workplace only observes the files that settings are looked for in. -/
theorem observes_workplace (globals : Globals) :
    Observes (Workplace.load (globals.config?.map FilePath.mk) globals.norc)
      (workplaceOf globals) := by
  intro host session
  have loads : ∃ after, (Config.load host.directory (globals.config?.map FilePath.mk)
      globals.norc).perform host session = (configured globals host session.tree, after) ∧
        session.Alike after := by
    simp only [Config.load, configured]
    cases globals.norc with
    | true => exact ((observes_pure _).after (talks_report _)) host session
    | false =>
      cases globals.config? with
      | some path => exact observes_loadFile ⟨path⟩ host session
      | none =>
        simp only [Bool.false_eq_true, if_false, Option.map_none, perform_bind, perform_read,
          perform_inspect]
        cases (Config.candidates host host.directory).find? (isFile session.tree host.directory) with
        | some path => exact observes_loadFile path host session
        | none => exact ⟨session, rfl, .refl session⟩
  obtain ⟨after, performed, alike⟩ := loads
  refine ⟨after, ?_, alike⟩
  simp only [Workplace.load, perform_bind, perform_read, performed, workplaceOf]
  cases configured globals host session.tree <;> rfl

/-- The sources that a task is about are found by a search, which only observes. -/
theorem observes_sources (workplace : Workplace) (names : List Text) :
    Observes (workplace.sources names) fun host tree =>
      (found workplace.layout.root names workplace.config.exclude host tree).map
        Selection.sources := by
  intro host session
  obtain ⟨searched, performed, alike⟩ := observes_discover workplace.layout.root names
    workplace.config.exclude host session
  simp only [Workplace.sources, perform_bind, performed]
  cases found workplace.layout.root names workplace.config.exclude host session.tree with
  | error failure => exact ⟨searched, rfl, alike⟩
  | ok selection =>
    dsimp only
    split
    · obtain ⟨after, warned, alikeAfter⟩ := talks_complainLine
        ("warning: cannot find provided target files: " ++
          String.ofList (Text.join ", " selection.missing)) host searched
      exact ⟨after, by simp only [perform_bind, warned]; rfl, alike.trans alikeAfter⟩
    · exact ⟨searched, rfl, alike⟩

/-- Whether a build asks about numpy: it does where the interpreter knows numpy, and neither
numpy nor everything was asked for. -/
def asksAbout (interpreter : FilePath) (requested accept : Bool) (host : Host) (tree : FileTree) :
    Bool :=
  !requested && !accept && Build.knowsNumpy tree host interpreter

/-- The question about numpy takes a line, and nothing else does. -/
theorem decideNumpy_performed (interpreter : FilePath) (requested accept : Bool) (host : Host)
    (session : Session) :
    ∃ outcome after, (decideNumpy interpreter requested accept).perform host session =
        (outcome, after) ∧ after.tree = session.tree ∧
      ∀ n, agrees after.input n = agrees session.input
        (n + (asksAbout interpreter requested accept host session.tree).toNat) := by
  obtain ⟨probed, probing, alike⟩ := Build.observes_hasNumpy interpreter host session
  cases requested with
  | true =>
    simp only [decideNumpy, if_true, perform_bind, probing, asksAbout]
    cases Build.knowsNumpy session.tree host interpreter with
    | true => exact ⟨_, probed, rfl, alike.tree, fun n => by rw [alike.input]; rfl⟩
    | false => exact ⟨_, probed, rfl, alike.tree, fun n => by rw [alike.input]; rfl⟩
  | false =>
    cases accept with
    | true => exact ⟨_, session, rfl, rfl, fun n => rfl⟩
    | false =>
      simp only [decideNumpy, Bool.false_eq_true, if_false, perform_bind, probing, asksAbout,
        Bool.not_false, Bool.true_and]
      cases Build.knowsNumpy session.tree host interpreter with
      | true =>
        obtain ⟨after, asked, kept, left⟩ := ask_performed
          "Your project has numpy installed. Include numpy in the Cython build?" host probed
        exact ⟨_, after, asked, kept.trans alike.tree, fun n => by rw [left, alike.input]; rfl⟩
      | false => exact ⟨_, probed, rfl, alike.tree, fun n => by rw [alike.input]; rfl⟩

end PyxProject.Command
