import PyxProject.Command.Run
import PyxProject.Proofs.Command.Answers

/-!
# Nothing is touched without consent

Before a command changes files it has looked for sources and asked. Without consent the tree
stays as it was, whatever else happens (`consented_keeps`). A build asks before its compile
run, and goes on after that run only if it succeeded, so a build that ends earlier changes the
tree by that run alone (`compileRequest_ends`). Both together are
`nothing_without_consent`.
-/

namespace PyxProject.Command

open Files Project

/-- Find sources and, if there are some and the user agrees, act on them. -/
def consented (workplace : Workplace) (files : List Text) (action : String) (accept : Bool)
    (announcement : List FilePath → String) (act : List FilePath → Action Unit) : Action Unit := do
  let sources ← workplace.sources files
  if sources = [] then printLine "No pyx files found"
  else
    printLine (announcement sources)
    if ← workplace.askConsent action sources accept then act sources

/-- Cleaning is an action that needs consent. -/
theorem runClean_eq (workplace : Workplace) (files : List Text) (keepCFiles accept : Bool) :
    runClean workplace files keepCFiles accept =
      consented workplace files "clean" accept
        (fun sources => s!"Found {sources.length} pyx file(s) to clean")
        (fun sources => do
          printLine (s!"Cleaning {sources.length} pyx file(s)...")
          let report ← cleanUp workplace.layout sources keepCFiles
          showReport workplace report
          printLine "Cleanup complete") := rfl

/-- Writing stubs is an action that needs consent. -/
theorem runInterface_eq (workplace : Workplace) (files : List Text) (accept : Bool) :
    runInterface workplace files accept =
      consented workplace files "generate interfaces for" accept
        (fun sources => s!"Found {sources.length} pyx file(s) to generate interfaces for")
        (fun sources => do
          let _ ← writeStubs sources
          printLine (s!"Generated {sources.length} interface file(s)")) := rfl

/-- Without consent nothing is changed. -/
theorem consented_keeps (workplace : Workplace) (files : List Text) (action : String)
    (announcement : List FilePath → String) (act : List FilePath → Action Unit) (host : Host)
    {session : Session} (declined : agrees session.input 0 = false) :
    ((consented workplace files action false announcement act).perform host session).2.tree =
      session.tree := by
  obtain ⟨searched, searching, alike⟩ := observes_sources workplace files host session
  simp only [consented, perform_bind, searching]
  cases (found workplace.layout.root files workplace.config.exclude host session.tree).map
    Selection.sources with
  | error failure => exact alike.tree
  | ok sources =>
    dsimp only
    split
    · obtain ⟨after, printed, alikeAfter⟩ := talks_printLine "No pyx files found" host searched
      rw [printed]
      exact alikeAfter.tree.trans alike.tree
    · obtain ⟨announced, announcing, alikeAnnounced⟩ :=
        talks_printLine (announcement sources) host searched
      obtain ⟨after, asked, kept⟩ :=
        askConsent_performed workplace action sources false host announced
      rw [(alike.trans alikeAnnounced).input, declined] at asked
      simp only [perform_bind, announcing, asked]
      exact kept.trans (alike.trans alikeAnnounced).tree

/-- The compile run of a build with an interpreter, if there are sources and the user
agrees. -/
def compileWith (workplace : Workplace) (files : List Text) (arguments : BuildArguments)
    (interpreter : FilePath) (includeNumpy : Bool) :
    Action (Option (List FilePath × Build.Result)) := do
  let sources ← workplace.sources files
  if sources = [] then
    printLine "No pyx files found"
    return none
  else
    printLine (s!"Found {sources.length} pyx file(s) to build")
    if ← workplace.askConsent "build" sources arguments.accept then
      printLine (s!"Building {sources.length} pyx file(s)...")
      let result ← Build.build interpreter workplace.layout.root sources
        { annotate := !arguments.noReports, includeNumpy, verbose := arguments.verbose }
      return some (sources, result)
    else return none

/-- A build up to the end of its compile run. -/
def compile (workplace : Workplace) (files : List Text) (arguments : BuildArguments) :
    Action (Option (List FilePath × Build.Result)) := do
  let interpreter ← Build.chooseInterpreter workplace.config.python?
  let includeNumpy ← decideNumpy interpreter
    (arguments.includeNumpy || workplace.config.includeNumpy) arguments.accept
  compileWith workplace files arguments interpreter includeNumpy

/-- What a build does after its compile run. -/
def finish (workplace : Workplace) (arguments : BuildArguments) :
    Option (List FilePath × Build.Result) → Action Unit
  | none => return ()
  | some (sources, result) =>
    match result.error? with
    | some error => do
      if !arguments.verbose then complain (String.ofList result.output)
      throw (.buildFailed error)
    | none => finishBuild workplace arguments sources result

/-- A build is its compile run and what follows it. The compile run gives nothing if there was
nothing to build or no consent, and then nothing follows. -/
theorem runBuild_eq (workplace : Workplace) (files : List Text) (arguments : BuildArguments) :
    runBuild workplace files arguments =
      compile workplace files arguments >>= finish workplace arguments := by
  simp only [runBuild, compile, compileWith, bind_assoc]
  congr 1
  funext interpreter
  congr 1
  funext includeNumpy
  congr 1
  funext sources
  split
  · simp only [bind_assoc, pure_bind]
    rfl
  · simp only [bind_assoc]
    congr 1
    funext _
    congr 1
    funext agreed
    cases agreed with
    | false => rfl
    | true =>
      simp only [if_true, bind_assoc, pure_bind]
      rfl

/-- The build that a command line asks for, up to the end of its compile run. -/
def compileRequest (globals : Globals) (files : List Text) (arguments : BuildArguments) :
    Action (Option (List FilePath × Build.Result)) := do
  let workplace ← Workplace.load (globals.config?.map FilePath.mk) globals.norc
  compile workplace files arguments

/-- Whether a build asks about numpy. -/
def asksNumpy (globals : Globals) (arguments : BuildArguments) (host : Host) (tree : FileTree) :
    Bool :=
  match configured globals host tree with
  | .error _ => false
  | .ok config =>
    match Build.findInterpreter tree host config.python? with
    | .error _ => false
    | .ok interpreter =>
      asksAbout interpreter (arguments.includeNumpy || config.includeNumpy) arguments.accept host tree

/-- The line of standard input by which a user consents to a build: the second one if the first
one answers the question about numpy. -/
def consentLine (globals : Globals) (arguments : BuildArguments) (host : Host) (tree : FileTree) :
    Nat :=
  (asksNumpy globals arguments host tree).toNat

/-- No source was found. -/
def NoSource (root : FilePath) (files exclude : List Text) (host : Host) (tree : FileTree) : Prop :=
  ∃ selection, found root files exclude host tree = .ok selection ∧ selection.sources = []

/-- How a build may come to the end of its compile run, if the user's answer is the given one:
it fails or stops and leaves the tree alone, or there was consent and the run has ended. -/
inductive CompileEnd (host : Host) (root : FilePath) (tree : FileTree) (nothing : Prop)
    (accept answer : Bool) :
    Except Failure (Option (List FilePath × Build.Result)) → FileTree → Prop
  | failed (failure : Failure) : CompileEnd host root tree nothing accept answer (.error failure) tree
  | idle (empty : nothing) : CompileEnd host root tree nothing accept answer (.ok none) tree
  | declined (asked : accept = false) (no : answer = false) :
    CompileEnd host root tree nothing accept answer (.ok none) tree
  | ended {sources : List FilePath} {result : Build.Result} {interpreter : FilePath}
    {after : FileTree} (consent : accept ∨ answer)
    (run : Build.CompileRun host root interpreter tree result.error? after) :
    CompileEnd host root tree nothing accept answer (.ok (some (sources, result))) after

/-- Once the interpreter is known and the questions about numpy are settled, a build ends as a
build may: it finds no source, or is refused, or has consent and runs the compiler. -/
theorem compileWith_ends (workplace : Workplace) (files : List Text) (arguments : BuildArguments)
    (interpreter : FilePath) (includeNumpy : Bool) (host : Host) (session : Session) :
    CompileEnd host workplace.layout.root session.tree
      (NoSource workplace.layout.root files workplace.config.exclude host session.tree)
      arguments.accept (agrees session.input 0)
      ((compileWith workplace files arguments interpreter includeNumpy).perform host session).1
      ((compileWith workplace files arguments interpreter includeNumpy).perform host
        session).2.tree := by
  obtain ⟨searched, searching, alike⟩ := observes_sources workplace files host session
  simp only [compileWith, perform_bind, searching]
  cases search : found workplace.layout.root files workplace.config.exclude host session.tree with
  | error failure =>
    simp only [Except.map]
    rw [alike.tree]
    exact .failed failure
  | ok selection =>
    simp only [Except.map]
    split
    · next empty =>
      obtain ⟨after, printed, alikeAfter⟩ := talks_printLine "No pyx files found" host searched
      simp only [perform_bind, printed, perform_pure]
      rw [(alike.trans alikeAfter).tree]
      exact .idle ⟨selection, search, empty⟩
    · obtain ⟨announced, announcing, alikeAnnounced⟩ := talks_printLine
        (s!"Found {selection.sources.length} pyx file(s) to build") host searched
      obtain ⟨asked, asking, kept⟩ := askConsent_performed workplace "build" selection.sources
        arguments.accept host announced
      have alikeBoth := alike.trans alikeAnnounced
      rw [alikeBoth.input] at asking
      have unchanged : asked.tree = session.tree := kept.trans alikeBoth.tree
      simp only [perform_bind, announcing, asking]
      cases consent : arguments.accept || agrees session.input 0 with
      | false =>
        obtain ⟨notAccepted, no⟩ := Bool.or_eq_false_iff.mp consent
        simp only [Bool.false_eq_true, if_false, perform_pure]
        rw [unchanged]
        exact .declined notAccepted no
      | true =>
        obtain ⟨building, printed, alikeBuilding⟩ := talks_printLine
          (s!"Building {selection.sources.length} pyx file(s)...") host asked
        have ends := Build.build_ends interpreter workplace.layout.root selection.sources
          { annotate := !arguments.noReports, includeNumpy, verbose := arguments.verbose } host
          session.tree building (alikeBuilding.tree.trans unchanged)
        simp only [if_true, perform_bind, printed]
        rcases performed : (Build.build interpreter workplace.layout.root selection.sources
          { annotate := !arguments.noReports, includeNumpy, verbose := arguments.verbose }).perform
          host building with ⟨failure | result, after⟩
        · rw [performed] at ends
          have same : after.tree = session.tree := ends
          simp only
          rw [same]
          exact .failed failure
        · rw [performed] at ends
          exact .ended (by simpa using consent) ends

namespace CompileEnd

variable {host : Host} {root : FilePath} {tree after : FileTree} {nothing weaker : Prop}
  {accept answer : Bool}

/-- There was no source for a weaker reason as well. -/
theorem weaken {outcome : Except Failure (Option (List FilePath × Build.Result))}
    (ends : CompileEnd host root tree nothing accept answer outcome after)
    (implies : nothing → weaker) : CompileEnd host root tree weaker accept answer outcome after := by
  cases ends with
  | failed failure => exact .failed failure
  | idle empty => exact .idle (implies empty)
  | declined asked no => exact .declined asked no
  | ended consent run => exact .ended consent run

/-- A build that fails before its compile run leaves the tree alone. -/
theorem of_failed {failure : Failure}
    (ends : CompileEnd host root tree nothing accept answer (.error failure) after) :
    after = tree := by
  cases ends
  rfl

/-- A build that stops without a compile run leaves the tree alone, and there was no source or no
consent. -/
theorem of_stopped (ends : CompileEnd host root tree nothing accept answer (.ok none) after) :
    after = tree ∧ (nothing ∨ accept = false ∧ answer = false) := by
  cases ends with
  | idle empty => exact ⟨rfl, .inl empty⟩
  | declined asked no => exact ⟨rfl, .inr ⟨asked, no⟩⟩

/-- A build with a compile run had consent, and the tree is what the compile run has left. -/
theorem of_ended {sources : List FilePath} {result : Build.Result}
    (ends : CompileEnd host root tree nothing accept answer (.ok (some (sources, result))) after) :
    (accept ∨ answer) ∧
      ∃ interpreter, Build.CompileRun host root interpreter tree result.error? after := by
  cases ends with
  | ended consent run => exact ⟨consent, _, run⟩

end CompileEnd

/-- What comes before the compile run changes no file and takes one line at most. -/
theorem compileRequest_ends (globals : Globals) (files : List Text) (arguments : BuildArguments)
    (host : Host) (session : Session) :
    CompileEnd host host.directory session.tree
      (∃ config, configured globals host session.tree = .ok config ∧
        NoSource host.directory files config.exclude host session.tree)
      arguments.accept
      (agrees session.input (consentLine globals arguments host session.tree))
      ((compileRequest globals files arguments).perform host session).1
      ((compileRequest globals files arguments).perform host session).2.tree := by
  obtain ⟨loaded, loading, alikeLoaded⟩ := observes_workplace globals host session
  simp only [compileRequest, perform_bind, loading, workplaceOf, consentLine, asksNumpy]
  cases load : configured globals host session.tree with
  | error failure =>
    simp only [Except.map]
    rw [alikeLoaded.tree]
    exact .failed failure
  | ok config =>
    obtain ⟨started, starting, alikeStarted⟩ :=
      Build.observes_chooseInterpreter config.python? host loaded
    rw [alikeLoaded.tree] at starting
    simp only [Except.map, compile, perform_bind, starting]
    cases Build.findInterpreter session.tree host config.python? with
    | error failure =>
      simp only
      rw [(alikeLoaded.trans alikeStarted).tree]
      exact .failed failure
    | ok interpreter =>
      obtain ⟨outcome, decided, deciding, kept, left⟩ := decideNumpy_performed interpreter
        (arguments.includeNumpy || config.includeNumpy) arguments.accept host started
      have alike := alikeLoaded.trans alikeStarted
      have unchanged : decided.tree = session.tree := kept.trans alike.tree
      rw [alike.tree, alike.input] at left
      simp only [deciding]
      cases outcome with
      | error failure =>
        simp only
        rw [unchanged]
        exact .failed failure
      | ok includeNumpy =>
        have ends := compileWith_ends { config, layout := Layout.of host.directory config } files
          arguments interpreter includeNumpy host decided
        rw [unchanged, left 0, Nat.zero_add] at ends
        exact ends.weaken fun empty => ⟨config, rfl, empty⟩

/-- A build goes on from the end of its compile run. -/
theorem build_performed (globals : Globals) (files : List Text) (arguments : BuildArguments)
    (host : Host) (session : Session) :
    match (compileRequest globals files arguments).perform host session with
    | (.error failure, after) =>
      (runRequest globals (.build files arguments)).perform host session = (.error failure, after)
    | (.ok none, after) =>
      (runRequest globals (.build files arguments)).perform host session = (.ok (), after)
    | (.ok (some compiled), after) => ∃ workplace,
      (runRequest globals (.build files arguments)).perform host session =
        (finish workplace arguments (some compiled)).perform host after := by
  simp only [runRequest, runTask, compileRequest, runBuild_eq, perform_bind]
  rcases (Workplace.load (globals.config?.map FilePath.mk) globals.norc).perform host session with
    ⟨failure | workplace, loaded⟩
  · rfl
  · simp only
    rcases (compile workplace files arguments).perform host loaded with
      ⟨failure | _ | compiled, after⟩
    · rfl
    · rfl
    · exact ⟨workplace, rfl⟩

/-- After a compile run that did not succeed nothing is changed. -/
theorem finish_failed (workplace : Workplace) (arguments : BuildArguments)
    (sources : List FilePath) {result : Build.Result} {error : BuildError}
    (failed : result.error? = some error) (host : Host) (session : Session) :
    ∃ after, (finish workplace arguments (some (sources, result))).perform host session =
      (.error (.buildFailed error), after) ∧ after.tree = session.tree := by
  simp only [finish, failed]
  cases arguments.verbose with
  | true => exact ⟨session, rfl, rfl⟩
  | false =>
    obtain ⟨after, alike, followed⟩ := (talks_complain (String.ofList result.output)).followed
      (throw (.buildFailed error) : Action Unit) host session
    exact ⟨after, followed, alike.tree⟩

/-- Listing sources only talks. -/
theorem quiet_runList (workplace : Workplace) (files : List Text) (json : Bool) :
    Quiet (runList workplace files json) := by
  refine (observes_sources workplace files).quiet.bind fun sources => ?_
  have shows : Talks (workplace.show sources) := talks_forM fun _ _ => talks_printLine _
  have listing : Quiet (if sources = [] then printLine "No pyx files found"
      else do
        printLine "Found files:"
        workplace.show sources) := by
    split
    · exact (talks_printLine _).quiet
    · exact (talks_printLine _).quiet.bind fun _ => shows.quiet
  split
  · exact (talks_printLine _).quiet
  · dsimp only
    split
    · exact (talks_printLine _).quiet.bind fun _ => listing
    · exact (talks_printLine _).quiet.bind fun _ => listing

/-- The surroundings in which a command line is carried out. -/
def runHost (globals : Globals) (host : Host) : Host :=
  { host with debug := globals.debug || debugRequested host }

/-- Whether reports are asked for does not change which line consents to a build. -/
theorem consentLine_runHost (globals : Globals) (arguments : BuildArguments) (host : Host)
    (tree : FileTree) :
    consentLine globals arguments (runHost globals host) tree =
      consentLine globals arguments host tree := rfl

/-- A command line that is read is carried out by its task. A failure is reported and gives the
exit code one. -/
theorem run_eq {arguments : List Text} {globals : Globals} {task : Task}
    (reads : readArguments arguments = .ok (globals, task)) (host : Host) (session : Session) :
    run host arguments session =
      match (runRequest globals task).perform (runHost globals host) session with
      | (.ok (), after) => (0, after)
      | (.error failure, after) => (1, { after with err := after.err ++ failureText failure }) := by
  simp only [run, reads]
  rfl

/-- Reporting a failure leaves the tree to what the command did. -/
theorem run_tree {arguments : List Text} {globals : Globals} {task : Task}
    (reads : readArguments arguments = .ok (globals, task)) (host : Host) (session : Session) :
    (run host arguments session).2.tree =
      ((runRequest globals task).perform (runHost globals host) session).2.tree := by
  rw [run_eq reads]
  rcases (runRequest globals task).perform (runHost globals host) session with ⟨_ | _, after⟩ <;> rfl

/-- A command that asks for consent keeps the tree, unless consent was given before or by the
first line of standard input. -/
theorem consented_request_keeps (globals : Globals) (files : List Text) (action : String)
    (accept : Bool) (announcement : List FilePath → String)
    (act : Workplace → List FilePath → Action Unit) (host : Host) (session : Session) :
    ((do
      let workplace ← Workplace.load (globals.config?.map FilePath.mk) globals.norc
      consented workplace files action accept announcement (act workplace)).perform host
        session).2.tree = session.tree ∨ accept ∨ agrees session.input 0 := by
  cases accept with
  | true => exact .inr (.inl rfl)
  | false =>
    cases declined : agrees session.input 0 with
    | true => exact .inr (.inr rfl)
    | false =>
      left
      obtain ⟨loaded, loading, alike⟩ := observes_workplace globals host session
      simp only [perform_bind, loading]
      cases workplaceOf globals host session.tree with
      | error failure => exact alike.tree
      | ok workplace =>
        rw [← alike.input] at declined
        exact (consented_keeps workplace files action announcement (act workplace) host
          declined).trans alike.tree

/-- Nothing is touched without consent, and nothing is tidied after a failed compile run.
Listing sources changes no file. Cleaning up, writing stubs and building change files only if
consent was given on the command line or by the line that answers the last question. A build
that fails before its compile run, or stops because no source was found or the user declined,
changes no file; one whose compile run did not succeed has changed files by that run alone. -/
theorem nothing_without_consent (host : Host) (session : Session) {arguments : List Text}
    {globals : Globals} {task : Task} :
    readArguments arguments = .ok (globals, task) →
    match task with
    | .init | .completion _ => True
    | .list _ _ => (run host arguments session).2.tree = session.tree
    | .clean _ _ accept | .interface _ accept =>
      (run host arguments session).2.tree = session.tree ∨ accept ∨ agrees session.input 0
    | .build files options =>
      ((run host arguments session).2.tree = session.tree ∨ options.accept ∨
        agrees session.input (consentLine globals options host session.tree)) ∧
      match (compileRequest globals files options).perform (runHost globals host) session with
      | (.error _, _) =>
        (run host arguments session).1 = 1 ∧ (run host arguments session).2.tree = session.tree
      | (.ok none, _) =>
        (run host arguments session).1 = 0 ∧ (run host arguments session).2.tree = session.tree ∧
          ((∃ config, configured globals host session.tree = .ok config ∧
            NoSource host.directory files config.exclude host session.tree) ∨
          options.accept = false ∧
            agrees session.input (consentLine globals options host session.tree) = false)
      | (.ok (some (_, result)), compiled) => result.error? ≠ none →
        (run host arguments session).1 = 1 ∧
          (run host arguments session).2.tree = compiled.tree ∧
          ∃ interpreter, Build.CompileRun (runHost globals host) host.directory interpreter
            session.tree result.error? compiled.tree := by
  intro reads
  cases task with
  | init => trivial
  | completion shell => trivial
  | list files json =>
    rw [run_tree reads]
    exact ((observes_workplace globals).quiet.bind fun workplace =>
      quiet_runList workplace files json) (runHost globals host) session |>.tree
  | clean files keepCFiles accept =>
    rw [run_tree reads]
    simp only [runRequest, runTask, runClean_eq]
    exact consented_request_keeps globals files "clean" accept _ _ (runHost globals host) session
  | interface files accept =>
    rw [run_tree reads]
    simp only [runRequest, runTask, runInterface_eq]
    exact consented_request_keeps globals files "generate interfaces for" accept _ _
      (runHost globals host) session
  | build files options =>
    have ends := compileRequest_ends globals files options (runHost globals host) session
    have goesOn := build_performed globals files options (runHost globals host) session
    rw [consentLine_runHost] at ends
    dsimp only
    rw [run_eq reads]
    rcases performed : (compileRequest globals files options).perform (runHost globals host) session
      with ⟨failure | _ | ⟨sources, result⟩, compiled⟩
    · rw [performed] at ends goesOn
      rw [goesOn]
      exact ⟨.inl ends.of_failed, rfl, ends.of_failed⟩
    · rw [performed] at ends goesOn
      rw [goesOn]
      obtain ⟨kept, reason⟩ := ends.of_stopped
      exact ⟨.inl kept, rfl, kept, reason⟩
    · rw [performed] at ends goesOn
      obtain ⟨consent, run⟩ := ends.of_ended
      obtain ⟨workplace, finished⟩ := goesOn
      refine ⟨.inr consent, fun failed => ?_⟩
      obtain ⟨error, because⟩ := Option.ne_none_iff_exists'.mp failed
      obtain ⟨after, stopped, kept⟩ :=
        finish_failed workplace options sources because (runHost globals host) compiled
      rw [finished, stopped]
      exact ⟨rfl, kept, run⟩

/-- A project whose interpreter knows numpy, and a user who wants numpy and then declines. -/
def declinedProject : Session where
  tree :=
    (((FileTree.empty.put ["w".toList] .directory).put
      ["w".toList, "a.pyx".toList] (.file (encodeText "def f(x):\n"))).put
      ["b".toList] .directory).put
      ["b".toList, "python3".toList]
      (.program { numpy? := some "/n", creates := [("/w/a.so", encodeText "x")] })
  input := "y\nno\n"

/-- The surroundings of that project. -/
def declinedHost : Host :=
  { directory := "/w", environment := [("PATH", "/b")], nonce := "x1" }

/-- A command line without global arguments. -/
def noGlobals : Globals := { debug := false, backtrace := false, norc := false, config? := none }

/-- The first answer is a yes, but to the question about numpy. The build is declined by the
second answer, so nothing is changed. -/
theorem build_declined_after_numpy :
    readArguments ["build"] = .ok (noGlobals, .build [] {}) ∧
      agrees declinedProject.input 0 ∧
      (run declinedHost ["build"] declinedProject).2.tree = declinedProject.tree := by
  have reads : readArguments ["build"] = .ok (noGlobals, .build [] {}) := by decide
  have second : consentLine noGlobals {} declinedHost declinedProject.tree = 1 := by decide +kernel
  have declined : agrees declinedProject.input 1 = false := by decide +kernel
  obtain ⟨kept | accepted | agreed, -⟩ :=
    nothing_without_consent declinedHost declinedProject reads
  · exact ⟨reads, by decide +kernel, kept⟩
  · exact nomatch accepted
  · rw [second, declined] at agreed
    exact nomatch agreed

end PyxProject.Command
