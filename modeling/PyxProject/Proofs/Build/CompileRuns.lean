import PyxProject.Build.Run
import PyxProject.Proofs.Project.Actions

/-!
# What a compile run leaves behind

The tree is changed by the program that an interpreter is, and by nothing else. A build that
fails before the program is started leaves the tree as it was (`build_ends`). Asking an
interpreter for numpy only observes (`observes_hasNumpy`).
-/

namespace PyxProject.Build

open Files Project

/-- Choosing an interpreter looks it up in the tree and says which one was found. -/
theorem observes_chooseInterpreter (configured? : Option Text) :
    Observes (chooseInterpreter configured?) fun host tree =>
      findInterpreter tree host configured? := by
  intro host session
  simp only [chooseInterpreter, perform_bind, perform_get, perform_read]
  cases findInterpreter session.tree host configured? with
  | error failure => exact ⟨session, rfl, .refl session⟩
  | ok path => exact ((observes_pure path).after (talks_report _)) host session

/-- What an interpreter says about the headers of numpy. -/
def numpyAnswer (interpreter : FilePath) (host : Host) (tree : FileTree) :
    Except Failure FilePath :=
  match startProgram tree host host.directory interpreter with
  | .error fault => .error (.interpreterNotStarted fault)
  | .ok program =>
    match program.numpy? with
    | none => .error (.numpyMissing interpreter)
    | some printed => if Text.trim printed = [] then .error .numpyNowhere else .ok ⟨Text.trim printed⟩

/-- Asking an interpreter for the headers of numpy observes its answer; the question is recorded.
-/
theorem observes_numpyDirectory (interpreter : FilePath) :
    Observes (numpyDirectory interpreter) (numpyAnswer interpreter) := by
  intro host session
  simp only [numpyDirectory, numpyAnswer, perform_bind, perform_get, perform_read]
  cases startProgram session.tree host host.directory interpreter with
  | error fault => exact ⟨session, rfl, .refl session⟩
  | ok program =>
    obtain ⟨recorded, recording, alike⟩ :=
      talks_recordLines ["PROBE " ++ numpyProbe] host session
    simp only [perform_bind, recording]
    cases program.numpy? with
    | none => exact ⟨recorded, rfl, alike⟩
    | some printed =>
      by_cases blank : Text.trim printed = []
      · simp only [blank, if_true]
        exact ⟨recorded, rfl, alike⟩
      · simp only [blank, if_false]
        exact ⟨recorded, rfl, alike⟩

/-- Whether an interpreter says where the headers of numpy are. -/
def knowsNumpy (tree : FileTree) (host : Host) (interpreter : FilePath) : Bool :=
  (numpyAnswer interpreter host tree).isOk

/-- Whether there is numpy is observed: an interpreter that gives no answer is taken to have none.
-/
theorem observes_hasNumpy (interpreter : FilePath) :
    Observes (hasNumpy interpreter) fun host tree => .ok (knowsNumpy tree host interpreter) := by
  intro host session
  have observes := ((observes_numpyDirectory interpreter).bind fun _ => observes_pure true).tryCatch
    fun _ => observes_pure false
  obtain ⟨after, performed, alike⟩ := observes host session
  refine ⟨after, performed.trans ?_, alike⟩
  simp only [knowsNumpy]
  cases numpyAnswer interpreter host session.tree <;> rfl

/-- The end of a compile run: why it did not succeed, if it did not, and the tree that it
leaves. -/
inductive CompileRun (host : Host) (root interpreter : FilePath) (tree : FileTree) :
    Option BuildError → FileTree → Prop
  | notStarted {fault : Fault} (failed : startIn tree host root interpreter = .error fault) :
    CompileRun host root interpreter tree (some (.notStarted interpreter fault)) tree
  | ran {location : Location} {program : Program}
    (started : startIn tree host root interpreter = .ok (location, program)) :
    CompileRun host root interpreter tree (endOf program) (applyProgram program tree)

/-- A script never fails; its run is the compile run. -/
theorem runScript_ends (interpreter root : FilePath) (script : Text) (verbose : Bool) (host : Host)
    (tree : FileTree) :
    Ends (runScript interpreter root script verbose) host tree fun outcome after =>
      ∃ error? output seconds, outcome = .ok (error?, output, seconds) ∧
        CompileRun host root interpreter tree error? after := by
  unfold runScript
  refine ends_read ?_
  refine Talks.ends_bind (talks_forM fun _ _ => talks_report _) fun session unchanged => ?_
  simp only [perform_bind, perform_get, unchanged]
  cases started : startIn tree host root interpreter with
  | error fault => exact ⟨_, _, _, rfl, unchanged.symm ▸ .notStarted started⟩
  | ok place =>
    obtain ⟨location, program⟩ := place
    obtain ⟨recorded, recording, alike⟩ :=
      talks_recordLines (runRecord host location script) host session
    simp only [perform_bind, recording, perform_modify, alike.tree, unchanged]
    have run : CompileRun host root interpreter tree (endOf program) (applyProgram program tree) :=
      .ran started
    cases verbose with
    | false => exact ⟨_, _, _, rfl, run⟩
    | true => exact ⟨_, _, _, rfl, run⟩

/-- How a build may end: it fails and leaves the tree alone, or its compile run ends. -/
def BuildEnd (host : Host) (root interpreter : FilePath) (tree : FileTree) :
    Except Failure Result → FileTree → Prop
  | .error _, after => after = tree
  | .ok result, after => CompileRun host root interpreter tree result.error? after

/-- Handing on what was computed, a value or a failure, changes nothing. -/
theorem quiet_liftExcept {α : Type} (computed : Except Failure α) :
    Quiet (build.liftExcept computed) := by
  cases computed with
  | ok value => exact (observes_pure value).quiet
  | error failure => exact (observes_throw failure).quiet

/-- Whether the directory for the script can be made is only asked: the tree is left as it was. -/
theorem quiet_checkScriptDirectory : Quiet build.checkScriptDirectory := by
  intro host session
  simp only [build.checkScriptDirectory, perform_bind, perform_read, perform_inspect]
  cases makeDirectory session.tree host.directory (scriptDirectory host) with
  | ok made => exact .refl session
  | error fault => exact .refl session

/-- The last part of a build: the script is written and run. -/
theorem script_ends (interpreter root : FilePath) (present skipped : List FilePath)
    (options : Options) (includeDirs : List FilePath) (host : Host) (tree : FileTree) :
    Ends (do
        let extensions ← present.mapM fun source => build.liftExcept (extensionOf root source)
        let script := scriptText extensions includeDirs options.annotate
        build.checkScriptDirectory
        if options.verbose then
          printLine (s!"Building {extensions.length} extension(s) in " ++ root.toString)
          printLine ("  Running: " ++ interpreter.toString ++ " " ++
            (scriptPath (← read)).toString ++ " " ++ String.ofList scriptArguments)
        let (error?, output, seconds) ← runScript interpreter root script options.verbose
        return { modules := extensions.map Extension.name, skipped, error?, output, seconds })
      host tree (BuildEnd host root interpreter tree) := by
  refine (quiet_mapM fun source _ => quiet_liftExcept _).ends_bind (fun _ => rfl) fun extensions => ?_
  refine quiet_checkScriptDirectory.ends_bind (fun _ => rfl) fun _ => ?_
  have runs : ∀ script, Ends (do
      let (error?, output, seconds) ← runScript interpreter root script options.verbose
      return { modules := extensions.map Extension.name, skipped, error?, output, seconds })
      host tree (BuildEnd host root interpreter tree) := by
    intro script
    refine Ends.map fun session same => ?_
    obtain ⟨error?, output, seconds, outcome, run⟩ :=
      runScript_ends interpreter root script options.verbose host tree session same
    rw [outcome]
    exact run
  split
  · refine (talks_printLine _).quiet.ends_bind (fun _ => rfl) fun _ => ?_
    refine Quiet.ends_bind (fun _ session => .refl session) (fun _ => rfl) fun _ => ?_
    exact (talks_printLine _).quiet.ends_bind (fun _ => rfl) fun _ => runs _
  · exact runs _

/-- A build fails before its compile run, or ends with it. -/
theorem build_ends (interpreter root : FilePath) (sources : List FilePath) (options : Options)
    (host : Host) (tree : FileTree) :
    Ends (build interpreter root sources options) host tree
      (BuildEnd host root interpreter tree) := by
  rw [build]
  refine (observes_inspect _).quiet.ends_bind (fun _ => rfl) fun ⟨present, skipped⟩ => ?_
  refine (talks_forM fun _ _ => talks_printLine _).quiet.ends_bind (fun _ => rfl) fun _ => ?_
  dsimp only
  split
  · refine ends_throw ?_
    rfl
  split
  · have quiet : Quiet (tryCatch (do return [← numpyDirectory interpreter])
        fun cause => throw (.numpyRequired cause)) :=
      (((observes_numpyDirectory interpreter).bind fun path => observes_pure [path]).tryCatch
        fun cause => observes_throw _).quiet
    exact quiet.ends_bind (fun _ => rfl) fun includeDirs =>
      script_ends interpreter root present skipped options includeDirs host tree
  · exact (observes_pure []).quiet.ends_bind (fun _ => rfl) fun includeDirs =>
      script_ends interpreter root present skipped options includeDirs host tree

end PyxProject.Build
