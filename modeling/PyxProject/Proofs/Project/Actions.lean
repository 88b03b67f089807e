import PyxProject.Project.Session

/-!
# What actions do to a session

An action is described by what it gives and what it leaves behind (`perform_bind` and its
companions). Most of a run only looks around and talks: such an action observes an answer
of the surroundings and the tree (`Observes`), and leaves the tree and standard input as
they were.
-/

namespace PyxProject.Project

open Files

variable {α β : Type} {host : Host} {session : Session}

/-- A value is given without a run. -/
@[simp]
theorem perform_pure (value : α) :
    (pure value : Action α).perform host session = (.ok value, session) := rfl

/-- The surroundings are read and stay. -/
@[simp]
theorem perform_read : (read : Action Host).perform host session = (.ok host, session) := rfl

/-- The session is read and stays. -/
@[simp]
theorem perform_get : (get : Action Session).perform host session = (.ok session, session) := rfl

/-- A change of the session is made and gives nothing. -/
@[simp]
theorem perform_modify (update : Session → Session) :
    (modify update : Action Unit).perform host session = (.ok (), update session) := rfl

/-- A question about the tree is answered from the current directory and changes nothing. -/
@[simp]
theorem perform_inspect (query : FileTree → FilePath → α) :
    (inspect query).perform host session = (.ok (query session.tree host.directory), session) := rfl

/-- A failure ends a run; a value is handed on. -/
theorem perform_bind (action : Action α) (next : α → Action β) :
    (action >>= next).perform host session =
      match action.perform host session with
      | (.ok value, after) => (next value).perform host after
      | (.error failure, after) => (.error failure, after) := by
  simp only [Action.perform, ReaderT.run_bind, ExceptT.run_bind, StateT.run_bind]
  rcases StateT.run (ReaderT.run action host).run session with ⟨failure | value, after⟩ <;> rfl

/-- The run goes on from the session in which the failure happened. -/
theorem perform_tryCatch (action : Action α) (recover : Failure → Action α) :
    (tryCatch action recover).perform host session =
      match action.perform host session with
      | (.ok value, after) => (.ok value, after)
      | (.error failure, after) => (recover failure).perform host after := by
  simp only [Action.perform, tryCatch, tryCatchThe, MonadExceptOf.tryCatch, ReaderT.run,
    ExceptT.run, StateT.run, ExceptT.tryCatch, ExceptT.mk, bind, StateT.bind]
  rcases action host session with ⟨failure | value, after⟩ <;> rfl

/-- Two sessions with the same files and the same rest of standard input. -/
structure Session.Alike (session after : Session) : Prop where
  tree : after.tree = session.tree
  input : after.input = session.input

/-- A session is like itself. -/
@[refl]
theorem Session.Alike.refl (session : Session) : session.Alike session := ⟨rfl, rfl⟩

/-- What is like the first of two sessions that are alike is like the second. -/
theorem Session.Alike.trans {first second third : Session} (start : first.Alike second)
    (rest : second.Alike third) : first.Alike third :=
  ⟨rest.tree.trans start.tree, rest.input.trans start.input⟩

/-- An action whose outcome is an answer that its surroundings and the tree determine, and
which changes neither files nor standard input. -/
def Observes (action : Action α) (answer : Host → FileTree → Except Failure α) : Prop :=
  ∀ host session, ∃ after, action.perform host session = (answer host session.tree, after) ∧
    session.Alike after

/-- A value is the answer whatever the tree is. -/
theorem observes_pure (value : α) : Observes (pure value) fun _ _ => .ok value :=
  fun _ session => ⟨session, rfl, .refl session⟩

/-- So is a failure. -/
theorem observes_throw (failure : Failure) :
    Observes (throw failure : Action α) fun _ _ => .error failure :=
  fun _ session => ⟨session, rfl, .refl session⟩

/-- A question about the tree observes its answer. -/
theorem observes_inspect (query : FileTree → FilePath → α) :
    Observes (inspect query) fun host tree => .ok (query tree host.directory) :=
  fun _ session => ⟨session, rfl, .refl session⟩

/-- What was observed is handed on, and the tree is still the same. -/
theorem Observes.bind {action : Action α} {next : α → Action β}
    {answer : Host → FileTree → Except Failure α} {rest : α → Host → FileTree → Except Failure β}
    (first : Observes action answer) (second : ∀ value, Observes (next value) (rest value)) :
    Observes (action >>= next) fun host tree => answer host tree >>= fun value =>
      rest value host tree := by
  intro host session
  obtain ⟨middle, performed, alike⟩ := first host session
  simp only [perform_bind, performed]
  cases answer host session.tree with
  | error failure => exact ⟨middle, rfl, alike⟩
  | ok value =>
    obtain ⟨after, continued, alikeAfter⟩ := second value host middle
    rw [alike.tree] at continued
    exact ⟨after, continued, alike.trans alikeAfter⟩

/-- An action that writes to the outputs and does nothing else. -/
def Talks (action : Action Unit) : Prop := Observes action fun _ _ => .ok ()

/-- A change of the session that leaves files and input alone is talk. -/
theorem talks_modify {update : Session → Session}
    (keeps : ∀ session : Session, session.Alike (update session)) : Talks (modify update) :=
  fun _ session => ⟨update session, rfl, keeps session⟩

/-- What is printed goes to the output. -/
theorem talks_print (text : String) : Talks (print text) := talks_modify fun _ => ⟨rfl, rfl⟩

/-- So does a printed line. -/
theorem talks_printLine (text : String) : Talks (printLine text) := talks_print _

/-- A complaint goes to the error output. -/
theorem talks_complain (text : String) : Talks (complain text) := talks_modify fun _ => ⟨rfl, rfl⟩

/-- So does a line of complaint. -/
theorem talks_complainLine (text : String) : Talks (complainLine text) := talks_complain _

/-- What is recorded goes to the record. -/
theorem talks_recordLines (entries : List Text) : Talks (recordLines entries) :=
  talks_modify fun _ => ⟨rfl, rfl⟩

/-- After talk the run goes on with the same files and input. -/
theorem Talks.followed {action : Action Unit} (talks : Talks action) (next : Action β)
    (host : Host) (session : Session) :
    ∃ middle, session.Alike middle ∧
      (action >>= fun _ => next).perform host session = next.perform host middle := by
  obtain ⟨middle, performed, alike⟩ := talks host session
  exact ⟨middle, alike, by simp only [perform_bind, performed]⟩

/-- Talk does not change what is observed after it. -/
theorem Observes.after {action : Action Unit} {next : Action β}
    {answer : Host → FileTree → Except Failure β} (observes : Observes next answer)
    (talks : Talks action) : Observes (action >>= fun _ => next) answer := by
  intro host session
  obtain ⟨middle, alike, followed⟩ := talks.followed next host session
  obtain ⟨after, performed, alikeAfter⟩ := observes host middle
  exact ⟨after, by rw [followed, performed, alike.tree], alike.trans alikeAfter⟩

/-- A report is talk, or nothing at all unless debugging is on. -/
theorem talks_report (text : String) : Talks (report text) := by
  intro host session
  simp only [report, perform_bind, perform_read]
  cases host.debug with
  | false => exact ⟨session, rfl, .refl session⟩
  | true => exact talks_complainLine _ host session

/-- Talk about each of several items is talk. -/
theorem talks_forM {items : List α} {action : α → Action Unit}
    (talks : ∀ item ∈ items, Talks (action item)) : Talks (items.forM action) := by
  induction items with
  | nil => exact observes_pure ()
  | cons item items inductionHypothesis =>
    have rest : Talks (items.forM action) :=
      inductionHypothesis fun other member => talks other (List.mem_cons_of_mem item member)
    exact rest.after (talks item List.mem_cons_self)

/-- What is observed of a failure is observed in the same tree. -/
theorem Observes.tryCatch {action : Action α} {recover : Failure → Action α}
    {answer : Host → FileTree → Except Failure α}
    {rescue : Failure → Host → FileTree → Except Failure α} (observes : Observes action answer)
    (recovers : ∀ failure, Observes (recover failure) (rescue failure)) :
    Observes (MonadExcept.tryCatch action recover) fun host tree =>
      match answer host tree with
      | .ok value => .ok value
      | .error failure => rescue failure host tree := by
  intro host session
  obtain ⟨middle, performed, alike⟩ := observes host session
  simp only [perform_tryCatch, performed]
  cases answer host session.tree with
  | ok value => exact ⟨middle, rfl, alike⟩
  | error failure =>
    obtain ⟨after, recovered, alikeAfter⟩ := recovers failure host middle
    rw [alike.tree] at recovered
    exact ⟨after, recovered, alike.trans alikeAfter⟩

/-- An action that changes neither files nor standard input, whatever its outcome. -/
def Quiet (action : Action α) : Prop :=
  ∀ (host : Host) (session : Session), session.Alike (action.perform host session).2

/-- What only observes is quiet. -/
theorem Observes.quiet {action : Action α} {answer : Host → FileTree → Except Failure α}
    (observes : Observes action answer) : Quiet action := by
  intro host session
  obtain ⟨after, performed, alike⟩ := observes host session
  rw [performed]
  exact alike

/-- Quiet actions, one after the other, are quiet. -/
theorem Quiet.bind {action : Action α} {next : α → Action β} (quiet : Quiet action)
    (quietNext : ∀ value, Quiet (next value)) : Quiet (action >>= next) := by
  intro host session
  have first := quiet host session
  rw [perform_bind]
  split
  · next value middle performed =>
    rw [performed] at first
    exact first.trans (quietNext value host middle)
  · next failure middle performed =>
    rw [performed] at first
    exact first

/-- A quiet action for each of several items is quiet. -/
theorem quiet_mapM {items : List α} {action : α → Action β}
    (quiet : ∀ item ∈ items, Quiet (action item)) : Quiet (items.mapM action) := by
  induction items with
  | nil => exact (observes_pure []).quiet
  | cons item items inductionHypothesis =>
    rw [List.mapM_cons]
    refine (quiet item List.mem_cons_self).bind fun value => Quiet.bind ?_ fun values =>
      (observes_pure _).quiet
    exact inductionHypothesis fun other member => quiet other (List.mem_cons_of_mem item member)

/-- How an action that starts with a tree may end: with which outcome, and in which tree. -/
def Ends (action : Action α) (host : Host) (tree : FileTree)
    (post : Except Failure α → FileTree → Prop) : Prop :=
  ∀ session : Session, session.tree = tree →
    post (action.perform host session).1 (action.perform host session).2.tree

/-- A quiet action hands its tree on, unless it fails. -/
theorem Quiet.ends_bind {action : Action α} {next : α → Action β} {host : Host} {tree : FileTree}
    {post : Except Failure β → FileTree → Prop} (quiet : Quiet action)
    (fails : ∀ failure, post (.error failure) tree)
    (rest : ∀ value, Ends (next value) host tree post) : Ends (action >>= next) host tree post := by
  intro session same
  have first := quiet host session
  rw [perform_bind]
  cases performed : action.perform host session with
  | mk outcome middle =>
    rw [performed] at first
    have unchanged : middle.tree = tree := first.tree.trans same
    cases outcome with
    | ok value => exact rest value middle unchanged
    | error failure => exact unchanged.symm ▸ fails failure

/-- Talk does not fail. -/
theorem Talks.ends_bind {action : Action Unit} {next : Unit → Action β} {host : Host}
    {tree : FileTree} {post : Except Failure β → FileTree → Prop} (talks : Talks action)
    (rest : Ends (next ()) host tree post) : Ends (action >>= next) host tree post := by
  intro session same
  obtain ⟨middle, performed, alike⟩ := talks host session
  simp only [perform_bind, performed]
  exact rest middle (alike.tree.trans same)

/-- The surroundings are known. -/
theorem ends_read {next : Host → Action β} {host : Host} {tree : FileTree}
    {post : Except Failure β → FileTree → Prop} (rest : Ends (next host) host tree post) :
    Ends (read >>= next) host tree post := by
  intro session same
  rw [perform_bind, perform_read]
  exact rest session same

/-- After a failure nothing is done. -/
theorem ends_throw {failure : Failure} {next : α → Action β} {host : Host} {tree : FileTree}
    {post : Except Failure β → FileTree → Prop} (fails : post (.error failure) tree) :
    Ends (throw failure >>= next) host tree post := by
  rintro session rfl
  exact fails

/-- Naming a value differently does not change how an action ends. -/
theorem Ends.map {action : Action α} {host : Host} {tree : FileTree}
    {post : Except Failure β → FileTree → Prop} {shown : α → β}
    (ends : Ends action host tree fun outcome after => post (outcome.map shown) after) :
    Ends (action >>= fun value => pure (shown value)) host tree post := by
  intro session same
  have ended := ends session same
  rw [perform_bind]
  rcases performed : action.perform host session with ⟨failure | value, after⟩
  · rw [performed] at ended
    exact ended
  · rw [performed] at ended
    exact ended

end PyxProject.Project
