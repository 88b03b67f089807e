import PyxProject.Source.LineRole

/-!
# Open scopes

Reading a file from top to bottom, the definitions whose bodies have not ended form
a stack. A line closes every scope that it is not nested in, sees the innermost
scope that is left, and then opens a scope of its own if it is a definition of a
class or a function.
-/

namespace PyxProject.Source

/-- What a scope is the body of. -/
inductive Body where
  | ofClass
  | ofFunction
deriving DecidableEq, Repr

/-- An open scope and the level of the line that opened it. -/
structure Scope where
  body : Body
  level : Nat
deriving DecidableEq, Repr

/-- The open scopes, innermost first. -/
abbrev Scopes := List Scope

/-- Whether a line stands in the body of a class or of a function. -/
structure Placement where
  inClass : Bool
  inFunction : Bool
deriving DecidableEq, Repr

/-- The body that a line opens, if it opens one. -/
def LineRole.opens? : LineRole → Option Body
  | .classHeader | .enumHeader => some .ofClass
  | .functionHeader _ => some .ofFunction
  | _ => none

/-- Close every scope that a line at the given level is not nested in. -/
def Scopes.close (scopes : Scopes) (level : Nat) : Scopes :=
  scopes.dropWhile fun scope => level ≤ scope.level

/-- Open the scope of a line, if it has one. -/
def Scopes.enter (scopes : Scopes) (role : LineRole) (level : Nat) : Scopes :=
  match role.opens? with
  | some scope => ⟨scope, level⟩ :: scopes
  | none => scopes

/-- The placement of a line by the innermost scope. Only a line exactly one level
below the header of a class stands in its body. -/
def Scopes.placement (scopes : Scopes) (level : Nat) : Placement :=
  match scopes.head? with
  | none => ⟨false, false⟩
  | some scope =>
    { inClass := scope.body == .ofClass && level == scope.level + 1
      inFunction := scope.body == .ofFunction }

/-- Pass over one line: the scopes for the next line and the placement of this one. -/
def Scopes.pass (scopes : Scopes) (role : LineRole) (level : Nat) : Scopes × Placement :=
  let kept := scopes.close level
  (kept.enter role level, kept.placement level)

end PyxProject.Source
