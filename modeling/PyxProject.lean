import PyxProject.Main
import PyxProject.Proofs.Stub.Blocks
import PyxProject.Proofs.Stub.FixedPoint
import PyxProject.Proofs.Stub.Noninterference
import PyxProject.Proofs.Stub.ClassBodies
import PyxProject.Proofs.Source.Squeezed
import PyxProject.Proofs.Source.Layout
import PyxProject.Proofs.Stub.Layout
import PyxProject.Proofs.Text.Rewording
import PyxProject.Proofs.Source.Literals
import PyxProject.Proofs.Text.Groups
import PyxProject.Proofs.Text.TopLevel
import PyxProject.Proofs.Text.Matching
import PyxProject.Proofs.Stub.Signatures
import PyxProject.Proofs.Stub.HalfLines
import PyxProject.Proofs.Source.Widths
import PyxProject.Proofs.Stub.Widths
import PyxProject.Proofs.Stub.LineEnds
import PyxProject.Proofs.Stub.Arguments
import PyxProject.Proofs.Stub.NativeHeaders
import PyxProject.Proofs.Stub.Arity
import PyxProject.Proofs.Stub.FunctionFiles
import PyxProject.Proofs.Stub.KnownTypes
import PyxProject.Proofs.Source.Numbers
import PyxProject.Proofs.Stub.Refusals
import PyxProject.Proofs.Stub.Directives
import PyxProject.Proofs.Stub.ClassHeaders
import PyxProject.Proofs.Stub.BlockLines
import PyxProject.Proofs.Files.Walks
import PyxProject.Proofs.Files.Trees
import PyxProject.Proofs.Files.AbsolutePaths
import PyxProject.Proofs.Project.Actions
import PyxProject.Proofs.Project.StubFiles
import PyxProject.Proofs.Files.Reached
import PyxProject.Proofs.Files.JoinedPaths
import PyxProject.Proofs.Files.PathOrder
import PyxProject.Proofs.Files.PathNames
import PyxProject.Proofs.Files.LinkFree
import PyxProject.Proofs.Files.Changes
import PyxProject.Proofs.Project.Visits
import PyxProject.Proofs.Project.Discovery
import PyxProject.Proofs.Project.FoundSources
import PyxProject.Proofs.Project.SourcePlaces
import PyxProject.Proofs.Project.Successes
import PyxProject.Proofs.Project.Deeds
import PyxProject.Proofs.Project.DeedPlaces
import PyxProject.Proofs.Project.DeedKinds
import PyxProject.Proofs.Project.Cleanups
import PyxProject.Proofs.Project.CollectedReports
import PyxProject.Proofs.Project.DeliveredModules
import PyxProject.Proofs.Project.TidiedProjects
import PyxProject.Proofs.Project.StubPlans
import PyxProject.Proofs.Project.Schedules
import PyxProject.Proofs.Build.CompileRuns
import PyxProject.Proofs.Text.QuotedLiterals
import PyxProject.Proofs.Build.ScriptReading
import PyxProject.Proofs.Command.Answers
import PyxProject.Proofs.Command.Consent
import PyxProject.Proofs.Text.CodePlaces
import PyxProject.Proofs.Text.Cuts
import PyxProject.Proofs.Source.CodeOffsets
import PyxProject.Proofs.Source.NormalSpacing
import PyxProject.Proofs.Files.StandingDirectories
import PyxProject.Proofs.Project.KeptDirectories
import PyxProject.Proofs.Project.SettledDeeds
import PyxProject.Proofs.Project.IdleCleanups
import PyxProject.Proofs.Project.RepeatedCleanups
import PyxProject.Proofs.Source.Rereading
import PyxProject.Proofs.Text.LetterCase
import PyxProject.Proofs.Stub.Respelling
