import TwinTree.Main
import TwinTree.Path.Lemmas
import TwinTree.Text.Utf8.Lemmas
import TwinTree.Proofs.Text.Replacement
import TwinTree.Proofs.Text.WholeWord
import TwinTree.Proofs.Stripping
import TwinTree.Proofs.Path.Route
import TwinTree.Proofs.Path.Shortening
import TwinTree.Proofs.FileSystem.Order
import TwinTree.Proofs.FileSystem.Prospect
import TwinTree.Proofs.FileSystem.Evolution
import TwinTree.Proofs.FileSystem.Creation
import TwinTree.Proofs.FileSystem.Writing
import TwinTree.Proofs.Destination.Safety
import TwinTree.Proofs.Destination.Overlap
import TwinTree.Proofs.Placement
import TwinTree.Proofs.Pass.Reasoning
import TwinTree.Proofs.Pass.Soundness
import TwinTree.Proofs.Pass.Listing
import TwinTree.Proofs.Pass.Handling
import TwinTree.Proofs.Containment
import TwinTree.Proofs.Pass.Stability
import TwinTree.Proofs.Pass.Progress
import TwinTree.Proofs.Pass.Trace
import TwinTree.Proofs.Pass.Completion
import TwinTree.Proofs.Enumeration
import TwinTree.Proofs.Reproduction
import TwinTree.Proofs.Destination.Acceptance
import TwinTree.Proofs.FileSystem.Foresight
import TwinTree.Proofs.FileSystem.Repetition
import TwinTree.Proofs.Pass.Following
import TwinTree.Proofs.Pass.Lockstep
import TwinTree.Proofs.Rehearsal
import TwinTree.Proofs.Rerun
import TwinTree.Proofs.FileSystem.Naming
import TwinTree.Proofs.Pass.Catalog
import TwinTree.Proofs.References
import TwinTree.Proofs.Text.Occurrence
import TwinTree.Proofs.Collision
import TwinTree.Proofs.Pass.Visits
import TwinTree.Proofs.Tally
import TwinTree.Proofs.Accounting
import TwinTree.Proofs.Separation
import TwinTree.Proofs.Destination.Escape
import TwinTree.Proofs.FileSystem.Failing
import TwinTree.Proofs.Pass.Interruption
import TwinTree.Proofs.Pass.Composition
import TwinTree.Proofs.Pass.Raising
import TwinTree.Proofs.Pass.Growth
import TwinTree.Proofs.Salvage
import TwinTree.Proofs.Text.Cutting
import TwinTree.Proofs.Lines
import TwinTree.Proofs.Reapplication
import TwinTree.Proofs.Text.Sweep
import TwinTree.Proofs.KeywordOrder
import TwinTree.Proofs.FileSystem.Outline
import TwinTree.Proofs.Pass.Together
import TwinTree.Proofs.Pass.Policies
import TwinTree.Proofs.PolicyEffect
import TwinTree.Proofs.FileSystem.Vacancy
import TwinTree.Proofs.Pass.Ending
import TwinTree.Proofs.Pass.Building
import TwinTree.Proofs.Pass.Unhindered
import TwinTree.Proofs.Pass.Stopping
import TwinTree.Proofs.Readability
import TwinTree.Proofs.FileSystem.Likeness
import TwinTree.Proofs.FileSystem.Reordering
import TwinTree.Proofs.Pass.Unison
import TwinTree.Proofs.ListingOrder
import TwinTree.Proofs.Pass.Pruning
import TwinTree.Proofs.Exclusion
import TwinTree.Proofs.Text.Parting
import TwinTree.Proofs.Text.Table
import TwinTree.Proofs.ProjectNames
import TwinTree.Proofs.OnePass
import TwinTree.Proofs.LinkageBlocks
import TwinTree.Proofs.Pass.Reach
import TwinTree.Proofs.Correspondence
import TwinTree.Proofs.Text.ShownPath
import TwinTree.Proofs.Narration
import TwinTree.Proofs.Destination.LinkedRoot
import TwinTree.Proofs.FileSystem.View
import TwinTree.Proofs.FileSystem.Extension
import TwinTree.Proofs.Path.Respelling
import TwinTree.Proofs.FileSystem.Respelling
import TwinTree.Proofs.Pass.Beside
import TwinTree.Proofs.Pass.Expansion
import TwinTree.Proofs.Pass.Respelling
import TwinTree.Proofs.Pass.RespelledWalk
import TwinTree.Proofs.SourceSpelling
import TwinTree.Proofs.Destination.NormalForm
import TwinTree.Proofs.Pass.Course
import TwinTree.Proofs.Pass.Charting
import TwinTree.Proofs.KnownDirectories
