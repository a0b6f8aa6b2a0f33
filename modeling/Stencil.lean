import Stencil.Main
import Stencil.Conversion.Stream
import Stencil.Conversion.Kind
import Stencil.Template.Call
import Stencil.Proofs.Template.Account
import Stencil.Proofs.Template.Grammar
import Stencil.Proofs.Template.Exactness
import Stencil.Proofs.Template.Descent
import Stencil.Proofs.Template.Scanning
import Stencil.Proofs.Template.Ending
import Stencil.Proofs.Template.Lexing
import Stencil.Proofs.Template.Relocation
import Stencil.Proofs.Template.Printing
import Stencil.Proofs.Template.RoundTrip
import Stencil.Proofs.Code.Rendering
import Stencil.Proofs.Code.Layout
import Stencil.Proofs.Code.Building
import Stencil.Proofs.Template.Filling
import Stencil.Proofs.Template.Meaning
import Stencil.Proofs.Code.Decoding
import Stencil.Proofs.Code.Running
import Stencil.Proofs.StatusTable.Lookup
import Stencil.Proofs.Code.Construction
import Stencil.Proofs.Code.Bundle
import Stencil.Proofs.Code.Feeding
import Stencil.Proofs.Code.Mentions
import Stencil.Proofs.Code.Grafting
import Stencil.Proofs.Code.Standing
import Stencil.Proofs.Code.Drafts
import Stencil.Proofs.Code.Course
import Stencil.Proofs.Code.Placement
import Stencil.Proofs.Conversion.Sameness
import Stencil.Proofs.Conversion.Adding
import Stencil.Proofs.Conversion.Defining
import Stencil.Proofs.Conversion.History
import Stencil.Proofs.Conversion.Inheritance
import Stencil.Proofs.Conversion.Keeping
import Stencil.Proofs.Conversion.Merging
import Stencil.Proofs.Conversion.Resolution
import Stencil.Proofs.Conversion.Refusing
import Stencil.Proofs.Conversion.Duplicates
import Stencil.Proofs.Disk.Following
import Stencil.Proofs.Disk.Changing
import Stencil.Proofs.Text.Utf8
import Stencil.Proofs.Code.Pathnames
import Stencil.Proofs.Output.Attempts
import Stencil.Proofs.Output.Planning
import Stencil.Proofs.Output.Accounting
import Stencil.Proofs.Output.Settling
import Stencil.Proofs.Output.Returning
import Stencil.Proofs.Output.Backups
import Stencil.Proofs.Code.Filing
import Stencil.Proofs.Disk.Inward
import Stencil.Proofs.CommandLine.Making
import Stencil.Proofs.CommandLine.ExitCode
import Stencil.Proofs.Output.Confinement
import Stencil.Proofs.Template.Cutting
import Stencil.Proofs.Template.Spreading
import Stencil.Proofs.Template.Respacing
import Stencil.Proofs.Code.Holding
import Stencil.Proofs.Code.Upkeep
import Stencil.Proofs.Template.Reading
import Stencil.Proofs.Code.Refusal
import Stencil.Proofs.Code.Operations
import Stencil.Proofs.Code.Globals
import Stencil.Proofs.StatusTable.Naming
import Stencil.Proofs.StatusTable.Constants
import Stencil.Proofs.Yaml.Raising
import Stencil.Proofs.StatusTable.Loading
import Stencil.Proofs.CommandLine.Complaining
import Stencil.Proofs.Framing
import Stencil.Proofs.Code.Reserving
import Stencil.Proofs.Conversion.Leaving
import Stencil.Proofs.Conversion.Streaming
import Stencil.Proofs.Conversion.Opening
import Stencil.Proofs.Conversion.Interleaving
import Stencil.Proofs.Conversion.Serving
import Stencil.Proofs.Conversion.Draining
import Stencil.Proofs.Code.Reaching
import Stencil.Proofs.Code.Storing
import Stencil.Proofs.Template.Sparing
import Stencil.Proofs.Template.Embodying
import Stencil.Proofs.Code.Working
import Stencil.Proofs.Template.Parting
import Stencil.Proofs.Conversion.Listing
import Stencil.Proofs.Template.Points
import Stencil.Proofs.Template.Needing
import Stencil.Proofs.Template.Calling
import Stencil.Proofs.Code.Shifting
import Stencil.Proofs.Template.Single
import Stencil.Proofs.Template.Completing
import Stencil.Proofs.Template.Earliest
import Stencil.Proofs.Template.Literals
import Stencil.Proofs.Text.Canonical
import Stencil.Proofs.Output.Verdicts
import Stencil.Proofs.Code.Sourcing
import Stencil.Proofs.Code.Evaluation
import Stencil.Proofs.StatusTable.Runs
import Stencil.Proofs.Decimal.Whole
import Stencil.Proofs.StatusTable.Shape
import Stencil.Proofs.StatusTable.Validation
import Stencil.Proofs.Code.Grammar
import Stencil.Proofs.StatusTable.Assigning
import Stencil.Proofs.StatusTable.Packaging
import Stencil.Proofs.Report.Shortening
import Stencil.Proofs.Code.Looping
import Stencil.Proofs.Code.Lexicon
import Stencil.Proofs.Template.Copying
