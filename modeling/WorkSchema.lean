import WorkSchema.Command.Program
import WorkSchema.Config.Load
import WorkSchema.Engine.Basic
import WorkSchema.Json.Parser
import WorkSchema.Json.Printer
import WorkSchema.Main
import WorkSchema.Proofs.Collection.OrderedMap
import WorkSchema.Proofs.Collection.RankedList
import WorkSchema.Proofs.Field.Equality
import WorkSchema.Store.Any
import WorkSchema.Proofs.Field.Conversion
import WorkSchema.Proofs.Field.Covering
import WorkSchema.Proofs.Store.Chain
import WorkSchema.Proofs.WorkItem.Flattening
import WorkSchema.Proofs.Engine.Run
import WorkSchema.Proofs.Store.Laws
import WorkSchema.Proofs.Engine.Cache
import WorkSchema.Proofs.Engine.Reading
import WorkSchema.Proofs.Engine.Uncached
import WorkSchema.Proofs.Engine.Transparency
import WorkSchema.Proofs.WorkItem.Validation
import WorkSchema.Proofs.WorkItem.Covering
import WorkSchema.Proofs.Engine.Evolution
import WorkSchema.Proofs.Text.Digits
import WorkSchema.Proofs.Instant
import WorkSchema.Proofs.Field.StoredForm
import WorkSchema.Proofs.Engine.Validity
import WorkSchema.Proofs.Engine.StoredForm
import WorkSchema.Proofs.WorkItem.Updating
import WorkSchema.Proofs.Engine.Updating
import WorkSchema.Proofs.Engine.Effects
import WorkSchema.Proofs.Store.WellFormed
import WorkSchema.Proofs.Engine.WellFormed
import WorkSchema.Proofs.Disk.Basic
import WorkSchema.Proofs.Store.Files
import WorkSchema.Proofs.Store.Opening
import WorkSchema.Proofs.Store.Refinement
import WorkSchema.Proofs.Store.Leftovers
import WorkSchema.Proofs.Engine.Failure
import WorkSchema.Proofs.Field.WrittenForm
import WorkSchema.Proofs.Engine.Links
import WorkSchema.Proofs.Store.Loading
import WorkSchema.Proofs.Store.Accounting
import WorkSchema.Proofs.Store.Survival
import WorkSchema.Proofs.Engine.Walk
import WorkSchema.Proofs.Field.Stability
import WorkSchema.Proofs.Store.Memberships
import WorkSchema.Proofs.Engine.Inheritance
import WorkSchema.Proofs.Store.Writing
import WorkSchema.Proofs.Engine.Creation
import WorkSchema.Proofs.Engine.Extension
import WorkSchema.Proofs.WorkItem.Specification
import WorkSchema.Proofs.Engine.Validation
import WorkSchema.Proofs.Field.StructuralEquality
import WorkSchema.Proofs.Engine.CacheHistory
import WorkSchema.Proofs.Field.Enclosing
import WorkSchema.Proofs.Number.Binary64
import WorkSchema.Proofs.Field.Default
import WorkSchema.Proofs.Store.Atomicity
import WorkSchema.Proofs.WorkItem.Submission
import WorkSchema.Proofs.Field.Sameness
import WorkSchema.Proofs.Field.Decoding
import WorkSchema.Proofs.Store.Reopening
import WorkSchema.Proofs.Command.Check
