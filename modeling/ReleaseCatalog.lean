import ReleaseCatalog.CommandLine.Arguments
import ReleaseCatalog.CommandLine.Run
import ReleaseCatalog.Dataset
import ReleaseCatalog.DatasetType
import ReleaseCatalog.Digest.Sha256
import ReleaseCatalog.ETag
import ReleaseCatalog.Edition
import ReleaseCatalog.Error
import ReleaseCatalog.Generator.Registry
import ReleaseCatalog.Generator.Url
import ReleaseCatalog.Identifiers
import ReleaseCatalog.Instance
import ReleaseCatalog.Json.Basic
import ReleaseCatalog.Json.Parser
import ReleaseCatalog.Json.Printer
import ReleaseCatalog.Json.Record
import ReleaseCatalog.Link
import ReleaseCatalog.Lock.Arena
import ReleaseCatalog.Lock.Lease
import ReleaseCatalog.Main
import ReleaseCatalog.Merge
import ReleaseCatalog.Program
import ReleaseCatalog.Proofs.CommandLine.Grammar
import ReleaseCatalog.Proofs.CommandLine.SettingsFile
import ReleaseCatalog.Proofs.Concurrency.AuthorisedReaders
import ReleaseCatalog.Proofs.Concurrency.Cascades
import ReleaseCatalog.Proofs.Concurrency.Commitment
import ReleaseCatalog.Proofs.Concurrency.Conducts
import ReleaseCatalog.Proofs.Concurrency.Crowding
import ReleaseCatalog.Proofs.Concurrency.Disturbance
import ReleaseCatalog.Proofs.Concurrency.History
import ReleaseCatalog.Proofs.Concurrency.Instances
import ReleaseCatalog.Proofs.Concurrency.LatestVersion
import ReleaseCatalog.Proofs.Concurrency.Ledger
import ReleaseCatalog.Proofs.Concurrency.Lifecycle
import ReleaseCatalog.Proofs.Concurrency.PublicHalves
import ReleaseCatalog.Proofs.Concurrency.Schedule
import ReleaseCatalog.Proofs.Concurrency.Separation
import ReleaseCatalog.Proofs.Concurrency.Serialisation
import ReleaseCatalog.Proofs.Concurrency.Stages
import ReleaseCatalog.Proofs.Concurrency.System
import ReleaseCatalog.Proofs.Concurrency.Tallies
import ReleaseCatalog.Proofs.Concurrency.Turns
import ReleaseCatalog.Proofs.Identifiers.ResourceKey
import ReleaseCatalog.Proofs.Identifiers.VersionNumber
import ReleaseCatalog.Proofs.Json.Documents
import ReleaseCatalog.Proofs.Json.Reading
import ReleaseCatalog.Proofs.Json.Records
import ReleaseCatalog.Proofs.Lock.Contention
import ReleaseCatalog.Proofs.Lock.Crowd
import ReleaseCatalog.Proofs.Lock.Exclusion
import ReleaseCatalog.Proofs.Lock.Machines
import ReleaseCatalog.Proofs.Lock.Naming
import ReleaseCatalog.Proofs.Lock.Occupancy
import ReleaseCatalog.Proofs.Lock.Symmetry
import ReleaseCatalog.Proofs.Lock.Visit
import ReleaseCatalog.Proofs.Program.Conduct
import ReleaseCatalog.Proofs.Program.Requests
import ReleaseCatalog.Proofs.Program.Runs
import ReleaseCatalog.Proofs.Program.Waiting
import ReleaseCatalog.Proofs.Site.Attaining
import ReleaseCatalog.Proofs.Site.Basic
import ReleaseCatalog.Proofs.Site.Following
import ReleaseCatalog.Proofs.Store.Filing
import ReleaseCatalog.Proofs.Store.Instances
import ReleaseCatalog.Proofs.Store.Mirroring
import ReleaseCatalog.Proofs.Store.Operations
import ReleaseCatalog.Proofs.Store.Places
import ReleaseCatalog.Proofs.Store.Probing
import ReleaseCatalog.Proofs.Store.Reads
import ReleaseCatalog.Proofs.Store.Refinement
import ReleaseCatalog.Proofs.Store.Representation
import ReleaseCatalog.Proofs.Store.Writes
import ReleaseCatalog.Proofs.Text.Numerals
import ReleaseCatalog.Proofs.Time.Reading
import ReleaseCatalog.Proofs.Workflow.Association
import ReleaseCatalog.Proofs.Workflow.Cascade
import ReleaseCatalog.Proofs.Workflow.CompareAndSwap
import ReleaseCatalog.Proofs.Workflow.Custody
import ReleaseCatalog.Proofs.Workflow.Custom
import ReleaseCatalog.Proofs.Workflow.Dispatch
import ReleaseCatalog.Proofs.Workflow.Downloads
import ReleaseCatalog.Proofs.Workflow.Failures
import ReleaseCatalog.Proofs.Workflow.Gate
import ReleaseCatalog.Proofs.Workflow.Growth
import ReleaseCatalog.Proofs.Workflow.Independence
import ReleaseCatalog.Proofs.Workflow.Legality
import ReleaseCatalog.Proofs.Workflow.Lifecycle
import ReleaseCatalog.Proofs.Workflow.Marking
import ReleaseCatalog.Proofs.Workflow.Merging
import ReleaseCatalog.Proofs.Workflow.Metadata
import ReleaseCatalog.Proofs.Workflow.Mirroring
import ReleaseCatalog.Proofs.Workflow.Promotion
import ReleaseCatalog.Proofs.Workflow.Protection
import ReleaseCatalog.Proofs.Workflow.Publication
import ReleaseCatalog.Proofs.Workflow.Receipt
import ReleaseCatalog.Proofs.Workflow.Release
import ReleaseCatalog.Proofs.Workflow.Republishing
import ReleaseCatalog.Proofs.Workflow.Resubmission
import ReleaseCatalog.Proofs.Workflow.Resumption
import ReleaseCatalog.Proofs.Workflow.Retry
import ReleaseCatalog.Proofs.Workflow.Rules
import ReleaseCatalog.Proofs.Workflow.Settlement
import ReleaseCatalog.Proofs.Workflow.Tally
import ReleaseCatalog.Proofs.Workflow.Uninterrupted
import ReleaseCatalog.Proofs.World.Settling
import ReleaseCatalog.Proofs.World.Waiting
import ReleaseCatalog.Settings.Basic
import ReleaseCatalog.Settings.Document
import ReleaseCatalog.Settings.Layer
import ReleaseCatalog.Settings.Load
import ReleaseCatalog.Settings.Readable
import ReleaseCatalog.Settings.Value
import ReleaseCatalog.State
import ReleaseCatalog.Store.Archive
import ReleaseCatalog.Store.Backend
import ReleaseCatalog.Store.Call
import ReleaseCatalog.Store.Catalog
import ReleaseCatalog.Store.Collection
import ReleaseCatalog.Store.Probe
import ReleaseCatalog.Store.Tables
import ReleaseCatalog.Text.Blank
import ReleaseCatalog.Text.Decimal
import ReleaseCatalog.Text.Fraction
import ReleaseCatalog.Text.Hexadecimal
import ReleaseCatalog.Text.Numeral
import ReleaseCatalog.Text.Path
import ReleaseCatalog.Time.Duration
import ReleaseCatalog.Time.Epoch
import ReleaseCatalog.Time.Reader
import ReleaseCatalog.Time.Timestamp
import ReleaseCatalog.Transition
import ReleaseCatalog.Validation
import ReleaseCatalog.Version.Basic
import ReleaseCatalog.Version.Codec
import ReleaseCatalog.Version.Downloads
import ReleaseCatalog.Version.Notes
import ReleaseCatalog.Workflow.Action
import ReleaseCatalog.Workflow.Amend
import ReleaseCatalog.Workflow.Custom
import ReleaseCatalog.Workflow.Handler
import ReleaseCatalog.Workflow.Persist
import ReleaseCatalog.World.Basic
import ReleaseCatalog.World.Schedule
import ReleaseCatalog.World.Task
import ReleaseCatalog.Yaml.Basic
import ReleaseCatalog.Yaml.Block
import ReleaseCatalog.Yaml.Cursor
import ReleaseCatalog.Yaml.Document
import ReleaseCatalog.Yaml.Flow
import ReleaseCatalog.Yaml.Reading
import ReleaseCatalog.Yaml.Scalar.Block
import ReleaseCatalog.Yaml.Scalar.Folding
import ReleaseCatalog.Yaml.Scalar.Plain
import ReleaseCatalog.Yaml.Scalar.Quoted
