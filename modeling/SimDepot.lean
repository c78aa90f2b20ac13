import SimDepot.Batch.Basic
import SimDepot.Batch.Json
import SimDepot.Batch.Ledger
import SimDepot.Connection.Address
import SimDepot.Connection.Companion
import SimDepot.Connection.Location
import SimDepot.Connection.Open
import SimDepot.Connection.Place
import SimDepot.Connection.Tables
import SimDepot.Connection.Target
import SimDepot.DatabaseFile.Header
import SimDepot.DatabaseFile.Schema
import SimDepot.DatabaseFile.Statement
import SimDepot.DatabaseFile.Tree
import SimDepot.Directory.Basic
import SimDepot.Directory.Json
import SimDepot.Directory.Upkeep
import SimDepot.Document.Basic
import SimDepot.Document.Canonical
import SimDepot.Document.Decode
import SimDepot.Document.Record
import SimDepot.Domain.Basic
import SimDepot.Domain.Composed
import SimDepot.Domain.Direction
import SimDepot.Domain.Joining
import SimDepot.Domain.Mapping
import SimDepot.Domain.Punycode
import SimDepot.Error.Basic
import SimDepot.Error.Cause
import SimDepot.Feed.Import
import SimDepot.Feed.Record
import SimDepot.Files.Failure
import SimDepot.Files.Tree
import SimDepot.Flow.Action
import SimDepot.Flow.Basic
import SimDepot.Handout.Allocation
import SimDepot.Handout.Details
import SimDepot.Http.Correspondence
import SimDepot.Http.Exchange
import SimDepot.Http.Failure
import SimDepot.Http.Host
import SimDepot.Http.Percent
import SimDepot.Http.Url.Basic
import SimDepot.Http.Url.Path
import SimDepot.Http.Url.Reader
import SimDepot.Id
import SimDepot.IdMap
import SimDepot.Json.Basic
import SimDepot.Json.Text
import SimDepot.Number.Double
import SimDepot.Proofs.Batch.Closing
import SimDepot.Proofs.Batch.Custody
import SimDepot.Proofs.Claim.Contest
import SimDepot.Proofs.Claim.Exhaustion
import SimDepot.Proofs.Claim.Outcome
import SimDepot.Proofs.Claim.Persistence
import SimDepot.Proofs.Claim.Solitary
import SimDepot.Proofs.Claim.Taking
import SimDepot.Proofs.Directory.Grants
import SimDepot.Proofs.Directory.Licence
import SimDepot.Proofs.Directory.Names
import SimDepot.Proofs.Directory.Upkeep
import SimDepot.Proofs.Document.Entity
import SimDepot.Proofs.Document.Record
import SimDepot.Proofs.Document.Retelling
import SimDepot.Proofs.Feed.Acceptance
import SimDepot.Proofs.Feed.Audit
import SimDepot.Proofs.Feed.Intake
import SimDepot.Proofs.Feed.Interruption
import SimDepot.Proofs.Handout.Activation
import SimDepot.Proofs.Handout.Allocation
import SimDepot.Proofs.Handout.Discretion
import SimDepot.Proofs.Handout.Meanwhile
import SimDepot.Proofs.Handout.Mirror
import SimDepot.Proofs.Handout.Notice
import SimDepot.Proofs.Handout.Number
import SimDepot.Proofs.Handout.Numbering
import SimDepot.Proofs.Handout.Recording
import SimDepot.Proofs.Handout.Retry
import SimDepot.Proofs.Http.Correspondence
import SimDepot.Proofs.Http.LastSegment
import SimDepot.Proofs.Http.LastWord
import SimDepot.Proofs.Http.Percent
import SimDepot.Proofs.Json.Text
import SimDepot.Proofs.Lifecycle.Calls
import SimDepot.Proofs.Lifecycle.Completion
import SimDepot.Proofs.Lifecycle.Eligibility
import SimDepot.Proofs.Lifecycle.OneWay
import SimDepot.Proofs.Lifecycle.Operation
import SimDepot.Proofs.Lifecycle.Order
import SimDepot.Proofs.Lifecycle.Pending
import SimDepot.Proofs.Lifecycle.RowLaw
import SimDepot.Proofs.Lifecycle.Soundness
import SimDepot.Proofs.Lifecycle.Suspension
import SimDepot.Proofs.Queue.Order
import SimDepot.Proofs.Queue.Service
import SimDepot.Proofs.Reconcile.Accounting
import SimDepot.Proofs.Reconcile.Answered
import SimDepot.Proofs.Reconcile.Bystander
import SimDepot.Proofs.Reconcile.Convergence
import SimDepot.Proofs.Reconcile.Course
import SimDepot.Proofs.Reconcile.Independence
import SimDepot.Proofs.Reconcile.Overlap
import SimDepot.Proofs.Reconcile.Pools
import SimDepot.Proofs.Reconcile.Release
import SimDepot.Proofs.Reconcile.Stopping
import SimDepot.Proofs.Reconcile.Supply
import SimDepot.Proofs.Reconcile.Topping
import SimDepot.Proofs.Reconcile.Worker
import SimDepot.Proofs.Reconcile.Yield
import SimDepot.Proofs.Registry.Suspension
import SimDepot.Proofs.Session.Alone
import SimDepot.Proofs.Session.Answered
import SimDepot.Proofs.Session.Author
import SimDepot.Proofs.Session.Commands
import SimDepot.Proofs.Session.Conduct
import SimDepot.Proofs.Session.Discipline
import SimDepot.Proofs.Session.Endurance
import SimDepot.Proofs.Session.InTurn
import SimDepot.Proofs.Session.Midway
import SimDepot.Proofs.Session.Progress
import SimDepot.Proofs.Session.Rehearsed
import SimDepot.Proofs.Session.Return
import SimDepot.Proofs.Session.Rule
import SimDepot.Proofs.Session.Succession
import SimDepot.Proofs.Session.Turn
import SimDepot.Proofs.Session.Vetting
import SimDepot.Proofs.Session.World
import SimDepot.Proofs.Settings.Consistency
import SimDepot.Proofs.Setup.Binding
import SimDepot.Proofs.Setup.Fresh
import SimDepot.Proofs.Setup.Repeat
import SimDepot.Proofs.Stock.Books
import SimDepot.Proofs.Stock.Census
import SimDepot.Proofs.Stock.Endurance
import SimDepot.Proofs.Stock.Figures
import SimDepot.Proofs.Stock.Intake
import SimDepot.Proofs.Stock.Setter
import SimDepot.Proofs.Stock.Undisturbed
import SimDepot.Proofs.Stock.Update
import SimDepot.Proofs.Store.Effect
import SimDepot.Proofs.Store.Gain
import SimDepot.Proofs.Store.Growth
import SimDepot.Proofs.Store.Reference
import SimDepot.Proofs.Store.Revision
import SimDepot.Proofs.Text.Digits
import SimDepot.Proofs.Text.Order
import SimDepot.Proofs.Time.Rfc3339
import SimDepot.Proofs.Vendor.Calls
import SimDepot.Proofs.Vendor.Release
import SimDepot.Reconcile.Pass
import SimDepot.Reconcile.Pool
import SimDepot.Reconcile.Worker
import SimDepot.Rehearsal.Database
import SimDepot.Rehearsal.Scene
import SimDepot.Rehearsal.Step
import SimDepot.Rehearsal.Stray
import SimDepot.Service.Basic
import SimDepot.Service.Health
import SimDepot.Service.RegistryClient
import SimDepot.Service.VendorClient
import SimDepot.Settings.Basic
import SimDepot.Settings.Decode
import SimDepot.Settings.Flaw
import SimDepot.Settings.Load
import SimDepot.Settings.Setup
import SimDepot.Sim.Basic
import SimDepot.Sim.Change
import SimDepot.Sim.Json
import SimDepot.Sim.State
import SimDepot.Stock.Claim
import SimDepot.Stock.Figures
import SimDepot.Stock.Intake
import SimDepot.Stock.Lookup
import SimDepot.Stock.Update
import SimDepot.Store.Basic
import SimDepot.Store.Command
import SimDepot.Store.Failure
import SimDepot.Store.Query
import SimDepot.Store.Table
import SimDepot.Text.Blank
import SimDepot.Text.CharSet
import SimDepot.Text.Digits
import SimDepot.Text.Hidden
import SimDepot.Text.Names
import SimDepot.Text.Parts
import SimDepot.Text.Utf8
import SimDepot.Text.Worded
import SimDepot.Time.Rfc3339
import SimDepot.Time.Timestamp
import SimDepot.Toml.Scalar
import SimDepot.Toml.Text
import SimDepot.Toml.Tree
import SimDepot.Proofs.Connection.Address
import SimDepot.Proofs.Files.Directories
import SimDepot.Proofs.Connection.Place
import SimDepot.Proofs.Connection.Directory
