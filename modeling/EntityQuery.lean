import EntityQuery.Binary64.Basic
import EntityQuery.Binary64.Digits
import EntityQuery.Binary64.Layout
import EntityQuery.Binary64.Reading
import EntityQuery.Binary64.Rounding
import EntityQuery.CommandLine.Arguments
import EntityQuery.CommandLine.Program
import EntityQuery.Demo.Search
import EntityQuery.Demo.Tour
import EntityQuery.Demo.Users
import EntityQuery.Entity.Catalogue
import EntityQuery.Entity.Instance
import EntityQuery.Entity.Mapping
import EntityQuery.Entity.Metadata
import EntityQuery.Error
import EntityQuery.Expr
import EntityQuery.FieldType
import EntityQuery.Json
import EntityQuery.Main
import EntityQuery.Powers
import EntityQuery.Proofs.Acceptance
import EntityQuery.Proofs.Agreement
import EntityQuery.Proofs.Answering
import EntityQuery.Proofs.Assignment
import EntityQuery.Proofs.Collection
import EntityQuery.Proofs.Composition
import EntityQuery.Proofs.Construction
import EntityQuery.Proofs.Creation
import EntityQuery.Proofs.Databases
import EntityQuery.Proofs.Decoding
import EntityQuery.Proofs.Defining
import EntityQuery.Proofs.Denotation
import EntityQuery.Proofs.Disks
import EntityQuery.Proofs.Documents
import EntityQuery.Proofs.Encoding
import EntityQuery.Proofs.Engines
import EntityQuery.Proofs.Ensuring
import EntityQuery.Proofs.Evaluation
import EntityQuery.Proofs.ExactValue
import EntityQuery.Proofs.Exactness
import EntityQuery.Proofs.Executing
import EntityQuery.Proofs.Failing
import EntityQuery.Proofs.Forms
import EntityQuery.Proofs.Initializing
import EntityQuery.Proofs.Injectivity
import EntityQuery.Proofs.Insertion
import EntityQuery.Proofs.Interleaving
import EntityQuery.Proofs.Lawful
import EntityQuery.Proofs.Locating
import EntityQuery.Proofs.Lowering
import EntityQuery.Proofs.Making
import EntityQuery.Proofs.Matching
import EntityQuery.Proofs.Naming
import EntityQuery.Proofs.Noninterference
import EntityQuery.Proofs.Numbering
import EntityQuery.Proofs.Parameters
import EntityQuery.Proofs.Patterns
import EntityQuery.Proofs.Placeholders
import EntityQuery.Proofs.Placing
import EntityQuery.Proofs.Preparation
import EntityQuery.Proofs.Projection
import EntityQuery.Proofs.Reading
import EntityQuery.Proofs.Recognizing
import EntityQuery.Proofs.Refusal
import EntityQuery.Proofs.Reporting
import EntityQuery.Proofs.Rerunning
import EntityQuery.Proofs.Resetting
import EntityQuery.Proofs.Resolving
import EntityQuery.Proofs.Respelling
import EntityQuery.Proofs.Restoring
import EntityQuery.Proofs.Scanning
import EntityQuery.Proofs.Seeding
import EntityQuery.Proofs.Sending
import EntityQuery.Proofs.Sentence
import EntityQuery.Proofs.Shaping
import EntityQuery.Proofs.Spelling
import EntityQuery.Proofs.Stability
import EntityQuery.Proofs.Storing
import EntityQuery.Proofs.Touring
import EntityQuery.Proofs.Validity
import EntityQuery.Query.Chain
import EntityQuery.Query.Materialization
import EntityQuery.Query.Plan
import EntityQuery.Query.Predicate
import EntityQuery.Query.Row
import EntityQuery.Query.Statement
import EntityQuery.Report.Grid
import EntityQuery.Report.Section
import EntityQuery.Session.Event
import EntityQuery.Session.Handle
import EntityQuery.Session.Script
import EntityQuery.Session.Steps
import EntityQuery.Session.World
import EntityQuery.Sql.Grammar
import EntityQuery.Sql.Recognition
import EntityQuery.Sql.Select
import EntityQuery.Sql.Term
import EntityQuery.Sql.Token
import EntityQuery.Sql.Word
import EntityQuery.Store.Access
import EntityQuery.Store.Affinity
import EntityQuery.Store.Command
import EntityQuery.Store.Connection
import EntityQuery.Store.Database
import EntityQuery.Store.Datum
import EntityQuery.Store.Decimal
import EntityQuery.Store.Definition
import EntityQuery.Store.Disk
import EntityQuery.Store.Engine
import EntityQuery.Store.Estimate
import EntityQuery.Store.Evaluation
import EntityQuery.Store.Fault
import EntityQuery.Store.Path
import EntityQuery.Store.Pattern
import EntityQuery.Store.Prepared
import EntityQuery.Store.Schema
import EntityQuery.Store.Seeding
import EntityQuery.Store.Table
import EntityQuery.Text.Blank
import EntityQuery.Text.Emoji
import EntityQuery.Text.Extent
import EntityQuery.Text.Numeral
import EntityQuery.Text.Property
import EntityQuery.Text.Quoted
import EntityQuery.Text.Utf8
import EntityQuery.Text.Width
import EntityQuery.Value.Basic
import EntityQuery.Value.Coercion
import EntityQuery.Value.Text
