import Relata.Connection
import Relata.Proofs.Record.Rows
import Relata.Proofs.Session.Loads
import Relata.Proofs.Session.PerParent
import Relata.Schema.Definition
import Relata.Session.Batches
import Relata.Sql.Statement
import Relata.Text.SnakeCase
import Relata.Wire.Exchange
import Relata.Proofs.Record.Loaded
import Relata.Proofs.Relation.Narrow
import Relata.Proofs.Session.Association
import Relata.Proofs.Session.Preload
import Relata.Proofs.Session.Batches
import Relata.Proofs.Session.Agreement
import Relata.Proofs.Relation.Rename
import Relata.Proofs.Session.SelfReferring
import Relata.Proofs.Sql.Template
import Relata.Proofs.Sql.ReadBack
import Relata.Proofs.Store.Numbers
import Relata.Proofs.Store.Runs
import Relata.Proofs.Query.Headings
import Relata.Proofs.Query.Reach
import Relata.Proofs.Query.Kinds
import Relata.Proofs.Query.Sorted
import Relata.Proofs.Expr.Refined
import Relata.Proofs.Sql.Meaning
import Relata.Proofs.Wire.Kinds
import Relata.Proofs.Store.Overflow
import Relata.Proofs.Relation.Dropped
import Relata.Proofs.Session.Unseen
import Relata.Proofs.Wire.Columns
import Relata.Proofs.Sql.Identifiers
import Relata.Proofs.Sql.Introduced
import Relata.Proofs.Session.Executed
import Relata.Proofs.Session.Refused
import Relata.Proofs.Query.Uncorrelated
import Relata.Proofs.Session.Interrupted
import Relata.Proofs.Session.Found
import Relata.Proofs.Schema.Accepted
import Relata.Proofs.Schema.Distinct
import Relata.Proofs.Session.Projected
import Relata.Proofs.Query.Filled
import Relata.Proofs.Query.Emptied
import Relata.Proofs.Expr.Kleene
import Relata.Proofs.Expr.Member
import Relata.Proofs.Query.Verdicts
import Relata.Proofs.Relation.Conditions
import Relata.Proofs.Query.Inner
import Relata.Proofs.Relation.Renamed
import Relata.Proofs.Session.First
import Relata.Proofs.Wire.Exact
import Relata.Proofs.Sql.Quoted
import Relata.Proofs.Sql.Definitions
import Relata.Proofs.Error.Contexts
import Relata.Proofs.Clock.Stamps
import Relata.Proofs.Session.Stamped
