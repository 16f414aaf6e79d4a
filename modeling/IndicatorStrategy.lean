import IndicatorStrategy.Archive
import IndicatorStrategy.Artifact.Basic
import IndicatorStrategy.Artifact.Compile
import IndicatorStrategy.Artifact.Decode
import IndicatorStrategy.Assoc
import IndicatorStrategy.Binary64.Basic
import IndicatorStrategy.Binary64.Decimal
import IndicatorStrategy.Binary64.Layout
import IndicatorStrategy.Binary64.Shortest
import IndicatorStrategy.Catalog
import IndicatorStrategy.CommandLine.Arguments
import IndicatorStrategy.CommandLine.Command
import IndicatorStrategy.CommandLine.Listing
import IndicatorStrategy.CommandLine.Run
import IndicatorStrategy.CommandLine.Usage
import IndicatorStrategy.Configuration.Basic
import IndicatorStrategy.Configuration.Ini
import IndicatorStrategy.Configuration.Replay
import IndicatorStrategy.Configuration.Validation
import IndicatorStrategy.Draft.Basic
import IndicatorStrategy.Draft.Edit
import IndicatorStrategy.Event
import IndicatorStrategy.Expression.Basic
import IndicatorStrategy.Expression.Parser
import IndicatorStrategy.Failure
import IndicatorStrategy.Json.Basic
import IndicatorStrategy.Json.Decode
import IndicatorStrategy.Json.Printer
import IndicatorStrategy.Json.Token
import IndicatorStrategy.Json.Tree
import IndicatorStrategy.Main
import IndicatorStrategy.Numeral
import IndicatorStrategy.Operand.Basic
import IndicatorStrategy.Operand.Number
import IndicatorStrategy.Proofs.Artifact.Agreement
import IndicatorStrategy.Proofs.Artifact.Layout
import IndicatorStrategy.Proofs.Artifact.Roundtrip
import IndicatorStrategy.Proofs.Binary64.Decimal
import IndicatorStrategy.Proofs.Binary64.Rank
import IndicatorStrategy.Proofs.Binary64.Rounding
import IndicatorStrategy.Proofs.Binary64.Shortest
import IndicatorStrategy.Proofs.Binary64.Text
import IndicatorStrategy.Proofs.Draft.Invariant
import IndicatorStrategy.Proofs.Expression.Compiled
import IndicatorStrategy.Proofs.Expression.Grammar
import IndicatorStrategy.Proofs.Json.Number
import IndicatorStrategy.Proofs.Json.Roundtrip
import IndicatorStrategy.Proofs.Json.Token
import IndicatorStrategy.Proofs.Numeral
import IndicatorStrategy.Proofs.Store.Archive
import IndicatorStrategy.Proofs.Store.Reliable
import IndicatorStrategy.Proofs.Text.Run
import IndicatorStrategy.Request
import IndicatorStrategy.Session
import IndicatorStrategy.Store.Action
import IndicatorStrategy.Store.Backend
import IndicatorStrategy.Store.Companion
import IndicatorStrategy.Store.Connection
import IndicatorStrategy.Store.Copy
import IndicatorStrategy.Store.Database
import IndicatorStrategy.Store.DatabaseFailure
import IndicatorStrategy.Store.Disk
import IndicatorStrategy.Store.Head
import IndicatorStrategy.Store.Host
import IndicatorStrategy.Store.JsonFile
import IndicatorStrategy.Store.Location
import IndicatorStrategy.Store.Memory
import IndicatorStrategy.Store.Pages
import IndicatorStrategy.Store.Table
import IndicatorStrategy.Text.Case
import IndicatorStrategy.Text.CaseTable
import IndicatorStrategy.Text.Join
import IndicatorStrategy.Text.Percent
import IndicatorStrategy.Text.Quoted
import IndicatorStrategy.Text.VisibleTable
import IndicatorStrategy.Text.WhiteSpace
import IndicatorStrategy.Vocabulary
import IndicatorStrategy.WireKey
import IndicatorStrategy.Proofs.Session.Run
import IndicatorStrategy.Proofs.Session.Pair
import IndicatorStrategy.Proofs.Session.Effect
import IndicatorStrategy.Proofs.Request
import IndicatorStrategy.Proofs.CommandLine.Compile
import IndicatorStrategy.Proofs.CommandLine.Runs
import IndicatorStrategy.Proofs.Assoc
import IndicatorStrategy.Proofs.Json.Pretty
import IndicatorStrategy.Proofs.Store.Disk
import IndicatorStrategy.Proofs.Store.JsonFile
import IndicatorStrategy.Proofs.Text.Case
import IndicatorStrategy.Proofs.Configuration.Normal
import IndicatorStrategy.Proofs.Configuration.Numbering
import IndicatorStrategy.Proofs.Configuration.Entry
import IndicatorStrategy.Proofs.Configuration.Replay
import IndicatorStrategy.Proofs.Configuration.Places
import IndicatorStrategy.Proofs.Configuration.Sound
import IndicatorStrategy.Proofs.Store.Blame
import IndicatorStrategy.Proofs.CommandLine.Refusal
import IndicatorStrategy.Proofs.Store.Independent
import IndicatorStrategy.Proofs.Session.Interleaving
import IndicatorStrategy.Proofs.Session.Following
import IndicatorStrategy.Proofs.Operand.Number
import IndicatorStrategy.Proofs.Store.Calls
import IndicatorStrategy.Proofs.Store.Frame
import IndicatorStrategy.Proofs.Store.Companion
import IndicatorStrategy.Proofs.Store.Database
import IndicatorStrategy.Proofs.Store.Reopening
import IndicatorStrategy.Proofs.Store.Configured
import IndicatorStrategy.Proofs.Store.Backends
import IndicatorStrategy.Proofs.Draft.Step
import IndicatorStrategy.Proofs.Draft.Numbers
import IndicatorStrategy.Proofs.Draft.Commuting
import IndicatorStrategy.Proofs.Artifact.Locality
import IndicatorStrategy.Proofs.Store.Readers
import IndicatorStrategy.Proofs.Artifact.NormalForm
import IndicatorStrategy.Proofs.Binary64.Fewest
import IndicatorStrategy.Proofs.Expression.Located
import IndicatorStrategy.Proofs.Expression.ParseError
import IndicatorStrategy.Proofs.Operand.Digits
import IndicatorStrategy.Proofs.Binary64.Spelling
import IndicatorStrategy.Proofs.Operand.Field
import IndicatorStrategy.Proofs.Selection
import IndicatorStrategy.Proofs.Session.Overwriting
import IndicatorStrategy.Proofs.Store.Steady
import IndicatorStrategy.Proofs.Assembly
import IndicatorStrategy.Proofs.CommandLine.Opening
import IndicatorStrategy.Proofs.Configuration.Backtest
import IndicatorStrategy.Proofs.Configuration.Order
import IndicatorStrategy.Proofs.Operand.Radix
import IndicatorStrategy.Proofs.Operand.Point
import IndicatorStrategy.Proofs.Expression.Context
import IndicatorStrategy.Proofs.Operand.Insertion
