import Cashbook.Json.Rows
import Cashbook.Uuid.Named
import Cashbook.Rules
import Cashbook.Ledger.Faulty
import Cashbook.Registry
import Cashbook.Locks
import Cashbook.Service.Call
import Cashbook.Rehearsal
import Cashbook.Csv.Operations
import Cashbook.Csv.Report
import Cashbook.Replay
import Cashbook.Rehearsal.Teller
import Cashbook.CommandLine
import Cashbook.Main
import Cashbook.Proofs.Table
import Cashbook.Proofs.Statement.Run
import Cashbook.Proofs.Statement.Success
import Cashbook.Proofs.Ledger.Effect
import Cashbook.Proofs.Ledger.History
import Cashbook.Proofs.Ledger.Movement
import Cashbook.Proofs.Ledger.WellFormed
import Cashbook.Proofs.Ledger.Journal
import Cashbook.Proofs.Decimal
import Cashbook.Proofs.Ledger.Conservation
import Cashbook.Proofs.Ledger.Later
import Cashbook.Proofs.Service.Plan
import Cashbook.Proofs.Service.Repeat
import Cashbook.Proofs.Service.Call
import Cashbook.Proofs.Locks.Alone
import Cashbook.Proofs.Service.Play
import Cashbook.Proofs.Service.Alone
import Cashbook.Proofs.Service.Serial
import Cashbook.Proofs.UnitOfWork
import Cashbook.Proofs.Locks.Action
import Cashbook.Proofs.Locks.Line
import Cashbook.Proofs.Locks.Coherent
import Cashbook.Proofs.Locks.Exclusion
import Cashbook.Proofs.Locks.Progress
import Cashbook.Proofs.Ledger.Footprint
import Cashbook.Proofs.Service.Guarded
import Cashbook.Proofs.Service.GuardedCall
import Cashbook.Proofs.Service.Protected
import Cashbook.Proofs.Service.CriticalSection
import Cashbook.Proofs.Service.SecondLook
import Cashbook.Proofs.Ledger.AppendOnly
import Cashbook.Proofs.Locks.Accounting
import Cashbook.Proofs.Ledger.Ownership
import Cashbook.Proofs.Service.Authority
import Cashbook.Proofs.Locks.Departure
import Cashbook.Proofs.Service.Deadline
import Cashbook.Proofs.Statement.Sequence
import Cashbook.Proofs.Ledger.Tidy
import Cashbook.Proofs.Replay.Task
import Cashbook.Proofs.Replay.Cache
import Cashbook.Proofs.Replay.Forgetful
import Cashbook.Proofs.Csv.Report
import Cashbook.Proofs.Csv.Trimmed
import Cashbook.Proofs.Ledger.Drawn
import Cashbook.Proofs.Replay.Book
import Cashbook.Proofs.Replay.Entered
import Cashbook.Proofs.Replay.Invisible
import Cashbook.Proofs.Binary64.Nearest
import Cashbook.Proofs.Binary64.Shortest
import Cashbook.Proofs.Csv.Amounts
import Cashbook.Proofs.Ledger.Evolution
import Cashbook.Proofs.Replay.Looked
import Cashbook.Proofs.Replay.Row
import Cashbook.Proofs.Replay.Steps
import Cashbook.Proofs.Replay.Complete
import Cashbook.Proofs.Replay.Addressed
import Cashbook.Proofs.Replay.Atomic
import Cashbook.Proofs.Replay.Referred
import Cashbook.Proofs.Ledger.TakenBack
import Cashbook.Proofs.Service.Moved
import Cashbook.Proofs.Service.Revoked
import Cashbook.Proofs.Instant.Calendar
import Cashbook.Proofs.Instant.Text
import Cashbook.Proofs.Json.Text
import Cashbook.Proofs.Json.Rows
import Cashbook.Proofs.Transaction.Filter
import Cashbook.Proofs.Service.Listed
import Cashbook.Proofs.Service.Reversed
import Cashbook.Proofs.Service.Accounts
import Cashbook.Proofs.Money
import Cashbook.Proofs.Card.Number
import Cashbook.Proofs.Card.Slips
import Cashbook.Proofs.Decimal.Normal
import Cashbook.Proofs.Rules.Accepted
import Cashbook.Proofs.Text.Utf8
import Cashbook.Proofs.Csv.Contents
