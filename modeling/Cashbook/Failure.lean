/-
How a request can fail.

A failure is its cause: which rule was broken, what was looked for, who was refused.
The words for it are chosen in one place, `Failure.message`, and the six classes that
callers tell apart in another, `Failure.kind`.
-/
import Cashbook.Csv.Fault
import Cashbook.Transaction

namespace Cashbook

/-- What was looked for, or was there already. -/
inductive Subject where
  | account (id : AccountId)
  /-- The account behind a card. -/
  | accountOfCard (number : CardNumber)
  | card (number : CardNumber)
  | transaction (id : TransactionId)
  /-- The account of that name of a user. -/
  | address (user account : String)
  | reference (label : String)
  | named (text : String)
deriving DecidableEq

/-- Which rule a request breaks. -/
inductive Objection where
  | amountNotPositive
  | balanceNegative
  | balanceOverflow
  | unknownCurrency (raw : String)
  | unknownType (raw : String)
  | malformedId (kind : IdKind) (raw : String)
  | badCard (fault : CardNumber.Fault)
  | amountBelow (least : Decimal)
  | amountTooFine (places : Nat)
  | destinationRequired
  | destinationUnexpected (type : TransactionType)
  | nameRequired
  | nameTooLong (limit : Nat)
  | accountNotEmpty (id : AccountId) (balance : Balance) (currency : Currency)
  | currencyRequired
  | amountRequired (kind : OperationKind)
  | counterpartyRequired
  | referenceRequired
  | malformedAddress (raw : String)
  | badConfiguration
  | other (text : String)
deriving DecidableEq

/-- Why a caller is refused. -/
inductive Denial where
  | unknownCaller (identity : String)
  | foreignAccount (id : AccountId)
  | other (text : String)
deriving DecidableEq

/-- How a request can fail. -/
inductive Failure where
  | invalid (objection : Objection)
  | insufficientFunds (requested available : Decimal)
  | currencyMismatch (source destination : Currency)
  | selfTransfer
  | notReversible (id : TransactionId)
  | alreadyRolledBack (id : TransactionId)
  | forbidden (denial : Denial)
  | notFound (subject : Subject)
  | alreadyExists (subject : Subject)
  | storage (inner : Failure)
  | commitFailed (inner : Failure)
  | rollbackFailed (cause inner : Failure)
  /-- A limit in milliseconds passed first. -/
  | deadlineExceeded (limit : Nat)
  | csv (fault : Csv.Fault)
  | io
  /-- Something outside the ledger failed, and only its words are known. -/
  | external (text : String)
deriving DecidableEq

/-! ### Classes -/

/-- The classes of failure that callers tell apart. -/
inductive FailureKind where
  | invalidArgument
  | forbidden
  | notFound
  | alreadyExists
  | internal
  | deadlineExceeded
deriving DecidableEq

/-- The class of a failure. -/
def Failure.kind : Failure → FailureKind
  | .invalid _ | .insufficientFunds .. | .currencyMismatch .. | .selfTransfer
  | .notReversible _ | .alreadyRolledBack _ => .invalidArgument
  | .forbidden _ => .forbidden
  | .notFound _ => .notFound
  | .alreadyExists _ => .alreadyExists
  | .deadlineExceeded _ => .deadlineExceeded
  | .storage _ | .commitFailed _ | .rollbackFailed .. | .csv _ | .io | .external _ => .internal

/-! ### Words -/

/-- A span of milliseconds: in milliseconds below one second, else in seconds with up to three places. -/
def showSpan (ms : Nat) : String :=
  if ms = 0 then "0ns"
  else if ms < 1000 then toString ms ++ "ms"
  else
    let places := (Text.fixedDigits 10 3 (ms % 1000)).reverse.dropWhile (· == '0') |>.reverse
    toString (ms / 1000) ++ (if places.isEmpty then "" else "." ++ String.ofList places) ++ "s"

/-- The words for what was looked for. -/
def Subject.message : Subject → String
  | .account id => "account " ++ id.toText
  | .accountOfCard number => "account for card " ++ number.masked
  | .card number => "card " ++ number.masked
  | .transaction id => "transaction " ++ id.toText
  | .address user name => s!"account {user}/{name}"
  | .reference label => s!"reference `{label}`"
  | .named words => words

/-- The words for a broken rule. -/
def Objection.message : Objection → String
  | .amountNotPositive => "amount must be positive"
  | .balanceNegative => "balance cannot be negative"
  | .balanceOverflow => "balance overflow"
  | .unknownCurrency raw => s!"unsupported currency `{raw}`"
  | .unknownType raw => s!"unsupported transaction type `{raw}`"
  | .malformedId kind raw => s!"malformed {kind.label} `{raw}`"
  | .badCard .shape => "card number must be 16 digits"
  | .badCard .checksum => "card number fails checksum"
  | .amountBelow least => "amount must be at least " ++ least.toText
  | .amountTooFine places => s!"amount allows at most {places} decimal places"
  | .destinationRequired => "to_card is required for transfers"
  | .destinationUnexpected type => "to_card is not accepted for " ++ type.name
  | .nameRequired => "account name is required"
  | .nameTooLong limit => s!"account name exceeds {limit} characters"
  | .accountNotEmpty id balance currency =>
    "account " ++ id.toText ++ " still holds " ++ balance.toText ++ " " ++ currency.code
  | .currencyRequired => "open requires a currency"
  | .amountRequired kind => kind.title ++ " requires an amount"
  | .counterpartyRequired => "transfer requires a counterparty"
  | .referenceRequired => "rollback requires a reference"
  | .malformedAddress raw =>
    s!"malformed account address `{raw}`, expected user/account"
  | .badConfiguration => "invalid engine config"
  | .other words => words

/-- The words for why a caller is refused. -/
def Denial.message : Denial → String
  | .unknownCaller identity => s!"unknown caller `{identity}`"
  | .foreignAccount id => "account " ++ id.toText ++ " belongs to another user"
  | .other words => words

namespace Failure

/-- The words for a failure. -/
def message : Failure → String
  | .invalid objection => "invalid argument: " ++ objection.message
  | .insufficientFunds requested available =>
    "insufficient funds: requested " ++ requested.toText ++ ", available " ++ available.toText
  | .currencyMismatch source destination =>
    "currency mismatch: " ++ source.code ++ " account cannot pay into " ++ destination.code ++
      " account"
  | .selfTransfer => "source and destination accounts are the same"
  | .notReversible id =>
    "transaction " ++ id.toText ++ " is not a transfer and cannot be rolled back"
  | .alreadyRolledBack id => "transaction " ++ id.toText ++ " has already been rolled back"
  | .forbidden denial => "forbidden: " ++ denial.message
  | .notFound subject => subject.message ++ " not found"
  | .alreadyExists subject => subject.message ++ " already exists"
  | .storage inner => "storage error: " ++ inner.message
  | .commitFailed inner => "commit failed: " ++ inner.message
  | .rollbackFailed cause inner =>
    "rollback failed (" ++ inner.message ++ ") while handling: " ++ cause.message
  | .deadlineExceeded limit => "deadline of " ++ showSpan limit ++ " exceeded"
  | .csv fault => "CSV error: " ++ fault.message
  | .io => "IO error"
  | .external words => words

/-- The failure that brought this one about. -/
def inner? : Failure → Option Failure
  | .storage inner | .commitFailed inner | .rollbackFailed _ inner => some inner
  | _ => none

end Failure

/-- What a request comes to: a value, or the way it failed. -/
abbrev Outcome (α : Type) := Except Failure α

end Cashbook
