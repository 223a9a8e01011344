/-
Settings of the service.

Settings come from a JSON document in which any of them may be left out.  Spans of
time are given in milliseconds.
-/
import Cashbook.Failure
import Cashbook.Json.Decoder
import Cashbook.Json.Reader
import Cashbook.Text.Utf8

namespace Cashbook

/-- What can be set. -/
structure Settings where
  /-- The longest that a call may take, unless its caller says otherwise. -/
  operationTimeout : Nat
  /-- The least amount that may be moved. -/
  minAmount : Decimal
  /-- The most decimal places that an amount may have. -/
  maxAmountPlaces : Nat
  /-- How often idle locks are swept. -/
  sweepInterval : Nat
  /-- How long a lock may lie idle before a sweep takes it. -/
  idleTtl : Nat
  /-- The most characters that the name of an account may have. -/
  maxNameLength : Nat
deriving DecidableEq

namespace Settings

/-- The settings where nothing is said. -/
def standard : Settings where
  operationTimeout := 5000
  minAmount := ⟨1, 2, by decide, by decide⟩
  maxAmountPlaces := 2
  sweepInterval := 30000
  idleTtl := 60000
  maxNameLength := 64

/-- The names of the settings in a document. -/
def names : List String :=
  ["operation_timeout_ms", "min_amount", "max_amount_scale", "lock_sweep_interval_ms",
    "lock_idle_ttl_ms", "max_account_name_len"]

/-- The settings that a document gives. -/
def ofJson? (document : Json) : Option Settings := do
  let word := Json.asNat? Text.wordLimit
  match ← Json.fields? names document with
  | [timeout, least, places, interval, ttl, length] =>
    let operationTimeout ← Json.defaulted standard.operationTimeout word timeout
    let minAmount ← Json.defaulted standard.minAmount Json.asDecimal? least
    let maxAmountPlaces ← Json.defaulted standard.maxAmountPlaces (Json.asNat? 0x100000000) places
    let sweepInterval ← Json.defaulted standard.sweepInterval word interval
    let idleTtl ← Json.defaulted standard.idleTtl word ttl
    let maxNameLength ← Json.defaulted standard.maxNameLength word length
    some { operationTimeout, minAmount, maxAmountPlaces, sweepInterval, idleTtl, maxNameLength }
  | _ => none

/-- The settings in the bytes of a file, which may be missing or not be text. -/
def ofFile (bytes : Option (List UInt8)) : Outcome Settings :=
  match bytes.map Text.Utf8.decode with
  | some (.ok chars) =>
    match (Json.read? chars).bind ofJson? with
    | some settings => .ok settings
    | none => .error (.invalid .badConfiguration)
  | _ => .error .io

end Settings

end Cashbook
