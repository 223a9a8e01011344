/-
Taking values out of JSON documents.

A record comes as an object or as the array of its fields in order.  In an object
unknown members are passed over and a known one may stand only once; an array may end
early where the remaining fields can be absent, and never goes on too long.
-/
import Cashbook.Json

namespace Cashbook.Json

/-- The text of a string. -/
def asText? : Json → Option String
  | .text value => value
  | _ => none

/-- A truth value. -/
def asBool? : Json → Option Bool
  | .bool value => some value
  | _ => none

/-- A whole number below `bound`, written without sign, point or exponent. -/
def asNat? (bound : Nat) : Json → Option Nat
  | .number n =>
    if n.isWhole ∧ n.negative = false then
      let value := Text.ofDigits 10 n.whole
      if value < bound then some value else none
    else none
  | _ => none

/-- A decimal, given as a number or as the text of a numeral. -/
def asDecimal? : Json → Option Decimal
  | .number n => n.toDecimal?
  | .text (some s) => Decimal.read? s
  | _ => none

/-- One of several named choices: its name, or an object with that one member, which is null. -/
def asChoice? {α : Type} (find : String → Option α) : Json → Option α
  | .text (some name) => find name
  | .object [(some name, .null)] => find name
  | _ => none

/-! ### Records -/

/-- The one member of that name, none if there is none; fails where it stands twice. -/
def member? (members : List (Option String × Json)) (name : String) : Option (Option Json) :=
  match members.filter fun m => m.1 == some name with
  | [] => some none
  | [m] => some (some m.2)
  | _ => none

/-- The fields of a record, in the order of `names`; an absent one is `none`. -/
def fields? (names : List String) : Json → Option (List (Option Json))
  | .object members =>
    if members.all fun m => m.1.isSome then names.mapM (member? members) else none
  | .array items =>
    if items.length ≤ names.length then
      some (items.map some ++ List.replicate (names.length - items.length) none)
    else none
  | _ => none

/-- A field that must be there. -/
def required {α : Type} (decode : Json → Option α) : Option Json → Option α
  | some value => decode value
  | none => none

/-- A field that may be absent or null. -/
def optional {α : Type} (decode : Json → Option α) : Option Json → Option (Option α)
  | none => some none
  | some .null => some none
  | some value => (decode value).map some

/-- A field that has a value of its own where it is absent. -/
def defaulted {α : Type} (value : α) (decode : Json → Option α) : Option Json → Option α
  | none => some value
  | some given => decode given

/-! ### Documents that are kept before they are understood -/

/-- Whether every string and number has a value and containers are nested at most `depth` deep. -/
def isPlain : (depth : Nat) → Json → Bool
  | _, .null => true
  | _, .bool _ => true
  | _, .number n => n.word?.isSome || n.scaled?.isSome
  | _, .text value => value.isSome
  | 0, .array _ => false
  | depth + 1, .array items => items.all (isPlain depth)
  | 0, .object _ => false
  | depth + 1, .object members => members.all fun m => m.1.isSome && isPlain depth m.2

end Cashbook.Json
