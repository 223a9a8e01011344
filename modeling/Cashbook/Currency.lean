/-
Currencies.
-/
import Cashbook.Text.Blank

namespace Cashbook

/-- The currencies that an account can be kept in. -/
inductive Currency where
  | usd
  | eur
  | gbp
  | rub
  | egp
deriving DecidableEq

namespace Currency

/-- Every currency. -/
def all : List Currency := [.usd, .eur, .gbp, .rub, .egp]

/-- The three-letter code. -/
def code : Currency → String
  | .usd => "USD"
  | .eur => "EUR"
  | .gbp => "GBP"
  | .rub => "RUB"
  | .egp => "EGP"

/-- The currency with exactly this code. -/
def ofCode? (code : String) : Option Currency :=
  all.find? fun c => c.code == code

/-- The currency that a text names, in either case and with white space around it. -/
def ofText? (text : String) : Option Currency :=
  ofCode? ((Text.trim text).map Char.toUpper)

end Currency

end Cashbook
