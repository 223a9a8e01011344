/-
A rehearsal as a teller: every call is carried out alone, and may take as long as the
settings allow.
-/
import Cashbook.Rehearsal
import Cashbook.Replay.Teller

namespace Cashbook

instance : Teller Rehearsal where
  register identity r := (r.register identity).2
  identities r := r.bank.registry.identities
  serve plan r := r.serve none (plan r.rules)

end Cashbook
