/-
The registry of callers.

A caller is known once registered.  Their owner identifier is derived from their name
alone, so registering the same name again, here or elsewhere, gives the same one.
-/
import Cashbook.Failure
import Cashbook.Table
import Cashbook.Uuid.Named

namespace Cashbook

/-- The owner identifier of a name. -/
def ownerOf (identity : String) : OwnerId := ⟨Uuid.named Uuid.oidSpace identity⟩

/-- The callers that are known, and who they are. -/
structure Registry where
  owners : Table String OwnerId

namespace Registry

/-- Nobody is known. -/
def empty : Registry := ⟨∅⟩

/-- Makes a caller known, and says who they are. -/
def register (registry : Registry) (identity : String) : OwnerId × Registry :=
  match registry.owners[identity]? with
  | some owner => (owner, registry)
  | none => (ownerOf identity, ⟨registry.owners.insert identity (ownerOf identity)⟩)

/-- Who a caller is; strangers are refused. -/
def resolve (registry : Registry) (identity : String) : Outcome OwnerId :=
  match registry.owners[identity]? with
  | some owner => .ok owner
  | none => .error (.forbidden (.unknownCaller identity))

/-- The names of the known callers in order. -/
def identities (registry : Registry) : List String := registry.owners.keys

end Registry

end Cashbook
