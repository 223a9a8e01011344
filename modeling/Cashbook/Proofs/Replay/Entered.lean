/-
A row succeeds on a replay just where it is entered in the book.

Whatever the row is, the callers it mentions are known first and its reference must be new;
after that each kind of operation is a task of its own, and has been matched with its entry.
-/
import Cashbook.Proofs.Replay.Entered.Movements

namespace Cashbook

variable {users : List String} {rules : Rules} {stamps : Nat → Stamp} {count : Nat}
  {bare : Option AccountId} {book : Book} {op : Operation} {user : String} {P E : Replay Desk → Prop}

namespace Task

open Replay

theorem matches_register (huser : user ∈ users) :
    Matches (·.Stands users rules stamps count bare book) (Replay.register user) (some ())
      (fun _ _ r => r.Stands users rules stamps count bare book ∧ r.teller.bank.Knows user) E :=
  matches_modify fun _ hr => ⟨hr.register huser, hr.sound.bank.knows_register huser⟩

theorem matches_ensureFresh (hstands : ∀ r, P r → r.Stands users rules stamps count bare book) :
    Matches P (Replay.ensureFresh op) (book.fresh op) (fun _ _ r => P r)
      (·.Stands users rules stamps count bare book) := by
  unfold Replay.ensureFresh Book.fresh
  cases op.reference with
  | none => exact matches_pure fun _ hr => hr
  | some label =>
      refine matches_get_bind fun r hr => ?_
      rw [(hstands r hr).shows.contains_eq label]
      by_cases htaken : op.kind ≠ .rollback ∧ book.references.contains label
      · simp only [if_pos htaken]
        exact matches_refuse fun s hs => by obtain rfl := hs; exact hstands _ hr
      · simp only [if_neg htaken]
        exact matches_pure fun s hs => by obtain rfl := hs; exact hr

/-- **A row succeeds just where it is entered**, and either way the replay stands as the book says. -/
theorem matches_apply (hdistinct : OwnersDistinct users) (hfresh : Fresh stamps (count + 2))
    (hmentions : op.mentions ⊆ users) (htrim : op.IsTrimmed) :
    Matches (·.Stands users rules stamps count none book) (Replay.apply op) (book.apply rules op)
      (fun _ book' r => r.Stands users rules stamps (count + 2) none book')
      (·.Stands users rules stamps (count + 2) none book) := by
  have huser : op.user ∈ users := hmentions op.user_mem_mentions
  have hone : Fresh stamps (count + 1) := hfresh.mono (by omega)
  unfold Replay.apply
  show Matches _ _ (some () >>= fun _ => book.apply rules op) _ _
  refine (matches_register huser).bind fun _ _ => ?_
  unfold Book.apply
  refine (Matches.mono (matches_ensureFresh fun r hr => hr.1) (fun _ hr => hr) (fun _ _ _ hr => hr)
    fun r hr => hr.mono (by omega)).bind fun _ _ => ?_
  have hlift : ∀ {t : Task Desk Unit} {o : Option Book},
      Matches (·.Stands users rules stamps count none book) t o
        (fun _ book' r => r.Stands users rules stamps (count + 1) none book')
        (·.Stands users rules stamps (count + 1) none book) →
      Matches (fun r => r.Stands users rules stamps count none book ∧ r.teller.bank.Knows op.user) t o
        (fun _ book' r => r.Stands users rules stamps (count + 2) none book')
        (·.Stands users rules stamps (count + 2) none book) := fun h =>
    h.mono (fun _ hr => hr.1) (fun _ _ _ hr => hr.mono (by omega)) fun _ hr => hr.mono (by omega)
  cases op.kind with
  | opening =>
      exact (matches_openAccount hdistinct hfresh htrim huser).mono (fun _ hr => hr.1)
        (fun _ _ _ hr => hr) fun _ hr => hr
  | deposit =>
      exact hlift (matches_payment hdistinct hone huser (fun _ _ hcard => Rules.movement_deposit hcard)
        fun _ _ hsound hleads => hleads.takes_deposit hsound hdistinct)
  | withdrawal =>
      exact hlift (matches_payment hdistinct hone huser (fun _ _ hcard => Rules.movement_withdrawal hcard)
        fun _ _ hsound hleads => hleads.takes_withdrawal hsound hdistinct)
  | transfer => exact hlift (matches_transfer hdistinct hone hmentions)
  | rollback =>
      exact (matches_rollback hdistinct huser).mono (fun _ hr => hr)
        (fun _ _ _ hr => hr.mono (by omega)) fun _ hr => hr.mono (by omega)
  | close =>
      exact hlift ((matches_requireOwn hdistinct huser).bind fun handle entry => matches_close hdistinct)

end Task

end Cashbook
