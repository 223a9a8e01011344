/-
Calls need not look again.

Of the ten calls, the five that move money, issue cards, and open and close accounts are
repeatable: each looks at a few things and ends with one change.  What each has seen it
may rely on for a reason of its own.  An owner does not change, nor does a currency, so
these are as they were as long as the account is there, and that it is there the change
itself finds out.  Whether an account covers an amount does change, but the change looks
at it once more.  And a transfer that may still be rolled back is the one that was seen.
-/
import Cashbook.Proofs.Service.Repeat

namespace Cashbook

/-- Whatever an amount leaves covers it. -/
theorem TransactionKind.Moves.covers {kind : TransactionKind} {amount : Amount}
    {before after : Table AccountId Account} (h : kind.Moves amount before after) {id : AccountId}
    {row : Account} (hsource : kind.source? = some id) (hrow : before[id]? = some row) :
    row.ensureCovers amount = .ok () := by
  rw [Account.ensureCovers_ok_iff]
  cases kind with
  | transfer source destination =>
      obtain rfl := Option.some.inj hsource
      obtain ⟨hne, -, between, hcredit, payer, balance, hpayer, hdebit, -⟩ := h
      rw [Rebalanced.getElem?_of_ne hcredit (Ne.symm hne), hrow] at hpayer
      obtain rfl := Option.some.inj hpayer
      exact ⟨balance, hdebit⟩
  | deposit destination => simp [source?] at hsource
  | withdrawal source =>
      obtain rfl := Option.some.inj hsource
      obtain ⟨payer, balance, hpayer, hdebit, -⟩ := h
      obtain rfl := Option.some.inj (hpayer.symm.trans hrow)
      exact ⟨balance, hdebit⟩

/-- An account with the frame of another is of the same owner. -/
theorem Account.ensureOwnedBy_of_frame {row new : Account} {owner : OwnerId}
    (h : row.ensureOwnedBy owner = .ok ()) (hframe : new.frame = row.frame) :
    new.ensureOwnedBy owner = .ok () := by
  rw [ensureOwnedBy_ok_iff] at h ⊢
  rw [← h, ← frame_owner new, hframe, frame_owner]

namespace Plan

variable {stamp : Stamp} {registry : Registry} {known : Moment → Prop} {moment : Moment}
  {bank : Bank} {α : Type}

/-! ### Accounts and cards -/

theorem repeatable_openAccount (rules : Rules) (identity : String) (request : OpeningRequest) :
    (openAccount rules identity request).Repeatable stamp registry known :=
  repeatable_ofOutcome_bind fun _ _ =>
    repeatable_steady_bind rfl (fun _ _ => rfl) fun _ => repeatable_write rfl (by simp)

/-- An account of the caller need not be looked at again if the rest of the plan finds it. -/
theorem repeatable_ownedAccount_bind {identity : String} {id : AccountId} {rest : Plan α}
    (hfinds : ∀ (moment : Moment) value bank,
      rest.run stamp (moment.bank registry) = (.ok value, bank) →
        ∃ row, moment.ledger.accounts[id]? = some row)
    (h : ∀ known, rest.Repeatable stamp registry known) :
    (ownedAccount identity id >>= fun _ => rest).Repeatable stamp registry known := by
  rw [ownedAccount_bind]
  refine repeatable_steady_bind rfl (fun _ _ => rfl) fun owner => repeatable_read_bind rfl ?_ ?_
  · intro row now hnow value bank hrun
    obtain ⟨earlier, -, hanswer, hsince⟩ := hnow
    obtain ⟨⟨⟩, howned, hrest⟩ := run_ofOutcome_bind_ok_iff.1 hrun
    obtain ⟨new, hnew⟩ := hfinds now value bank hrest
    have hframe := hsince.frames id row new (Ledger.account_ok_iff.1 hanswer) hnew
    refine ⟨new, Ledger.account_ok_iff.2 hnew, ?_⟩
    exact run_ofOutcome_bind_ok_iff.2 ⟨(), Account.ensureOwnedBy_of_frame howned hframe, hrest⟩
  · exact fun row => repeatable_ofOutcome_bind fun _ _ => h _

/-- What the change at the end of a plan does at a moment. -/
theorem effect_of_run {q : Query} (change : Change) {answer : q.Answer}
    (hq : q.change? stamp = some change)
    (h : (query q).run stamp (moment.bank registry) = (.ok answer, bank)) :
    change.Effect moment.ledger bank.ledger :=
  (Bank.perform_effect moment.inOrder.cardsFiled hq (run_query_ok_iff.1 h)).1

theorem repeatable_closeAccount (identity : String) (id : AccountId) :
    (closeAccount identity id).Repeatable stamp registry known := by
  refine repeatable_ownedAccount_bind ?_ fun _ =>
    repeatable_hold _ (repeatable_write rfl (by simp))
  intro now value bank hrun
  obtain ⟨⟨row, hrow, -⟩, -⟩ := effect_of_run (.deleteAccount id) rfl hrun
  exact ⟨row, hrow⟩

theorem repeatable_issueCard (identity : String) (id : AccountId) :
    (issueCard identity id).Repeatable stamp registry known := by
  refine repeatable_ownedAccount_bind ?_ fun _ =>
    repeatable_steady_bind rfl (fun _ _ => rfl) fun _ => repeatable_write rfl (by simp)
  intro now value bank hrun
  obtain ⟨number, -, hcard⟩ := (run_read_bind_ok_iff rfl).1 hrun
  exact (effect_of_run (.createCard ⟨number, id, stamp.time⟩) rfl hcard).1

/-! ### Movements -/

section

variable {amount : Amount} {kind : TransactionKind} {tx : Transaction}

theorem recheck_cons (id : AccountId) (ids : List AccountId) :
    recheck amount kind (id :: ids) = query (.account id) >>= fun account =>
      ofOutcome (if kind.source? = some id then account.ensureCovers amount else .ok ()) >>=
        fun _ => recheck amount kind ids := by
  rw [recheck]
  refine congrArg (query (.account id) >>= ·) (funext fun account => ?_)
  by_cases hsource : kind.source? = some id
  · rw [if_pos hsource, if_pos hsource]
  · rw [if_neg hsource, if_neg hsource]
    rfl

/-- A movement that is recorded moves the money at that moment. -/
theorem moves_of_run
    (h : (query (.record amount kind)).run stamp (moment.bank registry) = (.ok tx, bank)) :
    ∃ accounts, kind.Moves amount moment.ledger.accounts accounts := by
  obtain ⟨accounts, hmoves, -⟩ :=
    effect_of_run (.record ⟨stamp.transaction, amount, kind, false, stamp.time⟩) rfl h
  exact ⟨accounts, hmoves⟩

/-- Accounts that are looked at again, and then the movement. -/
def recording (amount : Amount) (kind : TransactionKind) (ids : List AccountId) :
    Plan Transaction :=
  recheck amount kind ids >>= fun _ => query (.record amount kind)

theorem recording_cons (id : AccountId) (ids : List AccountId) :
    recording amount kind (id :: ids) = query (.account id) >>= fun account =>
      ofOutcome (if kind.source? = some id then account.ensureCovers amount else .ok ()) >>=
        fun _ => recording amount kind ids := by
  rw [recording, recheck_cons, bind_assoc]
  refine congrArg (query (.account id) >>= ·) (funext fun account => ?_)
  rw [bind_assoc]
  rfl

/-- Looking again changes nothing. -/
theorem run_of_recording {ids : List AccountId} {changed : Bank}
    (h : (recording amount kind ids).run stamp bank = (.ok tx, changed)) :
    (query (.record amount kind)).run stamp bank = (.ok tx, changed) := by
  induction ids with
  | nil => exact h
  | cons id ids ih =>
      rw [recording_cons] at h
      obtain ⟨row, -, hrest⟩ := (run_read_bind_ok_iff rfl).1 h
      obtain ⟨⟨⟩, -, hrest⟩ := run_ofOutcome_bind_ok_iff.1 hrest
      exact ih hrest

theorem repeatable_recording {ids : List AccountId} (hids : ∀ id ∈ ids, id ∈ kind.accounts) :
    (recording amount kind ids).Repeatable stamp registry known := by
  induction ids generalizing known with
  | nil => exact repeatable_write rfl (by simp)
  | cons id ids ih =>
      rw [recording_cons]
      refine repeatable_read_bind rfl ?_ fun row =>
        repeatable_ofOutcome_bind fun _ _ => ih fun other hother => hids other (by simp [hother])
      intro row now hnow value bank hrun
      obtain ⟨⟨⟩, -, hrest⟩ := run_ofOutcome_bind_ok_iff.1 hrun
      obtain ⟨accounts, hmoves⟩ := moves_of_run (run_of_recording hrest)
      obtain ⟨new, hnew⟩ := hmoves.found (hids id (by simp))
      refine ⟨new, Ledger.account_ok_iff.2 hnew, run_ofOutcome_bind_ok_iff.2 ⟨(), ?_, hrest⟩⟩
      split
      · next hsource => exact hmoves.covers hsource hnew
      · rfl

end

section

variable {movement : Movement} {row new : Account} {tx : Transaction}

/-- What is left of a movement once it is known which account it is for. -/
def moving (movement : Movement) (account : Account) : Plan Transaction :=
  kindOf movement account >>= fun kind => holding kind.accounts >>= fun _ =>
    recording movement.amount kind kind.accounts

/-- The movement that a transfer comes to once both accounts are known. -/
def transferring (amount : Amount) (account other : Account) : Plan Transaction :=
  if other.currency ≠ account.currency then
    .fail (.currencyMismatch account.currency other.currency)
  else if other.id = account.id then .fail .selfTransfer
  else .hold [account.id, other.id] (recording amount (.transfer account.id other.id)
    [account.id, other.id])

theorem moving_eq (amount : Amount) (order : Order) (account : Account) :
    moving ⟨amount, order⟩ account = match order with
      | .transfer _ destination =>
        ofOutcome (account.ensureCovers amount) >>= fun _ =>
          query (.accountOfCard destination) >>= transferring amount account
      | .deposit _ => .hold [account.id] (recording amount (.deposit account.id) [account.id])
      | .withdrawal _ =>
        ofOutcome (account.ensureCovers amount) >>= fun _ =>
          .hold [account.id] (recording amount (.withdrawal account.id) [account.id]) := by
  cases order with
  | deposit card => rfl
  | withdrawal card =>
      simp only [moving, kindOf, bind_assoc]
      rfl
  | transfer card destination =>
      simp only [moving, kindOf, bind_assoc]
      refine congrArg (ofOutcome (account.ensureCovers amount) >>= ·) (funext fun _ => ?_)
      refine congrArg (query (.accountOfCard destination) >>= ·) (funext fun other => ?_)
      unfold transferring
      split
      · rfl
      · split <;> rfl

variable {amount : Amount} {order : Order} {other : Account}

/-- A transfer depends on its accounts through what never changes about them. -/
theorem transferring_congr {account account' other other' : Account}
    (haccount : account'.frame = account.frame) (hother : other'.frame = other.frame) :
    transferring amount account' other' = transferring amount account other := by
  unfold transferring
  rw [← Account.frame_id account', ← Account.frame_currency account', ← Account.frame_id other',
    ← Account.frame_currency other', haccount, hother]
  rfl

theorem moves_of_transferring
    (h : (transferring amount row other).run stamp (moment.bank registry) = (.ok tx, bank)) :
    ∃ accounts,
      (TransactionKind.transfer row.id other.id).Moves amount moment.ledger.accounts accounts := by
  unfold transferring at h
  split at h
  · cases h
  split at h
  · cases h
  · exact moves_of_run (run_of_recording h)

theorem repeatable_transferring :
    (transferring amount row other).Repeatable stamp registry known := by
  unfold transferring
  split
  · exact repeatable_fail _
  split
  · exact repeatable_fail _
  · exact repeatable_hold _ (repeatable_recording fun _ h => h)

/-- An account whose balance alone has changed since will do as well, if it is there. -/
theorem run_moving_of_frame (hframe : new.frame = row.frame)
    (hnew : moment.ledger.accounts[row.id]? = some new)
    (h : (moving ⟨amount, order⟩ row).run stamp (moment.bank registry) = (.ok tx, bank)) :
    (moving ⟨amount, order⟩ new).run stamp (moment.bank registry) = (.ok tx, bank) := by
  have hid : new.id = row.id := by rw [← Account.frame_id new, hframe, Account.frame_id]
  rw [moving_eq] at h ⊢
  cases order with
  | deposit card => rwa [hid]
  | withdrawal card =>
      obtain ⟨⟨⟩, -, hrest⟩ := run_ofOutcome_bind_ok_iff.1 h
      obtain ⟨accounts, hmoves⟩ := moves_of_run (run_of_recording hrest)
      refine run_ofOutcome_bind_ok_iff.2 ⟨(), hmoves.covers rfl hnew, ?_⟩
      rwa [hid]
  | transfer card destination =>
      obtain ⟨⟨⟩, -, hrest⟩ := run_ofOutcome_bind_ok_iff.1 h
      obtain ⟨other, hother, hlast⟩ := (run_read_bind_ok_iff rfl).1 hrest
      obtain ⟨accounts, hmoves⟩ := moves_of_transferring hlast
      refine run_ofOutcome_bind_ok_iff.2 ⟨(), hmoves.covers rfl hnew, ?_⟩
      refine (run_read_bind_ok_iff rfl).2 ⟨other, hother, ?_⟩
      rwa [transferring_congr hframe rfl]

/-- A movement finds the account that it is for. -/
theorem found_of_moving
    (h : (moving ⟨amount, order⟩ row).run stamp (moment.bank registry) = (.ok tx, bank)) :
    ∃ new, moment.ledger.accounts[row.id]? = some new := by
  rw [moving_eq] at h
  cases order with
  | deposit card =>
      obtain ⟨accounts, hmoves⟩ := moves_of_run (run_of_recording h)
      exact hmoves.found (List.mem_singleton_self _)
  | withdrawal card =>
      obtain ⟨⟨⟩, -, hrest⟩ := run_ofOutcome_bind_ok_iff.1 h
      obtain ⟨accounts, hmoves⟩ := moves_of_run (run_of_recording hrest)
      exact hmoves.found (List.mem_singleton_self _)
  | transfer card destination =>
      obtain ⟨⟨⟩, -, hrest⟩ := run_ofOutcome_bind_ok_iff.1 h
      obtain ⟨other, -, hlast⟩ := (run_read_bind_ok_iff rfl).1 hrest
      obtain ⟨accounts, hmoves⟩ := moves_of_transferring hlast
      exact hmoves.found List.mem_cons_self

theorem repeatable_moving : (moving ⟨amount, order⟩ row).Repeatable stamp registry known := by
  rw [moving_eq]
  cases order with
  | deposit card => exact repeatable_hold _ (repeatable_recording fun _ h => h)
  | withdrawal card =>
      exact repeatable_ofOutcome_bind fun _ _ =>
        repeatable_hold _ (repeatable_recording fun _ h => h)
  | transfer card destination =>
      refine repeatable_ofOutcome_bind fun _ _ => repeatable_read_bind rfl
        ?_ fun _ => repeatable_transferring
      intro other now hnow value bank hrun
      obtain ⟨earlier, -, hanswer, hsince⟩ := hnow
      obtain ⟨accounts, hmoves⟩ := moves_of_transferring hrun
      have hmem : other.id ∈ (TransactionKind.transfer row.id other.id).accounts :=
        List.mem_cons_of_mem _ (List.mem_singleton_self _)
      obtain ⟨new, hnew⟩ := hmoves.found hmem
      obtain ⟨hagain, hframe⟩ := hsince.accountOfCard hanswer hnew
      exact ⟨new, hagain, by rwa [transferring_congr rfl hframe]⟩

theorem move_eq (rules : Rules) (identity : String) (request : MovementRequest) :
    move rules identity request =
      ofOutcome (rules.movement request) >>= fun movement =>
        query (.owner identity) >>= fun owner =>
          query (.accountOfCard movement.order.card) >>= fun account =>
            ofOutcome (account.ensureOwnedBy owner) >>= fun _ => moving movement account := rfl

theorem repeatable_move (rules : Rules) (identity : String) (request : MovementRequest) :
    (move rules identity request).Repeatable stamp registry known := by
  rw [move_eq]
  refine repeatable_ofOutcome_bind fun movement _ =>
    repeatable_steady_bind rfl (fun _ _ => rfl) ?_
  intro owner
  obtain ⟨amount, order⟩ := movement
  refine repeatable_read_bind rfl ?_ fun row =>
    repeatable_ofOutcome_bind fun _ _ => repeatable_moving
  intro row now hnow value bank hrun
  obtain ⟨earlier, -, hanswer, hsince⟩ := hnow
  obtain ⟨⟨⟩, howned, hrest⟩ := run_ofOutcome_bind_ok_iff.1 hrun
  obtain ⟨new, hnew⟩ := found_of_moving hrest
  obtain ⟨hagain, hframe⟩ := hsince.accountOfCard hanswer hnew
  exact ⟨new, hagain, run_ofOutcome_bind_ok_iff.2
    ⟨(), Account.ensureOwnedBy_of_frame howned hframe, run_moving_of_frame hframe hnew hrest⟩⟩

end

/-! ### Reversals -/

/-- What is left of a reversal once the transfer has been seen. -/
def reversing (owner : OwnerId) (id : TransactionId) (source destination : AccountId) :
    Plan Transaction :=
  query (.account source) >>= fun account => ofOutcome (account.ensureOwnedBy owner) >>= fun _ =>
    .hold [source, destination] (query (.reverse id))

theorem reverse_eq (identity : String) (request : ReversalRequest) :
    reverse identity request =
      ofOutcome (Rules.reversal request) >>= fun id =>
        query (.owner identity) >>= fun owner =>
          query (.transaction id) >>= fun tx =>
            ofOutcome tx.ensureReversible >>= fun ends => reversing owner id ends.1 ends.2 := rfl

variable {owner : OwnerId} {id : TransactionId} {source destination : AccountId}
  {row : Transaction}

/-- A transfer that is reversed is one that may still be, between accounts that are there. -/
theorem reversible_of_run
    (h : (query (.reverse id)).run stamp (moment.bank registry) = (.ok row, bank)) :
    ∃ tx source destination, moment.ledger.transactions[id]? = some tx ∧
      tx.kind = .transfer source destination ∧ tx.rolledBack = false ∧
        ∃ account, moment.ledger.accounts[source]? = some account := by
  obtain ⟨tx, source, destination, accounts, htx, hkind, hflag, ⟨between, hcredit, -⟩, -⟩ :=
    effect_of_run (.rollbackTransfer id) rfl h
  obtain ⟨account, -, haccount, -⟩ := hcredit
  exact ⟨tx, source, destination, htx, hkind, hflag, account, haccount⟩

theorem run_of_reversing
    (h : (reversing owner id source destination).run stamp (moment.bank registry) =
      (.ok row, bank)) :
    (query (.reverse id)).run stamp (moment.bank registry) = (.ok row, bank) := by
  obtain ⟨account, -, hrest⟩ := (run_read_bind_ok_iff rfl).1 h
  obtain ⟨⟨⟩, -, hlast⟩ := run_ofOutcome_bind_ok_iff.1 hrest
  exact hlast

theorem repeatable_reverse (identity : String) (request : ReversalRequest) :
    (reverse identity request).Repeatable stamp registry known := by
  rw [reverse_eq]
  generalize Rules.reversal request = parsed
  refine repeatable_ofOutcome_bind fun id _ =>
    repeatable_steady_bind rfl (fun _ _ => rfl) ?_
  intro owner
  refine repeatable_read_bind rfl ?_ fun tx =>
    repeatable_ofOutcome_bind ?_
  · intro tx now hnow value bank hrun
    -- A transfer that may still be reversed has not changed since it was seen.
    obtain ⟨earlier, -, hanswer, hsince⟩ := hnow
    obtain ⟨ends, -, hrest⟩ := run_ofOutcome_bind_ok_iff.1 hrun
    obtain ⟨new, -, -, hnew, -, hflag, -⟩ := reversible_of_run (run_of_reversing hrest)
    obtain ⟨same, hsame, heq⟩ := hsince.transactions id tx (Ledger.transaction_ok_iff.1 hanswer)
    obtain rfl := Option.some.inj (hnew.symm.trans hsame)
    exact ⟨tx, Ledger.transaction_ok_iff.2 (heq hflag ▸ hnew), hrun⟩
  · intro ends hends
    refine repeatable_read_bind rfl (fun account now hnow value bank hrun => ?_) fun account =>
      repeatable_ofOutcome_bind fun _ _ => repeatable_hold _ (repeatable_write rfl (by simp))
    obtain ⟨seen, ⟨earlier, -, hanswer, hsince⟩, haccount, hsince'⟩ := hnow
    obtain ⟨⟨⟩, howned, hlast⟩ := run_ofOutcome_bind_ok_iff.1 hrun
    obtain ⟨new, source, destination, hnew, hkind, hflag, found, hfound⟩ := reversible_of_run hlast
    obtain ⟨same, hsame, heq⟩ :=
      (hsince.trans hsince').transactions id tx (Ledger.transaction_ok_iff.1 hanswer)
    obtain rfl := Option.some.inj (hnew.symm.trans hsame)
    obtain rfl := heq hflag
    obtain ⟨first, second⟩ := ends
    obtain ⟨hends, -⟩ := Transaction.ensureReversible_ok_iff.1 hends
    obtain ⟨rfl, rfl⟩ := TransactionKind.transfer.inj (hkind.symm.trans hends)
    have hframe := hsince'.frames source account found (Ledger.account_ok_iff.1 haccount) hfound
    exact ⟨found, Ledger.account_ok_iff.2 hfound, run_ofOutcome_bind_ok_iff.2
      ⟨(), Account.ensureOwnedBy_of_frame howned hframe, hlast⟩⟩

end Plan

/-- The calls that end with a change, other than the revocation of a card. -/
def Call.Commits : Call → Prop
  | .openAccount _ | .closeAccount _ | .issueCard _ | .move _ | .reverse _ => True
  | .removeCard _ | .accounts | .account _ | .cards _ | .transactions _ => False

/-- **Calls that end with a change are repeatable.** -/
theorem Call.repeatable_plan {call : Call} (h : call.Commits) (rules : Rules) (identity : String)
    (stamp : Stamp) (registry : Registry) (known : Moment → Prop) :
    (call.plan rules identity).Repeatable stamp registry known := by
  cases call with
  | openAccount request =>
      exact Plan.repeatable_map _ (Plan.repeatable_openAccount rules identity request)
  | closeAccount id => exact Plan.repeatable_map _ (Plan.repeatable_closeAccount identity id)
  | issueCard id => exact Plan.repeatable_map _ (Plan.repeatable_issueCard identity id)
  | move request => exact Plan.repeatable_map _ (Plan.repeatable_move rules identity request)
  | reverse request => exact Plan.repeatable_map _ (Plan.repeatable_reverse identity request)
  | removeCard _ | accounts | account _ | cards _ | transactions _ => exact False.elim h

end Cashbook
