/-
When a call that changes something succeeds.

A call looks at a good many things on its way, and the change at its end looks at some of
them again.  What it comes down to is this.  The request can be read, the caller is known
and is entitled to the change, and the change can be made: whoever meets these three meets
everything else that the call looks at.  One lemma a call says so, in both directions, and
with the change that is made.
-/
import Cashbook.Proofs.Ledger.Ownership
import Cashbook.Proofs.Service.Call

namespace Cashbook

variable {stamp : Stamp} {bank changed : Bank} {identity : String} {owner : OwnerId}

/-- A caller who is known has had a change made that they are entitled to. -/
def Bank.Serves (bank changed : Bank) (identity : String) (change : Change) : Prop :=
  ∃ owner, bank.registry.resolve identity = .ok owner ∧ change.Entitled owner bank.ledger ∧
    change.Effect bank.ledger changed.ledger ∧ changed.registry = bank.registry

/-- What an order comes to for the account that it is given for. -/
def Order.ComesTo (ledger : Ledger) (account : Account) (kind : TransactionKind) : Order → Prop
  | .deposit _ => kind = .deposit account.id
  | .withdrawal _ => kind = .withdrawal account.id
  | .transfer _ destination =>
    ∃ other, ledger.accountOfCard destination = .ok other ∧ kind = .transfer account.id other.id

theorem Order.ComesTo.party {ledger : Ledger} {account : Account} {kind : TransactionKind}
    {order : Order} (h : order.ComesTo ledger account kind) : kind.party = account.id := by
  cases order with
  | deposit card => rw [show kind = _ from h]; rfl
  | withdrawal card => rw [show kind = _ from h]; rfl
  | transfer card destination =>
      obtain ⟨other, -, rfl⟩ := h
      rfl

theorem Order.ComesTo.type {ledger : Ledger} {account : Account} {kind : TransactionKind}
    {order : Order} (h : order.ComesTo ledger account kind) : kind.type = order.type := by
  cases order with
  | deposit card => rw [show kind = _ from h]; rfl
  | withdrawal card => rw [show kind = _ from h]; rfl
  | transfer card destination =>
      obtain ⟨other, -, rfl⟩ := h
      rfl

namespace Plan

variable {α : Type} {id : AccountId} {account row : Account} {tx : Transaction}

/-! ### Accounts and cards -/

/-- An account that is found to be of the caller is theirs. -/
theorem run_ownedAccount_bind_ok_iff {f : Account → Plan α} {value : α} :
    (ownedAccount identity id >>= f).run stamp bank = (.ok value, changed) ↔
      ∃ owner account, bank.registry.resolve identity = .ok owner ∧
        bank.ledger.accounts[id]? = some account ∧ account.owner = owner ∧
          (f account).run stamp bank = (.ok value, changed) := by
  rw [ownedAccount_bind]
  constructor
  · intro h
    obtain ⟨owner, howner, h⟩ := (run_read_bind_ok_iff rfl).1 h
    obtain ⟨account, haccount, h⟩ := (run_read_bind_ok_iff rfl).1 h
    obtain ⟨⟨⟩, howned, h⟩ := run_ofOutcome_bind_ok_iff.1 h
    exact ⟨owner, account, howner, Ledger.account_ok_iff.1 haccount,
      Account.ensureOwnedBy_ok_iff.1 howned, h⟩
  · intro h
    obtain ⟨owner, account, howner, haccount, howned, h⟩ := h
    refine (run_read_bind_ok_iff rfl).2 ⟨owner, howner, ?_⟩
    refine (run_read_bind_ok_iff rfl).2 ⟨account, Ledger.account_ok_iff.2 haccount, ?_⟩
    exact run_ofOutcome_bind_ok_iff.2 ⟨(), Account.ensureOwnedBy_ok_iff.2 howned, h⟩

/-- A change at the end of a plan is made on the ledger, and the callers stay who they are. -/
theorem run_change_ok_iff {q : Query} (f : Ledger → Outcome q.Answer × Ledger)
    (hq : bank.perform stamp q = bank.change f) {answer : q.Answer} :
    (query q).run stamp bank = (.ok answer, changed) ↔
      f bank.ledger = (.ok answer, changed.ledger) ∧ changed.registry = bank.registry := by
  rw [run_query_ok_iff, hq, Bank.change_ok_iff]

theorem openAccount_ok_iff {rules : Rules} {request : OpeningRequest} :
    (openAccount rules identity request).run stamp bank = (.ok row, changed) ↔
      ∃ opening, rules.opening request = .ok opening ∧
        row = .opened stamp.account row.owner opening.name opening.currency stamp.time ∧
          bank.Serves changed identity (.createAccount row) := by
  unfold openAccount
  constructor
  · intro h
    obtain ⟨opening, hopening, h⟩ := run_ofOutcome_bind_ok_iff.1 h
    obtain ⟨owner, howner, h⟩ := (run_read_bind_ok_iff rfl).1 h
    obtain ⟨hcreate, hregistry⟩ := (run_change_ok_iff
      (q := .openAccount owner opening.name opening.currency)
      (Ledger.createAccount (.opened stamp.account owner opening.name opening.currency stamp.time))
      rfl).1 h
    obtain ⟨hfree, rfl, hafter⟩ := Ledger.createAccount_ok_iff.1 hcreate
    exact ⟨opening, hopening, rfl, owner, howner, rfl, ⟨hfree, hafter.symm⟩, hregistry⟩
  · intro h
    obtain ⟨opening, hopening, hrow, owner, howner, hentitled, ⟨hfree, hafter⟩, hregistry⟩ := h
    obtain rfl : row.owner = owner := hentitled
    refine run_ofOutcome_bind_ok_iff.2 ⟨opening, hopening, ?_⟩
    refine (run_read_bind_ok_iff rfl).2 ⟨row.owner, howner, ?_⟩
    refine (run_change_ok_iff (q := .openAccount row.owner opening.name opening.currency)
      (Ledger.createAccount (.opened stamp.account row.owner opening.name opening.currency stamp.time))
      rfl).2 ⟨?_, hregistry⟩
    rw [← hrow]
    exact Ledger.createAccount_ok_iff.2 ⟨hfree, rfl, hafter.symm⟩

/-- An account that is closed is returned as it was. -/
theorem closeAccount_row_iff (horder : bank.ledger.InOrder) :
    (closeAccount identity id).run stamp bank = (.ok row, changed) ↔
      bank.ledger.accounts[id]? = some row ∧ bank.Serves changed identity (.deleteAccount id) := by
  unfold closeAccount
  constructor
  · intro h
    obtain ⟨owner, account, howner, haccount, howned, h⟩ := run_ownedAccount_bind_ok_iff.1 h
    obtain ⟨hdelete, hregistry⟩ := (run_change_ok_iff (q := .deleteAccount id) (Ledger.deleteAccount id) rfl).1 h
    obtain ⟨hrow, hzero, hafter⟩ := (Ledger.deleteAccount_ok_iff horder.cardsFiled).1 hdelete
    exact ⟨hrow, owner, howner, ⟨account, haccount, howned⟩, ⟨⟨row, hrow, hzero⟩, hafter.symm⟩, hregistry⟩
  · intro h
    obtain ⟨hrow, owner, howner, ⟨account, haccount, howned⟩, ⟨⟨same, hsame, hzero⟩, hafter⟩,
      hregistry⟩ := h
    obtain rfl := Option.some.inj (hsame.symm.trans hrow)
    refine run_ownedAccount_bind_ok_iff.2 ⟨owner, account, howner, haccount, howned, ?_⟩
    refine (run_change_ok_iff (q := .deleteAccount id) (Ledger.deleteAccount id) rfl).2 ⟨?_, hregistry⟩
    exact (Ledger.deleteAccount_ok_iff horder.cardsFiled).2 ⟨hrow, hzero, hafter.symm⟩

theorem closeAccount_ok_iff (horder : bank.ledger.InOrder) :
    (∃ row, (closeAccount identity id).run stamp bank = (.ok row, changed)) ↔
      bank.Serves changed identity (.deleteAccount id) := by
  simp only [closeAccount_row_iff horder, exists_and_right]
  constructor
  · exact And.right
  · intro h
    obtain ⟨owner, howner, ⟨row, hrow, howned⟩, heffect, hregistry⟩ := h
    exact ⟨⟨row, hrow⟩, owner, howner, ⟨row, hrow, howned⟩, heffect, hregistry⟩

/-- An account without money can be closed by its owner. -/
theorem exists_closeAccount_ok {owner : OwnerId} {row : Account} (stamp : Stamp)
    (horder : bank.ledger.InOrder) (howner : bank.registry.resolve identity = .ok owner)
    (hrow : bank.ledger.accounts[id]? = some row) (howned : row.owner = owner)
    (hzero : row.balance.isZero = true) :
    ∃ closed, (Change.deleteAccount id).Effect bank.ledger closed.ledger ∧
      ∃ returned, (closeAccount identity id).run stamp bank = (.ok returned, closed) := by
  let closed : Bank := { bank with ledger := { bank.ledger.dropCards id with
    accounts := bank.ledger.accounts.erase id } }
  have heffect : (Change.deleteAccount id).Effect bank.ledger closed.ledger := ⟨⟨row, hrow, hzero⟩, rfl⟩
  exact ⟨closed, heffect,
    (closeAccount_ok_iff horder).2 ⟨owner, howner, ⟨row, hrow, howned⟩, heffect, rfl⟩⟩

theorem issueCard_ok_iff {card : Card} :
    (issueCard identity id).run stamp bank = (.ok card, changed) ↔
      card = ⟨stamp.card, id, stamp.time⟩ ∧ bank.Serves changed identity (.createCard card) := by
  unfold issueCard
  constructor
  · intro h
    obtain ⟨owner, account, howner, haccount, howned, h⟩ := run_ownedAccount_bind_ok_iff.1 h
    obtain ⟨number, hnumber, h⟩ := (run_read_bind_ok_iff rfl).1 h
    obtain rfl : stamp.card = number := Except.ok.inj hnumber
    obtain ⟨hcreate, hregistry⟩ := (run_change_ok_iff (q := .addCard stamp.card id)
      (Ledger.createCard ⟨stamp.card, id, stamp.time⟩) rfl).1 h
    obtain ⟨hleads, hfree, rfl, hafter⟩ := Ledger.createCard_ok_iff.1 hcreate
    exact ⟨rfl, owner, howner, ⟨account, haccount, howned⟩, ⟨hleads, hfree, hafter.symm⟩, hregistry⟩
  · intro h
    obtain ⟨rfl, owner, howner, ⟨account, haccount, howned⟩, ⟨hleads, hfree, hafter⟩, hregistry⟩ := h
    refine run_ownedAccount_bind_ok_iff.2 ⟨owner, account, howner, haccount, howned, ?_⟩
    refine (run_read_bind_ok_iff rfl).2 ⟨stamp.card, rfl, ?_⟩
    refine (run_change_ok_iff (q := .addCard stamp.card id)
      (Ledger.createCard ⟨stamp.card, id, stamp.time⟩) rfl).2 ⟨?_, hregistry⟩
    exact Ledger.createCard_ok_iff.2 ⟨hleads, hfree, rfl, hafter.symm⟩

/-- An account that has just been opened can be issued every card whose number is not in use. -/
theorem exists_issueCard_ok {opened : Bank} (hserves : bank.Serves opened identity (.createAccount account))
    (hfree : opened.ledger.cards[stamp.card]? = none) :
    ∃ card issued, (issueCard identity account.id).run stamp opened = (.ok card, issued) := by
  obtain ⟨owner, howner, hentitled, ⟨-, hafter⟩, hregistry⟩ := hserves
  have hrow : opened.ledger.accounts[account.id]? = some account := by
    rw [hafter]
    exact Std.ExtTreeMap.getElem?_insert_self
  have hresolve : opened.registry.resolve identity = .ok owner := by
    rw [hregistry]
    exact howner
  refine ⟨⟨stamp.card, account.id, stamp.time⟩, { opened with ledger := { opened.ledger with
    cards := opened.ledger.cards.insert stamp.card ⟨stamp.card, account.id, stamp.time⟩ } }, ?_⟩
  exact issueCard_ok_iff.2
    ⟨rfl, owner, hresolve, ⟨account, hrow, hentitled⟩, ⟨⟨account, hrow⟩, hfree, rfl⟩, rfl⟩

theorem removeCard_ok_iff {raw : String} {card : Card} :
    (removeCard identity raw).run stamp bank = (.ok card, changed) ↔
      ∃ number, CardNumber.read raw = .ok number ∧ bank.ledger.cards[number]? = some card ∧
        bank.Serves changed identity (.deleteCard number) := by
  unfold removeCard
  constructor
  · intro h
    obtain ⟨number, hnumber, h⟩ := run_ofOutcome_bind_ok_iff.1 h
    obtain ⟨found, hfound, h⟩ := (run_read_bind_ok_iff rfl).1 h
    obtain ⟨owner, account, howner, haccount, howned, h⟩ := run_ownedAccount_bind_ok_iff.1 h
    obtain ⟨hdelete, hregistry⟩ :=
      (run_change_ok_iff (q := .deleteCard number) (Ledger.deleteCard number) rfl).1 h
    obtain ⟨hcard, hafter⟩ := Ledger.deleteCard_ok_iff.1 hdelete
    exact ⟨number, hnumber, hcard, owner, howner,
      ⟨found, Ledger.card_ok_iff.1 hfound, account, haccount, howned⟩, ⟨⟨card, hcard⟩, hafter.symm⟩,
      hregistry⟩
  · intro h
    obtain ⟨number, hnumber, hcard, owner, howner, ⟨found, hfound, account, haccount, howned⟩,
      ⟨-, hafter⟩, hregistry⟩ := h
    refine run_ofOutcome_bind_ok_iff.2 ⟨number, hnumber, ?_⟩
    refine (run_read_bind_ok_iff rfl).2 ⟨found, Ledger.card_ok_iff.2 hfound, ?_⟩
    refine run_ownedAccount_bind_ok_iff.2 ⟨owner, account, howner, haccount, howned, ?_⟩
    refine (run_change_ok_iff (q := .deleteCard number) (Ledger.deleteCard number) rfl).2 ⟨?_, hregistry⟩
    exact Ledger.deleteCard_ok_iff.2 ⟨hcard, hafter.symm⟩

/-! ### Movements -/

section

variable {amount : Amount} {order : Order} {kind : TransactionKind}

theorem run_record_ok_iff :
    (query (.record amount kind)).run stamp bank = (.ok tx, changed) ↔
      tx = ⟨stamp.transaction, amount, kind, false, stamp.time⟩ ∧
        (Change.record tx).Effect bank.ledger changed.ledger ∧
          changed.registry = bank.registry := by
  rw [run_change_ok_iff (q := .record amount kind)
    (Ledger.record ⟨stamp.transaction, amount, kind, false, stamp.time⟩) rfl, Ledger.record_ok_iff]
  constructor
  · intro h
    obtain ⟨⟨accounts, hmoves, hnew, rfl, hafter⟩, hregistry⟩ := h
    exact ⟨rfl, ⟨accounts, hmoves, hnew, hafter.symm⟩, hregistry⟩
  · intro h
    obtain ⟨rfl, ⟨accounts, hmoves, hnew, hafter⟩, hregistry⟩ := h
    exact ⟨⟨accounts, hmoves, hnew, rfl, hafter.symm⟩, hregistry⟩

/-- What is looked at again is as it should be wherever the movement can be recorded. -/
theorem run_recording_ok_iff (kind : TransactionKind) :
    (recording amount kind kind.accounts).run stamp bank = (.ok tx, changed) ↔
      (query (.record amount kind)).run stamp bank = (.ok tx, changed) := by
  refine ⟨run_of_recording, ?_⟩
  intro h
  obtain ⟨rfl, ⟨accounts, hmoves, -⟩, -⟩ := run_record_ok_iff.1 h
  have hids : ∀ id ∈ kind.accounts, ∃ row, bank.ledger.accounts[id]? = some row :=
    fun _ hid => hmoves.found hid
  generalize kind.accounts = ids at hids ⊢
  induction ids with
  | nil => exact h
  | cons id ids ih =>
      obtain ⟨row, hrow⟩ := hids id List.mem_cons_self
      rw [recording_cons]
      refine (run_read_bind_ok_iff rfl).2 ⟨row, Ledger.account_ok_iff.2 hrow, ?_⟩
      refine run_ofOutcome_bind_ok_iff.2 ⟨(), ?_, ih fun k hk => hids k (List.mem_cons_of_mem id hk)⟩
      split
      · next hsource => exact hmoves.covers hsource hrow
      · rfl

theorem run_transferring_ok_iff {other : Account} (hrow : bank.ledger.accounts[row.id]? = some row)
    (hother : bank.ledger.accounts[other.id]? = some other) :
    (transferring amount row other).run stamp bank = (.ok tx, changed) ↔
      (query (.record amount (.transfer row.id other.id))).run stamp bank = (.ok tx, changed) := by
  refine Iff.trans ?_ (run_recording_ok_iff (.transfer row.id other.id))
  unfold transferring
  constructor
  · intro h
    split at h
    · cases h
    split at h
    · cases h
    · exact h
  · intro h
    -- The movement itself insists on two accounts of one currency.
    obtain ⟨rfl, ⟨accounts, ⟨hne, ⟨payer, payee, hpayer, hpayee, hcurrency⟩, -⟩, -⟩, -⟩ :=
      run_record_ok_iff.1 (run_of_recording h)
    obtain rfl := Option.some.inj (hpayer.symm.trans hrow)
    obtain rfl := Option.some.inj (hpayee.symm.trans hother)
    rw [if_neg (not_not.2 hcurrency.symm), if_neg (Ne.symm hne)]
    exact h

theorem run_moving_ok_iff (horder : bank.ledger.InOrder)
    (hrow : bank.ledger.accounts[row.id]? = some row) :
    (moving ⟨amount, order⟩ row).run stamp bank = (.ok tx, changed) ↔
      ∃ kind, order.ComesTo bank.ledger row kind ∧
        (query (.record amount kind)).run stamp bank = (.ok tx, changed) := by
  rw [moving_eq]
  cases order with
  | deposit card =>
      refine (run_recording_ok_iff (.deposit row.id)).trans ?_
      constructor
      · intro h
        exact ⟨_, rfl, h⟩
      · intro h
        obtain ⟨_, rfl, h⟩ := h
        exact h
  | withdrawal card =>
      rw [run_ofOutcome_bind_ok_iff]
      constructor
      · intro h
        obtain ⟨⟨⟩, -, h⟩ := h
        exact ⟨_, rfl, run_of_recording h⟩
      · intro h
        obtain ⟨_, rfl, h⟩ := h
        obtain ⟨rfl, ⟨accounts, hmoves, -⟩, -⟩ := run_record_ok_iff.1 h
        exact ⟨(), hmoves.covers rfl hrow, (run_recording_ok_iff (.withdrawal row.id)).2 h⟩
  | transfer card destination =>
      rw [run_ofOutcome_bind_ok_iff]
      constructor
      · intro h
        obtain ⟨⟨⟩, -, h⟩ := h
        obtain ⟨other, hother, h⟩ := (run_read_bind_ok_iff rfl).1 h
        exact ⟨_, ⟨other, hother, rfl⟩, (run_transferring_ok_iff hrow (horder.getElem?_of_accountOfCard hother)).1 h⟩
      · intro h
        obtain ⟨_, ⟨other, hother, rfl⟩, h⟩ := h
        obtain ⟨rfl, ⟨accounts, hmoves, -⟩, -⟩ := run_record_ok_iff.1 h
        refine ⟨(), hmoves.covers rfl hrow, (run_read_bind_ok_iff rfl).2 ⟨other, hother, ?_⟩⟩
        exact (run_transferring_ok_iff hrow (horder.getElem?_of_accountOfCard hother)).2 h

theorem move_ok_iff {rules : Rules} {request : MovementRequest} (horder : bank.ledger.InOrder) :
    (move rules identity request).run stamp bank = (.ok tx, changed) ↔
      ∃ movement account, rules.movement request = .ok movement ∧
        bank.ledger.accountOfCard movement.order.card = .ok account ∧
          movement.order.ComesTo bank.ledger account tx.kind ∧
            tx = ⟨stamp.transaction, movement.amount, tx.kind, false, stamp.time⟩ ∧
              bank.Serves changed identity (.record tx) := by
  rw [move_eq]
  constructor
  · intro h
    obtain ⟨⟨amount, order⟩, hmovement, h⟩ := run_ofOutcome_bind_ok_iff.1 h
    obtain ⟨owner, howner, h⟩ := (run_read_bind_ok_iff rfl).1 h
    obtain ⟨account, haccount, h⟩ := (run_read_bind_ok_iff rfl).1 h
    obtain ⟨⟨⟩, howned, h⟩ := run_ofOutcome_bind_ok_iff.1 h
    have hrow := horder.getElem?_of_accountOfCard haccount
    obtain ⟨kind, hkind, h⟩ := (run_moving_ok_iff horder hrow).1 h
    obtain ⟨rfl, heffect, hregistry⟩ := run_record_ok_iff.1 h
    have howns : bank.ledger.Owns owner kind.party := by
      rw [hkind.party]
      exact ⟨account, hrow, Account.ensureOwnedBy_ok_iff.1 howned⟩
    exact ⟨⟨amount, order⟩, account, hmovement, haccount, hkind, rfl, owner, howner, howns, heffect,
      hregistry⟩
  · intro h
    obtain ⟨⟨amount, order⟩, account, hmovement, haccount, hkind, htx, owner, howner, howns, heffect,
      hregistry⟩ := h
    have hrow := horder.getElem?_of_accountOfCard haccount
    obtain ⟨found, hfound, howned⟩ : bank.ledger.Owns owner tx.kind.party := howns
    rw [hkind.party] at hfound
    obtain rfl := Option.some.inj (hfound.symm.trans hrow)
    refine run_ofOutcome_bind_ok_iff.2 ⟨⟨amount, order⟩, hmovement, ?_⟩
    refine (run_read_bind_ok_iff rfl).2 ⟨owner, howner, ?_⟩
    refine (run_read_bind_ok_iff rfl).2 ⟨found, haccount, ?_⟩
    refine run_ofOutcome_bind_ok_iff.2 ⟨(), Account.ensureOwnedBy_ok_iff.2 howned, ?_⟩
    refine (run_moving_ok_iff horder hrow).2 ⟨tx.kind, hkind, ?_⟩
    exact run_record_ok_iff.2 ⟨htx, heffect, hregistry⟩

end

/-! ### Reversals -/

/-- A transfer that is taken back is returned as it was, but for its mark. -/
theorem reverse_row_iff {request : ReversalRequest} {row : Transaction} :
    (reverse identity request).run stamp bank = (.ok row, changed) ↔
      ∃ key tx, Rules.reversal request = .ok key ∧ bank.ledger.transactions[key]? = some tx ∧
        row = { tx with rolledBack := true } ∧
          bank.Serves changed identity (.rollbackTransfer key) := by
  rw [reverse_eq]
  constructor
  · intro h
    obtain ⟨key, hkey, h⟩ := run_ofOutcome_bind_ok_iff.1 h
    obtain ⟨owner, howner, h⟩ := (run_read_bind_ok_iff rfl).1 h
    obtain ⟨found, hfound, h⟩ := (run_read_bind_ok_iff rfl).1 h
    obtain ⟨⟨source, destination⟩, hends, h⟩ := run_ofOutcome_bind_ok_iff.1 h
    obtain ⟨account, haccount, h⟩ := (run_read_bind_ok_iff rfl).1 h
    obtain ⟨⟨⟩, howned, h⟩ := run_ofOutcome_bind_ok_iff.1 h
    obtain ⟨hreverse, hregistry⟩ := (run_change_ok_iff (q := .reverse key) (Ledger.rollbackTransfer key) rfl).1 h
    obtain ⟨tx, payer, payee, accounts, htx, hkind, hflag, hpass, rfl, hafter⟩ :=
      Ledger.rollbackTransfer_ok_iff.1 hreverse
    exact ⟨key, tx, hkey, htx, rfl, owner, howner,
      ⟨found, source, destination, Ledger.transaction_ok_iff.1 hfound,
        (Transaction.ensureReversible_ok_iff.1 hends).1,
        account, Ledger.account_ok_iff.1 haccount, Account.ensureOwnedBy_ok_iff.1 howned⟩,
      ⟨tx, payer, payee, accounts, htx, hkind, hflag, hpass, hafter.symm⟩, hregistry⟩
  · intro h
    obtain ⟨key, tx, hkey, htx, rfl, owner, howner, ⟨found, source, destination, hfound, hkind,
      account, haccount, howned⟩, ⟨same, payer, payee, accounts, hsame, hends, hflag, hpass, hafter⟩,
      hregistry⟩ := h
    obtain rfl := Option.some.inj (htx.symm.trans hfound)
    obtain rfl := Option.some.inj (htx.symm.trans hsame)
    obtain ⟨rfl, rfl⟩ := TransactionKind.transfer.inj (hkind.symm.trans hends)
    refine run_ofOutcome_bind_ok_iff.2 ⟨key, hkey, ?_⟩
    refine (run_read_bind_ok_iff rfl).2 ⟨owner, howner, ?_⟩
    refine (run_read_bind_ok_iff rfl).2 ⟨tx, Ledger.transaction_ok_iff.2 htx, ?_⟩
    refine run_ofOutcome_bind_ok_iff.2
      ⟨(source, destination), Transaction.ensureReversible_ok_iff.2 ⟨hkind, hflag⟩, ?_⟩
    refine (run_read_bind_ok_iff rfl).2 ⟨account, Ledger.account_ok_iff.2 haccount, ?_⟩
    refine run_ofOutcome_bind_ok_iff.2 ⟨(), Account.ensureOwnedBy_ok_iff.2 howned, ?_⟩
    refine (run_change_ok_iff (q := .reverse key) (Ledger.rollbackTransfer key) rfl).2 ⟨?_, hregistry⟩
    exact Ledger.rollbackTransfer_ok_iff.2
      ⟨tx, source, destination, accounts, htx, hkind, hflag, hpass, rfl, hafter.symm⟩

theorem reverse_ok_iff {request : ReversalRequest} :
    (∃ row, (reverse identity request).run stamp bank = (.ok row, changed)) ↔
      ∃ key, Rules.reversal request = .ok key ∧
        bank.Serves changed identity (.rollbackTransfer key) := by
  simp only [reverse_row_iff]
  constructor
  · intro h
    obtain ⟨row, key, tx, hkey, -, -, hserves⟩ := h
    exact ⟨key, hkey, hserves⟩
  · intro h
    obtain ⟨key, hkey, owner, howner, ⟨tx, source, destination, htx, hends⟩, heffect, hregistry⟩ := h
    exact ⟨_, key, tx, hkey, htx, rfl, owner, howner, ⟨tx, source, destination, htx, hends⟩, heffect,
      hregistry⟩

end Plan

end Cashbook
