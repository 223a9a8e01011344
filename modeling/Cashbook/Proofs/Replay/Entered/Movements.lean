/-
Money moves where it moves in the book.

A movement by card is a movement between accounts, and so between entries of the book: there
is money for it on one side just where there is on the other.  What it was made under is then
kept on both sides, so that taking it back succeeds on both or on neither.
-/
import Cashbook.Proofs.Replay.Entered.Accounts

namespace Cashbook

variable {users : List String} {rules : Rules} {stamps : Nat → Stamp} {count : Nat} {book : Book}
  {address : Address} {handle : Handle} {op : Operation} {P E : Replay Desk → Prop}

/-! ### Movements -/

/-- The order may be given by the caller, and means the route. -/
def Order.Takes (users : List String) (bank : Bank) (user : String) (order : Order) (route : Route) :
    Prop :=
  bank.Knows user ∧ ∃ account kind, bank.ledger.accountOfCard order.card = .ok account ∧
    account.owner = ownerOf user ∧ order.ComesTo bank.ledger account kind ∧
      route.Means (Address.Lies users bank.ledger.accounts) kind

/-- An order comes to one kind of transaction at most. -/
theorem Order.ComesTo.kind_eq {ledger : Ledger} {account : Account} {kind other : TransactionKind}
    {order : Order} (h : order.ComesTo ledger account kind) (hother : order.ComesTo ledger account other) :
    kind = other := by
  cases order with
  | deposit card => exact Eq.trans h (Eq.symm hother)
  | withdrawal card => exact Eq.trans h (Eq.symm hother)
  | transfer source destination =>
      obtain ⟨payee, hpayee, rfl⟩ := h
      obtain ⟨same, hsame, rfl⟩ := hother
      rw [Except.ok.inj (hpayee.symm.trans hsame)]

/-- What a movement can be taken back by, if it can. -/
theorem Route.Means.awaits {route : Route} {ledger : Ledger} {tx : Transaction}
    (h : route.Means (Address.Lies users ledger.accounts) tx.kind) (hflag : tx.rolledBack = false) :
    tx.Awaits users ledger (route.remittance? tx.amount) := by
  cases route with
  | transfer source destination =>
      cases hkind : tx.kind with
      | transfer payer payee =>
          rw [hkind] at h
          exact ⟨hflag, rfl, payer, payee, hkind, h.1, h.2⟩
      | deposit payee => rw [hkind] at h; exact h.elim
      | withdrawal payer => rw [hkind] at h; exact h.elim
  | deposit destination =>
      intro payer payee hkind
      rw [hkind] at h
      exact h.elim
  | withdrawal source =>
      intro payer payee hkind
      rw [hkind] at h
      exact h.elim

theorem Book.move_eq_some_iff {value : Decimal} {route : Route} {book' : Book} :
    book.move rules op value route = some book' ↔
      ∃ amount entries, rules.amount value = .ok amount ∧
        route.follow amount book.entries = some entries ∧
          book' = Book.refer op (route.remittance? amount) { book with entries } := by
  unfold Book.move
  constructor
  · intro h
    obtain ⟨amount, hamount, h⟩ := Option.bind_eq_some_iff.1 h
    obtain ⟨entries, hentries, h⟩ := Option.bind_eq_some_iff.1 h
    exact ⟨amount, entries, ok_of_toOption hamount, hentries, (Option.some.inj h).symm⟩
  · intro h
    obtain ⟨amount, entries, hamount, hentries, rfl⟩ := h
    refine Option.bind_eq_some_iff.2 ⟨amount, by rw [hamount]; rfl, ?_⟩
    exact Option.bind_eq_some_iff.2 ⟨entries, hentries, rfl⟩

namespace Task

open Replay

/-- Money moves where it moves in the book. -/
theorem matches_move_call (hdistinct : OwnersDistinct users) (hfresh : Fresh stamps (count + 1))
    {request : MovementRequest} {value : Decimal} {order : Order} {route : Route}
    (hread : rules.movement request = rules.amount value >>= fun amount => .ok ⟨amount, order⟩) :
    Matches (fun r => r.Stands users rules stamps count none book ∧
        order.Takes users r.teller.bank op.user route)
      (Replay.serve fun rules => Plan.move rules op.user request) (book.move rules op value route)
      (fun tx book' r => ∃ moved : Book, book' = moved.refer op (route.remittance? tx.amount) ∧
        r.Stands users rules stamps (count + 1) none moved ∧
          r.teller.bank.ledger.transactions[tx.id]? = some tx ∧
            tx.Awaits users r.teller.bank.ledger (route.remittance? tx.amount) ∧
              ∀ label : String, r.references[label]? ≠ some tx.id)
      (·.Stands users rules stamps (count + 1) none book) := by
  refine matches_serve (fun rules => Plan.concludes_move rules op.user request) ?_ ?_ fun r hr _ =>
    hr.1.idle _
  · intro r hr tx changed hrun
    obtain ⟨hstands, hknows, account, kind, haccount, howner, hcomes, hmeans⟩ := hr
    have hused := Desk.usedAfter_of_ok (Plan.draws_move r.teller.rules op.user request) hrun
    obtain ⟨movement, account', hmovement, haccount', hcomes', htx, hserves⟩ :=
      (Plan.move_ok_iff hstands.sound.bank.tidy.toInOrder).1 hrun
    rw [hstands.rules_eq, hread] at hmovement
    obtain ⟨amount, hamount, hmade⟩ := Outcome.bind_ok_iff.1 hmovement
    obtain rfl := Except.ok.inj hmade
    obtain rfl := Except.ok.inj (haccount'.symm.trans haccount)
    obtain rfl := hcomes'.kind_eq hcomes
    obtain rfl : tx.amount = amount := by rw [htx]
    have hserves' := hserves
    obtain ⟨-, -, -, heffect, -⟩ := hserves'
    obtain ⟨entries, hfollow, hshows⟩ :=
      hstands.shows.record (hstands.biUnique_lies hdistinct) heffect hmeans
    refine ⟨_, Book.move_eq_some_iff.2 ⟨tx.amount, entries, hamount, hfollow, rfl⟩,
      { book with entries }, rfl, hstands.serve hserves trivial nofun nofun ?_ ?_ hshows, ?_⟩
    · exact ⟨r.teller.used, by rw [hused]; exact Nat.lt_succ_self _, by rw [htx, hstands.stamp_eq]⟩
    · exact hstands.carded.step hstands.sound.bank.tidy.cardsFiled heffect nofun nofun nofun
    · obtain ⟨accounts, hmoves, hnew, hafter⟩ := heffect
      show changed.ledger.transactions[tx.id]? = some tx ∧
        tx.Awaits users changed.ledger (route.remittance? tx.amount) ∧
          ∀ label : String, r.references[label]? ≠ some tx.id
      rw [hafter]
      refine ⟨Std.ExtTreeMap.getElem?_insert_self, ?_, ?_⟩
      · refine Route.Means.awaits ?_ (by rw [htx])
        show route.Means (Address.Lies users accounts) tx.kind
        rw [hmoves.alike.lies_eq]
        exact hmeans
      · intro label hlabel
        obtain ⟨old, hold⟩ := hstands.shows.recorded hlabel
        rw [hnew] at hold
        cases hold
  · intro r hr book' hbook'
    obtain ⟨hstands, hknows, account, kind, haccount, howner, hcomes, hmeans⟩ := hr
    obtain ⟨amount, entries, hamount, hfollow, -⟩ := Book.move_eq_some_iff.1 hbook'
    obtain ⟨accounts, hmoves⟩ :=
      hstands.shows.entries.exists_moves (hstands.biUnique_lies hdistinct) hmeans hfollow
    have hnew := hstands.drawn.transaction_new hfresh (Nat.lt_succ_of_le hstands.used_le)
    rw [← hstands.stamp_eq] at hnew
    have hrow := hstands.sound.bank.tidy.toInOrder.getElem?_of_accountOfCard haccount
    let tx : Transaction := ⟨r.stamp.transaction, amount, kind, false, r.stamp.time⟩
    refine ⟨tx, { r.teller.bank with ledger := { r.teller.bank.ledger with
      accounts, transactions := r.teller.bank.ledger.transactions.insert tx.id tx } }, ?_⟩
    refine (Plan.move_ok_iff hstands.sound.bank.tidy.toInOrder).2 ⟨⟨amount, order⟩, account, ?_,
      haccount, hcomes, rfl, ownerOf op.user, Registry.resolve_ok_iff.2 hknows, ?_,
      ⟨accounts, hmoves, hnew, rfl⟩, rfl⟩
    · rw [hstands.rules_eq, hread, hamount]
      rfl
    · show r.teller.bank.ledger.Owns (ownerOf op.user) kind.party
      rw [hcomes.party]
      exact ⟨account, hrow, howner⟩

/-- The reference of the row stands for the movement. -/
theorem matches_move (hdistinct : OwnersDistinct users) (hfresh : Fresh stamps (count + 1))
    {request : MovementRequest} {value : Decimal} {order : Order} {route : Route}
    (hread : rules.movement request = rules.amount value >>= fun amount => .ok ⟨amount, order⟩) :
    Matches (fun r => r.Stands users rules stamps count none book ∧
        order.Takes users r.teller.bank op.user route)
      (Replay.move op request) (book.move rules op value route)
      (fun _ book' r => r.Stands users rules stamps (count + 1) none book')
      (·.Stands users rules stamps (count + 1) none book) := by
  refine (matches_move_call hdistinct hfresh hread).andThen fun tx book' => ?_
  cases hreference : op.reference with
  | none =>
      refine leads_pure fun r hr => ?_
      obtain ⟨moved, rfl, hstands, -⟩ := hr
      rw [Book.refer, hreference]
      exact hstands
  | some label =>
      refine leads_modify fun r hr => ?_
      obtain ⟨moved, rfl, hstands, htx, hawaits, hnew⟩ := hr
      rw [Book.refer, hreference]
      exact { hstands with
        sound := ⟨hstands.sound.bank, hstands.sound.remembered⟩
        shows := hstands.shows.refer htx hawaits hnew label }

end Task

namespace Address.LeadsTo

variable {bank : Bank} {other : Address} {target : Handle}

/-- The card of a handle leads to its account. -/
theorem accountOfCard (h : address.LeadsTo bank handle) :
    ∃ row, bank.ledger.accountOfCard handle.card = .ok row ∧
      bank.ledger.accounts[handle.account]? = some row ∧ row.owner = ownerOf address.user := by
  obtain ⟨row, hrow, howner, -⟩ := h.account
  obtain ⟨card, hcard, haccount⟩ := h.card
  exact ⟨row, Ledger.accountOfCard_ok_iff.2 ⟨card, hcard, by rw [haccount]; exact hrow⟩, hrow, howner⟩

theorem takes_deposit (h : address.LeadsTo bank handle) (hsound : bank.Sound users)
    (hdistinct : OwnersDistinct users) :
    (Order.deposit handle.card).Takes users bank address.user (.deposit address) := by
  obtain ⟨row, haccount, hrow, howner⟩ := h.accountOfCard
  have hid := hsound.tidy.accountsFiled _ _ hrow
  exact ⟨h.knows, row, .deposit row.id, haccount, howner, rfl,
    hid ▸ (hsound.names_iff hdistinct).1 h.toNames⟩

theorem takes_withdrawal (h : address.LeadsTo bank handle) (hsound : bank.Sound users)
    (hdistinct : OwnersDistinct users) :
    (Order.withdrawal handle.card).Takes users bank address.user (.withdrawal address) := by
  obtain ⟨row, haccount, hrow, howner⟩ := h.accountOfCard
  have hid := hsound.tidy.accountsFiled _ _ hrow
  exact ⟨h.knows, row, .withdrawal row.id, haccount, howner, rfl,
    hid ▸ (hsound.names_iff hdistinct).1 h.toNames⟩

theorem takes_transfer (h : address.LeadsTo bank handle) (hother : other.LeadsTo bank target)
    (hsound : bank.Sound users) (hdistinct : OwnersDistinct users) :
    (Order.transfer handle.card target.card).Takes users bank address.user (.transfer address other) := by
  obtain ⟨row, haccount, hrow, howner⟩ := h.accountOfCard
  obtain ⟨payee, hpayee, hpayeeRow, -⟩ := hother.accountOfCard
  have hid := hsound.tidy.accountsFiled _ _ hrow
  have hpayeeId := hsound.tidy.accountsFiled _ _ hpayeeRow
  exact ⟨h.knows, row, .transfer row.id payee.id, haccount, howner, ⟨payee, hpayee, rfl⟩,
    hid ▸ (hsound.names_iff hdistinct).1 h.toNames,
    hpayeeId ▸ (hsound.names_iff hdistinct).1 hother.toNames⟩

end Address.LeadsTo

namespace Task

open Replay

/-- A deposit or a withdrawal: both need the account and an amount, and no more. -/
theorem matches_payment (hdistinct : OwnersDistinct users) (hfresh : Fresh stamps (count + 1))
    (huser : op.user ∈ users) {request : Decimal → CardNumber → MovementRequest}
    {order : CardNumber → Order} {route : Route}
    (hread : ∀ value card, card.IsSound → rules.movement (request value card) =
      rules.amount value >>= fun amount => .ok ⟨amount, order card⟩)
    (htakes : ∀ (bank : Bank) (handle : Handle), bank.Sound users →
      (addressOf op).LeadsTo bank handle → (order handle.card).Takes users bank op.user route) :
    Matches (·.Stands users rules stamps count none book)
      (Replay.require (addressOf op) >>= fun handle => Replay.amountOf op >>= fun value =>
        Replay.move op (request value handle.card))
      (book.entries[addressOf op]? >>= fun _ => op.amount >>= fun value =>
        book.move rules op value route)
      (fun _ book' r => r.Stands users rules stamps (count + 1) none book')
      (·.Stands users rules stamps (count + 1) none book) := by
  refine (matches_requireOwn hdistinct huser).bind fun handle entry => ?_
  refine (matches_amountOf fun r hr => hr.2.1.mono (Nat.le_succ _)).bind fun value other r hr => ?_
  obtain ⟨rfl, -, hstands, hleads⟩ := hr
  have hcard := hstands.card_sound (hfresh.mono (Nat.le_succ _)) hleads
  exact matches_move hdistinct hfresh (hread value handle.card hcard) r
    ⟨hstands, htakes _ _ hstands.sound.bank hleads⟩

theorem matches_counterpartyOf (h : ∀ r, P r → E r) :
    Matches P (Replay.counterpartyOf op) (Book.counterpartyOf op)
      (fun address other r => address = other ∧ address.user ∈ op.mentions ∧ P r) E := by
  refine Matches.bind (S := fun raw other r => raw = other ∧ op.counterparty = some raw ∧ P r) ?_ ?_
  · exact leads_demand (fun raw hraw r hr => ⟨raw, hraw, rfl, hraw, hr⟩) fun hnone r hr => ⟨hnone, h r hr⟩
  · intro raw other r hr
    obtain ⟨rfl, hraw, hr⟩ := hr
    refine leads_liftExcept (fun address haddress s hs => ?_) (fun hnone s hs => ?_) r hr
    · exact ⟨address, by rw [haddress]; rfl, rfl, Operation.counterparty_mem_mentions hraw haddress, hs⟩
    · refine ⟨?_, h s hs⟩
      cases haddress : Address.parse raw with
      | ok address => exact absurd haddress (hnone address)
      | error failure => rfl

theorem matches_transfer (hdistinct : OwnersDistinct users) (hfresh : Fresh stamps (count + 1))
    (hmentions : op.mentions ⊆ users) :
    Matches (·.Stands users rules stamps count none book) (Replay.transfer op)
      (book.entries[addressOf op]? >>= fun _ => Book.counterpartyOf op >>= fun address =>
        book.entries[address]? >>= fun _ => op.amount >>= fun value =>
          book.move rules op value (.transfer (addressOf op) address))
      (fun _ book' r => r.Stands users rules stamps (count + 1) none book')
      (·.Stands users rules stamps (count + 1) none book) := by
  have huser : op.user ∈ users := hmentions op.user_mem_mentions
  rw [transfer_eq]
  refine (matches_requireOwn hdistinct huser).bind fun source entry => ?_
  refine (matches_counterpartyOf fun r hr => hr.2.1.mono (Nat.le_succ _)).bind fun address other r hr => ?_
  obtain ⟨rfl, haddress, -, hstands, hsource⟩ := hr
  -- Looking up the other side leaves the handle of this one as it is.
  refine (matches_require (F := fun bank => (addressOf op).LeadsTo bank source) hdistinct
    (hmentions haddress) fun _ user hleads => hleads.register user).bind (fun destination payee => ?_) r
      ⟨hstands, hsource⟩
  refine (matches_amountOf fun r hr => hr.2.1.mono (Nat.le_succ _)).bind fun value same s hs => ?_
  obtain ⟨rfl, -, hstands, hsource, hdestination⟩ := hs
  have hcount := hfresh.mono (Nat.le_succ count)
  exact matches_move hdistinct hfresh
    (Rules.movement_transfer (hstands.card_sound hcount hsource) (hstands.card_sound hcount hdestination))
    s ⟨hstands, hsource.takes_transfer hdestination hstands.sound.bank hdistinct⟩

/-! ### Reversals -/

end Task

theorem Book.takeBack_eq_some_iff {label : String} {remittance : Remittance} {book' : Book} :
    book.takeBack op label remittance = some book' ↔
      op.user = remittance.source.user ∧ ∃ entries,
        Entry.pass remittance.amount remittance.destination remittance.source book.entries = some entries ∧
          book' = ⟨entries, book.references.insert label none⟩ := by
  unfold Book.takeBack
  constructor
  · intro h
    split at h
    · next huser =>
        obtain ⟨entries, hentries, h⟩ := Option.bind_eq_some_iff.1 h
        exact ⟨huser, entries, hentries, (Option.some.inj h).symm⟩
    · cases h
  · intro h
    obtain ⟨huser, entries, hentries, rfl⟩ := h
    rw [if_pos huser]
    exact Option.bind_eq_some_iff.2 ⟨entries, hentries, rfl⟩

namespace Task

open Replay

/-- What a reference stands for is taken back where it can be. -/
theorem matches_reverse (hdistinct : OwnersDistinct users) (huser : op.user ∈ users) {label : String}
    {key : TransactionId} {tx : Transaction} {remittance? : Option Remittance} :
    Matches (fun r => r.Stands users rules stamps count none book ∧ r.teller.bank.Knows op.user ∧
        r.references[label]? = some key ∧ r.teller.bank.ledger.transactions[key]? = some tx ∧
          tx.Awaits users r.teller.bank.ledger remittance?)
      (Replay.serve fun _ => Plan.reverse op.user ⟨key.toText⟩)
      (remittance? >>= fun remittance => book.takeBack op label remittance)
      (fun _ book' r => r.Stands users rules stamps (count + 1) none book')
      (·.Stands users rules stamps (count + 1) none book) := by
  refine matches_serve (fun _ => Plan.concludes_reverse op.user ⟨key.toText⟩) ?_ ?_ fun r hr _ =>
    hr.1.idle _
  · intro r hr row changed hrun
    obtain ⟨hstands, hknows, hkey, htx, hawaits⟩ := hr
    obtain ⟨key', hkey', hserves⟩ := Plan.reverse_ok_iff.1 ⟨row, hrun⟩
    obtain rfl : key' = key := Except.ok.inj (hkey'.symm.trans (Id.parse_toText key))
    have hserves' := hserves
    obtain ⟨owner, howner, ⟨same, payer, payee, hsame, hkind, account, haccount, howned⟩, heffect, -⟩ :=
      hserves'
    obtain rfl := Option.some.inj (htx.symm.trans hsame)
    obtain ⟨rfl, -⟩ := hstands.sound.bank.knows howner
    have heffect' := heffect
    obtain ⟨same, payer', payee', accounts, hsame, hkind', hflag, hpassed, -⟩ := heffect'
    obtain rfl := Option.some.inj (htx.symm.trans hsame)
    obtain ⟨rfl, rfl⟩ := TransactionKind.transfer.inj (hkind.symm.trans hkind')
    cases remittance? with
    | none =>
        -- Both accounts are there, so nothing is in the way of taking it back.
        obtain ⟨between, hcredit, ⟨payeeRow, -, hpayee, -⟩⟩ := hpassed
        obtain ⟨old, hold, -⟩ := (Credited.alike hcredit).was hpayee
        rcases hawaits payer payee hkind hflag with hnone | hnone
        · rw [haccount] at hnone
          cases hnone
        · rw [hold] at hnone
          cases hnone
    | some remittance =>
        have hawaits' := hawaits
        obtain ⟨-, -, payer', payee', hkind'', ⟨hsource, source, hrow, howner', -⟩, -⟩ := hawaits'
        obtain ⟨rfl, rfl⟩ := TransactionKind.transfer.inj (hkind.symm.trans hkind'')
        obtain rfl := Option.some.inj (haccount.symm.trans hrow)
        have heq := hdistinct _ huser _ hsource (howned.symm.trans howner')
        obtain ⟨entries, hpass, hshows⟩ :=
          hstands.shows.reverse (hstands.biUnique_lies hdistinct) heffect hkey htx hawaits
        refine ⟨_, Book.takeBack_eq_some_iff.2 ⟨heq, entries, hpass, rfl⟩,
          hstands.serve hserves trivial nofun nofun trivial ?_ hshows⟩
        exact hstands.carded.step hstands.sound.bank.tidy.cardsFiled heffect nofun nofun nofun
  · intro r hr book' hbook'
    obtain ⟨hstands, hknows, hkey, htx, hawaits⟩ := hr
    cases remittance? with
    | none => cases hbook'
    | some remittance =>
        obtain ⟨heq, entries, hpass, -⟩ := Book.takeBack_eq_some_iff.1 hbook'
        obtain ⟨hflag, hamount, payer, payee, hkind, hsource, hdestination⟩ := hawaits
        obtain ⟨accounts, hpassed⟩ := hstands.shows.entries.exists_passed
          (hstands.biUnique_lies hdistinct) hdestination hsource hpass
        rw [← hamount] at hpassed
        obtain ⟨-, row, hrow, howner, -⟩ := hsource
        let changed : Bank := { r.teller.bank with ledger := { r.teller.bank.ledger with
          accounts
          transactions := r.teller.bank.ledger.transactions.insert key { tx with rolledBack := true } } }
        have hserves : r.teller.bank.Serves changed op.user (.rollbackTransfer key) :=
          ⟨ownerOf op.user, Registry.resolve_ok_iff.2 hknows,
            ⟨tx, payer, payee, htx, hkind, row, hrow, by rw [heq]; exact howner⟩,
            ⟨tx, payer, payee, accounts, htx, hkind, hflag, hpassed, rfl⟩, rfl⟩
        obtain ⟨result, hresult⟩ := Plan.reverse_ok_iff.2 ⟨key, Id.parse_toText key, hserves⟩
        exact ⟨result, changed, hresult⟩

theorem matches_rollback (hdistinct : OwnersDistinct users) (huser : op.user ∈ users) :
    Matches (fun r => r.Stands users rules stamps count none book ∧ r.teller.bank.Knows op.user)
      (Replay.rollback op) (book.rollback op)
      (fun _ book' r => r.Stands users rules stamps (count + 1) none book')
      (·.Stands users rules stamps (count + 1) none book) := by
  unfold Replay.rollback Book.rollback
  refine (matches_demand fun r hr => hr.1.mono (Nat.le_succ _)).bind fun label other => ?_
  refine matches_get_bind fun r hr => ?_
  obtain ⟨rfl, hstands, hknows⟩ := hr
  have hpending := hstands.shows.pending label
  cases hkey : r.references[label]? with
  | none =>
      rw [hkey] at hpending
      cases hshown : book.references[label]? with
      | none => exact matches_refuse fun s hs => by obtain rfl := hs; exact hstands.mono (Nat.le_succ _)
      | some remittance? =>
          rw [hshown] at hpending
          cases hpending
  | some key =>
      rw [hkey] at hpending
      cases hshown : book.references[label]? with
      | none =>
          rw [hshown] at hpending
          cases hpending
      | some remittance? =>
          rw [hshown] at hpending
          cases hpending with
          | some hawaits =>
              obtain ⟨tx, htx, hawaits⟩ := hawaits
              refine Matches.andThen ?_ fun _ book' => leads_pure fun _ hs => hs
              exact (matches_reverse hdistinct huser).mono
                (fun s hs => by obtain rfl := hs; exact ⟨hstands, hknows, hkey, htx, hawaits⟩)
                (fun _ _ _ h => h) fun _ h => h

end Task

end Cashbook
