/-
Accounts and the entries of a book.

The entries of a book mirror a table of accounts if at each address there is what the account
there holds.  Which account is at which address does not change when money moves, so it is
taken as given here; all that matters is that no account is at two addresses and no address
has two.  Money then moves in the book just where it moves between the accounts.
-/
import Mathlib.Logic.Relator
import Cashbook.Proofs.Ledger.History
import Cashbook.Proofs.Ledger.Movement
import Cashbook.Proofs.Replay.Book

namespace Cashbook

variable {f : Balance → Outcome Balance} {amount : Amount} {address source destination : Address}
  {entries changed : Table Address Entry} {route : Route}

/-! ### When money moves in a book -/

theorem Entry.rebalance_eq_some_iff :
    Entry.rebalance f address entries = some changed ↔
      ∃ entry balance, entries[address]? = some entry ∧ f entry.balance = .ok balance ∧
        changed = entries.insert address { entry with balance } := by
  unfold Entry.rebalance
  constructor
  · intro h
    obtain ⟨entry, hentry, h⟩ := Option.bind_eq_some_iff.1 h
    obtain ⟨balance, hbalance, h⟩ := Option.bind_eq_some_iff.1 h
    exact ⟨entry, balance, hentry, ok_of_toOption hbalance, (Option.some.inj h).symm⟩
  · intro h
    obtain ⟨entry, balance, hentry, hbalance, rfl⟩ := h
    rw [hentry, Option.bind_eq_bind, Option.bind_some, hbalance]
    rfl

theorem Entry.pass_eq_some_iff :
    Entry.pass amount source destination entries = some changed ↔
      ∃ between,
        Entry.rebalance (fun balance => balance.credit amount) destination entries = some between ∧
          Entry.rebalance (fun balance => balance.debit amount) source between = some changed :=
  Option.bind_eq_some_iff

theorem Route.follow_transfer_eq_some_iff :
    (Route.transfer source destination).follow amount entries = some changed ↔
      ∃ payer payee, entries[source]? = some payer ∧ entries[destination]? = some payee ∧
        source ≠ destination ∧ payer.currency = payee.currency ∧
          Entry.pass amount source destination entries = some changed := by
  unfold Route.follow
  constructor
  · intro h
    obtain ⟨payer, hpayer, h⟩ := Option.bind_eq_some_iff.1 h
    obtain ⟨payee, hpayee, h⟩ := Option.bind_eq_some_iff.1 h
    split at h
    · next hboth => exact ⟨payer, payee, hpayer, hpayee, hboth.1, hboth.2, h⟩
    · cases h
  · intro h
    obtain ⟨payer, payee, hpayer, hpayee, hne, hcurrency, h⟩ := h
    simp only [hpayer, hpayee, Option.bind_eq_bind, Option.bind_some]
    exact (if_pos ⟨hne, hcurrency⟩).trans h

/-! ### Mirrored accounts -/

/-- At each address there is what the account holds that lies there. -/
def Mirrors (lies : Address → AccountId → Prop) (entries : Table Address Entry)
    (accounts : Table AccountId Account) : Prop :=
  ∀ (address : Address) (entry : Entry), entries[address]? = some entry ↔
    ∃ id row, lies address id ∧ accounts[id]? = some row ∧ row.entry = entry

/-- The route leads between the accounts of the transaction. -/
def Route.Means (lies : Address → AccountId → Prop) : Route → TransactionKind → Prop
  | .deposit address, .deposit id => lies address id
  | .withdrawal address, .withdrawal id => lies address id
  | .transfer source destination, .transfer payer payee => lies source payer ∧ lies destination payee
  | _, _ => False

namespace Mirrors

variable {lies : Address → AccountId → Prop} {accounts after : Table AccountId Account}
  {id payer payee : AccountId} {kind : TransactionKind}

theorem entry_eq (h : Mirrors lies entries accounts) (hlies : lies address id) {row : Account}
    (hrow : accounts[id]? = some row) : entries[address]? = some row.entry :=
  (h address row.entry).2 ⟨id, row, hlies, hrow, rfl⟩

theorem exists_row (h : Mirrors lies entries accounts) (hone : Relator.BiUnique lies)
    (hlies : lies address id) {entry : Entry} (hentry : entries[address]? = some entry) :
    ∃ row, accounts[id]? = some row ∧ row.entry = entry := by
  obtain ⟨same, row, hsame, hrow, heq⟩ := (h address entry).1 hentry
  obtain rfl := hone.2 hlies hsame
  exact ⟨row, hrow, heq⟩

/-- What goes through for an account goes through at its address. -/
theorem rebalanced (h : Mirrors lies entries accounts) (hone : Relator.BiUnique lies)
    (hlies : lies address id) (hr : Rebalanced f id accounts after) :
    ∃ changed, Entry.rebalance f address entries = some changed ∧ Mirrors lies changed after := by
  obtain ⟨row, balance, hrow, hf, rfl⟩ := hr
  refine ⟨_, Entry.rebalance_eq_some_iff.2 ⟨row.entry, balance, h.entry_eq hlies hrow, hf, rfl⟩, ?_⟩
  intro other entry
  by_cases hother : address = other
  · subst hother
    rw [Std.ExtTreeMap.getElem?_insert_self]
    constructor
    · intro hentry
      exact ⟨id, _, hlies, Std.ExtTreeMap.getElem?_insert_self, Option.some.inj hentry⟩
    · intro hentry
      obtain ⟨same, new, hsame, hnew, rfl⟩ := hentry
      obtain rfl := hone.2 hlies hsame
      rw [Std.ExtTreeMap.getElem?_insert_self] at hnew
      rw [← Option.some.inj hnew]
      rfl
  · rw [Table.getElem?_insert_of_ne _ _ hother, h other entry]
    have hkept : ∀ k : AccountId, lies other k →
        (accounts.insert id { row with balance })[k]? = accounts[k]? := by
      intro k hk
      refine Table.getElem?_insert_of_ne _ _ ?_
      rintro rfl
      exact hother (hone.1 hlies hk)
    refine exists_congr fun k => exists_congr fun new => and_congr_right fun hk => ?_
    rw [hkept k hk]

/-- What goes through at an address goes through for the account there. -/
theorem exists_rebalanced (h : Mirrors lies entries accounts) (hone : Relator.BiUnique lies)
    (hlies : lies address id) (hr : Entry.rebalance f address entries = some changed) :
    ∃ after, Rebalanced f id accounts after := by
  obtain ⟨entry, balance, hentry, hf, -⟩ := Entry.rebalance_eq_some_iff.1 hr
  obtain ⟨row, hrow, rfl⟩ := h.exists_row hone hlies hentry
  exact ⟨_, row, balance, hrow, hf, rfl⟩

theorem passed (h : Mirrors lies entries accounts) (hone : Relator.BiUnique lies)
    (hsource : lies source payer) (hdestination : lies destination payee)
    (hp : Passed amount payer payee accounts after) :
    ∃ changed, Entry.pass amount source destination entries = some changed ∧
      Mirrors lies changed after := by
  obtain ⟨between, hcredit, hdebit⟩ := hp
  obtain ⟨credited, hup, hbetween⟩ := h.rebalanced hone hdestination hcredit
  obtain ⟨changed, hdown, hafter⟩ := hbetween.rebalanced hone hsource hdebit
  exact ⟨changed, Entry.pass_eq_some_iff.2 ⟨credited, hup, hdown⟩, hafter⟩

theorem exists_passed (h : Mirrors lies entries accounts) (hone : Relator.BiUnique lies)
    (hsource : lies source payer) (hdestination : lies destination payee)
    (hp : Entry.pass amount source destination entries = some changed) :
    ∃ after, Passed amount payer payee accounts after := by
  obtain ⟨credited, hup, hdown⟩ := Entry.pass_eq_some_iff.1 hp
  obtain ⟨between, hcredit⟩ := h.exists_rebalanced hone hdestination hup
  obtain ⟨same, hsame, hbetween⟩ := h.rebalanced hone hdestination hcredit
  obtain rfl := Option.some.inj (hup.symm.trans hsame)
  obtain ⟨after, hdebit⟩ := hbetween.exists_rebalanced hone hsource hdown
  exact ⟨after, between, hcredit, hdebit⟩

/-- **Money that moves between accounts moves in the book.** -/
theorem moves (h : Mirrors lies entries accounts) (hone : Relator.BiUnique lies)
    (hmeans : route.Means lies kind) (hm : kind.Moves amount accounts after) :
    ∃ changed, route.follow amount entries = some changed ∧ Mirrors lies changed after := by
  match route, kind, hmeans with
  | .deposit _, .deposit _, hlies =>
      exact h.rebalanced (f := fun balance => balance.credit amount) hone hlies hm
  | .withdrawal _, .withdrawal _, hlies =>
      exact h.rebalanced (f := fun balance => balance.debit amount) hone hlies hm
  | .transfer source destination, .transfer payer payee, ⟨hsource, hdestination⟩ =>
      obtain ⟨hne, ⟨payerRow, payeeRow, hpayer, hpayee, hcurrency⟩, hpassed⟩ := hm
      obtain ⟨changed, hpass, hafter⟩ := h.passed hone hsource hdestination hpassed
      refine ⟨changed, Route.follow_transfer_eq_some_iff.2 ⟨_, _, h.entry_eq hsource hpayer,
        h.entry_eq hdestination hpayee, ?_, hcurrency, hpass⟩, hafter⟩
      rintro rfl
      exact hne (hone.2 hsource hdestination)

/-- **Money that moves in the book can move between the accounts.** -/
theorem exists_moves (h : Mirrors lies entries accounts) (hone : Relator.BiUnique lies)
    (hmeans : route.Means lies kind) (hm : route.follow amount entries = some changed) :
    ∃ after, kind.Moves amount accounts after := by
  match route, kind, hmeans with
  | .deposit _, .deposit _, hlies =>
      exact h.exists_rebalanced (f := fun balance => balance.credit amount) hone hlies hm
  | .withdrawal _, .withdrawal _, hlies =>
      exact h.exists_rebalanced (f := fun balance => balance.debit amount) hone hlies hm
  | .transfer source destination, .transfer payer payee, ⟨hsource, hdestination⟩ =>
      obtain ⟨_, _, hpayer, hpayee, hne, hcurrency, hpass⟩ := Route.follow_transfer_eq_some_iff.1 hm
      obtain ⟨payerRow, hpayerRow, rfl⟩ := h.exists_row hone hsource hpayer
      obtain ⟨payeeRow, hpayeeRow, rfl⟩ := h.exists_row hone hdestination hpayee
      obtain ⟨after, hpassed⟩ := h.exists_passed hone hsource hdestination hpass
      refine ⟨after, ?_, ⟨payerRow, payeeRow, hpayerRow, hpayeeRow, hcurrency⟩, hpassed⟩
      rintro rfl
      exact hne (hone.1 hsource hdestination)

end Mirrors

end Cashbook
