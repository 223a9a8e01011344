/-
Every ledger with a history is well formed.

Rows stand under their own keys, cards lead to accounts that exist, no balance is
negative, a transfer has two different accounts, and only a transfer is ever rolled
back.  Each clause is about one table or about two, and each of the six changes could
break it; the invariant is proved change by change from `Change.Effect`.

That both accounts of a transfer are of one currency is no invariant of the ledger
alone: a closed account leaves its transfers behind, and if its identifier were given
away again the new account could be of any currency.  It follows where identifiers are
not given away twice, from what each account was when it was opened.
-/
import Mathlib.Data.List.Nodup
import Cashbook.Proofs.Ledger.History
import Cashbook.Proofs.Ledger.Movement

namespace Cashbook.Ledger

/-- Rows stand under their own keys, and cards lead to accounts. -/
structure InOrder (ledger : Ledger) : Prop where
  accountsFiled : ∀ (id : AccountId) (row : Account), ledger.accounts[id]? = some row → row.id = id
  cardsFiled : ledger.CardsFiled
  transactionsFiled : ∀ (id : TransactionId) (tx : Transaction),
    ledger.transactions[id]? = some tx → tx.id = id
  cardsLead : ∀ (number : CardNumber) (card : Card), ledger.cards[number]? = some card →
    ∃ row, ledger.accounts[card.account]? = some row

/-- What holds of the rows of every ledger with a history. -/
structure WellFormed (ledger : Ledger) : Prop extends InOrder ledger where
  balancesNonneg : ∀ (id : AccountId) (row : Account), ledger.accounts[id]? = some row →
    0 ≤ row.balance.value.units
  transfersDistinct : ∀ (id : TransactionId) (tx : Transaction) (source destination : AccountId),
    ledger.transactions[id]? = some tx → tx.kind = .transfer source destination →
      source ≠ destination
  onlyTransfersRolledBack : ∀ (id : TransactionId) (tx : Transaction),
    ledger.transactions[id]? = some tx → tx.rolledBack = true → tx.kind.type = .transfer

/-- Where both accounts of a transfer exist, they are of one currency. -/
def OneCurrency (ledger : Ledger) : Prop :=
  ∀ (id : TransactionId) (tx : Transaction) (source destination : AccountId)
    (payer payee : Account), ledger.transactions[id]? = some tx →
      tx.kind = .transfer source destination →
        ledger.accounts[source]? = some payer → ledger.accounts[destination]? = some payee →
          payer.currency = payee.currency

variable {ledger before after : Ledger} {change : Change}

/-! ### Order -/

/-- Order survives a movement of money that is stored under the key of its row. -/
private theorem InOrder.move (h : ledger.InOrder) {accounts : Table AccountId Account}
    (halike : Alike ledger.accounts accounts) (id : TransactionId) (tx : Transaction)
    (hid : tx.id = id) :
    InOrder { ledger with accounts, transactions := ledger.transactions.insert id tx } where
  accountsFiled k row hrow := by
    obtain ⟨old, hold, hframe⟩ := halike.was hrow
    rw [← Account.frame_id row, ← hframe]
    exact h.accountsFiled k old hold
  cardsFiled := h.cardsFiled
  transactionsFiled k row hrow := by
    rcases Table.of_getElem?_insert hrow with ⟨rfl, rfl⟩ | ⟨-, hold⟩
    · exact hid
    · exact h.transactionsFiled k row hold
  cardsLead number card hcard := by
    obtain ⟨row, hrow⟩ := h.cardsLead number card hcard
    obtain ⟨new, hnew, -⟩ := halike.is hrow
    exact ⟨new, hnew⟩

theorem InOrder.step (h : before.InOrder) (he : change.Effect before after) : after.InOrder := by
  cases change with
  | createAccount row =>
      obtain ⟨-, rfl⟩ := he
      refine ⟨?_, h.cardsFiled, h.transactionsFiled, ?_⟩
      · intro id new hnew
        rcases Table.of_getElem?_insert hnew with ⟨rfl, rfl⟩ | ⟨-, hold⟩
        · rfl
        · exact h.accountsFiled id new hold
      · intro number card hcard
        exact Table.exists_getElem?_insert row.id row (h.cardsLead number card hcard)
  | deleteAccount id =>
      obtain ⟨-, rfl⟩ := he
      -- A card that is left did not lead to the account that goes.
      have hleft : ∀ (number : CardNumber) (card : Card),
          (before.dropCards id).cards[number]? = some card →
            before.cards[number]? = some card ∧ card.account ≠ id := by
        intro number card hcard
        rw [cards_dropCards h.cardsFiled, Option.filter_eq_some_iff] at hcard
        exact ⟨hcard.1, by simpa using hcard.2⟩
      refine ⟨?_, ?_, h.transactionsFiled, ?_⟩
      · intro k row hrow
        exact h.accountsFiled k row (Table.of_getElem?_erase hrow).2
      · intro number card hcard
        exact h.cardsFiled number card (hleft number card hcard).1
      · intro number card hcard
        obtain ⟨hwas, hne⟩ := hleft number card hcard
        obtain ⟨row, hrow⟩ := h.cardsLead number card hwas
        exact ⟨row, by rwa [Table.getElem?_erase_of_ne _ (Ne.symm hne)]⟩
  | createCard row =>
      obtain ⟨hleads, -, rfl⟩ := he
      refine ⟨h.accountsFiled, ?_, h.transactionsFiled, ?_⟩
      · intro number card hcard
        rcases Table.of_getElem?_insert hcard with ⟨rfl, rfl⟩ | ⟨-, hold⟩
        · rfl
        · exact h.cardsFiled number card hold
      · intro number card hcard
        rcases Table.of_getElem?_insert hcard with ⟨-, rfl⟩ | ⟨-, hold⟩
        · exact hleads
        · exact h.cardsLead number card hold
  | deleteCard number =>
      obtain ⟨-, rfl⟩ := he
      refine ⟨h.accountsFiled, ?_, h.transactionsFiled, ?_⟩
      · intro k card hcard
        exact h.cardsFiled k card (Table.of_getElem?_erase hcard).2
      · intro k card hcard
        exact h.cardsLead k card (Table.of_getElem?_erase hcard).2
  | record tx =>
      obtain ⟨accounts, hmoves, -, rfl⟩ := he
      exact h.move hmoves.alike tx.id tx rfl
  | rollbackTransfer id =>
      obtain ⟨tx, source, destination, accounts, htx, -, -, hpass, rfl⟩ := he
      exact h.move hpass.alike id _ (h.transactionsFiled id tx htx)

/-! ### Well-formedness -/

/-- Every transfer is between two accounts. -/
def TransfersDistinct (ledger : Ledger) : Prop :=
  ∀ (id : TransactionId) (tx : Transaction) (source destination : AccountId),
    ledger.transactions[id]? = some tx → tx.kind = .transfer source destination →
      source ≠ destination

/-- A transfer is recorded between two accounts, and its accounts never change. -/
theorem TransfersDistinct.step (h : before.TransfersDistinct) (he : change.Effect before after) :
    after.TransfersDistinct := by
  intro id tx source destination htx hkind
  rcases he.transaction_was htx with ⟨old, hold⟩ | ⟨rfl, -⟩
  · rcases he.transaction_cases hold with ⟨-, hkept⟩ | ⟨-, -, -, hmarked⟩
    · obtain rfl := Option.some.inj (htx.symm.trans hkept)
      exact h id tx source destination hold hkind
    · obtain rfl := Option.some.inj (htx.symm.trans hmarked)
      exact h id old source destination hold hkind
  · obtain ⟨accounts, hmoves, -, -⟩ := he
    rw [hkind] at hmoves
    exact hmoves.1

/-- Every change keeps a ledger well formed, if transactions are recorded as not rolled back. -/
theorem WellFormed.step (h : before.WellFormed) (he : change.Effect before after)
    (hflag : ∀ tx, change = .record tx → tx.rolledBack = false) : after.WellFormed where
  toInOrder := h.toInOrder.step he
  balancesNonneg _ row _ := row.balance.nonneg
  transfersDistinct := TransfersDistinct.step h.transfersDistinct he
  onlyTransfersRolledBack id tx htx hset := by
    rcases he.transaction_was htx with ⟨old, hold⟩ | ⟨hrecord, -⟩
    · rcases he.transaction_cases hold with ⟨-, hkept⟩ | ⟨-, htype, -, hmarked⟩
      · obtain rfl := Option.some.inj (htx.symm.trans hkept)
        exact h.onlyTransfersRolledBack id tx hold hset
      · obtain rfl := Option.some.inj (htx.symm.trans hmarked)
        exact htype
    · rw [hflag tx hrecord] at hset
      cases hset

theorem wellFormed_empty : WellFormed .empty where
  accountsFiled _ _ h := absurd h (by simp [empty])
  cardsFiled _ _ h := absurd h (by simp [empty])
  transactionsFiled _ _ h := absurd h (by simp [empty])
  cardsLead _ _ h := absurd h (by simp [empty])
  balancesNonneg _ _ h := absurd h (by simp [empty])
  transfersDistinct _ _ _ _ h := absurd h (by simp [empty])
  onlyTransfersRolledBack _ _ h := absurd h (by simp [empty])

/-! ### What accounts were when they were opened -/

/-- A ledger together with the accounts that were opened on the way to it. -/
structure TracedTo (ledger : Ledger) (opened : List Account) : Prop where
  /-- An account differs from what it was in its balance alone. -/
  accounts : ∀ (id : AccountId) (row : Account), ledger.accounts[id]? = some row →
    ∃ first ∈ opened, first.id = id ∧ first.frame = row.frame
  /-- Transactions touch opened accounts only. -/
  touched : ∀ (id : TransactionId) (tx : Transaction), ledger.transactions[id]? = some tx →
    ∀ account ∈ tx.kind.accounts, ∃ first ∈ opened, first.id = account
  /-- A transfer has its accounts opened in one currency. -/
  currencies : ∀ (id : TransactionId) (tx : Transaction) (source destination : AccountId),
    ledger.transactions[id]? = some tx → tx.kind = .transfer source destination →
      ∃ payer ∈ opened, ∃ payee ∈ opened, payer.id = source ∧ payee.id = destination ∧
        payer.currency = payee.currency

theorem tracedTo_empty : TracedTo .empty [] where
  accounts _ _ h := absurd h (by simp [empty])
  touched _ _ h := absurd h (by simp [empty])
  currencies _ _ _ _ h := absurd h (by simp [empty])

/-- The accounts that were opened are never too many. -/
theorem TracedTo.append {opened : List Account} (h : ledger.TracedTo opened) (more : List Account) :
    ledger.TracedTo (opened ++ more) where
  accounts id row hrow := by
    obtain ⟨first, hmem, hfirst⟩ := h.accounts id row hrow
    exact ⟨first, List.mem_append_left more hmem, hfirst⟩
  touched id tx htx account haccount := by
    obtain ⟨first, hmem, hfirst⟩ := h.touched id tx htx account haccount
    exact ⟨first, List.mem_append_left more hmem, hfirst⟩
  currencies id tx source destination htx hkind := by
    obtain ⟨payer, hpayer, payee, hpayee, hrest⟩ := h.currencies id tx source destination htx hkind
    exact ⟨payer, List.mem_append_left more hpayer, payee, List.mem_append_left more hpayee, hrest⟩

/-- A movement leads to a ledger with the same trace, if its own row has one. -/
private theorem TracedTo.move {opened : List Account} (h : ledger.TracedTo opened)
    {accounts : Table AccountId Account} (halike : Alike ledger.accounts accounts)
    (id : TransactionId) (row : Transaction)
    (htouched : ∀ account ∈ row.kind.accounts, ∃ first ∈ opened, first.id = account)
    (hcurrencies : ∀ source destination, row.kind = .transfer source destination →
      ∃ payer ∈ opened, ∃ payee ∈ opened, payer.id = source ∧ payee.id = destination ∧
        payer.currency = payee.currency) :
    TracedTo { ledger with accounts, transactions := ledger.transactions.insert id row }
      opened where
  accounts k new hnew := by
    obtain ⟨old, hold, hframe⟩ := halike.was hnew
    obtain ⟨first, hmem, hid, hfirst⟩ := h.accounts k old hold
    exact ⟨first, hmem, hid, hfirst.trans hframe⟩
  touched k tx htx := by
    rcases Table.of_getElem?_insert htx with ⟨-, rfl⟩ | ⟨-, hold⟩
    · exact htouched
    · exact h.touched k tx hold
  currencies k tx source destination htx hkind := by
    rcases Table.of_getElem?_insert htx with ⟨-, rfl⟩ | ⟨-, hold⟩
    · exact hcurrencies source destination hkind
    · exact h.currencies k tx source destination hold hkind

theorem TracedTo.step {opened : List Account} (h : before.TracedTo opened)
    (he : change.Effect before after) : after.TracedTo (opened ++ change.opening?.toList) := by
  cases change with
  | createAccount row =>
      obtain ⟨-, rfl⟩ := he
      have happ := h.append [row]
      refine ⟨?_, happ.touched, happ.currencies⟩
      intro id new hnew
      rcases Table.of_getElem?_insert hnew with ⟨rfl, rfl⟩ | ⟨-, hold⟩
      · exact ⟨new, by simp [Change.opening?], rfl, rfl⟩
      · exact happ.accounts id new hold
  | deleteAccount id =>
      obtain ⟨-, rfl⟩ := he
      rw [Change.opening?, Option.toList_none, List.append_nil]
      exact ⟨fun k row hrow => h.accounts k row (Table.of_getElem?_erase hrow).2, h.touched,
        h.currencies⟩
  | createCard row =>
      obtain ⟨-, -, rfl⟩ := he
      rw [Change.opening?, Option.toList_none, List.append_nil]
      exact ⟨h.accounts, h.touched, h.currencies⟩
  | deleteCard number =>
      obtain ⟨-, rfl⟩ := he
      rw [Change.opening?, Option.toList_none, List.append_nil]
      exact ⟨h.accounts, h.touched, h.currencies⟩
  | record tx =>
      obtain ⟨accounts, hmoves, -, rfl⟩ := he
      rw [Change.opening?, Option.toList_none, List.append_nil]
      refine h.move hmoves.alike tx.id tx ?_ ?_
      · intro account haccount
        obtain ⟨row, hrow⟩ := hmoves.found haccount
        obtain ⟨first, hmem, hid, -⟩ := h.accounts account row hrow
        exact ⟨first, hmem, hid⟩
      · intro source destination hkind
        rw [hkind] at hmoves
        obtain ⟨-, ⟨payer, payee, hpayer, hpayee, hcurrency⟩, -⟩ := hmoves
        obtain ⟨first, hmem, hid, hframe⟩ := h.accounts source payer hpayer
        obtain ⟨other, hother, hotherid, hotherframe⟩ := h.accounts destination payee hpayee
        refine ⟨first, hmem, other, hother, hid, hotherid, ?_⟩
        rw [← Account.frame_currency first, ← Account.frame_currency other, hframe, hotherframe]
        exact hcurrency
  | rollbackTransfer id =>
      obtain ⟨tx, source, destination, accounts, htx, -, -, hpass, rfl⟩ := he
      rw [Change.opening?, Option.toList_none, List.append_nil]
      exact h.move hpass.alike id _ (h.touched id tx htx) fun s d => h.currencies id tx s d htx

/-- Where no identifier was given away twice, an account has one currency from its opening on. -/
theorem TracedTo.oneCurrency {opened : List Account} (h : ledger.TracedTo opened)
    (hnodup : (opened.map Account.id).Nodup) : ledger.OneCurrency := by
  have hsame : ∀ first ∈ opened, ∀ row, ledger.accounts[first.id]? = some row →
      first.currency = row.currency := by
    intro first hfirst row hrow
    obtain ⟨origin, hmem, hid, hframe⟩ := h.accounts _ row hrow
    obtain rfl := List.inj_on_of_nodup_map hnodup hmem hfirst hid
    rw [← Account.frame_currency origin, hframe, Account.frame_currency]
  intro id tx source destination payer payee htx hkind hpayer hpayee
  obtain ⟨first, hfirst, other, hother, rfl, rfl, hcurrency⟩ :=
    h.currencies id tx source destination htx hkind
  rw [← hsame first hfirst payer hpayer, ← hsame other hother payee hpayee]
  exact hcurrency

/-! ### Along a history -/

/-- Every change keeps rows in order and transfers between two accounts. -/
theorem inOrder_and_transfersDistinct_after (changes : List Change) (horder : ledger.InOrder)
    (hdistinct : ledger.TransfersDistinct) :
    (Ledger.after changes ledger).InOrder ∧ (Ledger.after changes ledger).TransfersDistinct := by
  refine after_induction (P := fun _ l => l.InOrder ∧ l.TransfersDistinct) changes [] ledger
    ⟨horder, hdistinct⟩ ?_
  intro success _ sofar changed h hok
  have he := (Change.carryOut_ok_iff h.1.cardsFiled).1 hok
  exact ⟨h.1.step he, h.2.step he⟩

/-- Well-formedness and the trace of the accounts, along every history. -/
theorem wellFormed_and_tracedTo_after (changes : List Change)
    (hflag : ∀ tx, .record tx ∈ changes → tx.rolledBack = false) :
    (Ledger.after changes .empty).WellFormed ∧
      (Ledger.after changes .empty).TracedTo (opened changes .empty) := by
  have hrun := after_induction (P := fun sofar l => l.WellFormed ∧ l.TracedTo sofar) changes []
    .empty ⟨wellFormed_empty, tracedTo_empty⟩ ?_
  · simpa using hrun
  intro success hmem sofar changed hbefore hok
  obtain ⟨met, change⟩ := success
  obtain ⟨hwell, htrace⟩ := hbefore
  have he := (Change.carryOut_ok_iff hwell.cardsFiled).1 hok
  refine ⟨hwell.step he fun tx htx => hflag tx ?_, htrace.step he⟩
  subst htx
  exact mem_of_mem_successes hmem

/--
**A ledger with a history is well formed.**  Whatever it was asked for, and whether or
not it agreed: rows stand under their own keys, cards lead to accounts that exist, no
balance is negative, transfers have two accounts and they alone are rolled back.  A sum
that had to be rounded is not negative either, nor is what a covered debit leaves.  And
if no identifier of an account was given away twice, transfers stay within a currency.
-/
theorem wellFormed_after (changes : List Change)
    (hflag : ∀ tx, .record tx ∈ changes → tx.rolledBack = false) :
    (Ledger.after changes .empty).WellFormed ∧
      (∀ (b : Balance) (a : Amount) (d : Decimal), b.value.add? a.value = some d ∨
        (b.Covers a ∧ b.value.sub? a.value = some d) → 0 ≤ d.units) ∧
      (((opened changes .empty).map Account.id).Nodup →
        (Ledger.after changes .empty).OneCurrency) := by
  obtain ⟨hwell, htrace⟩ := wellFormed_and_tracedTo_after changes hflag
  refine ⟨hwell, ?_, htrace.oneCurrency⟩
  intro b a d hd
  have hb : 0 ≤ b.value.units := b.nonneg
  have ha : 0 < a.value.units := a.pos
  rcases hd with hadd | ⟨hcovers, hsub⟩
  · exact Decimal.units_nonneg_of_add? hadd (by omega)
  · have hc : a.value.units ≤ b.value.units := hcovers
    refine Decimal.units_nonneg_of_add? hsub ?_
    rw [Decimal.units_neg]
    omega

theorem wellFormed_after_sample :
    (Ledger.after Sample.history .empty).WellFormed ∧
      (Ledger.after Sample.history .empty).OneCurrency :=
  have h := wellFormed_after Sample.history Sample.rolledBack_of_mem_history
  ⟨h.1, h.2.2 (by decide +kernel)⟩

end Cashbook.Ledger
