/-
How far money is conserved.

Money would be conserved exactly if every credit and every debit were exact.  They are
not: where no decimal denotes the new balance it is rounded without a word, and only
where it is out of range altogether is the change refused.  So a balance moves by the
amount if and only if a decimal can hold what it comes to, and a transfer keeps the sum
of its two balances where that is so at both ends.  Large balances with small amounts
are the ones that fall short.
-/
import Cashbook.Proofs.Decimal
import Cashbook.Proofs.Ledger.History
import Cashbook.Proofs.Ledger.Movement

namespace Cashbook

open Decimal (CanHold OutOfRange)

/-! ### Balances -/

namespace Balance

variable {b c : Balance} {a : Amount}

theorem map_value_credit? : (b.credit? a).map value = b.value.add? a.value := by
  unfold credit?
  split
  · next h => exact h.symm
  · next h => exact h.symm

theorem map_value_debit? (h : b.Covers a) : (b.debit? a h).map value = b.value.sub? a.value := by
  unfold debit?
  split
  · next hv => exact hv.symm
  · next hv => exact hv.symm

theorem credit_ok_iff : b.credit a = .ok c ↔ b.credit? a = some c := by
  unfold credit
  cases b.credit? a <;> simp

theorem debit_ok_iff : b.debit a = .ok c ↔ ∃ h : b.Covers a, b.debit? a h = some c := by
  unfold debit
  split
  · next h => cases hc : b.debit? a h <;> simp [h, hc]
  · next h => simp [h]

/-- What a covered debit leaves is in range. -/
theorem debit?_ne_none (h : b.Covers a) : b.debit? a h ≠ none := by
  intro hnone
  have hsub := map_value_debit? h
  rw [hnone, Option.map_none, Decimal.sub?, eq_comm, Decimal.add?_eq_none_iff,
    Decimal.units_neg] at hsub
  have hcover : a.value.units ≤ b.value.units := h
  have ha := a.pos
  exact Decimal.not_outOfRange (d := b.value) (by omega) hsub

/-- A debit is made if and only if it is covered. -/
theorem exists_debit_iff : (∃ c, b.debit a = .ok c) ↔ b.Covers a := by
  constructor
  · intro h
    obtain ⟨c, hc⟩ := h
    exact (debit_ok_iff.1 hc).1
  · intro hcover
    obtain ⟨c, hc⟩ := Option.ne_none_iff_exists'.1 (debit?_ne_none hcover)
    exact ⟨c, debit_ok_iff.2 ⟨hcover, hc⟩⟩

/-- A credit is exact if and only if some decimal denotes the sum. -/
theorem units_credit_eq_iff (h : b.credit a = .ok c) :
    c.units = b.units + a.units ↔ CanHold (b.units + a.units) := by
  have hadd := map_value_credit? (b := b) (a := a)
  rw [credit_ok_iff.1 h, Option.map_some] at hadd
  exact Decimal.units_add?_eq_iff hadd.symm

/-- A debit is exact if and only if some decimal denotes the difference. -/
theorem units_debit_eq_iff (h : b.debit a = .ok c) :
    c.units = b.units - a.units ↔ CanHold (b.units - a.units) := by
  obtain ⟨hcover, hc⟩ := debit_ok_iff.1 h
  have hsub := map_value_debit? hcover
  rw [hc, Option.map_some, Decimal.sub?] at hsub
  have hiff := Decimal.units_add?_eq_iff hsub.symm
  rwa [Decimal.units_neg, ← Int.sub_eq_add_neg] at hiff

/-- A credit is exact or refused if and only if the sum can be held, or is out of range. -/
theorem credit_exact_or_refused_iff (b : Balance) (a : Amount) :
    (∀ c, b.credit a = .ok c → c.units = b.units + a.units) ↔
      CanHold (b.units + a.units) ∨ OutOfRange (b.units + a.units) := by
  have hadd := map_value_credit? (b := b) (a := a)
  cases hc : b.credit? a with
  | none =>
      rw [hc, Option.map_none, eq_comm, Decimal.add?_eq_none_iff] at hadd
      refine ⟨fun _ => Or.inr hadd, ?_⟩
      intro _ c h
      rw [credit_ok_iff, hc] at h
      simp at h
  | some c =>
      have hok := credit_ok_iff.2 hc
      have hrange : ¬OutOfRange (b.units + a.units) := by
        show ¬OutOfRange (b.value.units + a.value.units)
        rw [← Decimal.add?_eq_none_iff, ← hadd, hc]
        simp
      rw [← units_credit_eq_iff hok, or_iff_left hrange]
      refine ⟨fun h => h c hok, ?_⟩
      intro h c' h'
      obtain rfl := Except.ok.inj (hok.symm.trans h')
      exact h

/-- A debit is exact or refused if and only if the difference can be held, or is negative. -/
theorem debit_exact_or_refused_iff (b : Balance) (a : Amount) :
    (∀ c, b.debit a = .ok c → c.units = b.units - a.units) ↔
      CanHold (b.units - a.units) ∨ ¬b.Covers a := by
  by_cases hcover : b.Covers a
  · obtain ⟨c, hc⟩ := Option.ne_none_iff_exists'.1 (debit?_ne_none hcover)
    have hok := debit_ok_iff.2 ⟨hcover, hc⟩
    rw [← units_debit_eq_iff hok, or_iff_left (not_not_intro hcover)]
    refine ⟨fun h => h c hok, ?_⟩
    intro h c' h'
    obtain rfl := Except.ok.inj (hok.symm.trans h')
    exact h
  · refine ⟨fun _ => Or.inr hcover, ?_⟩
    intro _ c h
    exact absurd (debit_ok_iff.1 h).1 hcover

end Balance

/-! ### Movements -/

/-- A balance moves by exactly this much if and only if a decimal can hold what it comes to. -/
def ShiftsIfHeld (before after : Table AccountId Account) (id : AccountId) (shift : Int) : Prop :=
  ∃ old new, before[id]? = some old ∧ after[id]? = some new ∧
    (new.balance.units = old.balance.units + shift ↔ CanHold (old.balance.units + shift))

variable {before after : Table AccountId Account} {amount : Amount}
  {id source destination : AccountId} {kind : TransactionKind}

theorem Credited.shiftsIfHeld (h : Credited amount id before after) :
    ShiftsIfHeld before after id amount.units := by
  obtain ⟨old, balance, hold, hcredit, rfl⟩ := h
  exact ⟨old, _, hold, Std.ExtTreeMap.getElem?_insert_self, Balance.units_credit_eq_iff hcredit⟩

theorem Debited.shiftsIfHeld (h : Debited amount id before after) :
    ShiftsIfHeld before after id (-amount.units) := by
  obtain ⟨old, balance, hold, hdebit, rfl⟩ := h
  refine ⟨old, _, hold, Std.ExtTreeMap.getElem?_insert_self, ?_⟩
  rw [← Int.sub_eq_add_neg]
  exact Balance.units_debit_eq_iff hdebit

/-- Money that passes between two accounts moves the balance of each. -/
theorem Passed.shiftsIfHeld (h : Passed amount source destination before after)
    (hne : source ≠ destination) :
    ShiftsIfHeld before after source (-amount.units) ∧
      ShiftsIfHeld before after destination amount.units := by
  obtain ⟨between, hcredit, hdebit⟩ := h
  -- Neither step touches the account of the other.
  have hsource : between[source]? = before[source]? :=
    Rebalanced.getElem?_of_ne hcredit (Ne.symm hne)
  have hdestination : after[destination]? = between[destination]? :=
    Rebalanced.getElem?_of_ne hdebit hne
  constructor
  · obtain ⟨old, new, hold, hnew, hiff⟩ := Debited.shiftsIfHeld hdebit
    exact ⟨old, new, hsource ▸ hold, hnew, hiff⟩
  · obtain ⟨old, new, hold, hnew, hiff⟩ := Credited.shiftsIfHeld hcredit
    exact ⟨old, new, hold, hdestination ▸ hnew, hiff⟩

/-- Where an account passes money to itself, both steps cancel out if the sum can be held. -/
theorem Passed.units_self (h : Passed amount id id before after) :
    ∃ old new, before[id]? = some old ∧ after[id]? = some new ∧
      (CanHold (old.balance.units + amount.units) → new.balance.units = old.balance.units) := by
  obtain ⟨between, hcredit, hdebit⟩ := h
  obtain ⟨old, mid, hold, hmid, hup⟩ := Credited.shiftsIfHeld hcredit
  obtain ⟨mid', new, hmid', hnew, hdown⟩ := Debited.shiftsIfHeld hdebit
  obtain rfl := Option.some.inj (hmid.symm.trans hmid')
  refine ⟨old, new, hold, hnew, ?_⟩
  intro hhold
  have hsum := hup.2 hhold
  have hback : mid.balance.units + -amount.units = old.balance.units := by omega
  rw [hback] at hdown
  exact hdown.2 ⟨old.balance.value, rfl⟩

theorem TransactionKind.Moves.shiftsIfHeld (h : kind.Moves amount before after)
    (hid : id ∈ kind.accounts) : ShiftsIfHeld before after id (kind.shift amount id) := by
  cases kind with
  | transfer source destination =>
      obtain ⟨hne, -, hpass⟩ := h
      obtain ⟨hsource, hdestination⟩ := hpass.shiftsIfHeld hne
      rcases List.mem_pair.1 hid with rfl | rfl
      · simpa [shift, destination?, source?, Ne.symm hne] using hsource
      · simpa [shift, destination?, source?, hne] using hdestination
  | deposit destination =>
      obtain rfl := List.mem_singleton.1 hid
      simpa [shift, destination?, source?] using Credited.shiftsIfHeld h
  | withdrawal source =>
      obtain rfl := List.mem_singleton.1 hid
      simpa [shift, destination?, source?] using Debited.shiftsIfHeld h

/--
The sum of two balances, of which one gives an amount to the other, stays as it is if both
ends can hold what they come to, and not if only one of them can.
-/
def KeepsSumIfHeld (amount : Amount) (source destination : AccountId)
    (before after : Table AccountId Account) : Prop :=
  ∃ payer payee payer' payee',
    (before[source]? = some payer ∧ before[destination]? = some payee ∧
      after[source]? = some payer' ∧ after[destination]? = some payee') ∧
    (CanHold (payer.balance.units - amount.units) →
      (payer'.balance.units + payee'.balance.units = payer.balance.units + payee.balance.units ↔
        CanHold (payee.balance.units + amount.units))) ∧
    (CanHold (payee.balance.units + amount.units) →
      (payer'.balance.units + payee'.balance.units = payer.balance.units + payee.balance.units ↔
        CanHold (payer.balance.units - amount.units)))

theorem Passed.keepsSumIfHeld (h : Passed amount source destination before after)
    (hne : source ≠ destination) : KeepsSumIfHeld amount source destination before after := by
  obtain ⟨⟨payer, payer', hpayer, hpayer', hdown⟩, payee, payee', hpayee, hpayee', hup⟩ :=
    h.shiftsIfHeld hne
  rw [← Int.sub_eq_add_neg] at hdown
  refine ⟨payer, payee, payer', payee', ⟨hpayer, hpayee, hpayer', hpayee'⟩, ?_, ?_⟩
  · intro hheld
    have hexact := hdown.2 hheld
    rw [← hup]
    omega
  · intro hheld
    have hexact := hup.2 hheld
    rw [← hdown]
    omega

/-! ### Ledgers -/

namespace Ledger

/--
**Money is conserved exactly where decimals can hold it.**  A credit or a debit is exact
or refused if and only if some decimal denotes the new balance, or it is refused anyway;
in between lie the balances that are rounded without a word.  So a transaction that is
recorded, and a transfer that is rolled back, move each balance by exactly the amount if
and only if a decimal can hold what the balance comes to; and a transfer keeps the sum of
its two balances where that is so at both ends, and not where it is so at one alone.
-/
theorem exact_iff_canHold (ledger changed : Ledger) (b : Balance) (a : Amount) :
    (((∀ c, b.credit a = .ok c → c.units = b.units + a.units) ↔
        CanHold (b.units + a.units) ∨ OutOfRange (b.units + a.units)) ∧
      ((∀ c, b.debit a = .ok c → c.units = b.units - a.units) ↔
        CanHold (b.units - a.units) ∨ ¬b.Covers a)) ∧
    (∀ tx row : Transaction, ledger.record tx = (.ok row, changed) →
      (∀ id ∈ tx.kind.accounts,
        ShiftsIfHeld ledger.accounts changed.accounts id (tx.kind.shift tx.amount id)) ∧
      ∀ source destination, tx.kind = .transfer source destination →
        KeepsSumIfHeld tx.amount source destination ledger.accounts changed.accounts) ∧
    (∀ (id : TransactionId) (row : Transaction), ledger.rollbackTransfer id = (.ok row, changed) →
      ∃ source destination, row.kind = .transfer source destination ∧
        (source ≠ destination →
          ShiftsIfHeld ledger.accounts changed.accounts source row.amount.units ∧
          ShiftsIfHeld ledger.accounts changed.accounts destination (-row.amount.units) ∧
          KeepsSumIfHeld row.amount destination source ledger.accounts changed.accounts) ∧
        (source = destination →
          ∃ old new, ledger.accounts[source]? = some old ∧ changed.accounts[source]? = some new ∧
            (CanHold (old.balance.units + row.amount.units) →
              new.balance.units = old.balance.units))) := by
  refine ⟨⟨b.credit_exact_or_refused_iff a, b.debit_exact_or_refused_iff a⟩, ?_, ?_⟩
  · intro tx row h
    obtain ⟨accounts, hmoves, -, -, rfl⟩ := record_ok_iff.1 h
    refine ⟨fun id hid => hmoves.shiftsIfHeld hid, ?_⟩
    intro source destination hkind
    rw [hkind] at hmoves
    exact hmoves.2.2.keepsSumIfHeld hmoves.1
  · intro id row h
    obtain ⟨tx, source, destination, accounts, -, hkind, -, hpass, rfl, rfl⟩ :=
      rollbackTransfer_ok_iff.1 h
    refine ⟨source, destination, hkind, ?_, ?_⟩
    · intro hne
      obtain ⟨hdown, hup⟩ := hpass.shiftsIfHeld (Ne.symm hne)
      exact ⟨hup, hdown, hpass.keepsSumIfHeld (Ne.symm hne)⟩
    · intro h
      subst h
      exact hpass.units_self

theorem exact_iff_canHold_sample :
    let ledger := Ledger.after (Sample.history.take 4) .empty
    let transfer := Sample.transaction 2 (.transfer Sample.alice Sample.bob)
    let changed := (ledger.record transfer).2
    KeepsSumIfHeld transfer.amount Sample.alice Sample.bob ledger.accounts changed.accounts ∧
      ShiftsIfHeld changed.accounts (changed.rollbackTransfer transfer.id).2.accounts Sample.alice
        transfer.amount.units := by
  intro ledger transfer changed
  have hrecord : ledger.record transfer = (.ok transfer, changed) :=
    eq_ok_of_toOption (by decide +kernel)
  have hrollback : changed.rollbackTransfer transfer.id =
      (.ok { transfer with rolledBack := true }, (changed.rollbackTransfer transfer.id).2) :=
    eq_ok_of_toOption (by decide +kernel)
  obtain ⟨-, hmoves, -⟩ := exact_iff_canHold ledger changed .zero transfer.amount
  obtain ⟨-, -, hback⟩ := exact_iff_canHold changed (changed.rollbackTransfer transfer.id).2 .zero
    transfer.amount
  refine ⟨(hmoves _ _ hrecord).2 Sample.alice Sample.bob rfl, ?_⟩
  obtain ⟨source, destination, hkind, hdifferent, -⟩ := hback _ _ hrollback
  obtain ⟨rfl, rfl⟩ := TransactionKind.transfer.inj hkind
  exact (hdifferent (by decide)).1

/-! ### A balance that is rounded -/

/-- An account that holds all that a balance can. -/
def fullAccount : Account :=
  { Sample.account Sample.alice with
    balance := ⟨⟨Decimal.limit - 1, 0, by decide, Decimal.zero.scale_le⟩, by decide⟩ }

/-- Four tenths that come in to it. -/
def smallDeposit : Transaction :=
  { Sample.transaction 1 (.deposit Sample.alice) with
    amount := ⟨⟨4, 1, by decide, by decide⟩, by decide⟩ }

/-- A credit may leave the balance as it was, and a deposit may be recorded and yet add nothing. -/
theorem not_always_exact :
    (¬∀ (b : Balance) (a : Amount) (c : Balance),
        b.credit a = .ok c → c.units = b.units + a.units) ∧
      ¬∀ (ledger changed : Ledger) (tx row : Transaction), ledger.record tx = (.ok row, changed) →
        ∀ id ∈ tx.kind.accounts, ∃ old new, ledger.accounts[id]? = some old ∧
          changed.accounts[id]? = some new ∧
            new.balance.units = old.balance.units + tx.kind.shift tx.amount id := by
  constructor
  · intro h
    have hcredit : fullAccount.balance.credit smallDeposit.amount = .ok fullAccount.balance := by
      rw [Balance.credit_ok_iff]
      decide +kernel
    exact absurd (h _ _ _ hcredit) (by decide +kernel)
  · intro h
    let ledger := Ledger.after [.createAccount fullAccount] .empty
    have hrecord :
        ledger.record smallDeposit = (.ok smallDeposit, (ledger.record smallDeposit).2) :=
      eq_ok_of_toOption (by decide +kernel)
    obtain ⟨old, new, hold, hnew, hunits⟩ := h _ _ _ _ hrecord Sample.alice (by decide)
    have hbefore : ledger.accounts[Sample.alice]? = some fullAccount := by decide +kernel
    have hafter : (ledger.record smallDeposit).2.accounts[Sample.alice]? = some fullAccount := by
      decide +kernel
    obtain rfl := Option.some.inj (hbefore.symm.trans hold)
    obtain rfl := Option.some.inj (hafter.symm.trans hnew)
    exact absurd hunits (by decide +kernel)

end Ledger

end Cashbook
