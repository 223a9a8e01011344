/-
Movements of money and the accounts that they touch.

A movement changes nothing but balances: every account keeps its frame, which is all
of it but the balance, and no account comes or goes.  How much a balance changes is
another matter, since a sum may have to be rounded; where no rounding takes place, the
balances change by the amount, up at the destination and down at the source.
-/
import Cashbook.Proofs.Statement.Success

namespace Cashbook

/-! ### What a movement leaves alone -/

/-- An account as it would be without money. -/
def Account.frame (row : Account) : Account := { row with balance := .zero }

@[simp] theorem Account.frame_id (row : Account) : row.frame.id = row.id := rfl

@[simp] theorem Account.frame_owner (row : Account) : row.frame.owner = row.owner := rfl

@[simp] theorem Account.frame_currency (row : Account) : row.frame.currency = row.currency := rfl

/-- The same accounts under the same keys, but for their balances. -/
def Alike (before after : Table AccountId Account) : Prop :=
  ∀ id : AccountId, after[id]?.map Account.frame = before[id]?.map Account.frame

namespace Alike

variable {before between after : Table AccountId Account} {id : AccountId} {row : Account}

theorem refl (accounts : Table AccountId Account) : Alike accounts accounts := fun _ => rfl

theorem trans (h : Alike before between) (h' : Alike between after) : Alike before after :=
  fun id => (h' id).trans (h id)

/-- An account that is there was there. -/
theorem was (h : Alike before after) (hrow : after[id]? = some row) :
    ∃ old, before[id]? = some old ∧ old.frame = row.frame := by
  have hid := h id
  rw [hrow, Option.map_some] at hid
  exact Option.map_eq_some_iff.1 hid.symm

/-- An account that was there is there. -/
theorem is (h : Alike before after) (hrow : before[id]? = some row) :
    ∃ new, after[id]? = some new ∧ new.frame = row.frame := by
  have hid := h id
  rw [hrow, Option.map_some] at hid
  exact Option.map_eq_some_iff.1 hid

end Alike

variable {before after : Table AccountId Account} {amount : Amount}
  {source destination id : AccountId} {kind : TransactionKind}

theorem Rebalanced.alike {f : Balance → Outcome Balance} (h : Rebalanced f id before after) :
    Alike before after := by
  obtain ⟨row, balance, hrow, -, rfl⟩ := h
  intro k
  by_cases hk : id = k
  · subst hk
    rw [Std.ExtTreeMap.getElem?_insert_self, hrow]
    rfl
  · rw [Table.getElem?_insert_of_ne before _ hk]

theorem Credited.alike (h : Credited amount id before after) : Alike before after :=
  Rebalanced.alike h

theorem Debited.alike (h : Debited amount id before after) : Alike before after :=
  Rebalanced.alike h

theorem Passed.alike (h : Passed amount source destination before after) : Alike before after := by
  obtain ⟨between, hcredit, hdebit⟩ := h
  exact (Credited.alike hcredit).trans (Debited.alike hdebit)

theorem TransactionKind.Moves.alike (h : kind.Moves amount before after) : Alike before after := by
  cases kind with
  | transfer source destination => exact h.2.2.alike
  | deposit destination => exact Credited.alike h
  | withdrawal source => exact Debited.alike h

/-- A movement finds every account that it touches. -/
theorem TransactionKind.Moves.found (h : kind.Moves amount before after)
    (hid : id ∈ kind.accounts) : ∃ row, before[id]? = some row := by
  cases kind with
  | transfer source destination =>
      obtain ⟨-, ⟨payer, payee, hpayer, hpayee, -⟩, -⟩ := h
      rcases List.mem_pair.1 hid with rfl | rfl
      · exact ⟨payer, hpayer⟩
      · exact ⟨payee, hpayee⟩
  | deposit destination =>
      obtain ⟨row, -, hrow, -⟩ := h
      rw [List.mem_singleton.1 hid]
      exact ⟨row, hrow⟩
  | withdrawal source =>
      obtain ⟨row, -, hrow, -⟩ := h
      rw [List.mem_singleton.1 hid]
      exact ⟨row, hrow⟩

/-! ### What a movement does row by row -/

/-- The balance of an account goes through `f`, and nothing else about the account changes. -/
def RebalancedAt (f : Balance → Outcome Balance) (before after : Table AccountId Account)
    (id : AccountId) : Prop :=
  ∃ row balance, before[id]? = some row ∧ f row.balance = .ok balance ∧
    after[id]? = some { row with balance }

/-- The account is credited with an amount, once. -/
def CreditedAt (amount : Amount) :
    Table AccountId Account → Table AccountId Account → AccountId → Prop :=
  RebalancedAt fun balance => balance.credit amount

/-- The account is debited with an amount, once. -/
def DebitedAt (amount : Amount) :
    Table AccountId Account → Table AccountId Account → AccountId → Prop :=
  RebalancedAt fun balance => balance.debit amount

theorem rebalanced_iff {f : Balance → Outcome Balance} :
    Rebalanced f id before after ↔
      RebalancedAt f before after id ∧ ∀ k : AccountId, k ≠ id → after[k]? = before[k]? := by
  constructor
  · intro h
    obtain ⟨row, balance, hrow, hf, rfl⟩ := h
    refine ⟨⟨row, balance, hrow, hf, Std.ExtTreeMap.getElem?_insert_self⟩, ?_⟩
    intro k hk
    exact Table.getElem?_insert_of_ne _ _ hk.symm
  · intro h
    obtain ⟨⟨row, balance, hrow, hf, hnew⟩, hothers⟩ := h
    refine ⟨row, balance, hrow, hf, Table.ext_getElem? ?_⟩
    intro k
    by_cases hk : k = id
    · rw [hk, hnew, Std.ExtTreeMap.getElem?_insert_self]
    · rw [hothers k hk, Table.getElem?_insert_of_ne _ _ (Ne.symm hk)]

/-- Money that passes between two accounts debits the one, credits the other, and does no more. -/
theorem passed_iff (hne : source ≠ destination) :
    Passed amount source destination before after ↔
      DebitedAt amount before after source ∧ CreditedAt amount before after destination ∧
        ∀ k : AccountId, k ≠ source → k ≠ destination → after[k]? = before[k]? := by
  constructor
  · intro h
    obtain ⟨between, hcredit, hdebit⟩ := h
    obtain ⟨⟨payee, credited, hpayee, hup, hmid⟩, hbefore⟩ := rebalanced_iff.1 hcredit
    obtain ⟨⟨payer, debited, hpayer, hdown, hnew⟩, hafter⟩ := rebalanced_iff.1 hdebit
    refine ⟨⟨payer, debited, ?_, hdown, hnew⟩, ⟨payee, credited, hpayee, hup, ?_⟩, ?_⟩
    · rwa [hbefore source hne] at hpayer
    · rwa [hafter destination hne.symm]
    · intro k hsource hdestination
      rw [hafter k hsource, hbefore k hdestination]
  · intro h
    obtain ⟨⟨payer, debited, hpayer, hdown, hsource⟩,
      ⟨payee, credited, hpayee, hup, hdestination⟩, hothers⟩ := h
    refine ⟨before.insert destination { payee with balance := credited },
      ⟨payee, credited, hpayee, hup, rfl⟩, rebalanced_iff.2 ⟨⟨payer, debited, ?_, hdown, hsource⟩, ?_⟩⟩
    · rwa [Table.getElem?_insert_of_ne _ _ hne.symm]
    · intro k hk
      by_cases hd : k = destination
      · rw [hd, hdestination, Std.ExtTreeMap.getElem?_insert_self]
      · rw [hothers k hk hd, Table.getElem?_insert_of_ne _ _ (Ne.symm hd)]

/-! ### What a movement does to balances -/

/-- If the balance of the account goes through `f`, it moves by exactly this much. -/
def RebalancesExactly (f : Balance → Outcome Balance) (shift : Int) (id : AccountId)
    (accounts : Table AccountId Account) : Prop :=
  ∀ row balance, accounts[id]? = some row → f row.balance = .ok balance →
    balance.units = row.balance.units + shift

theorem rebalancesExactly_iff {f : Balance → Outcome Balance} {shift : Int} {id : AccountId}
    {accounts : Table AccountId Account} :
    (∀ row ∈ accounts[id]?, ∀ balance ∈ (f row.balance).toOption,
        balance.units = row.balance.units + shift) ↔ RebalancesExactly f shift id accounts := by
  constructor
  · intro h row balance hrow hf
    exact h row hrow balance (by rw [hf]; rfl)
  · intro h row hrow balance hbalance
    refine h row balance hrow ?_
    cases hf : f row.balance with
    | ok found =>
        rw [hf] at hbalance
        exact congrArg Except.ok (Option.some.inj hbalance)
    | error failure => simp [hf, Except.toOption] at hbalance

instance (f : Balance → Outcome Balance) (shift : Int) (id : AccountId)
    (accounts : Table AccountId Account) : Decidable (RebalancesExactly f shift id accounts) :=
  decidable_of_iff _ rebalancesExactly_iff

/-- A credit of this amount, if it goes through, makes the balance exactly that much larger. -/
def CreditsExactly (amount : Amount) : AccountId → Table AccountId Account → Prop :=
  RebalancesExactly (fun balance => balance.credit amount) amount.units

/-- A debit of this amount, if it goes through, makes the balance exactly that much smaller. -/
def DebitsExactly (amount : Amount) : AccountId → Table AccountId Account → Prop :=
  RebalancesExactly (fun balance => balance.debit amount) (-amount.units)

/-- Nothing is rounded when the money of a transaction moves. -/
def TransactionKind.MovesExactly (amount : Amount) (accounts : Table AccountId Account)
    (kind : TransactionKind) : Prop :=
  (∀ id, kind.destination? = some id → CreditsExactly amount id accounts) ∧
    ∀ id, kind.source? = some id → DebitsExactly amount id accounts

instance (amount : Amount) (accounts : Table AccountId Account) (kind : TransactionKind) :
    Decidable (kind.MovesExactly amount accounts) :=
  inferInstanceAs (Decidable
    ((∀ id ∈ kind.destination?,
        RebalancesExactly (fun balance => balance.credit amount) amount.units id accounts) ∧
      ∀ id ∈ kind.source?,
        RebalancesExactly (fun balance => balance.debit amount) (-amount.units) id accounts))

/-- By how much a transaction of this kind moves the balance of an account. -/
def TransactionKind.shift (kind : TransactionKind) (amount : Amount) (id : AccountId) : Int :=
  (if kind.destination? = some id then amount.units else 0) -
    if kind.source? = some id then amount.units else 0

variable {row new : Account}

/-- Only the account that is rebalanced has another row afterwards. -/
theorem Rebalanced.getElem?_of_ne {f : Balance → Outcome Balance} (h : Rebalanced f id before after)
    {k : AccountId} (hk : id ≠ k) : after[k]? = before[k]? := by
  obtain ⟨row, balance, -, -, rfl⟩ := h
  exact Table.getElem?_insert_of_ne before _ hk

theorem Rebalanced.getElem?_self {f : Balance → Outcome Balance} (h : Rebalanced f id before after)
    (hrow : before[id]? = some row) :
    ∃ balance, f row.balance = .ok balance ∧ after[id]? = some { row with balance } := by
  obtain ⟨old, balance, hold, hf, rfl⟩ := h
  obtain rfl := Option.some.inj (hold.symm.trans hrow)
  exact ⟨balance, hf, Std.ExtTreeMap.getElem?_insert_self⟩

/-- Balances move at the account that is rebalanced and nowhere else. -/
theorem Rebalanced.units {f : Balance → Outcome Balance} {shift : Int}
    (h : Rebalanced f id before after) (hexact : RebalancesExactly f shift id before)
    {k : AccountId} (hrow : before[k]? = some row) (hnew : after[k]? = some new) :
    new.balance.units = row.balance.units + if id = k then shift else 0 := by
  by_cases hk : id = k
  · subst hk
    obtain ⟨balance, hb, hafter⟩ := h.getElem?_self hrow
    obtain rfl := Option.some.inj (hafter.symm.trans hnew)
    rw [if_pos rfl]
    exact hexact row balance hrow hb
  · rw [h.getElem?_of_ne hk, hrow] at hnew
    obtain rfl := Option.some.inj hnew
    rw [if_neg hk, Int.add_zero]

theorem Credited.units (h : Credited amount id before after)
    (hexact : CreditsExactly amount id before) {k : AccountId} (hrow : before[k]? = some row)
    (hnew : after[k]? = some new) :
    new.balance.units = row.balance.units + if id = k then amount.units else 0 :=
  Rebalanced.units h hexact hrow hnew

theorem Debited.units (h : Debited amount id before after)
    (hexact : DebitsExactly amount id before) {k : AccountId} (hrow : before[k]? = some row)
    (hnew : after[k]? = some new) :
    new.balance.units = row.balance.units - if id = k then amount.units else 0 := by
  rw [Rebalanced.units h hexact hrow hnew]
  by_cases hk : id = k
  · rw [if_pos hk, if_pos hk, Int.sub_eq_add_neg]
  · rw [if_neg hk, if_neg hk, Int.add_zero, Int.sub_zero]

/-- Money that passes between two accounts without rounding shifts their balances by the amount. -/
theorem Passed.units (h : Passed amount source destination before after)
    (hne : source ≠ destination)
    (hexact : (TransactionKind.transfer source destination).MovesExactly amount before)
    {k : AccountId} (hrow : before[k]? = some row) (hnew : after[k]? = some new) :
    new.balance.units =
      row.balance.units + (TransactionKind.transfer source destination).shift amount k := by
  obtain ⟨between, hcredit, hdebit⟩ := h
  obtain ⟨mid, hmid, -⟩ := (Credited.alike hcredit).is hrow
  -- The credit does not touch the source, so what is exact there before is exact there after it.
  have hsource : DebitsExactly amount source between := by
    intro payer balance hpayer
    rw [Rebalanced.getElem?_of_ne hcredit (Ne.symm hne)] at hpayer
    exact hexact.2 source rfl payer balance hpayer
  have hup := Credited.units hcredit (hexact.1 destination rfl) hrow hmid
  have hdown := Debited.units hdebit hsource hmid hnew
  simp only [TransactionKind.shift, TransactionKind.destination?, TransactionKind.source?,
    Option.some.injEq]
  omega

theorem TransactionKind.Moves.units (h : kind.Moves amount before after)
    (hexact : kind.MovesExactly amount before) {k : AccountId} (hrow : before[k]? = some row)
    (hnew : after[k]? = some new) :
    new.balance.units = row.balance.units + kind.shift amount k := by
  cases kind with
  | transfer source destination => exact h.2.2.units h.1 hexact hrow hnew
  | deposit destination =>
      have hup := Credited.units h (hexact.1 destination rfl) hrow hnew
      simpa [shift, destination?, source?] using hup
  | withdrawal source =>
      have hdown := Debited.units h (hexact.2 source rfl) hrow hnew
      simp only [shift, destination?, source?, Option.some.injEq, reduceCtorEq, if_false]
      omega

end Cashbook
