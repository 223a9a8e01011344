/-
What a caller is shown of the journal.

A caller who names no account is shown what touches any of theirs.  The call lets the ledger
select by the criteria and without a limit, drops what touches none of the caller's accounts,
and selects again, this time by the limit alone.  So rows are filtered twice, put in order
twice and cut off once, at the very end.

That comes to one filtering, one sort and one cut (`Filter.select_filter_select`): to the rows
of the caller in order, `Ledger.journalOf`, up to the limit.  From there on nothing is said
about calls any more.  What naming one account of the caller's shows is a part of these rows,
and each of them is a part of one of these parts.
-/
import Cashbook.Proofs.Ledger.Tidy
import Cashbook.Proofs.Service.Success
import Cashbook.Proofs.Transaction.Filter

namespace Cashbook

variable {ledger : Ledger} {owner : OwnerId} {filter : Filter} {tx : Transaction} {id : AccountId}

/-! ### The rows of an owner -/

namespace Ledger

/-- Whether a transaction touches an account of the owner. -/
def touches (ledger : Ledger) (owner : OwnerId) (tx : Transaction) : Bool :=
  tx.kind.accounts.any fun id => (ledger.accountsOf owner).any (·.id == id)

theorem touches_iff : ledger.touches owner tx = true ↔ ∃ (key : AccountId) (row : Account),
    ledger.accounts[key]? = some row ∧ row.owner = owner ∧ tx.kind.Involves row.id := by
  simp only [touches, List.any_eq_true, beq_iff_eq, TransactionKind.mem_accounts_iff, mem_accountsOf]
  constructor
  · intro h
    obtain ⟨id, hinvolves, row, ⟨⟨key, hrow⟩, howner⟩, rfl⟩ := h
    exact ⟨key, row, hrow, howner, hinvolves⟩
  · intro h
    obtain ⟨key, row, hrow, howner, hinvolves⟩ := h
    exact ⟨row.id, hinvolves, row, ⟨⟨key, hrow⟩, howner⟩, rfl⟩

/-- Where accounts are filed, what touches an account of the owner involves one that they own. -/
theorem InOrder.touches_iff (h : ledger.InOrder) :
    ledger.touches owner tx = true ↔ ∃ id, ledger.Owns owner id ∧ tx.kind.Involves id := by
  rw [Ledger.touches_iff]
  constructor
  · intro htouches
    obtain ⟨key, row, hrow, howner, hinvolves⟩ := htouches
    rw [h.accountsFiled key row hrow] at hinvolves
    exact ⟨key, ⟨row, hrow, howner⟩, hinvolves⟩
  · intro howned
    obtain ⟨id, ⟨row, hrow, howner⟩, hinvolves⟩ := howned
    exact ⟨id, row, hrow, howner, by rwa [h.accountsFiled id row hrow]⟩

/-- The transactions that meet a filter and touch an account of the owner, the newest first. -/
def journalOf (ledger : Ledger) (owner : OwnerId) (filter : Filter) : List Transaction :=
  Filter.newestFirst (ledger.transactions.rows.filter fun tx =>
    ledger.touches owner tx && filter.accepts tx)

theorem mem_journalOf : tx ∈ ledger.journalOf owner filter ↔
    (∃ key : TransactionId, ledger.transactions[key]? = some tx) ∧
      ledger.touches owner tx = true ∧ filter.accepts tx = true := by
  rw [journalOf, Filter.mem_newestFirst, List.mem_filter, Table.mem_rows, Bool.and_eq_true]

theorem InOrder.nodup_journalOf (h : ledger.InOrder) : (ledger.journalOf owner filter).Nodup :=
  (Filter.newestFirst_perm _).nodup_iff.2 ((Table.nodup_rows h.transactionsFiled).filter _)

/-- What touches one account of the owner is the part of their rows that involves it. -/
theorem InOrder.select_account (h : ledger.InOrder) (hopen : filter.account = none)
    (howns : ledger.Owns owner id) :
    ledger.select { filter with account := some id, limit := none } =
      (ledger.journalOf owner filter).filter fun tx => tx.kind.Involves id := by
  rw [journalOf, Filter.filter_newestFirst, List.filter_filter]
  show Filter.newestFirst (ledger.transactions.rows.filter _) = _
  congr 1
  refine List.filter_congr fun tx _ => Bool.eq_iff_iff.2 ?_
  simp only [Bool.and_eq_true, decide_eq_true_eq, Filter.accepts_iff, h.touches_iff]
  constructor
  · intro haccepts
    have hinvolves := haccepts.1 id rfl
    exact ⟨hinvolves, ⟨id, howns, hinvolves⟩, by simp [hopen], haccepts.2⟩
  · intro hall
    exact ⟨fun other hother => Option.some.inj hother ▸ hall.1, hall.2.2.2⟩

end Ledger

/-! ### Calls -/

namespace Plan

variable {stamp : Stamp} {bank changed : Bank} {identity : String} {rows : List Transaction}

/-- A caller who is known and names no account is shown their rows up to the limit. -/
theorem run_transactions_of_open (hknown : bank.registry.resolve identity = .ok owner)
    (hopen : filter.account = none) :
    (transactions identity filter).run stamp bank =
      (.ok (Filter.cut filter.limit (bank.ledger.journalOf owner filter)), bank) := by
  have hselected := Filter.select_filter_select filter (bank.ledger.touches owner)
    bank.ledger.transactions.rows
  obtain ⟨account, type, flag, since, before, limit⟩ := filter
  obtain rfl : account = none := hopen
  refine (run_read_bind_ok_iff rfl).2 ⟨owner, hknown, ?_⟩
  refine (run_read_bind_ok_iff rfl).2 ⟨_, rfl, ?_⟩
  refine (run_read_bind_ok_iff rfl).2 ⟨_, rfl, ?_⟩
  exact congrArg (fun rows => (Except.ok rows, bank)) hselected

/-- A caller who names an account is shown what touches it, if it is theirs. -/
theorem run_transactions_of_account (hnamed : filter.account = some id) :
    (transactions identity filter).run stamp bank = (.ok rows, changed) ↔
      ∃ owner, bank.registry.resolve identity = .ok owner ∧ bank.ledger.Owns owner id ∧
        rows = bank.ledger.select filter ∧ changed = bank := by
  unfold transactions
  rw [hnamed]
  refine run_ownedAccount_bind_ok_iff.trans ?_
  constructor
  · intro h
    obtain ⟨owner, account, howner, haccount, howned, h⟩ := h
    obtain ⟨hrows, rfl⟩ := Prod.mk.inj h
    exact ⟨owner, howner, ⟨account, haccount, howned⟩, (Except.ok.inj hrows).symm, rfl⟩
  · intro h
    obtain ⟨owner, howner, ⟨account, haccount, howned⟩, rfl, rfl⟩ := h
    exact ⟨owner, account, howner, haccount, howned, rfl⟩

/--
**A caller who names no account is shown the transactions of all of theirs.**  The caller is
known, and the filter names no account.

  * Without a limit the rows are those of the table, each once, that meet the other criteria and
    touch an account of the caller.  They are shown the newest first.
  * With a limit they are the first of these, so that rows of strangers use up none of it.
  * On a ledger in order no row is shown twice, not even one that has the caller on both sides.
    What is shown for one account of the caller's is the part of the rows that involves it, and
    a row is shown if and only if it is shown for one of these accounts.
-/
theorem lists_own_transactions (identity : String) (filter : Filter) (stamp : Stamp) (bank : Bank)
    (owner : OwnerId) (hknown : bank.registry.resolve identity = .ok owner)
    (hopen : filter.account = none) :
    let listing := fun filter : Filter => (transactions identity filter).run stamp bank
    ∃ rows, listing { filter with limit := none } = (.ok rows, bank) ∧
      rows.Pairwise (fun x y => y.createdAt ≤ x.createdAt) ∧
      rows.Perm (bank.ledger.transactions.rows.filter fun tx =>
        bank.ledger.touches owner tx && filter.accepts tx) ∧
      (∀ tx, tx ∈ rows ↔ (∃ key : TransactionId, bank.ledger.transactions[key]? = some tx) ∧
        filter.Suits tx ∧ ∃ (key : AccountId) (row : Account),
          bank.ledger.accounts[key]? = some row ∧ row.owner = owner ∧ tx.kind.Involves row.id) ∧
      (∀ n, listing { filter with limit := some n } = (.ok (rows.take n), bank)) ∧
      (bank.ledger.InOrder → rows.Nodup ∧
        (∀ id, bank.ledger.Owns owner id →
          listing { filter with account := some id, limit := none } =
            (.ok (rows.filter fun tx => tx.kind.Involves id), bank)) ∧
        ∀ tx, tx ∈ rows ↔ ∃ id own, bank.ledger.Owns owner id ∧
          listing { filter with account := some id, limit := none } = (.ok own, bank) ∧
            tx ∈ own) := by
  intro listing
  have hseparate : bank.ledger.InOrder → ∀ id, bank.ledger.Owns owner id →
      listing { filter with account := some id, limit := none } =
        (.ok ((bank.ledger.journalOf owner filter).filter fun tx => tx.kind.Involves id), bank) := by
    intro horder id howns
    exact (run_transactions_of_account rfl).2
      ⟨owner, hknown, howns, (horder.select_account hopen howns).symm, rfl⟩
  refine ⟨bank.ledger.journalOf owner filter, run_transactions_of_open hknown hopen,
    Filter.descending_newestFirst _, Filter.newestFirst_perm _, ?_, ?_, ?_⟩
  · intro tx
    simp [Ledger.mem_journalOf, Ledger.touches_iff, Filter.accepts_iff, hopen, and_comm]
  · intro n
    exact run_transactions_of_open hknown hopen
  · intro horder
    refine ⟨horder.nodup_journalOf, hseparate horder, ?_⟩
    intro tx
    constructor
    · intro hrow
      obtain ⟨id, howns, hinvolves⟩ := horder.touches_iff.1 (Ledger.mem_journalOf.1 hrow).2.1
      exact ⟨id, _, howns, hseparate horder id howns, by simp [hrow, hinvolves]⟩
    · intro hseen
      obtain ⟨id, own, howns, hlisting, hrow⟩ := hseen
      obtain rfl := Except.ok.inj (Prod.mk.inj ((hseparate horder id howns).symm.trans hlisting)).1
      exact (List.mem_filter.1 hrow).1

end Plan

/-! ### A caller with two accounts next to a stranger -/

namespace Sample

/-- The account of somebody else. -/
def carol : AccountId := ⟨.ofNat 3⟩

/-- Money comes in to two owners, and one of them moves it between accounts of their own. -/
def pockets : List Change :=
  [ .createAccount (account alice),
    .createAccount (account bob),
    .createAccount { account carol with owner := ⟨.ofNat 8⟩ },
    .record (transaction 1 (.deposit alice)),
    .record (transaction 2 (.transfer alice bob)),
    .record (transaction 3 (.deposit carol)) ]

/-- A bank that knows the owner of the two accounts. -/
def household : Bank :=
  ⟨Ledger.after pockets .empty, ⟨(∅ : Table String OwnerId).insert "alice" ⟨.ofNat 7⟩⟩⟩

end Sample

/-- The transfer between the two accounts is shown once, and the deposit of the stranger never. -/
theorem Plan.lists_own_transactions_sample :
    let listing := fun filter : Filter =>
      (transactions "alice" filter).run (.series 100 0) Sample.household
    ∃ rows, listing .everything = (.ok rows, Sample.household) ∧ rows.Nodup ∧
      Sample.transaction 2 (.transfer Sample.alice Sample.bob) ∈ rows ∧
        Sample.transaction 3 (.deposit Sample.carol) ∉ rows ∧
          listing { Filter.everything with limit := some 2 } = (.ok (rows.take 2), Sample.household) ∧
            listing { Filter.everything with account := some Sample.bob } =
              (.ok (rows.filter fun tx => tx.kind.Involves Sample.bob), Sample.household) := by
  intro listing
  have horder : Sample.household.ledger.InOrder := (Ledger.inOrder_and_transfersDistinct_after
    Sample.pockets Ledger.wellFormed_empty.toInOrder Ledger.wellFormed_empty.transfersDistinct).1
  obtain ⟨rows, hrows, -, -, hshown, hlimit, hfiled⟩ := lists_own_transactions "alice" .everything
    (.series 100 0) Sample.household ⟨.ofNat 7⟩ (ok_of_toOption (by decide +kernel)) rfl
  obtain ⟨hnodup, hseparate, -⟩ := hfiled horder
  have howners : (Sample.household.ledger.accounts[Sample.bob]?).map (·.owner) = some ⟨.ofNat 7⟩ ∧
      (Sample.household.ledger.accounts[Sample.carol]?).map (·.owner) = some ⟨.ofNat 8⟩ := by
    decide +kernel
  obtain ⟨bob, hbob, howner⟩ := Option.map_eq_some_iff.1 howners.1
  refine ⟨rows, hrows, hnodup, ?_, ?_, hlimit 2, hseparate Sample.bob ⟨bob, hbob, howner⟩⟩
  · refine (hshown _).2 ⟨⟨⟨.ofNat 2⟩, by decide +kernel⟩, by simp [Filter.Suits, Filter.everything],
      Sample.bob, bob, hbob, howner, ?_⟩
    rw [horder.accountsFiled _ _ hbob]
    decide
  · intro hrow
    obtain ⟨-, -, key, row, hkey, howner, hinvolves⟩ := (hshown _).1 hrow
    have hcarol : row.id = Sample.carol := by
      simpa [TransactionKind.Involves, Sample.transaction, TransactionKind.source?,
        TransactionKind.destination?, eq_comm] using hinvolves
    rw [← horder.accountsFiled key row hkey, hcarol] at hkey
    rw [hkey] at howners
    exact absurd (howner.symm.trans (Option.some.inj howners.2)) (by decide)

end Cashbook
