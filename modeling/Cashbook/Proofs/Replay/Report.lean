/-
The report of a replay.

The report asks each caller who is known for their accounts.  On a sound replay nobody is
refused and nothing changes by the asking; every account is of one caller, so it is in the
report once.  Where a book says what is in the ledger it says what is in the report.
-/
import Cashbook.Proofs.Csv.Report
import Cashbook.Proofs.Replay.Stands

namespace Cashbook

variable {users : List String} {book : Book} {r : Replay Desk}

namespace Book

theorem mem_rows {row : Csv.BalanceRow} : row ∈ book.rows ↔
    ∃ (address : Address) (entry : Entry), book.entries[address]? = some entry ∧
      row = ⟨address.user, address.account, entry.currency, entry.balance.value⟩ := by
  simp only [Book.rows, List.mem_map, Prod.exists, Std.ExtTreeMap.mem_toList_iff_getElem?_eq_some]
  exact exists₂_congr fun _ _ => and_congr_right fun _ => eq_comm

theorem pairwise_rows (book : Book) : book.rows.Pairwise Csv.BalanceRow.Differ := by
  refine List.pairwise_map.2 ((Table.pairwise_toList book.entries).imp ?_)
  intro ⟨address, entry⟩ ⟨other, same⟩ hne
  by_cases huser : address.user = other.user
  · exact Or.inr fun haccount => hne (Address.eq_of_parts huser haccount)
  · exact Or.inl huser

end Book

namespace Task

variable {σ α β : Type}

/-- The same task for every member of a list, where each comes to a value and changes nothing. -/
theorem on_mapM {f : α → Task σ β} {value : α → β} {xs : List α} {r : Replay σ}
    (h : ∀ x ∈ xs, on (f x) r = (.ok (value x), r)) : on (xs.mapM f) r = (.ok (xs.map value), r) := by
  induction xs with
  | nil => rfl
  | cons x rest ih =>
      rw [List.mapM_cons, on_bind_of_ok (h x List.mem_cons_self),
        on_bind_of_ok (ih fun y hy => h y (List.mem_cons_of_mem x hy))]
      rfl

end Task

open Cashbook.Task

namespace Replay

/-- The row of an account in the report. -/
def reportRow (user : String) (account : Account) : Csv.BalanceRow :=
  ⟨user, account.name, account.currency, account.balance.value⟩

/-- The rows of the report, caller by caller. -/
def reportRows (r : Replay Desk) : List Csv.BalanceRow :=
  r.teller.bank.registry.identities.flatMap fun user =>
    (r.teller.bank.ledger.accountsOf (ownerOf user)).map (reportRow user)

namespace Sound

/-- Whoever is in the registry is known. -/
theorem knows_of_mem (h : r.Sound users) {user : String}
    (huser : user ∈ r.teller.bank.registry.identities) : r.teller.bank.Knows user := by
  have hmem : user ∈ r.teller.bank.registry.owners := Std.ExtTreeMap.mem_keys.1 huser
  obtain ⟨owner, howner⟩ := Option.isSome_iff_exists.1 (Std.ExtTreeMap.mem_iff_isSome_getElem?.1 hmem)
  obtain ⟨rfl, -⟩ := h.bank.registered user owner howner
  exact howner

/-- **Asking for balances comes to the rows and changes nothing.** -/
theorem on_balances (h : r.Sound users) : on Replay.balances r = (.ok r.reportRows, r) := by
  unfold Replay.balances
  rw [on_bind_of_ok (on_get r)]
  have hrows : ∀ user ∈ r.teller.bank.registry.identities,
      on (Replay.serve (fun _ => Plan.accounts user) >>= fun accounts =>
        (pure (accounts.map (reportRow user)) : Task Desk _)) r =
      (.ok ((r.teller.bank.ledger.accountsOf (ownerOf user)).map (reportRow user)), r) := by
    intro user huser
    rw [on_bind_of_ok (on_accounts (h.knows_of_mem huser))]
    rfl
  refine (on_bind_of_ok (on_mapM hrows)).trans ?_
  rw [reportRows, List.flatMap_def]
  rfl

theorem mem_reportRows (h : r.Sound users) {row : Csv.BalanceRow} :
    row ∈ r.reportRows ↔ ∃ (user : String) (id : AccountId) (account : Account),
      r.teller.bank.Knows user ∧ r.teller.bank.ledger.accounts[id]? = some account ∧
        account.owner = ownerOf user ∧ row = reportRow user account := by
  simp only [reportRows, List.mem_flatMap, List.mem_map, Ledger.mem_accountsOf]
  constructor
  · intro hrow
    obtain ⟨user, huser, account, ⟨⟨id, haccount⟩, howner⟩, rfl⟩ := hrow
    exact ⟨user, id, account, h.knows_of_mem huser, haccount, howner, rfl⟩
  · intro hrow
    obtain ⟨user, id, account, hknows, haccount, howner, rfl⟩ := hrow
    refine ⟨user, ?_, account, ⟨⟨id, haccount⟩, howner⟩, rfl⟩
    exact Std.ExtTreeMap.mem_keys.2 (Std.ExtTreeMap.mem_iff_isSome_getElem?.2 (by rw [hknows]; rfl))

theorem nodup_accountsOf (h : r.Sound users) (owner : OwnerId) :
    (r.teller.bank.ledger.accountsOf owner).Nodup :=
  (List.mergeSort_perm _ _).nodup_iff.2 ((Table.nodup_rows h.bank.tidy.accountsFiled).filter _)

/-- **No two rows of the report are of the same account.** -/
theorem pairwise_reportRows (h : r.Sound users) : r.reportRows.Pairwise Csv.BalanceRow.Differ := by
  refine List.pairwise_flatMap.2 ⟨fun user _ => ?_, ?_⟩
  · refine List.pairwise_map.2 ((h.nodup_accountsOf (ownerOf user)).pairwise_of_forall_ne ?_)
    intro row hrow other hother hne
    obtain ⟨⟨id, hrow⟩, howner⟩ := Ledger.mem_accountsOf.1 hrow
    obtain ⟨⟨key, hother⟩, howner'⟩ := Ledger.mem_accountsOf.1 hother
    refine Or.inr fun hname => hne ?_
    obtain rfl := h.bank.tidy.namesDistinct id key row other hrow hother (howner.trans howner'.symm) hname
    exact Option.some.inj (hrow.symm.trans hother)
  · refine (Std.ExtTreeMap.distinct_keys (t := r.teller.bank.registry.owners)).imp ?_
    intro user other hne row hrow same hsame
    obtain ⟨-, -, rfl⟩ := List.mem_map.1 hrow
    obtain ⟨-, -, rfl⟩ := List.mem_map.1 hsame
    exact Or.inl fun heq => hne (Std.compare_eq_iff_eq.2 heq)

/-- **The report does not fail**, and changes nothing. -/
theorem report_eq (h : r.Sound users) : Replay.report r = (.ok (Csv.report r.reportRows), r) := by
  have hrun : Replay.balances.run.run r = (.ok r.reportRows, r) := h.on_balances
  simp only [Replay.report, hrun]
  rfl

end Sound

variable {rules : Rules} {stamps : Nat → Stamp} {count : Nat}

/-- **The report of a replay is that of the book that says how it stands.** -/
theorem Stands.report_eq (h : r.Stands users rules stamps count none book)
    (hdistinct : OwnersDistinct users) : (Replay.report r).1 = .ok (Csv.report book.rows) := by
  have hnodup : ∀ rows : List Csv.BalanceRow, rows.Pairwise Csv.BalanceRow.Differ → rows.Nodup := by
    intro rows hdiffer
    exact hdiffer.imp fun hne heq => hne.elim (· (congrArg _ heq)) (· (congrArg _ heq))
  have hperm : r.reportRows.Perm book.rows := by
    rw [List.perm_ext_iff_of_nodup (hnodup _ h.sound.pairwise_reportRows) (hnodup _ book.pairwise_rows)]
    intro row
    rw [h.sound.mem_reportRows, Book.mem_rows]
    constructor
    · intro hrow
      obtain ⟨user, id, account, hknows, haccount, howner, rfl⟩ := hrow
      have hnames : Address.Names r.teller.bank ⟨user, account.name⟩ id :=
        ⟨hknows, account, haccount, howner, rfl⟩
      exact ⟨⟨user, account.name⟩, account.entry, h.entry_eq hdistinct hnames haccount, rfl⟩
    · intro hrow
      obtain ⟨address, entry, hentry, rfl⟩ := hrow
      obtain ⟨id, account, hlies, haccount, rfl⟩ := (h.shows.entries address entry).1 hentry
      have hnames := (h.sound.bank.names_iff hdistinct).2 hlies
      obtain ⟨same, hsame, howner, hname⟩ := hnames.account
      obtain rfl := Option.some.inj (haccount.symm.trans hsame)
      exact ⟨address.user, id, account, hnames.knows, haccount, howner, by rw [← hname]; rfl⟩
  rw [h.sound.report_eq, Csv.report_eq_of_perm hperm h.sound.pairwise_reportRows]

end Replay

end Cashbook
