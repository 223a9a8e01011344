/-
The report is complete.

The report asks caller by caller, and so shows only the accounts of callers who are known.
Every account was opened by a row, for whoever asked in that row; and that caller has been
known since.  So the report has each account once, under the name of the caller who had it
opened, where callers can be told apart by their owner identifiers.
-/
import Cashbook.Proofs.Replay.Report
import Cashbook.Proofs.Replay.Steps

namespace Cashbook

variable {users : List String} {r : Replay Desk} {rows : List (Except Csv.Fault Operation)}
  {id : AccountId} {account : Account}

namespace Replay

/-- Every replay in a run is sound. -/
theorem steps_sound (h : r.Sound users) (hdistinct : OwnersDistinct users)
    (hrows : ∀ op, .ok op ∈ rows → op.mentions ⊆ users ∧ op.IsTrimmed) :
    (∀ step ∈ steps rows r, step.before.Sound users) ∧ (applyRows rows r).2.Sound users := by
  have hall := steps_induction rows (P := (·.Sound users)) h fun step hstep hbefore =>
    hbefore.applyRow hdistinct fun op hop => hrows op (hop ▸ row_mem_of_mem_steps hstep)
  exact ⟨fun step hstep => (hall.1 step hstep).1, hall.2⟩

/-- An account has the owner and the name that the row had it opened with, since which it is there. -/
theorem Step.Brings.opening {step : Step} (h : step.Brings (Holds id) (steps rows r))
    (hsound : ∀ step ∈ steps rows r, step.before.Sound users)
    (hrows : ∀ op, .ok op ∈ rows → op.mentions ⊆ users ∧ op.IsTrimmed)
    (haccount : (applyRows rows r).2.teller.bank.ledger.accounts[id]? = some account) :
    ∃ op, step.row = .ok op ∧ op.kind = .opening ∧ op.user ∈ users ∧
      account.owner = ownerOf op.user ∧ account.name = op.account := by
  have hbefore := hsound step h.mem
  obtain ⟨op, first, opened, hrow, hopens, hid, hfirst⟩ := h.opens hbefore.bank.tidy.toInOrder
  obtain ⟨hmentions, htrim⟩ := hrows op (hrow ▸ row_mem_of_mem_steps h.mem)
  have huser : op.user ∈ users := hmentions op.user_mem_mentions
  have howner : first.owner = ownerOf op.user := ((hbefore.register huser).bank.knows hopens.owner).1
  have hname : first.name = op.account := hopens.name_eq.1.trans htrim
  refine ⟨op, hrow, hopens.kind, huser, ?_⟩
  obtain ⟨last, hlast, hframe⟩ := h.ends
    (Q := fun s => ∃ last, s.teller.bank.ledger.accounts[id]? = some last ∧ last.frame = first.frame)
    ⟨first, hfirst, rfl⟩ fun other hother hthere hwas => by
      obtain ⟨old, hold, hframe⟩ := hwas
      obtain ⟨new, hnew⟩ := hthere
      have horder := (hsound other hother).bank.tidy.toInOrder
      exact ⟨new, hnew, (frame_applyRow horder hold hnew).trans hframe⟩
  obtain rfl := Option.some.inj (haccount.symm.trans hlast)
  refine ⟨?_, ?_⟩
  · rw [← Account.frame_owner account, hframe, Account.frame_owner, howner]
  · rw [← Account.frame_name account, hframe, Account.frame_name, hname]

namespace Sound

/-- Every account is of a user whose owner identifier it has. -/
theorem exists_user (h : r.Sound users) (haccount : r.teller.bank.ledger.accounts[id]? = some account) :
    ∃ user ∈ users, r.teller.bank.Knows user ∧ account.owner = ownerOf user := by
  obtain ⟨user, hknown⟩ := h.bank.owned id account haccount
  obtain ⟨howner, hmem⟩ := h.bank.registered user account.owner hknown
  exact ⟨user, hmem, by rw [Bank.Knows, ← howner]; exact hknown, howner⟩

/-- **The report has each account once**, if each is put down to the user whose owner identifier it has. -/
theorem perm_reportRows (h : r.Sound users) (hdistinct : OwnersDistinct users)
    {opener : AccountId → String}
    (hopener : ∀ (id : AccountId) (account : Account), r.teller.bank.ledger.accounts[id]? = some account →
      opener id ∈ users ∧ account.owner = ownerOf (opener id)) :
    r.reportRows.Perm (r.teller.bank.ledger.accounts.toList.map fun entry =>
      reportRow (opener entry.1) entry.2) := by
  have hnodup : r.reportRows.Nodup :=
    h.pairwise_reportRows.imp fun hne heq => hne.elim (· (congrArg _ heq)) (· (congrArg _ heq))
  have hmap : (r.teller.bank.ledger.accounts.toList.map fun entry =>
      reportRow (opener entry.1) entry.2).Nodup := by
    refine List.Nodup.map_on ?_ (Table.nodup_toList _)
    rintro ⟨id, row⟩ hrow ⟨other, old⟩ hold heq
    rw [Std.ExtTreeMap.mem_toList_iff_getElem?_eq_some] at hrow hold
    obtain ⟨huser, hname, -, -⟩ := Csv.BalanceRow.mk.inj heq
    have howner : row.owner = old.owner := by
      rw [(hopener id row hrow).2, (hopener other old hold).2, huser]
    obtain rfl := h.bank.tidy.namesDistinct id other row old hrow hold howner hname
    rw [Option.some.inj (hrow.symm.trans hold)]
  rw [List.perm_ext_iff_of_nodup hnodup hmap]
  intro row
  simp only [h.mem_reportRows, List.mem_map, Prod.exists, Std.ExtTreeMap.mem_toList_iff_getElem?_eq_some]
  constructor
  · intro hrow
    obtain ⟨user, id, account, hknows, haccount, howner, rfl⟩ := hrow
    obtain ⟨hmem, hopened⟩ := hopener id account haccount
    obtain rfl := hdistinct _ hmem user (h.bank.registered _ _ hknows).2 (hopened.symm.trans howner)
    exact ⟨id, account, haccount, rfl⟩
  · intro hrow
    obtain ⟨id, account, haccount, rfl⟩ := hrow
    obtain ⟨hmem, hopened⟩ := hopener id account haccount
    obtain ⟨user, huser, hknows, howner⟩ := h.exists_user haccount
    obtain rfl := hdistinct user huser _ hmem (howner.symm.trans hopened)
    exact ⟨_, id, account, hknows, haccount, howner, rfl⟩

end Sound

/--
**The report is complete and has nothing twice.**  Whatever rows a replay has worked through
from the start, and whatever became of them: the balances can be asked for, and there is
exactly one row for each account in the ledger and no other, with the name of the account, its
currency and its balance, and with the user who asked for it in the row since which it is there.
No two rows have both the user and the account in common.
-/
theorem balances_complete (rules : Rules) (stamps : Nat → Stamp)
    (rows : List (Except Csv.Fault Operation)) (htrimmed : Trimmed rows)
    (hdistinct : OwnersDistinct (mentioned rows)) :
    let start := Replay.start (Desk.start rules stamps)
    let r := (applyRows rows start).2
    ∃ (reported : List Csv.BalanceRow) (opener : AccountId → String),
      balances.run.run r = (.ok reported, r) ∧
        reported.Perm (r.teller.bank.ledger.accounts.toList.map fun entry =>
          ⟨opener entry.1, entry.2.name, entry.2.currency, entry.2.balance.value⟩) ∧
          reported.Pairwise Csv.BalanceRow.Differ ∧
            ∀ (id : AccountId) (account : Account), r.teller.bank.ledger.accounts[id]? = some account →
              (∃ step : Step, step.Brings (Holds id) (steps rows start)) ∧
                ∀ step : Step, step.Brings (Holds id) (steps rows start) →
                  ∃ op, step.row = .ok op ∧ op.kind = .opening ∧ op.user = opener id ∧
                    op.account = account.name := by
  intro start r
  have hrows : ∀ op, .ok op ∈ rows → op.mentions ⊆ mentioned rows ∧ op.IsTrimmed :=
    fun op hop => ⟨mentions_subset_mentioned hop, htrimmed op hop⟩
  obtain ⟨hsteps, hsound⟩ := steps_sound (sound_start rules stamps _) hdistinct hrows
  have hexists : ∀ id : AccountId, ∃ user, ∀ account : Account,
      r.teller.bank.ledger.accounts[id]? = some account →
        user ∈ mentioned rows ∧ account.owner = ownerOf user := by
    intro id
    cases haccount : r.teller.bank.ledger.accounts[id]? with
    | none => exact ⟨"", nofun⟩
    | some account =>
        obtain ⟨user, huser, -, howner⟩ := hsound.exists_user haccount
        exact ⟨user, fun same hsame => by rw [← Option.some.inj hsame]; exact ⟨huser, howner⟩⟩
  choose opener hopener using hexists
  refine ⟨r.reportRows, opener, hsound.on_balances, hsound.perm_reportRows hdistinct hopener,
    hsound.pairwise_reportRows, ?_⟩
  intro id account haccount
  refine ⟨exists_brings (not_holds_start rules stamps id) ⟨account, haccount⟩, fun step hbrings => ?_⟩
  obtain ⟨op, hrow, hkind, huser, howner, hname⟩ := hbrings.opening hsteps hrows haccount
  obtain ⟨hmem, hopened⟩ := hopener id account haccount
  exact ⟨op, hrow, hkind, hdistinct _ huser _ hmem (howner.symm.trans hopened), hname.symm⟩

end Replay

/-- After one account was closed and opened again there are two, and two rows in the report. -/
theorem Replay.balances_complete_sample :
    let r := (applyRows Sample.reopening Sample.outset).2
    Trimmed Sample.reopening ∧ OwnersDistinct (mentioned Sample.reopening) ∧
      ∃ reported, balances.run.run r = (.ok reported, r) ∧ reported.length = 2 ∧
        reported.Pairwise Csv.BalanceRow.Differ := by
  intro r
  obtain ⟨reported, opener, hbalances, hperm, hdiffer, -⟩ :=
    balances_complete ⟨.zero, 2, 64⟩ (Stamp.series 1) Sample.reopening
      Sample.trimmed_reopening Sample.ownersDistinct_reopening
  refine ⟨Sample.trimmed_reopening, Sample.ownersDistinct_reopening, reported, hbalances, ?_, hdiffer⟩
  rw [hperm.length_eq, List.length_map]
  decide +kernel

end Cashbook
