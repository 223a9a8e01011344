/-
What a row that fails leaves behind.

A row may make several calls, and each of them that fails changes nothing.  So a row that fails
leaves the accounts and the journal as they were, unless an earlier call of it has changed them.
Only an opening has such a call: the account is opened first, and its card issued after.  If
the number that the card is to have is in use, the row fails and the account stays.
-/
import Cashbook.Proofs.Replay.Steps

namespace Cashbook

variable {r : Replay Desk} {address : Address} {op : Operation} {account : Account} {opened : Bank}

namespace Task

open Replay

/-! ### Openings -/

/-- What is lacking is not found. -/
theorem on_lookup_of_lacks (h : r.Lacks address) :
    on (Replay.lookup address) (r.registered address.user) = (.ok none, r.registered address.user) := by
  obtain ⟨owner, howner⟩ := r.teller.bank.registry.exists_register_self address.user
  have hresolve := Registry.resolve_ok_iff.2 howner
  have hfind := (h.2 owner hresolve).find?_eq_none
  have hrun : (Plan.accounts address.user).run (r.registered address.user).stamp
      (r.registered address.user).teller.bank =
        (.ok (r.teller.bank.ledger.accountsOf owner), (r.registered address.user).teller.bank) :=
    (Plan.run_read_bind_ok_iff rfl).2 ⟨owner, hresolve, rfl⟩
  rw [on_lookup_of_none (show (r.registered address.user).handles[address]? = none from h.1)]
  unfold Replay.find
  rw [on_bind_of_ok (on_register address.user _), registered_registered,
    on_bind_of_ok ((on_serve_of_onlyLooks (fun _ => Plan.onlyLooks_accounts address.user) _).trans
      (congrArg (·.1, r.registered address.user) hrun))]
  simp only [hfind]
  rfl

/-- The row comes as far as issuing the card. -/
theorem on_apply_of_opens (h : r.Opens op account opened) :
    on (Replay.apply op) r =
      on (Replay.serve (fun _ => Plan.issueCard op.user account.id) >>= fun card =>
          Replay.keepHandle (addressOf op) ⟨account.id, card.number⟩)
        ((r.registered op.user).settle opened (r.teller.used + 1)) := by
  have hfresh : on (Replay.ensureFresh op) (r.registered op.user) = (.ok (), r.registered op.user) := by
    rw [on_ensureFresh]
    cases hlabel : op.reference with
    | none => rfl
    | some label =>
        have hunbound : (r.registered op.user).references.contains label = false := by
          rw [Std.ExtTreeMap.contains_eq_isSome_getElem?]
          exact Option.isSome_eq_false_iff.2 (Option.isNone_iff_eq_none.2 (h.fresh label hlabel))
        simp [hunbound]
  have hlookup : on (Replay.lookup (addressOf op)) (r.registered op.user) =
      (.ok none, r.registered op.user) := on_lookup_of_lacks h.vacant
  obtain ⟨currency, hcurrency, hrun⟩ := h.called
  have hused : Desk.usedAfter _ (r.registered op.user).teller = (r.registered op.user).teller.used + 1 :=
    Desk.usedAfter_of_ok (Plan.draws_openAccount (r.registered op.user).teller.rules op.user _) hrun
  have hserve := on_serve_of_run (r.registered op.user)
    (fun rules => Plan.openAccount rules op.user ⟨op.account, currency⟩) hrun
  rw [hused] at hserve
  have hdemand : on (Replay.demand op.currency .currencyRequired) (r.registered op.user) =
      (.ok currency, r.registered op.user) := by
    rw [hcurrency]
    rfl
  unfold Replay.apply
  rw [on_bind_of_ok (on_register op.user r), on_bind_of_ok hfresh, h.kind]
  show on (Replay.openAccount op) _ = _
  rw [openAccount_eq, on_bind_of_ok hlookup]
  show on (Replay.opening op) _ = _
  unfold Replay.opening
  rw [on_bind_of_ok hdemand, on_bind_of_ok hserve]
  rfl

/-- The card cannot be issued, and the account is there. -/
theorem on_apply_of_strands (h : r.Strands op account opened) :
    ∃ failure used, on (Replay.apply op) r =
      (.error failure, (r.registered op.user).settle opened used) := by
  obtain ⟨hopens, card, hcard⟩ := h
  rw [on_apply_of_opens hopens]
  rcases hrun : (Plan.issueCard op.user account.id).run (r.teller.stamps (r.teller.used + 1)) opened with
    ⟨outcome, issued⟩
  have hserve := on_serve_of_run ((r.registered op.user).settle opened (r.teller.used + 1))
    (fun _ => Plan.issueCard op.user account.id) hrun
  cases outcome with
  | ok found =>
      obtain ⟨rfl, -, -, -, ⟨-, hfree, -⟩, -⟩ := Plan.issueCard_ok_iff.1 hrun
      rw [hopens.cards, hcard] at hfree
      cases hfree
  | error failure =>
      obtain rfl := (Plan.concludes_issueCard op.user account.id).bank_of_error hrun
      exact ⟨failure, _, on_bind_of_error hserve⟩

end Task

namespace Replay

/--
**A row that fails moves no money, and opens no account that it does not leave stranded.**
Whatever the replay: if the row is not done, the journal is what it was, and so are the accounts
but in one case.  In that case the row is an opening that has had its account opened, and the
number that the card was to have is in use.  Such a row is never done, and then there is one
account more, without money and under an identifier that was not in use.
-/
theorem failed_row_leaves (r : Replay Desk) (row : Except Csv.Fault Operation) :
    let ledger := r.teller.bank.ledger
    let next := (applyRow row r).2.teller.bank.ledger
    ((applyRow row r).1 ≠ .done → next.transactions = ledger.transactions ∧
      (next.accounts = ledger.accounts ↔
        ¬∃ op account opened, row = .ok op ∧ r.Strands op account opened)) ∧
    ∀ op account opened, row = .ok op → r.Strands op account opened →
      (applyRow row r).1 ≠ .done ∧ ledger.accounts[account.id]? = none ∧ account.balance = .zero ∧
        next.accounts = ledger.accounts.insert account.id account := by
  intro ledger next
  have hstranded : ∀ op account opened, row = .ok op → r.Strands op account opened →
      (applyRow row r).1 ≠ .done ∧ ledger.accounts[account.id]? = none ∧ account.balance = .zero ∧
        next.accounts = ledger.accounts.insert account.id account := by
    intro op account opened hrow hstrands
    subst hrow
    obtain ⟨failure, used, hon⟩ := Task.on_apply_of_strands hstrands
    obtain ⟨hnew, hafter⟩ := hstrands.1.effect
    refine ⟨?_, hnew, hstrands.1.balance_eq, ?_⟩
    · rw [applyRow_ok, hon]
      exact nofun
    · show (applyRow (.ok op) r).2.teller.bank.ledger.accounts = _
      rw [applyRow_ok, hon]
      exact congrArg Ledger.accounts hafter
  refine ⟨fun hfailed => ?_, hstranded⟩
  rcases prepares_or_strands_of_not_done hfailed with
    hprepares | ⟨op, account, opened, used, hrow, hstrands, hafter⟩
  · refine ⟨hprepares.transactions, fun _ hexists => ?_, fun _ => hprepares.accounts⟩
    obtain ⟨op, account, opened, hrow, hstrands⟩ := hexists
    obtain ⟨-, hnew, -, hinsert⟩ := hstranded op account opened hrow hstrands
    rw [← hprepares.accounts] at hnew
    have hthere : next.accounts[account.id]? = some account := by
      rw [hinsert]
      exact Std.ExtTreeMap.getElem?_insert_self
    cases hthere.symm.trans hnew
  · obtain ⟨-, hnew, -, hinsert⟩ := hstranded op account opened hrow hstrands
    refine ⟨?_, fun hsame => ?_, fun hnone => absurd ⟨op, account, opened, hrow, hstrands⟩ hnone⟩
    · obtain ⟨-, heffect⟩ := hstrands.1.effect
      show (applyRow row r).2.teller.bank.ledger.transactions = _
      rw [hafter]
      show opened.ledger.transactions = _
      rw [heffect]
    · rw [hinsert] at hsame
      rw [← hsame, Std.ExtTreeMap.getElem?_insert_self] at hnew
      cases hnew

end Replay

/-! ### A card number that is in use -/

namespace Sample

/-- Stamps that give out one card number again and again. -/
def reissuing (n : Nat) : Stamp := { Stamp.series 1 n with card := .ofSerial 1 }

/-- An account has been opened, with the card. -/
def carded : Replay Desk :=
  (Replay.applyRows [.ok (opening "ann" "main")] (.start (Desk.start ⟨.zero, 2, 64⟩ reissuing))).2

end Sample

namespace Replay

theorem failed_row_leaves_sample :
    let row := .ok (Sample.opening "ben" "main")
    let ledger := Sample.carded.teller.bank.ledger
    let next := (applyRow row Sample.carded).2.teller.bank.ledger
    (applyRow row Sample.carded).1 ≠ .done ∧ next.transactions = ledger.transactions ∧
      ∃ op account opened, row = .ok op ∧ Sample.carded.Strands op account opened ∧
        next.accounts = ledger.accounts.insert account.id account := by
  intro row ledger next
  have hfailed : (applyRow row Sample.carded).1 ≠ .done := by decide +kernel
  have hchanged : next.accounts ≠ ledger.accounts := by
    intro hsame
    exact absurd (congrArg Std.ExtTreeMap.size hsame) (by decide +kernel)
  obtain ⟨hleaves, hstranded⟩ := failed_row_leaves Sample.carded row
  obtain ⟨htransactions, hiff⟩ := hleaves hfailed
  obtain ⟨op, account, opened, hrow, hstrands⟩ := not_not.1 (mt hiff.2 hchanged)
  obtain ⟨-, -, -, hinsert⟩ := hstranded op account opened hrow hstrands
  exact ⟨hfailed, htransactions, op, account, opened, hrow, hstrands, hinsert⟩

/-- A row that fails may have opened an account, though every card number is sound. -/
theorem failed_row_not_always_leaves :
    ¬∀ (rules : Rules) (stamps : Nat → Stamp) (rows : List (Except Csv.Fault Operation))
        (row : Except Csv.Fault Operation), (∀ n, (stamps n).card.IsSound) →
      let r := (applyRows rows (start (Desk.start rules stamps))).2
      let next := (applyRow row r).2
      (applyRow row r).1 ≠ .done →
        next.teller.bank.ledger.accounts = r.teller.bank.ledger.accounts ∧
          next.teller.bank.ledger.transactions = r.teller.bank.ledger.transactions := by
  intro h
  have hsound : ∀ n, (Sample.reissuing n).card.IsSound := fun _ => CardNumber.isSound_ofSerial 1
  obtain ⟨hsame, -⟩ := h ⟨.zero, 2, 64⟩ Sample.reissuing [.ok (Sample.opening "ann" "main")]
    (.ok (Sample.opening "ben" "main")) hsound (by decide +kernel)
  exact absurd (congrArg Std.ExtTreeMap.size hsame) (by decide +kernel)

end Replay

end Cashbook
