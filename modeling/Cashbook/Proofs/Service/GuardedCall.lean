/-
Calls are guarded.

Most calls have little to protect: they ask only questions, or open something new, or
remove a card, and touch no account that is there.  Closing an account touches the one
whose key is held.  Reversing a transfer touches its two accounts, which are those that
were seen, as a transaction stays between its accounts.  A movement is looked at once
more when the keys are held.  What was seen before, that the accounts of a transfer differ
and are of one currency, is still so, and what is seen then, that they are there and
that the source has the money, stays so until the movement is recorded.
-/
import Cashbook.Proofs.Service.Guarded

namespace Cashbook

namespace Plan

variable {stamp : Stamp} {registry : Registry} {keys : List AccountId} {known : Moment → Prop}
  {α : Type}

/-! ### Accounts and cards -/

theorem guarded_openAccount (hstable : Stable stamp keys known) (rules : Rules) (identity : String)
    (request : OpeningRequest) :
    (openAccount rules identity request).Guarded stamp registry known keys :=
  guarded_ofOutcome_bind fun _ _ =>
    guarded_look_bind rfl hstable fun _ => guarded_write rfl fun _ _ => trivial

theorem guarded_ownedAccount_bind (hstable : Stable stamp keys known) {identity : String}
    {id : AccountId} {f : Account → Plan α}
    (h : ∀ account, (f account).Guarded stamp registry known keys) :
    (ownedAccount identity id >>= f).Guarded stamp registry known keys := by
  rw [ownedAccount_bind]
  exact guarded_look_bind rfl hstable fun _ => guarded_look_bind rfl hstable fun account =>
    guarded_ofOutcome_bind fun _ _ => h account

theorem guarded_ownedAccount (hstable : Stable stamp keys known) (identity : String)
    (id : AccountId) : (ownedAccount identity id).Guarded stamp registry known keys :=
  guarded_look_bind rfl hstable fun _ => guarded_look_bind rfl hstable fun account =>
    guarded_ofOutcome_bind fun _ _ => guarded_done account

theorem guarded_closeAccount (hstable : Stable stamp [] known) (identity : String)
    (id : AccountId) : (closeAccount identity id).Guarded stamp registry known [] := by
  refine guarded_ownedAccount_bind hstable fun _ => guarded_hold (List.cons_ne_nil _ _) ?_
  exact guarded_write rfl fun _ _ => List.mem_singleton_self id

theorem guarded_issueCard (hstable : Stable stamp keys known) (identity : String)
    (id : AccountId) : (issueCard identity id).Guarded stamp registry known keys :=
  guarded_ownedAccount_bind hstable fun _ => guarded_look_bind rfl hstable fun _ =>
    guarded_write rfl fun _ _ => trivial

theorem guarded_removeCard (hstable : Stable stamp keys known) (identity raw : String) :
    (removeCard identity raw).Guarded stamp registry known keys :=
  guarded_ofOutcome_bind fun _ _ => guarded_look_bind rfl hstable fun _ =>
    guarded_ownedAccount_bind hstable fun _ => guarded_write rfl fun _ _ => trivial

/-! ### Questions -/

theorem guarded_accounts (hstable : Stable stamp keys known) (identity : String) :
    (accounts identity).Guarded stamp registry known keys :=
  guarded_look_bind rfl hstable fun _ => guarded_read rfl hstable

theorem guarded_cards (hstable : Stable stamp keys known) (identity : String) (id : AccountId) :
    (cards identity id).Guarded stamp registry known keys :=
  guarded_ownedAccount_bind hstable fun _ => guarded_read rfl hstable

theorem guarded_transactions (hstable : Stable stamp keys known) (identity : String)
    (filter : Filter) : (transactions identity filter).Guarded stamp registry known keys := by
  unfold transactions
  cases filter.account with
  | some id => exact guarded_ownedAccount_bind hstable fun _ => guarded_read rfl hstable
  | none =>
      exact guarded_look_bind rfl hstable fun _ => guarded_look_bind rfl hstable fun _ =>
        guarded_look_bind rfl hstable fun _ => guarded_done _

/-! ### Movements -/

section

variable {amount : Amount} {kind : TransactionKind}

/--
Accounts that are looked at one after another with their keys held, of which some have
been looked at already, and then the movement.
-/
theorem guarded_recording (hstable : Stable stamp kind.accounts known)
    (hready : ∀ moment, known moment → Checked amount kind kind.accounts moment →
      Query.Permitted stamp kind.accounts moment (.record amount kind))
    {seen ids : List AccountId} (hids : seen ++ ids = kind.accounts) :
    (recording amount kind ids).Guarded stamp registry
      (fun moment => known moment ∧ Checked amount kind seen moment) kind.accounts := by
  induction ids generalizing seen with
  | nil =>
      rw [List.append_nil] at hids
      exact guarded_write rfl fun moment hmoment => hready moment hmoment.1 (hids ▸ hmoment.2)
  | cons id ids ih =>
      rw [recording_cons]
      have hid : id ∈ kind.accounts := by
        rw [← hids]
        exact List.mem_append_right _ List.mem_cons_self
      have hseen : ∀ other ∈ seen, other ∈ kind.accounts := by
        intro other hother
        rw [← hids]
        exact List.mem_append_left _ hother
      let learnt (row : Account) (moment : Moment) : Prop :=
        (known moment ∧ Checked amount kind seen moment) ∧
          moment.ledger.accounts[id]? = some row
      refine guarded_read_bind rfl learnt ?_ ?_ ?_
      · intro row earlier later hearlier hbeside
        exact ⟨(hstable.and (stable_checked hseen)) earlier later hearlier.1 hbeside,
          hbeside.kept id hid row hearlier.2⟩
      · intro row moment hmoment hanswer
        exact ⟨hmoment, Ledger.account_ok_iff.1 hanswer⟩
      · intro row
        refine guarded_ofOutcome_bind ?_
        intro _ hcovers
        have happend : (seen ++ [id]) ++ ids = kind.accounts := by simpa using hids
        refine (ih happend).mono ?_
        intro moment hmoment
        obtain ⟨⟨hknown, hchecked⟩, hrow⟩ := hmoment
        refine ⟨hknown, ?_⟩
        intro other hother
        rcases List.mem_append.1 hother with hold | hnew
        · exact hchecked other hold
        · rw [List.mem_singleton.1 hnew]
          refine ⟨row, hrow, ?_⟩
          intro hsource
          rwa [if_pos hsource] at hcovers

/-- A movement that holds its keys, looks at its accounts and is recorded. -/
theorem guarded_hold_recording (kind : TransactionKind) (hstable : Stable stamp [] known)
    (hready : ∀ moment, known moment → Checked amount kind kind.accounts moment →
      kind.Ready amount moment.ledger.accounts ∧ Unspent stamp moment) :
    (Plan.hold kind.accounts (recording amount kind kind.accounts)).Guarded stamp registry
      known [] := by
  have hsome : kind.accounts ≠ [] := by cases kind <;> exact List.cons_ne_nil _ _
  have hheld : Stable stamp kind.accounts known :=
    hstable.mono fun id hid => absurd hid List.not_mem_nil
  have hrecording : (recording amount kind kind.accounts).Guarded stamp registry
      (fun moment => known moment ∧ Checked amount kind [] moment) kind.accounts := by
    refine guarded_recording hheld ?_ (List.nil_append _)
    intro moment hknown hchecked
    exact ⟨rfl, hready moment hknown hchecked⟩
  refine guarded_hold hsome (hrecording.mono ?_)
  exact fun moment hknown => ⟨hknown, fun id hid => absurd hid List.not_mem_nil⟩

end

section

variable {amount : Amount} {account other : Account}

/-- What is known about a movement into or out of one account suffices once it was looked at. -/
theorem ready_of_checked_single {kind : TransactionKind} {id : AccountId} {moment : Moment}
    (hkind : kind = .deposit id ∨ kind = .withdrawal id)
    (hchecked : Checked amount kind kind.accounts moment) :
    kind.Ready amount moment.ledger.accounts := by
  rcases hkind with rfl | rfl
  · obtain ⟨row, hrow, -⟩ := hchecked id List.mem_cons_self
    exact ⟨row, hrow⟩
  · obtain ⟨row, hrow, hcovers⟩ := hchecked id List.mem_cons_self
    exact ⟨row, hrow, hcovers rfl⟩

/-- Two accounts that were seen to be of one currency are so when they are looked at again. -/
theorem ready_of_checked_transfer {moment : Moment} (haccount : Seen account moment)
    (hother : Seen other moment) (hcurrency : other.currency = account.currency)
    (hne : other.id ≠ account.id)
    (hchecked : Checked amount (.transfer account.id other.id)
      (TransactionKind.transfer account.id other.id).accounts moment) :
    (TransactionKind.transfer account.id other.id).Ready amount moment.ledger.accounts := by
  obtain ⟨payer, hpayer, hcovers⟩ := hchecked account.id List.mem_cons_self
  obtain ⟨payee, hpayee, -⟩ := hchecked other.id (List.mem_cons_of_mem _ List.mem_cons_self)
  have hpayerFrame := haccount.2 payer hpayer
  have hpayeeFrame := hother.2 payee hpayee
  refine ⟨Ne.symm hne, payer, payee, hpayer, hpayee, ?_, hcovers rfl⟩
  rw [← Account.frame_currency payer, hpayerFrame, Account.frame_currency, ← hcurrency,
    ← Account.frame_currency other, ← hpayeeFrame, Account.frame_currency]

theorem guarded_transferring :
    (transferring amount account other).Guarded stamp registry
      (fun moment => Unspent stamp moment ∧ Seen account moment ∧ Seen other moment) [] := by
  unfold transferring
  by_cases hcurrency : other.currency = account.currency
  · rw [if_neg (not_not.2 hcurrency)]
    by_cases hid : other.id = account.id
    · rw [if_pos hid]
      exact guarded_fail _
    · rw [if_neg hid]
      refine guarded_hold_recording (.transfer account.id other.id) ?_ ?_
      · exact stable_unspent.and ((stable_seen account).and (stable_seen other))
      · intro moment hmoment hchecked
        obtain ⟨hunspent, haccount, hother⟩ := hmoment
        exact ⟨ready_of_checked_transfer haccount hother hcurrency hid hchecked, hunspent⟩
  · rw [if_pos hcurrency]
    exact guarded_fail _

theorem guarded_moving (order : Order) :
    (moving ⟨amount, order⟩ account).Guarded stamp registry
      (fun moment => Unspent stamp moment ∧ Seen account moment) [] := by
  have hstable : Stable stamp [] fun moment => Unspent stamp moment ∧ Seen account moment :=
    stable_unspent.and (stable_seen account)
  rw [moving_eq]
  cases order with
  | deposit card =>
      refine guarded_hold_recording (.deposit account.id) hstable ?_
      intro moment hmoment hchecked
      exact ⟨ready_of_checked_single (Or.inl rfl) hchecked, hmoment.1⟩
  | withdrawal card =>
      refine guarded_ofOutcome_bind fun _ _ => ?_
      refine guarded_hold_recording (.withdrawal account.id) hstable ?_
      intro moment hmoment hchecked
      exact ⟨ready_of_checked_single (Or.inr rfl) hchecked, hmoment.1⟩
  | transfer card destination =>
      refine guarded_ofOutcome_bind fun _ _ => ?_
      refine guarded_read_bind rfl
        (fun other moment => Unspent stamp moment ∧ Seen account moment ∧ Seen other moment)
        ?_ ?_ fun other => guarded_transferring
      · exact fun other => stable_unspent.and ((stable_seen account).and (stable_seen other))
      · intro other moment hmoment hanswer
        exact ⟨hmoment.1, hmoment.2, seen_of_accountOfCard hanswer⟩

theorem guarded_move (rules : Rules) (identity : String) (request : MovementRequest) :
    (move rules identity request).Guarded stamp registry (Unspent stamp) [] := by
  rw [move_eq]
  refine guarded_ofOutcome_bind fun movement _ => ?_
  refine guarded_look_bind rfl stable_unspent fun owner => ?_
  refine guarded_read_bind rfl (fun account moment => Unspent stamp moment ∧ Seen account moment)
    ?_ ?_ fun account => guarded_ofOutcome_bind fun _ _ => guarded_moving movement.order
  · exact fun account => stable_unspent.and (stable_seen account)
  · intro account moment hunspent hanswer
    exact ⟨hunspent, seen_of_accountOfCard hanswer⟩

end

/-! ### Reversals -/

/-- A transaction was seen to be of this kind. -/
def HasKind (id : TransactionId) (kind : TransactionKind) (moment : Moment) : Prop :=
  ∃ tx, moment.ledger.transactions[id]? = some tx ∧ tx.kind = kind

theorem stable_hasKind (id : TransactionId) (kind : TransactionKind) :
    Stable stamp keys (HasKind id kind) := by
  intro earlier later hearlier hbeside
  obtain ⟨tx, htx, hkind⟩ := hearlier
  obtain ⟨new, hnew, hsame⟩ := hbeside.kinds id tx htx
  exact ⟨new, hnew, hsame.trans hkind⟩

theorem guarded_reverse (hstable : Stable stamp [] known) (identity : String)
    (request : ReversalRequest) : (reverse identity request).Guarded stamp registry known [] := by
  rw [reverse_eq]
  refine guarded_ofOutcome_bind fun id _ => ?_
  refine guarded_look_bind rfl hstable fun owner => ?_
  refine guarded_read_bind rfl (fun tx => HasKind id tx.kind) (fun tx => stable_hasKind id tx.kind)
    ?_ ?_
  · intro tx moment _ hanswer
    exact ⟨tx, Ledger.transaction_ok_iff.1 hanswer, rfl⟩
  · intro tx
    refine guarded_ofOutcome_bind ?_
    intro ends hends
    obtain ⟨source, destination⟩ := ends
    obtain ⟨hkind, -⟩ := Transaction.ensureReversible_ok_iff.1 hends
    refine guarded_look_bind rfl (stable_hasKind id tx.kind) fun account =>
      guarded_ofOutcome_bind fun _ _ => guarded_hold (List.cons_ne_nil _ _) ?_
    refine guarded_write rfl ?_
    intro moment hmoment
    obtain ⟨now, hnow, hsame⟩ := hmoment
    refine ⟨now, hnow, ?_⟩
    rw [hsame, hkind]
    exact fun _ hid => hid

end Plan

/-- **Every call is guarded**, if no transaction has the identifier that it gets for one. -/
theorem Call.guarded_plan (call : Call) (rules : Rules) (identity : String) (stamp : Stamp)
    (registry : Registry) :
    (call.plan rules identity).Guarded stamp registry (Unspent stamp) [] := by
  have hstable : Stable stamp [] (Unspent stamp) := stable_unspent
  cases call with
  | openAccount request =>
      exact Plan.guarded_map _ (Plan.guarded_openAccount hstable rules identity request)
  | closeAccount id => exact Plan.guarded_map _ (Plan.guarded_closeAccount hstable identity id)
  | issueCard id => exact Plan.guarded_map _ (Plan.guarded_issueCard hstable identity id)
  | removeCard number => exact Plan.guarded_map _ (Plan.guarded_removeCard hstable identity number)
  | accounts => exact Plan.guarded_map _ (Plan.guarded_accounts hstable identity)
  | account id => exact Plan.guarded_map _ (Plan.guarded_ownedAccount hstable identity id)
  | cards id => exact Plan.guarded_map _ (Plan.guarded_cards hstable identity id)
  | transactions filter =>
      exact Plan.guarded_map _ (Plan.guarded_transactions hstable identity filter)
  | move request => exact Plan.guarded_map _ (Plan.guarded_move rules identity request)
  | reverse request => exact Plan.guarded_map _ (Plan.guarded_reverse hstable identity request)

end Cashbook
