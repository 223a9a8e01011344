/-
The critical section protects what it checked.

A call that has all its keys keeps them until it ends, and until then the rows of its
accounts change by its own movement alone.  It makes that once, and then has nothing left
to do but to return.  So a call that is still about to ask for its movement finds the rows
that it found when it looked at its accounts for the second time, and since they were fit
for the movement then, all that can go wrong is that the destination overflows.
-/
import Cashbook.Proofs.Service.Protected
import Cashbook.Proofs.Service.SecondLook

namespace Cashbook

namespace Floor

variable {floor : Floor Reply} {ticket : Nat}

/-! ### A movement that is about to be asked for -/

/-- The movement that a call is about to ask for. -/
def recording? (floor : Floor Reply) (ticket : Nat) : Option (Amount × TransactionKind) :=
  match floor.calls[ticket]? with
  | some (.working (.ask (.record amount kind) _)) => some (amount, kind)
  | _ => none

theorem recording?_eq_some_iff {amount : Amount} {kind : TransactionKind} :
    floor.recording? ticket = some (amount, kind) ↔
      ∃ next, floor.calls[ticket]? = some (.working (.ask (.record amount kind) next)) := by
  unfold recording?
  split
  · next hcall =>
    rw [hcall]
    simp
  · next hnot =>
    refine iff_of_false (by simp) ?_
    rintro ⟨next, hcall⟩
    exact hnot _ _ _ hcall

end Floor

/-- A movement that its accounts are ready for is recorded, or the destination overflows. -/
theorem Bank.perform_record_of_ready {bank : Bank} {stamp : Stamp} {amount : Amount}
    {kind : TransactionKind} (hready : kind.Ready amount bank.ledger.accounts)
    (hnew : bank.ledger.transactions[stamp.transaction]? = none) :
    (bank.perform stamp (.record amount kind)).1 =
        .ok ⟨stamp.transaction, amount, kind, false, stamp.time⟩ ∨
      bank.perform stamp (.record amount kind) = (.error (.invalid .balanceOverflow), bank) := by
  let tx : Transaction := ⟨stamp.transaction, amount, kind, false, stamp.time⟩
  have hperform : bank.perform stamp (.record amount kind) = bank.change (Ledger.record tx) := rfl
  rcases (Ledger.record_of_ready hready hnew : (∃ changed, bank.ledger.record tx = _) ∨ _) with
    ⟨changed, hrecord⟩ | hover
  · exact Or.inl (by rw [hperform, Bank.change, hrecord])
  · exact Or.inr (by rw [hperform, Bank.change, hover])

/-! ### Rows that a call has the keys of -/

namespace Secure

variable {visits : List Visit} {registry : Registry} {floor : Floor Reply} {spent : List Nat}
  {ticket : Nat} {claim : Claim AccountId} {id : AccountId} {row : Account} {amount : Amount}
  {kind : TransactionKind}

/-- An account whose key a call holds stays as it is, but for the change of the call itself. -/
theorem kept_or_granted (h : Secure visits registry floor spent)
    (hclaim : floor.locks.claims[ticket]? = some claim) (hid : id ∈ claim.keys)
    (hrow : floor.bank.ledger.accounts[id]? = some row) (event : Event) :
    (floor.happen visits event).bank.ledger.accounts[id]? = some row ∨
      (∃ now, event = .turn now ticket) ∧
        floor.Grants visits (floor.happen visits event) ticket := by
  rcases floor.bank_happen visits event with hsame | ⟨now, other, hevent, hgrants⟩
  · rw [hsame]
    exact Or.inl hrow
  · by_cases hne : other = ticket
    · subst hne
      exact Or.inr ⟨⟨now, hevent⟩, hgrants⟩
    · obtain ⟨visit, q, next, answer, hvisit, hwrite, hcall, hperform, -⟩ := hgrants
      obtain ⟨moment, hledger, -⟩ := h.underWay
      have hfiled : floor.bank.ledger.CardsFiled := hledger ▸ moment.inOrder.cardsFiled
      obtain ⟨change, hchange, heffect, -⟩ := Bank.exists_effect hfiled hwrite hperform
      exact Or.inl (heffect.account_kept hrow (h.not_touches hvisit hcall hwrite hchange hne
        (Locks.holds_of_mem_keys hclaim hid)))

/-- A call that has been given its change has nothing left to ask for. -/
theorem isOver_of_grants (h : Secure visits registry floor spent) {later : Floor Reply}
    (hgrants : floor.Grants visits later ticket) {rest : Plan Reply}
    (hafter : later.calls[ticket]? = some (.working rest)) : rest.isOver = true := by
  obtain ⟨visit, q, next, answer, hvisit, hwrite, hcall, -, hnext⟩ := hgrants
  obtain ⟨-, -, -, -, -, hdone⟩ := h.permitted hvisit hcall hwrite
  obtain ⟨reply, hreply⟩ := hdone answer
  rw [hnext, hreply] at hafter
  cases hafter
  rfl

/-- A call that has more to ask for finds its accounts as they were when it got their keys. -/
theorem kept_of_play (haccounts : (visits.map fun visit => visit.stamp.account).Nodup)
    (htransactions : (visits.map fun visit => visit.stamp.transaction).Nodup)
    {events : List Event} (h : Secure visits registry floor spent)
    (hclaim : floor.locks.claims[ticket]? = some claim) (hcomplete : claim.IsComplete)
    (hid : id ∈ claim.keys) (hrow : floor.bank.ledger.accounts[id]? = some row)
    {rest : Plan Reply} (hafter : (floor.play visits events).calls[ticket]? = some (.working rest))
    (hmore : rest.isOver = false) :
    (floor.play visits events).bank.ledger.accounts[id]? = some row := by
  induction events generalizing floor spent with
  | nil => exact hrow
  | cons event more ih =>
      have hlater : ((floor.happen visits event).play visits more).calls[ticket]? =
          some (.working rest) := hafter
      obtain ⟨plan, hplan, hstill⟩ := Floor.working_of_play hlater
      have hkept : (floor.happen visits event).bank.ledger.accounts[id]? = some row := by
        rcases h.kept_or_granted hclaim hid hrow event with hkept | ⟨-, hgrants⟩
        · exact hkept
        · have hover := h.isOver_of_grants hgrants hplan
          rw [hstill hmore] at hover
          cases hover
      obtain ⟨next, hnext⟩ := h.happen haccounts htransactions event
      exact ih hnext ((floor.fares_happen visits event ticket).claim_kept hplan hclaim hcomplete)
        hkept hafter

/-- What a call has that is about to ask for a movement: the keys, and accounts that are ready. -/
theorem of_recording (h : Secure visits registry floor spent)
    (hrecording : floor.recording? ticket = some (amount, kind)) :
    ∃ visit, visits[ticket]? = some visit ∧
      (∃ claim, floor.locks.claims[ticket]? = some claim ∧ claim.IsComplete ∧
        ∀ id, id ∈ claim.keys ↔ id ∈ kind.accounts) ∧
      kind.Ready amount floor.bank.ledger.accounts ∧
      floor.bank.ledger.transactions[visit.stamp.transaction]? = none := by
  obtain ⟨next, hcall⟩ := Floor.recording?_eq_some_iff.1 hrecording
  obtain ⟨_, -, -, hcalls⟩ := h.underWay
  obtain ⟨visit, -, -, hvisit, -⟩ := hcalls ticket _ hcall
  obtain ⟨moment, keys, hbank, ⟨rfl, hready, hunspent⟩, hstanding, -⟩ :=
    h.permitted hvisit hcall rfl
  have hledger : moment.ledger = floor.bank.ledger := congrArg Bank.ledger hbank
  have hasked : kind.accounts ≠ [] := by
    cases kind with
    | transfer _ _ | deposit _ | withdrawal _ => exact List.cons_ne_nil _ _
  exact ⟨visit, hvisit, hstanding.exists_claim hasked, hledger ▸ hready, hledger ▸ hunspent⟩

end Secure

/--
**The critical section protects what it checked.**  Any calls are under way on a bank in
order, all of which get identifiers from outside that are new and differ, and whatever
happens in whatever order: turns, interruptions and sweeps.  Take a call that is about to
ask for its movement.

  * It has the keys of the accounts that the movement is between, and no others.
  * It has looked at each of them with these keys, and whatever row it found is the row
    that the movement will find.
  * The movement is recorded, or the destination overflows and the bank stays as it is.
  * From here on, until the call ends, nothing but its own turn changes or removes one of
    these rows.
-/
theorem Floor.movement_protected (rules : Rules) (visits : List Visit) (bank : Bank)
    (events more : List Event) (horder : bank.ledger.InOrder)
    (haccounts : ∀ visit ∈ visits, bank.ledger.accounts[visit.stamp.account]? = none)
    (haccountsDiffer : (visits.map fun visit => visit.stamp.account).Nodup)
    (htransactions : ∀ visit ∈ visits,
      bank.ledger.transactions[visit.stamp.transaction]? = none)
    (htransactionsDiffer : (visits.map fun visit => visit.stamp.transaction).Nodup) :
    let start := Floor.opened rules visits bank .empty
    let asking := start.play visits events
    let later := asking.play visits more
    ∀ ticket amount kind, asking.recording? ticket = some (amount, kind) →
      (∃ claim, asking.locks.claims[ticket]? = some claim ∧ claim.IsComplete ∧
        ∀ id, id ∈ claim.keys ↔ id ∈ kind.accounts) ∧
      (∀ id ∈ kind.accounts, HasFound visits start events ticket id ∧
        ∀ earlier between row, earlier ++ between = events →
          (start.play visits earlier).Finds ticket id row →
            asking.bank.ledger.accounts[id]? = some row) ∧
      (∃ visit, visits[ticket]? = some visit ∧
        ((asking.bank.perform visit.stamp (.record amount kind)).1 =
            .ok ⟨visit.stamp.transaction, amount, kind, false, visit.stamp.time⟩ ∨
          asking.bank.perform visit.stamp (.record amount kind) =
            (.error (.invalid .balanceOverflow), asking.bank))) ∧
      ∀ rest, later.calls[ticket]? = some (.working rest) →
        ∀ event, (∀ now, event ≠ .turn now ticket) →
          ∀ id ∈ kind.accounts, ∀ row, later.bank.ledger.accounts[id]? = some row →
            (later.happen visits event).bank.ledger.accounts[id]? = some row := by
  intro start asking later ticket amount kind hrecording
  have hopened : Secure visits bank.registry start [] :=
    Secure.opened rules horder haccounts htransactions
  obtain ⟨spent, hasking⟩ : ∃ spent, Secure visits bank.registry asking spent :=
    hopened.play haccountsDiffer htransactionsDiffer events
  obtain ⟨visit, hvisit, ⟨claim, hclaim, hcomplete, hkeys⟩, hready, hnew⟩ :=
    hasking.of_recording hrecording
  obtain ⟨next, hcall⟩ := Floor.recording?_eq_some_iff.1 hrecording
  refine ⟨⟨claim, hclaim, hcomplete, hkeys⟩, ?_,
    ⟨visit, hvisit, Bank.perform_record_of_ready hready hnew⟩, ?_⟩
  · intro id hid
    have hattentive : Attentive visits start events :=
      (Attentive.opened rules visits bank .empty).play events
    refine ⟨hattentive.hasFound hcall hclaim hcomplete hid, ?_⟩
    intro earlier between row heq hfinds
    obtain ⟨found, looking, hfound, hfull, -, hrow⟩ := hfinds
    have hasked : (start.play visits earlier).play visits between = asking := by
      rw [← play_append, heq]
    rw [← hasked] at hcall hclaim ⊢
    have hsame : found = claim :=
      Option.some.inj ((Floor.claim_kept_of_play hcall hfound hfull).symm.trans hclaim)
    obtain ⟨early, hsecure⟩ := hopened.play haccountsDiffer htransactionsDiffer earlier
    have hkey : id ∈ found.keys := hsame ▸ (hkeys id).2 hid
    exact hsecure.kept_of_play haccountsDiffer htransactionsDiffer hfound hfull hkey hrow hcall rfl
  · intro rest hrest event hother id hid row hrow
    obtain ⟨final, hlater⟩ := hasking.play haccountsDiffer htransactionsDiffer more
    have hstill := Floor.claim_kept_of_play hrest hclaim hcomplete
    rcases hlater.kept_or_granted hstill ((hkeys id).2 hid) hrow event with
      hkept | ⟨⟨now, hown⟩, -⟩
    · exact hkept
    · exact absurd hown (hother now)

/-! ### A transfer and a closing side by side -/

namespace Sample

def price : Amount := (transaction 0 (.deposit alice)).amount

def cardsIssued : List Change := history.take 4 ++ [.createCard ⟨.ofSerial 2, bob, .ofMillis 0⟩]

/-- The bank after money has come in, and with a card for each account. -/
def branch : Bank := { bank with ledger := Ledger.after cardsIssued .empty }

/-- Money is moved to an account that is to be closed. -/
def rivals : List Visit :=
  [⟨"alice", .move (.transfer price.value (.ofSerial 1) (.ofSerial 2)), .series 100 0⟩,
    ⟨"alice", .closeAccount bob, .series 100 1⟩]

/-- The closing has seen the account, and waits for its key while the transfer looks again. -/
def lookedAgain : List Event :=
  [1, 1, 0, 0, 0, 0, 0, 0, 0, 0, 0, 1, 1, 0, 1, 0].map (Event.turn 0)

end Sample

theorem Floor.movement_protected_sample :
    let start := Floor.opened ⟨.zero, 2, 64⟩ Sample.rivals Sample.branch .empty
    let asking := start.play Sample.rivals Sample.lookedAgain
    let later := asking.play Sample.rivals [.sweep (fun _ => 1000) 0]
    asking.recording? 0 = some (Sample.price, .transfer Sample.alice Sample.bob) ∧
      HasFound Sample.rivals start Sample.lookedAgain 0 Sample.bob ∧
      (later.happen Sample.rivals (.turn 0 1)).bank.ledger.accounts[Sample.bob]? =
        some (Sample.account Sample.bob) := by
  intro start asking later
  have hwell := (Ledger.wellFormed_and_tracedTo_after Sample.cardsIssued fun tx htx =>
    Sample.rolledBack_of_mem_history tx (by
      rcases List.mem_append.1 htx with hold | hcard
      · exact List.mem_of_mem_take hold
      · simp at hcard)).1
  have hrecording : asking.recording? 0 =
      some (Sample.price, .transfer Sample.alice Sample.bob) := by decide +kernel
  have hstill : later.recording? 0 =
      some (Sample.price, .transfer Sample.alice Sample.bob) := by decide +kernel
  have hlater : later.bank.ledger.accounts[Sample.bob]? = some (Sample.account Sample.bob) := by
    decide +kernel
  obtain ⟨next, hcall⟩ := Floor.recording?_eq_some_iff.1 hstill
  obtain ⟨-, hfound, -, hothers⟩ := Floor.movement_protected ⟨.zero, 2, 64⟩ Sample.rivals
    Sample.branch Sample.lookedAgain [.sweep (fun _ => 1000) 0] hwell.toInOrder
    (by decide +kernel) (by decide +kernel) (by decide +kernel) (by decide +kernel) 0 _ _ hrecording
  exact ⟨hrecording, (hfound Sample.bob (by decide)).1,
    hothers _ hcall (.turn 0 1) (by simp) Sample.bob (by decide) _ hlater⟩

end Cashbook
