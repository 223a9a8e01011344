/-
What a reference stands for.

A reference is bound by the first movement that is done under it, and from then on to the
transaction of that movement: no other row that carries it gets past the first check, but for
the rollbacks, and those leave it alone.  So a rollback can only ever be of that transaction.
That it is done once at most is the ledger's doing: the transaction is still there, and it has
the mark of the reversal.
-/
import Cashbook.Proofs.Ledger.AppendOnly
import Cashbook.Proofs.Replay.Steps

namespace Cashbook

variable {r after : Replay Desk} {op : Operation} {label : String} {key : TransactionId}
  {tx : Transaction} {row : Except Csv.Fault Operation} {rows : List (Except Csv.Fault Operation)}

/-- A list is pairwise related if each member is related to all behind it, wherever it is split. -/
theorem pairwise_of_split {α : Type} {R : α → α → Prop} {xs : List α}
    (h : ∀ earlier x later, xs = earlier ++ x :: later → ∀ y ∈ later, R x y) : xs.Pairwise R := by
  induction xs with
  | nil => exact .nil
  | cons x rest ih =>
      refine List.pairwise_cons.2 ⟨h [] x rest rfl, ih fun earlier y later hrest => ?_⟩
      exact h (x :: earlier) y later (congrArg (x :: ·) hrest)

namespace Replay

/-! ### Rows that carry a reference -/

/-- A row whose reference stands for a movement is refused, unless it is a rollback. -/
theorem on_apply_of_bound (hkind : op.kind ≠ .rollback) (hlabel : op.reference = some label)
    (hbound : r.references[label]? = some key) :
    Task.on (apply op) r = (.error (.alreadyExists (.reference label)), r.registered op.user) := by
  have hcontains : (r.registered op.user).references.contains label = true := by
    rw [Std.ExtTreeMap.contains_eq_isSome_getElem?]
    exact Option.isSome_of_eq_some hbound
  have hfresh : Task.on (ensureFresh op) (r.registered op.user) =
      (.error (.alreadyExists (.reference label)), r.registered op.user) := by
    rw [Task.on_ensureFresh, hlabel]
    simp only [if_pos (And.intro hkind hcontains)]
  unfold apply
  rw [Task.on_bind_of_ok (Task.on_register op.user r), Task.on_bind_of_error hfresh]

/-- A rollback is refused whose reference stands for nothing. -/
theorem on_apply_of_unbound (hkind : op.kind = .rollback) (hlabel : op.reference = some label)
    (hunbound : r.references[label]? = none) :
    Task.on (apply op) r = (.error (.notFound (.reference label)), r.registered op.user) := by
  have hfresh : Task.on (ensureFresh op) (r.registered op.user) = (.ok (), r.registered op.user) := by
    rw [Task.on_ensureFresh, hlabel]
    simp [hkind]
  have hdemand : Task.on (demand op.reference .referenceRequired) (r.registered op.user) =
      (.ok label, r.registered op.user) := by
    rw [hlabel]
    rfl
  have hnone : (r.registered op.user).references[label]? = none := hunbound
  unfold apply
  rw [Task.on_bind_of_ok (Task.on_register op.user r), Task.on_bind_of_ok hfresh, hkind]
  show Task.on (rollback op) _ = _
  unfold rollback
  rw [Task.on_bind_of_ok hdemand, Task.on_bind_of_ok (Task.on_get _), hnone]
  rfl

/-- The row is of a movement, and has had this transaction recorded. -/
structure Records (r : Replay Desk) (op : Operation) (after : Replay Desk) (tx : Transaction) :
    Prop where
  type : op.kind.movement? = some tx.kind.type
  unmarked : tx.rolledBack = false
  new : r.teller.bank.ledger.transactions[tx.id]? = none
  recorded : after.teller.bank.ledger.transactions[tx.id]? = some tx
  references : after.references = match op.reference with
    | some label => r.references.insert label tx.id
    | none => r.references

/-- A row that is done has a transaction recorded, or is of no movement and binds nothing. -/
theorem Achieves.records (h : r.Achieves op after) (horder : r.teller.bank.ledger.InOrder) :
    (∃ tx, r.Records op after tx) ∨
      (op.kind.movement? = none ∧ after.references = r.references) := by
  cases h with
  | opened hopens hissued => exact Or.inr ⟨by rw [hopens.kind]; rfl, rfl⟩
  | reversed hkind hlabel hbound hreversed => exact Or.inr ⟨by rw [hkind]; rfl, rfl⟩
  | closed hkind hprepares hhandle hclosed =>
      exact Or.inr ⟨by rw [hkind]; rfl, hprepares.references⟩
  | @moved looked request tx changed used hprepares hasks hmoved =>
      obtain ⟨movement, account, hmovement, -, hcomes, htx, -, -, -, ⟨accounts, -, hnew, hafter⟩, -⟩ :=
        (Plan.move_ok_iff (hprepares.evolves.inOrder horder)).1 hmoved
      obtain ⟨type, htype, hname⟩ := hasks.exists_type
      refine Or.inl ⟨tx, ?_, by rw [htx], ?_, ?_, ?_⟩
      · rw [htype, hcomes.type, Rules.type_of_movement hmovement hname]
      · rw [← hprepares.transactions]
        exact hnew
      · rw [teller_refer]
        show changed.ledger.transactions[tx.id]? = some tx
        rw [hafter]
        exact Std.ExtTreeMap.getElem?_insert_self
      · rw [← hprepares.references]
        unfold refer
        cases op.reference <;> rfl

/-! ### One row -/

/-- A row that is done and carries a label binds it, or leaves it as it is. -/
theorem references_applyRow (row : Except Csv.Fault Operation)
    (horder : r.teller.bank.ledger.InOrder) :
    (∃ op tx, row = .ok op ∧ (applyRow row r).1 = .done ∧ r.Records op (applyRow row r).2 tx) ∨
      (applyRow row r).2.references = r.references := by
  by_cases hdone : (applyRow row r).1 = .done
  · obtain ⟨op, hrow, hachieves⟩ := achieves_of_done hdone
    rcases hachieves.records horder with ⟨tx, hrecords⟩ | ⟨-, hsame⟩
    · exact Or.inl ⟨op, tx, hrow, hdone, hrecords⟩
    · exact Or.inr hsame
  · rcases prepares_or_strands_of_not_done hdone with
      hprepares | ⟨op, account, opened, used, -, -, hafter⟩
    · exact Or.inr hprepares.references
    · rw [hafter]
      exact Or.inr rfl

/-- **A reference that stands for a transaction stands for it after any row.** -/
theorem bound_applyRow (horder : r.teller.bank.ledger.InOrder) (hbound : r.references[label]? = some key) :
    (applyRow row r).2.references[label]? = some key := by
  rcases references_applyRow row horder with ⟨op, tx, rfl, hdone, hrecords⟩ | hsame
  · rw [hrecords.references]
    cases hlabel : op.reference with
    | none => exact hbound
    | some other =>
        have hne : other ≠ label := by
          rintro rfl
          have hkind : op.kind ≠ .rollback :=
            OperationKind.ne_rollback (Option.isSome_of_eq_some hrecords.type)
          rw [applyRow_ok, on_apply_of_bound hkind hlabel hbound] at hdone
          cases hdone
        exact (Table.getElem?_insert_of_ne _ _ hne).trans hbound
  · rw [hsame]
    exact hbound

/-- A rollback that is done reverses the transaction that its reference stands for. -/
theorem reversal_of_rollback (horderly : r.Orderly) (hkind : op.kind = .rollback)
    (hlabel : op.reference = some label) (hbound : r.references[label]? = some key)
    (hdone : (applyRow (.ok op) r).1 = .done) :
    ∃ tx source destination, Ledger.Reversal r.teller.bank.ledger
      (applyRow (.ok op) r).2.teller.bank.ledger key tx source destination := by
  obtain ⟨same, hsame, hachieves⟩ := achieves_of_done hdone
  obtain rfl := Except.ok.inj hsame
  generalize (applyRow (.ok op) r).2 = after at hachieves
  cases hachieves with
  | opened hopens hissued => cases hkind.symm.trans hopens.kind
  | moved hprepares hasks hmoved =>
      obtain ⟨type, htype, -⟩ := hasks.exists_type
      rw [hkind] at htype
      cases htype
  | closed hclose hprepares hhandle hclosed => cases hkind.symm.trans hclose
  | @reversed found id tx changed used _ hfound hstands hreversed =>
      obtain rfl := Option.some.inj (hlabel.symm.trans hfound)
      obtain rfl := Option.some.inj (hbound.symm.trans hstands)
      obtain ⟨other, hother, -, -, -, heffect, -⟩ := Plan.reverse_ok_iff.1 ⟨tx, hreversed⟩
      obtain rfl : key = other := Except.ok.inj ((Id.parse_toText key).symm.trans hother)
      exact Ledger.exists_reversal horderly.transfersDistinct heffect

/-! ### Along a run -/

namespace Step

/-- The row moves money under the reference, and is done. -/
def Moves (label : String) (step : Step) : Prop :=
  ∃ op, step.row = .ok op ∧ op.reference = some label ∧ op.kind.movement?.isSome = true ∧
    step.result = .done

/-- The row rolls back what the reference stands for, and is done. -/
def RollsBack (label : String) (step : Step) : Prop :=
  ∃ op, step.row = .ok op ∧ op.reference = some label ∧ op.kind = .rollback ∧ step.result = .done

end Step

/-- What a reference stands for is the same after every step, and the ledger evolves. -/
theorem steps_bound (rows : List (Except Csv.Fault Operation)) (horderly : r.Orderly)
    (hbound : r.references[label]? = some key) :
    ∀ step ∈ steps rows r, step.before.references[label]? = some key ∧
      step.after.references[label]? = some key ∧
        r.teller.bank.ledger.Evolves step.before.teller.bank.ledger := by
  have hall := steps_induction rows
    (P := fun s => s.Orderly ∧ s.references[label]? = some key ∧
      r.teller.bank.ledger.Evolves s.teller.bank.ledger)
    ⟨horderly, hbound, .refl _⟩ fun step _ hbefore =>
      ⟨hbefore.1.applyRow step.row, bound_applyRow hbefore.1.inOrder hbefore.2.1,
        hbefore.2.2.trans (evolves_applyRow step.row hbefore.1.inOrder)⟩
  exact fun step hstep => ⟨(hall.1 step hstep).1.2.1, (hall.1 step hstep).2.2.1,
    (hall.1 step hstep).1.2.2⟩

/-- A reference stands for nothing until a movement is done under it. -/
theorem steps_unbound (horderly : r.Orderly) (hunbound : r.references[label]? = none)
    (hnone : ∀ step ∈ steps rows r, ¬step.Moves label) :
    (applyRows rows r).2.references[label]? = none := by
  refine (steps_induction rows (P := fun s => s.Orderly ∧ s.references[label]? = none)
    ⟨horderly, hunbound⟩ fun step hstep hbefore => ?_).2.2
  refine ⟨hbefore.1.applyRow step.row, ?_⟩
  show (applyRow step.row step.before).2.references[label]? = none
  rcases references_applyRow step.row hbefore.1.inOrder with
    ⟨op, tx, hrow, hdone, hrecords⟩ | hsame
  · rw [hrecords.references]
    cases hlabel : op.reference with
    | none => exact hbefore.2
    | some other =>
        have hne : other ≠ label := by
          rintro rfl
          exact hnone step hstep ⟨op, hrow, hlabel, Option.isSome_of_eq_some hrecords.type, hdone⟩
        exact (Table.getElem?_insert_of_ne _ _ hne).trans hbefore.2
  · rw [hsame]
    exact hbefore.2

section

variable {step other : Step}

theorem Step.result_of_bound (hbound : step.before.references[label]? = some key)
    (hrow : step.row = .ok op) (hlabel : op.reference = some label) (hkind : op.kind ≠ .rollback) :
    step.result = .failed (.alreadyExists (.reference label)) := by
  rw [Step.result, hrow, applyRow_ok, on_apply_of_bound hkind hlabel hbound]
  rfl

theorem Step.result_of_unbound (hunbound : step.before.references[label]? = none)
    (hrow : step.row = .ok op) (hlabel : op.reference = some label) (hkind : op.kind = .rollback) :
    step.result = .failed (.notFound (.reference label)) := by
  rw [Step.result, hrow, applyRow_ok, on_apply_of_unbound hkind hlabel hunbound]
  rfl

/-- Where a reference stands for a transaction, no further movement is done under it. -/
theorem Step.not_moves (hbound : step.before.references[label]? = some key) : ¬step.Moves label := by
  intro hmoves
  obtain ⟨op, hrow, hlabel, htype, hdone⟩ := hmoves
  rw [Step.result_of_bound hbound hrow hlabel (OperationKind.ne_rollback htype)] at hdone
  cases hdone

/-- A movement that is done under a reference is what the reference stands for. -/
theorem Step.Moves.records (h : step.Moves label) (horder : step.before.teller.bank.ledger.InOrder) :
    ∃ op tx, step.row = .ok op ∧ step.before.Records op step.after tx ∧
      step.after.references[label]? = some tx.id := by
  obtain ⟨op, hrow, hlabel, htype, hdone⟩ := h
  obtain ⟨same, hsame, hachieves⟩ := achieves_of_done hdone
  obtain rfl := Except.ok.inj (hrow.symm.trans hsame)
  rcases hachieves.records horder with ⟨tx, hrecords⟩ | ⟨hnone, -⟩
  · refine ⟨op, tx, hrow, hrecords, ?_⟩
    have hreferences := hrecords.references
    rw [hlabel] at hreferences
    show (applyRow step.row step.before).2.references[label]? = _
    rw [hreferences]
    exact Std.ExtTreeMap.getElem?_insert_self
  · rw [hnone] at htype
    cases htype

/-- What is rolled back under a reference is the transaction that it stands for. -/
theorem Step.RollsBack.reversal (h : step.RollsBack label) (horderly : step.before.Orderly) :
    ∃ key tx source destination, step.before.references[label]? = some key ∧
      Ledger.Reversal step.before.teller.bank.ledger step.after.teller.bank.ledger key tx source
        destination := by
  obtain ⟨op, hrow, hlabel, hkind, hdone⟩ := h
  cases hbound : step.before.references[label]? with
  | none =>
      rw [Step.result_of_unbound hbound hrow hlabel hkind] at hdone
      cases hdone
  | some key =>
      rw [Step.result, hrow] at hdone
      rw [Step.after, hrow]
      obtain ⟨tx, source, destination, hreversal⟩ :=
        reversal_of_rollback horderly hkind hlabel hbound hdone
      exact ⟨key, tx, source, destination, rfl, hreversal⟩

/-- A transaction that is reversed under a reference later is still as it was recorded. -/
theorem Step.RollsBack.reversal_of_bound (h : other.RollsBack label) (horderly : r.Orderly)
    (hbound : r.references[label]? = some tx.id) (hother : other ∈ steps rows r)
    (htx : r.teller.bank.ledger.transactions[tx.id]? = some tx) :
    tx.rolledBack = false ∧ ∃ source destination,
      Ledger.Reversal other.before.teller.bank.ledger other.after.teller.bank.ledger tx.id tx source
        destination := by
  obtain ⟨hstill, -, hevolves⟩ := steps_bound rows horderly hbound other hother
  obtain ⟨key, found, source, destination, hkey, hreversal⟩ :=
    h.reversal ((horderly.steps rows).1 other hother).1
  obtain rfl := Option.some.inj (hstill.symm.trans hkey)
  obtain ⟨mark, hkept, hmark⟩ := hevolves.transaction htx
  obtain rfl := Option.some.inj (hkept.symm.trans hreversal.stored)
  obtain rfl : mark = false := hreversal.unmarked
  have hflag : tx.rolledBack = false :=
    Bool.eq_false_iff.2 fun hmarked => Bool.false_ne_true (hmark hmarked)
  refine ⟨hflag, source, destination, ?_⟩
  rw [← hflag] at hreversal
  exact hreversal

end

/--
**A reference names one movement, which is reversed at most once.**  Whatever rows a replay works
through from its start, at whatever desk, and whatever becomes of them: at most one movement is
done under a label, and at most one rollback.  As long as no movement has been done, every
rollback that carries the label fails because the reference is not found.  Once one has been, the
reference stands for the transaction that it had recorded, to the end of the run; every other row
that carries the label and is not a rollback fails because the reference exists; and a rollback
that is done reverses just that transaction, which is then the transfer that the movement was.
-/
theorem reference_names_one_movement (desk : Desk) (hledger : desk.bank.ledger.WellFormed)
    (rows : List (Except Csv.Fault Operation)) (label : String) :
    let run := steps rows (start desk)
    run.Pairwise (fun first second => ¬(first.Moves label ∧ second.Moves label)) ∧
    run.Pairwise (fun first second => ¬(first.RollsBack label ∧ second.RollsBack label)) ∧
    ∀ (earlier : List Step) (step : Step) (later : List Step), run = earlier ++ step :: later →
      ((∀ other ∈ earlier, ¬other.Moves label) → ∀ op, step.row = .ok op →
        op.reference = some label → op.kind = .rollback →
          step.result = .failed (.notFound (.reference label))) ∧
      (step.Moves label → ∃ op tx, step.row = .ok op ∧ step.before.Records op step.after tx ∧
        (∀ other ∈ step :: later, other.after.references[label]? = some tx.id) ∧
        (∀ other ∈ later, ∀ next, other.row = .ok next → next.reference = some label →
          next.kind ≠ .rollback → other.result = .failed (.alreadyExists (.reference label))) ∧
        ∀ other ∈ later, other.RollsBack label → op.kind = .transfer ∧ ∃ source destination,
          Ledger.Reversal other.before.teller.bank.ledger other.after.teller.bank.ledger tx.id tx
            source destination) := by
  intro run
  have hstart : (start desk).Orderly := ⟨hledger.toInOrder, hledger.transfersDistinct⟩
  have horderly : ∀ step ∈ run, step.before.Orderly ∧ step.after.Orderly := (hstart.steps rows).1
  have hmem : ∀ {earlier later : List Step} {step : Step}, run = earlier ++ step :: later → step ∈ run :=
    fun hrun => hrun ▸ List.mem_append_right _ List.mem_cons_self
  refine ⟨pairwise_of_split ?_, pairwise_of_split ?_, ?_⟩
  · intro earlier step later hrun other hother hboth
    obtain ⟨-, rest, -, -, -, rfl, -⟩ := exists_of_steps_eq hrun
    have hhere := horderly step (hmem hrun)
    obtain ⟨-, tx, -, -, hbound⟩ := hboth.1.records hhere.1.inOrder
    exact Step.not_moves (steps_bound rest hhere.2 hbound other hother).1 hboth.2
  · intro earlier step later hrun other hother hboth
    obtain ⟨-, rest, -, -, -, rfl, -⟩ := exists_of_steps_eq hrun
    have hhere := horderly step (hmem hrun)
    obtain ⟨key, tx, source, destination, hbound, hreversal⟩ := hboth.1.reversal hhere.1
    have hid : tx.id = key := hhere.1.inOrder.transactionsFiled key tx hreversal.stored
    subst hid
    have hafter : step.after.references[label]? =
        some ({ tx with rolledBack := true } : Transaction).id :=
      bound_applyRow hhere.1.inOrder hbound
    obtain ⟨hflag, -⟩ := hboth.2.reversal_of_bound hhere.2 hafter hother hreversal.marked
    cases hflag
  · intro earlier step later hrun
    obtain ⟨first, rest, -, hearlier, hbefore, rfl, -⟩ := exists_of_steps_eq hrun
    have hhere := horderly step (hmem hrun)
    refine ⟨?_, ?_⟩
    · intro hnone op hrow hlabel hkind
      have hunbound : step.before.references[label]? = none := by
        rw [hbefore]
        rw [hearlier] at hnone
        exact steps_unbound hstart (by simp [start]) hnone
      exact Step.result_of_unbound hunbound hrow hlabel hkind
    · intro hmoves
      obtain ⟨op, tx, hrow, hrecords, hbound⟩ := hmoves.records hhere.1.inOrder
      have hlater := steps_bound rest hhere.2 hbound
      refine ⟨op, tx, hrow, hrecords, ?_, ?_, ?_⟩
      · intro other hother
        rcases List.mem_cons.1 hother with rfl | hrest
        · exact hbound
        · exact (hlater other hrest).2.1
      · intro other hother next hnext hlabel hkind
        exact Step.result_of_bound (hlater other hother).1 hnext hlabel hkind
      · intro other hother hrollsBack
        obtain ⟨-, source, destination, hreversal⟩ :=
          hrollsBack.reversal_of_bound hhere.2 hbound hother hrecords.recorded
        refine ⟨?_, source, destination, hreversal⟩
        refine OperationKind.eq_transfer ?_
        rw [hrecords.type, hreversal.kind]
        rfl

end Replay

/-! ### A payment that is taken back -/

namespace Sample

/-- One unit is paid under a reference. -/
def rent : Operation :=
  { operation .transfer "ann" "main" with
    amount := some one, counterparty := some "ben/main", reference := some "rent" }

/-- It is taken back. -/
def refund : Operation := { operation .rollback "ann" "main" with reference := some "rent" }

/-- It is paid, taken back, and paid again in vain. -/
def lease : List (Except Csv.Fault Operation) :=
  [ .ok (opening "ann" "main"),
    .ok (opening "ben" "main"),
    .ok income,
    .ok rent,
    .ok refund,
    .ok rent ]

end Sample

theorem Replay.reference_names_one_movement_sample :
    let desk := Desk.start ⟨.zero, 2, 64⟩ (Stamp.series 1)
    let paid : Step := ⟨.ok Sample.rent, (applyRows (Sample.lease.take 3) (start desk)).2⟩
    let back : Step := ⟨.ok Sample.refund, paid.after⟩
    let again : Step := ⟨.ok Sample.rent, back.after⟩
    desk.bank.ledger.WellFormed ∧ paid.Moves "rent" ∧ back.RollsBack "rent" ∧
      again.result = .failed (.alreadyExists (.reference "rent")) ∧
        ∃ tx source destination, Ledger.Reversal back.before.teller.bank.ledger
          back.after.teller.bank.ledger tx.id tx source destination := by
  intro desk paid back again
  have hpaid : paid.Moves "rent" := ⟨Sample.rent, rfl, rfl, rfl, by decide +kernel⟩
  have hback : back.RollsBack "rent" := ⟨Sample.refund, rfl, rfl, rfl, by decide +kernel⟩
  obtain ⟨-, -, hsplit⟩ :=
    reference_names_one_movement desk Ledger.wellFormed_empty Sample.lease "rent"
  obtain ⟨op, tx, -, -, -, hrefused, hreversed⟩ :=
    (hsplit (steps (Sample.lease.take 3) (start desk)) paid [back, again] rfl).2 hpaid
  obtain ⟨-, source, destination, hreversal⟩ := hreversed back (by simp) hback
  exact ⟨Ledger.wellFormed_empty, hpaid, hback, hrefused again (by simp) Sample.rent rfl rfl (by decide),
    tx, source, destination, hreversal⟩

end Cashbook
