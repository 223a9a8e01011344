/-
A run, step by step.

A run is the list of its steps: the rows, each with the replay that it met.  What the start
of a run has and every step keeps, every step has before and after it.  The one thing to say
about time is what has been so since some step, and was not before: `Brings`.

Whatever rows a replay works through, its ledger evolves by the changes of the ledger.  So
rows stay in order, and an account that is there after a row was there before it, or is the
one that the row has had opened.
-/
import Mathlib.Data.List.Induction
import Cashbook.Proofs.Replay.Cache
import Cashbook.Proofs.Replay.Row

namespace Cashbook

variable {r : Replay Desk} {op : Operation} {row : Except Csv.Fault Operation}
  {rows : List (Except Csv.Fault Operation)} {id : AccountId} {account : Account} {opened : Bank}

namespace Replay

/-! ### One row -/

/-- A row is done if it achieves what it is about. -/
theorem achieves_of_done (h : (applyRow row r).1 = .done) :
    ∃ op, row = .ok op ∧ r.Achieves op (applyRow row r).2 := by
  cases row with
  | error fault => cases h
  | ok op =>
      rw [applyRow_ok] at h
      rcases hon : Task.on (Replay.apply op) r with ⟨outcome, after⟩
      rw [hon] at h
      cases outcome with
      | ok value =>
          refine ⟨op, rfl, ?_⟩
          rw [applyRow_ok, hon]
          exact (Task.achieves_apply r op).of_ok rfl hon
      | error failure => cases h

/-- A row that is not done has only prepared something, or has left an account stranded. -/
theorem prepares_or_strands_of_not_done (h : (applyRow row r).1 ≠ .done) :
    r.Prepares (applyRow row r).2 ∨ ∃ op account opened used, row = .ok op ∧
      r.Strands op account opened ∧ (applyRow row r).2 = (r.registered op.user).settle opened used := by
  cases row with
  | error fault => exact Or.inl (.refl r)
  | ok op =>
      rw [applyRow_ok] at h
      rcases hon : Task.on (Replay.apply op) r with ⟨outcome, after⟩
      rw [hon] at h
      cases outcome with
      | ok value => exact absurd rfl h
      | error failure =>
          rw [applyRow_ok, hon]
          refine ((Task.achieves_apply r op).of_error rfl hon).imp id fun hstrands => ?_
          obtain ⟨account, opened, used, hstrands, hafter⟩ := hstrands
          exact ⟨op, account, opened, used, rfl, hstrands, hafter⟩

@[simp] theorem teller_refer (op : Operation) (key : TransactionId) (r : Replay Desk) :
    (r.refer op key).teller = r.teller := by
  unfold refer
  split <;> rfl

@[simp] theorem handles_refer (op : Operation) (key : TransactionId) (r : Replay Desk) :
    (r.refer op key).handles = r.handles := by
  unfold refer
  split <;> rfl

/-- A row that is done has opened an account with a card, or has made one change that opens none. -/
theorem Achieves.changes {after : Replay Desk} (h : r.Achieves op after) (horder : r.teller.bank.ledger.InOrder) :
    (∃ account opened card, r.Opens op account opened ∧
      (Change.createCard card).Effect opened.ledger after.teller.bank.ledger) ∨
    ∃ (looked : Replay Desk) (change : Change), r.Prepares looked ∧
      change.Effect looked.teller.bank.ledger after.teller.bank.ledger ∧ change.opening? = none ∧
        ∀ number, change ≠ .deleteCard number := by
  cases h with
  | @opened account card opened issued used hopens hissued =>
      obtain ⟨-, -, -, -, heffect, -⟩ := Plan.issueCard_ok_iff.1 hissued
      exact Or.inl ⟨account, opened, card, hopens, heffect⟩
  | @moved looked request tx changed used hprepares hasks hmoved =>
      obtain ⟨-, -, -, -, -, -, -, -, -, heffect, -⟩ :=
        (Plan.move_ok_iff (hprepares.evolves.inOrder horder)).1 hmoved
      refine Or.inr ⟨looked, .record tx, hprepares, ?_, rfl, nofun⟩
      rw [teller_refer]
      exact heffect
  | @reversed label key tx changed used hkind hlabel hbound hreversed =>
      obtain ⟨key, -, -, -, -, heffect, -⟩ := Plan.reverse_ok_iff.1 ⟨tx, hreversed⟩
      exact Or.inr ⟨r.registered op.user, _, .register r op.user, heffect, rfl, nofun⟩
  | @closed looked handle account changed used hkind hprepares hhandle hclosed =>
      obtain ⟨-, -, -, heffect, -⟩ :=
        (Plan.closeAccount_ok_iff (hprepares.evolves.inOrder horder)).1 ⟨account, hclosed⟩
      exact Or.inr ⟨looked, _, hprepares, heffect, rfl, nofun⟩

/-- **Whatever becomes of a row, the ledger evolves.** -/
theorem evolves_applyRow (row : Except Csv.Fault Operation) (horder : r.teller.bank.ledger.InOrder) :
    r.teller.bank.ledger.Evolves (applyRow row r).2.teller.bank.ledger := by
  by_cases hdone : (applyRow row r).1 = .done
  · obtain ⟨op, -, hachieves⟩ := achieves_of_done hdone
    rcases hachieves.changes horder with
      ⟨account, opened, card, hopens, heffect⟩ | ⟨looked, change, hprepares, heffect, -, -⟩
    · exact (Ledger.Evolves.one hopens.effect).trans (.one heffect)
    · exact hprepares.evolves.trans (.one heffect)
  · rcases prepares_or_strands_of_not_done hdone with
      hprepares | ⟨op, account, opened, used, -, hstrands, hafter⟩
    · exact hprepares.evolves
    · rw [hafter]
      exact .one hstrands.1.effect

/-- An account that is there after a row was there before but for its balance, or is the one opened. -/
theorem account_origin_applyRow (horder : r.teller.bank.ledger.InOrder)
    (hnew : (applyRow row r).2.teller.bank.ledger.accounts[id]? = some account) :
    (∃ old, r.teller.bank.ledger.accounts[id]? = some old ∧ account.frame = old.frame) ∨
      ∃ op opened, row = .ok op ∧ r.Opens op account opened ∧ account.id = id := by
  have hopened : ∀ {op : Operation} {new : Account} {opened : Bank}, row = .ok op →
      r.Opens op new opened → opened.ledger.accounts[id]? = some account →
        (∃ old, r.teller.bank.ledger.accounts[id]? = some old ∧ account.frame = old.frame) ∨
          ∃ op opened, row = .ok op ∧ r.Opens op account opened ∧ account.id = id := by
    intro op new opened hrow hopens hthere
    refine (hopens.effect.account_origin hthere).imp (fun h => h) fun hcreate => ?_
    obtain ⟨hsame, hid⟩ := hcreate
    obtain rfl := Change.createAccount.inj hsame
    exact ⟨op, opened, hrow, hopens, hid⟩
  by_cases hdone : (applyRow row r).1 = .done
  · obtain ⟨op, hrow, hachieves⟩ := achieves_of_done hdone
    rcases hachieves.changes horder with
      ⟨new, opened, card, hopens, -, -, hafter⟩ | ⟨looked, change, hprepares, heffect, hopen, -⟩
    · rw [hafter] at hnew
      exact hopened hrow hopens hnew
    · rcases heffect.account_origin hnew with hold | ⟨rfl, -⟩
      · rw [hprepares.accounts] at hold
        exact Or.inl hold
      · cases hopen
  · rcases prepares_or_strands_of_not_done hdone with
      hprepares | ⟨op, new, opened, used, hrow, hstrands, hafter⟩
    · rw [hprepares.accounts] at hnew
      exact Or.inl ⟨account, hnew, rfl⟩
    · rw [hafter] at hnew
      exact hopened hrow hstrands.1 hnew

/-! ### The steps of a run -/

/-- A row of a run, and the replay that it meets. -/
structure Step where
  row : Except Csv.Fault Operation
  before : Replay Desk

namespace Step

/-- What becomes of the row. -/
def result (step : Step) : RowResult := (applyRow step.row step.before).1

/-- The replay that the row leaves. -/
def after (step : Step) : Replay Desk := (applyRow step.row step.before).2

end Step

/-- The steps in which a replay works through rows. -/
def steps : List (Except Csv.Fault Operation) → Replay Desk → List Step
  | [], _ => []
  | row :: rows, r => ⟨row, r⟩ :: steps rows (applyRow row r).2

theorem map_row_steps (rows : List (Except Csv.Fault Operation)) (r : Replay Desk) :
    (steps rows r).map Step.row = rows := by
  induction rows generalizing r with
  | nil => rfl
  | cons row rest ih => exact congrArg (row :: ·) (ih _)

theorem row_mem_of_mem_steps {step : Step} (h : step ∈ steps rows r) : step.row ∈ rows := by
  rw [← map_row_steps rows r]
  exact List.mem_map_of_mem h

/-- The steps come to what the rows come to. -/
theorem map_result_steps (rows : List (Except Csv.Fault Operation)) (r : Replay Desk) :
    (steps rows r).map Step.result = (applyRows rows r).1 := by
  induction rows generalizing r with
  | nil => rfl
  | cons row rest ih => exact congrArg ((applyRow row r).1 :: ·) (ih _)

/-- A step of a run is one that the rows before it lead to, and the others follow on it. -/
theorem exists_of_steps_eq {earlier later : List Step} {step : Step}
    (h : steps rows r = earlier ++ step :: later) :
    ∃ first rest, rows = first ++ step.row :: rest ∧ earlier = steps first r ∧
      step.before = (applyRows first r).2 ∧ later = steps rest step.after ∧
        (applyRows rows r).2 = (applyRows rest step.after).2 := by
  induction earlier generalizing rows r with
  | nil =>
      cases rows with
      | nil => cases h
      | cons row rest =>
          obtain ⟨rfl, rfl⟩ := List.cons.inj h
          exact ⟨[], rest, rfl, rfl, rfl, rfl, rfl⟩
  | cons head tail ih =>
      cases rows with
      | nil => cases h
      | cons row rows =>
          obtain ⟨rfl, htail⟩ := List.cons.inj h
          obtain ⟨first, rest, rfl, rfl, hbefore, hlater, hend⟩ := ih htail
          exact ⟨row :: first, rest, rfl, rfl, hbefore, hlater, hend⟩

/-- **What the start has and every step keeps**, every step has before and after it, and the end has. -/
theorem steps_induction (rows : List (Except Csv.Fault Operation)) {P : Replay Desk → Prop} (start : P r)
    (keep : ∀ step ∈ steps rows r, P step.before → P step.after) :
    (∀ step ∈ steps rows r, P step.before ∧ P step.after) ∧ P (applyRows rows r).2 := by
  induction rows generalizing r with
  | nil => exact ⟨fun _ hstep => absurd hstep List.not_mem_nil, start⟩
  | cons row rest ih =>
      have hnext := keep ⟨row, r⟩ List.mem_cons_self start
      obtain ⟨hsteps, hend⟩ := ih hnext fun step hstep => keep step (List.mem_cons_of_mem _ hstep)
      refine ⟨fun step hstep => ?_, hend⟩
      rcases List.mem_cons.1 hstep with rfl | hrest
      · exact ⟨start, hnext⟩
      · exact hsteps step hrest

/-- Rows in order, and transfers between two accounts. -/
structure Orderly (r : Replay Desk) : Prop where
  inOrder : r.teller.bank.ledger.InOrder
  transfersDistinct : r.teller.bank.ledger.TransfersDistinct

theorem orderly_start (rules : Rules) (stamps : Nat → Stamp) :
    (start (Desk.start rules stamps)).Orderly where
  inOrder := Ledger.wellFormed_empty.toInOrder
  transfersDistinct := Ledger.wellFormed_empty.transfersDistinct

theorem Orderly.applyRow (h : r.Orderly) (row : Except Csv.Fault Operation) :
    (Replay.applyRow row r).2.Orderly where
  inOrder := (evolves_applyRow row h.inOrder).inOrder h.inOrder
  transfersDistinct := (evolves_applyRow row h.inOrder).transfersDistinct h.transfersDistinct

theorem Orderly.steps (h : r.Orderly) (rows : List (Except Csv.Fault Operation)) :
    (∀ step ∈ steps rows r, step.before.Orderly ∧ step.after.Orderly) ∧ (applyRows rows r).2.Orderly :=
  steps_induction rows h fun step _ hbefore => hbefore.applyRow step.row

/-! ### Since a step -/

/-- The step brings about what has been so ever since, to the end of the run. -/
def Step.Brings (P : Replay Desk → Prop) (step : Step) (run : List Step) : Prop :=
  ¬P step.before ∧ ∃ earlier later, run = earlier ++ step :: later ∧
    ∀ other ∈ step :: later, P other.after

theorem Step.Brings.mem {P : Replay Desk → Prop} {step : Step} {run : List Step}
    (h : step.Brings P run) : step ∈ run := by
  obtain ⟨-, earlier, later, rfl, -⟩ := h
  exact List.mem_append_right earlier List.mem_cons_self

/-- One more row is one more step. -/
theorem steps_concat (rows : List (Except Csv.Fault Operation)) (row : Except Csv.Fault Operation)
    (r : Replay Desk) :
    steps (rows ++ [row]) r = steps rows r ++ [⟨row, (applyRows rows r).2⟩] ∧
      (applyRows (rows ++ [row]) r).2 = (applyRow row (applyRows rows r).2).2 := by
  induction rows generalizing r with
  | nil => exact ⟨rfl, rfl⟩
  | cons first rest ih =>
      obtain ⟨hsteps, hend⟩ := ih (applyRow first r).2
      exact ⟨congrArg (List.cons _) hsteps, hend⟩

/-- What is so at the end and was not at the start was brought about by some step. -/
theorem exists_brings {P : Replay Desk → Prop} (hstart : ¬P r) (hend : P (applyRows rows r).2) :
    ∃ step : Step, step.Brings P (steps rows r) := by
  induction rows using List.reverseRecOn with
  | nil => exact absurd hend hstart
  | append_singleton rows row ih =>
      obtain ⟨hsteps, hlast⟩ := steps_concat rows row r
      rw [hlast] at hend
      rw [hsteps]
      by_cases hbefore : P (applyRows rows r).2
      · obtain ⟨step, hwas, earlier, later, hrun, hsince⟩ := ih hbefore
        refine ⟨step, hwas, earlier, later ++ [⟨row, (applyRows rows r).2⟩], by rw [hrun]; simp, ?_⟩
        intro other hother
        rcases List.mem_append.1 (show other ∈ (step :: later) ++ _ from hother) with hold | hnew
        · exact hsince other hold
        · rw [List.mem_singleton.1 hnew]
          exact hend
      · refine ⟨⟨row, (applyRows rows r).2⟩, hbefore, steps rows r, [], rfl, ?_⟩
        intro other hother
        rw [List.mem_singleton.1 hother]
        exact hend

/--
What a step begins that brings something about, and every later step keeps while that is so,
is there at the end.
-/
theorem Step.Brings.ends {P Q : Replay Desk → Prop} {step : Step} (h : step.Brings P (steps rows r))
    (start : Q step.after)
    (keep : ∀ other ∈ steps rows r, P other.after → Q other.before → Q other.after) :
    Q (applyRows rows r).2 := by
  obtain ⟨-, earlier, later, hrun, hsince⟩ := h
  obtain ⟨first, rest, -, -, -, rfl, hend⟩ := exists_of_steps_eq hrun
  rw [hend]
  refine (steps_induction rest start fun other hother => ?_).2
  refine keep other ?_ (hsince other (List.mem_cons_of_mem _ hother))
  rw [hrun]
  exact List.mem_append_right _ (List.mem_cons_of_mem _ hother)

/-- What was brought about is so at the end. -/
theorem Step.Brings.at_end {P : Replay Desk → Prop} {step : Step} (h : step.Brings P (steps rows r)) :
    P (applyRows rows r).2 := by
  obtain ⟨-, earlier, later, -, hsince⟩ := id h
  exact h.ends (hsince step List.mem_cons_self) fun _ _ hafter _ => hafter

/-! ### Accounts since their openings -/

/-- There is an account of this identifier. -/
def Holds (id : AccountId) (r : Replay Desk) : Prop :=
  ∃ account, r.teller.bank.ledger.accounts[id]? = some account

instance (id : AccountId) (r : Replay Desk) : Decidable (Holds id r) :=
  decidable_of_iff (r.teller.bank.ledger.accounts[id]?.isSome = true) Option.isSome_iff_exists

theorem not_holds_start (rules : Rules) (stamps : Nat → Stamp) (id : AccountId) :
    ¬Holds id (start (Desk.start rules stamps)) := by
  intro h
  obtain ⟨account, haccount⟩ := h
  exact absurd haccount (by simp [start, Desk.start, Bank.empty, Ledger.empty])

/-- The step since which an account is there has had it opened. -/
theorem Step.Brings.opens {step : Step} {run : List Step} (h : step.Brings (Holds id) run)
    (horder : step.before.teller.bank.ledger.InOrder) :
    ∃ op account opened, step.row = .ok op ∧ step.before.Opens op account opened ∧ account.id = id ∧
      step.after.teller.bank.ledger.accounts[id]? = some account := by
  obtain ⟨hwas, earlier, later, -, hsince⟩ := h
  obtain ⟨account, hthere⟩ := hsince step List.mem_cons_self
  rcases account_origin_applyRow horder hthere with ⟨old, hold, -⟩ | ⟨op, opened, hrow, hopens, hid⟩
  · exact absurd ⟨old, hold⟩ hwas
  · exact ⟨op, account, opened, hrow, hopens, hid, hthere⟩

/-- An account that is there before and after a row differs in its balance at most. -/
theorem frame_applyRow (horder : r.teller.bank.ledger.InOrder) {old : Account}
    (hold : r.teller.bank.ledger.accounts[id]? = some old)
    (hnew : (applyRow row r).2.teller.bank.ledger.accounts[id]? = some account) :
    account.frame = old.frame := by
  rcases account_origin_applyRow horder hnew with ⟨same, hsame, hframe⟩ | ⟨op, opened, -, hopens, rfl⟩
  · rw [hframe, Option.some.inj (hold.symm.trans hsame)]
  · rw [hopens.effect.1] at hold
    cases hold

end Replay

/-! ### Rows to begin with -/

namespace Sample

/-- A row by which an account is opened. -/
def opening (user account : String) : Operation :=
  { operation .opening user account with currency := some "USD" }

/-- A replay that has yet to work on its rows. -/
def outset : Replay Desk := .start (Desk.start ⟨.zero, 2, 64⟩ (Stamp.series 1))

end Sample

end Cashbook
