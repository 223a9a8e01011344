/-
What may become of a call, of the bank and of the keys.

Something happens, and a call is somewhere else in its plan, or has its keys, or has
ended.  `Fares` lists what it can be for any one call, and `bank_happen` does the same for
the bank, which changes only when a call asks for a change and gets it, and `locks_happen`
for the keys.  Whoever follows a call through a run need not look at the events any more.
-/
import Cashbook.Proofs.Locks.Play
import Cashbook.Proofs.Service.Happens

namespace Cashbook

/-- Whether a call has nothing left to ask for. -/
def Plan.isOver {α : Type} : Plan α → Bool
  | .done _ | .fail _ => true
  | .ask .. | .hold .. => false

namespace Floor

variable {visits : List Visit} {floor later : Floor Reply} {ticket other : Nat}
  {claim : Claim AccountId} {event : Event} {committed : Option Nat}

/-! ### Who is concerned -/

/-- Where a call ends, every other stays where it is. -/
theorem finish_of_other (hne : other ≠ ticket) (outcome : Outcome Reply) (floor : Floor Reply) :
    (floor.finish other outcome).calls[ticket]? = floor.calls[ticket]? ∧
      (floor.finish other outcome).locks.claims[ticket]? = floor.locks.claims[ticket]? :=
  ⟨Table.getElem?_insert_of_ne _ _ hne, Locks.claims_leave_of_ne floor.locks hne⟩

theorem Happens.of_other (h : Happens visits floor event committed later)
    (hother : event.ticket? ≠ some ticket) :
    later.calls[ticket]? = floor.calls[ticket]? ∧
      later.locks.claims[ticket]? = floor.locks.claims[ticket]? := by
  have hne : ∀ other, event.ticket? = some other → other ≠ ticket :=
    fun other habout heq => hother (heq ▸ habout)
  cases h with
  | rests _ | sweeps _ _ => exact ⟨rfl, rfl⟩
  | returns _ => exact finish_of_other (hne _ rfl) _ floor
  | fails failure habout _ _ => exact finish_of_other (hne _ habout) _ floor
  | learns _ _ _ _ | changes _ _ _ _ | enters _ _ _ =>
      exact ⟨Table.getElem?_insert_of_ne _ _ (hne _ rfl), rfl⟩
  | starts _ _ => exact ⟨rfl, Table.getElem?_insert_of_ne _ _ (hne _ rfl)⟩
  | steps _ _ _ | leaves _ => exact ⟨rfl, Locks.claims_step_of_ne _ floor.locks (hne _ rfl)⟩

/-- **What happens leaves every call where it is but the one that it is about.** -/
theorem happen_of_other (visits : List Visit) (floor : Floor Reply) {event : Event}
    (hother : event.ticket? ≠ some ticket) :
    (floor.happen visits event).calls[ticket]? = floor.calls[ticket]? ∧
      (floor.happen visits event).locks.claims[ticket]? = floor.locks.claims[ticket]? :=
  (floor.happens visits event).of_other hother

/-! ### What may become of a call -/

/-- What becomes of a call when something happens. -/
inductive Fares (visits : List Visit) (ticket : Nat) (floor later : Floor Reply) : Prop where
  /-- It is passed over. -/
  | rests (call : later.calls[ticket]? = floor.calls[ticket]?)
      (claim : later.locks.claims[ticket]? = floor.locks.claims[ticket]?)
  /-- It is on the way to its keys, and has not had them all. -/
  | reaches {keys : List AccountId} {next : Plan Reply}
      (before : floor.calls[ticket]? = some (.working (.hold keys next)))
      (after : later.calls[ticket]? = some (.working (.hold keys next)))
      (partially : ∀ claim, floor.locks.claims[ticket]? = some claim → ¬claim.IsComplete)
  /-- It has its keys, and goes on. -/
  | enters {keys : List AccountId} {next : Plan Reply}
      (before : floor.calls[ticket]? = some (.working (.hold keys next)))
      (after : later.calls[ticket]? = some (.working next))
      (claim : later.locks.claims[ticket]? = floor.locks.claims[ticket]?)
  /-- It has a query answered, and goes on. -/
  | learns {visit : Visit} {q : Query} {next : q.Answer → Plan Reply} {answer : q.Answer}
      (visited : visits[ticket]? = some visit)
      (before : floor.calls[ticket]? = some (.working (.ask q next)))
      (answered : (floor.bank.perform visit.stamp q).1 = .ok answer)
      (after : later.calls[ticket]? = some (.working (next answer)))
      (claim : later.locks.claims[ticket]? = floor.locks.claims[ticket]?)
  /-- It ends, or has ended before. -/
  | ends {outcome : Outcome Reply} (after : later.calls[ticket]? = some (.ended outcome))

theorem Happens.fares (h : Happens visits floor event committed later) (ticket : Nat) :
    Fares visits ticket floor later := by
  by_cases hown : event.ticket? = some ticket
  · cases h with
    | rests _ => exact .rests rfl rfl
    | sweeps _ _ => cases hown
    | returns _ =>
        cases hown
        exact .ends Std.ExtTreeMap.getElem?_insert_self
    | fails failure habout _ _ =>
        cases habout.symm.trans hown
        exact .ends Std.ExtTreeMap.getElem?_insert_self
    | learns hvisit hcall _ hanswer =>
        cases hown
        exact .learns hvisit hcall hanswer Std.ExtTreeMap.getElem?_insert_self rfl
    | changes hvisit hcall _ hperform =>
        cases hown
        exact .learns hvisit hcall (by rw [hperform]) Std.ExtTreeMap.getElem?_insert_self rfl
    | starts hcall hnone =>
        cases hown
        refine .reaches hcall hcall fun claim hclaim => ?_
        rw [hnone] at hclaim
        cases hclaim
    | steps hcall hclaim hpartial =>
        cases hown
        refine .reaches hcall hcall fun claim hsame => ?_
        obtain rfl := Option.some.inj (hclaim.symm.trans hsame)
        exact hpartial
    | enters hcall _ _ =>
        cases hown
        exact .enters hcall Std.ExtTreeMap.getElem?_insert_self rfl
    | leaves hcall =>
        cases hown
        exact .ends hcall
  · obtain ⟨hcall, hclaim⟩ := h.of_other hown
    exact .rests hcall hclaim

/-- **What becomes of a call is one of these.** -/
theorem fares_happen (visits : List Visit) (floor : Floor Reply) (event : Event) (ticket : Nat) :
    Fares visits ticket floor (floor.happen visits event) :=
  (floor.happens visits event).fares ticket

/-! ### Until it ends -/

/-- A call that is under way was so before. -/
theorem Fares.working {next : Plan Reply} (h : Fares visits ticket floor later)
    (hafter : later.calls[ticket]? = some (.working next)) :
    ∃ plan, floor.calls[ticket]? = some (.working plan) ∧
      (next.isOver = false → plan.isOver = false) := by
  cases h with
  | rests hcall _ => exact ⟨next, hcall.symm.trans hafter, id⟩
  | reaches hbefore _ _ => exact ⟨_, hbefore, fun _ => rfl⟩
  | enters hbefore _ _ => exact ⟨_, hbefore, fun _ => rfl⟩
  | learns _ hbefore _ _ _ => exact ⟨_, hbefore, fun _ => rfl⟩
  | ends hended =>
      rw [hafter] at hended
      cases hended

/-- A call that is under way has not given its keys back. -/
theorem Fares.claim_kept {next : Plan Reply} (h : Fares visits ticket floor later)
    (hafter : later.calls[ticket]? = some (.working next))
    (hclaim : floor.locks.claims[ticket]? = some claim) (hcomplete : claim.IsComplete) :
    later.locks.claims[ticket]? = some claim := by
  cases h with
  | rests _ hsame => exact hsame.trans hclaim
  | reaches _ _ hpartially => exact absurd hcomplete (hpartially claim hclaim)
  | enters _ _ hsame => exact hsame.trans hclaim
  | learns _ _ _ _ hsame => exact hsame.trans hclaim
  | ends hended =>
      rw [hafter] at hended
      cases hended

/-- Whoever is under way at the end was so all the while. -/
theorem working_of_play {events : List Event} {next : Plan Reply}
    (hafter : (floor.play visits events).calls[ticket]? = some (.working next)) :
    ∃ plan, floor.calls[ticket]? = some (.working plan) ∧
      (next.isOver = false → plan.isOver = false) := by
  induction events generalizing floor with
  | nil => exact ⟨next, hafter, id⟩
  | cons event rest ih =>
      obtain ⟨between, hbetween, hover⟩ := ih hafter
      obtain ⟨plan, hplan, hstill⟩ := (fares_happen visits floor event ticket).working hbetween
      exact ⟨plan, hplan, fun hnext => hstill (hover hnext)⟩

/-- Whoever has all the keys and is under way at the end has had them all the while. -/
theorem claim_kept_of_play {events : List Event} {next : Plan Reply}
    (hafter : (floor.play visits events).calls[ticket]? = some (.working next))
    (hclaim : floor.locks.claims[ticket]? = some claim) (hcomplete : claim.IsComplete) :
    (floor.play visits events).locks.claims[ticket]? = some claim := by
  induction events generalizing floor with
  | nil => exact hclaim
  | cons event rest ih =>
      have hrest : ((floor.happen visits event).play visits rest).calls[ticket]? =
          some (.working next) := hafter
      obtain ⟨between, hbetween, -⟩ := working_of_play hrest
      exact ih hafter
        ((fares_happen visits floor event ticket).claim_kept hbetween hclaim hcomplete)

/-! ### What may become of the bank -/

/-- A call is given a change that it asks for. -/
def Grants (visits : List Visit) (floor later : Floor Reply) (ticket : Nat) : Prop :=
  ∃ visit q next answer, visits[ticket]? = some visit ∧ q.isWrite = true ∧
    floor.calls[ticket]? = some (.working (.ask q next)) ∧
      floor.bank.perform visit.stamp q = (.ok answer, later.bank) ∧
        later.calls[ticket]? = some (.working (next answer))

/-- A call that makes its change is given it. -/
theorem Happens.grants (h : Happens visits floor event (some ticket) later) :
    Grants visits floor later ticket := by
  cases h with
  | changes hvisit hcall hwrite hperform =>
      exact ⟨_, _, _, _, hvisit, hwrite, hcall, hperform, Std.ExtTreeMap.getElem?_insert_self⟩

theorem Happens.bank (h : Happens visits floor event committed later) :
    later.bank = floor.bank ∨
      ∃ now ticket, event = .turn now ticket ∧ Grants visits floor later ticket := by
  have hgrants : ∀ ticket, committed = some ticket → Grants visits floor later ticket :=
    fun _ heq => (heq ▸ h).grants
  cases h with
  | changes _ _ _ _ => exact Or.inr ⟨_, _, rfl, hgrants _ rfl⟩
  | _ => exact Or.inl rfl

theorem bank_happen (visits : List Visit) (floor : Floor Reply) (event : Event) :
    (floor.happen visits event).bank = floor.bank ∨
      ∃ now ticket, event = .turn now ticket ∧
        Grants visits floor (floor.happen visits event) ticket :=
  (floor.happens visits event).bank

/-- A call that is given what it asks for goes on with the answer. -/
theorem happen_of_granted {q : Query} {next : q.Answer → Plan Reply} {answer : q.Answer}
    {visit : Visit} {changed : Bank} (hvisit : visits[ticket]? = some visit)
    (hcall : floor.calls[ticket]? = some (.working (.ask q next)))
    (hperform : floor.bank.perform visit.stamp q = (.ok answer, changed)) (now : Nat) :
    floor.happen visits (.turn now ticket) =
      { floor with bank := changed }.setCall ticket (.working (next answer)) := by
  simp only [happen, hvisit, turn, hcall, ask, hperform]

theorem grants_of_committing? {event : Event} (h : floor.committing? visits event = some ticket) :
    Grants visits floor (floor.happen visits event) ticket :=
  (h ▸ floor.happens visits event).grants

/-! ### What may become of the keys -/

theorem Happens.locks (h : Happens visits floor event committed later) :
    later.locks = floor.locks ∨
      ∃ requests action, later.locks = floor.locks.happen requests action := by
  cases h with
  | rests _ | learns _ _ _ _ | changes _ _ _ _ | enters _ _ _ => exact Or.inl rfl
  | sweeps now ttl => exact Or.inr ⟨fun _ => [], .sweep now ttl, rfl⟩
  | returns _ | fails _ _ _ _ => exact Or.inr ⟨fun _ => [], .leave _, rfl⟩
  | @starts _ ticket keys _ _ hnone =>
      refine Or.inr ⟨fun _ => keys, .arrive ticket, ?_⟩
      simp only [Locks.happen, hnone]
  | steps _ _ _ | leaves _ => exact Or.inr ⟨fun _ => [], .act _ _, rfl⟩

/-- What happens on the floor happens to the locks as one of their own events, or not at all. -/
theorem locks_happen (visits : List Visit) (floor : Floor Reply) (event : Event) :
    (floor.happen visits event).locks = floor.locks ∨
      ∃ requests action, (floor.happen visits event).locks = floor.locks.happen requests action :=
  (floor.happens visits event).locks

theorem coherent_happen (visits : List Visit) (event : Event) (h : floor.locks.Coherent) :
    (floor.happen visits event).locks.Coherent := by
  rcases floor.locks_happen visits event with hsame | ⟨requests, action, hlocks⟩
  · exact hsame ▸ h
  · exact hlocks ▸ h.happen action

theorem coherent_play (visits : List Visit) (events : List Event) (h : floor.locks.Coherent) :
    (floor.play visits events).locks.Coherent := by
  induction events generalizing floor with
  | nil => exact h
  | cons event rest ih => exact ih (coherent_happen visits event h)

end Floor

end Cashbook
