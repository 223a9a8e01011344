/-
What may happen on the floor.

Calls come in with what they get from outside, and then events follow each other in any
order: turns, interruptions, sweeps of the table of keys.  `Floor.play` is what a list of
events leads to, and `Floor.commits` names the calls that make their change on the way,
in the order in which they do.
-/
import Cashbook.Proofs.Table
import Cashbook.Service.Call
import Cashbook.Service.Floor

namespace Cashbook

/-! ### Visits -/

/-- A call with its caller, and with what it gets from outside. -/
structure Visit where
  identity : String
  call : Call
  stamp : Stamp

/-- What a call is going to do. -/
def Visit.plan (rules : Rules) (visit : Visit) : Plan Reply := visit.call.plan rules visit.identity

/-- Where all calls get different things from outside, a call is known by what it got. -/
theorem Visit.ticket_eq {γ : Type} {f : Visit → γ} {visits : List Visit} {ticket other : Nat}
    {visit found : Visit} (hdistinct : (visits.map f).Nodup) (hvisit : visits[ticket]? = some visit)
    (hfound : visits[other]? = some found) (heq : f visit = f found) : ticket = other := by
  have hlt : ticket < (visits.map f).length := by
    rw [List.length_map]
    exact (List.getElem?_eq_some_iff.1 hvisit).1
  refine (List.getElem?_inj hlt hdistinct).1 ?_
  rw [List.getElem?_map, List.getElem?_map, hvisit, hfound, Option.map_some, Option.map_some, heq]

/-- Calls one after another, each alone. -/
def Bank.serveAll (rules : Rules) : List Visit → Bank → List (Outcome Reply) × Bank
  | [], bank => ([], bank)
  | visit :: rest, bank =>
    let (outcome, bank) := (visit.plan rules).run visit.stamp bank
    let (outcomes, bank) := bank.serveAll rules rest
    (outcome :: outcomes, bank)

/-- One more call is served after the others. -/
theorem Bank.serveAll_concat {rules : Rules} {visits : List Visit} {visit : Visit}
    {outcomes : List (Outcome Reply)} {outcome : Outcome Reply} {bank between changed : Bank}
    (hall : bank.serveAll rules visits = (outcomes, between))
    (hlast : (visit.plan rules).run visit.stamp between = (outcome, changed)) :
    bank.serveAll rules (visits ++ [visit]) = (outcomes ++ [outcome], changed) := by
  induction visits generalizing bank outcomes with
  | nil =>
      obtain ⟨rfl, rfl⟩ := Prod.mk.inj hall
      simp only [List.nil_append, serveAll, hlast]
  | cons first rest ih =>
      simp only [serveAll] at hall
      obtain ⟨rfl, hbetween⟩ := Prod.mk.inj hall
      have hrest := ih (Prod.ext rfl hbetween)
      simp only [List.cons_append, serveAll, hrest]

/-! ### Events -/

/-- What may happen on the floor. -/
inductive Event where
  | turn (now ticket : Nat)
  | interrupt (ticket : Nat) (failure : Failure)
  /-- Every entry of the table of keys is looked at, each at its own time. -/
  | sweep (now : AccountId → Nat) (ttl : Nat)

namespace Floor

/-- All calls have come in, each with its place in the list for a ticket; none has had a turn. -/
def opened (rules : Rules) (visits : List Visit) (bank : Bank) (locks : Locks AccountId) :
    Floor Reply :=
  visits.zipIdx.foldl (fun floor p => floor.enter p.2 (p.1.plan rules)) ⟨bank, locks, ∅⟩

/-- One thing happens. -/
def happen (visits : List Visit) (floor : Floor Reply) : Event → Floor Reply
  | .turn now ticket =>
    match visits[ticket]? with
    | some visit => floor.turn now visit.stamp ticket
    | none => floor
  | .interrupt ticket failure => floor.interrupt ticket failure
  | .sweep now ttl => floor.sweep now ttl

/-- One thing happens after another. -/
def play (visits : List Visit) (events : List Event) (floor : Floor Reply) : Floor Reply :=
  events.foldl (fun floor event => floor.happen visits event) floor

/-- The call that makes its change when this happens. -/
def committing? (visits : List Visit) (floor : Floor Reply) : Event → Option Nat
  | .turn _ ticket =>
    match visits[ticket]?, floor.calls[ticket]? with
    | some visit, some (.working (.ask query _)) =>
      if query.isWrite ∧ (floor.bank.perform visit.stamp query).1.isOk then some ticket else none
    | _, _ => none
  | .interrupt .. | .sweep .. => none

theorem committing?_eq_none {visits : List Visit} {floor : Floor Reply} {now ticket : Nat}
    (h : ∀ q next, floor.calls[ticket]? ≠ some (.working (.ask q next))) :
    floor.committing? visits (.turn now ticket) = none := by
  unfold committing?
  simp only
  split
  · next hcall => exact absurd hcall (h _ _)
  · rfl

/-- The calls that make their change, in the order in which they make it. -/
def commits (visits : List Visit) : List Event → Floor Reply → List Nat
  | [], _ => []
  | event :: rest, floor =>
    (floor.committing? visits event).toList ++ commits visits rest (floor.happen visits event)

/-- A call has come to a reply, or has only to return it. -/
def Yields (floor : Floor Reply) (ticket : Nat) (reply : Reply) : Prop :=
  floor.calls[ticket]? = some (.ended (.ok reply)) ∨
    floor.calls[ticket]? = some (.working (.done reply))

theorem play_append (visits : List Visit) (events more : List Event) (floor : Floor Reply) :
    floor.play visits (events ++ more) = (floor.play visits events).play visits more :=
  List.foldl_append

theorem play_concat (visits : List Visit) (events : List Event) (event : Event)
    (floor : Floor Reply) :
    floor.play visits (events ++ [event]) = (floor.play visits events).happen visits event :=
  List.foldl_concat ..

/-! ### Before the first event -/

/-- Calls that come in change nothing but the list of calls, each at its own ticket. -/
private theorem foldl_enter (rules : Rules) (ticket : Nat) :
    ∀ (visits : List Visit) (first : Nat) (floor : Floor Reply),
      let entered := (visits.zipIdx first).foldl
        (fun floor p => floor.enter p.2 (p.1.plan rules)) floor
      entered.bank = floor.bank ∧ entered.locks = floor.locks ∧ entered.calls[ticket]? =
        if first ≤ ticket ∧ ticket < first + visits.length then
          visits[ticket - first]?.map fun visit => .working (visit.plan rules)
        else floor.calls[ticket]? := by
  intro visits
  induction visits with
  | nil =>
      intro first floor
      refine ⟨rfl, rfl, ?_⟩
      rw [if_neg (by simp)]
      rfl
  | cons visit rest ih =>
      intro first floor
      obtain ⟨hbank, hlocks, hcalls⟩ := ih (first + 1) (floor.enter first (visit.plan rules))
      refine ⟨hbank, hlocks, ?_⟩
      rw [List.zipIdx_cons, List.foldl_cons]
      refine hcalls.trans ?_
      by_cases heq : first = ticket
      · subst heq
        rw [if_neg (by omega), if_pos (by simp), Nat.sub_self]
        exact Std.ExtTreeMap.getElem?_insert_self
      · have hother :
            (floor.enter first (visit.plan rules)).calls[ticket]? = floor.calls[ticket]? :=
          Table.getElem?_insert_of_ne _ _ heq
        rw [hother, List.length_cons]
        by_cases hlt : first < ticket
        · have hindex : ticket - first = (ticket - (first + 1)) + 1 := by omega
          rw [hindex, List.getElem?_cons_succ]
          split <;> split <;> first
            | rfl
            | omega
        · rw [if_neg (by omega), if_neg (by omega)]

theorem bank_opened (rules : Rules) (visits : List Visit) (bank : Bank) (locks : Locks AccountId) :
    (opened rules visits bank locks).bank = bank :=
  (foldl_enter rules 0 visits 0 ⟨bank, locks, ∅⟩).1

theorem locks_opened (rules : Rules) (visits : List Visit) (bank : Bank) (locks : Locks AccountId) :
    (opened rules visits bank locks).locks = locks :=
  (foldl_enter rules 0 visits 0 ⟨bank, locks, ∅⟩).2.1

theorem calls_opened (rules : Rules) (visits : List Visit) (bank : Bank) (locks : Locks AccountId)
    (ticket : Nat) :
    (opened rules visits bank locks).calls[ticket]? =
      visits[ticket]?.map fun visit => .working (visit.plan rules) := by
  refine (foldl_enter rules ticket visits 0 ⟨bank, locks, ∅⟩).2.2.trans ?_
  by_cases hlt : ticket < visits.length
  · rw [if_pos (by omega), Nat.sub_zero]
  · rw [if_neg (by omega), List.getElem?_eq_none (Nat.le_of_not_lt hlt)]
    rfl

end Floor

end Cashbook
