/-
What a call has seen need not be seen again.

A call asks one thing after another and changes something only at the end; in between,
others change the bank.  It may then rely on what is no longer so.  `Plan.Repeatable`
says that this does no harm: wherever what is left of a plan comes to a value, at that
same moment the question before it would have been answered so that the plan comes to
that value.  Some answers never change, some are of use only if they did not change,
and some are looked at once more by the change itself.

From one question this carries over to the whole of a plan that is under way, whatever
has happened since it was begun (`Plan.Resumes`): where it ends well, the plan could as
well have begun at the moment of its change.
-/
import Cashbook.Proofs.Service.Plan

namespace Cashbook

/-- The bank at a moment. -/
def Moment.bank (registry : Registry) (moment : Moment) : Bank := ⟨moment.ledger, registry⟩

/-- The moments that follow one at which a question was answered so. -/
def Recalling (stamp : Stamp) (registry : Registry) (known : Moment → Prop) (q : Query)
    (answer : q.Answer) (later : Moment) : Prop :=
  ∃ earlier, known earlier ∧ ((earlier.bank registry).perform stamp q).1 = .ok answer ∧
    Later earlier later

namespace Plan

variable {α β : Type}

/-- At the known moments, whatever one plan comes to the other comes to as well. -/
def StandsFor (stamp : Stamp) (registry : Registry) (known : Moment → Prop) (rest whole : Plan α) :
    Prop :=
  ∀ moment, known moment → ∀ value bank,
    rest.run stamp (moment.bank registry) = (.ok value, bank) →
      whole.run stamp (moment.bank registry) = (.ok value, bank)

/--
A plan that ends with a change, other than the revocation of a card, and before it asks
only what need not be asked again.
-/
def Repeatable (stamp : Stamp) (registry : Registry) : (Moment → Prop) → Plan α → Prop
  | _, .done _ => False
  | _, .fail _ => True
  | known, .hold _ next => next.Repeatable stamp registry known
  | known, .ask q next =>
    if q.isWrite = true then
      (∀ number, q ≠ .deleteCard number) ∧ ∀ answer, ∃ value, next answer = .done value
    else
      ∀ answer,
        StandsFor stamp registry (Recalling stamp registry known q answer) (next answer)
          (.ask q next) ∧
        (next answer).Repeatable stamp registry (Recalling stamp registry known q answer)

/-- A plan that is under way, of which this much is left. -/
def Resumes (stamp : Stamp) (registry : Registry) (moment : Moment) (whole rest : Plan α) : Prop :=
  ∃ known : Moment → Prop, known moment ∧
    (∀ earlier later, known earlier → Later earlier later → known later) ∧
      rest.Repeatable stamp registry known ∧ StandsFor stamp registry known rest whole

variable {stamp : Stamp} {registry : Registry} {known : Moment → Prop} {moment now : Moment}
  {whole rest : Plan α}

/-! ### Plans under way -/

theorem Resumes.start (h : whole.Repeatable stamp registry fun _ => True) (moment : Moment) :
    whole.Resumes stamp registry moment whole :=
  ⟨fun _ => True, trivial, fun _ _ _ _ => trivial, h, fun _ _ _ _ hrun => hrun⟩

/-- While a plan rests, time may go on. -/
theorem Resumes.later (h : whole.Resumes stamp registry moment rest) (hlater : Later moment now) :
    whole.Resumes stamp registry now rest := by
  obtain ⟨known, hknown, hclosed, hrest, hstands⟩ := h
  exact ⟨known, hclosed _ _ hknown hlater, hclosed, hrest, hstands⟩

theorem Resumes.hold {keys : List AccountId}
    (h : whole.Resumes stamp registry moment (.hold keys rest)) :
    whole.Resumes stamp registry moment rest := h

/-- A question is answered. -/
theorem Resumes.read {q : Query} {next : q.Answer → Plan α} {answer : q.Answer}
    (h : whole.Resumes stamp registry moment (.ask q next)) (hread : q.isWrite = false)
    (hanswer : ((moment.bank registry).perform stamp q).1 = .ok answer) :
    whole.Resumes stamp registry moment (next answer) := by
  obtain ⟨known, hknown, hclosed, hrest, hstands⟩ := h
  rw [Repeatable, if_neg (ne_true_of_eq_false hread)] at hrest
  obtain ⟨hagain, hnext⟩ := hrest answer
  refine ⟨Recalling stamp registry known q answer, ⟨moment, hknown, hanswer, .refl moment⟩,
    ?_, hnext, ?_⟩
  · intro before after h hlater
    obtain ⟨earlier, hearlier, hthen, hsince⟩ := h
    exact ⟨earlier, hearlier, hthen, hsince.trans hlater⟩
  · intro after hafter value bank hrun
    have hwhole := hagain after hafter value bank hrun
    obtain ⟨earlier, hearlier, -, hsince⟩ := hafter
    exact hstands after (hclosed _ _ hearlier hsince) value bank hwhole

/-- The change is made: the plan has come to its value, as if it had just begun. -/
theorem Resumes.write {q : Query} {next : q.Answer → Plan α} {answer : q.Answer} {changed : Bank}
    (h : whole.Resumes stamp registry moment (.ask q next)) (hwrite : q.isWrite = true)
    (hanswer : (moment.bank registry).perform stamp q = (.ok answer, changed)) :
    (∀ number, q ≠ .deleteCard number) ∧ ∃ value, next answer = .done value ∧
      whole.run stamp (moment.bank registry) = (.ok value, changed) := by
  obtain ⟨known, hknown, -, hrest, hstands⟩ := h
  rw [Repeatable, if_pos hwrite] at hrest
  obtain ⟨value, hvalue⟩ := hrest.2 answer
  refine ⟨hrest.1, value, hvalue, hstands moment hknown value changed ?_⟩
  rw [run, hanswer]
  show (next answer).run stamp changed = _
  rw [hvalue, run]

theorem Resumes.ne_done {value : α} : ¬whole.Resumes stamp registry moment (.done value) := by
  intro h
  obtain ⟨known, -, -, hrest, -⟩ := h
  exact hrest

/-! ### Taking plans apart -/

theorem repeatable_map (f : α → β) (h : rest.Repeatable stamp registry known) :
    (f <$> rest).Repeatable stamp registry known := by
  show (rest.bind fun value => Plan.done (f value)).Repeatable stamp registry known
  induction rest generalizing known with
  | done value => exact h
  | fail failure => trivial
  | hold keys next ih => exact ih h
  | ask q next ih =>
      rw [Repeatable] at h
      rw [Plan.bind, Repeatable]
      split at h
      · next hwrite =>
        rw [if_pos hwrite]
        refine ⟨h.1, ?_⟩
        intro answer
        obtain ⟨value, hvalue⟩ := h.2 answer
        exact ⟨f value, by rw [hvalue]; rfl⟩
      · next hread =>
        rw [if_neg hread]
        intro answer
        refine ⟨?_, ih answer (h answer).2⟩
        intro after hafter value bank hrun
        obtain ⟨found, hfound, rfl⟩ := run_map_ok_iff.1 hrun
        exact run_map_ok_iff.2 ⟨found, (h answer).1 after hafter found bank hfound, rfl⟩

theorem repeatable_ofOutcome_bind {outcome : Outcome α} {f : α → Plan β}
    (h : ∀ value, outcome = .ok value → (f value).Repeatable stamp registry known) :
    (ofOutcome outcome >>= f).Repeatable stamp registry known := by
  cases outcome with
  | ok value => exact h value rfl
  | error failure => trivial

theorem repeatable_fail (failure : Failure) :
    (Plan.fail failure : Plan α).Repeatable stamp registry known := trivial

theorem repeatable_hold (keys : List AccountId) (h : rest.Repeatable stamp registry known) :
    (Plan.hold keys rest).Repeatable stamp registry known := h

theorem repeatable_write {q : Query} (hwrite : q.isWrite = true)
    (hrevoke : ∀ number, q ≠ .deleteCard number) : (query q).Repeatable stamp registry known := by
  rw [query, Repeatable, if_pos hwrite]
  exact ⟨hrevoke, fun answer => ⟨answer, rfl⟩⟩

/-- A question whose answer may be replaced by that of a later moment at which the rest succeeds. -/
theorem repeatable_read_bind {q : Query} (hread : q.isWrite = false) {f : q.Answer → Plan β}
    (hagain : ∀ answer later, Recalling stamp registry known q answer later → ∀ value bank,
      (f answer).run stamp (later.bank registry) = (.ok value, bank) →
        ∃ again, ((later.bank registry).perform stamp q).1 = .ok again ∧
          (f again).run stamp (later.bank registry) = (.ok value, bank))
    (h : ∀ answer, (f answer).Repeatable stamp registry (Recalling stamp registry known q answer)) :
    (query q >>= f).Repeatable stamp registry known := by
  show (Plan.ask q f).Repeatable stamp registry known
  rw [Repeatable, if_neg (ne_true_of_eq_false hread)]
  intro answer
  refine ⟨?_, h answer⟩
  intro later hlater value bank hrun
  exact (run_read_bind_ok_iff hread).2 (hagain answer later hlater value bank hrun)

/-- A question whose answer does not depend on the ledger. -/
theorem repeatable_steady_bind {q : Query} (hread : q.isWrite = false) {f : q.Answer → Plan β}
    (hsteady : ∀ ledger ledger' : Ledger, ((Bank.mk ledger registry).perform stamp q).1 =
      ((Bank.mk ledger' registry).perform stamp q).1)
    (h : ∀ answer, (f answer).Repeatable stamp registry (Recalling stamp registry known q answer)) :
    (query q >>= f).Repeatable stamp registry known := by
  refine repeatable_read_bind hread ?_ h
  intro answer later hlater value bank hrun
  obtain ⟨earlier, -, hanswer, -⟩ := hlater
  exact ⟨answer, (hsteady later.ledger earlier.ledger).trans hanswer, hrun⟩

-- From here on plans are taken apart by these lemmas alone.
attribute [irreducible] Repeatable

end Plan

end Cashbook
