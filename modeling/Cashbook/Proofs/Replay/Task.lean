/-
Tasks, step by step.

The work on a row is put together from small steps, and so is what is proved about it.
`Leads` says where a task leads from every replay with some property, whether it comes to
a value or fails: what a failed row has done stays done, so both ends matter.  `Matches`
runs a task beside a computation that knows nothing of replays, and says that the one fails
where the other does.  `Blind` says that a task does not see what a replay remembers of
accounts.
-/
import Cashbook.Replay

namespace Cashbook

namespace Replay

/-- Two replays that differ in nothing but the accounts that they remember. -/
structure Agrees {σ : Type} (r s : Replay σ) : Prop where
  teller : r.teller = s.teller
  references : r.references = s.references

end Replay

namespace Task

variable {σ α β : Type} {t : Task σ α} {f : α → Task σ β} {P P' : Replay σ → Prop}
  {Q : β → Replay σ → Prop} {R R' : α → Replay σ → Prop} {E E' : Replay σ → Prop}

/-- What a task comes to on a replay, and what it leaves. -/
def on (t : Task σ α) (r : Replay σ) : Outcome α × Replay σ := t.run.run r

theorem on_bind (t : Task σ α) (f : α → Task σ β) (r : Replay σ) :
    on (t >>= f) r = match on t r with
      | (.ok value, after) => on (f value) after
      | (.error failure, after) => (.error failure, after) := by
  show (ExceptT.bindCont f (on t r).1).run (on t r).2 = _
  rcases on t r with ⟨outcome, after⟩
  cases outcome <;> rfl

theorem on_bind_of_ok {r after : Replay σ} {value : α} (h : on t r = (.ok value, after)) :
    on (t >>= f) r = on (f value) after := by
  rw [on_bind, h]

theorem on_bind_of_error {r after : Replay σ} {failure : Failure}
    (h : on t r = (.error failure, after)) : on (t >>= f) r = (.error failure, after) := by
  rw [on_bind, h]

theorem on_get (r : Replay σ) : on (get : Task σ (Replay σ)) r = (.ok r, r) := rfl

theorem on_liftExcept (outcome : Outcome α) (r : Replay σ) :
    on (liftExcept outcome : Task σ α) r = (outcome, r) := by
  cases outcome <;> rfl

/-! ### Where a task leads -/

/-- The task has come to a value with `R`, or has failed with `E`. -/
inductive Ends (R : α → Replay σ → Prop) (E : Replay σ → Prop) : Outcome α × Replay σ → Prop
  | ok {value : α} {after : Replay σ} (h : R value after) : Ends R E (.ok value, after)
  | error {failure : Failure} {after : Replay σ} (h : E after) : Ends R E (.error failure, after)

/-- From wherever `P` holds the task comes to a value with `R`, or fails with `E`. -/
def Leads (P : Replay σ → Prop) (t : Task σ α) (R : α → Replay σ → Prop) (E : Replay σ → Prop) :
    Prop :=
  ∀ r, P r → Ends R E (on t r)

theorem Leads.of_ok (h : Leads P t R E) {r after : Replay σ} {value : α} (hr : P r)
    (hon : on t r = (.ok value, after)) : R value after := by
  have hends := h r hr
  rw [hon] at hends
  cases hends with
  | ok h => exact h

theorem Leads.of_error (h : Leads P t R E) {r after : Replay σ} {failure : Failure} (hr : P r)
    (hon : on t r = (.error failure, after)) : E after := by
  have hends := h r hr
  rw [hon] at hends
  cases hends with
  | error h => exact h

/-- Where a task leads to the same either way, it leads there. -/
theorem Leads.after (h : Leads P t (fun _ => E) E) {r : Replay σ} (hr : P r) : E (on t r).2 := by
  rcases hon : on t r with ⟨outcome, after⟩
  cases outcome with
  | ok value => exact h.of_ok hr hon
  | error failure => exact h.of_error hr hon

theorem Leads.mono (h : Leads P t R E) (hP : ∀ r, P' r → P r) (hR : ∀ value r, R value r → R' value r)
    (hE : ∀ r, E r → E' r) : Leads P' t R' E' := by
  intro r hr
  rcases hon : on t r with ⟨outcome, after⟩
  cases outcome with
  | ok value => exact .ok (hR value after (h.of_ok (hP r hr) hon))
  | error failure => exact .error (hE after (h.of_error (hP r hr) hon))

theorem Leads.bind (h : Leads P t R E) (hf : ∀ value, Leads (R value) (f value) Q E) :
    Leads P (t >>= f) Q E := by
  intro r hr
  rcases hon : on t r with ⟨outcome, after⟩
  cases outcome with
  | ok value =>
      rw [on_bind_of_ok hon]
      exact hf value after (h.of_ok hr hon)
  | error failure =>
      rw [on_bind_of_error hon]
      exact .error (h.of_error hr hon)

theorem leads_pure {value : α} (h : ∀ r, P r → R value r) : Leads P (pure value) R E :=
  fun r hr => .ok (h r hr)

theorem leads_modify {g : Replay σ → Replay σ} {R : Unit → Replay σ → Prop}
    (h : ∀ r, P r → R () (g r)) : Leads P (modify g) R E := fun r hr => .ok (h r hr)

theorem leads_refuse {failure : Failure} (h : ∀ r, P r → E r) :
    Leads P (Replay.refuse failure : Task σ α) R E := fun r hr => .error (h r hr)

theorem leads_liftExcept {outcome : Outcome α} (hok : ∀ value, outcome = .ok value → ∀ r, P r → R value r)
    (herror : (∀ value, outcome ≠ .ok value) → ∀ r, P r → E r) :
    Leads P (liftExcept outcome) R E := by
  intro r hr
  rw [on_liftExcept]
  cases outcome with
  | ok value => exact .ok (hok value rfl r hr)
  | error failure => exact .error (herror nofun r hr)

theorem leads_demand {value : Option α} {objection : Objection}
    (hsome : ∀ found, value = some found → ∀ r, P r → R found r)
    (hnone : value = none → ∀ r, P r → E r) : Leads P (Replay.demand value objection) R E := by
  cases value with
  | some found => exact leads_pure (hsome found rfl)
  | none => exact leads_refuse (hnone rfl)

/-- A look at the replay itself. -/
theorem leads_get_bind {f : Replay σ → Task σ β}
    (h : ∀ r, P r → Leads (· = r) (f r) Q E) : Leads P (get >>= f) Q E := by
  intro r hr
  rw [on_bind_of_ok (on_get r)]
  exact h r hr r rfl

/-! ### A task beside a computation -/

/--
From wherever `P` holds, the task comes to a value where the computation does, and what both
come to has `R`; it fails where the computation does, with `E`.
-/
def Matches {γ : Type} (P : Replay σ → Prop) (t : Task σ α) (o : Option γ)
    (R : α → γ → Replay σ → Prop) (E : Replay σ → Prop) : Prop :=
  Leads P t (fun value r => ∃ other, o = some other ∧ R value other r) fun r => o = none ∧ E r

section

variable {γ δ : Type} {o : Option γ} {S : α → γ → Replay σ → Prop}

theorem Matches.bind {g : γ → Option δ} {T : β → δ → Replay σ → Prop} (h : Matches P t o S E)
    (hf : ∀ value other, Matches (S value other) (f value) (g other) T E) :
    Matches P (t >>= f) (o >>= g) T E := by
  intro r hr
  rcases hon : on t r with ⟨outcome, after⟩
  cases outcome with
  | ok value =>
      obtain ⟨other, rfl, hafter⟩ := Leads.of_ok h hr hon
      rw [on_bind_of_ok hon]
      exact hf value other after hafter
  | error failure =>
      obtain ⟨rfl, hafter⟩ := Leads.of_error h hr hon
      rw [on_bind_of_error hon]
      exact .error ⟨rfl, hafter⟩

/-- What follows on a task and cannot fail. -/
theorem Matches.andThen {T : β → γ → Replay σ → Prop} (h : Matches P t o S E)
    (hf : ∀ value other, Leads (S value other) (f value) (T · other) fun _ => False) :
    Matches P (t >>= f) o T E := by
  rw [← bind_pure o]
  refine h.bind fun value other => ?_
  exact (hf value other).mono (fun _ hr => hr) (fun _ _ hr => ⟨other, rfl, hr⟩) fun _ hr => hr.elim

theorem Matches.mono {S' : α → γ → Replay σ → Prop} (h : Matches P t o S E)
    (hP : ∀ r, P' r → P r) (hS : ∀ value other r, S value other r → S' value other r)
    (hE : ∀ r, E r → E' r) : Matches P' t o S' E' :=
  Leads.mono h hP (fun value r hr => hr.imp fun other hother => ⟨hother.1, hS value other r hother.2⟩)
    fun r hr => ⟨hr.1, hE r hr.2⟩

theorem matches_pure {value : α} {other : γ} (h : ∀ r, P r → S value other r) :
    Matches P (pure value) (some other) S E :=
  leads_pure fun r hr => ⟨other, rfl, h r hr⟩

theorem matches_modify {g : Replay σ → Replay σ} {other : γ} {S : Unit → γ → Replay σ → Prop}
    (h : ∀ r, P r → S () other (g r)) : Matches P (modify g) (some other) S E :=
  leads_modify fun r hr => ⟨other, rfl, h r hr⟩

theorem matches_refuse {failure : Failure} (h : ∀ r, P r → E r) :
    Matches P (Replay.refuse failure : Task σ α) (none : Option γ) S E :=
  leads_refuse fun r hr => ⟨rfl, h r hr⟩

theorem matches_demand {value : Option α} {objection : Objection} (h : ∀ r, P r → E r) :
    Matches P (Replay.demand value objection) value (fun found other r => found = other ∧ P r) E :=
  leads_demand (fun found hfound _ hr => ⟨found, hfound, rfl, hr⟩) fun hnone r hr => ⟨hnone, h r hr⟩

/-- A look at the replay itself. -/
theorem matches_get_bind {f : Replay σ → Task σ β} {T : β → γ → Replay σ → Prop}
    (h : ∀ r, P r → Matches (· = r) (f r) o T E) : Matches P (get >>= f) o T E :=
  leads_get_bind h

end

/-! ### What a task does not see -/

/-- Where `P` holds, the task comes to the same and does the same whatever accounts are remembered. -/
def Blind (P : Replay σ → Prop) (t : Task σ α) : Prop :=
  ∀ r s, P r → P s → r.Agrees s → (on t r).1 = (on t s).1 ∧ (on t r).2.Agrees (on t s).2

theorem Blind.mono (h : Blind P t) (hP : ∀ r, P' r → P r) : Blind P' t :=
  fun r s hr hs => h r s (hP r hr) (hP s hs)

/-- One blind task after another, where the first leads to where the second is blind. -/
theorem Blind.bind (h : Blind P t) (hlead : Leads P t R E) (hf : ∀ value, Blind (R value) (f value)) :
    Blind P (t >>= f) := by
  intro r s hr hs hagrees
  obtain ⟨houtcome, hafter⟩ := h r s hr hs hagrees
  rcases honr : on t r with ⟨outcome, r'⟩
  rcases hons : on t s with ⟨same, s'⟩
  rw [honr, hons] at houtcome hafter
  obtain rfl : outcome = same := houtcome
  cases outcome with
  | ok value =>
      rw [on_bind_of_ok honr, on_bind_of_ok hons]
      exact hf value r' s' (hlead.of_ok hr honr) (hlead.of_ok hs hons) hafter
  | error failure =>
      rw [on_bind_of_error honr, on_bind_of_error hons]
      exact ⟨rfl, hafter⟩

/-- One blind task after another, where neither needs anything to be so. -/
theorem Blind.bind_always (h : Blind (fun _ : Replay σ => True) t)
    (hf : ∀ value, Blind (fun _ => True) (f value)) : Blind (fun _ => True) (t >>= f) := by
  refine h.bind (R := fun _ _ => True) (E := fun _ => True) ?_ hf
  intro r _
  rcases on t r with ⟨outcome, after⟩
  cases outcome with
  | ok value => exact .ok trivial
  | error failure => exact .error trivial

theorem blind_pure (value : α) : Blind P (pure value : Task σ α) := fun _ _ _ _ h => ⟨rfl, h⟩

theorem blind_refuse (failure : Failure) : Blind P (Replay.refuse failure : Task σ α) :=
  fun _ _ _ _ h => ⟨rfl, h⟩

theorem blind_modify {g : Replay σ → Replay σ} (hg : ∀ r s, r.Agrees s → (g r).Agrees (g s)) :
    Blind P (modify g : Task σ Unit) := fun r s _ _ h => ⟨rfl, hg r s h⟩

theorem blind_liftExcept (outcome : Outcome α) : Blind P (liftExcept outcome : Task σ α) := by
  intro r s _ _ h
  rw [on_liftExcept, on_liftExcept]
  exact ⟨rfl, h⟩

theorem blind_demand (value : Option α) (objection : Objection) :
    Blind P (Replay.demand value objection : Task σ α) := by
  cases value with
  | some found => exact blind_pure found
  | none => exact blind_refuse _

/-- A look at the replay that does not look at the accounts remembered. -/
theorem blind_get_bind {f : Replay σ → Task σ β} (hf : ∀ r, Blind P (f r))
    (hsame : ∀ r s, r.Agrees s → f r = f s) : Blind P (get >>= f) := by
  intro r s hr hs h
  rw [on_bind_of_ok (on_get r), on_bind_of_ok (on_get s), hsame r s h]
  exact hf s r s hr hs h

section

variable [Teller σ]

theorem on_serve (plan : Rules → Plan α) (r : Replay σ) :
    on (Replay.serve plan) r =
      ((Teller.serve plan r.teller).1, { r with teller := (Teller.serve plan r.teller).2 }) := by
  show on (liftExcept (Teller.serve plan r.teller).1)
    { r with teller := (Teller.serve plan r.teller).2 } = _
  rw [on_liftExcept]

theorem blind_serve (plan : Rules → Plan α) : Blind P (Replay.serve plan : Task σ α) := by
  intro r s _ _ h
  rw [on_serve, on_serve, h.teller]
  exact ⟨rfl, rfl, h.references⟩

theorem blind_register (identity : String) : Blind P (Replay.register identity : Task σ Unit) :=
  blind_modify fun _ _ h => ⟨congrArg (Teller.register identity) h.teller, h.references⟩

end

end Task

end Cashbook
