/-
Tables as finite maps.

A table is known by what it answers: two tables that answer every key alike are
equal, and each operation is described by what the changed table answers.  Sums over
the rows need one fact more, since the rows come as a list: storing a row under a new
key adds that row to the list and moves nothing else but places.
-/
import Mathlib.Algebra.BigOperators.Group.List.Basic
import Mathlib.Algebra.Ring.Int.Defs
import Mathlib.Data.List.Nodup
import Mathlib.Data.List.Perm.Basic
import Cashbook.Table

namespace Cashbook.Table

variable {κ α : Type} [Ord κ] [Std.TransOrd κ] [Std.LawfulEqOrd κ]

/-! ### Answers -/

theorem ext_getElem? {s t : Table κ α} (h : ∀ k : κ, s[k]? = t[k]?) : s = t :=
  Std.ExtTreeMap.ext_getElem? fun k => h k

theorem getElem?_insert_of_ne (t : Table κ α) {key k : κ} (row : α) (h : key ≠ k) :
    (t.insert key row)[k]? = t[k]? := by
  rw [Std.ExtTreeMap.getElem?_insert, if_neg (fun hc => h (Std.compare_eq_iff_eq.1 hc))]

theorem getElem?_erase_of_ne (t : Table κ α) {key k : κ} (h : key ≠ k) :
    (t.erase key)[k]? = t[k]? := by
  rw [Std.ExtTreeMap.getElem?_erase, if_neg (fun hc => h (Std.compare_eq_iff_eq.1 hc))]

/-- A row found after another was stored is that one, or was there before under another key. -/
theorem of_getElem?_insert {t : Table κ α} {key k : κ} {row found : α}
    (h : (t.insert key row)[k]? = some found) :
    (k = key ∧ found = row) ∨ (k ≠ key ∧ t[k]? = some found) := by
  by_cases hk : key = k
  · subst hk
    rw [Std.ExtTreeMap.getElem?_insert_self] at h
    exact Or.inl ⟨rfl, (Option.some.inj h).symm⟩
  · rw [getElem?_insert_of_ne t row hk] at h
    exact Or.inr ⟨fun hc => hk hc.symm, h⟩

/-- A row found after another was removed was there before under another key. -/
theorem of_getElem?_erase {t : Table κ α} {key k : κ} {found : α}
    (h : (t.erase key)[k]? = some found) : k ≠ key ∧ t[k]? = some found := by
  by_cases hk : key = k
  · subst hk
    rw [Std.ExtTreeMap.getElem?_erase_self] at h
    exact absurd h (by simp)
  · rw [getElem?_erase_of_ne t hk] at h
    exact ⟨fun hc => hk hc.symm, h⟩

/-- A key that has a row keeps one when another row is stored. -/
theorem exists_getElem?_insert {t : Table κ α} (key : κ) (row : α) {k : κ}
    (h : ∃ r, t[k]? = some r) : ∃ r, (t.insert key row)[k]? = some r := by
  by_cases hk : key = k
  · exact ⟨row, by rw [← hk, Std.ExtTreeMap.getElem?_insert_self]⟩
  · rwa [getElem?_insert_of_ne t row hk]

/-- Storing again what is there changes nothing. -/
theorem insert_of_getElem? {t : Table κ α} {key : κ} {row : α} (h : t[key]? = some row) :
    t.insert key row = t := by
  refine ext_getElem? ?_
  intro k
  by_cases hk : key = k
  · rw [← hk, Std.ExtTreeMap.getElem?_insert_self, h]
  · rw [getElem?_insert_of_ne t row hk]

/-- What is removed and then stored is simply stored. -/
theorem insert_erase (t : Table κ α) (key : κ) (row : α) :
    (t.erase key).insert key row = t.insert key row := by
  refine ext_getElem? ?_
  intro k
  by_cases hk : key = k
  · rw [← hk, Std.ExtTreeMap.getElem?_insert_self, Std.ExtTreeMap.getElem?_insert_self]
  · rw [getElem?_insert_of_ne _ row hk, getElem?_insert_of_ne _ row hk, getElem?_erase_of_ne t hk]

/-- What is stored and then removed is simply removed. -/
theorem erase_insert (t : Table κ α) (key : κ) (row : α) :
    (t.insert key row).erase key = t.erase key := by
  refine ext_getElem? ?_
  intro k
  by_cases hk : key = k
  · rw [← hk, Std.ExtTreeMap.getElem?_erase_self, Std.ExtTreeMap.getElem?_erase_self]
  · rw [getElem?_erase_of_ne _ hk, getElem?_insert_of_ne t row hk, getElem?_erase_of_ne t hk]

theorem erase_erase (t : Table κ α) (key : κ) : (t.erase key).erase key = t.erase key := by
  refine ext_getElem? ?_
  intro k
  by_cases hk : key = k
  · rw [← hk, Std.ExtTreeMap.getElem?_erase_self, Std.ExtTreeMap.getElem?_erase_self]
  · rw [getElem?_erase_of_ne _ hk]

/-- Removing what is not there changes nothing. -/
theorem erase_of_none {t : Table κ α} {key : κ} (h : t[key]? = none) : t.erase key = t := by
  refine ext_getElem? ?_
  intro k
  by_cases hk : key = k
  · rw [← hk, Std.ExtTreeMap.getElem?_erase_self, h]
  · rw [getElem?_erase_of_ne t hk]

/-! ### Carrying many changes out

The changes of a unit of work sit in tables of their own, and are carried out one
after another in the order of their keys.  As every key comes once, the order makes
no difference: a key that has a change answers with it, any other as before.
-/

omit [Std.LawfulEqOrd κ] in
/-- Steps that each touch the key of one entry leave every other key alone. -/
private theorem getElem?_foldl_of_not_mem {β : Type} (step : Table κ α → κ × β → Table κ α)
    (hstep : ∀ t p (k : κ), p.1 ≠ k → (step t p)[k]? = t[k]?) (k : κ) :
    ∀ (l : List (κ × β)) (t : Table κ α), (∀ p ∈ l, p.1 ≠ k) → (l.foldl step t)[k]? = t[k]? := by
  intro l
  induction l with
  | nil => intro t _; rfl
  | cons p rest ih =>
      intro t h
      rw [List.foldl_cons, ih _ (fun q hq => h q (by simp [hq])), hstep t p k (h p (by simp))]

omit [Std.LawfulEqOrd κ] in
/-- Steps with different keys: the one with the key asked for decides the answer. -/
private theorem getElem?_foldl_of_mem {β : Type} (step : Table κ α → κ × β → Table κ α)
    (hstep : ∀ t p (k : κ), p.1 ≠ k → (step t p)[k]? = t[k]?) (answer : β → Option α)
    (hself : ∀ t p, (step t p)[p.1]? = answer p.2) {k : κ} {b : β} :
    ∀ (l : List (κ × β)) (t : Table κ α), l.Pairwise (fun p q => p.1 ≠ q.1) → (k, b) ∈ l →
      (l.foldl step t)[k]? = answer b := by
  intro l
  induction l with
  | nil => intro t _ h; simp at h
  | cons p rest ih =>
      intro t hd h
      rw [List.pairwise_cons] at hd
      rw [List.foldl_cons]
      rcases List.mem_cons.mp h with hp | hr
      · subst hp
        rw [getElem?_foldl_of_not_mem step hstep k rest _ (fun q hq => (hd.1 q hq).symm)]
        exact hself t (k, b)
      · exact ih _ hd.2 hr

omit [Std.LawfulEqOrd κ] in
/-- Steps that all leave the same answer behind under the keys that they touch. -/
theorem getElem?_foldl_of_answer [DecidableEq κ] {β : Type} (step : Table κ α → β → Table κ α)
    (key : β → κ) (answer : Option α)
    (hstep : ∀ t b (k : κ), key b ≠ k → (step t b)[k]? = t[k]?)
    (hself : ∀ t b, (step t b)[key b]? = answer) (k : κ) :
    ∀ (l : List β) (t : Table κ α),
      (l.foldl step t)[k]? = if k ∈ l.map key then answer else t[k]? := by
  intro l
  induction l with
  | nil => intro t; rfl
  | cons b rest ih =>
      intro t
      rw [List.foldl_cons, ih]
      by_cases hr : k ∈ rest.map key
      · rw [if_pos hr, if_pos (by simp [hr])]
      by_cases hb : key b = k
      · rw [if_neg hr, if_pos (by simp [hb]), ← hb, hself]
      · rw [if_neg hr, if_neg (by simp [hr, Ne.symm hb]), hstep t b k hb]

theorem pairwise_toList {β : Type} (changes : Table κ β) :
    changes.toList.Pairwise (fun p q => p.1 ≠ q.1) :=
  (Std.ExtTreeMap.distinct_keys_toList (t := changes)).imp fun h hc =>
    h (Std.compare_eq_iff_eq.2 hc)

private theorem ne_of_getElem?_eq_none {β : Type} {changes : Table κ β} {k : κ}
    (h : changes[k]? = none) : ∀ p ∈ changes.toList, p.1 ≠ k := by
  intro h hp h'
  obtain ⟨key, b⟩ := h
  obtain rfl := h'
  rw [Std.ExtTreeMap.mem_toList_iff_getElem?_eq_some, h] at hp
  exact absurd hp (by simp)

/-- After changes that store or remove rows, a key that has one answers with it. -/
theorem getElem?_foldl_set (changes : Table κ (Option α)) (t : Table κ α) (k : κ) :
    (changes.foldl set t)[k]? = changes[k]?.getD t[k]? := by
  have hstep : ∀ (t : Table κ α) (p : κ × Option α) (k : κ), p.1 ≠ k →
      (t.set p.1 p.2)[k]? = t[k]? := by
    intro t p k hk
    rw [getElem?_set, if_neg (fun hc => hk (Std.compare_eq_iff_eq.1 hc))]
  have hself : ∀ (t : Table κ α) (p : κ × Option α), (t.set p.1 p.2)[p.1]? = p.2 := by
    intro t p
    rw [getElem?_set, if_pos (Std.compare_eq_iff_eq.2 rfl)]
  rw [Std.ExtTreeMap.foldl_eq_foldl_toList]
  cases h : changes[k]? with
  | none =>
      exact getElem?_foldl_of_not_mem (fun t p => t.set p.1 p.2) hstep k _ t
        (ne_of_getElem?_eq_none h)
  | some row =>
      exact getElem?_foldl_of_mem (fun t p => t.set p.1 p.2) hstep id hself _ t
        (pairwise_toList changes) (Std.ExtTreeMap.mem_toList_iff_getElem?_eq_some.2 h)

/-- After changes that store rows, a key that has one answers with it. -/
theorem getElem?_foldl_insert (changes t : Table κ α) (k : κ) :
    (changes.foldl (fun t key row => t.insert key row) t)[k]? = changes[k]?.or t[k]? := by
  have hstep : ∀ (t : Table κ α) (p : κ × α) (k : κ), p.1 ≠ k →
      (t.insert p.1 p.2)[k]? = t[k]? :=
    fun t p k hk => getElem?_insert_of_ne t p.2 hk
  rw [Std.ExtTreeMap.foldl_eq_foldl_toList]
  cases h : changes[k]? with
  | none =>
      rw [Option.none_or]
      exact getElem?_foldl_of_not_mem (fun t p => t.insert p.1 p.2) hstep k _ t
        (ne_of_getElem?_eq_none h)
  | some row =>
      exact getElem?_foldl_of_mem (fun t p => t.insert p.1 p.2) hstep some
        (fun t p => Std.ExtTreeMap.getElem?_insert_self) _ t
        (pairwise_toList changes) (Std.ExtTreeMap.mem_toList_iff_getElem?_eq_some.2 h)

/-! ### Rows -/

theorem mem_rows {t : Table κ α} {row : α} : row ∈ t.rows ↔ ∃ k : κ, t[k]? = some row := by
  constructor
  · intro h
    obtain ⟨⟨k, r⟩, hp, rfl⟩ := List.mem_map.1 h
    exact ⟨k, Std.ExtTreeMap.mem_toList_iff_getElem?_eq_some.1 hp⟩
  · intro h
    obtain ⟨k, h⟩ := h
    exact List.mem_map.2 ⟨(k, row), Std.ExtTreeMap.mem_toList_iff_getElem?_eq_some.2 h, rfl⟩

theorem nodup_toList (t : Table κ α) : t.toList.Nodup :=
  (pairwise_toList t).imp fun h hc => h (congrArg Prod.fst hc)

/-- Rows that are filed under what they carry are all different. -/
theorem nodup_rows {t : Table κ α} {key : α → κ}
    (h : ∀ (k : κ) (row : α), t[k]? = some row → key row = k) : t.rows.Nodup := by
  refine List.Nodup.map_on ?_ (nodup_toList _)
  rintro ⟨k, row⟩ hrow ⟨other, same⟩ hsame rfl
  rw [Std.ExtTreeMap.mem_toList_iff_getElem?_eq_some] at hrow hsame
  rw [← h k row hrow, h other row hsame]

/-- A row stored under a new key joins the rows. -/
theorem rows_insert_perm {t : Table κ α} {key : κ} (row : α) (h : t[key]? = none) :
    (rows (t.insert key row)).Perm (row :: t.rows) := by
  have hnew : (key, row) ∉ t.toList := by
    rw [Std.ExtTreeMap.mem_toList_iff_getElem?_eq_some, h]
    simp
  have hlist : (t.insert key row).toList.Perm ((key, row) :: t.toList) := by
    rw [List.perm_ext_iff_of_nodup (nodup_toList _) (List.nodup_cons.2 ⟨hnew, nodup_toList t⟩)]
    intro h
    obtain ⟨k, r⟩ := h
    rw [List.mem_cons, Std.ExtTreeMap.mem_toList_iff_getElem?_eq_some,
      Std.ExtTreeMap.mem_toList_iff_getElem?_eq_some]
    by_cases hk : key = k
    · subst hk
      rw [Std.ExtTreeMap.getElem?_insert_self, h]
      simp [eq_comm]
    · rw [getElem?_insert_of_ne t row hk]
      simp [Ne.symm hk]
  exact hlist.map Prod.snd

/-- A row that is there stands before those that its removal leaves. -/
theorem rows_perm_cons_erase {t : Table κ α} {key : κ} {row : α} (h : t[key]? = some row) :
    t.rows.Perm (row :: rows (t.erase key)) := by
  have hback : (t.erase key).insert key row = t := by
    rw [insert_erase, insert_of_getElem? h]
  have hp := rows_insert_perm (t := t.erase key) row Std.ExtTreeMap.getElem?_erase_self
  rwa [hback] at hp

/-- A row stored in another's place stands before those that are left of the others. -/
theorem rows_insert_perm_erase (t : Table κ α) (key : κ) (row : α) :
    (rows (t.insert key row)).Perm (row :: rows (t.erase key)) := by
  have hp := rows_insert_perm (t := t.erase key) row Std.ExtTreeMap.getElem?_erase_self
  rwa [insert_erase] at hp

/-! ### Counts -/

/-- How many rows meet a test. -/
def count (test : α → Bool) (t : Table κ α) : Nat := t.rows.countP test

section

variable (test : α → Bool) {t : Table κ α} {key : κ}

theorem count_insert_of_new (row : α) (h : t[key]? = none) :
    count test (t.insert key row) = t.count test + if test row then 1 else 0 := by
  rw [count, (rows_insert_perm row h).countP_eq test, List.countP_cons, count]

/-- A row that goes is counted no longer. -/
theorem count_erase {old : α} (h : t[key]? = some old) :
    (count test (t.erase key) + if test old then 1 else 0) = t.count test := by
  have hperm := (rows_perm_cons_erase h).countP_eq test
  rw [List.countP_cons] at hperm
  exact hperm.symm

/-- A row that takes the place of another is counted in place of the other. -/
theorem count_insert_of_some {old : α} (row : α) (h : t[key]? = some old) :
    (count test (t.insert key row) + if test old then 1 else 0) =
      t.count test + if test row then 1 else 0 := by
  have hnew := (rows_insert_perm_erase t key row).countP_eq test
  have hold := count_erase test h
  rw [List.countP_cons] at hnew
  unfold count at hold ⊢
  omega

/-- Some row meets the test as soon as one is counted. -/
theorem count_pos_iff : 0 < t.count test ↔ ∃ (k : κ) (row : α), t[k]? = some row ∧ test row = true := by
  rw [count, List.countP_pos_iff]
  constructor
  · intro h
    obtain ⟨row, hmem, htest⟩ := h
    obtain ⟨k, hk⟩ := mem_rows.1 hmem
    exact ⟨k, row, hk, htest⟩
  · intro h
    obtain ⟨k, row, hk, htest⟩ := h
    exact ⟨row, mem_rows.2 ⟨k, hk⟩, htest⟩

end

/-! ### Sums -/

/-- The sum of a number over the rows that meet a test. -/
def total (test : α → Bool) (number : α → Int) (t : Table κ α) : Int :=
  ((t.rows.filter test).map number).sum

variable (test : α → Bool) (number : α → Int)

omit [Std.LawfulEqOrd κ] in
/-- A row in front of the others contributes its number, if it meets the test. -/
private theorem total_of_perm {s t : Table κ α} {row : α} (h : s.rows.Perm (row :: t.rows)) :
    s.total test number = (if test row then number row else 0) + t.total test number := by
  have hsum : s.total test number = (((row :: t.rows).filter test).map number).sum :=
    ((h.filter test).map number).sum_eq
  rw [hsum, List.filter_cons]
  by_cases hr : test row = true
  · rw [if_pos hr, if_pos hr, List.map_cons, List.sum_cons]
    rfl
  · rw [if_neg hr, if_neg hr, Int.zero_add]
    rfl

theorem total_insert_of_new {t : Table κ α} {key : κ} (row : α) (h : t[key]? = none) :
    total test number (t.insert key row) =
      (if test row then number row else 0) + t.total test number :=
  total_of_perm test number (rows_insert_perm row h)

/-- A row that takes the place of another contributes its number in place of the other's. -/
theorem total_insert_of_some {t : Table κ α} {key : κ} {old : α} (row : α)
    (h : t[key]? = some old) :
    total test number (t.insert key row) + (if test old then number old else 0) =
      (if test row then number row else 0) + t.total test number := by
  have hnew := total_of_perm test number (rows_insert_perm_erase t key row)
  have hold := total_of_perm test number (rows_perm_cons_erase h)
  omega

/-- Nothing is summed up if no row meets the test. -/
theorem total_eq_zero {t : Table κ α}
    (h : ∀ (k : κ) (row : α), t[k]? = some row → test row = false) : t.total test number = 0 := by
  have hnil : t.rows.filter test = [] := by
    rw [List.filter_eq_nil_iff]
    intro row hrow
    obtain ⟨k, hk⟩ := mem_rows.1 hrow
    rw [h k row hk]
    simp
  rw [total, hnil]
  rfl

end Cashbook.Table
