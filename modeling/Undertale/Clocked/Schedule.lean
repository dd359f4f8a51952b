import Mathlib.Data.List.Infix
import Mathlib.Data.Nat.Notation

/-!
# Schedules

Software that drives a clocked design does one action at some clock edges and
none at the others.  A schedule is the action at each edge, and `made` lists the
actions of the first edges in order.  Which edges they happened at is not part
of the list, so a statement about every schedule with a given list is a
statement about every spacing of these actions.
-/

namespace Clocked

variable {α σ : Type*}

/-- The actions of the first `n` edges. -/
def made (a : ℕ → Option α) (n : ℕ) : List α := (List.range n).filterMap a

@[simp] theorem made_zero (a : ℕ → Option α) : made a 0 = [] := rfl

theorem made_succ (a : ℕ → Option α) (n : ℕ) : made a (n + 1) = made a n ++ (a n).toList := by
  rw [made, List.range_succ, List.filterMap_append, made]
  cases h : a n with
  | none => simp [h]
  | some x => simp [h]

/-- The list of actions grows at its end. -/
theorem made_prefix (a : ℕ → Option α) {m n : ℕ} (h : m ≤ n) : made a m <+: made a n := by
  induction n, h using Nat.le_induction with
  | base => exact List.prefix_refl _
  | succ n _ ih => rw [made_succ]; exact ih.trans (List.prefix_append _ _)

/-- An action in the list was made at an edge of its own, and the actions before
it in the list were made before that edge. -/
theorem exists_edge_of_made {a : ℕ → Option α} {n : ℕ} {l r : List α} {x : α}
    (h : made a n = l ++ x :: r) : ∃ k, k < n ∧ made a k = l ∧ a k = some x := by
  induction n generalizing r with
  | zero => simp at h
  | succ n ih =>
      rw [made_succ] at h
      cases ha : a n with
      | none =>
          rw [ha, Option.toList_none, List.append_nil] at h
          obtain ⟨k, hk, hl, hx⟩ := ih h
          exact ⟨k, Nat.lt_succ_of_lt hk, hl, hx⟩
      | some y =>
          rw [ha, Option.toList_some] at h
          rcases List.eq_nil_or_concat r with rfl | ⟨r', z, rfl⟩
          · obtain ⟨hl, hy⟩ := List.append_inj' h rfl
            cases hy
            exact ⟨n, Nat.lt_succ_self n, hl, ha⟩
          · -- the last action is not the one we look for
            rw [List.concat_eq_append, ← List.cons_append, ← List.append_assoc] at h
            obtain ⟨hl, -⟩ := List.append_inj' h rfl
            obtain ⟨k, hk, hl', hx⟩ := ih hl
            exact ⟨k, Nat.lt_succ_of_lt hk, hl', hx⟩

/-- A register that only the actions change holds what they make of it. -/
theorem foldl_made {a : ℕ → Option α} {f : σ → α → σ} {r : ℕ → σ}
    (hr : ∀ n, r (n + 1) = (a n).elim (r n) (f (r n))) (n : ℕ) :
    r n = (made a n).foldl f (r 0) := by
  induction n with
  | zero => rfl
  | succ n ih =>
      rw [hr n, made_succ, List.foldl_append, ← ih]
      cases a n with
      | none => rfl
      | some x => rfl

/-! ## Calls

A call is a list of actions that starts and ends with the driven registers idle.
What holds all along each call holds all along any sequence of calls, and so at
every cycle of every schedule of them. -/

/-- From idle registers, `l` keeps them safe and leaves them idle. -/
structure Keeps (f : σ → α → σ) (idle safe : σ → Prop) (l : List α) : Prop where
  along : ∀ s, idle s → ∀ p, p <+: l → safe (p.foldl f s)
  after : ∀ s, idle s → idle (l.foldl f s)

section Keeps
variable {f : σ → α → σ} {idle safe : σ → Prop}

theorem Keeps.nil (h : ∀ s, idle s → safe s) : Keeps f idle safe [] where
  along s hs p hp := by
    rw [List.prefix_nil.mp hp]
    exact h s hs
  after _ hs := hs

theorem Keeps.append {l r : List α} (hl : Keeps f idle safe l) (hr : Keeps f idle safe r) :
    Keeps f idle safe (l ++ r) where
  along s hs p hp := by
    rcases List.prefix_or_prefix_of_prefix hp (List.prefix_append l r) with hpl | ⟨q, rfl⟩
    · exact hl.along s hs p hpl
    · rw [List.foldl_append]
      exact hr.along _ (hl.after s hs) q ((List.prefix_append_right_inj l).mp hp)
  after s hs := by
    rw [List.foldl_append]
    exact hr.after _ (hl.after s hs)

theorem Keeps.flatMap {κ : Type*} {g : κ → List α} (h : ∀ s, idle s → safe s)
    (hg : ∀ c, Keeps f idle safe (g c)) (cs : List κ) : Keeps f idle safe (cs.flatMap g) := by
  induction cs with
  | nil => exact Keeps.nil h
  | cons c cs ih =>
      rw [List.flatMap_cons]
      exact (hg c).append ih

/-- A schedule that has left the registers idle and goes on with actions that keep
them safe has them safe from then on. -/
theorem Keeps.made {a : ℕ → Option α} {l : List α} (hl : Keeps f idle safe l) {s : σ} {m n : ℕ}
    (hmn : m ≤ n) (hidle : idle ((made a m).foldl f s)) (hn : made a n <+: made a m ++ l) :
    safe ((made a n).foldl f s) := by
  obtain ⟨p, hp⟩ := made_prefix a hmn
  rw [← hp, List.foldl_append]
  rw [← hp] at hn
  exact hl.along _ hidle p ((List.prefix_append_right_inj _).mp hn)

end Keeps

/-! ## The last low cycle of a strobe -/

/-- `m` is the last cycle before cycle `n` in which the active-low signal `v` is
low, and `v` is high from then until cycle `n`. -/
def LastLow (v : ℕ → Bool) (n m : ℕ) : Prop :=
  m < n ∧ v m = false ∧ ∀ k, m < k → k ≤ n → v k = true

end Clocked
