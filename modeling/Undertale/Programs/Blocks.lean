import Undertale.Clocked.Run
import Mathlib.Order.Filter.AtTopBot.Basic
import Mathlib.Order.Filter.Finite

/-!
# Programs in basic blocks

A program that talks to a device makes a list of actions, decides, and makes the next
list.  Some actions are answered by the device, and the decision is about the last answer.
The device is arbitrary: a run takes any answers.

The trace of a run is the list of its actions with their answers.  What is known about the
trace at a place of the program is an invariant of the two (`Blocks.invariant`), and
`After` says that one thing happened in a list after another.

A `Device` is the other side: it takes a turn of its own before every action and answers
from its state.  The places of a program that is never held up for ever are ranked by what
is left to do, and such a program comes to its goal again and again
(`frequently_of_fair`).
-/

namespace Programs

open Clocked

variable {σ α υ ε : Type*}

/-! ## Runs and traces -/

/-- A program: the actions of the block at a state, the actions that are answered, and the
state after the block. -/
structure Blocks (σ α υ : Type*) where
  actions : σ → List α
  reads : α → Bool
  next : υ → σ → σ

/-- The actions `as` with the answers `f`. -/
def events : List α → (ℕ → υ) → List (α × υ)
  | [], _ => []
  | a :: as, f => (a, f 0) :: events as fun k => f (k + 1)

/-- The last answer that was read, or `v`. -/
def lastRead (reads : α → Bool) : List (α × υ) → υ → υ
  | [], v => v
  | e :: es, v => lastRead reads es (if reads e.1 then e.2 else v)

theorem map_fst_events (as : List α) (f : ℕ → υ) : (events as f).map Prod.fst = as := by
  induction as generalizing f with
  | nil => rfl
  | cons a as ih => rw [events, List.map_cons, ih]

namespace Blocks

variable (b : Blocks σ α υ)

/-- The events of the block at `s`. -/
def events (f : ℕ → υ) (s : σ) : List (α × υ) := Programs.events (b.actions s) f

/-- One block. -/
def step (f : ℕ → υ) (s : σ) : σ := b.next (lastRead b.reads (b.events f s) (f 0)) s

/-- A run from `s`, where `i n` are the answers of block `n`. -/
def run (i : ℕ → ℕ → υ) (s : σ) : ℕ → σ := Clocked.run (fun n => b.step (i n)) s

/-- The events of the first `n` blocks. -/
def trace (i : ℕ → ℕ → υ) (s : σ) : ℕ → List (α × υ)
  | 0 => []
  | n + 1 => trace i s n ++ b.events (i n) (b.run i s n)

variable {b} {i : ℕ → ℕ → υ} {s : σ}

/-- What every block preserves, with its events added to the trace, holds in a run. -/
theorem invariant {P : σ → List (α × υ) → Prop} (h0 : P s [])
    (hstep : ∀ s h f, P s h → P (b.step f s) (h ++ b.events f s)) (n : ℕ) :
    P (b.run i s n) (b.trace i s n) := by
  induction n with
  | zero => exact h0
  | succ n ih => exact hstep _ _ _ ih

/-- An event of a trace is an event of one of its blocks. -/
theorem exists_block {n : ℕ} {h t : List (α × υ)} {e : α × υ} (heq : b.trace i s n = h ++ e :: t) :
    ∃ k l l', k < n ∧ h = b.trace i s k ++ l ∧ b.events (i k) (b.run i s k) = l ++ e :: l' := by
  induction n generalizing t with
  | zero => exact absurd heq (by simp [trace])
  | succ n ih =>
      rw [trace, List.append_eq_append_iff] at heq
      rcases heq with ⟨l, hh, hblock⟩ | ⟨l, htrace, hblock⟩
      · exact ⟨n, l, t, Nat.lt_succ_self n, hh, hblock⟩
      · cases l with
        | nil =>
            rw [List.append_nil] at htrace
            exact ⟨n, [], t, Nat.lt_succ_self n, by rw [htrace, List.append_nil], hblock.symm⟩
        | cons e' l =>
            obtain ⟨rfl, -⟩ := List.cons.inj (hblock : e :: t = e' :: (l ++ _))
            obtain ⟨k, l₁, l₂, hk, hh, hevents⟩ := ih htrace
            exact ⟨k, l₁, l₂, Nat.lt_succ_of_lt hk, hh, hevents⟩

end Blocks

/-! ## Devices -/

/-- A device with the states `δ`.  Before an action it takes a turn of `ι`. -/
structure Device (δ ι α υ : Type*) where
  answer : ι → δ → α → υ
  step : ι → δ → α → δ

namespace Device

variable {δ ι : Type*} (d : Device δ ι α υ)

/-- The state after the actions `as`, on the turns `i`. -/
def after : List α → (ℕ → ι) → δ → δ
  | [], _, x => x
  | a :: as, i, x => after as (fun k => i (k + 1)) (d.step (i 0) x a)

/-- The answers to the actions `as`. -/
def answers [Inhabited υ] : List α → (ℕ → ι) → δ → ℕ → υ
  | [], _, _, _ => default
  | a :: _, i, x, 0 => d.answer (i 0) x a
  | a :: as, i, x, k + 1 => answers as (fun k => i (k + 1)) (d.step (i 0) x a) k

end Device

namespace Blocks

variable {δ ι : Type*} [Inhabited υ] (b : Blocks σ α υ) (d : Device δ ι α υ)

/-- One block of a program with its device. -/
def stepWith (i : ℕ → ι) (s : σ × δ) : σ × δ :=
  (b.step (d.answers (b.actions s.1) i s.2) s.1, d.after (b.actions s.1) i s.2)

/-- A run of both from `s`, where `i n` are the turns of the device in block `n`. -/
def runWith (i : ℕ → ℕ → ι) (s : σ × δ) : ℕ → σ × δ :=
  Clocked.run (fun n => b.stepWith d (i n)) s

end Blocks

/-! ## Order in a list -/

/-- In the list, `Q` holds of a part that comes after a part of which `P` holds. -/
def After (P Q : List ε → Prop) (l : List ε) : Prop :=
  ∃ before now later, l = before ++ now ++ later ∧ P before ∧ Q now

section After
variable {P Q : List ε → Prop} {l l' : List ε}

theorem After.append (h : After P Q l) (l' : List ε) : After P Q (l ++ l') := by
  obtain ⟨before, now, later, rfl, hP, hQ⟩ := h
  exact ⟨before, now, later ++ l', by simp, hP, hQ⟩

theorem After.intro (hP : P l) (hQ : Q l') : After P Q (l ++ l') :=
  ⟨l, l', [], (List.append_nil _).symm, hP, hQ⟩

end After

/-! ## Arrival -/

section fair
variable {π : Type*} [Finite π] {f : ℕ → π}

open Filter

/-- One of finitely many places is visited again and again. -/
theorem exists_frequently_eq {P : π → Prop} (h : ∃ᶠ n in atTop, P (f n)) :
    ∃ p, P p ∧ ∃ᶠ n in atTop, f n = p := by
  by_contra hno
  have hrare : ∀ p, P p → ∀ᶠ n in atTop, f n ≠ p := fun p hp =>
    not_frequently.mp fun hoften => hno ⟨p, hp, hoften⟩
  have hnone : ∀ᶠ n in atTop, ∀ p, P p → f n ≠ p :=
    eventually_all.mpr fun p => eventually_imp_distrib_left.mpr (hrare p)
  obtain ⟨n, hn, hn'⟩ := (h.and_eventually hnone).exists
  exact hn' (f n) hn rfl

/-- Where every place that is visited again and again is left for a lower rank again and
again, the goal is visited again and again. -/
theorem frequently_of_fair (goal : π → Prop) (rank : π → ℕ)
    (hfair : ∀ p, ¬ goal p → (∃ᶠ n in atTop, f n = p) →
      ∃ᶠ n in atTop, rank (f (n + 1)) < rank p) :
    ∃ᶠ n in atTop, goal (f n) := by
  have hsome : ∃ p, ∃ᶠ n in atTop, f n = p := by
    obtain ⟨p, -, hp⟩ := exists_frequently_eq (f := f) (P := fun _ => True)
      (Frequently.of_forall fun _ => trivial)
    exact ⟨p, hp⟩
  obtain ⟨p, hp⟩ := hsome
  induction hk : rank p using Nat.strong_induction_on generalizing p with
  | _ k ih =>
      rcases Classical.em (goal p) with hgoal | hgoal
      · exact hp.mono fun n hn => hn ▸ hgoal
      · -- a place of a lower rank is visited again and again as well
        have hlower : ∃ᶠ n in atTop, rank (f n) < k :=
          (tendsto_add_atTop_nat 1).frequently (hk ▸ hfair p hgoal hp)
        obtain ⟨q, hq, hoften⟩ := exists_frequently_eq (P := fun q => rank q < k) hlower
        exact ih (rank q) hq q hoften rfl

end fair

end Programs
