import Undertale.Game
import Mathlib.Tactic.IntervalCases

/-!
# The pages of the introduction

The registers of `intro` in closed form.  A stay in the introduction counts its
frame edges up to 3000 and holds there.  The special values of the counter come
one edge late, because an edge reads the counter before it counts: after `n` edges
the pages are those of `c = min (n - 1) 3000`.
-/

namespace Undertale

open Clocked

/-! ## The timeline -/

/-- The registers of `intro` after `n` frame edges of a stay. -/
def Intro.timeline (n : ℕ) : Intro :=
  let c := min (n - 1) 3000
  if c = 0 ∨ c = 3000 then { Intro.clear with counter := BitVec.ofNat 12 (min n 3000) }
  else
    { counter := BitVec.ofNat 12 (min n 3000)
      introNum1 := BitVec.ofNat 4 (2 * (c / 600) + 1)
      introNum2 := if 300 ≤ c % 600 then BitVec.ofNat 4 (2 * (c / 600) + 2) else 0#4
      isSub1 := true
      isSub2 := decide (300 ≤ c % 600) }

theorem Intro.timeline_zero : Intro.timeline 0 = Intro.clear := rfl

theorem Intro.timeline_counter (n : ℕ) :
    (Intro.timeline n).counter = BitVec.ofNat 12 (min n 3000) := by
  unfold Intro.timeline
  dsimp only
  split <;> rfl

/-- From frame edge 3001 on nothing changes. -/
theorem Intro.timeline_last {n : ℕ} (h : 3000 < n) :
    Intro.timeline n = { Intro.clear with counter := 3000#12 } := by
  have hc : min (n - 1) 3000 = 3000 := by omega
  have hn : min n 3000 = 3000 := by omega
  simp [Intro.timeline, hc, hn]

/-- Between the special values an edge only counts. -/
theorem Intro.step_default {r : Intro} (h1 : r.counter ≠ 1#12)
    (h : ∀ q, q ≤ 10 → r.counter ≠ BitVec.ofNat 12 (300 * q)) :
    r.step 2#4 = { r with counter := r.counter + 1#12 } := by
  have h300 := h 1 (by omega)
  have h600 := h 2 (by omega)
  have h900 := h 3 (by omega)
  have h1200 := h 4 (by omega)
  have h1500 := h 5 (by omega)
  have h1800 := h 6 (by omega)
  have h2100 := h 7 (by omega)
  have h2400 := h 8 (by omega)
  have h2700 := h 9 (by omega)
  have h3000 := h 10 (by omega)
  simp only [Nat.reduceMul] at h300 h600 h900 h1200 h1500 h1800 h2100 h2400 h2700 h3000
  simp only [Intro.step, if_pos, h1, h300, h600, h900, h1200, h1500, h1800, h2100, h2400, h2700,
    h3000, if_false]

/-- The timeline between the special values. -/
theorem Intro.timeline_succ {n : ℕ} (h1 : n ≠ 1) (hn : n < 3000) (h : n % 300 ≠ 0) :
    Intro.timeline (n + 1) =
      { Intro.timeline n with counter := BitVec.ofNat 12 (n + 1) } := by
  have hc : min (n + 1 - 1) 3000 = n := by omega
  have hc' : min (n - 1) 3000 = n - 1 := by omega
  have hcount : min (n + 1) 3000 = n + 1 := by omega
  have hdiv : (n - 1) / 600 = n / 600 := by omega
  have hhalf : 300 ≤ (n - 1) % 600 ↔ 300 ≤ n % 600 := by omega
  have hedge : ¬ (n = 0 ∨ n = 3000) := by omega
  have hedge' : ¬ (n - 1 = 0 ∨ n - 1 = 3000) := by omega
  simp only [Intro.timeline, hc, hc', hcount, hdiv, hhalf, if_neg hedge, if_neg hedge']

/-- A frame edge in the introduction moves the registers along the timeline. -/
theorem Intro.step_timeline (n : ℕ) :
    (Intro.timeline n).step 2#4 = Intro.timeline (n + 1) := by
  rcases Nat.lt_or_ge 3000 n with hlast | hle
  · rw [Intro.timeline_last hlast, Intro.timeline_last (by omega)]
    rfl
  · rcases eq_or_ne n 1 with rfl | h1
    · rfl
    · rcases eq_or_ne (n % 300) 0 with h0 | h0
      · -- the special values but the first are the multiples of 300
        obtain ⟨q, rfl⟩ : ∃ q, n = 300 * q := ⟨n / 300, by omega⟩
        have hq : q ≤ 10 := by omega
        interval_cases q <;> rfl
      · have hcounter : (Intro.timeline n).counter = BitVec.ofNat 12 n := by
          rw [Intro.timeline_counter, min_eq_left hle]
        have hne : ∀ k, k ≤ 3000 → k ≠ n → (Intro.timeline n).counter ≠ BitVec.ofNat 12 k := by
          intro k hk hkn he
          rw [hcounter] at he
          have := congrArg BitVec.toNat he
          rw [BitVec.toNat_ofNat, BitVec.toNat_ofNat] at this
          omega
        rw [Intro.step_default (hne 1 (by omega) h1.symm)
          fun q hq => hne (300 * q) (by omega) (by omega)]
        rw [Intro.timeline_succ h1 (by omega) h0, hcounter, ← BitVec.ofNat_add]

/-! ## Runs -/

/-- A run of `intro` from the registers `r` on the frame clock `vs` and the status
in each cycle.  A frame edge sees the status after it. -/
def Intro.run (vs : ℕ → Bool) (status : ℕ → BitVec 4) (r : Intro) : ℕ → Intro :=
  Clocked.run (fun n r => if Rises vs n then r.step (status (n + 1)) else r) r

/-- In a run of the game `intro` runs on the VGA controller and the scene machine. -/
theorem Game.intro_run (rom : Rom) (i : ℕ → GameInputs) (g : Game) (n : ℕ) :
    (Game.run rom i g n).intro =
      Intro.run (fun k => (Game.run rom i g k).sprites.vga.vs)
        (fun k => (Game.run rom i g k).scene.status) g.intro n :=
  run_map Game.intro (fun _ => rfl) n

section run
variable {vs : ℕ → Bool} {status : ℕ → BitVec 4} {r : Intro}

theorem Intro.run_rises {n : ℕ} (h : Rises vs n) :
    Intro.run vs status r (n + 1) = (Intro.run vs status r n).step (status (n + 1)) := if_pos h

theorem Intro.run_holds {n : ℕ} (h : ¬ Rises vs n) :
    Intro.run vs status r (n + 1) = Intro.run vs status r n := if_neg h

/-- A stay in the introduction: it is entered at edge `a` and lasts until cycle
`b` at least, and the frame edges before it, from one of them on, saw another
scene. -/
structure Intro.Stay (vs : ℕ → Bool) (status : ℕ → BitVec 4) (a b : ℕ) : Prop where
  outside : status a ≠ 2#4
  inside : ∀ k, a < k → k ≤ b → status k = 2#4
  cleared : ∃ j, j < a ∧ Rises vs j ∧ ∀ k, j ≤ k → k < a → Rises vs k → status (k + 1) ≠ 2#4

/-- A stay finds the registers cleared. -/
theorem Intro.Stay.run_entry {a b : ℕ} (h : Intro.Stay vs status a b) :
    Intro.run vs status r a = Intro.clear := by
  obtain ⟨j, hja, hj, hother⟩ := h.cleared
  refine eq_of_rises hj hja (fun k hjk hka hk => ?_) fun k _ _ hk => Intro.run_holds hk
  rw [Intro.run_rises hk, Intro.step_outside (hother k hjk hka hk)]

/-- The registers in a stay are those of the timeline at the number of its frame
edges. -/
theorem Intro.Stay.run_eq {a b : ℕ} (h : Intro.Stay vs status a b) {m : ℕ} (ham : a ≤ m)
    (hmb : m ≤ b) : Intro.run vs status r m = Intro.timeline (countIn (Rises vs) a m) := by
  have hiter : Intro.run vs status r m =
      (Intro.step 2#4)^[countIn (Rises vs) a m] (Intro.run vs status r a) := by
    refine eq_iterate ham (fun k hak hkm hk => ?_) fun k _ _ hk => Intro.run_holds hk
    rw [Intro.run_rises hk, h.inside (k + 1) (by omega) (by omega)]
  rw [hiter, h.run_entry, ← Intro.timeline_zero]
  generalize countIn (Rises vs) a m = n
  induction n with
  | zero => rfl
  | succ n ih => rw [Function.iterate_succ_apply', ih, Intro.step_timeline]

end run

/-- After the `n`-th frame edge of a stay, and until the next one, the counter
stands at `min n 3000`, which does not wrap, and the pages are those of
`c = min (n - 1) 3000`. -/
theorem Intro.pages {vs : ℕ → Bool} {status : ℕ → BitVec 4} {a b : ℕ}
    (h : Intro.Stay vs status a b) (r : Intro) {n k m : ℕ} (hk : IsNth (Rises vs) a n k)
    (hkm : k < m) (hmb : m ≤ b) (hno : ∀ l, k < l → l < m → ¬ Rises vs l) :
    let c := min (n - 1) 3000
    let s := Intro.run vs status r m
    s.counter.toNat = min n 3000 ∧
      if c = 0 ∨ c = 3000 then
        s.introNum1 = 0#4 ∧ s.introNum2 = 0#4 ∧ s.isSub1 = false ∧ s.isSub2 = false
      else
        s.introNum1.toNat = 2 * (c / 600) + 1 ∧ s.isSub1 = true ∧
          if 300 ≤ c % 600 then s.introNum2.toNat = 2 * (c / 600) + 2 ∧ s.isSub2 = true
          else s.introNum2 = 0#4 ∧ s.isSub2 = false := by
  intro c s
  have hak : a ≤ k := hk.1
  have hcount : countIn (Rises vs) a m = n := by
    rw [countIn_eq_of_quiet (b := k + 1) (by omega) hkm fun l hl hlm => hno l hl hlm]
    exact hk.2.2
  have hs : s = Intro.timeline n := by
    rw [← hcount]
    exact h.run_eq (by omega) hmb
  rw [hs, Intro.timeline_counter]
  refine ⟨by rw [BitVec.toNat_ofNat]; omega, ?_⟩
  have hc : c ≤ 3000 := min_le_right _ _
  show if c = 0 ∨ c = 3000 then _ else _
  split
  · next hedge => rw [Intro.timeline, if_pos hedge]; exact ⟨rfl, rfl, rfl, rfl⟩
  · next hedge =>
    rw [Intro.timeline, if_neg hedge]
    refine ⟨?_, rfl, ?_⟩
    · show (BitVec.ofNat 4 (2 * (c / 600) + 1)).toNat = _
      rw [BitVec.toNat_ofNat]
      omega
    · split
      · next hhalf =>
        refine ⟨?_, decide_eq_true hhalf⟩
        show (BitVec.ofNat 4 (2 * (c / 600) + 2)).toNat = _
        rw [BitVec.toNat_ofNat]
        omega
      · next hhalf => exact ⟨rfl, decide_eq_false hhalf⟩

/-- The second frame edge of a stay shows the first page. -/
theorem Intro.pages_first :
    let vs : ℕ → Bool := fun n => n % 2 == 1
    let status : ℕ → BitVec 4 := fun n => if n ≤ 2 then 1#4 else 2#4
    (Intro.run vs status Intro.clear 6).introNum1.toNat = 1 := by
  intro vs status
  have hstay : Intro.Stay vs status 2 6 := by
    refine ⟨by decide, fun k hk _ => if_neg (by omega), 0, by omega, by decide, fun k _ hka _ => ?_⟩
    rw [show status (k + 1) = 1#4 from if_pos (by omega)]
    decide
  refine (Intro.pages hstay Intro.clear (n := 2) (k := 4) ⟨by omega, by decide, by decide⟩
    (by omega) le_rfl fun l hl hlm => ?_).2.1
  obtain rfl : l = 5 := by omega
  decide

end Undertale
