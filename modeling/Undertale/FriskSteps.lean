import Undertale.Frisk

/-!
# Frisk's steps

A clock edge should move Frisk by at most one pixel on each axis.  It does
unless the tick of that edge jumps: it clamps an axis that has already run more
than one pixel past its limit, or it carries an axis that stands at the end of
the ten-bit range across it.  Both come from the motion the tick inherits.  With
a minimum of 0 one inherited step is enough to wrap `frisk_move2`; a key held
against the edge of the other axis inherits as many steps as the player likes.
-/

namespace Undertale

open Clocked

/-- A frame tick is due and it jumps on one of the axes. -/
def Mover.Jumps (p : MoverParams) (keycode : BitVec 8) (r : Mover) : Prop :=
  r.frameClk.risingEdge = true ∧
    (r.xAxis.Jumps p.xMin p.xMax (r.xPush p keycode) ∨
      r.yAxis.Jumps p.yMin p.yMax (r.yPush p keycode))

/-- Two positions of a mover differ by at most one on each axis, as numbers. -/
def Mover.NearTo (r r' : Mover) : Prop := Near r.xPos r'.xPos ∧ Near r.yPos r'.yPos

/-- In its scene, a clock edge moves a mover by at most one pixel on each axis
exactly when it does not jump. -/
theorem Mover.nearTo_step_iff {p : MoverParams} (hp : p.UnitStep) {i : MoverInputs} {r : Mover}
    (hs : i.status = p.status) (hu : r.Unit) :
    r.NearTo (r.step p i) ↔ ¬ r.Jumps p i.keycode := by
  cases ht : r.frameClk.risingEdge with
  | false =>
      rw [Mover.step_idle hs ht]
      have hno : ¬ r.Jumps p i.keycode := fun hj => by
        have := hj.1
        rw [ht] at this
        cases this
      exact iff_of_true ⟨Near.refl _, Near.refl _⟩ hno
  | true =>
      have hx := Axis.near_tick_iff p.xMin p.xMax (r.xPush p i.keycode) (by decide) hu.1
      have hy := Axis.near_tick_iff p.yMin p.yMax (r.yPush p i.keycode) (by decide) hu.2
      rw [← Mover.tick_xAxis hp] at hx
      rw [← Mover.tick_yAxis hp] at hy
      have hnear : r.NearTo (r.step p i) ↔
          Near r.xAxis.pos (r.tick p i.keycode).xAxis.pos ∧
            Near r.yAxis.pos (r.tick p i.keycode).yAxis.pos := by
        rw [Mover.step_tick hs ht]
        exact Iff.rfl
      rw [hnear, hx, hy, Mover.Jumps, not_and]
      simp [ht]

/-! ## Runs -/

/-- A run of a mover from the registers `r` on the inputs `i`. -/
def Mover.run (p : MoverParams) (i : ℕ → MoverInputs) (r : Mover) : ℕ → Mover :=
  Clocked.run (fun n => Mover.step p (i n)) r

theorem Mover.run_succ (p : MoverParams) (i : ℕ → MoverInputs) (r : Mover) (n : ℕ) :
    Mover.run p i r (n + 1) = (Mover.run p i r n).step p (i n) := rfl

/-- Every clock edge that keeps the status in the scene of the mover moves it by
at most one pixel on each axis. -/
def Mover.Steady (p : MoverParams) (i : ℕ → MoverInputs) (r : Mover) : Prop :=
  ∀ n, (i n).status = p.status → (i (n + 1)).status = p.status →
    (Mover.run p i r n).NearTo (Mover.run p i r (n + 1))

/-- No clock edge that keeps the status in the scene of the mover jumps. -/
def Mover.NeverJumps (p : MoverParams) (i : ℕ → MoverInputs) (r : Mover) : Prop :=
  ∀ n, (i n).status = p.status → (i (n + 1)).status = p.status →
    ¬ (Mover.run p i r n).Jumps p (i n).keycode

theorem Mover.steady_iff_neverJumps {p : MoverParams} (hp : p.UnitStep) {i : ℕ → MoverInputs}
    {r : Mover} (h0 : (i 0).status ≠ p.status) : Mover.Steady p i r ↔ Mover.NeverJumps p i r := by
  have hunit := Mover.unit_of_run hp (Mover.run_succ p i r) h0
  constructor
  · intro h n hn hn'
    exact (Mover.nearTo_step_iff hp hn (hunit n hn)).mp (h n hn hn')
  · intro h n hn hn'
    exact (Mover.nearTo_step_iff hp hn (hunit n hn)).mpr (h n hn hn')

/-- On either map, over a whole run that starts in another scene, Frisk moves by
at most one pixel a clock on each axis exactly when no clock edge jumps. -/
theorem Frisk.steady_iff (i : ℕ → MoverInputs) (r : Mover) :
    ((i 0).status ≠ 3#4 → (Mover.Steady friskMove i r ↔ Mover.NeverJumps friskMove i r)) ∧
      ((i 0).status ≠ 4#4 → (Mover.Steady friskMove2 i r ↔ Mover.NeverJumps friskMove2 i r)) :=
  ⟨fun h => Mover.steady_iff_neverJumps friskMove_unitStep h,
    fun h => Mover.steady_iff_neverJumps friskMove2_unitStep h⟩

/-- Up to the wall, one step left, and then up again: Frisk slides along the top
edge of the first map past its left limit, and the next left key takes him back. -/
def clampInputs (n : ℕ) : MoverInputs where
  frameClk := n % 2 == 1
  status := if n = 0 then 2#4 else 3#4
  keycode := if n = 126 ∨ 474 ≤ n then 4#8 else 26#8

/-- Left until Frisk stands at column 0 of the second map, then no key. -/
def wrapInputs (n : ℕ) : MoverInputs where
  frameClk := n % 2 == 1
  status := if n = 0 then 3#4 else 4#4
  keycode := if n < 606 then 4#8 else 0#8

/-- The slide ends in a clamp of two pixels, the walk in a wrap. -/
theorem Frisk.jumps :
    ¬ Mover.NeverJumps friskMove clampInputs Mover.zero ∧
      ¬ Mover.NeverJumps friskMove2 wrapInputs Mover.zero := by
  constructor
  · intro h
    have hnear := ((Frisk.steady_iff clampInputs Mover.zero).1 (by decide)).mpr h 474 (by decide)
      (by decide)
    revert hnear
    unfold Mover.NearTo Near
    decide +kernel
  · intro h
    have hnear := ((Frisk.steady_iff wrapInputs Mover.zero).2 (by decide)).mpr h 606 (by decide)
      (by decide)
    revert hnear
    unfold Mover.NearTo Near
    decide +kernel

/-- The next tick takes Frisk from column 0 to column 1023. -/
theorem Frisk.not_steady :
    ¬ ∀ (i : ℕ → MoverInputs) (r : Mover),
      ((i 0).status ≠ 3#4 → Mover.Steady friskMove i r) ∧
        ((i 0).status ≠ 4#4 → Mover.Steady friskMove2 i r) := by
  intro h
  have hnear := (h wrapInputs Mover.zero).2 (by decide) 606 (by decide) (by decide)
  revert hnear
  unfold Mover.NearTo Near
  decide +kernel

end Undertale
