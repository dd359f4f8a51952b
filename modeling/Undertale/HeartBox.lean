import Undertale.Heart

/-!
# The heart and the battle box

The limits of `heart_move` are meant to hold the heart in the battle box.  They
do as long as no tick overruns an edge: moves the heart by a motion left over
from the tick before although the heart already stands on the edge the motion
points across, and the key of this tick does not clamp that axis.  A stale
motion survives for one tick after the key that caused it, and for as long as
the key pushes the other axis against its own edge.

`Mover.inBox_iff` says this for every mover whose limits leave room for one step
on both sides.  The heart is the case `Heart.inBox_iff`.
-/

namespace Undertale

open Clocked

/-! ## Boxes -/

/-- The mover stands within its limits. -/
def Mover.InBox (p : MoverParams) (r : Mover) : Prop :=
  (p.xMin ≤ r.xPos ∧ r.xPos ≤ p.xMax) ∧ (p.yMin ≤ r.yPos ∧ r.yPos ≤ p.yMax)

instance (p : MoverParams) (r : Mover) : Decidable (r.InBox p) :=
  inferInstanceAs (Decidable (_ ∧ _))

/-- A frame tick is due and it overruns an edge on one of the axes. -/
def Mover.Overruns (p : MoverParams) (keycode : BitVec 8) (r : Mover) : Prop :=
  r.frameClk.risingEdge = true ∧
    (r.xAxis.Overruns p.xMin p.xMax (r.xPush p keycode) ∨
      r.yAxis.Overruns p.yMin p.yMax (r.yPush p keycode))

/-- The limits can be crossed by one step without wrapping, and the mover starts
within them. -/
structure MoverParams.Roomy (p : MoverParams) : Prop where
  unitStep : p.UnitStep
  xMin_pos : 0 < p.xMin.toNat
  yMin_pos : 0 < p.yMin.toNat
  xMax_lt : p.xMax.toNat + 1 < 2 ^ 10
  yMax_lt : p.yMax.toNat + 1 < 2 ^ 10
  init_inBox (e : EdgeDetector) : (Mover.init p e).InBox p

theorem heartMove_roomy : heartMove.Roomy where
  unitStep := heartMove_unitStep
  xMin_pos := by decide
  yMin_pos := by decide
  xMax_lt := by decide
  yMax_lt := by decide
  init_inBox _ := by simp [Mover.InBox, Mover.init, heartMove]

/-! ## One clock edge -/

section step
variable {p : MoverParams} {i : MoverInputs} {r : Mover}

/-- In the scene of the mover, a clock edge keeps it in the box exactly when it
does not overrun. -/
theorem Mover.inBox_step_iff (hp : p.Roomy) (hs : i.status = p.status) (hu : r.Unit)
    (hb : r.InBox p) : (r.step p i).InBox p ↔ ¬ r.Overruns p i.keycode := by
  cases ht : r.frameClk.risingEdge with
  | false =>
      rw [Mover.step_idle hs ht]
      have hno : ¬ r.Overruns p i.keycode := fun ho => by
        have := ho.1
        rw [ht] at this
        cases this
      exact iff_of_true hb hno
  | true =>
      have hx := Axis.within_tick_iff (k := r.xPush p i.keycode) hp.xMin_pos hp.xMax_lt hu.1 hb.1
      have hy := Axis.within_tick_iff (k := r.yPush p i.keycode) hp.yMin_pos hp.yMax_lt hu.2 hb.2
      rw [← Mover.tick_xAxis hp.unitStep] at hx
      rw [← Mover.tick_yAxis hp.unitStep] at hy
      have hbox : (r.step p i).InBox p ↔
          (r.tick p i.keycode).xAxis.Within p.xMin p.xMax ∧
            (r.tick p i.keycode).yAxis.Within p.yMin p.yMax := by
        rw [Mover.step_tick hs ht]
        exact Iff.rfl
      rw [hbox, hx, hy, Mover.Overruns, not_and]
      simp [ht]

end step

/-! ## Runs -/

/-- Over a whole run that starts outside the scene of the mover, it is in the box
in every cycle of its scene exactly when no edge inside the scene overruns. -/
theorem Mover.inBox_iff {p : MoverParams} (hp : p.Roomy) {i : ℕ → MoverInputs} {r : ℕ → Mover}
    (hr : ∀ n, r (n + 1) = (r n).step p (i n)) (h0 : (i 0).status ≠ p.status) :
    (∀ n, (i n).status = p.status → (r n).InBox p) ↔
      ∀ n, (i n).status = p.status → (i (n + 1)).status = p.status →
        ¬ (r n).Overruns p (i n).keycode := by
  have hunit := Mover.unit_of_run hp.unitStep hr h0
  constructor
  · intro hbox n hn hn'
    have hstep := hbox (n + 1) hn'
    rw [hr n] at hstep
    exact (Mover.inBox_step_iff hp hn (hunit n hn) (hbox n hn)).mp hstep
  · intro hno
    refine holds_inside h0 (fun n hn _ => ?_) fun n hn hn' hbox => ?_
    · rw [hr n, Mover.step_outside hn]
      exact hp.init_inBox _
    · rw [hr n]
      exact (Mover.inBox_step_iff hp hn (hunit n hn) hbox).mpr (hno n hn hn')

/-! ## The heart -/

/-- A run of `heart_move` from the registers `r` on the inputs `i`. -/
def Heart.run (i : ℕ → MoverInputs) (r : Heart) : ℕ → Heart :=
  Clocked.run (fun n => Heart.step (i n)) r

theorem Heart.run_mover (i : ℕ → MoverInputs) (r : Heart) (n : ℕ) :
    (Heart.run i r (n + 1)).mover = (Heart.run i r n).mover.step heartMove (i n) := rfl

/-- The heart stands in the battle box. -/
def Heart.InBox (r : Heart) : Prop :=
  (251 ≤ r.mover.xPos.toNat ∧ r.mover.xPos.toNat ≤ 390) ∧
    (252 ≤ r.mover.yPos.toNat ∧ r.mover.yPos.toNat ≤ 366)

instance (r : Heart) : Decidable r.InBox := inferInstanceAs (Decidable (_ ∧ _))

theorem Heart.inBox_iff_mover (r : Heart) : r.InBox ↔ r.mover.InBox heartMove := by
  simp [Heart.InBox, Mover.InBox, heartMove, BitVec.le_def]

/-- A run of the heart that starts outside the battle stays in the battle box
throughout every battle exactly when no clock edge inside a battle overruns. -/
theorem Heart.confined_iff (i : ℕ → MoverInputs) (r : Heart) (h0 : (i 0).status ≠ 5#4) :
    (∀ n, (i n).status = 5#4 → (Heart.run i r n).InBox) ↔
      ∀ n, (i n).status = 5#4 → (i (n + 1)).status = 5#4 →
        ¬ (Heart.run i r n).mover.Overruns heartMove (i n).keycode := by
  have h := Mover.inBox_iff (r := fun n => (Heart.run i r n).mover) heartMove_roomy
    (Heart.run_mover i r) h0
  simp only [Heart.inBox_iff_mover]
  exact h

/-- Down for fifty frames, then no key: the fifty-first tick still applies the
last motion. -/
def overrunInputs (n : ℕ) : MoverInputs where
  frameClk := n % 2 == 1
  status := if n = 0 then 4#4 else 5#4
  keycode := if n < 102 then 22#8 else 0#8

theorem Heart.overrunInputs_overruns :
    ¬ ∀ n, (overrunInputs n).status = 5#4 → (overrunInputs (n + 1)).status = 5#4 →
        ¬ (Heart.run overrunInputs Heart.zero n).mover.Overruns heartMove
          (overrunInputs n).keycode := by
  intro h
  have hbox := (Heart.confined_iff overrunInputs Heart.zero (by decide)).mpr h 103 (by decide)
  revert hbox
  decide +kernel

/-- The heart leaves the box at its lower edge. -/
theorem Heart.not_confined :
    ¬ ∀ (i : ℕ → MoverInputs) (r : Heart), (i 0).status ≠ 5#4 →
      ∀ n, (i n).status = 5#4 → (Heart.run i r n).InBox := by
  intro h
  have hbox := h overrunInputs Heart.zero (by decide) 103 (by decide)
  revert hbox
  decide +kernel

end Undertale
