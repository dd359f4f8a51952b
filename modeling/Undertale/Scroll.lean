import Undertale.Mover

/-!
# The scrolling backgrounds

`map1` and `door` scroll against the player's keys: key 7 (right) moves them
left and key 4 (left) moves them right.  Each is a mover with one axis, and the
two are one definition here over `ScrollParams`.
-/

namespace Undertale

open Clocked

/-- The parameter block of a scrolling module. -/
structure ScrollParams where
  status : BitVec 4
  xInit : BitVec 10
  xMin : BitVec 10
  xMax : BitVec 10
  xStep : BitVec 10

/-- The parameters of `map1`. -/
def map1 : ScrollParams where
  status := 3#4
  xInit := 639#10
  xMin := 399#10
  xMax := 639#10
  xStep := 1#10

/-- The parameters of `door`. -/
def door : ScrollParams where
  status := 3#4
  xInit := 698#10
  xMin := 458#10
  xMax := 698#10
  xStep := 1#10

/-- The registers of a scrolling module. -/
structure Scroll where
  xPos : BitVec 10
  xMotion : BitVec 10
  frameClk : EdgeDetector
deriving DecidableEq, Repr

/-- The registers at power-up. -/
def Scroll.zero : Scroll := ⟨0#10, 0#10, ⟨false, false⟩⟩

/-- The registers after a frame tick. -/
def Scroll.tick (p : ScrollParams) (keycode : BitVec 8) (r : Scroll) : Scroll :=
  if keycode = 7#8 then
    if r.xPos ≤ p.xMin then { r with xPos := p.xMin, xMotion := 0#10 }
    else { r with xPos := r.xPos + r.xMotion, xMotion := ~~~p.xStep + 1#10 }
  else if keycode = 4#8 then
    if p.xMax ≤ r.xPos then { r with xPos := p.xMax, xMotion := 0#10 }
    else { r with xPos := r.xPos + r.xMotion, xMotion := p.xStep }
  else { r with xPos := r.xPos + r.xMotion, xMotion := 0#10 }

/-- The registers outside the scene of the module. -/
def Scroll.init (p : ScrollParams) (frameClk : EdgeDetector) : Scroll where
  xPos := p.xInit
  xMotion := 0#10
  frameClk := frameClk

/-- One clock edge of a scrolling module. -/
def Scroll.step (p : ScrollParams) (i : MoverInputs) (r : Scroll) : Scroll :=
  let frameClk := r.frameClk.step i.frameClk
  if i.status ≠ p.status then Scroll.init p frameClk
  else if r.frameClk.risingEdge then { r.tick p i.keycode with frameClk := frameClk }
  else { r with frameClk := frameClk }

/-! ## The clock edge, by case -/

section step
variable {p : ScrollParams} {i : MoverInputs} {r : Scroll}

@[simp] theorem Scroll.step_frameClk (p : ScrollParams) (i : MoverInputs) (r : Scroll) :
    (r.step p i).frameClk = r.frameClk.step i.frameClk := by
  unfold Scroll.step
  dsimp only
  split
  · rfl
  · split <;> rfl

theorem Scroll.step_outside (h : i.status ≠ p.status) :
    r.step p i = Scroll.init p (r.frameClk.step i.frameClk) := by
  simp [Scroll.step, h]

theorem Scroll.step_tick (h : i.status = p.status) (ht : r.frameClk.risingEdge = true) :
    r.step p i = { r.tick p i.keycode with frameClk := r.frameClk.step i.frameClk } := by
  simp [Scroll.step, h, ht]

theorem Scroll.step_idle (h : i.status = p.status) (ht : r.frameClk.risingEdge = false) :
    r.step p i = { r with frameClk := r.frameClk.step i.frameClk } := by
  simp [Scroll.step, h, ht]

end step

/-! ## The tick as an axis -/

/-- The axis of a scrolling module. -/
def Scroll.xAxis (r : Scroll) : Axis 10 := ⟨r.xPos, r.xMotion⟩

/-- What a key asks of the axis. -/
def scrollPush (keycode : BitVec 8) : Push :=
  if keycode = 7#8 then .minus else if keycode = 4#8 then .plus else .release

/-- The tick of a scrolling module ticks its axis. -/
theorem Scroll.tick_xAxis {p : ScrollParams} (hp : p.xStep = 1#10) (keycode : BitVec 8)
    (r : Scroll) :
    (r.tick p keycode).xAxis = r.xAxis.tick p.xMin p.xMax (scrollPush keycode) := by
  unfold Scroll.tick Scroll.xAxis scrollPush Axis.tick
  rcases eq_or_ne keycode 7#8 with h7 | h7
  · by_cases h : r.xPos ≤ p.xMin <;> simp [h7, h, hp]
  · rcases eq_or_ne keycode 4#8 with h4 | h4
    · by_cases h : p.xMax ≤ r.xPos <;> simp [h4, h, hp]
    · simp [h7, h4]

theorem scrollPush_ne_hold (keycode : BitVec 8) : scrollPush keycode ≠ .hold := by
  unfold scrollPush
  split
  · exact Push.noConfusion
  · split <;> exact Push.noConfusion

/-! ## How far a background scrolls -/

/-- The steps are one pixel and the limits leave room for one on both sides. -/
structure ScrollParams.Roomy (p : ScrollParams) : Prop where
  unitStep : p.xStep = 1#10
  xMin_pos : 0 < p.xMin.toNat
  xMin_le : p.xMin.toNat ≤ p.xMax.toNat
  xMax_lt : p.xMax.toNat + 1 < 2 ^ 10
  init_ge : p.xMin.toNat ≤ p.xInit.toNat
  init_le : p.xInit.toNat ≤ p.xMax.toNat

theorem map1_roomy : map1.Roomy where
  unitStep := rfl
  xMin_pos := by decide
  xMin_le := by decide
  xMax_lt := by decide
  init_ge := by decide
  init_le := by decide

theorem door_roomy : door.Roomy where
  unitStep := rfl
  xMin_pos := by decide
  xMin_le := by decide
  xMax_lt := by decide
  init_ge := by decide
  init_le := by decide

/-- The scroll position is at most one pixel past its limits and not on its way
further out, and the motion is a unit step. -/
def Scroll.Tame (p : ScrollParams) (r : Scroll) : Prop := r.xAxis.Unit ∧ r.xAxis.Tame p.xMin p.xMax

theorem Scroll.tame_init {p : ScrollParams} (hp : p.Roomy) (e : EdgeDetector) :
    (Scroll.init p e).Tame p := by
  have h1 := hp.init_ge
  have h2 := hp.init_le
  refine ⟨.inl rfl, ⟨?_, ?_⟩, ?_, ?_⟩
  · show p.xMin.toNat ≤ p.xInit.toNat + 1; omega
  · show p.xInit.toNat ≤ p.xMax.toNat + 1; omega
  · intro h; exact absurd (show p.xInit.toNat < p.xMin.toNat from h) (by omega)
  · intro h; exact absurd (show p.xMax.toNat < p.xInit.toNat from h) (by omega)

/-- A clock edge keeps the scroll position tame. -/
theorem Scroll.Tame.step {p : ScrollParams} (hp : p.Roomy) {i : MoverInputs} {r : Scroll}
    (h : r.Tame p) : (r.step p i).Tame p := by
  rcases eq_or_ne i.status p.status with hs | hs
  · cases ht : r.frameClk.risingEdge with
    | true =>
        rw [Scroll.step_tick hs ht]
        have hu := h.1.tick p.xMin p.xMax (scrollPush i.keycode)
        have htame := h.2.tick hp.xMin_pos hp.xMin_le hp.xMax_lt (scrollPush_ne_hold i.keycode) h.1
        rw [← Scroll.tick_xAxis hp.unitStep] at hu htame
        exact ⟨hu, htame⟩
    | false => rw [Scroll.step_idle hs ht]; exact h
  · rw [Scroll.step_outside hs]; exact Scroll.tame_init hp _

/-- A run of a scrolling module from the registers `r` on the inputs `i`. -/
def Scroll.run (p : ScrollParams) (i : ℕ → MoverInputs) (r : Scroll) : ℕ → Scroll :=
  Clocked.run (fun n => Scroll.step p (i n)) r

theorem Scroll.run_succ (p : ScrollParams) (i : ℕ → MoverInputs) (r : Scroll) (n : ℕ) :
    Scroll.run p i r (n + 1) = (Scroll.run p i r n).step p (i n) := rfl

/-- In a run that starts outside the scene of the module the scroll position is
tame in every later cycle, whatever the registers held at the start. -/
theorem Scroll.tame_of_run {p : ScrollParams} (hp : p.Roomy) {i : ℕ → MoverInputs} {r : ℕ → Scroll}
    (hr : ∀ n, r (n + 1) = (r n).step p (i n)) (h0 : (i 0).status ≠ p.status) (n : ℕ) :
    (r (n + 1)).Tame p := by
  induction n with
  | zero => rw [hr 0, Scroll.step_outside h0]; exact Scroll.tame_init hp _
  | succ n ih => rw [hr (n + 1)]; exact ih.step hp

end Undertale
