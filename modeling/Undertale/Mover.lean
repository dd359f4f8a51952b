import Undertale.Clocked.Run
import Undertale.Clocked.Axis

/-!
# The sprite movers

`frisk_move`, `frisk_move2` and `heart_move` are three copies of one design with
different limits: a position and a motion register on each axis, an edge
detector on the frame clock, and a `case` over the keycode that tests the edge
of the pressed direction only.  They are one definition over `MoverParams`
here, and each module is its parameters.

Two things about the design are easy to miss.  The position moves by the motion
*register*, which is the motion decided at the tick before.  And at an edge the
pressed axis is clamped while the other axis keeps its motion, which no test
looks at.  `Mover.tick_xAxis` and `Mover.tick_yAxis` say per axis what a tick
does; every later argument about a mover goes through them.
-/

namespace Undertale

open Clocked

/-! ## Registers and parameters -/

/-- The parameter block of a mover.  `status` is the scene it moves in. -/
structure MoverParams where
  status : BitVec 4
  xInit : BitVec 10
  yInit : BitVec 10
  xMin : BitVec 10
  xMax : BitVec 10
  yMin : BitVec 10
  yMax : BitVec 10
  xStep : BitVec 10
  yStep : BitVec 10

/-- The parameters of `frisk_move`. -/
def friskMove : MoverParams where
  status := 3
  xInit := 301
  yInit := 191
  xMin := 130
  xMax := 602
  yMin := 130
  yMax := 242
  xStep := 1
  yStep := 1

/-- The parameters of `frisk_move2`. -/
def friskMove2 : MoverParams where
  status := 4
  xInit := 301
  yInit := 400
  xMin := 0
  xMax := 602
  yMin := 0
  yMax := 422
  xStep := 1
  yStep := 1

/-- The parameters of `heart_move`. -/
def heartMove : MoverParams where
  status := 5
  xInit := 319
  yInit := 317
  xMin := 251
  xMax := 390
  yMin := 252
  yMax := 366
  xStep := 1
  yStep := 1

/-- The registers of a mover. -/
structure Mover where
  xPos : BitVec 10
  xMotion : BitVec 10
  yPos : BitVec 10
  yMotion : BitVec 10
  frameClk : EdgeDetector
deriving DecidableEq, Repr

/-- The registers at power-up. -/
def Mover.zero : Mover := ⟨0#10, 0#10, 0#10, 0#10, ⟨false, false⟩⟩

/-- The inputs a mover samples at a clock edge. -/
structure MoverInputs where
  frameClk : Bool
  status : BitVec 4
  keycode : BitVec 8
deriving DecidableEq, Repr

/-! ## The next-position logic -/

/-- The four `mark` flags, at most one of which is set. -/
inductive Mark where
  | none | xmin | xmax | ymin | ymax
deriving DecidableEq, Repr

/-- What the `case (keycode)` of a tick decides: the edge flag and the next
motions. -/
structure Decision where
  mark : Mark
  xMotion : BitVec 10
  yMotion : BitVec 10

/-- The `case (keycode)` of a tick.  Key 26 is up, 4 left, 22 down, 7 right.  At
an edge the motion of the other axis is not assigned and keeps its value. -/
def Mover.decision (p : MoverParams) (keycode : BitVec 8) (r : Mover) : Decision :=
  if keycode = 26#8 then
    if r.yPos ≤ p.yMin then ⟨.ymin, r.xMotion, 0⟩ else ⟨.none, 0, ~~~p.yStep + 1⟩
  else if keycode = 4#8 then
    if r.xPos ≤ p.xMin then ⟨.xmin, 0, r.yMotion⟩ else ⟨.none, ~~~p.xStep + 1, 0⟩
  else if keycode = 22#8 then
    if p.yMax ≤ r.yPos then ⟨.ymax, r.xMotion, 0⟩ else ⟨.none, 0, p.yStep⟩
  else if keycode = 7#8 then
    if p.xMax ≤ r.xPos then ⟨.xmax, 0, r.yMotion⟩ else ⟨.none, p.xStep, 0⟩
  else ⟨.none, 0, 0⟩

/-- The registers after a frame tick. -/
def Mover.tick (p : MoverParams) (keycode : BitVec 8) (r : Mover) : Mover :=
  let d := r.decision p keycode
  { r with
    xPos := match d.mark with
      | .xmin => p.xMin
      | .xmax => p.xMax
      | _ => r.xPos + r.xMotion
    yPos := match d.mark with
      | .ymin => p.yMin
      | .ymax => p.yMax
      | _ => r.yPos + r.yMotion
    xMotion := d.xMotion
    yMotion := d.yMotion }

/-- The registers outside the scene of the mover. -/
def Mover.init (p : MoverParams) (frameClk : EdgeDetector) : Mover where
  xPos := p.xInit
  xMotion := 0
  yPos := p.yInit
  yMotion := 0
  frameClk := frameClk

/-- One clock edge of a mover. -/
def Mover.step (p : MoverParams) (i : MoverInputs) (r : Mover) : Mover :=
  let frameClk := r.frameClk.step i.frameClk
  if i.status ≠ p.status then Mover.init p frameClk
  else if r.frameClk.risingEdge then { r.tick p i.keycode with frameClk := frameClk }
  else { r with frameClk := frameClk }

/-! ## The clock edge, by case -/

section step
variable {p : MoverParams} {i : MoverInputs} {r : Mover}

@[simp] theorem Mover.step_frameClk (p : MoverParams) (i : MoverInputs) (r : Mover) :
    (r.step p i).frameClk = r.frameClk.step i.frameClk := by
  unfold Mover.step
  dsimp only
  split
  · rfl
  · split <;> rfl

theorem Mover.step_outside (h : i.status ≠ p.status) :
    r.step p i = Mover.init p (r.frameClk.step i.frameClk) := by
  simp [Mover.step, h]

theorem Mover.step_tick (h : i.status = p.status) (ht : r.frameClk.risingEdge = true) :
    r.step p i = { r.tick p i.keycode with frameClk := r.frameClk.step i.frameClk } := by
  simp [Mover.step, h, ht]

theorem Mover.step_idle (h : i.status = p.status) (ht : r.frameClk.risingEdge = false) :
    r.step p i = { r with frameClk := r.frameClk.step i.frameClk } := by
  simp [Mover.step, h, ht]

end step

/-! ## The tick, axis by axis

Each axis of a mover is an `Axis` of the clock library.  A key pushes its own
axis.  The other axis keeps its motion when the pressed axis is clamped and
stops otherwise. -/

/-- The x axis of a mover. -/
def Mover.xAxis (r : Mover) : Axis 10 := ⟨r.xPos, r.xMotion⟩

/-- The y axis of a mover. -/
def Mover.yAxis (r : Mover) : Axis 10 := ⟨r.yPos, r.yMotion⟩

/-- What a key asks of the x axis. -/
def Mover.xPush (p : MoverParams) (keycode : BitVec 8) (r : Mover) : Push :=
  if keycode = 4#8 then .minus
  else if keycode = 7#8 then .plus
  else if (keycode = 26#8 ∧ r.yPos ≤ p.yMin) ∨ (keycode = 22#8 ∧ p.yMax ≤ r.yPos) then .hold
  else .release

/-- What a key asks of the y axis. -/
def Mover.yPush (p : MoverParams) (keycode : BitVec 8) (r : Mover) : Push :=
  if keycode = 26#8 then .minus
  else if keycode = 22#8 then .plus
  else if (keycode = 4#8 ∧ r.xPos ≤ p.xMin) ∨ (keycode = 7#8 ∧ p.xMax ≤ r.xPos) then .hold
  else .release

/-- Case analysis on the keycode of a tick. -/
theorem keycode_cases (keycode : BitVec 8) :
    keycode = 26#8 ∨ keycode = 4#8 ∨ keycode = 22#8 ∨ keycode = 7#8 ∨
      (keycode ≠ 26#8 ∧ keycode ≠ 4#8 ∧ keycode ≠ 22#8 ∧ keycode ≠ 7#8) := by
  rcases eq_or_ne keycode 26#8 with h1 | h1
  · exact .inl h1
  · rcases eq_or_ne keycode 4#8 with h2 | h2
    · exact .inr (.inl h2)
    · rcases eq_or_ne keycode 22#8 with h3 | h3
      · exact .inr (.inr (.inl h3))
      · rcases eq_or_ne keycode 7#8 with h4 | h4
        · exact .inr (.inr (.inr (.inl h4)))
        · exact .inr (.inr (.inr (.inr ⟨h1, h2, h3, h4⟩)))

/-- The steps of a mover are one pixel. -/
def MoverParams.UnitStep (p : MoverParams) : Prop := p.xStep = 1#10 ∧ p.yStep = 1#10

theorem friskMove_unitStep : friskMove.UnitStep := ⟨rfl, rfl⟩
theorem friskMove2_unitStep : friskMove2.UnitStep := ⟨rfl, rfl⟩
theorem heartMove_unitStep : heartMove.UnitStep := ⟨rfl, rfl⟩

section tick
variable {p : MoverParams} (hp : p.UnitStep) (keycode : BitVec 8) (r : Mover)
include hp

/-- The tick of a mover ticks its x axis. -/
theorem Mover.tick_xAxis :
    (r.tick p keycode).xAxis = r.xAxis.tick p.xMin p.xMax (r.xPush p keycode) := by
  unfold Mover.tick Mover.decision Mover.xAxis Mover.xPush Axis.tick
  rcases keycode_cases keycode with rfl | rfl | rfl | rfl | ⟨h1, h2, h3, h4⟩
  · by_cases h : r.yPos ≤ p.yMin <;> simp [h]
  · by_cases h : r.xPos ≤ p.xMin <;> simp [h, hp.1]
  · by_cases h : p.yMax ≤ r.yPos <;> simp [h]
  · by_cases h : p.xMax ≤ r.xPos <;> simp [h, hp.1]
  · simp [h1, h2, h3, h4]

/-- The tick of a mover ticks its y axis. -/
theorem Mover.tick_yAxis :
    (r.tick p keycode).yAxis = r.yAxis.tick p.yMin p.yMax (r.yPush p keycode) := by
  unfold Mover.tick Mover.decision Mover.yAxis Mover.yPush Axis.tick
  rcases keycode_cases keycode with rfl | rfl | rfl | rfl | ⟨h1, h2, h3, h4⟩
  · by_cases h : r.yPos ≤ p.yMin <;> simp [h, hp.2]
  · by_cases h : r.xPos ≤ p.xMin <;> simp [h]
  · by_cases h : p.yMax ≤ r.yPos <;> simp [h, hp.2]
  · by_cases h : p.xMax ≤ r.xPos <;> simp [h]
  · simp [h1, h2, h3, h4]

end tick

/-! ## Unit motions -/

/-- Both motion registers hold a unit step. -/
def Mover.Unit (r : Mover) : Prop := r.xAxis.Unit ∧ r.yAxis.Unit

theorem Mover.unit_init (p : MoverParams) (e : EdgeDetector) : (Mover.init p e).Unit :=
  ⟨.inl rfl, .inl rfl⟩

/-- A clock edge in the scene of the mover keeps the motions unit steps. -/
theorem Mover.Unit.step {p : MoverParams} (hp : p.UnitStep) {i : MoverInputs} {r : Mover}
    (h : r.Unit) : (r.step p i).Unit := by
  rcases eq_or_ne i.status p.status with hs | hs
  · cases ht : r.frameClk.risingEdge with
    | true =>
        rw [Mover.step_tick hs ht]
        have hx := h.1.tick p.xMin p.xMax (r.xPush p i.keycode)
        have hy := h.2.tick p.yMin p.yMax (r.yPush p i.keycode)
        rw [← Mover.tick_xAxis hp] at hx
        rw [← Mover.tick_yAxis hp] at hy
        exact ⟨hx, hy⟩
    | false => rw [Mover.step_idle hs ht]; exact h
  · rw [Mover.step_outside hs]; exact Mover.unit_init p _

/-- In a run that starts outside the scene of the mover its motions are unit
steps in every later cycle, whatever the registers held at the start. -/
theorem Mover.unit_of_run {p : MoverParams} (hp : p.UnitStep) {i : ℕ → MoverInputs} {r : ℕ → Mover}
    (hr : ∀ n, r (n + 1) = (r n).step p (i n)) (h0 : (i 0).status ≠ p.status) :
    ∀ n, (i n).status = p.status → (r n).Unit := by
  refine holds_inside h0 (fun n hn _ => ?_) fun n _ _ hunit => ?_
  · rw [hr n, Mover.step_outside hn]
    exact Mover.unit_init p _
  · rw [hr n]
    exact hunit.step hp

/-! ## Leaving the starting point

The first tick of a scene only loads the motions, so a mover stands at its
starting point until the second one. -/

/-- The mover stands at its starting point. -/
def Mover.AtInit (p : MoverParams) (r : Mover) : Prop := r.xPos = p.xInit ∧ r.yPos = p.yInit

theorem Mover.atInit_init (p : MoverParams) (e : EdgeDetector) : (Mover.init p e).AtInit p :=
  ⟨rfl, rfl⟩

/-- The starting point is off the limits. -/
structure MoverParams.InitInside (p : MoverParams) : Prop where
  xMin_lt : p.xMin < p.xInit
  lt_xMax : p.xInit < p.xMax
  yMin_lt : p.yMin < p.yInit
  lt_yMax : p.yInit < p.yMax

theorem friskMove2_initInside : friskMove2.InitInside where
  xMin_lt := by decide
  lt_xMax := by decide
  yMin_lt := by decide
  lt_yMax := by decide

/-- One edge does not move a mover from its starting point. -/
theorem Mover.atInit_step_init {p : MoverParams} (hp : p.UnitStep) (hin : p.InitInside)
    (i : MoverInputs) (e : EdgeDetector) : ((Mover.init p e).step p i).AtInit p := by
  rcases eq_or_ne i.status p.status with hs | hs
  · cases ht : e.risingEdge with
    | false => rw [Mover.step_idle hs ht]; exact Mover.atInit_init p _
    | true =>
        rw [Mover.step_tick hs ht]
        have hx : ¬ (Mover.init p e).xAxis.Clamps p.xMin p.xMax
            ((Mover.init p e).xPush p i.keycode) := by
          rintro (⟨-, h⟩ | ⟨-, h⟩)
          · exact absurd hin.xMin_lt (BitVec.not_lt.mpr h)
          · exact absurd hin.lt_xMax (BitVec.not_lt.mpr h)
        have hy : ¬ (Mover.init p e).yAxis.Clamps p.yMin p.yMax
            ((Mover.init p e).yPush p i.keycode) := by
          rintro (⟨-, h⟩ | ⟨-, h⟩)
          · exact absurd hin.yMin_lt (BitVec.not_lt.mpr h)
          · exact absurd hin.lt_yMax (BitVec.not_lt.mpr h)
        have hxPos := Axis.tick_pos hx
        have hyPos := Axis.tick_pos hy
        rw [← Mover.tick_xAxis hp] at hxPos
        rw [← Mover.tick_yAxis hp] at hyPos
        exact ⟨hxPos.trans (BitVec.add_zero _), hyPos.trans (BitVec.add_zero _)⟩
  · rw [Mover.step_outside hs]; exact Mover.atInit_init p _

/-- After a cycle outside its scene a mover stands at its starting point until
two cycles after the frame clock has risen. -/
theorem Mover.atInit_of_no_rises {p : MoverParams} (hp : p.UnitStep) (hin : p.InitInside)
    {i : ℕ → MoverInputs} {r : ℕ → Mover} (hr : ∀ n, r (n + 1) = (r n).step p (i n)) {a n : ℕ}
    (ha : (i a).status ≠ p.status)
    (hno : ∀ k, a ≤ k → k < n → ¬ Rises (fun k => (i k).frameClk) k) {k : ℕ} (hak : a < k)
    (hkn : k ≤ n + 2) : (r k).AtInit p := by
  induction k, hak using Nat.le_induction with
  | base => rw [hr a, Mover.step_outside ha]; exact Mover.atInit_init p _
  | succ k hak ih =>
      rw [hr k]
      rcases eq_or_ne (i k).status p.status with hs | hs
      · rcases Nat.lt_or_eq_of_le hak with hlt | rfl
        · obtain ⟨j, rfl⟩ : ∃ j, k = j + 2 := ⟨k - 2, by omega⟩
          have ht : (r (j + 2)).frameClk.risingEdge = false :=
            risingEdge_eq_false (e := fun k => (r k).frameClk)
              (fun n => by rw [hr n, Mover.step_frameClk]) (hno j (by omega) (by omega))
          rw [Mover.step_idle hs ht]
          exact ih (by omega)
        · rw [hr a, Mover.step_outside ha]
          exact Mover.atInit_step_init hp hin _ _
      · rw [Mover.step_outside hs]; exact Mover.atInit_init p _

end Undertale
