import Undertale.Mover

/-!
# The heart

`heart_move` is a mover with one addition: while the battle lasts, `PosXH` and
`PosYH` are loaded with the position *before* the edge, so they follow the
position one clock later.  Outside the battle they are not assigned and keep
whatever the last battle left in them.  The collision test reads the copies.
-/

namespace Undertale

open Clocked

/-- The registers of `heart_move`. -/
@[ext]
structure Heart where
  mover : Mover
  posXH : BitVec 10
  posYH : BitVec 10
deriving DecidableEq, Repr

/-- The registers at power-up. -/
def Heart.zero : Heart := ⟨Mover.zero, 0#10, 0#10⟩

/-- One clock edge of `heart_move`. -/
def Heart.step (i : MoverInputs) (r : Heart) : Heart where
  mover := r.mover.step heartMove i
  posXH := if i.status ≠ heartMove.status then r.posXH else r.mover.xPos
  posYH := if i.status ≠ heartMove.status then r.posYH else r.mover.yPos

@[simp] theorem Heart.step_mover (i : MoverInputs) (r : Heart) :
    (r.step i).mover = r.mover.step heartMove i := rfl

theorem Heart.step_posXH {i : MoverInputs} (h : i.status = 5#4) (r : Heart) :
    (r.step i).posXH = r.mover.xPos := by simp [Heart.step, h, heartMove]

theorem Heart.step_posYH {i : MoverInputs} (h : i.status = 5#4) (r : Heart) :
    (r.step i).posYH = r.mover.yPos := by simp [Heart.step, h, heartMove]

theorem Heart.step_posXH_outside {i : MoverInputs} (h : i.status ≠ 5#4) (r : Heart) :
    (r.step i).posXH = r.posXH := by simp [Heart.step, h, heartMove]

theorem Heart.step_posYH_outside {i : MoverInputs} (h : i.status ≠ 5#4) (r : Heart) :
    (r.step i).posYH = r.posYH := by simp [Heart.step, h, heartMove]

end Undertale
