import Undertale.Scroll

/-!
# Frisk

`frisk_move` and `frisk_move2` move Frisk over the two maps.  Each also raises
the flag that lets the scene machine go on: `arrived_door` and
`arrived_monster` are tests of Frisk's registers against a box fixed on the
screen.
-/

namespace Undertale

/-- `arrived_door` of `frisk_move`. -/
def arrivedDoor (status : BitVec 4) (r : Mover) : Bool :=
  520#10 ≤ r.xPos && r.xPos < 580#10 && 130#10 ≤ r.yPos && r.yPos < 140#10 && status == 3#4

/-- `arrived_monster` of `frisk_move2`. -/
def arrivedMonster (status : BitVec 4) (r : Mover) : Bool :=
  260#10 ≤ r.xPos && r.xPos < 340#10 && 146#10 ≤ r.yPos && r.yPos < 206#10 && status == 4#4

theorem arrivedDoor_iff {status : BitVec 4} {r : Mover} :
    arrivedDoor status r = true ↔
      (520 ≤ r.xPos.toNat ∧ r.xPos.toNat < 580) ∧
        (130 ≤ r.yPos.toNat ∧ r.yPos.toNat < 140) ∧ status = 3#4 := by
  simp [arrivedDoor, BitVec.le_def, BitVec.lt_def, and_assoc]

theorem arrivedMonster_iff {status : BitVec 4} {r : Mover} :
    arrivedMonster status r = true ↔
      (260 ≤ r.xPos.toNat ∧ r.xPos.toNat < 340) ∧
        (146 ≤ r.yPos.toNat ∧ r.yPos.toNat < 206) ∧ status = 4#4 := by
  simp [arrivedMonster, BitVec.le_def, BitVec.lt_def, and_assoc]

/-- Frisk's starting point on the second map is not at the monster. -/
theorem not_arrivedMonster_of_atInit {r : Mover} (h : r.AtInit friskMove2) :
    arrivedMonster 4#4 r ≠ true := by
  intro ha
  obtain ⟨-, hy, -⟩ := arrivedMonster_iff.mp ha
  rw [h.2] at hy
  exact absurd hy (by decide)

end Undertale
