import Mathlib.Data.Nat.Notation

/-!
# The scene machine

`state` is the only module of the game that sees the player's reset.  Its
register holds the current scene and its outputs are the four-bit `status` that
every other module reads.  Two of its inputs come from the frame-clock domain
(`hp`, `timeUp`) and two from the sprite movers (`arrivedDoor`,
`arrivedMonster`).
-/

namespace Undertale

/-- `curr_state` of `state`. -/
inductive Scene where
  | title | intro | map1 | map2 | battle | win | lose
deriving DecidableEq, Repr

/-- The `status` output, by scene. -/
def Scene.status : Scene → BitVec 4
  | .title => 1#4
  | .intro => 2#4
  | .map1 => 3#4
  | .map2 => 4#4
  | .battle => 5#4
  | .win => 6#4
  | .lose => 7#4

/-- The inputs of `state` at one clock edge. -/
structure StateInputs where
  reset : Bool
  keycode : BitVec 8
  arrivedDoor : Bool
  arrivedMonster : Bool
  hp : BitVec 4
  timeUp : Bool
deriving DecidableEq, Repr

/-- The `next_state` logic. -/
def Scene.nextState (i : StateInputs) : Scene → Scene
  | .title => if i.keycode = 0x28#8 then .intro else .title
  | .intro => if i.keycode = 0x1d#8 then .map1 else .intro
  | .map1 => if i.keycode = 0x28#8 ∧ i.arrivedDoor = true then .map2 else .map1
  | .map2 => if i.arrivedMonster = true then .battle else .map2
  | .battle => if i.hp = 0#4 then .lose else if i.timeUp = true then .win else .battle
  | .win => if i.keycode = 0x1d#8 then .title else .win
  | .lose => if i.keycode = 0x1d#8 then .map2 else .lose

/-- One clock edge of `state`. -/
def Scene.step (i : StateInputs) (s : Scene) : Scene :=
  if i.reset then .title else s.nextState i

/-! ## Status values -/

/-- The status names the scene. -/
theorem Scene.status_inj {s t : Scene} : s.status = t.status ↔ s = t := by
  cases s <;> cases t <;> decide

@[simp] theorem Scene.status_eq_five {s : Scene} : s.status = 5#4 ↔ s = .battle :=
  Scene.status_inj (t := .battle)

@[simp] theorem Scene.status_eq_four {s : Scene} : s.status = 4#4 ↔ s = .map2 :=
  Scene.status_inj (t := .map2)

/-- The title is neither of the scenes a battle is entered through. -/
theorem Scene.ne_map2 {s : Scene} (h : s = .title) : s ≠ .map2 := by
  rw [h]; exact Scene.noConfusion

theorem Scene.ne_battle {s : Scene} (h : s = .title) : s ≠ .battle := by
  rw [h]; exact Scene.noConfusion

/-! ## What one edge does -/

theorem Scene.step_reset {i : StateInputs} (h : i.reset = true) (s : Scene) :
    s.step i = .title := by simp [Scene.step, h]

/-- A battle is left for `lose` when no HP is left, whatever the timer says. -/
theorem Scene.step_battle {i : StateInputs} (h : i.reset = false) :
    Scene.battle.step i =
      if i.hp = 0#4 then .lose else if i.timeUp = true then .win else .battle := by
  simp [Scene.step, Scene.nextState, h]

theorem Scene.step_map2 {i : StateInputs} (h : i.reset = false) :
    Scene.map2.step i = if i.arrivedMonster = true then .battle else .map2 := by
  simp [Scene.step, Scene.nextState, h]

/-- The second map is left as soon as the monster is reached. -/
theorem Scene.step_map2_ne {i : StateInputs} (h : i.arrivedMonster = true) :
    Scene.map2.step i ≠ .map2 := by
  unfold Scene.step
  split
  · exact Scene.noConfusion
  · simp [Scene.nextState, h]

/-- The battle scene is entered from `map2` only, when the monster is reached. -/
theorem Scene.step_eq_battle {i : StateInputs} {s : Scene} (h : s.step i = .battle) :
    i.reset = false ∧ ((s = .battle ∧ i.hp ≠ 0#4 ∧ i.timeUp = false) ∨
      (s = .map2 ∧ i.arrivedMonster = true)) := by
  unfold Scene.step at h
  split at h
  · cases h
  · next hr =>
    refine ⟨by simpa using hr, ?_⟩
    cases s <;> simp only [Scene.nextState] at h
    case battle => split at h <;> simp_all
    case map2 => split at h <;> simp_all
    all_goals split at h <;> cases h

end Undertale
