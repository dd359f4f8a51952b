import Undertale.Scroll

/-!
# The door is glued to the map

`map1` and `door` are two copies of one scrolling design, each with its own
position, motion and edge detector, and their limits differ.  They stay together
because the limits differ by the distance of the two pictures: a tick finds both
at a limit or neither.
-/

namespace Undertale

open Clocked

/-! ## The distance of the two pictures -/

/-- The door stands 59 columns right of the map and moves with it. -/
structure Scroll.Glued (m d : Scroll) : Prop where
  pos : d.xPos = m.xPos + 59#10
  motion : d.xMotion = m.xMotion
  frameClk : d.frameClk = m.frameClk

/-- A tame map is at most one pixel past its limits. -/
theorem Scroll.Tame.pos_le {m : Scroll} (h : m.Tame map1) :
    398 ≤ m.xPos.toNat ∧ m.xPos.toNat ≤ 640 := by
  obtain ⟨hlo, hhi⟩ := h.2.1
  have hmin : map1.xMin.toNat = 399 := rfl
  have hmax : map1.xMax.toNat = 639 := rfl
  exact ⟨by show 398 ≤ m.xAxis.pos.toNat; omega, by show m.xAxis.pos.toNat ≤ 640; omega⟩

/-- Adding the distance does not wrap at the positions of a tame map. -/
theorem Scroll.Glued.toNat {m d : Scroll} (h : m.Glued d) (hm : m.Tame map1) :
    d.xPos.toNat = m.xPos.toNat + 59 := by
  have hle := hm.pos_le
  rw [h.pos, BitVec.toNat_add]
  exact Nat.mod_eq_of_lt (by simp; omega)

/-- The map is at a limit exactly when the door is at its own. -/
theorem Scroll.Glued.limits {m d : Scroll} (h : m.Glued d) (hm : m.Tame map1) :
    (d.xPos ≤ door.xMin ↔ m.xPos ≤ map1.xMin) ∧ (door.xMax ≤ d.xPos ↔ map1.xMax ≤ m.xPos) := by
  have hd := h.toNat hm
  have hmin : door.xMin.toNat = map1.xMin.toNat + 59 := rfl
  have hmax : door.xMax.toNat = map1.xMax.toNat + 59 := rfl
  simp only [BitVec.le_def]
  omega

/-! ## One clock edge -/

section step
variable {m d : Scroll} {i : MoverInputs}

theorem Scroll.glued_init (e : EdgeDetector) : (Scroll.init map1 e).Glued (Scroll.init door e) :=
  ⟨rfl, rfl, rfl⟩

/-- An unclamped tick moves both pictures by the same motion. -/
theorem Scroll.Glued.move (h : m.Glued d) : d.xPos + d.xMotion = m.xPos + m.xMotion + 59#10 := by
  rw [h.pos, h.motion, BitVec.add_assoc, BitVec.add_comm 59#10, BitVec.add_assoc]

theorem Scroll.Glued.tick (h : m.Glued d) (hm : m.Tame map1) (keycode : BitVec 8) :
    (m.tick map1 keycode).Glued (d.tick door keycode) := by
  obtain ⟨hlo, hhi⟩ := h.limits hm
  unfold Scroll.tick
  rcases eq_or_ne keycode 7#8 with h7 | h7
  · rw [if_pos h7, if_pos h7]
    rcases Classical.em (m.xPos ≤ map1.xMin) with hc | hc
    · rw [if_pos hc, if_pos (hlo.mpr hc)]
      exact ⟨rfl, rfl, h.frameClk⟩
    · rw [if_neg hc, if_neg (hlo.not.mpr hc)]
      exact ⟨h.move, rfl, h.frameClk⟩
  · rw [if_neg h7, if_neg h7]
    rcases eq_or_ne keycode 4#8 with h4 | h4
    · rw [if_pos h4, if_pos h4]
      rcases Classical.em (map1.xMax ≤ m.xPos) with hc | hc
      · rw [if_pos hc, if_pos (hhi.mpr hc)]
        exact ⟨rfl, rfl, h.frameClk⟩
      · rw [if_neg hc, if_neg (hhi.not.mpr hc)]
        exact ⟨h.move, rfl, h.frameClk⟩
    · rw [if_neg h4, if_neg h4]
      exact ⟨h.move, rfl, h.frameClk⟩

/-- A clock edge keeps the two pictures together. -/
theorem Scroll.Glued.step (h : m.Glued d) (hm : m.Tame map1) :
    (m.step map1 i).Glued (d.step door i) := by
  rcases eq_or_ne i.status 3#4 with hs | hs
  · cases ht : m.frameClk.risingEdge with
    | true =>
        rw [Scroll.step_tick (p := map1) hs ht,
          Scroll.step_tick (p := door) hs (by rw [h.frameClk]; exact ht), h.frameClk]
        obtain ⟨hpos, hmotion, -⟩ := h.tick hm i.keycode
        exact ⟨hpos, hmotion, rfl⟩
    | false =>
        rw [Scroll.step_idle (p := map1) hs ht,
          Scroll.step_idle (p := door) hs (by rw [h.frameClk]; exact ht), h.frameClk]
        exact ⟨h.pos, h.motion, rfl⟩
  · rw [Scroll.step_outside (p := map1) hs, Scroll.step_outside (p := door) hs, h.frameClk]
    exact Scroll.glued_init _

/-- Outside the first map both pictures are put to their starting points. -/
theorem Scroll.glued_of_outside (hs : i.status ≠ 3#4) (he : d.frameClk = m.frameClk) :
    (m.step map1 i).Glued (d.step door i) := by
  rw [Scroll.step_outside (p := map1) hs, Scroll.step_outside (p := door) hs, he]
  exact Scroll.glued_init _

end step

/-! ## Runs -/

theorem Scroll.glued_run {i : ℕ → MoverInputs} {m d : Scroll} (h0 : (i 0).status ≠ 3#4)
    (he : d.frameClk = m.frameClk) (n : ℕ) :
    (Scroll.run map1 i m (n + 1)).Glued (Scroll.run door i d (n + 1)) := by
  induction n with
  | zero => exact Scroll.glued_of_outside h0 he
  | succ n ih =>
      rw [Scroll.run_succ map1, Scroll.run_succ door]
      exact ih.step (Scroll.tame_of_run map1_roomy (Scroll.run_succ map1 i m) h0 n)

/-- In every run of `map1` and `door` that starts outside the first map with equal
edge detectors, the door stays 59 columns right of the map and moves with it, and
the map stays within one pixel of its limits with no motion outward from there. -/
theorem Scroll.door_glued (i : ℕ → MoverInputs) (m d : Scroll) (h0 : (i 0).status ≠ 3#4)
    (he : d.frameClk = m.frameClk) (n : ℕ) :
    let map := Scroll.run map1 i m (n + 1)
    let gate := Scroll.run door i d (n + 1)
    gate.xPos.toNat = map.xPos.toNat + 59 ∧ gate.xMotion = map.xMotion ∧
      398 ≤ map.xPos.toNat ∧ map.xPos.toNat ≤ 640 ∧
        (map.xPos.toNat = 398 → map.xMotion ≠ -1#10) ∧
          (map.xPos.toNat = 640 → map.xMotion ≠ 1#10) := by
  intro map gate
  have hglued : map.Glued gate := Scroll.glued_run h0 he n
  have htame : map.Tame map1 := Scroll.tame_of_run map1_roomy (Scroll.run_succ map1 i m) h0 n
  obtain ⟨hlo, hhi⟩ := htame.pos_le
  refine ⟨hglued.toNat htame, hglued.motion, hlo, hhi, fun h => htame.2.2.1 ?_,
    fun h => htame.2.2.2 ?_⟩
  · show map.xPos.toNat < 399
    omega
  · show 639 < map.xPos.toNat
    omega

/-- The map is scrolled to its left limit, and the key is let go when it gets there. -/
def scrollInputs (n : ℕ) : MoverInputs where
  frameClk := n % 2 == 1
  status := if n = 0 then 2#4 else 3#4
  keycode := if n < 483 then 7#8 else 0#8

/-- The motion that is left takes both pictures one pixel past their limits, together. -/
theorem Scroll.door_glued_scroll :
    (Scroll.run map1 scrollInputs Scroll.zero 486).xPos = 398#10 ∧
      (Scroll.run door scrollInputs Scroll.zero 486).xPos.toNat =
        (Scroll.run map1 scrollInputs Scroll.zero 486).xPos.toNat + 59 ∧
      (Scroll.run map1 scrollInputs Scroll.zero 486).xMotion ≠ -1#10 := by
  have hpos : (Scroll.run map1 scrollInputs Scroll.zero 486).xPos = 398#10 := by decide +kernel
  obtain ⟨hglued, -, -, -, hmotion, -⟩ :=
    Scroll.door_glued scrollInputs Scroll.zero Scroll.zero (by decide) rfl 485
  exact ⟨hpos, hglued, hmotion (congrArg BitVec.toNat hpos)⟩

end Undertale
