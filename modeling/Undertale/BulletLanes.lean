import Undertale.BulletFrames
import Undertale.Clocked.Counter
import Undertale.Game

/-!
# The tracks of the bullets

A bullet flies along a track: its position is its starting point plus a number of
steps in the direction of its lane (`OnTrack`).  A tick takes it on by its motion
register, which is one to three steps, and the limit test looks at the position
before the move.  So a bullet is at most two steps past the end of its lane, and
nothing wraps.

The bound on the `X` coordinate of a diagonal lane follows from the track: only
`Y` is tested, and both have made the same number of steps.
-/

namespace Undertale

open Clocked

/-! ## Tracks -/

/-- The number of steps from the start of a lane to its limit. -/
def laneLength (k : Fin 15) : ℕ :=
  if k.val < 3 then 513
  else if k.val < 6 then 515
  else 473 - (lane k).yInit.toNat

/-- The point of a lane after `s` steps. -/
def lanePoint (k : Fin 15) (s : ℕ) : ℤ × ℤ :=
  ((lane k).xInit.toNat + (laneDir k).1 * s, (lane k).yInit.toNat + (laneDir k).2 * s)

/-- The position is that of the lane after `s` steps, at most two past its end. -/
structure OnTrack (k : Fin 15) (s : ℕ) (p : BitVec 10 × BitVec 10) : Prop where
  steps : s ≤ laneLength k + 2
  x : (p.1.toNat : ℤ) = (lanePoint k s).1
  y : (p.2.toNat : ℤ) = (lanePoint k s).2

theorem lanePoint_add (k : Fin 15) (s t : ℕ) :
    (lanePoint k (s + t)).1 = (lanePoint k s).1 + (laneDir k).1 * t ∧
      (lanePoint k (s + t)).2 = (lanePoint k s).2 + (laneDir k).2 * t := by
  simp only [lanePoint, Int.natCast_add, Int.mul_add, Int.add_assoc, and_self]

theorem onTrack_init (k : Fin 15) : OnTrack k 0 (laneInit k) where
  steps := Nat.zero_le _
  x := by simp [lanePoint, laneInit]
  y := by simp [lanePoint, laneInit]

theorem laneLength_le (k : Fin 15) : laneLength k ≤ 515 := by
  revert k; decide

/-- The lanes by the way they fly: along three rows from either side, down three columns,
and down three diagonals from either side. -/
inductive LaneKind (k : Fin 15) : Prop
  | right (hk : k < 3) (dir : laneDir k = (1, 0)) (length : laneLength k = 513)
      (x : (lane k).xInit.toNat = 120) (y : ((lane k).yInit.toNat : ℤ) ∈ [274, 309, 344])
  | left (hk : 3 ≤ k) (hk' : k < 6) (dir : laneDir k = (-1, 0)) (length : laneLength k = 515)
      (x : (lane k).xInit.toNat = 520) (y : ((lane k).yInit.toNat : ℤ) ∈ [274, 309, 344])
  | down (hk : 6 ≤ k) (hk' : k < 9) (dir : laneDir k = (0, 1)) (length : laneLength k = 413)
      (x : ((lane k).xInit.toNat : ℤ) ∈ [279, 320, 361]) (y : (lane k).yInit.toNat = 60)
  | downRight (hk : 9 ≤ k) (hk' : k < 12) (dir : laneDir k = (1, 1))
      (length : laneLength k = 473 - (lane k).yInit.toNat)
      (x : 115 ≤ (lane k).xInit.toNat ∧ (lane k).xInit.toNat ≤ 175)
      (y : 60 ≤ (lane k).yInit.toNat ∧ (lane k).yInit.toNat ≤ 160)
      (diagonal : ((lane k).yInit.toNat - (lane k).xInit.toNat : ℤ) ∈ [45, -25, -115])
  | downLeft (hk : 12 ≤ k) (dir : laneDir k = (-1, 1))
      (length : laneLength k = 473 - (lane k).yInit.toNat)
      (x : 464 ≤ (lane k).xInit.toNat ∧ (lane k).xInit.toNat ≤ 524)
      (y : 60 ≤ (lane k).yInit.toNat ∧ (lane k).yInit.toNat ≤ 160)
      (diagonal : ((lane k).xInit.toNat + (lane k).yInit.toNat : ℤ) ∈ [684, 614, 524])

theorem laneKind (k : Fin 15) : LaneKind k := by
  fin_cases k
  · exact .right (by decide) rfl rfl rfl (by decide)
  · exact .right (by decide) rfl rfl rfl (by decide)
  · exact .right (by decide) rfl rfl rfl (by decide)
  · exact .left (by decide) (by decide) rfl rfl rfl (by decide)
  · exact .left (by decide) (by decide) rfl rfl rfl (by decide)
  · exact .left (by decide) (by decide) rfl rfl rfl (by decide)
  · exact .down (by decide) (by decide) rfl rfl (by decide) rfl
  · exact .down (by decide) (by decide) rfl rfl (by decide) rfl
  · exact .down (by decide) (by decide) rfl rfl (by decide) rfl
  · exact .downRight (by decide) (by decide) rfl rfl (by decide) (by decide) (by decide)
  · exact .downRight (by decide) (by decide) rfl rfl (by decide) (by decide) (by decide)
  · exact .downRight (by decide) (by decide) rfl rfl (by decide) (by decide) (by decide)
  · exact .downLeft (by decide) rfl rfl (by decide) (by decide) (by decide)
  · exact .downLeft (by decide) rfl rfl (by decide) (by decide) (by decide)
  · exact .downLeft (by decide) rfl rfl (by decide) (by decide) (by decide)

/-- No lane leaves the screen, not even five steps past its end. -/
theorem lanePoint_bounds {k : Fin 15} {s : ℕ} (h : s ≤ laneLength k + 5) :
    (0 ≤ (lanePoint k s).1 ∧ (lanePoint k s).1 < 640) ∧
      (0 ≤ (lanePoint k s).2 ∧ (lanePoint k s).2 < 640) := by
  cases laneKind k with
  | right hk dir length x y =>
      simp only [lanePoint, dir, List.mem_cons, List.not_mem_nil, or_false] at y ⊢
      omega
  | left hk hk' dir length x y =>
      simp only [lanePoint, dir, List.mem_cons, List.not_mem_nil, or_false] at y ⊢
      omega
  | down hk hk' dir length x y =>
      simp only [lanePoint, dir, List.mem_cons, List.not_mem_nil, or_false] at x ⊢
      omega
  | downRight hk hk' dir length x y diagonal =>
      simp only [lanePoint, dir, List.mem_cons, List.not_mem_nil, or_false] at diagonal ⊢
      omega
  | downLeft hk dir length x y diagonal =>
      simp only [lanePoint, dir, List.mem_cons, List.not_mem_nil, or_false] at diagonal ⊢
      omega

/-- The limit test counts the steps. -/
theorem OnTrack.pastLimit_eq {k : Fin 15} {s : ℕ} {p : BitVec 10 × BitVec 10}
    (h : OnTrack k s p) : pastLimit k p = decide (laneLength k ≤ s) := by
  obtain ⟨hs, hx, hy⟩ := h
  have hbelow : 6 ≤ k → pastLimit k p = decide (473 ≤ p.2.toNat) := by
    intro hk
    rw [pastLimit, if_neg (by omega), if_neg (by omega)]
    rfl
  cases laneKind k with
  | right hk dir length x y =>
      rw [pastLimit, if_pos hk, length, decide_eq_decide, BitVec.le_def, BitVec.toNat_ofNat]
      simp only [lanePoint, dir] at hx
      omega
  | left hk hk' dir length x y =>
      rw [pastLimit, if_neg (by omega), if_pos hk', length, decide_eq_decide, BitVec.le_def,
        BitVec.toNat_ofNat]
      simp only [lanePoint, dir] at hx
      omega
  | down hk hk' dir length x y =>
      rw [hbelow hk, length, decide_eq_decide]
      simp only [lanePoint, dir] at hy
      omega
  | downRight hk hk' dir length x y diagonal =>
      rw [hbelow (by omega), length, decide_eq_decide]
      simp only [lanePoint, dir] at hy
      omega
  | downLeft hk dir length x y diagonal =>
      rw [hbelow (by omega), length, decide_eq_decide]
      simp only [lanePoint, dir] at hy
      omega

/-- A move takes a bullet on along its track. -/
theorem OnTrack.move {k : Fin 15} {s : ℕ} {p : BitVec 10 × BitVec 10} (h : OnTrack k s p)
    (hs : s < laneLength k) (d : BitVec 2) :
    OnTrack k (s + d.toNat) (moveBy (laneDir k) d p) := by
  have hd : d.toNat < 4 := d.isLt
  obtain ⟨⟨hx0, hx1⟩, hy0, hy1⟩ :=
    lanePoint_bounds (k := k) (s := s + d.toNat) (by omega)
  obtain ⟨hx, hy⟩ := lanePoint_add k s d.toNat
  rw [← h.x] at hx
  rw [← h.y] at hy
  rw [hx] at hx0 hx1
  rw [hy] at hy0 hy1
  refine ⟨by omega, ?_, ?_⟩
  · rw [hx]
    exact toNat_add_ofInt p.1 hx0 (by omega)
  · rw [hy]
    exact toNat_add_ofInt p.2 hy0 (by omega)

/-! ## The registers of a lane -/

/-- The motion registers hold a step of `d` in the direction of the lane. -/
def Lane.Moves (l : Lane) (d : BitVec 2) (b : Bullet) : Prop :=
  b.xMotion = l.xMotion (d.setWidth 10) ∧ b.yMotion = l.yMotion (d.setWidth 10)

/-- The motion registers, read in two's complement. -/
theorem Lane.Moves.toInt {k : Fin 15} {d : BitVec 2} {b : Bullet} (h : (lane k).Moves d b) :
    b.xMotion.toInt = (laneDir k).1 * d.toNat ∧ b.yMotion.toInt = (laneDir k).2 * d.toNat := by
  have htable : ∀ (k : Fin 15) (d : BitVec 2),
      ((lane k).xMotion (d.setWidth 10)).toInt = (laneDir k).1 * d.toNat ∧
        ((lane k).yMotion (d.setWidth 10)).toInt = (laneDir k).2 * d.toNat := by
    decide
  rw [h.1, h.2]
  exact htable k d

/-- The bullet is on its track, and its motion registers hold a step along it. -/
structure Lane.Tracked (k : Fin 15) (s : ℕ) (d : BitVec 2) (b : Bullet) : Prop where
  onTrack : OnTrack k s ((lane k).pos b)
  moves : (lane k).Moves d b

theorem Lane.tracked_init (k : Fin 15) : Lane.Tracked k 0 0#2 (lane k).init where
  onTrack := by rw [Lane.pos_init]; exact onTrack_init k
  moves := by unfold Lane.Moves; revert k; decide

section step
variable {k : Fin 15} {s : ℕ} {d : BitVec 2} {b : Bullet} {status : BitVec 4}
  {risingEdge shown : Bool} {difficulty : BitVec 2}

theorem Lane.Tracked.atLimit_eq (h : Lane.Tracked k s d b) :
    (lane k).atLimit b = decide (laneLength k ≤ s) := by
  rw [Lane.atLimit_eq, h.onTrack.pastLimit_eq]

/-- A bullet that a clock does not take home makes a step if there is a tick, and
loads the difficulty. -/
theorem Lane.Tracked.step_flying (h : Lane.Tracked k s d b)
    (hlimit : risingEdge = true → s < laneLength k) :
    Lane.Tracked k (if risingEdge then s + d.toNat else s) difficulty
      ((lane k).step 5#4 risingEdge true difficulty b) := by
  have hhome : ¬ ((5#4 : BitVec 4) ≠ 5#4 ∨ (risingEdge && (lane k).atLimit b) = true ∨
      true = false) := by
    rw [h.atLimit_eq]
    cases risingEdge with
    | false => simp
    | true => simpa using hlimit rfl
  rw [Lane.step, if_neg hhome]
  cases risingEdge with
  | false => exact ⟨h.onTrack, rfl, rfl⟩
  | true =>
      refine ⟨?_, rfl, rfl⟩
      have hmove := h.onTrack.move (hlimit rfl) d
      rw [laneDir_eq] at hmove
      rw [Lane.pos_move (lane k) (b := b) (d := d)]
      · exact hmove
      · rw [← h.moves.1]; rfl
      · rw [← h.moves.2]; rfl

/-- Every clock keeps a bullet on its track. -/
theorem Lane.Tracked.step (h : Lane.Tracked k s d b) :
    ∃ s' d', Lane.Tracked k s' d' ((lane k).step status risingEdge shown difficulty b) := by
  rcases Classical.em (status ≠ 5#4 ∨ (risingEdge && (lane k).atLimit b) = true ∨ shown = false)
    with hhome | hfly
  · rw [Lane.step, if_pos hhome]
    exact ⟨0, 0#2, Lane.tracked_init k⟩
  · obtain ⟨hs, hlimit, hshown⟩ : status = 5#4 ∧ ¬ (risingEdge && (lane k).atLimit b) = true ∧
        shown = true := by simpa [not_or] using hfly
    subst hs hshown
    refine ⟨_, difficulty, h.step_flying fun htick => ?_⟩
    rw [h.atLimit_eq, htick] at hlimit
    simpa using hlimit

end step

/-! ## Bounds -/

/-- The coordinates are within the bounds of their lanes, the diagonal lanes stay on
their diagonals, and no position wraps when its motion is added. -/
structure Bullets.InBounds (r : Bullets) : Prop where
  right : ∀ k, k < 3 → 120 ≤ (r.position k).1.toNat ∧ (r.position k).1.toNat ≤ 635
  left : ∀ k, 3 ≤ k → k < 6 → 3 ≤ (r.position k).1.toNat ∧ (r.position k).1.toNat ≤ 520
  below : ∀ k, 6 ≤ k →
    (lane k).yInit.toNat ≤ (r.position k).2.toNat ∧ (r.position k).2.toNat ≤ 475
  downRight : ∀ k, 9 ≤ k → k < 12 →
    ((r.position k).1.toNat : ℤ) - (lane k).xInit.toNat =
      (r.position k).2.toNat - (lane k).yInit.toNat
  downLeft : ∀ k, 12 ≤ k →
    ((lane k).xInit.toNat : ℤ) - (r.position k).1.toNat =
      (r.position k).2.toNat - (lane k).yInit.toNat
  screen : ∀ k, (r.position k).1.toNat < 640 ∧ (r.position k).2.toNat < 640
  noWrap : ∀ k,
    (((r.position k).1 + (r.bullet k).xMotion).toNat : ℤ) =
        (r.position k).1.toNat + (r.bullet k).xMotion.toInt ∧
      (((r.position k).2 + (r.bullet k).yMotion).toNat : ℤ) =
        (r.position k).2.toNat + (r.bullet k).yMotion.toInt

/-- The bounds of a track, lane by lane. -/
theorem OnTrack.bounds {k : Fin 15} {s : ℕ} {p : BitVec 10 × BitVec 10} (h : OnTrack k s p) :
    (k < 3 → 120 ≤ p.1.toNat ∧ p.1.toNat ≤ 635) ∧
      (3 ≤ k → k < 6 → 3 ≤ p.1.toNat ∧ p.1.toNat ≤ 520) ∧
      (6 ≤ k → (lane k).yInit.toNat ≤ p.2.toNat ∧ p.2.toNat ≤ 475) ∧
      (9 ≤ k → k < 12 →
        (p.1.toNat : ℤ) - (lane k).xInit.toNat = p.2.toNat - (lane k).yInit.toNat) ∧
      (12 ≤ k → ((lane k).xInit.toNat : ℤ) - p.1.toNat = p.2.toNat - (lane k).yInit.toNat) := by
  obtain ⟨hs, hx, hy⟩ := h
  cases laneKind k with
  | right hk dir length x y =>
      simp only [lanePoint, dir] at hx
      refine ⟨fun _ => ?_, ?_, ?_, ?_, ?_⟩ <;> omega
  | left hk hk' dir length x y =>
      simp only [lanePoint, dir] at hx
      refine ⟨?_, fun _ _ => ?_, ?_, ?_, ?_⟩ <;> omega
  | down hk hk' dir length x y =>
      simp only [lanePoint, dir] at hy
      refine ⟨?_, ?_, fun _ => ?_, ?_, ?_⟩ <;> omega
  | downRight hk hk' dir length x y diagonal =>
      simp only [lanePoint, dir] at hx hy
      refine ⟨?_, ?_, fun _ => ?_, fun _ _ => ?_, ?_⟩ <;> omega
  | downLeft hk dir length x y diagonal =>
      simp only [lanePoint, dir] at hx hy
      refine ⟨?_, ?_, fun _ => ?_, ?_, fun _ => ?_⟩ <;> omega

/-- A tracked position does not wrap when its motion is added. -/
theorem Lane.Tracked.noWrap {k : Fin 15} {s : ℕ} {d : BitVec 2} {b : Bullet}
    (h : Lane.Tracked k s d b) :
    ((((lane k).pos b).1 + b.xMotion).toNat : ℤ) = ((lane k).pos b).1.toNat + b.xMotion.toInt ∧
      ((((lane k).pos b).2 + b.yMotion).toNat : ℤ) =
        ((lane k).pos b).2.toNat + b.yMotion.toInt := by
  obtain ⟨⟨hs, hx, hy⟩, hmoves⟩ := h
  obtain ⟨hmx, hmy⟩ := hmoves.toInt
  have hd : d.toNat < 4 := d.isLt
  obtain ⟨⟨hx0, hx1⟩, hy0, hy1⟩ := lanePoint_bounds (k := k) (s := s + d.toNat) (by omega)
  rw [(lanePoint_add k s d.toNat).1, ← hx, ← hmx] at hx0 hx1
  rw [(lanePoint_add k s d.toNat).2, ← hy, ← hmy] at hy0 hy1
  constructor
  · have hadd := toNat_add_ofInt ((lane k).pos b).1 hx0 (by omega)
    rwa [BitVec.ofInt_toInt] at hadd
  · have hadd := toNat_add_ofInt ((lane k).pos b).2 hy0 (by omega)
    rwa [BitVec.ofInt_toInt] at hadd

theorem Bullets.inBounds_of_tracked {r : Bullets}
    (h : ∀ k, ∃ s d, Lane.Tracked k s d (r.bullet k)) : r.InBounds where
  right k hk := by
    obtain ⟨s, d, ht⟩ := h k
    exact ht.onTrack.bounds.1 hk
  left k hk hk' := by
    obtain ⟨s, d, ht⟩ := h k
    exact ht.onTrack.bounds.2.1 hk hk'
  below k hk := by
    obtain ⟨s, d, ht⟩ := h k
    exact ht.onTrack.bounds.2.2.1 hk
  downRight k hk hk' := by
    obtain ⟨s, d, ht⟩ := h k
    exact ht.onTrack.bounds.2.2.2.1 hk hk'
  downLeft k hk := by
    obtain ⟨s, d, ht⟩ := h k
    exact ht.onTrack.bounds.2.2.2.2 hk
  screen k := by
    obtain ⟨s, d, ⟨hs, hx, hy⟩, -⟩ := h k
    obtain ⟨⟨-, hx1⟩, -, hy1⟩ := lanePoint_bounds (k := k) (s := s) (by omega)
    rw [← hx] at hx1
    rw [← hy] at hy1
    exact ⟨Int.ofNat_lt.mp hx1, Int.ofNat_lt.mp hy1⟩
  noWrap k := by
    obtain ⟨s, d, ht⟩ := h k
    exact ht.noWrap

/-! ## Runs -/

section run
variable {rom : Rom} {i : ℕ → BulletsInputs} {r : ℕ → Bullets}
  (hr : ∀ n, r (n + 1) = (r n).step rom (i n) (i (n + 1)))
include hr

/-- From a cycle of another scene on every bullet is on its track. -/
theorem Bullets.tracked_of_run (h0 : (i 0).status ≠ 5#4) (n : ℕ) (k : Fin 15) :
    ∃ s d, Lane.Tracked k s d ((r (n + 1)).bullet k) := by
  induction n with
  | zero =>
      rw [hr 0, (Bullets.step_lanes_outside rom _ _ _ h0).2]
      exact ⟨0, 0#2, Lane.tracked_init k⟩
  | succ n ih =>
      obtain ⟨s, d, ht⟩ := ih
      rw [hr (n + 1), Bullets.step_bullet]
      exact ht.step

/-- The edge detector does not tick in two cycles in a row. -/
theorem Bullets.tick_alone {n : ℕ} (h : (r (n + 1)).frameClk.risingEdge = true) :
    (r (n + 2)).frameClk.risingEdge = false := by
  rw [hr n, Bullets.step_frameClk] at h
  rw [hr (n + 1), Bullets.step_frameClk, hr n, Bullets.step_frameClk]
  simp only [EdgeDetector.step, Bool.and_eq_true, Bool.not_eq_true'] at h ⊢
  simp [h.1]

/-- A lane that comes into view does so at a tick. -/
theorem Bullets.tick_of_shown {n : ℕ} {k : Fin 15} (h : (r n).showBullet k = false)
    (h' : (r (n + 1)).showBullet k = true) : (r n).frameClk.risingEdge = true := by
  rw [hr n, Bullets.step_showBullet] at h'
  cases ht : (r n).frameClk.risingEdge with
  | true => rfl
  | false => simp [Bullets.showBulletIn, ht, h] at h'

/-- A lane that stays in view is in battle, and not at its limit if there is a tick. -/
theorem Bullets.stays {n : ℕ} {k : Fin 15} (h : (r (n + 1)).showBullet k = true) :
    (i n).status = 5#4 ∧
      ((r n).frameClk.risingEdge = true → (lane k).atLimit ((r n).bullet k) = false) := by
  rw [hr n, Bullets.step_showBullet] at h
  rcases Classical.em ((i n).status ≠ 5#4 ∨ (i n).startBullet = false) with hout | hin
  · rw [if_pos hout] at h; cases h
  · rw [if_neg hin, Bullets.showBulletIn] at h
    rw [not_or, not_not] at hin
    refine ⟨hin.1, fun ht => ?_⟩
    rw [ht, if_pos rfl] at h
    cases hl : (lane k).atLimit ((r n).bullet k) with
    | false => rfl
    | true => simp [hl] at h

/-- A bullet that stays in view makes a step if there is a tick, and loads the
difficulty. -/
theorem Bullets.flies {n : ℕ} {k : Fin 15} {s : ℕ} {d : BitVec 2}
    (h : (r n).showBullet k = true) (h' : (r (n + 1)).showBullet k = true)
    (ht : Lane.Tracked k s d ((r n).bullet k)) :
    ((r n).frameClk.risingEdge = true → s < laneLength k) ∧
      Lane.Tracked k (if (r n).frameClk.risingEdge then s + d.toNat else s) (i n).difficulty
        ((r (n + 1)).bullet k) := by
  obtain ⟨hs, hlimit⟩ := Bullets.stays hr h'
  have hlt : (r n).frameClk.risingEdge = true → s < laneLength k := by
    intro htick
    have hl := hlimit htick
    rw [ht.atLimit_eq] at hl
    simpa using hl
  refine ⟨hlt, ?_⟩
  rw [hr n, Bullets.step_bullet, hs, h]
  exact ht.step_flying hlt

section difficulty
variable {keycode : ℕ → BitVec 8} (h0 : (i 0).status ≠ 5#4)
  (hd : ∀ n, (i (n + 1)).difficulty = nextDifficulty (i n).status (keycode n) (i n).difficulty)
include h0 hd

omit hr in
/-- The difficulty is not 0 in any cycle but the first. -/
theorem difficulty_pos (n : ℕ) : 1 ≤ (i (n + 1)).difficulty.toNat := by
  induction n with
  | zero =>
      rw [hd 0, nextDifficulty, if_pos h0]
      decide
  | succ n ih =>
      rw [hd (n + 1)]
      unfold nextDifficulty
      split_ifs with hout h1 h2 h3
      · decide
      · decide
      · decide
      · decide
      · exact ih

/-- A bullet in view has a step in its motion registers at every tick. -/
theorem Bullets.loaded {n : ℕ} {k : Fin 15} (h : (r (n + 1)).showBullet k = true) :
    ∃ s d, Lane.Tracked k s d ((r (n + 1)).bullet k) ∧
      ((r (n + 1)).frameClk.risingEdge = true → 1 ≤ d.toNat) := by
  obtain ⟨m, rfl⟩ : ∃ m, n = m + 1 := by
    cases n with
    | zero => exact absurd (Bullets.stays hr h).1 h0
    | succ m => exact ⟨m, rfl⟩
  cases hm : (r (m + 1)).showBullet k with
  | false =>
      -- it has come into view just now, at a tick, so that there is none
      have hquiet := Bullets.tick_alone hr (Bullets.tick_of_shown hr hm h)
      obtain ⟨s, d, ht⟩ := Bullets.tracked_of_run hr h0 (m + 1) k
      exact ⟨s, d, ht, fun htick => by rw [hquiet] at htick; cases htick⟩
  | true =>
      obtain ⟨s, d, ht⟩ := Bullets.tracked_of_run hr h0 m k
      exact ⟨_, _, (Bullets.flies hr hm h ht).2, fun _ => difficulty_pos h0 hd m⟩

/-- The ticks for which a bullet has been in view, counted. -/
theorem Bullets.ticks_le {n m : ℕ} {k : Fin 15} (hnm : n ≤ m)
    (h : ∀ j, n ≤ j → j ≤ m → (r (j + 1)).showBullet k = true) :
    countIn (fun j => (r j).frameClk.risingEdge = true) (n + 1) (m + 1) ≤ 515 := by
  -- the steps made are at least the ticks counted
  suffices hcount : ∃ s d, Lane.Tracked k s d ((r (m + 1)).bullet k) ∧
      ((r (m + 1)).frameClk.risingEdge = true → 1 ≤ d.toNat) ∧
      countIn (fun j => (r j).frameClk.risingEdge = true) (n + 1) (m + 1) ≤ s ∧
      countIn (fun j => (r j).frameClk.risingEdge = true) (n + 1) (m + 1) ≤ 515 by
    obtain ⟨-, -, -, -, -, hle⟩ := hcount
    exact hle
  refine preserved (P := fun m => ∃ s d, Lane.Tracked k s d ((r (m + 1)).bullet k) ∧
      ((r (m + 1)).frameClk.risingEdge = true → 1 ≤ d.toNat) ∧
      countIn (fun j => (r j).frameClk.risingEdge = true) (n + 1) (m + 1) ≤ s ∧
      countIn (fun j => (r j).frameClk.risingEdge = true) (n + 1) (m + 1) ≤ 515) hnm ?_ ?_
  · obtain ⟨s, d, ht, hd'⟩ := Bullets.loaded hr h0 hd (h n le_rfl hnm)
    exact ⟨s, d, ht, hd', by simp, by simp⟩
  · rintro j hnj hjm ⟨s, d, ht, hd', hs, hle⟩
    obtain ⟨hlt, hnext⟩ :=
      Bullets.flies hr (h j hnj hjm.le) (h (j + 1) (by omega) hjm) ht
    have hlen := laneLength_le k
    refine ⟨_, _, hnext, fun _ => difficulty_pos h0 hd j, ?_⟩
    rw [countIn_succ (by omega : n + 1 ≤ j + 1)]
    cases htick : (r (j + 1)).frameClk.risingEdge with
    | false => simpa using ⟨hs, hle⟩
    | true =>
        have h1 := hd' htick
        have h2 := hlt htick
        simp only [if_true]
        omega

end difficulty

end run

/-- In every run that starts in another scene, with the difficulty from its
register, the bullets are within their bounds in every later state, and a bullet in
view is hidden by the 516th tick. -/
theorem Bullets.lanes_bounded (rom : Rom) (i : ℕ → BulletsInputs) (keycode : ℕ → BitVec 8)
    (r : Bullets) (h0 : (i 0).status ≠ 5#4)
    (hd : ∀ n, (i (n + 1)).difficulty = nextDifficulty (i n).status (keycode n) (i n).difficulty)
    (n : ℕ) :
    (Bullets.run rom i r (n + 1)).InBounds ∧
      ∀ k m, (Bullets.run rom i r (n + 1)).showBullet k = true → n ≤ m →
        516 ≤ countIn (fun j => (Bullets.run rom i r j).frameClk.risingEdge = true)
            (n + 1) (m + 1) →
          ∃ j, n < j ∧ j ≤ m ∧ (Bullets.run rom i r (j + 1)).showBullet k = false := by
  have hr : ∀ n, Bullets.run rom i r (n + 1) =
      (Bullets.run rom i r n).step rom (i n) (i (n + 1)) := fun _ => rfl
  refine ⟨Bullets.inBounds_of_tracked (Bullets.tracked_of_run hr h0 n), ?_⟩
  intro k m hk hnm hcount
  by_contra hnone
  have hshown : ∀ j, n ≤ j → j ≤ m → (Bullets.run rom i r (j + 1)).showBullet k = true := by
    intro j hnj hjm
    rcases Nat.eq_or_lt_of_le hnj with rfl | hlt
    · exact hk
    · cases hj : (Bullets.run rom i r (j + 1)).showBullet k with
      | true => rfl
      | false => exact absurd ⟨j, hlt, hjm, hj⟩ hnone
  have := Bullets.ticks_le hr h0 hd hnm hshown
  omega

/-- A battle from power-up, one frame every two clocks, at difficulty 3 from cycle 2
on. -/
def lanesInputs (n : ℕ) : BulletsInputs where
  frameClk := n % 2 == 1
  counter := 0#10
  status := if n = 0 then 4#4 else 5#4
  difficulty := if n = 0 then 0#2 else if n = 1 then 1#2 else 3#2
  posXH := 0#10
  posYH := 0#10
  startBullet := true

theorem Bullets.lanes_bounded_lane3 :
    (Bullets.run (fun _ => 3#4) lanesInputs Bullets.zero 12).InBounds := by
  refine (Bullets.lanes_bounded (fun _ => 3#4) lanesInputs (fun _ => 32#8) Bullets.zero (by decide)
    (fun n => ?_) 11).1
  rcases n with _ | _ | n
  · decide
  · decide
  · simp [lanesInputs, nextDifficulty]

end Undertale
