import Undertale.Bullets
import Mathlib.Tactic.FinCases

/-!
# The battle, frame by frame

What `bullets_move` is for can be said without its registers.  A battle is a
sequence of frames (`BattleFrame`): the HP, which lanes have a bullet, and where
it is.  `BattleFrame.step` moves all fifteen lanes by one rule.

The registers take three clocks after an edge of the frame clock to make that
step.  HP is updated by the edge itself, the show flags and the positions by the
tick of the edge detector two clocks later, and a bullet that has been hit goes
home one clock after the tick.  `Bullets.frame_eq_run` says that the registers,
sampled at the rising edges of the frame clock, take exactly the steps of the
frames.
-/

namespace Undertale

open Clocked

/-! ## Frames -/

/-- The direction of a lane on the screen, where `Y` grows downwards. -/
def laneDir (k : Fin 15) : ℤ × ℤ :=
  if k < 3 then (1, 0)
  else if k < 6 then (-1, 0)
  else if k < 9 then (0, 1)
  else if k < 12 then (1, 1)
  else (-1, 1)

/-- Where a bullet of the lane starts. -/
def laneInit (k : Fin 15) : BitVec 10 × BitVec 10 := ((lane k).xInit, (lane k).yInit)

/-- The position is at or past the end of the lane. -/
def pastLimit (k : Fin 15) (p : BitVec 10 × BitVec 10) : Bool :=
  if k < 3 then 633#10 ≤ p.1
  else if k < 6 then p.1 ≤ 5#10
  else 473#10 ≤ p.2

/-- A position moved in a direction, in 10 bits. -/
def moveBy (d : ℤ × ℤ) (difficulty : BitVec 2) (p : BitVec 10 × BitVec 10) :
    BitVec 10 × BitVec 10 :=
  (p.1 + BitVec.ofInt 10 (d.1 * difficulty.toNat), p.2 + BitVec.ofInt 10 (d.2 * difficulty.toNat))

/-- The squared distance of two positions. -/
def sqDist (p q : BitVec 10 × BitVec 10) : ℤ :=
  ((p.1.toNat : ℤ) - q.1.toNat) * (p.1.toNat - q.1.toNat) +
    ((p.2.toNat : ℤ) - q.2.toNat) * (p.2.toNat - q.2.toNat)

/-- The least lane whose bullet hits the heart. -/
def hitLane (heart : BitVec 10 × BitVec 10) (position : Fin 15 → BitVec 10 × BitVec 10) :
    Option (Fin 15) :=
  (List.finRange 15).find? fun k => sqDist (position k) heart ≤ 169

/-- What a player sees of the battle in one frame. -/
@[ext]
structure BattleFrame where
  hp : BitVec 4
  visible : Fin 15 → Bool
  position : Fin 15 → BitVec 10 × BitVec 10

/-- What decides the next frame. -/
structure FrameInputs where
  bulletNum : BitVec 4
  difficulty : BitVec 2
  heart : BitVec 10 × BitVec 10

/-- The next frame. -/
def BattleFrame.step (i : FrameInputs) (s : BattleFrame) : BattleFrame where
  hp := if (hitLane i.heart s.position).isSome then s.hp - 1#4 else s.hp
  visible := fun k =>
    if hitLane i.heart s.position = some k then false
    else if s.visible k then !pastLimit k (s.position k)
    else i.bulletNum.toNat = k
  position := fun k =>
    if hitLane i.heart s.position = some k then laneInit k
    else if s.visible k then
      if pastLimit k (s.position k) then laneInit k
      else moveBy (laneDir k) i.difficulty (s.position k)
    else laneInit k

/-- A bullet that stays has moved, and every other lane is at its start. -/
theorem BattleFrame.step_position (i : FrameInputs) (s : BattleFrame) (k : Fin 15) :
    (s.step i).position k =
      if (s.step i).visible k && s.visible k then moveBy (laneDir k) i.difficulty (s.position k)
      else laneInit k := by
  unfold BattleFrame.step
  rcases eq_or_ne (hitLane i.heart s.position) (some k) with hhit | hhit
  · simp [hhit]
  · cases hk : s.visible k with
    | false => simp [hhit, hk]
    | true => cases hpast : pastLimit k (s.position k) <;> simp [hhit, hk, hpast]

/-- A bullet that was there and stays is not at the end of its lane. -/
theorem BattleFrame.pastLimit_of_visible {i : FrameInputs} {s : BattleFrame} {k : Fin 15}
    (hk : s.visible k = true) (h : (s.step i).visible k = true) :
    pastLimit k (s.position k) = false := by
  unfold BattleFrame.step at h
  cases hpast : pastLimit k (s.position k) with
  | false => rfl
  | true => simp [hk, hpast] at h

/-! ## Lanes

The lanes of the registers are the lanes of the frames. -/

/-- The position of a bullet. -/
def Lane.pos (l : Lane) (b : Bullet) : BitVec 10 × BitVec 10 := (l.x b, l.y b)

/-- The direction, as a step on the screen. -/
def Heading.dir : Heading → ℤ × ℤ
  | .right => (1, 0)
  | .left => (-1, 0)
  | .down => (0, 1)
  | .downRight => (1, 1)
  | .downLeft => (-1, 1)

theorem laneDir_eq (k : Fin 15) : laneDir k = (lane k).heading.dir := by
  revert k; decide

theorem Lane.pos_init (k : Fin 15) : (lane k).pos (lane k).init = laneInit k := by
  unfold Lane.pos Lane.x Lane.y laneInit
  cases (lane k).heading <;> rfl

theorem Lane.atLimit_eq (k : Fin 15) (b : Bullet) :
    (lane k).atLimit b = pastLimit k ((lane k).pos b) := by
  fin_cases k <;> rfl

/-- No lane starts at its end. -/
theorem pastLimit_laneInit (k : Fin 15) : pastLimit k (laneInit k) = false := by
  revert k; decide

theorem Lane.near_eq (l : Lane) (b : Bullet) (posXH posYH : BitVec 10) :
    l.near b posXH posYH = decide (sqDist (l.pos b) (posXH, posYH) ≤ 169) := rfl

/-- A step to the right or down in 10 bits. -/
theorem ofInt_step (d : BitVec 2) : BitVec.ofInt 10 (1 * d.toNat) = d.setWidth 10 := by
  revert d; decide

/-- A step to the left is a two's complement. -/
theorem ofInt_neg_step (d : BitVec 2) :
    BitVec.ofInt 10 (-1 * d.toNat) = ~~~(d.setWidth 10) + 1#10 := by
  revert d; decide

/-- Adding the motion registers moves a bullet in the direction of its lane. -/
theorem Lane.pos_move (l : Lane) {b b' : Bullet} {d : BitVec 2}
    (hx : b'.xPos = b.xPos + l.xMotion (d.setWidth 10))
    (hy : b'.yPos = b.yPos + l.yMotion (d.setWidth 10)) :
    l.pos b' = moveBy l.heading.dir d (l.pos b) := by
  obtain ⟨heading, xInit, yInit, limit⟩ := l
  unfold moveBy Lane.pos
  cases heading with
  | right =>
      simp only [Lane.x, Lane.y, Heading.dir, ofInt_step, Int.zero_mul]
      exact Prod.ext hx (BitVec.add_zero yInit).symm
  | left =>
      simp only [Lane.x, Lane.y, Heading.dir, ofInt_neg_step, Int.zero_mul]
      exact Prod.ext hx (BitVec.add_zero yInit).symm
  | down =>
      simp only [Lane.x, Lane.y, Heading.dir, ofInt_step, Int.zero_mul]
      exact Prod.ext (BitVec.add_zero xInit).symm hy
  | downRight =>
      simp only [Lane.x, Lane.y, Heading.dir, ofInt_step]
      exact Prod.ext hx hy
  | downLeft =>
      simp only [Lane.x, Lane.y, Heading.dir, ofInt_step, ofInt_neg_step]
      exact Prod.ext hx hy

/-! ## One clock -/

/-- The positions of the bullets. -/
def Bullets.position (r : Bullets) (k : Fin 15) : BitVec 10 × BitVec 10 := (lane k).pos (r.bullet k)

/-- The frame the registers hold. -/
def Bullets.frame (r : Bullets) : BattleFrame := ⟨r.hp, r.showBullet, r.position⟩

/-- Every bullet that is not shown is at its starting point. -/
def Bullets.Home (r : Bullets) : Prop := ∀ k, r.showBullet k = false → r.position k = laneInit k

/-- The else-if chain settles on the lane that hits the heart. -/
theorem Bullets.firstNear_eq (r : Bullets) (posXH posYH : BitVec 10) :
    firstNear (r.near posXH posYH) = hitLane (posXH, posYH) r.position := by
  have hnear : r.near posXH posYH =
      fun k => decide (sqDist (r.position k) (posXH, posYH) ≤ 169) :=
    funext fun k => Lane.near_eq (lane k) (r.bullet k) posXH posYH
  rw [firstNear, hnear, hitLane]

section clock
variable {rom : Rom} {i i' : BulletsInputs} {r : Bullets}

/-- A clock takes every lane home that is not shown. -/
theorem Bullets.step_position_hidden {k : Fin 15} (hk : r.showBullet k = false) :
    (r.step rom i i').position k = laneInit k := by
  unfold Bullets.position
  rw [Bullets.step_bullet, Lane.step, if_pos (.inr (.inr hk)), Lane.pos_init]

variable (hs : i.status = 5#4)
include hs

section quiet
variable (ht : r.frameClk.risingEdge = false)
include ht

theorem Bullets.step_showBullet_quiet (hb : i.startBullet = true) :
    (r.step rom i i').showBullet = r.showBullet := by
  funext k
  rw [Bullets.step_showBullet]
  simp [hs, hb, Bullets.showBulletIn, ht]

/-- Without a tick a lane that is shown loads its motion and stays. -/
theorem Bullets.step_bullet_shown {k : Fin 15} (hk : r.showBullet k = true) :
    (r.step rom i i').bullet k =
      { r.bullet k with
        xMotion := (lane k).xMotion (i.difficulty.setWidth 10)
        yMotion := (lane k).yMotion (i.difficulty.setWidth 10) } := by
  rw [Bullets.step_bullet]
  simp [Lane.step, hs, ht, hk]

theorem Bullets.step_home (hb : i.startBullet = true) : (r.step rom i i').Home := by
  intro k hk
  rw [Bullets.step_showBullet_quiet hs ht hb] at hk
  exact Bullets.step_position_hidden hk

/-- From home a clock without a tick moves nothing. -/
theorem Bullets.step_position_quiet (hhome : r.Home) :
    (r.step rom i i').position = r.position := by
  funext k
  cases hk : r.showBullet k with
  | false => rw [Bullets.step_position_hidden hk, hhome k hk]
  | true =>
      unfold Bullets.position
      rw [Bullets.step_bullet_shown hs ht hk]
      rfl

end quiet

section tick
variable (ht : r.frameClk.risingEdge = true)
include ht

/-- A tick moves the show flags as the frame does. -/
theorem Bullets.step_showBullet_tick (hb : i.startBullet = true) (hhome : r.Home) (k : Fin 15) :
    (r.step rom i i').showBullet k =
      if hitLane (i.posXH, i.posYH) r.position = some k then false
      else if r.showBullet k then !pastLimit k (r.position k)
      else (rom r.bAddress).toNat = k := by
  have hlimit : (lane k).atLimit (r.bullet k) = pastLimit k (r.position k) := Lane.atLimit_eq k _
  have hcollide : r.collide i.posXH i.posYH k =
      (hitLane (i.posXH, i.posYH) r.position == some k) := by
    rw [← Bullets.firstNear_eq]; rfl
  rw [Bullets.step_showBullet, Bullets.showBulletIn, hlimit, hcollide]
  rcases eq_or_ne (hitLane (i.posXH, i.posYH) r.position) (some k) with hhit | hhit
  · simp [hs, hb, ht, hhit]
  · cases hk : r.showBullet k with
    | false =>
        have hpast : pastLimit k (r.position k) = false := by
          rw [hhome k hk, pastLimit_laneInit]
        simp [hs, hb, ht, hhit, hpast]
    | true => cases hpast : pastLimit k (r.position k) <;> simp [hs, hb, ht, hhit]

/-- A tick moves the bullets that are shown, by what their motion registers have
loaded, and takes those at the end of their lane home. -/
theorem Bullets.step_position_tick {k : Fin 15} (hk : r.showBullet k = true) {d : BitVec 2}
    (hx : (r.bullet k).xMotion = (lane k).xMotion (d.setWidth 10))
    (hy : (r.bullet k).yMotion = (lane k).yMotion (d.setWidth 10)) :
    (r.step rom i i').position k =
      if pastLimit k (r.position k) then laneInit k
      else moveBy (laneDir k) d (r.position k) := by
  have hlimit : (lane k).atLimit (r.bullet k) = pastLimit k (r.position k) := Lane.atLimit_eq k _
  unfold Bullets.position at hlimit ⊢
  rw [Bullets.step_bullet, ht, hk, ← hlimit, laneDir_eq]
  cases h : (lane k).atLimit (r.bullet k) with
  | false =>
      refine Lane.pos_move (lane k) ?_ ?_
      · simp [Lane.step, hs, h, hx]
      · simp [Lane.step, hs, h, hy]
  | true =>
      rw [Lane.step, if_pos (.inr (.inl (by rw [h]; rfl))), Lane.pos_init, if_pos rfl]

end tick

end clock

/-! ## One frame -/

/-- A run of `bullets_move` from the registers `r` on the inputs `i`. -/
def Bullets.run (rom : Rom) (i : ℕ → BulletsInputs) (r : Bullets) : ℕ → Bullets :=
  Clocked.run (fun n => Bullets.step rom (i n) (i (n + 1))) r

/-- The frame clock of a run. -/
def BulletsInputs.vs (i : ℕ → BulletsInputs) (n : ℕ) : Bool := (i n).frameClk

/-- The coordinates of the heart. -/
def BulletsInputs.heart (i : BulletsInputs) : BitVec 10 × BitVec 10 := (i.posXH, i.posYH)

/-- What decides the frame after the rising edge `t`: the bullet number after that
edge has moved the ROM address, the difficulty one clock later, which the motion
registers load before the tick, and the heart at the edge. -/
def Bullets.frameInputs (rom : Rom) (i : ℕ → BulletsInputs) (r : ℕ → Bullets) (t : ℕ) :
    FrameInputs where
  bulletNum := rom (r (t + 1)).bAddress
  difficulty := (i (t + 1)).difficulty
  heart := (i t).heart

/-- `t₀` and `t₁` are consecutive rising edges of the frame clock in a battle with
bullets, and the heart does not move before the tick. -/
structure Bullets.IsFrame (i : ℕ → BulletsInputs) (t₀ t₁ : ℕ) : Prop where
  rises : Rises (BulletsInputs.vs i) t₀
  between : ∀ n, t₀ < n → n < t₁ → ¬ Rises (BulletsInputs.vs i) n
  apart : t₀ + 6 ≤ t₁
  status : ∀ n, t₀ ≤ n → n ≤ t₁ → (i n).status = 5#4
  startBullet : ∀ n, t₀ ≤ n → n ≤ t₁ → (i n).startBullet = true
  heart : ∀ n, t₀ ≤ n → n < t₀ + 2 → (i (n + 1)).heart = (i n).heart

/-- The registers at the edge of a frame: no tick is pending and the lanes that
are not shown are home. -/
structure Bullets.Settled (r : Bullets) : Prop where
  quiet : r.frameClk.risingEdge = false
  home : r.Home

section frame
variable {rom : Rom} {i : ℕ → BulletsInputs} {r : ℕ → Bullets} {t₀ t₁ : ℕ}
  (hr : ∀ n, r (n + 1) = (r n).step rom (i n) (i (n + 1))) (h : Bullets.IsFrame i t₀ t₁)
  (h₀ : (r t₀).Settled)
include hr h

/-- The only tick of a frame is two clocks after its edge. -/
theorem Bullets.IsFrame.risingEdge_iff {n : ℕ} (hn : t₀ < n) (hn' : n ≤ t₁) :
    (r n).frameClk.risingEdge = true ↔ n = t₀ + 2 :=
  risingEdge_iff_between (v := BulletsInputs.vs i) (e := fun n => (r n).frameClk)
    (fun n => by rw [hr n, Bullets.step_frameClk]; rfl) h.rises h.between hn
    (Nat.le_succ_of_le hn')

theorem Bullets.IsFrame.no_tick {n : ℕ} (hn : t₀ < n) (hn' : n ≤ t₁) (ht : n ≠ t₀ + 2) :
    (r n).frameClk.risingEdge = false := by
  rw [← Bool.not_eq_true, h.risingEdge_iff hr hn hn']
  exact ht

/-- From home a clock without a tick moves nothing. -/
theorem Bullets.IsFrame.succ_eq {n : ℕ} (hn : t₀ ≤ n) (hn' : n ≤ t₁)
    (ht : (r n).frameClk.risingEdge = false) (hhome : (r n).Home) :
    (r (n + 1)).showBullet = (r n).showBullet ∧ (r (n + 1)).position = (r n).position ∧
      (r (n + 1)).Home := by
  rw [hr n]
  exact ⟨Bullets.step_showBullet_quiet (h.status n hn hn') ht (h.startBullet n hn hn'),
    Bullets.step_position_quiet (h.status n hn hn') ht hhome,
    Bullets.step_home (h.status n hn hn') ht (h.startBullet n hn hn')⟩

/-- The frame clock moves its registers at the edge of the frame only. -/
theorem Bullets.IsFrame.frameRegs_eq {n : ℕ} (hn : t₀ < n) (hn' : n ≤ t₁) :
    (r n).frameRegs = (r (t₀ + 1)).frameRegs := by
  refine preserved (P := fun n => (r n).frameRegs = (r (t₀ + 1)).frameRegs) hn rfl
    fun k hk hkn ih => ?_
  rw [hr k, Bullets.step_frameRegs_hold _ _ _ _ (h.between k hk (Nat.lt_of_lt_of_le hkn hn')), ih]

include h₀

/-- The lanes at the tick are those at the edge. -/
theorem Bullets.IsFrame.at_tick :
    (r (t₀ + 2)).showBullet = (r t₀).showBullet ∧ (r (t₀ + 2)).position = (r t₀).position ∧
      (r (t₀ + 2)).Home := by
  have hlen := h.apart
  obtain ⟨hshow, hpos, hhome⟩ := h.succ_eq hr le_rfl (by omega) h₀.quiet h₀.home
  obtain ⟨hshow', hpos', hhome'⟩ := h.succ_eq hr (Nat.le_succ t₀) (by omega)
    (h.no_tick hr (Nat.lt_succ_self t₀) (by omega) (by omega)) hhome
  exact ⟨hshow'.trans hshow, hpos'.trans hpos, hhome'⟩

/-- The lanes that are shown have loaded the difficulty of the clock before the
tick. -/
theorem Bullets.IsFrame.motion {k : Fin 15} (hk : (r t₀).showBullet k = true) :
    ((r (t₀ + 2)).bullet k).xMotion =
        (lane k).xMotion ((i (t₀ + 1)).difficulty.setWidth 10) ∧
      ((r (t₀ + 2)).bullet k).yMotion =
        (lane k).yMotion ((i (t₀ + 1)).difficulty.setWidth 10) := by
  have hlen := h.apart
  obtain ⟨hshow, -, -⟩ := h.succ_eq hr le_rfl (by omega) h₀.quiet h₀.home
  rw [hr (t₀ + 1), Bullets.step_bullet_shown (h.status (t₀ + 1) (by omega) (by omega))
    (h.no_tick hr (Nat.lt_succ_self t₀) (by omega) (by omega)) (by rw [hshow, hk])]
  exact ⟨rfl, rfl⟩

/-- HP, which the edge of the frame updates. -/
theorem Bullets.IsFrame.hp_eq :
    (r t₁).frame.hp = ((r t₀).frame.step (Bullets.frameInputs rom i r t₀)).hp := by
  have hlen := h.apart
  obtain ⟨-, hpos, -⟩ := h.succ_eq hr le_rfl (by omega) h₀.quiet h₀.home
  have hhold : (r t₁).hp = (r (t₀ + 1)).hp :=
    congrArg Prod.fst (h.frameRegs_eq hr (by omega : t₀ < t₁) le_rfl)
  have hedge : (r (t₀ + 1)).hp =
      nextHP 5#4 ((r (t₀ + 1)).collide (i (t₀ + 1)).posXH (i (t₀ + 1)).posYH) (r t₀).hp := by
    have hstep := Bullets.step_hp rom (i t₀) (i (t₀ + 1)) (r t₀)
    rw [← hr t₀, h.status (t₀ + 1) (by omega) (by omega)] at hstep
    exact hstep.trans (if_pos h.rises)
  have hheart : ((i (t₀ + 1)).posXH, (i (t₀ + 1)).posYH) = (i t₀).heart :=
    h.heart t₀ le_rfl (by omega)
  show (r t₁).hp = if (hitLane (i t₀).heart (r t₀).position).isSome then _ else _
  rw [hhold, hedge, Bullets.collide, nextHP_battle, Bullets.firstNear_eq, hheart, hpos]
  rfl

/-- The show flags after the tick. -/
theorem Bullets.IsFrame.showBullet_eq :
    (r (t₀ + 3)).showBullet = ((r t₀).frame.step (Bullets.frameInputs rom i r t₀)).visible := by
  have hlen := h.apart
  obtain ⟨hshow, hpos, hhome⟩ := h.at_tick hr h₀
  have htick : (r (t₀ + 2)).frameClk.risingEdge = true :=
    (h.risingEdge_iff hr (by omega) (by omega)).mpr rfl
  have haddress : (r (t₀ + 2)).bAddress = (r (t₀ + 1)).bAddress :=
    congrArg (fun p => p.2.2.1) (h.frameRegs_eq hr (by omega : t₀ < t₀ + 2) (by omega))
  have hheart : ((i (t₀ + 2)).posXH, (i (t₀ + 2)).posYH) = (i t₀).heart :=
    (h.heart (t₀ + 1) (by omega) (by omega)).trans (h.heart t₀ le_rfl (by omega))
  funext k
  rw [hr (t₀ + 2), Bullets.step_showBullet_tick (h.status (t₀ + 2) (by omega) (by omega)) htick
    (h.startBullet (t₀ + 2) (by omega) (by omega)) hhome, hheart, haddress, hshow, hpos]
  rfl

/-- The positions, one clock after the tick has moved the lanes that were shown. -/
theorem Bullets.IsFrame.position_eq :
    (r (t₀ + 4)).position = ((r t₀).frame.step (Bullets.frameInputs rom i r t₀)).position := by
  have hlen := h.apart
  obtain ⟨hshow, hpos, -⟩ := h.at_tick hr h₀
  have htick : (r (t₀ + 2)).frameClk.risingEdge = true :=
    (h.risingEdge_iff hr (by omega) (by omega)).mpr rfl
  have hquiet : (r (t₀ + 3)).frameClk.risingEdge = false :=
    h.no_tick hr (by omega) (by omega) (by omega)
  have hvisible := h.showBullet_eq hr h₀
  funext k
  -- a lane that is shown after the tick stays, the others go home now
  have hlater : (r (t₀ + 4)).position k =
      if (r (t₀ + 3)).showBullet k then (r (t₀ + 3)).position k else laneInit k := by
    cases hk : (r (t₀ + 3)).showBullet k with
    | false => rw [hr (t₀ + 3), Bullets.step_position_hidden hk]; rfl
    | true =>
        rw [hr (t₀ + 3), Bullets.position,
          Bullets.step_bullet_shown (h.status (t₀ + 3) (by omega) (by omega)) hquiet hk]
        rfl
  rw [hlater, BattleFrame.step_position, hvisible]
  cases hv : ((r t₀).frame.step (Bullets.frameInputs rom i r t₀)).visible k with
  | false => rfl
  | true =>
      cases hk : (r t₀).showBullet k with
      | false =>
          rw [if_pos rfl, hr (t₀ + 2), Bullets.step_position_hidden (by rw [hshow, hk])]
          simp [Bullets.frame, hk]
      | true =>
          obtain ⟨hx, hy⟩ := h.motion hr h₀ hk
          have hpast : pastLimit k ((r t₀).position k) = false :=
            BattleFrame.pastLimit_of_visible hk hv
          rw [if_pos rfl, hr (t₀ + 2), Bullets.step_position_tick
            (h.status (t₀ + 2) (by omega) (by omega)) htick (by rw [hshow, hk]) hx hy, hpos, hpast]
          simp [Bullets.frame, Bullets.frameInputs, hk]

/-- A frame of the registers is a step of the frames, and ends settled. -/
theorem Bullets.IsFrame.frame_eq :
    (r t₁).frame = (r t₀).frame.step (Bullets.frameInputs rom i r t₀) ∧ (r t₁).Settled := by
  have hlen := h.apart
  have hlast : (r t₁).showBullet = (r (t₀ + 3)).showBullet ∧
      (r t₁).position = (r (t₀ + 4)).position ∧ (r t₁).Home := by
    have hquiet : (r (t₀ + 3)).frameClk.risingEdge = false :=
      h.no_tick hr (by omega) (by omega) (by omega)
    have hs := h.status (t₀ + 3) (by omega) (by omega)
    have hb := h.startBullet (t₀ + 3) (by omega) (by omega)
    refine preserved (P := fun n => (r n).showBullet = (r (t₀ + 3)).showBullet ∧
      (r n).position = (r (t₀ + 4)).position ∧ (r n).Home) (m := t₀ + 4) (by omega) ?_ ?_
    · refine ⟨?_, rfl, ?_⟩
      · rw [hr (t₀ + 3), Bullets.step_showBullet_quiet hs hquiet hb]
      · rw [hr (t₀ + 3)]
        exact Bullets.step_home hs hquiet hb
    · rintro n hn hn' ⟨hshow, hpos, hhome⟩
      obtain ⟨hshow', hpos', hhome'⟩ := h.succ_eq hr (by omega) (by omega)
        (h.no_tick hr (by omega) (by omega) (by omega)) hhome
      exact ⟨hshow'.trans hshow, hpos'.trans hpos, hhome'⟩
  obtain ⟨hshow, hpos, hhome⟩ := hlast
  refine ⟨BattleFrame.ext (h.hp_eq hr h₀) ?_ ?_, h.no_tick hr (by omega) le_rfl (by omega), hhome⟩
  · exact hshow.trans (h.showBullet_eq hr h₀)
  · exact hpos.trans (h.position_eq hr h₀)

end frame

/-! ## The whole battle -/

/-- `t 0`, …, `t N` are successive rising edges of the frame clock in a battle with
bullets: from the first to the last the status is 5 and `start_bullet` is up.  The
cycle before the first edge belongs to this battle or to another scene.  Rising
edges are six clocks apart, and the heart changes right after ticks, hence not in
the two clocks between an edge and its tick.  The run begins three clocks or more
before the first edge, so that the edge detector has seen the frame clock. -/
structure Bullets.IsBattle (i : ℕ → BulletsInputs) (t : ℕ → ℕ) (N : ℕ) : Prop where
  started : 3 ≤ t 0
  rises : ∀ j ≤ N, Rises (BulletsInputs.vs i) (t j)
  lt : ∀ j < N, t j < t (j + 1)
  between : ∀ j < N, ∀ n, t j < n → n < t (j + 1) → ¬ Rises (BulletsInputs.vs i) n
  apart : ∀ m n, Rises (BulletsInputs.vs i) m → Rises (BulletsInputs.vs i) n → m < n → m + 6 ≤ n
  entered : (i (t 0 - 1)).status ≠ 5#4 ∨ (i (t 0 - 1)).startBullet = true
  status : ∀ n, t 0 ≤ n → n ≤ t N → (i n).status = 5#4
  startBullet : ∀ n, t 0 ≤ n → n ≤ t N → (i n).startBullet = true
  heart : ∀ j < N, ∀ n, t j ≤ n → n < t j + 2 → (i (n + 1)).heart = (i n).heart

section battle
variable {i : ℕ → BulletsInputs} {t : ℕ → ℕ} {N : ℕ} (h : Bullets.IsBattle i t N)
include h

theorem Bullets.IsBattle.mono {j k : ℕ} (hjk : j ≤ k) (hk : k ≤ N) : t j ≤ t k :=
  preserved (P := fun k => t j ≤ t k) hjk le_rfl
    fun l _ hl ih => ih.trans (h.lt l (Nat.lt_of_lt_of_le hl hk)).le

theorem Bullets.IsBattle.isFrame {j : ℕ} (hj : j < N) : Bullets.IsFrame i (t j) (t (j + 1)) where
  rises := h.rises j hj.le
  between := h.between j hj
  apart := h.apart _ _ (h.rises j hj.le) (h.rises (j + 1) hj) (h.lt j hj)
  status := fun n hn hn' => h.status n ((h.mono (Nat.zero_le j) hj.le).trans hn)
    (hn'.trans (h.mono hj le_rfl))
  startBullet := fun n hn hn' => h.startBullet n ((h.mono (Nat.zero_le j) hj.le).trans hn)
    (hn'.trans (h.mono hj le_rfl))
  heart := h.heart j hj

/-- In the clocks before the first edge no tick is pending. -/
theorem Bullets.IsBattle.no_tick {rom : Rom} {r : ℕ → Bullets}
    (hr : ∀ n, r (n + 1) = (r n).step rom (i n) (i (n + 1))) {n : ℕ} (hn : t 0 ≤ n + 3)
    (hn' : n + 2 ≤ t 0) : (r (n + 2)).frameClk.risingEdge = false := by
  refine risingEdge_eq_false (v := BulletsInputs.vs i) (e := fun n => (r n).frameClk)
    (fun n => by rw [hr n, Bullets.step_frameClk]; rfl) fun hrise => ?_
  have := h.apart n (t 0) hrise (h.rises 0 (Nat.zero_le N)) (by omega)
  omega

/-- The registers are settled at the first edge. -/
theorem Bullets.IsBattle.settled {rom : Rom} {r : ℕ → Bullets}
    (hr : ∀ n, r (n + 1) = (r n).step rom (i n) (i (n + 1))) : (r (t 0)).Settled := by
  have hstarted := h.started
  obtain ⟨m, hm⟩ : ∃ m, t 0 = m + 3 := ⟨t 0 - 3, by omega⟩
  have hquiet : (r (m + 3)).frameClk.risingEdge = false := h.no_tick hr (by omega) (by omega)
  have hquiet' : (r (m + 2)).frameClk.risingEdge = false := h.no_tick hr (by omega) (by omega)
  have hentered := h.entered
  rw [hm] at hentered ⊢
  refine ⟨hquiet, ?_⟩
  rw [hr (m + 2)]
  rcases eq_or_ne (i (m + 2)).status 5#4 with hs | hs
  · exact Bullets.step_home hs hquiet' (hentered.resolve_left fun hne => hne hs)
  · intro k _
    unfold Bullets.position
    rw [(Bullets.step_lanes_outside rom _ _ _ hs).2, Lane.pos_init]

end battle

/-- `bullets_move` refines the frames: sampled at the rising edges of the frame
clock in a battle, the registers are the run of the frames from the first sample. -/
theorem Bullets.frame_eq_run (rom : Rom) (i : ℕ → BulletsInputs) (r : Bullets) (t : ℕ → ℕ) (N : ℕ)
    (h : Bullets.IsBattle i t N) (j : ℕ) (hj : j ≤ N) :
    (Bullets.run rom i r (t j)).frame =
      Clocked.run
        (fun j => BattleFrame.step (Bullets.frameInputs rom i (Bullets.run rom i r) (t j)))
        (Bullets.run rom i r (t 0)).frame j := by
  have hr : ∀ n, Bullets.run rom i r (n + 1) =
      (Bullets.run rom i r n).step rom (i n) (i (n + 1)) := fun _ => rfl
  -- the settled registers are the invariant of the induction on the frames
  suffices hrun : (Bullets.run rom i r (t j)).frame = _ ∧ (Bullets.run rom i r (t j)).Settled from
    hrun.1
  induction j with
  | zero => exact ⟨rfl, h.settled hr⟩
  | succ j ih =>
      obtain ⟨hframe, hsettled⟩ := ih (Nat.le_of_succ_le hj)
      obtain ⟨hframe', hsettled'⟩ := (h.isFrame hj).frame_eq hr hsettled
      rw [run_succ, ← hframe]
      exact ⟨hframe', hsettled'⟩

/-- A battle with a frame clock of six cycles and a heart that stays in the way of
lane 4. -/
def steadyBattle (n : ℕ) : BulletsInputs where
  frameClk := 3 ≤ n % 6
  counter := 7#10
  status := 5#4
  difficulty := 3#2
  posXH := 510#10
  posYH := 309#10
  startBullet := true

theorem steadyBattle_rises (n : ℕ) : Rises (BulletsInputs.vs steadyBattle) n ↔ n % 6 = 2 := by
  simp only [Rises, BulletsInputs.vs, steadyBattle, decide_eq_false_iff_not, decide_eq_true_eq]
  omega

theorem steadyBattle_isBattle (N : ℕ) :
    Bullets.IsBattle steadyBattle (fun j => 6 * j + 8) N where
  started := by decide
  rises := fun j _ => (steadyBattle_rises _).mpr (by omega)
  lt := fun j _ => by omega
  between := fun j _ n hn hn' => by
    rw [steadyBattle_rises]
    omega
  apart := fun m n hm hn hmn => by
    rw [steadyBattle_rises] at hm hn
    omega
  entered := .inr rfl
  status := fun _ _ _ => rfl
  startBullet := fun _ _ _ => rfl
  heart := fun _ _ _ _ _ => rfl

/-- Two frames of it from power-up. -/
theorem Bullets.zero_frame_eq_run :
    (Bullets.run (fun _ => 4#4) steadyBattle Bullets.zero 20).frame =
      Clocked.run (fun j => BattleFrame.step (Bullets.frameInputs (fun _ => 4#4) steadyBattle
          (Bullets.run (fun _ => 4#4) steadyBattle Bullets.zero) (6 * j + 8)))
        (Bullets.run (fun _ => 4#4) steadyBattle Bullets.zero 8).frame 2 :=
  Bullets.frame_eq_run (fun _ => 4#4) steadyBattle Bullets.zero (fun j => 6 * j + 8) 2
    (steadyBattle_isBattle 2) 2 le_rfl

end Undertale
