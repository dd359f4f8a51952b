import Undertale.Clocked.Run
import Mathlib.Data.Fin.VecNotation
import Mathlib.Data.List.FinRange

/-!
# The bullets

`bullets_move` has fifteen lanes.  Each lane is a hand-written copy of the same
registers with its own starting point, direction and limit, spread over five
always blocks.  The copies are one definition here over `Lane`, and the lanes
are the table `lane` of the source's parameters.  Lanes 0 to 5 have no `Y`
registers and lanes 6 to 8 no `X` registers: the source reads the `Init`
parameter there, and so do `Lane.x` and `Lane.y`.

The module is clocked twice.  The lanes, the show flags and the edge detector
run on `Clk` (`Bullets.posedgeClk`).  HP, the ROM address and the sprite choice
run on the frame clock (`Bullets.posedgeFrameClk`), whose edge falls inside a
clock edge and sees the values that edge has just loaded.
-/

namespace Undertale

open Clocked

/-! ## Lanes -/

/-- The direction a lane moves in. -/
inductive Heading where
  | right | left | down | downRight | downLeft
deriving DecidableEq, Repr

/-- The parameters of one lane: its direction, its starting point and the
coordinate at which it ends (`X_Max`, `X_Min` or `Y_Max` by direction). -/
structure Lane where
  heading : Heading
  xInit : BitVec 10
  yInit : BitVec 10
  limit : BitVec 10

def bullet0 : Lane := ⟨.right, 120#10, 274#10, 633#10⟩
def bullet1 : Lane := ⟨.right, 120#10, 309#10, 633#10⟩
def bullet2 : Lane := ⟨.right, 120#10, 344#10, 633#10⟩
def bullet3 : Lane := ⟨.left, 520#10, 274#10, 5#10⟩
def bullet4 : Lane := ⟨.left, 520#10, 309#10, 5#10⟩
def bullet5 : Lane := ⟨.left, 520#10, 344#10, 5#10⟩
def bullet6 : Lane := ⟨.down, 279#10, 60#10, 473#10⟩
def bullet7 : Lane := ⟨.down, 320#10, 60#10, 473#10⟩
def bullet8 : Lane := ⟨.down, 361#10, 60#10, 473#10⟩
def bullet9 : Lane := ⟨.downRight, 115#10, 160#10, 473#10⟩
def bullet10 : Lane := ⟨.downRight, 145#10, 120#10, 473#10⟩
def bullet11 : Lane := ⟨.downRight, 175#10, 60#10, 473#10⟩
def bullet12 : Lane := ⟨.downLeft, 524#10, 160#10, 473#10⟩
def bullet13 : Lane := ⟨.downLeft, 494#10, 120#10, 473#10⟩
def bullet14 : Lane := ⟨.downLeft, 464#10, 60#10, 473#10⟩

/-- The fifteen lanes. -/
def lane : Fin 15 → Lane :=
  ![bullet0, bullet1, bullet2, bullet3, bullet4, bullet5, bullet6, bullet7, bullet8, bullet9,
    bullet10, bullet11, bullet12, bullet13, bullet14]

/-- The registers of one bullet. -/
structure Bullet where
  xPos : BitVec 10
  xMotion : BitVec 10
  yPos : BitVec 10
  yMotion : BitVec 10
deriving DecidableEq, Repr

/-- The `X` coordinate of a bullet as the drawing and collision logic reads it. -/
def Lane.x (l : Lane) (b : Bullet) : BitVec 10 :=
  match l.heading with
  | .down => l.xInit
  | _ => b.xPos

/-- The `Y` coordinate of a bullet as the drawing and collision logic reads it. -/
def Lane.y (l : Lane) (b : Bullet) : BitVec 10 :=
  match l.heading with
  | .right => l.yInit
  | .left => l.yInit
  | _ => b.yPos

/-- The bullet is at or past the end of its lane.  `bullet_edge` is this test
during a frame tick. -/
def Lane.atLimit (l : Lane) (b : Bullet) : Bool :=
  match l.heading with
  | .right => l.limit ≤ b.xPos
  | .left => b.xPos ≤ l.limit
  | _ => l.limit ≤ b.yPos

/-- The motion the lane loads into its `X` register. -/
def Lane.xMotion (l : Lane) (step : BitVec 10) : BitVec 10 :=
  match l.heading with
  | .right => step
  | .left => ~~~step + 1#10
  | .down => 0#10
  | .downRight => step
  | .downLeft => ~~~step + 1#10

/-- The motion the lane loads into its `Y` register. -/
def Lane.yMotion (l : Lane) (step : BitVec 10) : BitVec 10 :=
  match l.heading with
  | .right => 0#10
  | .left => 0#10
  | _ => step

/-- The bullet at its starting point. -/
def Lane.init (l : Lane) : Bullet where
  xPos := l.xInit
  xMotion := 0#10
  yPos := l.yInit
  yMotion := 0#10

/-- One clock edge of the position and motion registers of a lane.  `bullet_X_Step`
and `bullet_Y_Step` are both the difficulty. -/
def Lane.step (l : Lane) (status : BitVec 4) (risingEdge shown : Bool) (difficulty : BitVec 2)
    (b : Bullet) : Bullet :=
  if status ≠ 5#4 ∨ (risingEdge && l.atLimit b) = true ∨ shown = false then l.init
  else
    { xPos := if risingEdge then b.xPos + b.xMotion else b.xPos
      xMotion := l.xMotion (difficulty.setWidth 10)
      yPos := if risingEdge then b.yPos + b.yMotion else b.yPos
      yMotion := l.yMotion (difficulty.setWidth 10) }

/-! ## Collisions -/

/-- The test of one lane in the collision chain: the squared distance of the
bullet from the heart is at most `size * size`.  The differences are 32-bit
signed and cannot wrap. -/
def Lane.near (l : Lane) (b : Bullet) (posXH posYH : BitVec 10) : Bool :=
  let deltax : Int := (l.x b).toNat - posXH.toNat
  let deltay : Int := (l.y b).toNat - posYH.toNat
  deltax * deltax + deltay * deltay ≤ 13 * 13

/-- The test reads the position registers of the bullet only. -/
theorem Lane.near_congr {l : Lane} {b b' : Bullet} (hx : b.xPos = b'.xPos) (hy : b.yPos = b'.yPos) :
    l.near b = l.near b' := by
  have hlx : l.x b = l.x b' := by simp only [Lane.x, hx]
  have hly : l.y b = l.y b' := by simp only [Lane.y, hy]
  unfold Lane.near
  rw [hlx, hly]

/-- The lane the else-if chain settles on: the first one whose test holds. -/
def firstNear (near : Fin 15 → Bool) : Option (Fin 15) := (List.finRange 15).find? near

/-- The flags `is_collide0` to `is_collide14`. -/
def isCollide (near : Fin 15 → Bool) (k : Fin 15) : Bool := firstNear near == some k

/-- The HP block: one decrement for each collision flag, in 4 bits. -/
def nextHP (status : BitVec 4) (collide : Fin 15 → Bool) (hp : BitVec 4) : BitVec 4 :=
  if status ≠ 5#4 then 5#4
  else (List.finRange 15).foldl (fun hp k => if collide k then hp - 1#4 else hp) hp

/-- At most one flag is set, so a chain of decrements is at most one. -/
theorem foldl_isCollide {near : Fin 15 → Bool} {j : Fin 15} (hj : firstNear near = some j)
    {l : List (Fin 15)} (hl : l.Nodup) (hp : BitVec 4) :
    l.foldl (fun hp k => if isCollide near k then hp - 1#4 else hp) hp =
      if j ∈ l then hp - 1#4 else hp := by
  induction l generalizing hp with
  | nil => rfl
  | cons k l ih =>
      obtain ⟨hk, hl'⟩ := List.nodup_cons.mp hl
      rw [List.foldl_cons, ih hl']
      rcases eq_or_ne j k with rfl | hjk
      · simp [isCollide, hj, hk]
      · simp [isCollide, hj, hjk]

/-- A frame edge in battle takes one HP if some test of the chain holds, and none
otherwise. -/
theorem nextHP_battle (near : Fin 15 → Bool) (hp : BitVec 4) :
    nextHP 5#4 (isCollide near) hp = if (firstNear near).isSome then hp - 1#4 else hp := by
  cases h : firstNear near with
  | none =>
      have hnone : isCollide near = fun _ => false := by
        funext k
        simp [isCollide, h]
      simp [nextHP, hnone]
  | some j =>
      have hj := foldl_isCollide h (List.nodup_finRange 15) hp
      simp only [List.mem_finRange, if_true] at hj
      simpa [nextHP] using hj

theorem nextHP_outside {status : BitVec 4} (h : status ≠ 5#4) (collide : Fin 15 → Bool)
    (hp : BitVec 4) : nextHP status collide hp = 5#4 := by
  simp [nextHP, h]

/-! ## The module -/

/-- The registers of `bullets_move`. -/
@[ext]
structure Bullets where
  hp : BitVec 4
  bulletShape : Bool
  bAddress : BitVec 10
  inCounter : BitVec 6
  showBullet : Fin 15 → Bool
  bullet : Fin 15 → Bullet
  frameClk : EdgeDetector

/-- The registers at power-up. -/
def Bullets.zero : Bullets where
  hp := 0#4
  bulletShape := false
  bAddress := 0#10
  inCounter := 0#6
  showBullet := fun _ => false
  bullet := fun _ => ⟨0#10, 0#10, 0#10, 0#10⟩
  frameClk := ⟨false, false⟩

/-- The inputs of `bullets_move` in one cycle. -/
structure BulletsInputs where
  frameClk : Bool
  counter : BitVec 10
  status : BitVec 4
  difficulty : BitVec 2
  posXH : BitVec 10
  posYH : BitVec 10
  startBullet : Bool

/-- The contents of `rand_rom`. -/
abbrev Rom := BitVec 10 → BitVec 4

/-- The tests of the collision chain on the current registers. -/
def Bullets.near (posXH posYH : BitVec 10) (r : Bullets) (k : Fin 15) : Bool :=
  (lane k).near (r.bullet k) posXH posYH

/-- The collision flags on the current registers. -/
def Bullets.collide (posXH posYH : BitVec 10) (r : Bullets) : Fin 15 → Bool :=
  isCollide (r.near posXH posYH)

/-- `show_bullet_in`: the ROM shows a lane, and an edge or a collision hides one. -/
def Bullets.showBulletIn (rom : Rom) (i : BulletsInputs) (r : Bullets) (k : Fin 15) : Bool :=
  if r.frameClk.risingEdge then
    if (lane k).atLimit (r.bullet k) || r.collide i.posXH i.posYH k then false
    else if (rom r.bAddress).toNat = k then true
    else r.showBullet k
  else r.showBullet k

/-- The blocks of `bullets_move` at a posedge of `Clk`. -/
def Bullets.posedgeClk (rom : Rom) (i : BulletsInputs) (r : Bullets) : Bullets :=
  { r with
    showBullet := fun k =>
      if i.status ≠ 5#4 ∨ i.startBullet = false then false else r.showBulletIn rom i k
    bullet := fun k =>
      (lane k).step i.status r.frameClk.risingEdge (r.showBullet k) i.difficulty (r.bullet k)
    frameClk := r.frameClk.step i.frameClk }

/-- The counter block: which sprite is drawn, and when the ROM address moves on. -/
def Bullets.counterStep (status : BitVec 4) (counter : BitVec 10) (r : Bullets) : Bullets :=
  if status ≠ 5#4 then { r with bulletShape := false, bAddress := 0#10, inCounter := 0#6 }
  else if r.inCounter ≤ 15#6 then
    { r with bulletShape := false, inCounter := r.inCounter + 1#6 }
  else if r.inCounter < 30#6 then { r with bulletShape := true, inCounter := r.inCounter + 1#6 }
  else if r.inCounter = 30#6 then
    { r with bAddress := counter, bulletShape := true, inCounter := r.inCounter + 1#6 }
  else if r.inCounter ≤ 45#6 then
    { r with bulletShape := false, inCounter := r.inCounter + 1#6 }
  else if r.inCounter < 60#6 then { r with bulletShape := true, inCounter := r.inCounter + 1#6 }
  else if 60#6 ≤ r.inCounter then { r with bAddress := counter, inCounter := 0#6 }
  else { r with inCounter := r.inCounter + 1#6 }

/-- The blocks of `bullets_move` at a posedge of `frame_clk`. -/
def Bullets.posedgeFrameClk (status : BitVec 4) (posXH posYH : BitVec 10) (counter : BitVec 10)
    (r : Bullets) : Bullets :=
  { r.counterStep status counter with hp := nextHP status (r.collide posXH posYH) r.hp }

/-- One clock edge of `bullets_move` between cycles with inputs `i` and `i'`.
The `Clk` blocks sample `i`.  If the frame clock rises, its blocks run on the
values after the edge; the free-running `counter` changes at that same frame
edge and is sampled before it. -/
def Bullets.step (rom : Rom) (i i' : BulletsInputs) (r : Bullets) : Bullets :=
  if i.frameClk = false ∧ i'.frameClk = true then
    (r.posedgeClk rom i).posedgeFrameClk i'.status i'.posXH i'.posYH i.counter
  else r.posedgeClk rom i

/-- The registers of the frame clock. -/
def Bullets.frameRegs (r : Bullets) : BitVec 4 × Bool × BitVec 10 × BitVec 6 :=
  (r.hp, r.bulletShape, r.bAddress, r.inCounter)

/-! ## The clock edge, by register

The frame clock moves HP, the ROM address and the sprite counter.  The lanes, the
show flags and the edge detector are the ones the `Clk` blocks leave. -/

section step
variable (rom : Rom) (i i' : BulletsInputs) (r : Bullets)

/-- The counter block writes the sprite, the ROM address and its count, and nothing
else. -/
theorem Bullets.exists_counterStep_eq (status : BitVec 4) (counter : BitVec 10) :
    ∃ shape address count, r.counterStep status counter =
      { r with bulletShape := shape, bAddress := address, inCounter := count } := by
  unfold Bullets.counterStep
  repeat' split
  all_goals exact ⟨_, _, _, rfl⟩

@[simp] theorem Bullets.posedgeFrameClk_bullet (status : BitVec 4)
    (posXH posYH counter : BitVec 10) :
    (r.posedgeFrameClk status posXH posYH counter).bullet = r.bullet := by
  obtain ⟨shape, address, count, heq⟩ := r.exists_counterStep_eq status counter
  rw [Bullets.posedgeFrameClk, heq]

@[simp] theorem Bullets.posedgeFrameClk_showBullet (status : BitVec 4)
    (posXH posYH counter : BitVec 10) :
    (r.posedgeFrameClk status posXH posYH counter).showBullet = r.showBullet := by
  obtain ⟨shape, address, count, heq⟩ := r.exists_counterStep_eq status counter
  rw [Bullets.posedgeFrameClk, heq]

@[simp] theorem Bullets.posedgeFrameClk_frameClk (status : BitVec 4)
    (posXH posYH counter : BitVec 10) :
    (r.posedgeFrameClk status posXH posYH counter).frameClk = r.frameClk := by
  obtain ⟨shape, address, count, heq⟩ := r.exists_counterStep_eq status counter
  rw [Bullets.posedgeFrameClk, heq]

theorem Bullets.step_bullet (k : Fin 15) :
    (r.step rom i i').bullet k =
      (lane k).step i.status r.frameClk.risingEdge (r.showBullet k) i.difficulty (r.bullet k) := by
  unfold Bullets.step
  split
  · rw [Bullets.posedgeFrameClk_bullet]; rfl
  · rfl

theorem Bullets.step_showBullet (k : Fin 15) :
    (r.step rom i i').showBullet k =
      if i.status ≠ 5#4 ∨ i.startBullet = false then false else r.showBulletIn rom i k := by
  unfold Bullets.step
  split
  · rw [Bullets.posedgeFrameClk_showBullet]; rfl
  · rfl

theorem Bullets.step_frameClk : (r.step rom i i').frameClk = r.frameClk.step i.frameClk := by
  unfold Bullets.step
  split
  · rw [Bullets.posedgeFrameClk_frameClk]; rfl
  · rfl

/-- A frame edge tests the bullets where it leaves them. -/
theorem Bullets.step_hp :
    (r.step rom i i').hp =
      if i.frameClk = false ∧ i'.frameClk = true then
        nextHP i'.status ((r.step rom i i').collide i'.posXH i'.posYH) r.hp
      else r.hp := by
  unfold Bullets.step
  split
  · have hcollide : Bullets.collide i'.posXH i'.posYH ((r.posedgeClk rom i).posedgeFrameClk
        i'.status i'.posXH i'.posYH i.counter) =
        Bullets.collide i'.posXH i'.posYH (r.posedgeClk rom i) := by
      unfold Bullets.collide Bullets.near
      rw [Bullets.posedgeFrameClk_bullet]
    rw [hcollide]
    rfl
  · rfl

/-- Between frame edges the registers of the frame clock hold. -/
theorem Bullets.step_frameRegs_hold (h : ¬ (i.frameClk = false ∧ i'.frameClk = true)) :
    (r.step rom i i').frameRegs = r.frameRegs := by
  rw [Bullets.step, if_neg h]
  rfl

/-- A frame edge outside the battle clears them. -/
theorem Bullets.step_frameRegs_outside (h : i.frameClk = false ∧ i'.frameClk = true)
    (hs : i'.status ≠ 5#4) : (r.step rom i i').frameRegs = (5#4, false, 0#10, 0#6) := by
  rw [Bullets.step, if_pos h, Bullets.posedgeFrameClk, Bullets.counterStep, if_pos hs,
    nextHP_outside hs]
  rfl

/-- An edge out of another scene sends every lane home. -/
theorem Bullets.step_lanes_outside (h : i.status ≠ 5#4) :
    (r.step rom i i').showBullet = (fun _ => false) ∧
      (r.step rom i i').bullet = fun k => (lane k).init := by
  constructor
  · funext k
    rw [Bullets.step_showBullet, if_pos (.inl h)]
  · funext k
    rw [Bullets.step_bullet, Lane.step, if_pos (.inl h)]

end step

end Undertale
