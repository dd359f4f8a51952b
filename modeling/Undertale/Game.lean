import Undertale.State
import Undertale.Heart
import Undertale.Frisk
import Undertale.Vga
import Undertale.Flower
import Undertale.Bullets

/-!
# The game

The modules put together, in two layers.  `Sprites` is everything that moves on
the screen with the VGA controller that clocks it, and takes the scene as an
input.  `Game` adds the scene machine, the difficulty register and the frame
counters of `vga_text_avl_interface`, and takes the keycode and the player's
reset.

One step is one edge of `Clk` with everything that edge triggers.  The registers
on `Clk` sample the values before the edge.  If the edge raises `vs`, the blocks
on the frame clock then run, and they see the values the edge has loaded.  The
reset of the VGA controller comes from the SoC, whose reset input the top level
ties off, so it is low in every step.
-/

namespace Undertale

open Clocked

/-! ## The sprites -/

/-- The sprite modules and the VGA controller. -/
@[ext]
structure Sprites where
  vga : Vga
  heart : Heart
  frisk : Mover
  frisk2 : Mover
  map1 : Scroll
  door : Scroll
  flower : Flower
  bullets : Bullets

/-- The registers at power-up. -/
def Sprites.zero : Sprites :=
  ⟨Vga.init, Heart.zero, Mover.zero, Mover.zero, Scroll.zero, Scroll.zero, Flower.clear,
    Bullets.zero⟩

/-- The inputs of the sprites in one cycle.  `counter` is the free-running frame
counter. -/
structure SpritesInputs where
  status : BitVec 4
  keycode : BitVec 8
  difficulty : BitVec 2
  counter : BitVec 10

/-- What the movers sample. -/
def Sprites.moverInputs (i : SpritesInputs) (r : Sprites) : MoverInputs where
  frameClk := r.vga.vs
  status := i.status
  keycode := i.keycode

/-- What `bullets_move` samples. -/
def Sprites.bulletsInputs (i : SpritesInputs) (r : Sprites) : BulletsInputs where
  frameClk := r.vga.vs
  counter := i.counter
  status := i.status
  difficulty := i.difficulty
  posXH := r.heart.posXH
  posYH := r.heart.posYH
  startBullet := r.flower.startBullet

/-- One clock edge of the sprites.  `status'` is the status after the edge, which
is the one the frame-clock blocks see. -/
def Sprites.step (rom : Rom) (i : SpritesInputs) (status' : BitVec 4) (r : Sprites) : Sprites :=
  let m := r.moverInputs i
  let b := r.bulletsInputs i
  let vga := r.vga.step false
  let heart := r.heart.step m
  { vga := vga
    heart := heart
    frisk := r.frisk.step friskMove m
    frisk2 := r.frisk2.step friskMove2 m
    map1 := r.map1.step Undertale.map1 m
    door := r.door.step Undertale.door m
    flower := if r.vga.vs = false ∧ vga.vs = true then r.flower.step status' else r.flower
    bullets := r.bullets.step rom b
      { b with frameClk := vga.vs, status := status', posXH := heart.posXH, posYH := heart.posYH } }

/-! ## The whole game -/

/-- The registers of the game. -/
@[ext]
structure Game where
  scene : Scene
  difficulty : BitVec 2
  sprites : Sprites
  intro : Intro
  direction : BitVec 2
  isPress : Bool
  counter : BitVec 6
  counter2 : BitVec 10

/-- The registers at power-up. -/
def Game.zero : Game :=
  ⟨.title, 0#2, Sprites.zero, Intro.clear, 0#2, false, 0#6, 0#10⟩

/-- The inputs of the game in one cycle. -/
structure GameInputs where
  reset : Bool
  keycode : BitVec 8
deriving DecidableEq, Repr

/-- What `state` samples. -/
def Game.stateInputs (i : GameInputs) (g : Game) : StateInputs where
  reset := i.reset
  keycode := i.keycode
  arrivedDoor := arrivedDoor g.scene.status g.sprites.frisk
  arrivedMonster := arrivedMonster g.scene.status g.sprites.frisk2
  hp := g.sprites.bullets.hp
  timeUp := g.sprites.flower.timeUp

/-- What the sprites sample. -/
def Game.spritesInputs (i : GameInputs) (g : Game) : SpritesInputs where
  status := g.scene.status
  keycode := i.keycode
  difficulty := g.difficulty
  counter := g.counter2

/-- The difficulty register of `lab9`. -/
def nextDifficulty (status : BitVec 4) (keycode : BitVec 8) (d : BitVec 2) : BitVec 2 :=
  if status ≠ 5#4 then 1#2
  else if keycode = 30#8 then 1#2
  else if keycode = 31#8 then 2#2
  else if keycode = 32#8 then 3#2
  else d

/-- The direction Frisk faces, from the last direction key. -/
def nextDirection (keycode : BitVec 8) (d : BitVec 2) : BitVec 2 :=
  if keycode = 22#8 then 0#2
  else if keycode = 26#8 then 1#2
  else if keycode = 4#8 then 2#2
  else if keycode = 7#8 then 3#2
  else d

/-- A direction key is down. -/
def nextPress (keycode : BitVec 8) : Bool :=
  keycode == 22#8 || keycode == 26#8 || keycode == 4#8 || keycode == 7#8

/-- The walk-cycle counter at a frame edge. -/
def nextCounter (isPress : Bool) (c : BitVec 6) : BitVec 6 :=
  if isPress then if c + 1#6 = 60#6 then 0#6 else c + 1#6 else 0#6

/-- The free-running frame counter at a frame edge. -/
def nextCounter2 (c : BitVec 10) : BitVec 10 := if c = 1023#10 then 0#10 else c + 1#10

/-- One clock edge of the game. -/
def Game.step (rom : Rom) (i : GameInputs) (g : Game) : Game :=
  let scene := g.scene.step (g.stateInputs i)
  let sprites := g.sprites.step rom (g.spritesInputs i) scene.status
  let isPress := nextPress i.keycode
  let rises := g.sprites.vga.vs = false ∧ sprites.vga.vs = true
  { scene := scene
    difficulty := nextDifficulty g.scene.status i.keycode g.difficulty
    sprites := sprites
    intro := if rises then g.intro.step scene.status else g.intro
    direction := nextDirection i.keycode g.direction
    isPress := isPress
    counter := if rises then nextCounter isPress g.counter else g.counter
    counter2 := if rises then nextCounter2 g.counter2 else g.counter2 }

/-- A run of the game from the state `g` on the inputs `i`. -/
def Game.run (rom : Rom) (i : ℕ → GameInputs) (g : Game) : ℕ → Game :=
  Clocked.run (fun n => Game.step rom (i n)) g

/-- From power-up on the raster runs by itself. -/
theorem Game.zero_vga (rom : Rom) (i : ℕ → GameInputs) (n : ℕ) :
    (Game.run rom i Game.zero n).sprites.vga = Vga.scan n :=
  run_map (fun g : Game => g.sprites.vga) (fun _ => rfl) n

theorem Game.zero_rises (rom : Rom) (i : ℕ → GameInputs) {n : ℕ} (hn : 0 < n) :
    Rises (fun k => (Game.run rom i Game.zero k).sprites.vga.vs) n ↔ n % 840000 = 785600 := by
  simp only [Game.zero_vga]
  exact Vga.rises_scan_iff hn

/-- A mover at its starting point stays there without a direction key. -/
theorem Mover.step_init_released {p : MoverParams} {i : MoverInputs} {e : EdgeDetector}
    (hkey : nextPress i.keycode = false) :
    (Mover.init p e).step p i = Mover.init p (e.step i.frameClk) := by
  simp only [nextPress, Bool.or_eq_false_iff, beq_eq_false_iff_ne] at hkey
  obtain ⟨⟨⟨h22, h26⟩, h4⟩, h7⟩ := hkey
  rcases eq_or_ne i.status p.status with hs | hs
  · cases ht : e.risingEdge with
    | false => exact Mover.step_idle hs ht
    | true =>
        rw [Mover.step_tick hs ht]
        simp [Mover.tick, Mover.decision, Mover.init, h22, h26, h4, h7]
  · exact Mover.step_outside hs

end Undertale
