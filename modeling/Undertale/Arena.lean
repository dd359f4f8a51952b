import Undertale.Core
import Undertale.Game

/-!
# The arena

The core of a battle with what moves in it: the heart and the bullets.  The
distance tests of the collision chain are no longer inputs.  What is left out of
the game are the modules of the other scenes, so the door flag of the first map,
the difficulty and the free-running frame counter are inputs.

A run of the arena, read on the registers of the core, is a run of the core, and
a run of the game, read on the registers of the arena, is a run of the arena.
-/

namespace Undertale

open Clocked

/-- The registers of the arena. -/
@[ext]
structure Arena where
  scene : Scene
  vga : Vga
  frisk2 : Mover
  heart : Heart
  flower : Flower
  bullets : Bullets

/-- The registers at power-up. -/
def Arena.zero : Arena :=
  ⟨.title, Vga.init, Mover.zero, Heart.zero, Flower.clear, Bullets.zero⟩

/-- The inputs of the arena in one cycle. -/
structure ArenaInputs where
  reset : Bool
  keycode : BitVec 8
  arrivedDoor : Bool
  difficulty : BitVec 2
  counter : BitVec 10

/-- What `state` samples. -/
def Arena.stateInputs (i : ArenaInputs) (a : Arena) : StateInputs where
  reset := i.reset
  keycode := i.keycode
  arrivedDoor := i.arrivedDoor
  arrivedMonster := arrivedMonster a.scene.status a.frisk2
  hp := a.bullets.hp
  timeUp := a.flower.timeUp

/-- What the movers sample. -/
def Arena.moverInputs (i : ArenaInputs) (a : Arena) : MoverInputs where
  frameClk := a.vga.vs
  status := a.scene.status
  keycode := i.keycode

/-- What `bullets_move` samples. -/
def Arena.bulletsInputs (i : ArenaInputs) (a : Arena) : BulletsInputs where
  frameClk := a.vga.vs
  counter := i.counter
  status := a.scene.status
  difficulty := i.difficulty
  posXH := a.heart.posXH
  posYH := a.heart.posYH
  startBullet := a.flower.startBullet

/-- One clock edge of the arena. -/
def Arena.step (rom : Rom) (i : ArenaInputs) (a : Arena) : Arena :=
  let scene := a.scene.step (a.stateInputs i)
  let b := a.bulletsInputs i
  let vga := a.vga.step false
  let heart := a.heart.step (a.moverInputs i)
  { scene := scene
    vga := vga
    frisk2 := a.frisk2.step friskMove2 (a.moverInputs i)
    heart := heart
    flower :=
      if a.vga.vs = false ∧ vga.vs = true then a.flower.step scene.status else a.flower
    bullets := a.bullets.step rom b
      { b with
        frameClk := vga.vs, status := scene.status, posXH := heart.posXH, posYH := heart.posYH } }

/-- A run of the arena from the registers `a` on the inputs `i`. -/
def Arena.run (rom : Rom) (i : ℕ → ArenaInputs) (a : Arena) : ℕ → Arena :=
  Clocked.run (fun n => Arena.step rom (i n)) a

/-! ## The core of the arena -/

/-- The registers of the arena that the core has. -/
def Arena.core (a : Arena) : Core where
  scene := a.scene
  frisk2 := a.frisk2
  flower := a.flower
  hp := a.bullets.hp
  vga := a.vga

/-- The inputs the arena gives its core at an edge.  The distance tests are those
of the bullets and the heart after the edge. -/
def Arena.coreInputs (rom : Rom) (i : ArenaInputs) (a : Arena) : CoreInputs where
  reset := i.reset
  keycode := i.keycode
  arrivedDoor := i.arrivedDoor
  near := (a.step rom i).bullets.near (a.step rom i).heart.posXH (a.step rom i).heart.posYH

/-- One edge of the arena is one edge of its core. -/
theorem Arena.core_step (rom : Rom) (i : ArenaInputs) (a : Arena) :
    (a.step rom i).core = a.core.step (a.coreInputs rom i) := by
  have hhp : (a.step rom i).core.hp = (a.core.step (a.coreInputs rom i)).hp :=
    Bullets.step_hp _ _ _ _
  exact Core.ext rfl rfl rfl hhp rfl

/-- A run of the arena, read on the registers of the core, is a run of the core. -/
theorem Arena.core_run (rom : Rom) (i : ℕ → ArenaInputs) (a : Arena) (n : ℕ) :
    (Arena.run rom i a n).core =
      Core.run (fun n => (Arena.run rom i a n).coreInputs rom (i n)) a.core n := by
  refine run_map Arena.core (fun n => ?_) n
  exact Arena.core_step rom (i n) (Arena.run rom i a n)

/-! ## The arena of the game -/

/-- The registers of the game that the arena has. -/
def Game.arena (g : Game) : Arena where
  scene := g.scene
  vga := g.sprites.vga
  frisk2 := g.sprites.frisk2
  heart := g.sprites.heart
  flower := g.sprites.flower
  bullets := g.sprites.bullets

/-- The inputs the game gives its arena at an edge. -/
def Game.arenaInputs (i : GameInputs) (g : Game) : ArenaInputs where
  reset := i.reset
  keycode := i.keycode
  arrivedDoor := arrivedDoor g.scene.status g.sprites.frisk
  difficulty := g.difficulty
  counter := g.counter2

/-- One edge of the game is one edge of its arena. -/
theorem Game.arena_step (rom : Rom) (i : GameInputs) (g : Game) :
    (g.step rom i).arena = g.arena.step rom (g.arenaInputs i) := rfl

/-- A run of the game, read on the registers of the arena, is a run of the arena. -/
theorem Game.arena_run (rom : Rom) (i : ℕ → GameInputs) (g : Game) (n : ℕ) :
    (Game.run rom i g n).arena =
      Arena.run rom (fun n => (Game.run rom i g n).arenaInputs (i n)) g.arena n := by
  refine run_map Game.arena (fun n => ?_) n
  exact Game.arena_step rom (i n) (Game.run rom i g n)

end Undertale
