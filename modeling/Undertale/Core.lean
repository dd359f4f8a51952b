import Undertale.State
import Undertale.Frisk
import Undertale.Flower
import Undertale.Bullets
import Undertale.Vga

/-!
# The core of a battle

The modules that decide when a battle starts, how it goes and when it ends:
`state`, `frisk_move2`, `flower`, the HP block of `bullets_move`, and
`vga_controller`, whose `vs` is the frame clock.  Everything else is an input of
the core: the player's reset, the keycode, the door flag of the first map, and
the distance tests of the collision chain.  The chain itself is inside.

A run of the game, read on these registers, is a run of the core (`Arena.core_run`
and `Game.arena_run`).
-/

namespace Undertale

open Clocked

/-- The registers of the core. -/
@[ext]
structure Core where
  scene : Scene
  frisk2 : Mover
  flower : Flower
  hp : BitVec 4
  vga : Vga

/-- The registers at power-up. -/
def Core.zero : Core := ⟨.title, Mover.zero, Flower.clear, 0#4, Vga.init⟩

/-- The inputs of the core in one cycle.  `near` are the distance tests as they
stand after the edge. -/
structure CoreInputs where
  reset : Bool
  keycode : BitVec 8
  arrivedDoor : Bool
  near : Fin 15 → Bool

/-- What `state` samples. -/
def Core.stateInputs (i : CoreInputs) (c : Core) : StateInputs where
  reset := i.reset
  keycode := i.keycode
  arrivedDoor := i.arrivedDoor
  arrivedMonster := arrivedMonster c.scene.status c.frisk2
  hp := c.hp
  timeUp := c.flower.timeUp

/-- What `frisk_move2` samples. -/
def Core.moverInputs (i : CoreInputs) (c : Core) : MoverInputs where
  frameClk := c.vga.vs
  status := c.scene.status
  keycode := i.keycode

/-- One clock edge of the core. -/
def Core.step (i : CoreInputs) (c : Core) : Core :=
  let scene := c.scene.step (c.stateInputs i)
  let vga := c.vga.step false
  let rises := c.vga.vs = false ∧ vga.vs = true
  { scene := scene
    frisk2 := c.frisk2.step friskMove2 (c.moverInputs i)
    flower := if rises then c.flower.step scene.status else c.flower
    hp := if rises then nextHP scene.status (isCollide i.near) c.hp else c.hp
    vga := vga }

/-- A run of the core from the registers `c` on the inputs `i`. -/
def Core.run (i : ℕ → CoreInputs) (c : Core) : ℕ → Core := Clocked.run (fun n => Core.step (i n)) c

end Undertale
