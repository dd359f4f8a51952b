import Undertale.Game
import Undertale.Fonts

/-!
# The layers

Every module that draws raises a flag in the pixels of its sprite, and gives the address
of the pixel's colour in its memory.  The sprites are rectangles, on the screen or around
a position register, and a module draws in its own scene.

The text of the introduction is the one layer whose flag does not ask for the scene
(`Game.scene_of_flag`).
-/

namespace Undertale

/-! ## Sprites -/

/-- The rectangle of a sprite and the `status` it is drawn in.  The right and the lower
end are not in it. -/
structure Window where
  status : BitVec 4
  left : ℤ
  right : ℤ
  top : ℤ
  bottom : ℤ

/-- The point `d` is in the rectangle. -/
def Window.covers (w : Window) (status : BitVec 4) (d : ℤ × ℤ) : Bool :=
  w.left ≤ d.1 && d.1 < w.right && w.top ≤ d.2 && d.2 < w.bottom && status == w.status

/-- The address of the colour of the point `d`, whose rows are as wide as the rectangle. -/
def Window.address (w : Window) (status : BitVec 4) (d : ℤ × ℤ) : BitVec 20 :=
  if w.covers status d then BitVec.ofInt 20 (d.1 - w.left + (d.2 - w.top) * (w.right - w.left))
  else 0#20

def titleWindow : Window := ⟨1#4, 224, 416, 224, 256⟩
def introWindow1 : Window := ⟨2#4, 79, 278, 80, 187⟩
def introWindow2 : Window := ⟨2#4, 360, 559, 80, 187⟩
def map1Window : Window := ⟨3#4, -510, 240, 180, 300⟩
def doorWindow : Window := ⟨3#4, 0, 182, 22, 180⟩
def friskWindow : Window := ⟨3#4, 0, 38, 0, 58⟩
def map2Window : Window := ⟨4#4, 162, 478, 204, 304⟩
def frisk2Window : Window := ⟨4#4, 0, 38, 0, 58⟩
def heartWindow : Window := ⟨5#4, -8, 8, -8, 8⟩
def fieldWindow : Window := ⟨5#4, 238, 403, 239, 379⟩
def flowerWindow : Window := ⟨5#4, 279, 361, 124, 210⟩
def bulletWindow : Window := ⟨5#4, -6, 6, -6, 6⟩
def winWindow : Window := ⟨6#4, 174, 466, 222, 258⟩
def loseWindow : Window := ⟨7#4, 164, 476, 222, 258⟩

/-- A pixel on the screen. -/
def Pixel.place (p : Pixel) : ℤ × ℤ := (p.drawX.toNat, p.drawY.toNat)

/-- `DistX` and `DistY` of a mover. -/
def Mover.dist (r : Mover) (p : Pixel) : ℤ × ℤ :=
  (p.drawX.toNat - r.xPos.toNat, p.drawY.toNat - r.yPos.toNat)

/-- `DistX` of a scrolling background, which stays in its rows. -/
def Scroll.dist (r : Scroll) (p : Pixel) : ℤ × ℤ :=
  (p.drawX.toNat - r.xPos.toNat, p.drawY.toNat)

/-- `DistX` and `DistY` of a bullet. -/
def Bullets.dist (r : Bullets) (p : Pixel) (k : Fin 15) : ℤ × ℤ :=
  (p.drawX.toNat - ((lane k).x (r.bullet k)).toNat, p.drawY.toNat - ((lane k).y (r.bullet k)).toNat)

/-! ## Modules with several sprites -/

/-- `is_intro1` to `is_intro10`.  The pictures of the odd pages are on the left, those of
the even pages on the right. -/
def Intro.isIntro (status : BitVec 4) (r : Intro) (p : Pixel) (k : Fin 10) : Bool :=
  if introWindow1.covers status p.place then k.val % 2 == 0 && r.introNum1.toNat == k.val + 1
  else if introWindow2.covers status p.place then k.val % 2 == 1 && r.introNum2.toNat == k.val + 1
  else false

/-- `intro_address`. -/
def Intro.address (status : BitVec 4) (p : Pixel) : BitVec 20 :=
  if introWindow1.covers status p.place then introWindow1.address status p.place
  else introWindow2.address status p.place

/-- `is_flower1` to `is_flower3`. -/
def Flower.isFlower (status : BitVec 4) (r : Flower) (p : Pixel) (k : Fin 3) : Bool :=
  flowerWindow.covers status p.place && r.flowerNum.toNat == k.val + 1

/-- The lane whose bullet is drawn: the first that is in view and covers the pixel, unless
this is the tick that ends it. -/
def Bullets.isBullet (status : BitVec 4) (r : Bullets) (p : Pixel) : Option (Fin 15) :=
  (List.finRange 15).find? fun k =>
    bulletWindow.covers status (r.dist p k) &&
      !(r.frameClk.risingEdge && (lane k).atLimit (r.bullet k)) && r.showBullet k

/-- `bullets_address`. -/
def Bullets.address (status : BitVec 4) (r : Bullets) (p : Pixel) : BitVec 20 :=
  match r.isBullet status p with
  | some k => bulletWindow.address status (r.dist p k)
  | none => 0#20

/-! ## The flags -/

/-- The layers of the picture, one for each flag. -/
inductive Layer where
  | title
  | intro (k : Fin 10)
  | front
  | map1
  | door
  | frisk
  | map2
  | frisk2
  | bullets
  | heart
  | field
  | flower (k : Fin 3)
  | win
  | lose
deriving DecidableEq, Repr

/-- The scene a layer belongs to. -/
def Layer.scene : Layer → Scene
  | .title => .title
  | .intro _ | .front => .intro
  | .map1 | .door | .frisk => .map1
  | .map2 | .frisk2 => .map2
  | .bullets | .heart | .field | .flower _ => .battle
  | .win => .win
  | .lose => .lose

/-- The flags of a pixel. -/
def Game.flag (g : Game) (p : Pixel) : Layer → Bool
  | .title => titleWindow.covers g.scene.status p.place
  | .intro k => g.intro.isIntro g.scene.status p k
  | .front => g.intro.isFront p
  | .map1 => map1Window.covers g.scene.status (g.sprites.map1.dist p)
  | .door => doorWindow.covers g.scene.status (g.sprites.door.dist p)
  | .frisk => friskWindow.covers g.scene.status (g.sprites.frisk.dist p)
  | .map2 => map2Window.covers g.scene.status p.place
  | .frisk2 => frisk2Window.covers g.scene.status (g.sprites.frisk2.dist p)
  | .bullets => (g.sprites.bullets.isBullet g.scene.status p).isSome
  | .heart => heartWindow.covers g.scene.status (g.sprites.heart.mover.dist p)
  | .field => fieldWindow.covers g.scene.status p.place
  | .flower k => g.sprites.flower.isFlower g.scene.status p k
  | .win => winWindow.covers g.scene.status p.place
  | .lose => loseWindow.covers g.scene.status p.place

/-! ## The scene of a flag -/

theorem Window.status_of_covers {w : Window} {status : BitVec 4} {d : ℤ × ℤ}
    (h : w.covers status d = true) : status = w.status := by
  simp only [covers, Bool.and_eq_true, beq_iff_eq] at h
  exact h.2

/-- A window is of the scene whose status it names. -/
theorem Window.scene_of_covers {w : Window} {s t : Scene} {d : ℤ × ℤ} (ht : w.status = t.status)
    (h : w.covers s.status d = true) : t = s :=
  Scene.status_inj.mp (ht.symm.trans (Window.status_of_covers h).symm)

theorem Intro.scene_of_isIntro {s : Scene} {r : Intro} {p : Pixel} {k : Fin 10}
    (h : r.isIntro s.status p k = true) : Scene.intro = s := by
  unfold Intro.isIntro at h
  split at h
  · next hcovers => exact Window.scene_of_covers (w := introWindow1) rfl hcovers
  · split at h
    · next hcovers => exact Window.scene_of_covers (w := introWindow2) rfl hcovers
    · cases h

theorem Bullets.isBullet_eq_some {status : BitVec 4} {r : Bullets} {p : Pixel} {k : Fin 15}
    (h : r.isBullet status p = some k) :
    bulletWindow.covers status (r.dist p k) = true ∧ r.showBullet k = true := by
  have hk := List.find?_some h
  simp only [Bool.and_eq_true] at hk
  exact ⟨hk.1.1, hk.2⟩

/-- Every flag but that of the text is up in the scene of its layer only. -/
theorem Game.scene_of_flag {g : Game} {p : Pixel} {l : Layer} (hl : l ≠ .front)
    (h : g.flag p l = true) : l.scene = g.scene := by
  cases l with
  | title => exact Window.scene_of_covers (w := titleWindow) rfl h
  | intro k => exact Intro.scene_of_isIntro h
  | front => exact absurd rfl hl
  | map1 => exact Window.scene_of_covers (w := map1Window) rfl h
  | door => exact Window.scene_of_covers (w := doorWindow) rfl h
  | frisk => exact Window.scene_of_covers (w := friskWindow) rfl h
  | map2 => exact Window.scene_of_covers (w := map2Window) rfl h
  | frisk2 => exact Window.scene_of_covers (w := frisk2Window) rfl h
  | bullets =>
      obtain ⟨k, hk⟩ := Option.isSome_iff_exists.mp h
      exact Window.scene_of_covers (w := bulletWindow) rfl (Bullets.isBullet_eq_some hk).1
  | heart => exact Window.scene_of_covers (w := heartWindow) rfl h
  | field => exact Window.scene_of_covers (w := fieldWindow) rfl h
  | flower k =>
      simp only [Game.flag, Flower.isFlower, Bool.and_eq_true] at h
      exact Window.scene_of_covers (w := flowerWindow) rfl h.1
  | win => exact Window.scene_of_covers (w := winWindow) rfl h
  | lose => exact Window.scene_of_covers (w := loseWindow) rfl h

end Undertale
