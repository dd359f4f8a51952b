import Undertale.Layers
import Undertale.CleanStart
import Mathlib.Logic.Function.Basic
import Mathlib.Tactic.FinCases

/-!
# The colour mapper

The mapper gives a pixel the colour of the first layer of a fixed order whose flag is up.
Two kinds of layers are transparent: Frisk where the colour is white, and the bullets
where it is black.  Under them the mapper draws the layers that it names in that branch,
not the rest of the order.

Frisk's branch is forty copies of one block (`leaf`), over four directions and the four
quarters of the walk counter, for each of the two maps.
-/

namespace Undertale

open Clocked

/-! ## Colours -/

/-- A colour, `{red, green, blue}`. -/
abbrev Color := BitVec 24

def white : Color := 0xffffff#24

def black : Color := 0x000000#24

/-- The contents of the sprite memories with their palettes, by address.  Frisk's sprites
and the pictures are numbered as in the source, from 1. -/
structure Art where
  title : BitVec 20 → Color
  intro : ℕ → BitVec 20 → Color
  map1 : BitVec 20 → Color
  door : BitVec 20 → Color
  frisk : ℕ → BitVec 20 → Color
  map2 : BitVec 20 → Color
  bullet1 : BitVec 20 → Color
  bullet2 : BitVec 20 → Color
  heart : BitVec 20 → Color
  field : BitVec 20 → Color
  flower : ℕ → BitVec 20 → Color
  win : BitVec 20 → Color
  lose : BitVec 20 → Color

/-- The `color_out` signals of a pixel: `f` and `f2` are Frisk's sprites on the two maps. -/
structure Colors where
  t : Color
  i : ℕ → Color
  m1 : Color
  d : Color
  f : ℕ → Color
  m2 : Color
  f2 : ℕ → Color
  b : Color
  h : Color
  fi : Color
  fl : ℕ → Color
  win : Color
  lose : Color

/-- The colours the memories give for a pixel. -/
def Game.colors (art : Art) (g : Game) (p : Pixel) : Colors :=
  let status := g.scene.status
  let bullets := g.sprites.bullets
  { t := art.title (titleWindow.address status p.place)
    i := fun k => art.intro k (Intro.address status p)
    m1 := art.map1 (map1Window.address status (g.sprites.map1.dist p))
    d := art.door (doorWindow.address status (g.sprites.door.dist p))
    f := fun k => art.frisk k (friskWindow.address status (g.sprites.frisk.dist p))
    m2 := art.map2 (map2Window.address status p.place)
    f2 := fun k => art.frisk k (frisk2Window.address status (g.sprites.frisk2.dist p))
    b :=
      if bullets.bulletShape = false then art.bullet1 (bullets.address status p)
      else art.bullet2 (bullets.address status p)
    h := art.heart (heartWindow.address status (g.sprites.heart.mover.dist p))
    fi := art.field (fieldWindow.address status p.place)
    fl := fun k => art.flower k (flowerWindow.address status p.place)
    win := art.win (winWindow.address status p.place)
    lose := art.lose (loseWindow.address status p.place) }

/-! ## The mapper -/

/-- A block of Frisk's branch: the colour it tests, the colour it shows, and what it draws
instead if the test finds white. -/
def leaf (tested shown below : Color) : Color := if tested = white then below else shown

/-- Frisk's branch for the first map. -/
def friskColor (direction : BitVec 2) (isPress : Bool) (counter : BitVec 6) (f : ℕ → Color)
    (below : Color) : Color :=
  if direction = 0#2 then
    if isPress then
      if counter ≤ 15#6 then leaf (f 5) (f 5) below
      else if counter ≤ 30#6 then leaf (f 1) (f 1) below
      else if counter ≤ 45#6 then leaf (f 6) (f 6) below
      else leaf (f 1) (f 1) below
    else leaf (f 1) (f 1) below
  else if direction = 1#2 then
    if isPress then
      if counter ≤ 15#6 then leaf (f 8) (f 8) below
      else if counter ≤ 30#6 then leaf (f 2) (f 2) below
      else if counter ≤ 45#6 then leaf (f 7) (f 7) below
      else leaf (f 2) (f 2) below
    else leaf (f 2) (f 2) below
  else if direction = 2#2 then
    if isPress then
      if counter ≤ 15#6 then leaf (f 9) (f 9) below
      else if counter ≤ 30#6 then leaf (f 3) (f 3) below
      else if counter ≤ 45#6 then leaf (f 9) (f 9) below
      else leaf (f 3) (f 3) below
    else leaf (f 3) (f 3) below
  else
    if isPress then
      if counter ≤ 15#6 then leaf (f 10) (f 10) below
      else if counter ≤ 30#6 then leaf (f 4) (f 4) below
      else if counter ≤ 45#6 then leaf (f 10) (f 10) below
      else leaf (f 4) (f 4) below
    else leaf (f 4) (f 4) below

/-- Frisk's branch for the second map. -/
def frisk2Color (direction : BitVec 2) (isPress : Bool) (counter : BitVec 6) (f : ℕ → Color)
    (below : Color) : Color :=
  if direction = 0#2 then
    if isPress then
      if counter ≤ 15#6 then leaf (f 5) (f 5) below
      else if counter ≤ 30#6 then leaf (f 1) (f 1) below
      else if counter ≤ 45#6 then leaf (f 6) (f 6) below
      else leaf (f 1) (f 1) below
    else leaf (f 1) (f 1) below
  else if direction = 1#2 then
    if isPress then
      if counter ≤ 15#6 then leaf (f 8) (f 8) below
      else if counter ≤ 30#6 then leaf (f 2) (f 2) below
      else if counter ≤ 45#6 then leaf (f 7) (f 7) below
      else leaf (f 2) (f 2) below
    else leaf (f 2) (f 2) below
  else if direction = 2#2 then
    if isPress then
      if counter ≤ 15#6 then leaf (f 9) (f 9) below
      else if counter ≤ 30#6 then leaf (f 3) (f 3) below
      else if counter ≤ 45#6 then leaf (f 9) (f 9) below
      else leaf (f 3) (f 3) below
    else leaf (f 3) (f 3) below
  else
    if isPress then
      if counter ≤ 15#6 then leaf (f 10) (f 10) below
      else if counter ≤ 30#6 then leaf (f 4) (f 4) below
      else if counter ≤ 45#6 then leaf (f 10) (f 10) below
      else leaf (f 4) (f 4) below
    else leaf (f 4) (f 4) below

/-- The mapper, on the flags and the colours of a pixel. -/
def mapper (blank : Bool) (direction : BitVec 2) (isPress : Bool) (counter : BitVec 6)
    (flag : Layer → Bool) (c : Colors) : Color :=
  if !blank then black
  else if flag .frisk then
    friskColor direction isPress counter c.f
      (if flag .map1 then c.m1 else if flag .door then c.d else black)
  else if flag .frisk2 then
    frisk2Color direction isPress counter c.f2 (if flag .map2 then c.m2 else black)
  else if flag .title then c.t
  else if flag (.intro 0) then c.i 1
  else if flag (.intro 1) then c.i 2
  else if flag (.intro 2) then c.i 3
  else if flag (.intro 3) then c.i 4
  else if flag (.intro 4) then c.i 5
  else if flag (.intro 5) then c.i 6
  else if flag (.intro 6) then c.i 7
  else if flag (.intro 7) then c.i 8
  else if flag (.intro 8) then c.i 9
  else if flag (.intro 9) then c.i 10
  else if flag .front then white
  else if flag .map1 then c.m1
  else if flag .door then c.d
  else if flag .map2 then c.m2
  else if flag .bullets then
    if c.b = black then
      if flag .heart then c.h
      else if flag .field then c.fi
      else if flag (.flower 2) then c.fl 3
      else black
    else c.b
  else if flag .heart then c.h
  else if flag .field then c.fi
  else if flag (.flower 0) then c.fl 1
  else if flag (.flower 1) then c.fl 2
  else if flag (.flower 2) then c.fl 3
  else if flag .win then c.win
  else if flag .lose then c.lose
  else black

/-- `{red, green, blue}` for the pixel `p`. -/
def Game.rgb (art : Art) (blank : Bool) (g : Game) (p : Pixel) : Color :=
  mapper blank g.direction g.isPress g.counter (g.flag p) (g.colors art p)

/-! ## Frisk

The sprites of a step are shown in the first and the third quarter of the walk counter. -/

/-- The quarter of the walk counter. -/
def quarter (counter : BitVec 6) : Fin 4 :=
  if counter ≤ 15#6 then 0 else if counter ≤ 30#6 then 1 else if counter ≤ 45#6 then 2 else 3

/-- The number of the sprite that shows Frisk. -/
def friskSprite (direction : BitVec 2) (isPress : Bool) (counter : BitVec 6) : ℕ :=
  match isPress, quarter counter with
  | true, 0 => ![5, 8, 9, 10] direction.toFin
  | true, 2 => ![6, 7, 9, 10] direction.toFin
  | _, _ => direction.toNat + 1

/-- A layer that is transparent where it is white. -/
def overlay (shown below : Color) : Color := if shown = white then below else shown

theorem direction_cases (d : BitVec 2) : d = 0#2 ∨ d = 1#2 ∨ d = 2#2 ∨ d = 3#2 := by
  revert d; decide

/-- A choice by the thresholds of the walk counter is one by its quarter. -/
theorem ite_quarter (counter : BitVec 6) (a b c d : Color) :
    (if counter ≤ 15#6 then a else if counter ≤ 30#6 then b else if counter ≤ 45#6 then c else d) =
      ![a, b, c, d] (quarter counter) := by
  unfold quarter
  repeat' split
  all_goals rfl

section frisk
variable (direction : BitVec 2) (isPress : Bool) (counter : BitVec 6) (f : ℕ → Color)
  (below : Color)

/-- The first map shows the selected sprite. -/
theorem friskColor_eq :
    friskColor direction isPress counter f below =
      overlay (f (friskSprite direction isPress counter)) below := by
  cases isPress with
  | false => rcases direction_cases direction with rfl | rfl | rfl | rfl <;> rfl
  | true =>
      simp only [friskColor, ite_quarter, friskSprite]
      generalize quarter counter = q
      rcases direction_cases direction with rfl | rfl | rfl | rfl <;> fin_cases q <;> rfl

/-- The second map selects the same sprite. -/
theorem frisk2Color_eq :
    frisk2Color direction isPress counter f below =
      overlay (f (friskSprite direction isPress counter)) below := by
  cases isPress with
  | false => rcases direction_cases direction with rfl | rfl | rfl | rfl <;> rfl
  | true =>
      simp only [frisk2Color, ite_quarter, friskSprite]
      generalize quarter counter = q
      rcases direction_cases direction with rfl | rfl | rfl | rfl <;> fin_cases q <;> rfl

end frisk

/-! ## Bullets

Under a black pixel of a bullet the mapper leaves out the layers `flower1` and `flower2`.
They are not up then: there are bullets in the third act of the flower only. -/

/-- The mapper under a black pixel of a bullet. -/
theorem mapper_bullets_off (blank : Bool) (direction : BitVec 2) (isPress : Bool)
    (counter : BitVec 6) {flag : Layer → Bool} {c : Colors} (hb : flag .bullets = true)
    (hblack : c.b = black) (h1 : flag (.flower 0) = false) (h2 : flag (.flower 1) = false)
    (hwin : flag .win = false) (hlose : flag .lose = false) :
    mapper blank direction isPress counter flag c =
      mapper blank direction isPress counter (Function.update flag .bullets false) c := by
  simp [mapper, hb, hblack, h1, h2, hwin, hlose]

/-- The flower is on its timeline, and bullets are in view after its 240th frame only. -/
def Arena.OnTime (a : Arena) : Prop :=
  ∃ t, a.flower = Flower.timeline t ∧ ∀ k, a.bullets.showBullet k = true → 240 < t

section arena
variable {rom : Rom} {i : ℕ → ArenaInputs} {a : ℕ → Arena}
  (ha : ∀ n, a (n + 1) = (a n).step rom (i n))
include ha

/-- An edge within a battle keeps it on time. -/
theorem Arena.OnTime.step {n : ℕ} (hn' : (a (n + 1)).scene = .battle) (h : (a n).OnTime) :
    (a (n + 1)).OnTime := by
  obtain ⟨t, hflower, -⟩ := h
  have hshown : ∀ k, (a (n + 1)).bullets.showBullet k = true → 240 < t := by
    intro k hk
    cases hstart : (a n).flower.startBullet with
    | true =>
        rw [hflower] at hstart
        exact of_decide_eq_true hstart
    | false =>
        rw [ha n, Arena.step, Bullets.step_showBullet, if_pos (.inr hstart)] at hk
        cases hk
  have hcore := Arena.core_succ ha
  rcases Classical.em (Rises (Core.vs fun k => (a k).core) n) with hr | hr
  · refine ⟨t + 1, ?_, fun k hk => Nat.lt_succ_of_lt (hshown k hk)⟩
    have hstep : (a (n + 1)).flower = (a n).flower.step (a (n + 1)).scene.status :=
      Core.flower_rises hcore hr
    rw [hstep, hflower, hn']
    exact Flower.step_timeline t
  · have hhold : (a (n + 1)).flower = (a n).flower := (Core.holds hcore hr).1
    exact ⟨t, hhold.trans hflower, hshown⟩

/-- Every battle is on time. -/
theorem Arena.onTime_of_battle (h0 : (a 0).scene = .title) (n : ℕ) (hn : (a n).scene = .battle) :
    (a n).OnTime := by
  refine @holds_inside (fun n => (a n).scene = .battle) (fun n => (a n).OnTime)
    (Scene.ne_battle h0) ?_ ?_ n hn
  · intro n hn hn'
    have hent : Core.Enters (fun k => (a k).core) n := ⟨hn, hn'⟩
    obtain ⟨-, hflower, -⟩ := Core.clear_of_enters (Arena.core_succ ha) (Scene.ne_map2 h0) hent
    refine ⟨0, hflower, fun k hk => ?_⟩
    rw [(Arena.lanes_outside ha hn).1] at hk
    cases hk
  · exact fun n _ hn' h => h.step ha hn'

end arena

/-- In every run from the title, a bullet in view in a battle means the third act. -/
theorem Game.flowerNum_of_shown (rom : Rom) (i : ℕ → GameInputs) (g : Game)
    (h0 : g.scene = .title) (n : ℕ) (hn : (Game.run rom i g n).scene = .battle) {k : Fin 15}
    (hk : (Game.run rom i g n).sprites.bullets.showBullet k = true) :
    (Game.run rom i g n).sprites.flower.flowerNum = 3#3 := by
  obtain ⟨t, hflower, hshown⟩ := Arena.onTime_of_battle
    (a := fun n => (Game.run rom i g n).arena)
    (i := fun n => (Game.run rom i g n).arenaInputs (i n)) (fun _ => rfl) h0 n hn
  have ht := hshown k hk
  have hnum : (Game.run rom i g n).sprites.flower = Flower.timeline t := hflower
  have h1 : ¬ t ≤ 1 := by omega
  have h2 : ¬ t ≤ 120 := by omega
  have h3 : ¬ t ≤ 240 := by omega
  rw [hnum, Flower.timeline]
  simp only [h1, h2, h3, if_false]

/-! ## Transparency -/

/-- In every state of every run from the title and every displayed pixel, Frisk's pixels
show the selected sprite, or, where it is white, the map or the door or black; and a black
pixel of a bullet shows what there would be without the bullet. -/
theorem Game.compositing (rom : Rom) (i : ℕ → GameInputs) (g : Game) (h0 : g.scene = .title)
    (art : Art) (n : ℕ) (p : Pixel) :
    let g := Game.run rom i g n
    let flag := g.flag p
    let c := g.colors art p
    let sprite := friskSprite g.direction g.isPress g.counter
    (flag .frisk = true → g.rgb art true p =
      overlay (c.f sprite) (if flag .map1 then c.m1 else if flag .door then c.d else black)) ∧
    (flag .frisk2 = true → g.rgb art true p =
      overlay (c.f2 sprite) (if flag .map2 then c.m2 else black)) ∧
    (flag .bullets = true → c.b = black → g.rgb art true p =
      mapper true g.direction g.isPress g.counter (Function.update flag .bullets false) c) := by
  intro g' flag c sprite
  have hscene : ∀ l, l ≠ .front → flag l = true → l.scene = g'.scene := fun l hl h =>
    Game.scene_of_flag hl h
  refine ⟨fun h => ?_, fun h => ?_, fun h hblack => ?_⟩
  · rw [Game.rgb, mapper, if_neg (by decide), if_pos h]
    exact friskColor_eq _ _ _ _ _
  · have hs := hscene .frisk2 (by decide) h
    have hfrisk : ¬ flag .frisk = true := by
      intro hf
      have := (hscene .frisk (by decide) hf).trans hs.symm
      cases this
    rw [Game.rgb, mapper, if_neg (by decide), if_neg hfrisk, if_pos h]
    exact frisk2Color_eq _ _ _ _ _
  · have hs := hscene .bullets (by decide) h
    obtain ⟨k, hk⟩ := Option.isSome_iff_exists.mp h
    have hnum := Game.flowerNum_of_shown rom i g h0 n hs.symm (Bullets.isBullet_eq_some hk).2
    have hend : ∀ l, l ≠ .front → l.scene ≠ .battle → flag l = false := by
      intro l hl hne
      cases hflag : flag l with
      | false => rfl
      | true => exact absurd ((hscene l hl hflag).trans hs.symm) hne
    refine mapper_bullets_off _ _ _ _ h hblack ?_ ?_ (hend .win (by decide) (by decide))
      (hend .lose (by decide) (by decide))
    · show (_ && g'.sprites.flower.flowerNum.toNat == 1) = false
      rw [hnum]
      exact Bool.and_false _
    · show (_ && g'.sprites.flower.flowerNum.toNat == 2) = false
      rw [hnum]
      exact Bool.and_false _

/-- The keys to the first map. -/
def map1Keys (n : ℕ) : GameInputs where
  reset := false
  keycode := if n = 0 then 0x28#8 else 0x1d#8

/-- White sprites, but for Frisk's first, which is red. -/
def redFrisk : Art where
  title := fun _ => white
  intro := fun _ _ => white
  map1 := fun _ => white
  door := fun _ => white
  frisk := fun k _ => if k = 1 then 0xff0000#24 else white
  map2 := fun _ => white
  bullet1 := fun _ => white
  bullet2 := fun _ => white
  heart := fun _ => white
  field := fun _ => white
  flower := fun _ _ => white
  win := fun _ => white
  lose := fun _ => white

/-- At the start of the first map Frisk is in his first sprite. -/
theorem Game.compositing_map1 :
    (Game.run (fun _ => 0#4) map1Keys Game.zero 2).rgb redFrisk true ⟨301#10, 191#10⟩ =
      0xff0000#24 :=
  (Game.compositing (fun _ => 0#4) map1Keys Game.zero rfl redFrisk 2 ⟨301#10, 191#10⟩).1
    (by decide)

end Undertale
