import Undertale.IntroTimeline
import Undertale.Mapper
import Undertale.Raster

/-!
# Scene isolation

A layer is drawn in its own scene.  For all layers but one this is so because their flags
ask for the status.  The text flag reads the page registers of `intro`, which move at frame
edges only: if the introduction is left in the middle of a frame while a page with a text
is shown, the text stays over the next scene until the frame ends.  These edges are the
only ones that break the isolation (`Game.isolated_iff`), and there are such edges
(`Game.not_isolated`).
-/

namespace Undertale

open Clocked

/-! ## Isolation -/

/-- Every flag that is up belongs to the current scene. -/
def Game.Isolated (g : Game) : Prop := ∀ p l, g.flag p l = true → l.scene = g.scene

/-- The colour a layer has in a pixel. -/
def Colors.layer (c : Colors) (sprite : ℕ) : Layer → Color
  | .title => c.t
  | .intro k => c.i (k + 1)
  | .front => white
  | .map1 => c.m1
  | .door => c.d
  | .frisk => c.f sprite
  | .map2 => c.m2
  | .frisk2 => c.f2 sprite
  | .bullets => c.b
  | .heart => c.h
  | .field => c.fi
  | .flower k => c.fl (k + 1)
  | .win => c.win
  | .lose => c.lose

/-- The colour is black or that of a layer whose flag is up. -/
def Drawn (flag : Layer → Bool) (c : Colors) (sprite : ℕ) (color : Color) : Prop :=
  color = black ∨ ∃ l, flag l = true ∧ color = c.layer sprite l

section drawn
variable {flag : Layer → Bool} {c : Colors} {sprite : ℕ} {x y : Color}

theorem Drawn.black : Drawn flag c sprite black := .inl rfl

theorem Drawn.ite {p : Prop} [Decidable p] (hx : p → Drawn flag c sprite x)
    (hy : Drawn flag c sprite y) : Drawn flag c sprite (if p then x else y) := by
  split
  · next hp => exact hx hp
  · exact hy

/-- A test of the mapper that draws the layer it tests. -/
theorem Drawn.layer {l : Layer} (hx : x = c.layer sprite l) (hy : Drawn flag c sprite y) :
    Drawn flag c sprite (if flag l = true then x else y) :=
  .ite (fun hl => .inr ⟨l, hl, hx⟩) hy

/-- A transparent layer over what else is drawn. -/
theorem Drawn.overlay {l : Layer} (hl : flag l = true) (hx : x = c.layer sprite l)
    (hy : Drawn flag c sprite y) : Drawn flag c sprite (overlay x y) :=
  .ite (fun _ => hy) (.inr ⟨l, hl, hx⟩)

end drawn

/-- The mapper draws layers whose flags are up. -/
theorem mapper_drawn (blank : Bool) (direction : BitVec 2) (isPress : Bool) (counter : BitVec 6)
    (flag : Layer → Bool) (c : Colors) :
    Drawn flag c (friskSprite direction isPress counter)
      (mapper blank direction isPress counter flag c) := by
  unfold mapper
  rw [friskColor_eq, frisk2Color_eq]
  refine .ite (fun _ => .black) <|
    .ite (fun h => .overlay h rfl <| .layer rfl <| .layer rfl .black) <|
    .ite (fun h => .overlay h rfl <| .layer rfl .black) ?_
  -- the layers in their order
  refine .layer rfl <| .layer rfl <| .layer rfl <| .layer rfl <| .layer rfl <| .layer rfl <|
    .layer rfl <| .layer rfl <| .layer rfl <| .layer rfl <| .layer rfl <| .layer rfl <|
    .layer rfl <| .layer rfl <| .layer rfl ?_
  refine .ite (fun h => ?_) ?_
  · split
    · exact .layer rfl <| .layer rfl <| .layer rfl .black
    · exact .inr ⟨.bullets, h, rfl⟩
  · exact .layer rfl <| .layer rfl <| .layer rfl <| .layer rfl <| .layer rfl <| .layer rfl <|
      .layer rfl .black

/-- Every pixel is black or has the colour of a layer of the current scene. -/
def Game.DrawsScene (art : Art) (g : Game) : Prop :=
  ∀ blank p, g.rgb art blank p = black ∨
    ∃ l, l.scene = g.scene ∧ g.flag p l = true ∧
      g.rgb art blank p = (g.colors art p).layer (friskSprite g.direction g.isPress g.counter) l

/-- An isolated picture draws the current scene only. -/
theorem Game.Isolated.drawsScene {g : Game} (h : g.Isolated) (art : Art) : g.DrawsScene art := by
  intro blank p
  rcases mapper_drawn blank g.direction g.isPress g.counter (g.flag p) (g.colors art p) with
    hblack | ⟨l, hl, hcolor⟩
  · exact .inl hblack
  · exact .inr ⟨l, h p l hl, hl, hcolor⟩

/-! ## The page registers -/

/-- The pages are those of the introduction. -/
def Game.TextInScene (g : Game) : Prop := g.intro.HasText → g.scene = .intro

theorem Game.TextInScene.isolated {g : Game} (h : g.TextInScene) : g.Isolated := by
  intro p l hl
  rcases eq_or_ne l .front with rfl | hne
  · exact (h (Intro.hasText_of_isFront hl)).symm
  · exact Game.scene_of_flag hne hl

theorem Game.Isolated.textInScene {g : Game} (h : g.Isolated) : g.TextInScene := by
  intro htext
  obtain ⟨p, hp⟩ := Intro.exists_isFront htext
  exact (h p .front hp).symm

/-- The introduction is left by the player's reset or by key 29. -/
theorem Scene.step_intro_ne {i : StateInputs} :
    Scene.intro.step i ≠ .intro ↔ i.reset = true ∨ i.keycode = 0x1d#8 := by
  unfold Scene.step Scene.nextState
  cases i.reset with
  | true => simp
  | false => simp

/-- The edge leaves the introduction with a text shown, between two frame edges. -/
structure Game.LeavesText (i : GameInputs) (g : Game) : Prop where
  scene : g.scene = .intro
  leaves : i.reset = true ∨ i.keycode = 0x1d#8
  text : g.intro.HasText
  quiet : ¬ (g.sprites.vga.vs = false ∧ (g.sprites.vga.step false).vs = true)

section step
variable {rom : Rom} {i : GameInputs} {g : Game}

/-- A frame edge in another scene clears the pages. -/
theorem Game.step_intro_outside
    (hrise : g.sprites.vga.vs = false ∧ (g.sprites.vga.step false).vs = true)
    (hs : (g.step rom i).scene ≠ .intro) : (g.step rom i).intro = Intro.clear := by
  have hstatus : (g.step rom i).scene.status ≠ 2#4 := fun h =>
    hs (Scene.status_inj (t := .intro).mp h)
  have hintro : (g.step rom i).intro = g.intro.step (g.step rom i).scene.status := if_pos hrise
  rw [hintro, Intro.step_outside hstatus]

/-- Between two frame edges the pages hold. -/
theorem Game.step_intro_holds
    (hquiet : ¬ (g.sprites.vga.vs = false ∧ (g.sprites.vga.step false).vs = true)) :
    (g.step rom i).intro = g.intro := if_neg hquiet

/-- Only an edge that leaves with a text takes the pages out of their scene. -/
theorem Game.TextInScene.step (h : g.TextInScene) (hno : ¬ g.LeavesText i) :
    (g.step rom i).TextInScene := by
  intro htext
  by_contra hs
  rcases Classical.em (g.sprites.vga.vs = false ∧ (g.sprites.vga.step false).vs = true) with
    hrise | hquiet
  · rw [Game.step_intro_outside hrise hs] at htext
    exact Intro.not_hasText_clear htext
  · rw [Game.step_intro_holds hquiet] at htext
    have hscene := h htext
    have hleaves : g.scene.step (g.stateInputs i) ≠ .intro := hs
    rw [hscene] at hleaves
    exact hno ⟨hscene, Scene.step_intro_ne.mp hleaves, htext, hquiet⟩

/-- And every such edge does. -/
theorem Game.LeavesText.not_textInScene (h : g.LeavesText i) : ¬ (g.step rom i).TextInScene := by
  intro hin
  have hleaves : g.scene.step (g.stateInputs i) ≠ .intro := by
    rw [h.scene]
    exact Scene.step_intro_ne.mpr h.leaves
  refine hleaves (hin ?_)
  rw [Game.step_intro_holds h.quiet]
  exact h.text

end step

/-- The introduction lasts until one of these keys is pressed. -/
theorem Game.intro_stays {rom : Rom} {i : ℕ → GameInputs} {g : Game} {m n : ℕ} (hmn : m ≤ n)
    (hm : (Game.run rom i g m).scene = .intro)
    (hkeys : ∀ k, m ≤ k → k < n → (i k).reset = false ∧ (i k).keycode ≠ 0x1d#8) :
    (Game.run rom i g n).scene = .intro := by
  refine preserved (P := fun n => (Game.run rom i g n).scene = .intro) hmn hm
    fun k hmk hkn ih => ?_
  obtain ⟨hreset, hkey⟩ := hkeys k hmk hkn
  have hstep : (Game.run rom i g (k + 1)).scene =
      (Game.run rom i g k).scene.step ((Game.run rom i g k).stateInputs (i k)) := rfl
  rw [hstep, ih]
  by_contra hleaves
  rcases Scene.step_intro_ne.mp hleaves with h | h
  · exact Bool.false_ne_true (hreset.symm.trans h)
  · exact hkey h

/-- In every run that starts without a text: the pictures of all states have the layers of
their scenes only, if and only if no edge leaves the introduction with a text shown,
between two frame edges. -/
theorem Game.isolated_iff (rom : Rom) (i : ℕ → GameInputs) (g : Game) (h0 : ¬ g.intro.HasText)
    (art : Art) :
    (∀ n, (Game.run rom i g n).Isolated ∧ (Game.run rom i g n).DrawsScene art) ↔
      ∀ n, ¬ (Game.run rom i g n).LeavesText (i n) := by
  constructor
  · intro h n hn
    exact hn.not_textInScene (h (n + 1)).1.textInScene
  · intro h n
    have hin : (Game.run rom i g n).TextInScene := by
      refine preserved (P := fun n => (Game.run rom i g n).TextInScene) (Nat.zero_le n)
        (fun htext => absurd htext h0) fun k _ _ hk => ?_
      exact hk.step (h k)
    exact ⟨hin.isolated, hin.isolated.drawsScene art⟩

/-! ## Leaving at a frame edge -/

/-- The keys of a player who leaves the introduction at the frame edge of clock 588785600, on
its third page. -/
def patientKeys (n : ℕ) : GameInputs where
  reset := false
  keycode := if n = 0 then 0#8 else if n = 588785600 then 0x1d#8 else 0x28#8

/-- The game with these keys, from power-up. -/
def patientGame : ℕ → Game := Game.run (fun _ => 0#4) patientKeys Game.zero

theorem patientGame_vga (n : ℕ) : (patientGame n).sprites.vga = Vga.scan n :=
  Game.zero_vga _ _ n

theorem patientGame_scene (n : ℕ) : (patientGame (n + 1)).scene =
    (patientGame n).scene.nextState ((patientGame n).stateInputs (patientKeys n)) := rfl

theorem patientGame_intro {n : ℕ} (hn : 2 ≤ n) (hn' : n ≤ 588785600) :
    (patientGame n).scene = .intro := by
  refine Game.intro_stays hn rfl fun k hk hk' => ⟨rfl, ?_⟩
  rw [patientKeys, if_neg (by omega), if_neg (by omega)]
  decide

/-- The pages of the introduction, one frame edge after another. -/
theorem patientGame_page {n : ℕ} (hn : 1 ≤ n) (hn' : n ≤ 588785600) :
    (patientGame n).intro = Intro.timeline ((n + 54399) / 840000) := by
  have hstay : Intro.Stay (fun k => (patientGame k).sprites.vga.vs)
      (fun k => (patientGame k).scene.status) 1 588785600 := by
    refine ⟨by decide, fun k hk hk' => ?_, 0, Nat.one_pos, by decide, fun k _ hk _ => ?_⟩
    · rw [patientGame_intro hk hk']
      rfl
    · obtain rfl : k = 0 := by omega
      decide
  refine (Game.intro_run (fun _ => 0#4) patientKeys Game.zero n).trans ?_
  refine (hstay.run_eq hn hn').trans ?_
  simp only [patientGame_vga, Vga.count_edges hn]

/-- After 700 frames, which show two pages and a part of the third, the introduction is left
with a text on the screen, at a frame edge.  No picture of this run mixes two scenes. -/
theorem Game.isolated_patient :
    (∀ n, 1 ≤ n → n ≤ 588785600 →
        (patientGame n).intro = Intro.timeline ((n + 54399) / 840000)) ∧
      (patientGame 588785600).scene = .intro ∧ (patientGame 588785600).intro.HasText ∧
      (patientGame 588785601).scene = .map1 ∧
      ∀ n, (patientGame n).Isolated ∧ (patientGame n).DrawsScene redFrisk := by
  have hscene := patientGame_intro (n := 588785600) (by omega) le_rfl
  refine ⟨fun n => patientGame_page, hscene, ?_, ?_,
    (Game.isolated_iff (fun _ => 0#4) patientKeys Game.zero Intro.not_hasText_clear
      redFrisk).mpr fun n h => ?_⟩
  · rw [patientGame_page (by omega) le_rfl]
    exact .inl rfl
  · rw [patientGame_scene, hscene]
    exact if_pos (e := Scene.intro) (show (patientKeys 588785600).keycode = 0x1d#8 from rfl)
  · have hn : n = 588785600 := by
      by_contra hne
      rcases h.leaves with hreset | hkey
      · cases hreset
      · have hkey' : (if n = 0 then 0#8 else 0x28#8) = 0x1d#8 := by
          rw [← hkey, patientKeys, if_neg hne]
        split at hkey'
        · exact absurd hkey' (by decide)
        · exact absurd hkey' (by decide)
    exact h.quiet ((Game.zero_rises _ _ (by omega)).mpr (by omega))

/-! ## Leaving with a text -/

/-- The keys of a player who leaves the introduction right after its first page has come. -/
def leavingKeys (n : ℕ) : GameInputs where
  reset := false
  keycode := if n ≤ 785600 then 0x28#8 else 0x1d#8

/-- The game with these keys, from power-up. -/
def leavingGame : ℕ → Game := Game.run (fun _ => 0#4) leavingKeys Game.zero

theorem leavingGame_vga (n : ℕ) : (leavingGame n).sprites.vga = Vga.scan n :=
  Game.zero_vga _ _ n

theorem leavingGame_scene (n : ℕ) : (leavingGame (n + 1)).scene =
    (leavingGame n).scene.nextState ((leavingGame n).stateInputs (leavingKeys n)) := rfl

theorem leavingGame_intro {n : ℕ} (hn : 1 ≤ n) (hn' : n ≤ 785601) :
    (leavingGame n).scene = .intro := by
  refine Game.intro_stays hn rfl fun k _ hk => ⟨rfl, ?_⟩
  rw [leavingKeys, if_pos (by omega)]
  decide

/-- After it the player is on the first map. -/
theorem leavingGame_map1 {n : ℕ} (hn : 785602 ≤ n) : (leavingGame n).scene = .map1 := by
  have hkey : ∀ k, 785601 ≤ k → (leavingKeys k).keycode = 0x1d#8 := fun k hk => if_neg (by omega)
  refine preserved (P := fun n => (leavingGame n).scene = .map1) hn ?_ fun k hk _ ih => ?_
  · rw [leavingGame_scene, leavingGame_intro (by omega) le_rfl]
    exact if_pos (e := Scene.intro) (hkey 785601 le_rfl)
  · rw [leavingGame_scene, ih]
    refine if_neg fun h => ?_
    have hboth := (hkey k (by omega)).symm.trans h.1
    exact absurd hboth (by decide)

/-- The first page of the introduction. -/
def firstPage : Intro := ⟨2#12, 1#4, 0#4, true, false⟩

theorem leavingGame_quiet {n : ℕ} (hn : 0 < n) (h : n % 840000 ≠ 785600) :
    ¬ ((leavingGame n).sprites.vga.vs = false ∧
      ((leavingGame n).sprites.vga.step false).vs = true) :=
  fun hrise => h ((Game.zero_rises _ _ hn).mp hrise)

theorem leavingGame_rises {n : ℕ} (hn : 0 < n) (h : n % 840000 = 785600) :
    (leavingGame (n + 1)).intro =
      (leavingGame n).intro.step (leavingGame (n + 1)).scene.status :=
  if_pos ((Game.zero_rises (fun _ => 0#4) leavingKeys hn).mpr h)

/-- The page that the second frame edge brings stays until the third. -/
theorem leavingGame_page {n : ℕ} (hn : 785601 ≤ n) (hn' : n ≤ 1625600) :
    (leavingGame n).intro = firstPage := by
  have hbefore : (leavingGame 785600).intro = ⟨1#12, 0#4, 0#4, false, false⟩ := by
    refine preserved (P := fun n => (leavingGame n).intro = ⟨1#12, 0#4, 0#4, false, false⟩)
      (m := 1) (by omega) (by decide) fun k _ hk ih => ?_
    exact (Game.step_intro_holds (leavingGame_quiet (by omega) (by omega))).trans ih
  refine preserved (P := fun n => (leavingGame n).intro = firstPage) hn ?_ fun k hk hk' ih => ?_
  · have hstep := leavingGame_rises (n := 785600) (by omega) (by omega)
    rw [hbefore, leavingGame_intro (n := 785600 + 1) (by omega) (by omega)] at hstep
    exact hstep
  · exact (Game.step_intro_holds (leavingGame_quiet (by omega) (by omega))).trans ih

/-- Frisk waits where he starts. -/
theorem leavingGame_frisk {n : ℕ} (hn : 1 ≤ n) :
    ∃ e, (leavingGame n).sprites.frisk = Mover.init friskMove e := by
  refine preserved (P := fun n => ∃ e, (leavingGame n).sprites.frisk = Mover.init friskMove e) hn
    ⟨_, rfl⟩ fun k _ _ ih => ?_
  obtain ⟨e, he⟩ := ih
  have hkey : nextPress (leavingKeys k).keycode = false := by
    rcases Nat.lt_or_ge 785600 k with h | h
    · rw [show (leavingKeys k).keycode = 0x1d#8 from if_neg (by omega)]
      decide
    · rw [show (leavingKeys k).keycode = 0x28#8 from if_pos h]
      decide
  have hstep : (leavingGame (k + 1)).sprites.frisk = (leavingGame k).sprites.frisk.step friskMove
      ((leavingGame k).sprites.moverInputs ((leavingGame k).spritesInputs (leavingKeys k))) := rfl
  rw [hstep, he]
  exact ⟨_, Mover.step_init_released hkey⟩

/-- In clock 1227360 the first map is the scene, and the pixel that is scanned, which is
displayed, is white with a letter of the first page. -/
theorem Game.not_isolated :
    let g := leavingGame 1227360
    let p := g.sprites.vga.draw
    g.scene = .map1 ∧ g.sprites.vga.blank = true ∧ g.flag p .front = true ∧
      ∀ art, g.rgb art true p = white := by
  intro g p
  have hscene : g.scene = .map1 := leavingGame_map1 (by omega)
  have hintro : g.intro = firstPage := leavingGame_page (by omega) (by omega)
  obtain ⟨e, hfrisk⟩ := leavingGame_frisk (n := 1227360) (by omega)
  have hp : p = ⟨80#10, 242#10⟩ := by
    show (leavingGame 1227360).sprites.vga.draw = _
    rw [leavingGame_vga]
    exact Vga.scan_draw 613680
  have hfront : g.flag p .front = true := by
    show g.intro.isFront p = true
    rw [hintro, hp]
    decide
  have hfar : g.flag p .frisk = false := by
    show friskWindow.covers g.scene.status (g.sprites.frisk.dist p) = false
    rw [hscene, hp, show g.sprites.frisk = Mover.init friskMove e from hfrisk]
    rfl
  have hother : ∀ l, l ≠ .front → l.scene ≠ .map1 → g.flag p l = false := by
    intro l hl hne
    cases hflag : g.flag p l with
    | false => rfl
    | true => exact absurd ((Game.scene_of_flag hl hflag).trans hscene) hne
  refine ⟨hscene, ?_, hfront, fun art => ?_⟩
  · obtain ⟨hx, hy⟩ := Pixel.mk.inj hp
    rw [Vga.blank, hx, hy]
    decide
  · have hintros : ∀ k, g.flag p (.intro k) = false := fun k =>
      hother (.intro k) Layer.noConfusion Scene.noConfusion
    simp [Game.rgb, mapper, hfar, hfront, hintros, hother .frisk2 (by decide) (by decide),
      hother .title (by decide) (by decide)]

end Undertale
