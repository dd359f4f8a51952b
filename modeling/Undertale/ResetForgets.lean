import Undertale.CleanStart

/-!
# Reset forgets the past

Only the scene machine sees the player's reset.  It sends the game to the title,
and there, one clock and one frame edge later, every register that the game goes
on from has been cleared (`Game.Cleared`).

Left over are the direction and the walk cycle of the drawing logic and the
heart's copies `PosXH` and `PosYH`, which are loaded in battle only.  `Game.Agree`
is the relation between two games that differ in no more than that, and in a
battle whose bullets have started not even in the copies.  Every step preserves
it.  A battle loads the copies at its first clock, and nothing reads them sooner:
the bullets have not started, and the first frame edge comes later
(`Core.frame_before_enters`).
-/

namespace Undertale

open Clocked

/-! ## Stale registers -/

/-- The game with other leftovers. -/
def Game.withStale (g : Game) (posXH posYH : BitVec 10) (direction : BitVec 2) (isPress : Bool)
    (counter : BitVec 6) : Game :=
  { g with
    sprites := { g.sprites with heart := { g.sprites.heart with posXH := posXH, posYH := posYH } }
    direction := direction
    isPress := isPress
    counter := counter }

/-- The bullets do not read the heart's copies unless a battle has its bullets
started, or a frame edge falls into it. -/
theorem Bullets.step_posH_congr {rom : Rom} (i i' : BulletsInputs) {x y x' y' : BitVec 10}
    (r : Bullets)
    (h : i.status = 5#4 → i.startBullet = true → x = i.posXH ∧ y = i.posYH)
    (h' : i.frameClk = false → i'.frameClk = true → i'.status = 5#4 →
      x' = i'.posXH ∧ y' = i'.posYH) :
    r.step rom { i with posXH := x, posYH := y } { i' with posXH := x', posYH := y' } =
      r.step rom i i' := by
  have hclk : r.posedgeClk rom { i with posXH := x, posYH := y } = r.posedgeClk rom i := by
    have hshow : (r.posedgeClk rom { i with posXH := x, posYH := y }).showBullet =
        (r.posedgeClk rom i).showBullet := by
      funext k
      show (if i.status ≠ 5#4 ∨ i.startBullet = false then false else _) =
        if i.status ≠ 5#4 ∨ i.startBullet = false then false else _
      split
      · rfl
      · next hs =>
        rw [not_or, not_not, Bool.not_eq_false] at hs
        obtain ⟨rfl, rfl⟩ := h hs.1 hs.2
        rfl
    exact Bullets.ext rfl rfl rfl rfl hshow rfl rfl
  unfold Bullets.step
  rw [hclk]
  split
  · next hvs =>
    rcases eq_or_ne i'.status 5#4 with hs | hs
    · obtain ⟨rfl, rfl⟩ := h' hvs.1 hvs.2 hs
      rfl
    · unfold Bullets.posedgeFrameClk
      rw [nextHP_outside hs, nextHP_outside hs]
  · rfl

/-- Two games that differ in leftovers only. -/
def Game.Agree (g g' : Game) : Prop :=
  ∃ x y direction isPress counter, g' = g.withStale x y direction isPress counter ∧
    (g.scene = .battle → g.sprites.flower.startBullet = true →
      x = g.sprites.heart.posXH ∧ y = g.sprites.heart.posYH)

/-- What an entry into the battle must be like for `Game.Agree` to survive it: the
bullets have not started and the frame clock does not rise. -/
def Game.QuietEntry (rom : Rom) (i : GameInputs) (g : Game) : Prop :=
  g.scene ≠ .battle → (g.step rom i).scene = .battle →
    (g.step rom i).sprites.flower.startBullet = false ∧
      ¬ (g.sprites.vga.vs = false ∧ (g.step rom i).sprites.vga.vs = true)

/-- Two games that differ in leftovers only do so after a step. -/
theorem Game.Agree.step {rom : Rom} {i : GameInputs} {g g' : Game} (h : g.Agree g')
    (hentry : g.QuietEntry rom i) : (g.step rom i).Agree (g'.step rom i) := by
  obtain ⟨x, y, d, p, c, rfl, hposH⟩ := h
  -- the copies after the edge; in a battle they are loaded with equal positions
  have hload : g.scene = .battle →
      ((g.withStale x y d p c).step rom i).sprites.heart.posXH =
          (g.step rom i).sprites.heart.posXH ∧
        ((g.withStale x y d p c).step rom i).sprites.heart.posYH =
          (g.step rom i).sprites.heart.posYH := by
    intro hb
    have hs : g.scene.status = 5#4 := Scene.status_eq_five.mpr hb
    have hs' : (g.sprites.moverInputs (g.spritesInputs i)).status = 5#4 := hs
    exact ⟨(Heart.step_posXH hs' _).trans (Heart.step_posXH hs' g.sprites.heart).symm,
      (Heart.step_posYH hs' _).trans (Heart.step_posYH hs' g.sprites.heart).symm⟩
  have hbullets : ((g.withStale x y d p c).step rom i).sprites.bullets =
      (g.step rom i).sprites.bullets := by
    refine Bullets.step_posH_congr (g.sprites.bulletsInputs (g.spritesInputs i))
      { g.sprites.bulletsInputs (g.spritesInputs i) with
        frameClk := (g.step rom i).sprites.vga.vs, status := (g.step rom i).scene.status,
        posXH := (g.step rom i).sprites.heart.posXH, posYH := (g.step rom i).sprites.heart.posYH }
      g.sprites.bullets (fun hs hstart => ?_) (fun hlow hhigh hs => ?_)
    · exact hposH (Scene.status_eq_five.mp hs) hstart
    · rcases eq_or_ne g.scene .battle with hb | hb
      · exact hload hb
      · exact absurd ⟨hlow, hhigh⟩ (hentry hb (Scene.status_eq_five.mp hs)).2
  refine ⟨((g.withStale x y d p c).step rom i).sprites.heart.posXH,
    ((g.withStale x y d p c).step rom i).sprites.heart.posYH,
    ((g.withStale x y d p c).step rom i).direction, ((g.withStale x y d p c).step rom i).isPress,
    ((g.withStale x y d p c).step rom i).counter,
    Game.ext rfl rfl (Sprites.ext rfl rfl rfl rfl rfl rfl rfl hbullets) rfl rfl rfl rfl rfl,
    fun hb hstart => ?_⟩
  rcases eq_or_ne g.scene .battle with hb' | hb'
  · exact hload hb'
  · rw [(hentry hb' hb).1] at hstart
    cases hstart

/-! ## Cleared registers -/

/-- The registers of `bullets_move` outside the battle, with `e` in its edge
detector. -/
def Bullets.clear (e : EdgeDetector) : Bullets where
  hp := 5#4
  bulletShape := false
  bAddress := 0#10
  inCounter := 0#6
  showBullet := fun _ => false
  bullet := fun k => (lane k).init
  frameClk := e

/-- The title has lasted for a clock and a frame edge: all registers are clear, but
for the ones that run on the screen (`e` is in the edge detectors) and leftovers. -/
structure Game.Cleared (e : EdgeDetector) (g : Game) : Prop where
  scene : g.scene = .title
  difficulty : g.difficulty = 1#2
  heart : g.sprites.heart.mover = Mover.init heartMove e
  frisk : g.sprites.frisk = Mover.init friskMove e
  frisk2 : g.sprites.frisk2 = Mover.init friskMove2 e
  map1 : g.sprites.map1 = Scroll.init Undertale.map1 e
  door : g.sprites.door = Scroll.init Undertale.door e
  flower : g.sprites.flower = Flower.clear
  bullets : g.sprites.bullets = Bullets.clear e
  intro : g.intro = Intro.clear

/-- Cleared games that agree on what runs on the screen differ in leftovers only. -/
theorem Game.Cleared.agree {e : EdgeDetector} {g g' : Game} (h : g.Cleared e) (h' : g'.Cleared e)
    (hvga : g.sprites.vga = g'.sprites.vga) (hcounter2 : g.counter2 = g'.counter2) :
    g.Agree g' := by
  refine ⟨g'.sprites.heart.posXH, g'.sprites.heart.posYH, g'.direction, g'.isPress, g'.counter,
    Game.ext (h'.scene.trans h.scene.symm) (h'.difficulty.trans h.difficulty.symm)
      (Sprites.ext hvga.symm (Heart.ext (h'.heart.trans h.heart.symm) rfl rfl)
        (h'.frisk.trans h.frisk.symm) (h'.frisk2.trans h.frisk2.symm) (h'.map1.trans h.map1.symm)
        (h'.door.trans h.door.symm) (h'.flower.trans h.flower.symm)
        (h'.bullets.trans h.bullets.symm))
      (h'.intro.trans h.intro.symm) rfl rfl rfl hcounter2.symm, fun hb _ => ?_⟩
  rw [h.scene] at hb
  cases hb

section run
variable {rom : Rom} {i : ℕ → GameInputs} {g : ℕ → Game}
  (hg : ∀ n, g (n + 1) = (g n).step rom (i n))
include hg

/-- The frame clock of a run. -/
def Game.vs (g : ℕ → Game) (n : ℕ) : Bool := (g n).sprites.vga.vs

theorem Game.vga_succ (n : ℕ) : (g (n + 1)).sprites.vga = (g n).sprites.vga.step false :=
  congrArg (fun g => g.sprites.vga) (hg n)

theorem Game.arena_succ (n : ℕ) :
    (g (n + 1)).arena = (g n).arena.step rom ((g n).arenaInputs (i n)) := by
  rw [hg n]
  rfl

/-- The registers of the frame clock at a frame edge. -/
theorem Game.rises {n : ℕ} (h : Rises (Game.vs g) n) :
    (g (n + 1)).sprites.flower = (g n).sprites.flower.step (g (n + 1)).scene.status ∧
      (g (n + 1)).intro = (g n).intro.step (g (n + 1)).scene.status ∧
        (g (n + 1)).counter2 = nextCounter2 (g n).counter2 := by
  have hvs : (g n).sprites.vga.vs = false ∧ (g (n + 1)).sprites.vga.vs = true := h
  rw [hg n] at hvs ⊢
  exact ⟨if_pos hvs, if_pos hvs, if_pos hvs⟩

/-- Between frame edges they hold. -/
theorem Game.holds {n : ℕ} (h : ¬ Rises (Game.vs g) n) :
    (g (n + 1)).sprites.flower = (g n).sprites.flower ∧ (g (n + 1)).intro = (g n).intro ∧
      (g (n + 1)).counter2 = (g n).counter2 := by
  have hvs : ¬ ((g n).sprites.vga.vs = false ∧ (g (n + 1)).sprites.vga.vs = true) := h
  rw [hg n] at hvs ⊢
  exact ⟨if_neg hvs, if_neg hvs, if_neg hvs⟩

/-- The edge detectors of all modules show the last two cycles of the frame clock. -/
theorem Game.detectors (n : ℕ) :
    let e : EdgeDetector := ⟨Game.vs g (n + 1), Game.vs g (n + 1) && !Game.vs g n⟩
    (g (n + 2)).sprites.heart.mover.frameClk = e ∧ (g (n + 2)).sprites.frisk.frameClk = e ∧
      (g (n + 2)).sprites.frisk2.frameClk = e ∧ (g (n + 2)).sprites.map1.frameClk = e ∧
        (g (n + 2)).sprites.door.frameClk = e ∧ (g (n + 2)).sprites.bullets.frameClk = e := by
  refine ⟨?_, ?_, ?_, ?_, ?_, ?_⟩
  · exact detector_eq (e := fun n => (g n).sprites.heart.mover.frameClk) (fun n => by
      rw [hg n]; exact Mover.step_frameClk _ _ _) n
  · exact detector_eq (e := fun n => (g n).sprites.frisk.frameClk) (fun n => by
      rw [hg n]; exact Mover.step_frameClk _ _ _) n
  · exact detector_eq (e := fun n => (g n).sprites.frisk2.frameClk) (fun n => by
      rw [hg n]; exact Mover.step_frameClk _ _ _) n
  · exact detector_eq (e := fun n => (g n).sprites.map1.frameClk) (fun n => by
      rw [hg n]; exact Scroll.step_frameClk _ _ _) n
  · exact detector_eq (e := fun n => (g n).sprites.door.frameClk) (fun n => by
      rw [hg n]; exact Scroll.step_frameClk _ _ _) n
  · exact detector_eq (e := fun n => (g n).sprites.bullets.frameClk) (fun n => by
      rw [hg n]; exact Bullets.step_frameClk _ _ _ _) n

/-- The reset holds the title. -/
theorem Game.title_of_reset {a m n : ℕ} (hreset : ∀ k, a ≤ k → k < m → (i k).reset = true)
    (han : a < n) (hnm : n ≤ m) : (g n).scene = .title := by
  obtain ⟨k, rfl⟩ : ∃ k, n = k + 1 := ⟨n - 1, by omega⟩
  have hscene : (g (k + 1)).scene = (g k).scene.step ((g k).stateInputs (i k)) :=
    congrArg Game.scene (hg k)
  rw [hscene]
  exact Scene.step_reset (hreset k (by omega) (by omega)) _

section title
variable {j n : ℕ} (hj : Rises (Game.vs g) j) (htitle : ∀ k, j < k → k ≤ n → (g k).scene = .title)
include hj htitle

/-- A title with a frame edge clears the registers of the frame clock. -/
theorem Game.frameRegs_of_title (hjn : j < n) :
    (g n).sprites.flower = Flower.clear ∧ (g n).intro = Intro.clear ∧
      (g n).sprites.bullets.frameRegs = (5#4, false, 0#10, 0#6) := by
  have hstatus : ∀ k, j ≤ k → k < n → (g (k + 1)).scene.status = 1#4 := by
    intro k hjk hkn
    rw [htitle (k + 1) (by omega) (by omega)]
    rfl
  refine ⟨?_, ?_, ?_⟩
  · refine eq_of_rises (r := fun k => (g k).sprites.flower) hj hjn (fun k hk hkn hr => ?_)
      fun _ _ _ hr => (Game.holds hg hr).1
    rw [(Game.rises hg hr).1, hstatus k hk hkn]
    exact Flower.step_outside (by decide) _
  · refine eq_of_rises (r := fun k => (g k).intro) hj hjn (fun k hk hkn hr => ?_)
      fun _ _ _ hr => (Game.holds hg hr).2.1
    rw [(Game.rises hg hr).2.1, hstatus k hk hkn]
    exact Intro.step_outside (by decide) _
  · refine eq_of_rises (r := fun k => (g k).sprites.bullets.frameRegs) hj hjn
      (fun k hk hkn hr => ?_) fun _ _ _ hr =>
        Arena.frameRegs_holds (a := fun k => (g k).arena) (Game.arena_succ hg) hr
    refine Arena.frameRegs_rises (a := fun k => (g k).arena) (Game.arena_succ hg) hr ?_
    show (g (k + 1)).scene ≠ .battle
    exact Scene.ne_battle (htitle (k + 1) (by omega) (by omega))

end title

/-- A title with a frame edge and a clock after it clears the game. -/
theorem Game.cleared_of_title {j n : ℕ} (hj : Rises (Game.vs g) j)
    (htitle : ∀ k, j < k → k ≤ n + 2 → (g k).scene = .title) (hjn : j < n + 1) :
    (g (n + 2)).Cleared ⟨Game.vs g (n + 1), Game.vs g (n + 1) && !Game.vs g n⟩ := by
  obtain ⟨hflower, hintro, hregs⟩ := Game.frameRegs_of_title hg hj htitle (by omega)
  obtain ⟨hheart, hfrisk, hfrisk2, hmap1, hdoor, hbullets⟩ := Game.detectors hg n
  have hlast : (g (n + 1)).scene = .title := htitle (n + 1) hjn (by omega)
  have hstatus : (g (n + 1)).scene.status = 1#4 := by rw [hlast]; rfl
  have hmover : ∀ (p : MoverParams) (r : ℕ → Mover),
      (∀ n, r (n + 1) = (r n).step p ((g n).sprites.moverInputs ((g n).spritesInputs (i n)))) →
        1#4 ≠ p.status → r (n + 2) = Mover.init p (r (n + 2)).frameClk := by
    intro p r hr hp
    rw [hr (n + 1), Mover.step_outside (fun hs => hp (hstatus.symm.trans hs))]
    rfl
  have hscroll : ∀ (p : ScrollParams) (r : ℕ → Scroll),
      (∀ n, r (n + 1) = (r n).step p ((g n).sprites.moverInputs ((g n).spritesInputs (i n)))) →
        1#4 ≠ p.status → r (n + 2) = Scroll.init p (r (n + 2)).frameClk := by
    intro p r hr hp
    rw [hr (n + 1), Scroll.step_outside (fun hs => hp (hstatus.symm.trans hs))]
    rfl
  obtain ⟨hshow, hbullet, -⟩ := Arena.lanes_outside (a := fun k => (g k).arena) (Game.arena_succ hg)
    (n := n + 1) (Scene.ne_battle hlast)
  exact
    { scene := htitle (n + 2) (by omega) le_rfl
      difficulty := by
        rw [hg (n + 1)]
        exact if_pos (by rw [hstatus]; decide)
      heart := by
        rw [hmover heartMove (fun n => (g n).sprites.heart.mover)
          (fun n => congrArg (fun g => g.sprites.heart.mover) (hg n)) (by decide), hheart]
      frisk := by
        rw [hmover friskMove (fun n => (g n).sprites.frisk)
          (fun n => congrArg (fun g => g.sprites.frisk) (hg n)) (by decide), hfrisk]
      frisk2 := by
        rw [hmover friskMove2 (fun n => (g n).sprites.frisk2)
          (fun n => congrArg (fun g => g.sprites.frisk2) (hg n)) (by decide), hfrisk2]
      map1 := by
        rw [hscroll Undertale.map1 (fun n => (g n).sprites.map1)
          (fun n => congrArg (fun g => g.sprites.map1) (hg n)) (by decide), hmap1]
      door := by
        rw [hscroll Undertale.door (fun n => (g n).sprites.door)
          (fun n => congrArg (fun g => g.sprites.door) (hg n)) (by decide), hdoor]
      flower := hflower
      bullets := Bullets.ext (congrArg (fun r => r.1) hregs) (congrArg (fun r => r.2.1) hregs)
        (congrArg (fun r => r.2.2.1) hregs) (congrArg (fun r => r.2.2.2) hregs) hshow hbullet
        hbullets
      intro := hintro }

/-- In a run from the title every entry into the battle is quiet. -/
theorem Game.quietEntry (h0 : (g 0).scene = .title) (n : ℕ) : (g n).QuietEntry rom (i n) := by
  intro hn hn'
  rw [← hg n] at hn' ⊢
  have hcore := Arena.core_succ (a := fun k => (g k).arena) (Game.arena_succ hg)
  have hent : Core.Enters (fun k => (g k).arena.core) n := ⟨hn, hn'⟩
  have hmap2 : (g 0).scene ≠ .map2 := Scene.ne_map2 h0
  obtain ⟨-, hflower, -⟩ := Core.clear_of_enters hcore hmap2 hent
  obtain ⟨-, hno⟩ := Core.frame_before_enters hcore hmap2 hent
  exact ⟨congrArg Flower.startBullet hflower, hno⟩

end run

/-! ## Two runs -/

/-- What the player sees of the game, and the registers that decide how it goes
on. -/
structure Observed where
  status : BitVec 4
  hp : BitVec 4
  difficulty : BitVec 2
  timeUp : Bool
  startBullet : Bool
  flowerNum : BitVec 3
  introNum1 : BitVec 4
  introNum2 : BitVec 4
  isSub1 : Bool
  isSub2 : Bool
  heart : BitVec 10 × BitVec 10
  frisk : BitVec 10 × BitVec 10
  frisk2 : BitVec 10 × BitVec 10
  map1 : BitVec 10
  door : BitVec 10
  bullet : Fin 15 → BitVec 10 × BitVec 10
  showBullet : Fin 15 → Bool

/-- The registers observed. -/
def Game.observed (g : Game) : Observed where
  status := g.scene.status
  hp := g.sprites.bullets.hp
  difficulty := g.difficulty
  timeUp := g.sprites.flower.timeUp
  startBullet := g.sprites.flower.startBullet
  flowerNum := g.sprites.flower.flowerNum
  introNum1 := g.intro.introNum1
  introNum2 := g.intro.introNum2
  isSub1 := g.intro.isSub1
  isSub2 := g.intro.isSub2
  heart := (g.sprites.heart.mover.xPos, g.sprites.heart.mover.yPos)
  frisk := (g.sprites.frisk.xPos, g.sprites.frisk.yPos)
  frisk2 := (g.sprites.frisk2.xPos, g.sprites.frisk2.yPos)
  map1 := g.sprites.map1.xPos
  door := g.sprites.door.xPos
  bullet := fun k => ((g.sprites.bullets.bullet k).xPos, (g.sprites.bullets.bullet k).yPos)
  showBullet := g.sprites.bullets.showBullet

theorem Game.Agree.observed {g g' : Game} (h : g.Agree g') : g.observed = g'.observed := by
  obtain ⟨x, y, d, p, c, rfl, -⟩ := h
  rfl

section twoRuns
variable {rom : Rom} {i i' : ℕ → GameInputs} {g g' : ℕ → Game}
  (hg : ∀ n, g (n + 1) = (g n).step rom (i n)) (hg' : ∀ n, g' (n + 1) = (g' n).step rom (i' n))
include hg hg'

/-- What runs on the screen does not depend on the inputs. -/
theorem Game.vga_eq (h : (g 0).sprites.vga = (g' 0).sprites.vga) (n : ℕ) :
    (g n).sprites.vga = (g' n).sprites.vga := by
  induction n with
  | zero => exact h
  | succ n ih => rw [Game.vga_succ hg, Game.vga_succ hg', ih]

theorem Game.counter2_eq (h : (g 0).sprites.vga = (g' 0).sprites.vga)
    (h2 : (g 0).counter2 = (g' 0).counter2) (n : ℕ) : (g n).counter2 = (g' n).counter2 := by
  have hvs : Game.vs g = Game.vs g' := funext fun n =>
    congrArg Vga.vs (Game.vga_eq hg hg' h n)
  induction n with
  | zero => exact h2
  | succ n ih =>
      rcases Classical.em (Rises (Game.vs g) n) with hr | hr
      · rw [(Game.rises hg hr).2.2, (Game.rises hg' (hvs ▸ hr)).2.2, ih]
      · rw [(Game.holds hg hr).2.2, (Game.holds hg' (hvs ▸ hr)).2.2, ih]

/-- Games that differ in leftovers only, the first of them at the title, do so
after any number of steps on the same inputs. -/
theorem Game.agree_run (h0 : (g 0).scene = .title) (h : (g 0).Agree (g' 0))
    (hsame : ∀ n, i n = i' n) (n : ℕ) : (g n).Agree (g' n) := by
  induction n with
  | zero => exact h
  | succ n ih =>
      rw [hg n, hg' n, ← hsame n]
      exact ih.step (Game.quietEntry hg h0 n)

end twoRuns

/-- Two runs from games that agree on the VGA controller and the free-running frame
counter.  If the reset is high in both over a frame edge and five more clocks, and
the inputs are the same from then on, then everything observed is the same from
then on. -/
theorem Game.reset_forgets (rom : Rom) (i i' : ℕ → GameInputs) (g g' : Game)
    (hvga : g.sprites.vga = g'.sprites.vga) (hcounter2 : g.counter2 = g'.counter2) (a j m : ℕ)
    (haj : a ≤ j) (hjm : j + 5 < m) (hj : Rises (Game.vs (Game.run rom i g)) j)
    (hreset : ∀ n, a ≤ n → n < m → (i n).reset = true ∧ (i' n).reset = true)
    (hsame : ∀ n, m ≤ n → i n = i' n) (n : ℕ) (hn : m ≤ n) :
    (Game.run rom i g n).observed = (Game.run rom i' g' n).observed := by
  have hg : ∀ n, Game.run rom i g (n + 1) = (Game.run rom i g n).step rom (i n) := fun _ => rfl
  have hg' : ∀ n, Game.run rom i' g' (n + 1) = (Game.run rom i' g' n).step rom (i' n) :=
    fun _ => rfl
  have hvgas := Game.vga_eq hg hg' hvga
  have hvs : Game.vs (Game.run rom i g) = Game.vs (Game.run rom i' g') :=
    funext fun n => congrArg Vga.vs (hvgas n)
  have htitle : ∀ k, j < k → k ≤ m → (Game.run rom i g k).scene = .title :=
    fun k hk hkm => Game.title_of_reset hg (fun k hk hkm => (hreset k hk hkm).1) (by omega) hkm
  have htitle' : ∀ k, j < k → k ≤ m → (Game.run rom i' g' k).scene = .title :=
    fun k hk hkm => Game.title_of_reset hg' (fun k hk hkm => (hreset k hk hkm).2) (by omega) hkm
  -- when the reset ends both games are clear
  obtain ⟨l, rfl⟩ : ∃ l, m = l + 2 := ⟨m - 2, by omega⟩
  have hclear := Game.cleared_of_title hg hj htitle (by omega)
  have hclear' := Game.cleared_of_title hg' (hvs ▸ hj) htitle' (by omega)
  rw [← hvs] at hclear'
  have hagree := hclear.agree hclear' (hvgas _) (Game.counter2_eq hg hg' hvga hcounter2 _)
  have hrun : ∀ d, (Game.run rom i g (l + 2 + d)).Agree (Game.run rom i' g' (l + 2 + d)) :=
    Game.agree_run (fun k => hg (l + 2 + k)) (fun k => hg' (l + 2 + k)) hclear.scene hagree
      fun k => hsame (l + 2 + k) (by omega)
  obtain ⟨d, rfl⟩ : ∃ d, n = l + 2 + d := ⟨n - (l + 2), by omega⟩
  exact (hrun d).observed

/-- Six clocks of reset, and then no key. -/
def resetInputs (n : ℕ) : GameInputs := ⟨n < 6, 0#8⟩

/-- A second after the reset nothing shows that the one game was in a battle. -/
theorem Game.zero_forgets :
    (Game.run (fun _ => 0#4) resetInputs { Game.zero with scene := .battle, difficulty := 3#2 }
        50000000).observed =
      (Game.run (fun _ => 0#4) resetInputs Game.zero 50000000).observed :=
  Game.reset_forgets (fun _ => 0#4) resetInputs resetInputs
    { Game.zero with scene := .battle, difficulty := 3#2 } Game.zero rfl rfl 0 0 6 le_rfl
    (by decide) ⟨rfl, rfl⟩ (fun n _ hn => ⟨decide_eq_true hn, decide_eq_true hn⟩)
    (fun _ _ => rfl) 50000000 (by decide)

end Undertale
