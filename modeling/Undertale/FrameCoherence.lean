import Undertale.HitsCount
import Undertale.Raster

/-!
# Frame coherence

A frame tick reaches the registers on the screen in three steps.  The edge
detectors flag the rising edge two clocks late, the positions and the show flags
move one clock after that, and one clock later still the heart's copies follow and
the bullets that are no longer shown go home.  From then on nothing moves until
the next tick, as long as the status does not change: this is `Sprites.picture_succ`.

The frame clock rises on line 491, eleven lines after the last visible one, so
all of this is over long before the next frame is drawn.
-/

namespace Undertale

open Clocked

/-! ## One clock without a tick -/

section hold
variable {n : ℕ}

/-- A mover without a tick that stays in its scene, or outside it, keeps its
position. -/
theorem Mover.pos_hold {p : MoverParams} {i : ℕ → MoverInputs} {r : ℕ → Mover}
    (hr : ∀ n, r (n + 1) = (r n).step p (i n)) (hs : (i (n + 1)).status = (i n).status)
    (ht : (r (n + 1)).frameClk.risingEdge = false) :
    (r (n + 2)).xPos = (r (n + 1)).xPos ∧ (r (n + 2)).yPos = (r (n + 1)).yPos := by
  rw [hr (n + 1)]
  rcases eq_or_ne (i (n + 1)).status p.status with h | h
  · rw [Mover.step_idle h ht]
    exact ⟨rfl, rfl⟩
  · rw [Mover.step_outside h, hr n, Mover.step_outside (hs ▸ h)]
    exact ⟨rfl, rfl⟩

theorem Scroll.pos_hold {p : ScrollParams} {i : ℕ → MoverInputs} {r : ℕ → Scroll}
    (hr : ∀ n, r (n + 1) = (r n).step p (i n)) (hs : (i (n + 1)).status = (i n).status)
    (ht : (r (n + 1)).frameClk.risingEdge = false) : (r (n + 2)).xPos = (r (n + 1)).xPos := by
  rw [hr (n + 1)]
  rcases eq_or_ne (i (n + 1)).status p.status with h | h
  · rw [Scroll.step_idle h ht]
  · rw [Scroll.step_outside h, hr n, Scroll.step_outside (hs ▸ h)]
    rfl

section bullets
variable {rom : Rom} {i j : ℕ → BulletsInputs} {r : ℕ → Bullets}
  (hr : ∀ n, r (n + 1) = (r n).step rom (i n) (j n)) (hs : (i (n + 1)).status = (i n).status)
  (ht : (r (n + 1)).frameClk.risingEdge = false)
include hr hs ht

/-- The show flags change with a tick, the status or `start_bullet` only. -/
theorem Bullets.showBullet_hold (hb : (i (n + 1)).startBullet = (i n).startBullet) :
    (r (n + 2)).showBullet = (r (n + 1)).showBullet := by
  funext k
  rw [hr (n + 1), Bullets.step_showBullet, hs, hb]
  split
  · next h => rw [hr n, Bullets.step_showBullet, if_pos h]
  · rw [Bullets.showBulletIn, ht]
    rfl

/-- A lane without a tick whose show flag has not changed keeps its position. -/
theorem Bullets.bullet_hold (hshow : (r (n + 1)).showBullet = (r n).showBullet) (k : Fin 15) :
    ((r (n + 2)).bullet k).xPos = ((r (n + 1)).bullet k).xPos ∧
      ((r (n + 2)).bullet k).yPos = ((r (n + 1)).bullet k).yPos := by
  rw [hr (n + 1), Bullets.step_bullet, ht, hshow, hs]
  rcases Classical.em ((i n).status ≠ 5#4 ∨ (r n).showBullet k = false) with h | h
  · have hhome : (i n).status ≠ 5#4 ∨
        ((r n).frameClk.risingEdge && (lane k).atLimit ((r n).bullet k)) = true ∨
          (r n).showBullet k = false := h.imp_right .inr
    rw [hr n, Bullets.step_bullet, Lane.step, Lane.step, if_pos hhome, if_pos (h.imp_right .inr)]
    exact ⟨rfl, rfl⟩
  · have hstay : ¬ ((i n).status ≠ 5#4 ∨
        (false && (lane k).atLimit ((r (n + 1)).bullet k)) = true ∨
          (r n).showBullet k = false) := by
      rw [Bool.false_and]
      simpa using h
    rw [Lane.step, if_neg hstay]
    exact ⟨rfl, rfl⟩

end bullets

end hold

/-! ## The picture -/

/-- What the sprites put on the screen, and what the collision test reads. -/
@[ext]
structure Picture where
  heart : BitVec 10 × BitVec 10
  frisk : BitVec 10 × BitVec 10
  frisk2 : BitVec 10 × BitVec 10
  map1 : BitVec 10
  door : BitVec 10
  posH : BitVec 10 × BitVec 10
  showBullet : Fin 15 → Bool
  bullet : Fin 15 → BitVec 10 × BitVec 10

/-- The registers of the picture. -/
def Sprites.picture (s : Sprites) : Picture where
  heart := (s.heart.mover.xPos, s.heart.mover.yPos)
  frisk := (s.frisk.xPos, s.frisk.yPos)
  frisk2 := (s.frisk2.xPos, s.frisk2.yPos)
  map1 := s.map1.xPos
  door := s.door.xPos
  posH := (s.heart.posXH, s.heart.posYH)
  showBullet := s.bullets.showBullet
  bullet := fun k => ((s.bullets.bullet k).xPos, (s.bullets.bullet k).yPos)

/-- A run of the sprites from the registers `s` on the inputs `i`. -/
def Sprites.run (rom : Rom) (i : ℕ → SpritesInputs) (s : Sprites) : ℕ → Sprites :=
  Clocked.run (fun n => Sprites.step rom (i n) (i (n + 1)).status) s

section run
variable {rom : Rom} {i : ℕ → SpritesInputs} {s : ℕ → Sprites}
  (hs : ∀ n, s (n + 1) = (s n).step rom (i n) (i (n + 1)).status)
include hs

/-- The frame clock of a run. -/
def Sprites.vs (s : ℕ → Sprites) (n : ℕ) : Bool := (s n).vga.vs

/-- Without a rising edge two clocks before no module has a tick. -/
theorem Sprites.no_tick {n : ℕ} (h : ¬ Rises (Sprites.vs s) n) :
    (s (n + 2)).heart.mover.frameClk.risingEdge = false ∧
      (s (n + 2)).frisk.frameClk.risingEdge = false ∧
      (s (n + 2)).frisk2.frameClk.risingEdge = false ∧
      (s (n + 2)).map1.frameClk.risingEdge = false ∧
      (s (n + 2)).door.frameClk.risingEdge = false ∧
      (s (n + 2)).bullets.frameClk.risingEdge = false := by
  have hflag : ∀ e : ℕ → EdgeDetector, (∀ n, e (n + 1) = (e n).step (Sprites.vs s n)) →
      (e (n + 2)).risingEdge = false := fun _ he => risingEdge_eq_false he h
  refine ⟨?_, ?_, ?_, ?_, ?_, ?_⟩
  · exact hflag (fun n => (s n).heart.mover.frameClk) fun n => by
      rw [hs n]; exact Mover.step_frameClk _ _ _
  · exact hflag (fun n => (s n).frisk.frameClk) fun n => by
      rw [hs n]; exact Mover.step_frameClk _ _ _
  · exact hflag (fun n => (s n).frisk2.frameClk) fun n => by
      rw [hs n]; exact Mover.step_frameClk _ _ _
  · exact hflag (fun n => (s n).map1.frameClk) fun n => by
      rw [hs n]; exact Scroll.step_frameClk _ _ _
  · exact hflag (fun n => (s n).door.frameClk) fun n => by
      rw [hs n]; exact Scroll.step_frameClk _ _ _
  · exact hflag (fun n => (s n).bullets.frameClk) fun n => by
      rw [hs n]; exact Bullets.step_frameClk _ _ _ _

/-- Between frame edges `flower` holds. -/
theorem Sprites.flower_holds {n : ℕ} (h : ¬ Rises (Sprites.vs s) n) :
    (s (n + 1)).flower = (s n).flower := by
  have hvs : ¬ ((s n).vga.vs = false ∧ (s (n + 1)).vga.vs = true) := h
  rw [hs n] at hvs ⊢
  exact if_neg hvs

/-! ## One clock of a settled picture -/

/-- No rising edge reaches the registers of cycle `n + 4`, and neither the status
nor `start_bullet` has changed for three cycles. -/
structure Sprites.Quiet (i : ℕ → SpritesInputs) (s : ℕ → Sprites) (n : ℕ) : Prop where
  rises : ¬ Rises (Sprites.vs s) n
  rises' : ¬ Rises (Sprites.vs s) (n + 1)
  status : (i (n + 2)).status = (i (n + 1)).status
  status' : (i (n + 3)).status = (i (n + 2)).status
  startBullet : (s (n + 2)).flower.startBullet = (s (n + 1)).flower.startBullet
  startBullet' : (s (n + 3)).flower.startBullet = (s (n + 2)).flower.startBullet

theorem Sprites.Quiet.heart {n : ℕ} (h : Sprites.Quiet i s n) :
    (s (n + 4)).picture.heart = (s (n + 3)).picture.heart ∧
      (s (n + 4)).picture.posH = (s (n + 3)).picture.posH := by
  have hheart : ∀ n, (s (n + 1)).heart = (s n).heart.step ((s n).moverInputs (i n)) :=
    fun n => congrArg Sprites.heart (hs n)
  have hmover : ∀ n, (s (n + 1)).heart.mover =
      (s n).heart.mover.step heartMove ((s n).moverInputs (i n)) :=
    fun n => congrArg Heart.mover (hheart n)
  obtain ⟨ht, -⟩ := Sprites.no_tick hs h.rises
  obtain ⟨ht', -⟩ := Sprites.no_tick hs h.rises'
  -- the position holds in this clock, and held in the last one
  obtain ⟨hx, hy⟩ := Mover.pos_hold (r := fun n => (s n).heart.mover) hmover h.status ht
  obtain ⟨hx', hy'⟩ := Mover.pos_hold (r := fun n => (s n).heart.mover) hmover h.status' ht'
  refine ⟨Prod.ext hx' hy', ?_⟩
  show ((s (n + 4)).heart.posXH, (s (n + 4)).heart.posYH) =
    ((s (n + 3)).heart.posXH, (s (n + 3)).heart.posYH)
  rcases eq_or_ne (i (n + 3)).status 5#4 with hb | hb
  · have hb' : (i (n + 2)).status = 5#4 := h.status' ▸ hb
    rw [hheart (n + 3), Heart.step_posXH hb, Heart.step_posYH hb]
    rw [hheart (n + 2), Heart.step_posXH hb', Heart.step_posYH hb', ← hheart (n + 2)]
    exact Prod.ext hx hy
  · rw [hheart (n + 3), Heart.step_posXH_outside hb, Heart.step_posYH_outside hb]

theorem Sprites.Quiet.bullets {n : ℕ} (h : Sprites.Quiet i s n) :
    (s (n + 4)).picture.showBullet = (s (n + 3)).picture.showBullet ∧
      (s (n + 4)).picture.bullet = (s (n + 3)).picture.bullet := by
  obtain ⟨j, hj⟩ : ∃ j : ℕ → BulletsInputs, ∀ n,
      (s (n + 1)).bullets = (s n).bullets.step rom ((s n).bulletsInputs (i n)) (j n) :=
    ⟨_, fun n => congrArg Sprites.bullets (hs n)⟩
  obtain ⟨-, -, -, -, -, ht⟩ := Sprites.no_tick hs h.rises
  obtain ⟨-, -, -, -, -, ht'⟩ := Sprites.no_tick hs h.rises'
  -- the show flags held in the last clock, so the lanes that are not shown are home
  have hshow := Bullets.showBullet_hold (r := fun n => (s n).bullets)
    (i := fun n => (s n).bulletsInputs (i n)) hj h.status ht h.startBullet
  have hshow' := Bullets.showBullet_hold (r := fun n => (s n).bullets)
    (i := fun n => (s n).bulletsInputs (i n)) hj h.status' ht' h.startBullet'
  refine ⟨hshow', funext fun k => ?_⟩
  obtain ⟨hx, hy⟩ := Bullets.bullet_hold (r := fun n => (s n).bullets)
    (i := fun n => (s n).bulletsInputs (i n)) hj h.status' ht' hshow k
  exact Prod.ext hx hy

/-- A quiet clock leaves the picture as it is. -/
theorem Sprites.picture_succ {n : ℕ} (h : Sprites.Quiet i s n) :
    (s (n + 4)).picture = (s (n + 3)).picture := by
  obtain ⟨hheart, hposH⟩ := h.heart hs
  obtain ⟨hshow, hbullet⟩ := h.bullets hs
  obtain ⟨-, hfrisk, hfrisk2, hmap1, hdoor, -⟩ := Sprites.no_tick hs h.rises'
  obtain ⟨hfx, hfy⟩ := Mover.pos_hold (r := fun n => (s n).frisk)
    (fun n => congrArg Sprites.frisk (hs n)) h.status' hfrisk
  obtain ⟨hfx2, hfy2⟩ := Mover.pos_hold (r := fun n => (s n).frisk2)
    (fun n => congrArg Sprites.frisk2 (hs n)) h.status' hfrisk2
  exact Picture.ext hheart (Prod.ext hfx hfy) (Prod.ext hfx2 hfy2)
    (Scroll.pos_hold (r := fun n => (s n).map1) (fun n => congrArg Sprites.map1 (hs n)) h.status'
      hmap1)
    (Scroll.pos_hold (r := fun n => (s n).door) (fun n => congrArg Sprites.door (hs n)) h.status'
      hdoor)
    hposH hshow hbullet

/-! ## One frame -/

/-- `t₀` and `t₁` are consecutive rising edges of the frame clock, and the status is
the same in every cycle between them. -/
structure Sprites.IsFrame (i : ℕ → SpritesInputs) (s : ℕ → Sprites) (t₀ t₁ : ℕ) : Prop where
  lt : t₀ < t₁
  rises : Rises (Sprites.vs s) t₀
  rises' : Rises (Sprites.vs s) t₁
  between : ∀ n, t₀ < n → n < t₁ → ¬ Rises (Sprites.vs s) n
  status : ∀ n, t₀ < n → n ≤ t₁ → (i n).status = (i (t₀ + 1)).status

/-- The clocks of a frame are quiet from the second one on. -/
theorem Sprites.IsFrame.quiet {t₀ t₁ n : ℕ} (h : Sprites.IsFrame i s t₀ t₁) (hn : t₀ < n)
    (hn' : n + 3 ≤ t₁) : Sprites.Quiet i s n where
  rises := h.between n hn (by omega)
  rises' := h.between (n + 1) (by omega) (by omega)
  status := (h.status (n + 2) (by omega) (by omega)).trans
    (h.status (n + 1) (by omega) (by omega)).symm
  status' := (h.status (n + 3) (by omega) (by omega)).trans
    (h.status (n + 2) (by omega) (by omega)).symm
  startBullet := congrArg Flower.startBullet
    (Sprites.flower_holds hs (h.between (n + 1) (by omega) (by omega)))
  startBullet' := congrArg Flower.startBullet
    (Sprites.flower_holds hs (h.between (n + 2) (by omega) (by omega)))

/-- The picture of a frame, from the fourth clock after its edge on. -/
theorem Sprites.IsFrame.picture_eq {t₀ t₁ n : ℕ} (h : Sprites.IsFrame i s t₀ t₁)
    (hn : t₀ + 4 ≤ n) (hn' : n ≤ t₁ + 1) : (s n).picture = (s (t₀ + 4)).picture := by
  refine preserved (P := fun n => (s n).picture = (s (t₀ + 4)).picture) hn rfl
    fun k hk hkn ih => ?_
  obtain ⟨m, rfl⟩ : ∃ m, k = m + 3 := ⟨k - 3, by omega⟩
  exact (Sprites.picture_succ hs (h.quiet hs (by omega) (by omega))).trans ih

/-- In a battle the collision test reads the heart where it is drawn. -/
theorem Sprites.IsFrame.posH_eq {t₀ t₁ n : ℕ} (h : Sprites.IsFrame i s t₀ t₁)
    (hn : t₀ + 5 ≤ n) (hn' : n ≤ t₁ + 1) (hb : (i (t₀ + 1)).status = 5#4) :
    (s n).picture.posH = (s n).picture.heart := by
  obtain ⟨m, rfl⟩ : ∃ m, n = m + 1 := ⟨n - 1, by omega⟩
  have hm : (i m).status = 5#4 := (h.status m (by omega) (by omega)).trans hb
  have hpicture : (s (m + 1)).picture = (s m).picture :=
    (h.picture_eq hs (by omega) hn').trans (h.picture_eq hs (by omega) (by omega)).symm
  have hheart : (s (m + 1)).picture.posH = (s m).picture.heart := by
    show ((s (m + 1)).heart.posXH, (s (m + 1)).heart.posYH) = _
    have hstep : (s (m + 1)).heart = (s m).heart.step ((s m).moverInputs (i m)) :=
      congrArg Sprites.heart (hs m)
    rw [hstep, Heart.step_posXH hm, Heart.step_posYH hm]
    rfl
  rw [hheart, hpicture]

omit hs in
/-- The collision flags are those of the picture. -/
theorem Sprites.collide_congr {r r' : Sprites} (h : r.picture = r'.picture) :
    r.bullets.collide r.heart.posXH r.heart.posYH =
      r'.bullets.collide r'.heart.posXH r'.heart.posYH := by
  have hx : r.heart.posXH = r'.heart.posXH := congrArg (fun p => p.posH.1) h
  have hy : r.heart.posYH = r'.heart.posYH := congrArg (fun p => p.posH.2) h
  unfold Bullets.collide
  congr 1
  funext k
  have hbx : (r.bullets.bullet k).xPos = (r'.bullets.bullet k).xPos :=
    congrArg (fun p => (p.bullet k).1) h
  have hby : (r.bullets.bullet k).yPos = (r'.bullets.bullet k).yPos :=
    congrArg (fun p => (p.bullet k).2) h
  rw [Bullets.near, Bullets.near, Lane.near_congr hbx hby, hx, hy]

/-- HP after a frame edge. -/
theorem Sprites.hp_rises {n : ℕ} (h : Rises (Sprites.vs s) n) :
    (s (n + 1)).bullets.hp =
      nextHP (i (n + 1)).status
        ((s (n + 1)).bullets.collide (s (n + 1)).heart.posXH (s (n + 1)).heart.posYH)
        (s n).bullets.hp := by
  have hvs : (s n).vga.vs = false ∧ (s (n + 1)).vga.vs = true := h
  rw [hs n] at hvs ⊢
  exact (Bullets.step_hp _ _ _ _).trans (if_pos hvs)

end run

/-- In every run from the reset of the VGA controller and every frame but the one
that starts with the spurious first rise, the picture is constant from the fifth
clock after the first edge until the second, every pixel that is displayed falls
in that interval, and HP is updated at the second edge by the collision flags of
the picture displayed at any of these pixels.  In a battle these are flags for the
heart where it is drawn. -/
theorem Sprites.frame_coherent (rom : Rom) (i : ℕ → SpritesInputs) (s : Sprites)
    (h0 : s.vga = Vga.init) (t₀ t₁ : ℕ) (hpos : 0 < t₀)
    (h : Sprites.IsFrame i (Sprites.run rom i s) t₀ t₁) :
    (∀ n, t₀ + 5 ≤ n → n ≤ t₁ + 1 →
        (Sprites.run rom i s n).picture = (Sprites.run rom i s (t₀ + 5)).picture) ∧
      ∀ n, t₀ < n → n ≤ t₁ → (Sprites.run rom i s n).vga.blank = true →
        t₀ + 5 ≤ n ∧
          (Sprites.run rom i s (t₁ + 1)).bullets.hp =
            nextHP (i (t₁ + 1)).status
              ((Sprites.run rom i s n).bullets.collide (Sprites.run rom i s n).heart.posXH
                (Sprites.run rom i s n).heart.posYH)
              (Sprites.run rom i s t₁).bullets.hp ∧
          ((i (t₀ + 1)).status = 5#4 →
            (Sprites.run rom i s n).heart.posXH = (Sprites.run rom i s n).heart.mover.xPos ∧
              (Sprites.run rom i s n).heart.posYH = (Sprites.run rom i s n).heart.mover.yPos) := by
  have hs : ∀ n, Sprites.run rom i s (n + 1) =
      (Sprites.run rom i s n).step rom (i n) (i (n + 1)).status := fun _ => rfl
  have hconst : ∀ n, t₀ + 5 ≤ n → n ≤ t₁ + 1 →
      (Sprites.run rom i s n).picture = (Sprites.run rom i s (t₀ + 4)).picture :=
    fun n hn hn' => h.picture_eq hs (by omega) hn'
  refine ⟨fun n hn hn' => (hconst n hn hn').trans (hconst (t₀ + 5) le_rfl (by omega)).symm, ?_⟩
  intro n hn hn' hblank
  have hlate : t₀ + 5 ≤ n := by
    by_contra hlt
    have hblank' := Vga.blank_after_rises (r := fun n => (Sprites.run rom i s n).vga)
      (fun n => congrArg Sprites.vga (hs n)) h0 hpos h.rises hn (by omega)
    rw [hblank] at hblank'
    cases hblank'
  refine ⟨hlate, ?_, fun hb => ?_⟩
  · rw [Sprites.hp_rises hs h.rises', Sprites.collide_congr
      ((hconst (t₁ + 1) (by omega) le_rfl).trans (hconst n hlate (by omega)).symm)]
  · have hposH := h.posH_eq hs hlate (by omega) hb
    exact ⟨congrArg Prod.fst hposH, congrArg Prod.snd hposH⟩

/-! ## A frame with a hit -/

/-- The registers of the sprites that a battle has. -/
def Sprites.battle (s : Sprites) : Battle := ⟨s.vga, s.flower, s.bullets⟩

/-- The inputs the sprites give their battle. -/
def Sprites.battleInputs (i : SpritesInputs) (s : Sprites) : BattleInputs where
  difficulty := i.difficulty
  counter := i.counter
  posXH := s.heart.posXH
  posYH := s.heart.posYH

/-- An edge of the sprites within a battle is an edge of the battle. -/
theorem Sprites.battle_succ {rom : Rom} {i : ℕ → SpritesInputs} {s : ℕ → Sprites}
    (hs : ∀ n, s (n + 1) = (s n).step rom (i n) (i (n + 1)).status)
    (h : ∀ n, (i n).status = 5#4) (n : ℕ) :
    (s (n + 1)).battle =
      (s n).battle.step rom ((s n).battleInputs (i n)) ((s (n + 1)).battleInputs (i (n + 1))) := by
  have hin : (s n).bulletsInputs (i n) = (s n).battle.bulletsInputs ((s n).battleInputs (i n)) := by
    simp only [Sprites.bulletsInputs, h]
    rfl
  rw [hs n]
  refine Battle.ext rfl ?_ ?_
  · simp only [Sprites.battle, Sprites.step, Battle.step, h]
    rfl
  · simp only [Sprites.battle, Sprites.step, Battle.step, h, hin]
    rfl

/-- The sprites at the entry of a battle, with the raster at its start. -/
def battleSprites : Sprites :=
  { Sprites.zero with
    heart := ⟨Mover.init heartMove ⟨false, false⟩, 319#10, 317#10⟩
    bullets := (Battle.entry Vga.init).bullets }

/-- A battle at difficulty 1 in which no key is pressed. -/
def battleHeld (_ : ℕ) : SpritesInputs := ⟨5#4, 0#8, 1#2, 0#10⟩

/-- That battle, when the ROM shows lane 4 only. -/
def laneFourSprites : ℕ → Sprites := Sprites.run (fun _ => 4#4) battleHeld battleSprites

theorem laneFourSprites_vga (n : ℕ) : (laneFourSprites n).vga = Vga.scan n :=
  run_map Sprites.vga (fun _ => rfl) n

/-- The heart waits where it starts. -/
theorem laneFourSprites_heart (n : ℕ) :
    ∃ e, (laneFourSprites n).heart = ⟨Mover.init heartMove e, 319#10, 317#10⟩ := by
  induction n with
  | zero => exact ⟨_, rfl⟩
  | succ n ih =>
      obtain ⟨e, he⟩ := ih
      have hstep : (laneFourSprites (n + 1)).heart =
          (laneFourSprites n).heart.step ((laneFourSprites n).moverInputs (battleHeld n)) := rfl
      have hmover : (Mover.init heartMove e).step heartMove
          ((laneFourSprites n).moverInputs (battleHeld n)) = _ :=
        Mover.step_init_released (show nextPress 0#8 = false from rfl)
      rw [hstep, he]
      exact ⟨_, Heart.ext hmover (Heart.step_posXH rfl _) (Heart.step_posYH rfl _)⟩

/-- Its bullets are those of the battle against a heart that is held there. -/
theorem laneFourSprites_battle (n : ℕ) : (laneFourSprites n).battle = laneFour n := by
  have hin : ∀ n, (laneFourSprites n).battleInputs (battleHeld n) = middle n := by
    intro n
    obtain ⟨e, he⟩ := laneFourSprites_heart n
    rw [Sprites.battleInputs, he]
    rfl
  induction n with
  | zero => rfl
  | succ n ih =>
      rw [Sprites.battle_succ (s := laneFourSprites) (fun _ => rfl) (fun _ => rfl) n, hin, hin, ih]
      rfl

theorem laneFourSprites_rises {n : ℕ} (hn : 0 < n) :
    Rises (Sprites.vs laneFourSprites) n ↔ n % 840000 = 785600 := by
  have hvs : Sprites.vs laneFourSprites = fun k => (Vga.scan k).vs := by
    funext k
    rw [Sprites.vs, laneFourSprites_vga]
  rw [hvs]
  exact Vga.rises_scan_iff hn

/-- The 433rd frame edge of the battle, at clock 362825600, takes one HP for the bullet of
lane 4. -/
theorem laneFourSprites_hit :
    (laneFourSprites 362825600).bullets.hp = 5#4 ∧
      (laneFourSprites (362825600 + 1)).bullets.hp = 4#4 ∧
      (laneFourSprites (362825600 + 1)).bullets.collide
        (laneFourSprites (362825600 + 1)).heart.posXH
        (laneFourSprites (362825600 + 1)).heart.posYH 4 = true := by
  have hbullets : ∀ n, (laneFourSprites n).bullets = (laneFour n).bullets := fun n =>
    congrArg Battle.bullets (laneFourSprites_battle n)
  have hvs : Battle.vs laneFour = fun k => (Vga.scan k).vs := by
    funext k
    rw [Battle.vs, ← laneFourSprites_battle, Sprites.battle, laneFourSprites_vga]
  obtain ⟨n, hn, hhp, -, hlane⟩ := laneFour_edge
  obtain rfl : n = 362825600 := Vga.eq_of_isNth (q := 431) (hvs ▸ hn)
  have hhp' := Battle.hp_rises laneFour_succ hn.2.1
  have hhit : hitLane (middle (362825600 + 1)).heart
    (laneFour (362825600 + 1)).bullets.position = some 4 := hlane
  obtain ⟨e, he⟩ := laneFourSprites_heart (362825600 + 1)
  rw [hhit, hhp] at hhp'
  refine ⟨(congrArg Bullets.hp (hbullets _)).trans hhp,
    (congrArg Bullets.hp (hbullets _)).trans hhp', ?_⟩
  rw [hbullets, he, Bullets.collide_eq, hlane]
  rfl

/-- The frame between the clocks 361985600 and 362825600 of that battle displays the heart
with the bullet of lane 4 at it: the collision flag that takes the HP at the second edge is
up in the clock that scans the middle of the heart. -/
theorem Sprites.frame_coherent_laneFour :
    let s := laneFourSprites
    let n := 362547838
    (s n).vga.blank = true ∧ (s n).vga.draw = ⟨319#10, 317#10⟩ ∧
      (s n).picture = (s (361985600 + 5)).picture ∧
      (s n).picture.heart = (319#10, 317#10) ∧
      (s n).heart.posXH = (s n).heart.mover.xPos ∧ (s n).heart.posYH = (s n).heart.mover.yPos ∧
      (s n).bullets.collide (s n).heart.posXH (s n).heart.posYH 4 = true ∧
      (s (362825600 + 1)).bullets.hp =
        nextHP 5#4 ((s n).bullets.collide (s n).heart.posXH (s n).heart.posYH)
          (s 362825600).bullets.hp ∧
      (s 362825600).bullets.hp = 5#4 ∧ (s (362825600 + 1)).bullets.hp = 4#4 := by
  intro s n
  have hframe : Sprites.IsFrame battleHeld s 361985600 362825600 :=
    { lt := by omega
      rises := (laneFourSprites_rises (by omega)).mpr (by omega)
      rises' := (laneFourSprites_rises (by omega)).mpr (by omega)
      between := fun k hk hk' => (laneFourSprites_rises (by omega)).not.mpr (by omega)
      status := fun _ _ _ => rfl }
  obtain ⟨hpicture, hdrawn⟩ := Sprites.frame_coherent (fun _ => 4#4) battleHeld battleSprites rfl
    361985600 362825600 (by omega) hframe
  have hshows : Vga.Shows 319 317 n := (Vga.shows_iff (by omega) (by omega) n).mpr (by omega)
  rw [Vga.Shows, ← laneFourSprites_vga] at hshows
  obtain ⟨-, hhp, hheart⟩ := hdrawn n (by omega) (by omega) hshows.1
  obtain ⟨hx, hy⟩ := hheart rfl
  obtain ⟨hhp5, hhp4, hcollide⟩ := laneFourSprites_hit
  obtain ⟨e, he⟩ := laneFourSprites_heart n
  have hsame : (s n).picture = (s (362825600 + 1)).picture :=
    (hpicture n (by omega) (by omega)).trans (hpicture (362825600 + 1) (by omega) (by omega)).symm
  refine ⟨hshows.1, hshows.2, hpicture n (by omega) (by omega), ?_, hx, hy, ?_, hhp, hhp5, hhp4⟩
  · show ((s n).heart.mover.xPos, (s n).heart.mover.yPos) = _
    rw [show (s n).heart = _ from he]
    rfl
  · rw [Sprites.collide_congr hsame]
    exact hcollide

end Undertale
