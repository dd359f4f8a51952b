import Undertale.Clocked.Events
import Undertale.ResetForgets

/-!
# A player

A mover has two traps for the one who steers it: its motion register makes one more step
after the key is let go, and a key against an edge leaves the other axis moving.  A player
who makes one step at a time, and waits until it is done, avoids both and gets to every
point within the limits from wherever the registers stand (`Mover.arrives`).

`Game.player` plays the whole game like that.  It presses what its scene asks for, walks to
the door, to the monster, and in battle to a point of the field.
-/

namespace Undertale

open Clocked

/-! ## Walking to a point -/

/-- The next key on the way to the point `(x, y)`: none while a step is being made. -/
def Mover.towards (x y : BitVec 10) (r : Mover) : BitVec 8 :=
  if r.xMotion ≠ 0#10 ∨ r.yMotion ≠ 0#10 then 0#8
  else if r.xPos < x then 7#8
  else if x < r.xPos then 4#8
  else if r.yPos < y then 22#8
  else if y < r.yPos then 26#8
  else 0#8

/-- The mover stands at the point and is at rest. -/
structure Mover.Stands (x y : BitVec 10) (r : Mover) : Prop where
  xPos : r.xPos = x
  yPos : r.yPos = y
  xMotion : r.xMotion = 0#10
  yMotion : r.yMotion = 0#10

/-- How far two coordinates are apart. -/
def gap (a b : BitVec 10) : ℕ := (a.toNat - b.toNat) + (b.toNat - a.toNat)

/-- The ticks that are left on the way to the point: two for a pixel, and one less while a
step is being made. -/
def Mover.ticksTo (x y : BitVec 10) (r : Mover) : ℕ :=
  2 * (gap (r.xPos + r.xMotion) x + gap (r.yPos + r.yMotion) y) +
    if r.xMotion = 0#10 ∧ r.yMotion = 0#10 then 0 else 1

theorem gap_add_one {a b : BitVec 10} (h : a < b) : gap (a + 1#10) b + 1 = gap a b := by
  rw [BitVec.lt_def] at h
  unfold gap
  rw [toNat_add_one, if_neg (by omega)]
  omega

theorem gap_sub_one {a b : BitVec 10} (h : b < a) : gap (a + 1023#10) b + 1 = gap a b := by
  have hstep := toNat_add_neg_one a
  rw [BitVec.lt_def] at h
  rw [if_neg (by omega)] at hstep
  unfold gap
  rw [show (1023#10 : BitVec 10) = -1#10 from rfl, hstep]
  omega

theorem not_le_of_lt_of_le {a b c : BitVec 10} (h : a < b) (h' : b ≤ c) : ¬ c ≤ a := by
  rw [BitVec.lt_def] at h
  rw [BitVec.le_def] at h' ⊢
  omega

section tick
variable {p : MoverParams} {x y : BitVec 10} {r : Mover}

/-- Without a key a tick makes the step that is due, and no other. -/
theorem Mover.tick_released (p : MoverParams) (r : Mover) :
    r.tick p 0#8 =
      { r with xPos := r.xPos + r.xMotion, xMotion := 0#10, yPos := r.yPos + r.yMotion,
               yMotion := 0#10 } := by
  simp [Mover.tick, Mover.decision]

/-- At the point the mover is left alone. -/
theorem Mover.Stands.tick (h : r.Stands x y) : r.tick p (r.towards x y) = r := by
  obtain ⟨rfl, rfl, hx, hy⟩ := h
  obtain ⟨xPos, xMotion, yPos, yMotion, e⟩ := r
  obtain rfl : xMotion = 0#10 := hx
  obtain rfl : yMotion = 0#10 := hy
  have hkey : Mover.towards xPos yPos ⟨xPos, 0#10, yPos, 0#10, e⟩ = 0#8 := by
    simp [Mover.towards]
  rw [hkey, Mover.tick_released]
  simp

/-- A tick on the way brings the mover closer, wherever it is. -/
theorem Mover.ticksTo_tick (hp : p.UnitStep) (hx : p.xMin ≤ x ∧ x ≤ p.xMax)
    (hy : p.yMin ≤ y ∧ y ≤ p.yMax) (h : ¬ r.Stands x y) :
    (r.tick p (r.towards x y)).ticksTo x y < r.ticksTo x y := by
  obtain ⟨xPos, xMotion, yPos, yMotion, e⟩ := r
  by_cases hmove : xMotion = 0#10 ∧ yMotion = 0#10
  · obtain ⟨rfl, rfl⟩ := hmove
    have hkey : Mover.towards x y ⟨xPos, 0#10, yPos, 0#10, e⟩ =
        if xPos < x then 7#8 else if x < xPos then 4#8 else if yPos < y then 22#8
        else if y < yPos then 26#8 else 0#8 := by
      simp [Mover.towards]
    rw [hkey]
    split
    · -- to the right
      next hlt =>
      have hgap := gap_add_one hlt
      have hlim : ¬ p.xMax ≤ xPos := not_le_of_lt_of_le hlt hx.2
      simp [Mover.tick, Mover.decision, hlim, hp.1, Mover.ticksTo]
      omega
    · split
      · next hlt =>
        have hgap := gap_sub_one hlt
        have hlim : ¬ xPos ≤ p.xMin := fun hle => not_le_of_lt_of_le hlt hle hx.1
        simp [Mover.tick, Mover.decision, hlim, hp.1, Mover.ticksTo]
        omega
      · split
        · next hlt =>
          have hgap := gap_add_one hlt
          have hlim : ¬ p.yMax ≤ yPos := not_le_of_lt_of_le hlt hy.2
          simp [Mover.tick, Mover.decision, hlim, hp.2, Mover.ticksTo]
          omega
        · split
          · next hlt =>
            have hgap := gap_sub_one hlt
            have hlim : ¬ yPos ≤ p.yMin := fun hle => not_le_of_lt_of_le hlt hle hy.1
            simp [Mover.tick, Mover.decision, hlim, hp.2, Mover.ticksTo]
            omega
          · next h1 h2 h3 h4 =>
            refine absurd ⟨?_, ?_, rfl, rfl⟩ h
            · exact BitVec.le_antisymm (BitVec.not_lt.mp h2) (BitVec.not_lt.mp h1)
            · exact BitVec.le_antisymm (BitVec.not_lt.mp h4) (BitVec.not_lt.mp h3)
  · have hkey : Mover.towards x y ⟨xPos, xMotion, yPos, yMotion, e⟩ = 0#8 :=
      if_pos (not_and_or.mp hmove)
    rw [hkey, Mover.tick_released]
    simp [Mover.ticksTo, hmove]

end tick

/-- As long as ticks keep coming, the mover arrives. -/
theorem Mover.arrives {p : MoverParams} (hp : p.UnitStep) {x y : BitVec 10}
    (hx : p.xMin ≤ x ∧ x ≤ p.xMax) (hy : p.yMin ≤ y ∧ y ≤ p.yMax) {i : ℕ → MoverInputs}
    {r : ℕ → Mover} (hr : ∀ n, r (n + 1) = (r n).step p (i n))
    (hs : ∀ n, (i n).status = p.status) (hkey : ∀ n, (i n).keycode = (r n).towards x y)
    (hticks : ∀ n, ∃ m, n ≤ m ∧ (r m).frameClk.risingEdge = true) (n : ℕ) :
    ∃ m, n ≤ m ∧ (r m).Stands x y := by
  induction hd : (r n).ticksTo x y using Nat.strong_induction_on generalizing n with
  | _ d ih =>
  obtain ⟨b, hnb, hb⟩ := hticks n
  obtain ⟨k, hnk, hk, hsame⟩ := exists_enabled (v := fun n => (r n).ticksTo x y)
    (e := fun n => (r n).frameClk.risingEdge = true)
    (fun n hn => by
      rw [hr n, Mover.step_idle (hs n) (Bool.not_eq_true _ ▸ hn)]
      rfl) hnb hb
  rcases Classical.em ((r k).Stands x y) with hstands | hstands
  · exact ⟨k, hnk, hstands⟩
  · have hlt := Mover.ticksTo_tick hp hx hy hstands
    have hnext : (r (k + 1)).ticksTo x y < d := by
      rw [hr k, Mover.step_tick (hs k) hk, hkey k, ← hd, ← hsame]
      exact hlt
    obtain ⟨m, hkm, hm⟩ := ih _ hnext (k + 1) rfl
    exact ⟨m, by omega, hm⟩

/-! ## The frame edges of a game -/

section edges
variable {rom : Rom} {i : ℕ → GameInputs} {g : ℕ → Game}
  (hg : ∀ n, g (n + 1) = (g n).step rom (i n))
include hg

theorem Game.exists_rises (n : ℕ) : ∃ m, n ≤ m ∧ Rises (Game.vs g) m :=
  Vga.exists_rises (r := fun n => (g n).sprites.vga) (Game.vga_succ hg) n

/-- Around a frame edge there is no other. -/
theorem Game.not_rises_near {m n : ℕ} (hm : Rises (Game.vs g) m) (hne : n ≠ m) (hn : n < m + 6)
    (hm' : m < n + 6) : ¬ Rises (Game.vs g) n := by
  intro h
  have hapart : ∀ {k l}, Rises (Game.vs g) k → Rises (Game.vs g) l → k < l → k + 6 ≤ l :=
    Vga.rises_apart (r := fun n => (g n).sprites.vga) (Game.vga_succ hg)
  rcases Nat.lt_or_gt_of_ne hne with hlt | hgt
  · exact absurd (hapart h hm hlt) (Nat.not_le.mpr hm')
  · exact absurd (hapart hm h hgt) (Nat.not_le.mpr hn)

end edges

/-! ## Playing the game -/

/-- The keycode of a player who sees the game `g`. -/
def Game.player (g : Game) : BitVec 8 :=
  match g.scene with
  | .title => 0x28#8
  | .intro => 0x1d#8
  | .map1 =>
    if arrivedDoor 3#4 g.sprites.frisk then 0x28#8 else g.sprites.frisk.towards 550#10 135#10
  | .map2 => g.sprites.frisk2.towards 300#10 180#10
  | .battle => g.sprites.heart.mover.towards 306#10 327#10
  | .win => 0#8
  | .lose => 0x1d#8

/-- What a player gives the game: a keycode, and never a reset. -/
def GameInputs.key (keycode : BitVec 8) : GameInputs := ⟨false, keycode⟩

/-- The game as someone who presses `p` plays it from the state `g`. -/
def Game.play (p : Game → BitVec 8) (rom : Rom) (g : Game) : ℕ → Game :=
  Clocked.run (fun _ g => g.step rom (.key (p g))) g

/-- What the game is given then. -/
def Game.playInputs (p : Game → BitVec 8) (rom : Rom) (g : Game) (n : ℕ) : GameInputs :=
  .key (p (Game.play p rom g n))

/-- It is a run of the game. -/
theorem Game.run_play (p : Game → BitVec 8) (rom : Rom) (g : Game) (n : ℕ) :
    Game.run rom (Game.playInputs p rom g) g n = Game.play p rom g n := by
  induction n with
  | zero => rfl
  | succ n ih =>
      rw [Game.run, run_succ, ← Game.run, ih]
      rfl

section play
variable {rom : Rom} {g : ℕ → Game} (hg : ∀ n, g (n + 1) = (g n).step rom (.key (g n).player))
include hg

theorem Game.play_scene (n : ℕ) :
    (g (n + 1)).scene = (g n).scene.nextState ((g n).stateInputs (.key (g n).player)) := by
  rw [hg n]
  rfl

theorem Game.play_title {n : ℕ} (h : (g n).scene = .title) : (g (n + 1)).scene = .intro := by
  rw [Game.play_scene hg n, h]
  simp [Scene.nextState, Game.stateInputs, GameInputs.key, Game.player, h]

theorem Game.play_intro {n : ℕ} (h : (g n).scene = .intro) : (g (n + 1)).scene = .map1 := by
  rw [Game.play_scene hg n, h]
  simp [Scene.nextState, Game.stateInputs, GameInputs.key, Game.player, h]

theorem Game.play_lose {n : ℕ} (h : (g n).scene = .lose) : (g (n + 1)).scene = .map2 := by
  rw [Game.play_scene hg n, h]
  simp [Scene.nextState, Game.stateInputs, GameInputs.key, Game.player, h]

/-- A player who stays in a scene for ever and steers its mover gets to the point. -/
theorem Game.play_walk {s : Scene} {p : MoverParams} (r : Sprites → Mover)
    (hr : ∀ n, r (g (n + 1)).sprites = (r (g n).sprites).step p
      ((g n).sprites.moverInputs ((g n).spritesInputs (.key (g n).player))))
    (hp : p.UnitStep) {x y : BitVec 10} (hx : p.xMin ≤ x ∧ x ≤ p.xMax)
    (hy : p.yMin ≤ y ∧ y ≤ p.yMax) (hs : s.status = p.status) {n : ℕ}
    (hstays : ∀ m, n ≤ m → (g m).scene = s)
    (hkey : ∀ m, n ≤ m → (g m).player = (r (g m).sprites).towards x y) :
    ∃ m, n ≤ m ∧ (r (g m).sprites).Stands x y := by
  have hticks : ∀ m, ∃ k, m ≤ k ∧ (r (g (n + k)).sprites).frameClk.risingEdge = true := by
    intro m
    obtain ⟨k, hmk, hk⟩ :=
      Game.exists_rises (i := fun n => .key (g n).player) hg (n + m)
    refine ⟨k + 2 - n, by omega, ?_⟩
    rw [show n + (k + 2 - n) = k + 2 by omega]
    exact (risingEdge_iff (v := Game.vs g) (e := fun n => (r (g n).sprites).frameClk)
      (fun n => by rw [hr n]; exact Mover.step_frameClk _ _ _) k).mpr hk
  obtain ⟨k, -, hk⟩ := Mover.arrives hp hx hy (r := fun k => (r (g (n + k)).sprites))
    (i := fun k => (g (n + k)).sprites.moverInputs
      ((g (n + k)).spritesInputs (.key (g (n + k)).player)))
    (fun k => hr (n + k))
    (fun k => (congrArg Scene.status (hstays (n + k) (Nat.le_add_right n k))).trans hs)
    (fun k => hkey (n + k) (Nat.le_add_right n k)) hticks 0
  exact ⟨n + k, Nat.le_add_right n k, hk⟩

/-- Frisk gets through the door. -/
theorem Game.play_map1 {n : ℕ} (h : (g n).scene = .map1) :
    ∃ m, n ≤ m ∧ (g m).scene = .map1 ∧ (g (m + 1)).scene = .map2 := by
  have hnext : ∀ m, (g m).scene = .map1 →
      (g (m + 1)).scene = if (g m).player = 0x28#8 ∧
        arrivedDoor 3#4 (g m).sprites.frisk = true then .map2 else .map1 := by
    intro m hm
    rw [Game.play_scene hg m, hm]
    simp [Scene.nextState, Game.stateInputs, GameInputs.key, hm, Scene.status]
  refine (leaves_or_stays (v := fun n => (g n).scene) h fun m _ hm => ?_).resolve_right
    fun hstays => ?_
  · rw [hnext m hm]
    split
    · exact .inr rfl
    · exact .inl rfl
  · have hdoor : ∀ m, n ≤ m → arrivedDoor 3#4 (g m).sprites.frisk = false := by
      intro m hnm
      rw [← Bool.not_eq_true]
      intro harr
      have hkey : (g m).player = 0x28#8 := by simp [Game.player, hstays m hnm, harr]
      have hstep := hnext m (hstays m hnm)
      rw [if_pos ⟨hkey, harr⟩] at hstep
      exact Scene.noConfusion (hstep.symm.trans (hstays (m + 1) (by omega)))
    obtain ⟨m, hnm, hm⟩ := Game.play_walk hg Sprites.frisk (p := friskMove)
      (fun n => congrArg (fun g => g.sprites.frisk) (hg n)) friskMove_unitStep (x := 550#10)
      (y := 135#10) ⟨by decide, by decide⟩ ⟨by decide, by decide⟩ rfl hstays
      fun m hnm => by simp [Game.player, hstays m hnm, hdoor m hnm]
    have harr : arrivedDoor 3#4 (g m).sprites.frisk = true := by
      rw [arrivedDoor, hm.xPos, hm.yPos]
      decide
    rw [hdoor m hnm] at harr
    cases harr

/-- Frisk gets to the monster. -/
theorem Game.play_map2 {n : ℕ} (h : (g n).scene = .map2) :
    ∃ m, n ≤ m ∧ (g m).scene = .map2 ∧ (g (m + 1)).scene = .battle := by
  have hnext : ∀ m, (g m).scene = .map2 →
      (g (m + 1)).scene =
        if arrivedMonster 4#4 (g m).sprites.frisk2 = true then .battle else .map2 := by
    intro m hm
    rw [Game.play_scene hg m, hm]
    simp [Scene.nextState, Game.stateInputs, hm, Scene.status]
  refine (leaves_or_stays (v := fun n => (g n).scene) h fun m _ hm => ?_).resolve_right
    fun hstays => ?_
  · rw [hnext m hm]
    split
    · exact .inr rfl
    · exact .inl rfl
  · obtain ⟨m, hnm, hm⟩ := Game.play_walk hg Sprites.frisk2 (p := friskMove2)
      (fun n => congrArg (fun g => g.sprites.frisk2) (hg n)) friskMove2_unitStep (x := 300#10)
      (y := 180#10) ⟨by decide, by decide⟩ ⟨by decide, by decide⟩ rfl hstays
      fun m hnm => by simp [Game.player, hstays m hnm]
    have harr : arrivedMonster 4#4 (g m).sprites.frisk2 = true := by
      rw [arrivedMonster, hm.xPos, hm.yPos]
      decide
    have hstep := hnext m (hstays m hnm)
    rw [if_pos harr] at hstep
    exact Scene.noConfusion (hstep.symm.trans (hstays (m + 1) (by omega)))

/-- From the title the player gets into the battle. -/
theorem Game.play_battle {n : ℕ} (h : (g n).scene = .title) :
    ∃ m, n ≤ m ∧ (g m).scene = .map2 ∧ (g (m + 1)).scene = .battle := by
  obtain ⟨a, hna, -, ha⟩ := Game.play_map1 hg (Game.play_intro hg (Game.play_title hg h))
  obtain ⟨b, hab, hb⟩ := Game.play_map2 hg ha
  exact ⟨b, by omega, hb⟩

end play

end Undertale
