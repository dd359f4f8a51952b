import Undertale.Walk
import Undertale.Winning
import Mathlib.Order.Bounds.Basic

/-!
# The shortest games

The walks have a minimal length (`Walk.turns_le`), and the battle has its timer.
`Game.earliest` says how many frames a scene takes at least, whatever the keys, the ROM and
the resets, and `Game.fastest` that a win in this time can be had.
-/

namespace Undertale

open Clocked

/-! ## The least number of frames -/

/-- The ticks that a scene takes at least. -/
def Scene.ticks : Scene → ℕ
  | .title => 0
  | .intro => 0
  | .map1 => 0
  | .map2 => 272
  | .battle => 468
  | .win => 468
  | .lose => 468

/-- The frames that a scene takes at least. -/
def Scene.frames : Scene → ℕ
  | .win => 4309
  | s => s.ticks

theorem Scene.step_eq_map2 {i : StateInputs} {s : Scene} (h : s.step i = .map2) :
    s = .map2 ∨ (s = .map1 ∧ i.arrivedDoor = true) ∨ s = .lose := by
  unfold Scene.step at h
  split at h
  · cases h
  · cases s <;> simp only [Scene.nextState] at h <;> grind

theorem Scene.step_eq_lose {i : StateInputs} {s : Scene} (h : s.step i = .lose) :
    s = .lose ∨ s = .battle := by
  unfold Scene.step at h
  split at h
  · cases h
  · cases s <;> simp only [Scene.nextState] at h <;> grind

theorem Scene.step_eq_win {i : StateInputs} {s : Scene} (h : s.step i = .win) :
    s = .win ∨ (s = .battle ∧ i.timeUp = true) := by
  unfold Scene.step at h
  split at h
  · cases h
  · cases s <;> simp only [Scene.nextState] at h <;> grind

theorem Game.ticks_mono (g : ℕ → Game) {m n : ℕ} (hmn : m ≤ n) :
    countIn (Game.Ticks g) 2 m ≤ countIn (Game.Ticks g) 2 n := by
  rcases Nat.le_total 2 m with h | h
  · exact countIn_mono h hmn
  · rw [countIn, Nat.sub_eq_zero_of_le h]
    exact Nat.zero_le _

/-- The frame edges whose ticks are over. -/
theorem Game.ticks_le_rises (g : ℕ → Game) (n : ℕ) :
    countIn (Game.Ticks g) 2 n ≤ countIn (Rises (Game.vs g)) 0 n := by
  rcases Nat.le_total 2 n with h | h
  · have hdelay := countIn_delay (Rises (Game.vs g)) 0 (n - 2) 2
    rw [Nat.sub_add_cancel h] at hdelay
    exact hdelay.le.trans (countIn_mono (Nat.zero_le _) (Nat.sub_le n 2))
  · rw [countIn, Nat.sub_eq_zero_of_le h]
    exact Nat.zero_le _

section earliest
variable {rom : Rom} {i : ℕ → GameInputs} {g : ℕ → Game}
  (hg : ∀ n, g (n + 1) = (g n).step rom (i n)) (h0 : (g 0).scene = .title)
include hg h0

/-- Frisk has walked to the door. -/
theorem Game.ticks_door {n : ℕ} (hs : (g n).scene = .map1)
    (harrived : arrivedDoor 3#4 (g n).sprites.frisk = true) :
    272 ≤ countIn (Game.Ticks g) 2 n := by
  obtain ⟨m, hmn, hm, hon⟩ := exists_last_entry (P := fun n => (g n).scene = .map1)
    (by rw [h0]; exact Scene.noConfusion) hs
  have hm0 : 0 < m := Game.entry_pos hg h0 (.inl (hon (m + 1) (Nat.lt_succ_self m) hmn))
  have hwalk := Game.walk_eq hg hm0 hmn hm fun k hk hkn => hon k hk hkn.le
  have hturns : 272 ≤ (Game.keys i g (m + 1) n).length := Walk.turns_le (by
    rw [← Game.walk, ← hwalk]
    exact harrived)
  rw [Game.keys, length_sampled hmn] at hturns
  rw [← countIn_add (b := m + 1) (by omega) hmn]
  exact hturns.trans (Nat.le_add_left _ _)

/-- Frisk has walked to the monster since he has come to the second map. -/
theorem Game.ticks_monster {n : ℕ} (hs : (g n).scene = .map2)
    (harrived : arrivedMonster 4#4 (g n).sprites.frisk2 = true) :
    ∃ m, m < n ∧ (g (m + 1)).scene = .map2 ∧
      countIn (Game.Ticks g) 2 (m + 1) + 196 ≤ countIn (Game.Ticks g) 2 n := by
  obtain ⟨m, hmn, hm, hon⟩ := exists_last_entry (P := fun n => (g n).scene = .map2)
    (by rw [h0]; exact Scene.noConfusion) hs
  have hentry : (g (m + 1)).scene = .map2 := hon (m + 1) (Nat.lt_succ_self m) hmn
  have hm0 : 0 < m := Game.entry_pos hg h0 (.inr hentry)
  have hwalk := Game.walk2_eq hg hm0 hmn hm fun k hk hkn => hon k hk hkn.le
  have hturns : 196 ≤ (Game.keys i g (m + 1) n).length := Mover.walk2_turns_le (by
    rw [← Game.walk2, ← hwalk]
    exact harrived)
  rw [Game.keys, length_sampled hmn] at hturns
  refine ⟨m, hmn, hentry, ?_⟩
  rw [← countIn_add (b := m + 1) (by omega) hmn]
  exact Nat.add_le_add_left hturns _

/-- No scene comes before its ticks. -/
theorem Game.ticks_le (n : ℕ) : (g n).scene.ticks ≤ countIn (Game.Ticks g) 2 n := by
  induction n using Nat.strong_induction_on with
  | _ n ih =>
  cases n with
  | zero => rw [h0]; exact Nat.zero_le _
  | succ n =>
      have hstep := Game.scene_step hg n
      have hmono := Game.ticks_mono g (Nat.le_succ n)
      have hprev := (ih n (Nat.lt_succ_self n)).trans hmono
      cases hs : (g (n + 1)).scene with
      | title => exact Nat.zero_le _
      | intro => exact Nat.zero_le _
      | map1 => exact Nat.zero_le _
      | map2 =>
          rcases Scene.step_eq_map2 (hstep.symm.trans hs) with h | ⟨h, harrived⟩ | h
          · rwa [h] at hprev
          · rw [Game.stateInputs, h] at harrived
            exact (Game.ticks_door hg h0 h harrived).trans hmono
          · rw [h] at hprev
            exact Nat.le_trans (by decide) hprev
      | battle =>
          rcases Scene.step_eq_battle (hstep.symm.trans hs) with ⟨-, ⟨h, -⟩ | ⟨h, harrived⟩⟩
          · rwa [h] at hprev
          · rw [Game.stateInputs, h] at harrived
            obtain ⟨m, hmn, hentry, hticks⟩ := Game.ticks_monster hg h0 h harrived
            have hmap2 := ih (m + 1) (Nat.succ_lt_succ hmn)
            rw [hentry] at hmap2
            exact (Nat.add_le_add_right hmap2 196).trans (hticks.trans hmono)
      | win =>
          rcases Scene.step_eq_win (hstep.symm.trans hs) with h | ⟨h, -⟩ <;> rwa [h] at hprev
      | lose =>
          rcases Scene.step_eq_lose (hstep.symm.trans hs) with h | h <;> rwa [h] at hprev

/-- The timer of a battle counts the frame edges since its entry. -/
theorem Game.flower_eq {m n : ℕ} (hmn : m < n) (hm : (g m).scene ≠ .battle)
    (hon : ∀ k, m < k → k ≤ n → (g k).scene = .battle) :
    (g n).sprites.flower = Flower.timeline (countIn (Rises (Game.vs g)) (m + 1) n) := by
  obtain ⟨j, b, hb⟩ :=
    Game.exists_battle hg (Scene.ne_map2 h0) hm (hon (m + 1) (Nat.lt_succ_self m) hmn) hmn hon
  obtain ⟨k, rfl⟩ : ∃ k, n = m + 1 + k := ⟨n - (m + 1), by omega⟩
  have hflower := Battle.flower_eq hb.succ hb.entered.flower k
  rw [hb.battle k le_rfl, hb.count] at hflower
  exact hflower

/-- No scene comes before its frames. -/
theorem Game.frames_le (n : ℕ) : (g n).scene.frames ≤ countIn (Rises (Game.vs g)) 0 n := by
  have hticks := (Game.ticks_le hg h0 n).trans (Game.ticks_le_rises g n)
  cases hs : (g n).scene with
  | title => exact Nat.zero_le _
  | intro => exact Nat.zero_le _
  | map1 => exact Nat.zero_le _
  | map2 => rwa [hs] at hticks
  | battle => rwa [hs] at hticks
  | lose => rwa [hs] at hticks
  | win =>
      -- the battle that was won began with its ticks, and has run its time
      obtain ⟨a, han, ha, hwin⟩ := exists_last_entry (P := fun n => (g n).scene = .win)
        (fun h => Scene.noConfusion (h.symm.trans h0)) hs
      have hstep := (Game.scene_step hg a).symm.trans (hwin (a + 1) (Nat.lt_succ_self a) han)
      obtain ⟨hbattle, htime⟩ : (g a).scene = .battle ∧ (g a).sprites.flower.timeUp = true :=
        (Scene.step_eq_win hstep).resolve_left ha
      obtain ⟨m, hma, hm, hon⟩ := exists_last_entry (P := fun n => (g n).scene = .battle)
        (fun h => Scene.noConfusion (h.symm.trans h0)) hbattle
      rw [Game.flower_eq hg h0 hma hm hon] at htime
      have hlong : 3840 < countIn (Rises (Game.vs g)) (m + 1) a := of_decide_eq_true htime
      have hbefore : 468 ≤ countIn (Rises (Game.vs g)) 0 (m + 1) := by
        have hentry := (Game.ticks_le hg h0 (m + 1)).trans (Game.ticks_le_rises g (m + 1))
        rwa [hon (m + 1) (Nat.lt_succ_self m) hma] at hentry
      calc 4309 ≤ countIn (Rises (Game.vs g)) 0 (m + 1) + countIn (Rises (Game.vs g)) (m + 1) a :=
            Nat.add_le_add hbefore hlong
        _ = countIn (Rises (Game.vs g)) 0 a := countIn_add (Nat.zero_le (m + 1)) hma
        _ ≤ countIn (Rises (Game.vs g)) 0 n := countIn_mono (Nat.zero_le a) han.le

end earliest

/-- No run from the title gets to a scene in fewer frames than these, whatever the keys,
the ROM and the resets. -/
theorem Game.earliest (rom : Rom) (i : ℕ → GameInputs) (g : Game) (n : ℕ)
    (h0 : g.scene = .title) :
    (Game.run rom i g n).scene.frames ≤ countIn (Rises (Game.vs (Game.run rom i g))) 0 n :=
  Game.frames_le (fun _ => rfl) h0 n

/-- The player is no faster. -/
theorem Game.earliest_play :
    let i := Game.playInputs Game.player (fun _ => 0#4) Game.zero
    let g := Game.run (fun _ => 0#4) i Game.zero
    ∃ n, (g n).scene = .battle ∧ 468 ≤ countIn (Rises (Game.vs g)) 0 n := by
  intro i g
  obtain ⟨m, -, -, hm⟩ :=
    Game.play_battle (g := Game.play Game.player (fun _ => 0#4) Game.zero) (fun _ => rfl)
      (n := 0) rfl
  rw [← Game.run_play] at hm
  have hframes := Game.earliest (fun _ => 0#4) i Game.zero (m + 1) rfl
  rw [hm] at hframes
  exact ⟨m + 1, hm, hframes⟩

/-! ## A player in a hurry -/

/-- The next key of a walk without a rest: right to column `x`, then up to row `y`. -/
def Mover.hurry (x y : BitVec 10) (r : Mover) : BitVec 8 :=
  if r.xPos + r.xMotion < x then 7#8 else if y < r.yPos + r.yMotion then 26#8 else 0#8

/-- The keycode of a player who hurries on the maps. -/
def Game.speedrunner (g : Game) : BitVec 8 :=
  match g.scene with
  | .map1 =>
    if g.sprites.walk.arrived then 0x28#8 else g.sprites.walk.frisk.hurry 520#10 139#10
  | .map2 => g.sprites.frisk2.unclocked.hurry 301#10 205#10
  | _ => g.player

/-- A turn of the hurry on the first map, and one on the second. -/
def Walk.hurried (w : Walk) : Walk := w.step (w.frisk.hurry 520#10 139#10)

def Mover.hurried2 (r : Mover) : Mover := r.walk2 (r.hurry 301#10 205#10)

theorem Walk.hurried_travelled (k : ℕ) :
    (Walk.hurried^[k] .start).frisk.Travelled friskMove k := by
  induction k with
  | zero => exact Mover.travelled_init friskMove _
  | succ k ih =>
      rw [Function.iterate_succ_apply']
      exact ih.tick friskMove_homely _

theorem Mover.hurried2_travelled (e : EdgeDetector) (k : ℕ) :
    (Mover.hurried2^[k] (Mover.init friskMove2 e)).Travelled friskMove2 k := by
  induction k with
  | zero => exact Mover.travelled_init friskMove2 e
  | succ k ih =>
      rw [Function.iterate_succ_apply']
      exact ih.tick friskMove2_homely _

theorem Walk.hurried_arrived : (Walk.hurried^[272] .start).arrived = true := by
  decide +kernel

theorem Mover.hurried2_arrived :
    arrivedMonster 4#4 (Mover.hurried2^[196] (Mover.init friskMove2 ⟨false, false⟩)) = true := by
  decide +kernel

section hurry
variable {rom : Rom} {i : ℕ → GameInputs} {g : ℕ → Game}
  (hg : ∀ n, g (n + 1) = (g n).step rom (i n)) (hi : ∀ n, i n = .key (g n).speedrunner)
include hg hi

section maps
variable {m e : ℕ} (hm0 : 0 < m)
include hm0

/-- The first map takes 272 ticks. -/
theorem Game.hurry_map1 (hm : (g m).scene ≠ .map1) (hm' : (g (m + 1)).scene = .map1)
    (he : IsNth (Game.Ticks g) (m + 1) 272 e) :
    (g (e + 1)).scene = .map1 ∧ (g (e + 2)).scene = .map2 := by
  have hreset : ∀ n, (i n).reset = false := fun n => congrArg GameInputs.reset (hi n)
  have hnext : ∀ n, m + 1 ≤ n → (g n).scene = .map1 → ¬ (g n).sprites.walk.arrived = true →
      (g (n + 1)).scene = .map1 ∧ (g (n + 1)).sprites.walk =
        if Game.Ticks g n then (g n).sprites.walk.hurried else (g n).sprites.walk := by
    intro n hmn hs harrived
    have hkey : (i n).keycode = (g n).sprites.walk.frisk.hurry 520#10 139#10 := by
      simp [hi n, GameInputs.key, Game.speedrunner, hs, harrived]
    constructor
    · rw [Game.scene_map1 hg hs (hreset n),
        if_neg fun h => harrived h.2]
    · rw [Game.walk_next hg (by omega) hs, Walk.hurried,
        ← hkey]
  obtain ⟨hon, hwalk⟩ := iterates_to (D := fun w => Walk.arrived w = true) hm'
    (Game.walk_outside hg hm) hnext
    (fun k hk harrived => Nat.not_le.mpr hk ((Walk.hurried_travelled k).door harrived)) he
  have harrived : (g (e + 1)).sprites.walk.arrived = true := by
    rw [hwalk]
    exact Walk.hurried_arrived
  have hkey : (i (e + 1)).keycode = 0x28#8 := by
    simp [hi (e + 1), GameInputs.key, Game.speedrunner, hon, harrived]
  refine ⟨hon, ?_⟩
  rw [Game.scene_map1 hg hon (hreset _)]
  exact if_pos ⟨hkey, harrived⟩

/-- The second one takes 196. -/
theorem Game.hurry_map2 (hm : (g m).scene ≠ .map2) (hm' : (g (m + 1)).scene = .map2)
    (he : IsNth (Game.Ticks g) (m + 1) 196 e) :
    (g (e + 1)).scene = .map2 ∧ (g (e + 2)).scene = .battle := by
  have hreset : ∀ n, (i n).reset = false := fun n => congrArg GameInputs.reset (hi n)
  have hnext : ∀ n, m + 1 ≤ n → (g n).scene = .map2 →
      ¬ arrivedMonster 4#4 (g n).sprites.frisk2.unclocked = true →
        (g (n + 1)).scene = .map2 ∧ (g (n + 1)).sprites.frisk2.unclocked =
          if Game.Ticks g n then (g n).sprites.frisk2.unclocked.hurried2
          else (g n).sprites.frisk2.unclocked := by
    intro n hmn hs harrived
    have hkey : (i n).keycode = (g n).sprites.frisk2.unclocked.hurry 301#10 205#10 := by
      simp [hi n, GameInputs.key, Game.speedrunner, hs]
    constructor
    · rw [Game.scene_map2 hg hs (hreset n), if_neg harrived]
    · rw [Game.walk2_next hg (by omega) hs, Mover.hurried2,
        ← hkey]
  obtain ⟨hon, hwalk⟩ := iterates_to (D := fun r => arrivedMonster 4#4 r = true) hm'
    (Game.walk2_outside hg hm) hnext
    (fun k hk harrived => Nat.not_le.mpr hk ((Mover.hurried2_travelled _ k).monster harrived)) he
  refine ⟨hon, ?_⟩
  rw [Game.scene_map2 hg hon (hreset _), hwalk]
  exact if_pos Mover.hurried2_arrived

end maps

/-- The player in a hurry wins in the least number of frames. -/
theorem Game.speedrun (h0 : (g 0).scene = .title) :
    ∃ n, (g n).scene = .win ∧ countIn (Rises (Game.vs g)) 0 n = 4309 := by
  have hreset : ∀ n, (i n).reset = false := fun n => congrArg GameInputs.reset (hi n)
  have hintro : (g 1).scene = .intro := by
    rw [Game.scene_step hg 0, h0]
    simp [Scene.step, Scene.nextState, Game.stateInputs, hi 0, GameInputs.key, Game.speedrunner,
      Game.player, h0]
  have hmap1 : (g (1 + 1)).scene = .map1 := by
    rw [Game.scene_step hg 1, hintro]
    simp [Scene.step, Scene.nextState, Game.stateInputs, hi 1, GameInputs.key, Game.speedrunner,
      Game.player, hintro]
  have hticks : ∀ n, ∃ m, n ≤ m ∧ Game.Ticks g m := fun n => by
    obtain ⟨m, hnm, hm⟩ := Game.exists_rises hg n
    exact ⟨m + 2, by omega, hm⟩
  -- the walks
  obtain ⟨a, ha⟩ := exists_isNth_of_forever (a := 1 + 1) (n := 272) hticks (by decide)
  obtain ⟨hdoor, hmap2⟩ := Game.hurry_map1 hg hi (m := 1) Nat.one_pos
    (by rw [hintro]; exact Scene.noConfusion) hmap1 ha
  obtain ⟨b, hb⟩ := exists_isNth_of_forever (a := a + 1 + 1) (n := 196) hticks (by decide)
  obtain ⟨hmonster, hbattle⟩ := Game.hurry_map2 hg hi (m := a + 1) (Nat.succ_pos a)
    (by rw [hdoor]; exact Scene.noConfusion) hmap2 hb
  -- the battle
  obtain ⟨c, hc, hwin⟩ := Game.play_wins (m := b + 1) hg hreset
    (fun n h => by simp [hi n, GameInputs.key, Game.speedrunner, h]) (Scene.ne_map2 h0)
    (by rw [hmonster]; exact Scene.noConfusion) hbattle
  refine ⟨c + 2, hwin, ?_⟩
  -- the frame edges
  obtain ⟨ha2, haTick, haCount⟩ := ha
  obtain ⟨hab, hbTick, hbCount⟩ := hb
  obtain ⟨hbc, hcRise, hcCount⟩ := hc
  have ha1 : ¬ Game.Ticks g (a + 1) :=
    Game.not_rises_near hg haTick (by omega) (by omega) (by omega)
  have hc1 : ¬ Rises (Game.vs g) (c + 1) :=
    Game.not_rises_near hg hcRise (by omega) (by omega) (by omega)
  have hwalks : countIn (Game.Ticks g) (1 + 1) (b + 1) = 468 := by
    rw [← countIn_add (b := a + 1 + 1) (by omega) (by omega), hbCount,
      countIn_succ (by omega), haCount, if_neg ha1]
  have hdelay := countIn_delay (Rises (Game.vs g)) 0 (b - 1) 2
  rw [show b - 1 + 2 = b + 1 by omega] at hdelay
  have hbefore : countIn (Rises (Game.vs g)) 0 (b + 1 + 1) = 468 := by
    rw [countIn_eq_of_quiet (b := b - 1) (Nat.zero_le _) (by omega) fun n hn hn' =>
      Game.not_rises_near hg hbTick (by omega) (by omega) (by omega), ← hdelay]
    exact hwalks
  rw [← countIn_add (b := b + 1 + 1) (Nat.zero_le _) (by omega), hbefore,
    countIn_succ (by omega), hcCount, if_neg hc1]

end hurry

/-- From the title, the game can be won in 4309 frames and in no fewer. -/
theorem Game.fastest (rom : Rom) (g : Game) (h0 : g.scene = .title) :
    IsLeast {f | ∃ i n, (Game.run rom i g n).scene = .win ∧
      countIn (Rises (Game.vs (Game.run rom i g))) 0 n = f} 4309 := by
  constructor
  · have hrun := Game.run_play Game.speedrunner rom g
    refine ⟨Game.playInputs Game.speedrunner rom g, Game.speedrun (fun _ => rfl) (fun n => ?_) h0⟩
    rw [hrun n]
    rfl
  · rintro f ⟨i, n, hwin, rfl⟩
    have hframes := Game.frames_le (g := Game.run rom i g) (fun _ => rfl) h0 n
    rw [hwin] at hframes
    exact hframes

/-- From power-up. -/
theorem Game.fastest_zero :
    IsLeast {f | ∃ i n, (Game.run (fun _ => 0#4) i Game.zero n).scene = .win ∧
      countIn (Rises (Game.vs (Game.run (fun _ => 0#4) i Game.zero))) 0 n = f} 4309 :=
  Game.fastest (fun _ => 0#4) Game.zero rfl

end Undertale
