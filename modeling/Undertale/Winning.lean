import Undertale.Fight
import Undertale.SafeSpots

/-!
# The game can be won

The player of `Player` wins, whatever the ROM holds and wherever the registers start.  In
battle the heart goes to the point `(306, 327)`, a safe spot, and is there long before the
bullets start.  A heart in the field is not hit by bullets that wait, and one in a safe
spot is not hit at all, so the turns run out.

A battle that the player finds himself in may have been entered with any registers.  It
ends all the same, because the timer comes by its last value from wherever it is
(`Game.play_ends`).
-/

namespace Undertale

open Clocked

/-! ## Bullets that miss -/

/-- A lane is hidden or on its track after every frame without a hit. -/
theorem BattleFrame.At.step {f : BattleFrame} {i : FrameInputs} {k : Fin 15}
    (hnone : hitLane i.heart f.position = none) (h : ∃ o, f.At k o) : ∃ o, (f.step i).At k o := by
  obtain ⟨o, ho⟩ := h
  cases o with
  | none => exact ⟨_, ho.step_hidden hnone⟩
  | some t =>
      rcases Nat.lt_or_ge t (laneLength k) with hlt | hge
      · exact ⟨_, ho.step_shown hnone hlt⟩
      · -- the bullet has come to the end of its lane
        obtain ⟨hk, hpos⟩ := ho
        have hlimit : pastLimit k (f.position k) = true := by
          rw [hpos.pastLimit_eq]
          exact decide_eq_true hge
        exact ⟨none, by simp [BattleFrame.step, hnone, hk, hlimit],
          by simp [BattleFrame.step, hnone, hk, hlimit]⟩

/-- Bullets on their tracks miss a heart in a safe spot. -/
theorem BattleFrame.hitLane_safe {f : BattleFrame} {heart : BitVec 10 × BitVec 10}
    (h : ∀ k, ∃ o, f.At k o) (hsafe : SafeSpot heart.1.toNat heart.2.toNat) :
    hitLane heart f.position = none := by
  refine hitLane_eq_none.mpr fun k hnear => ?_
  obtain ⟨o, ho⟩ := h k
  exact hsafe.not_near k _ (ho.onTrack.near_iff.mp hnear)

/-- Bullets that wait miss a heart in the field. -/
theorem hitLane_waiting {heart : BitVec 10 × BitVec 10} (h : InField heart) :
    hitLane heart laneInit = none :=
  hitLane_eq_none.mpr fun _ => laneInit_not_near h

/-! ## The way of the heart -/

/-- The heart after `n` turns. -/
def heartWay (n : ℕ) : Mover :=
  (fun r : Mover => r.tick heartMove (r.towards 306#10 327#10))^[n]
    (Mover.init heartMove ⟨false, false⟩)

theorem heartWay_succ (n : ℕ) :
    heartWay (n + 1) = (heartWay n).tick heartMove ((heartWay n).towards 306#10 327#10) :=
  Function.iterate_succ_apply' _ _ _

instance (x y : BitVec 10) (r : Mover) : Decidable (r.Stands x y) :=
  decidable_of_iff (r.xPos = x ∧ r.yPos = y ∧ r.xMotion = 0#10 ∧ r.yMotion = 0#10)
    ⟨fun h => ⟨h.1, h.2.1, h.2.2.1, h.2.2.2⟩, fun h => ⟨h.xPos, h.yPos, h.xMotion, h.yMotion⟩⟩

instance (p : BitVec 10 × BitVec 10) : Decidable (InField p) :=
  decidable_of_iff (251 ≤ p.1.toNat ∧ p.1.toNat ≤ 390 ∧ 252 ≤ p.2.toNat ∧ p.2.toNat ≤ 366)
    ⟨fun h => ⟨h.1, h.2.1, h.2.2.1, h.2.2.2⟩, fun h => ⟨h.left, h.right, h.top, h.bottom⟩⟩

/-- After 46 turns it is there. -/
theorem heartWay_stands {n : ℕ} (hn : 46 ≤ n) : (heartWay n).Stands 306#10 327#10 := by
  induction n, hn using Nat.le_induction with
  | base => decide +kernel
  | succ n _ ih =>
      rw [heartWay_succ, ih.tick]
      exact ih

/-- It is in the field all the way. -/
theorem heartWay_inField (n : ℕ) : InField ((heartWay n).xPos, (heartWay n).yPos) := by
  rcases Nat.lt_or_ge n 46 with hlt | hge
  · have hway : ∀ n : Fin 46, InField ((heartWay n).xPos, (heartWay n).yPos) := by decide +kernel
    exact hway ⟨n, hlt⟩
  · rw [(heartWay_stands hge).xPos, (heartWay_stands hge).yPos]
    decide

theorem safeSpot_heartWay {n : ℕ} (hn : 46 ≤ n) :
    SafeSpot (heartWay n).xPos.toNat (heartWay n).yPos.toNat := by
  rw [(heartWay_stands hn).xPos, (heartWay_stands hn).yPos]
  exact ⟨by decide, by decide, by decide, by decide⟩

/-! ## Turns without a hit -/

/-- A battle in which nothing has been hit and the heart is on its way. -/
structure Fight.Unhurt (f : Fight) : Prop where
  heart : f.heart = heartWay f.turns
  hp : f.frame.hp = 5#4
  lanes (k : Fin 15) : ∃ o, f.frame.At k o
  waiting : f.turns ≤ 240 → f.frame.position = laneInit ∧ f.frame.visible = fun _ => false

theorem Fight.unhurt_start (counter : BitVec 10) : (Fight.start counter).Unhurt where
  heart := rfl
  hp := rfl
  lanes k := ⟨none, BattleFrame.at_start 5#4 k⟩
  waiting _ := ⟨rfl, rfl⟩

section turn
variable {f : Fight} (h : f.Unhurt)
include h

/-- Nothing hits the heart in the next turn. -/
theorem Fight.Unhurt.hitLane : hitLane (f.heart.xPos, f.heart.yPos) f.frame.position = none := by
  rw [h.heart]
  rcases Nat.le_total f.turns 240 with hle | hge
  · rw [(h.waiting hle).1]
    exact hitLane_waiting (heartWay_inField f.turns)
  · exact BattleFrame.hitLane_safe h.lanes (safeSpot_heartWay (by omega))

theorem Fight.Unhurt.step_hp (rom : Rom) (i : FightInputs) : (f.step rom i).frame.hp = 5#4 :=
  (BattleFrame.step_hp_quiet (i := ⟨f.bulletNum rom, i.difficulty, (f.heart.xPos, f.heart.yPos)⟩)
    h.hitLane).trans h.hp

/-- If the player gives the key of the way, the battle stays so. -/
theorem Fight.Unhurt.step (rom : Rom) {i : FightInputs}
    (hkey : i.keycode = f.heart.towards 306#10 327#10) : (f.step rom i).Unhurt where
  heart := by
    show f.heart.tick heartMove i.keycode = heartWay (f.turns + 1)
    rw [hkey, h.heart, heartWay_succ]
  hp := h.step_hp rom i
  lanes k := BattleFrame.At.step h.hitLane (h.lanes k)
  waiting hle := by
    have hlt : f.turns < 240 := hle
    obtain ⟨hpos, hvisible⟩ := h.waiting hlt.le
    have hframe : f.frame = ⟨f.frame.hp, fun _ => false, laneInit⟩ :=
      BattleFrame.ext rfl hvisible hpos
    have hnext : (f.step rom i).frame =
        f.frame.step ⟨15#4, i.difficulty, (f.heart.xPos, f.heart.yPos)⟩ := by
      rw [Fight.step, Fight.bulletNum, if_pos hlt]
    rw [hnext, hframe, BattleFrame.step_waiting]
    exact ⟨rfl, rfl⟩

/-- The battle is open until the turns have run out. -/
theorem Fight.Unhurt.outcome :
    f.outcome = if 3840 < f.turns then .win else .battle := by
  rw [Fight.outcome, h.hp]
  rfl

end turn

/-! ## The battle is won -/

section play
variable {rom : Rom} {i : ℕ → GameInputs} {g : ℕ → Game}
  (hg : ∀ n, g (n + 1) = (g n).step rom (i n)) (hreset : ∀ n, (i n).reset = false)
  (hkey : ∀ n, (g n).scene = .battle → (i n).keycode = (g n).player)
  (h0 : (g 0).scene ≠ .map2) {m : ℕ} (hm : (g m).scene ≠ .battle)
  (hm' : (g (m + 1)).scene = .battle)
include hg hreset hkey h0 hm hm'

/-- As long as turns are left, the player's heart is on its way and unhurt. -/
theorem Game.play_unhurt {e : ℕ} (hme : m < e)
    (hcount : countIn (Rises (Game.vs g)) (m + 1) e ≤ 3840) :
    (Game.fight rom i g m e).Unhurt := by
  induction e using Nat.strong_induction_on with
  | _ e ih =>
  rcases Nat.eq_or_lt_of_le (Nat.succ_le_of_lt hme) with rfl | hlt
  · rw [Game.fight_entry]
    exact Fight.unhurt_start _
  · obtain ⟨e, rfl⟩ : ∃ e', e = e' + 1 := ⟨e - 1, by omega⟩
    have hme : m < e := by omega
    have hmono := countIn_mono (p := Rises (Game.vs g)) (show m + 1 ≤ e from hme)
      (show e ≤ e + 1 by omega)
    have hunhurt := ih e (Nat.lt_succ_self e) hme (hmono.trans hcount)
    rcases Classical.em (Rises (Game.vs g) e) with he | he
    · have hopen : ∀ k, m < k → k ≤ e → (Game.fight rom i g m k).outcome = .battle := by
        intro k hk hke
        have hmono := countIn_mono (p := Rises (Game.vs g)) (show m + 1 ≤ k from hk)
          (show k ≤ e + 1 by omega)
        have hk' := ih k (Nat.lt_succ_of_le hke) hk (hmono.trans hcount)
        rw [hk'.outcome, Game.fight_turns hk, if_neg (by omega)]
      obtain ⟨hon, hreached⟩ := Game.fight_reached hg h0 hm hm' hme he (fun k _ _ => hreset k) hopen
      have hsucc : Game.fight rom i g m (e + 1) = (Game.fight rom i g m e).step rom
          (Game.fightInputs i g e) := Game.fight_succ hme he
      have hopen' : (Game.fight rom i g m (e + 1)).outcome = .battle := by
        have hturns : (Game.fight rom i g m (e + 1)).turns ≤ 3840 := by
          rw [Game.fight_turns (Nat.lt_succ_of_lt hme)]
          exact hcount
        rw [Fight.outcome, if_neg (Nat.not_lt.mpr hturns), hsucc, hunhurt.step_hp]
        rfl
      have hscene := Game.fight_decides hg h0 hm hm' hme he (hreset _) hon hreached
      rw [hopen'] at hscene
      -- two clocks after the edge the player sees the heart where it was at the edge
      have hlate : 2 ≤ e := by
        obtain ⟨l, rfl, -⟩ := Game.rises_before_battle hg h0 hm hm'
        omega
      have hheld := Game.heart_held hg hlate (Nat.le_add_right e 2)
        (fun n hn hn' => hon n (by omega) (by omega)) fun n hn hn' =>
          Game.not_rises_near hg he (by omega) (by omega) (by omega)
      rw [hreached.shown.heart] at hheld
      rw [hsucc]
      refine hunhurt.step rom ?_
      show (i (e + 2)).keycode = _
      rw [hkey (e + 2) hscene]
      simp only [Game.player, hscene]
      rw [hheld]
      rfl
    · rw [Game.fight_quiet hme (Nat.le_succ e) fun n hn hn' => by
        obtain rfl : n = e := by omega
        exact he]
      exact hunhurt

/-- A battle that the player enters is won as soon as its time is up. -/
theorem Game.play_wins :
    ∃ e, IsNth (Rises (Game.vs g)) (m + 1) 3841 e ∧ (g (e + 2)).scene = .win := by
  obtain ⟨e, he⟩ : ∃ e, IsNth (Rises (Game.vs g)) (m + 1) 3841 e :=
    exists_isNth_of_forever (Game.exists_rises hg) (by decide)
  have hme : m < e := he.1
  have hcount := he.countIn_eq
  have hunhurt : ∀ k, m < k → k ≤ e → (Game.fight rom i g m k).Unhurt := fun k hk hke =>
    Game.play_unhurt hg hreset hkey h0 hm hm' hk
      ((countIn_mono (p := Rises (Game.vs g)) (show m + 1 ≤ k from hk) hke).trans (by omega))
  have hopen : ∀ k, m < k → k ≤ e → (Game.fight rom i g m k).outcome = .battle := by
    intro k hk hke
    have hmono := countIn_mono (p := Rises (Game.vs g)) (show m + 1 ≤ k from hk) hke
    rw [(hunhurt k hk hke).outcome, Game.fight_turns hk, if_neg (by omega)]
  obtain ⟨hon, hreached⟩ := Game.fight_reached hg h0 hm hm' hme he.2.1 (fun k _ _ => hreset k) hopen
  have hscene := Game.fight_decides hg h0 hm hm' hme he.2.1 (hreset _) hon hreached
  have hhp : (Game.fight rom i g m (e + 1)).frame.hp = 5#4 := by
    rw [Game.fight_succ hme he.2.1]
    exact (hunhurt e hme le_rfl).step_hp rom _
  have hturns : 3840 < (Game.fight rom i g m (e + 1)).turns := by
    rw [Game.fight_turns (show m < e + 1 by omega), he.2.2]
    decide
  rw [Fight.outcome, hhp, if_pos hturns] at hscene
  exact ⟨e, he, hscene⟩

end play

/-! ## Every battle ends -/

/-- A frame edge that does not end the battle counts on. -/
theorem Flower.step_open {r : Flower} (h : (r.step 5#4).timeUp = false) :
    r.counter ≠ 3840#12 ∧ (r.step 5#4).counter = r.counter + 1#12 := by
  have hne : r.counter ≠ 3840#12 := by
    intro he
    rw [Flower.step_last (congrArg BitVec.toNat he)] at h
    cases h
  refine ⟨hne, ?_⟩
  unfold Flower.step
  rw [if_pos rfl]
  split
  · rfl
  · split
    · rfl
    · split
      · rfl
      · rfl

section play
variable {rom : Rom} {g : ℕ → Game} (hg : ∀ n, g (n + 1) = (g n).step rom (.key (g n).player))
include hg

/-- Whatever the registers hold, a battle does not last for ever. -/
theorem Game.play_ends {n : ℕ} (h : (g n).scene = .battle) :
    ∃ m, n ≤ m ∧ ((g m).scene = .win ∨ (g m).scene = .lose) := by
  by_contra hno
  have hnext : ∀ m, (g m).scene = .battle →
      (g (m + 1)).scene =
        if (g m).sprites.bullets.hp = 0#4 then .lose
        else if (g m).sprites.flower.timeUp = true then .win else .battle := by
    intro m hm
    rw [Game.play_scene hg m, hm]
    rfl
  have hon : ∀ m, n ≤ m → (g m).scene = .battle := by
    intro m hnm
    induction m, hnm using Nat.le_induction with
    | base => exact h
    | succ m hnm ih =>
        have hstep := hnext m ih
        split at hstep
        · exact absurd ⟨m + 1, by omega, .inr hstep⟩ hno
        · split at hstep
          · exact absurd ⟨m + 1, by omega, .inl hstep⟩ hno
          · exact hstep
  have htime : ∀ m, n ≤ m → (g m).sprites.flower.timeUp = false := by
    intro m hnm
    have hstep := hnext m (hon m hnm)
    rw [hon (m + 1) (by omega)] at hstep
    split at hstep
    · cases hstep
    · split at hstep
      · cases hstep
      · next hopen => exact Bool.not_eq_true _ ▸ hopen
  have hrise : ∀ k, Rises (Game.vs g) (n + k) →
      (g (n + k)).sprites.flower.counter ≠ 3840#12 ∧
        (g (n + (k + 1))).sprites.flower.counter = (g (n + k)).sprites.flower.counter + 1#12 := by
    intro k hk
    have hstatus : (g (n + k + 1)).scene.status = 5#4 :=
      Scene.status_eq_five.mpr (hon _ (by omega))
    have hflower : (g (n + (k + 1))).sprites.flower = (g (n + k)).sprites.flower.step 5#4 := by
      rw [← hstatus]
      exact (Game.rises hg hk).1
    have hlow := htime (n + (k + 1)) (by omega)
    rw [hflower] at hlow ⊢
    exact Flower.step_open hlow
  have hforever : ∀ k, ∃ l, k ≤ l ∧ Rises (Game.vs g) (n + l) := by
    intro k
    obtain ⟨l, hl, hlrise⟩ :=
      Game.exists_rises (i := fun n => .key (g n).player) hg (n + k)
    refine ⟨l - n, by omega, ?_⟩
    rw [show n + (l - n) = l by omega]
    exact hlrise
  have hhold : ∀ k, ¬ Rises (Game.vs g) (n + k) →
      (g (n + (k + 1))).sprites.flower.counter = (g (n + k)).sprites.flower.counter :=
    fun k hk => congrArg Flower.counter (Game.holds hg hk).1
  -- the timer comes by 3840, and the next frame edge ends the battle
  obtain ⟨k, -, hk⟩ : ∃ k, 0 ≤ k ∧ (g (n + k)).sprites.flower.counter = 3840#12 :=
    exists_eq_top (v := fun k => (g (n + k)).sprites.flower.counter)
      (e := fun k => Rises (Game.vs g) (n + k)) hhold
      (fun k hk => by rw [wrapNext, if_neg (hrise k hk).1]; exact (hrise k hk).2) hforever 0
  obtain ⟨l, hkl, hl⟩ := hforever k
  obtain ⟨j, -, hj, hsame⟩ := exists_enabled
    (v := fun k => (g (n + k)).sprites.flower.counter) (e := fun k => Rises (Game.vs g) (n + k))
    hhold hkl hl
  exact (hrise j hj).1 (hsame.trans hk)

/-! ## The whole game -/

/-- From every scene but the battle and the map before it, the player wins. -/
theorem Game.play_fresh {n : ℕ} (h : (g n).scene = .title ∨ (g n).scene = .intro ∨
    (g n).scene = .map1 ∨ (g n).scene = .lose) : ∃ m, n ≤ m ∧ (g m).scene = .win := by
  have hmap2 : ∃ a, n ≤ a ∧ (g a).scene = .map2 := by
    have hmap1 : ∀ k, (g k).scene = .map1 → ∃ a, k ≤ a ∧ (g a).scene = .map2 := fun k hk => by
      obtain ⟨a, hka, -, ha⟩ := Game.play_map1 hg hk
      exact ⟨a + 1, by omega, ha⟩
    rcases h with h | h | h | h
    · obtain ⟨a, ha, hmap2⟩ := hmap1 _ (Game.play_intro hg (Game.play_title hg h))
      exact ⟨a, by omega, hmap2⟩
    · obtain ⟨a, ha, hmap2⟩ := hmap1 _ (Game.play_intro hg h)
      exact ⟨a, by omega, hmap2⟩
    · exact hmap1 n h
    · exact ⟨n + 1, Nat.le_succ n, Game.play_lose hg h⟩
  obtain ⟨a, hna, ha⟩ := hmap2
  obtain ⟨b, hab, hb, hb'⟩ := Game.play_map2 hg ha
  obtain ⟨k, rfl⟩ : ∃ k, b = n + k := ⟨b - n, by omega⟩
  obtain ⟨e, -, he⟩ := Game.play_wins (g := fun k => g (n + k)) (m := k) (fun k => hg (n + k))
    (fun _ => rfl) (fun _ _ => rfl) (by
      show (g n).scene ≠ .map2
      rcases h with h | h | h | h <;> rw [h] <;> exact Scene.noConfusion)
    (by rw [hb]; exact Scene.noConfusion) hb'
  exact ⟨n + (e + 2), Nat.le_add_right n _, he⟩

/-- From every battle as well, at the second try if not at the first. -/
theorem Game.play_on {n : ℕ} (h : (g n).scene = .battle) : ∃ m, n ≤ m ∧ (g m).scene = .win := by
  obtain ⟨a, hna, ha | ha⟩ := Game.play_ends hg h
  · exact ⟨a, hna, ha⟩
  · obtain ⟨m, ham, hm⟩ := Game.play_fresh hg (.inr (.inr (.inr ha)))
    exact ⟨m, hna.trans ham, hm⟩

end play

/-- There is a player who wins from every state of the registers, whatever the ROM holds,
by keys that depend on the state only, and without a reset. -/
theorem Game.winnable :
    ∃ player : Game → BitVec 8, ∀ (rom : Rom) (g : Game),
      ∃ n, (Clocked.run (fun _ g => g.step rom ⟨false, player g⟩) g n).scene = .win := by
  refine ⟨Game.player, fun rom g => ?_⟩
  have hg : ∀ n, Game.play Game.player rom g (n + 1) =
      (Game.play Game.player rom g n).step rom
        (.key (Game.play Game.player rom g n).player) := fun _ => rfl
  show ∃ n, (Game.play Game.player rom g n).scene = .win
  have hfresh : (g.scene = .title ∨ g.scene = .intro ∨ g.scene = .map1 ∨ g.scene = .lose) →
      ∃ n, (Game.play Game.player rom g n).scene = .win := fun h => by
    obtain ⟨n, -, hn⟩ := Game.play_fresh hg (n := 0) h
    exact ⟨n, hn⟩
  cases hs : g.scene with
  | title => exact hfresh (.inl hs)
  | intro => exact hfresh (.inr (.inl hs))
  | map1 => exact hfresh (.inr (.inr (.inl hs)))
  | map2 =>
      obtain ⟨m, -, -, hm⟩ := Game.play_map2 hg (n := 0) hs
      obtain ⟨n, -, hn⟩ := Game.play_on hg hm
      exact ⟨n, hn⟩
  | battle =>
      obtain ⟨n, -, hn⟩ := Game.play_on hg (n := 0) hs
      exact ⟨n, hn⟩
  | win => exact ⟨0, hs⟩
  | lose => exact hfresh (.inr (.inr (.inr hs)))

end Undertale
