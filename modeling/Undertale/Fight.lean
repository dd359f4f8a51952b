import Undertale.BattleFrames
import Undertale.BattleOutcome
import Undertale.Player

/-!
# The battle as a game of frames

To the player a battle is a turn-based game.  In each turn the heart moves by one tick of
its keys, the bullets move by one frame, the timer counts, and a hit costs one HP.  `Fight`
is that game: five values and one rule, which sees one keycode and one difficulty in a
turn.

The registers that play it are spread over four modules, with three edge detectors and two
clocks between them.  `Game.fight_shown` says that they play it: at every frame edge of a
battle they show the turns made so far, and two clocks later the scene machine has drawn
the conclusion.
-/

namespace Undertale

open Clocked

/-! ## Turns -/

/-- A battle between two turns.  `counter` is the free-running frame counter, and `address`
is where the ROM is read. -/
structure Fight where
  turns : ℕ
  heart : Mover
  counter : BitVec 10
  address : BitVec 10
  frame : BattleFrame

/-- What a turn sees: the keycode at the tick, and the difficulty. -/
structure FightInputs where
  keycode : BitVec 8
  difficulty : BitVec 2

/-- A battle before its first turn. -/
def Fight.start (counter : BitVec 10) : Fight where
  turns := 0
  heart := Mover.init heartMove ⟨false, false⟩
  counter := counter
  address := 0#10
  frame := ⟨5#4, fun _ => false, laneInit⟩

/-- The ROM address moves on in two turns out of sixty-one. -/
def Fight.nextAddress (f : Fight) : BitVec 10 :=
  if f.turns % 61 = 30 ∨ f.turns % 61 = 60 then f.counter else f.address

/-- The lane that the ROM shows.  Before the bullets start it is none, which is what the
number 15 says. -/
def Fight.bulletNum (rom : Rom) (f : Fight) : BitVec 4 :=
  if f.turns < 240 then 15#4 else rom f.nextAddress

/-- One turn. -/
def Fight.step (rom : Rom) (f : Fight) (i : FightInputs) : Fight where
  turns := f.turns + 1
  heart := f.heart.tick heartMove i.keycode
  counter := nextCounter2 f.counter
  address := f.nextAddress
  frame := f.frame.step ⟨f.bulletNum rom, i.difficulty, (f.heart.xPos, f.heart.yPos)⟩

/-- How the battle stands: lost, won, or still on. -/
def Fight.outcome (f : Fight) : Scene :=
  if f.frame.hp = 0#4 then .lose else if 3840 < f.turns then .win else .battle

/-- The registers of the sprites show a battle. -/
structure Fight.Shown (f : Fight) (r : Sprites) : Prop where
  heart : r.heart.mover = { f.heart with frameClk := r.heart.mover.frameClk }
  posH : (r.heart.posXH, r.heart.posYH) = (f.heart.xPos, f.heart.yPos)
  flower : r.flower = Flower.timeline f.turns
  address : r.bullets.bAddress = f.address
  frame : r.bullets.frame = f.frame

/-! ## A mover between two ticks -/

/-- Without a tick a mover stands still. -/
theorem Mover.held {p : MoverParams} {i : ℕ → MoverInputs} {r : ℕ → Mover}
    (hr : ∀ n, r (n + 1) = (r n).step p (i n)) {a b : ℕ} (hab : a ≤ b)
    (hs : ∀ n, a ≤ n → n < b → (i n).status = p.status)
    (ht : ∀ n, a ≤ n → n < b → (r n).frameClk.risingEdge = false) :
    r b = { r a with frameClk := (r b).frameClk } := by
  refine preserved (P := fun n => r n = { r a with frameClk := (r n).frameClk }) hab rfl
    fun n han hnb ih => ?_
  rw [hr n, Mover.step_idle (hs n han hnb) (ht n han hnb), ih]

/-- From one rise of the frame clock to the next a mover makes one tick. -/
theorem Mover.tick_between {p : MoverParams} {i : ℕ → MoverInputs} {r : ℕ → Mover}
    (hr : ∀ n, r (n + 1) = (r n).step p (i n)) {a b : ℕ} (hab : a + 6 ≤ b)
    (ha : Rises (fun n => (i n).frameClk) a)
    (hno : ∀ n, a < n → n < b → ¬ Rises (fun n => (i n).frameClk) n)
    (hs : ∀ n, a ≤ n → n < b → (i n).status = p.status)
    (ht : (r a).frameClk.risingEdge = false) :
    r b = { (r a).tick p (i (a + 2)).keycode with frameClk := (r b).frameClk } ∧
      r (b - 1) = { r b with frameClk := (r (b - 1)).frameClk } := by
  have htick : ∀ n, a ≤ n → n < b → ((r n).frameClk.risingEdge = true ↔ n = a + 2) := by
    intro n han hnb
    rcases Nat.eq_or_lt_of_le han with rfl | hlt
    · simp [ht]
    · exact risingEdge_iff_between (v := fun n => (i n).frameClk) (e := fun n => (r n).frameClk)
        (fun n => by rw [hr n, Mover.step_frameClk]) ha hno hlt (by omega)
  have hquiet : ∀ n, a ≤ n → n < b → n ≠ a + 2 → (r n).frameClk.risingEdge = false := by
    intro n han hnb hne
    rw [← Bool.not_eq_true, htick n han hnb]
    exact hne
  have hbefore : r (a + 2) = { r a with frameClk := (r (a + 2)).frameClk } :=
    Mover.held hr (by omega) (fun n hn hn' => hs n hn (by omega))
      fun n hn hn' => hquiet n hn (by omega) (by omega)
  have hat : r (a + 3) =
      { (r a).tick p (i (a + 2)).keycode with frameClk := (r (a + 3)).frameClk } := by
    rw [hr (a + 2), Mover.step_tick (hs (a + 2) (by omega) (by omega))
      ((htick (a + 2) (by omega) (by omega)).mpr rfl), hbefore]
    rfl
  have hafter : ∀ c, a + 3 ≤ c → c ≤ b →
      r c = { (r a).tick p (i (a + 2)).keycode with frameClk := (r c).frameClk } := by
    intro c hac hcb
    rw [Mover.held hr hac (fun n hn hn' => hs n (by omega) (by omega))
      fun n hn hn' => hquiet n (by omega) (by omega) (by omega), hat]
  refine ⟨hafter b (by omega) le_rfl, ?_⟩
  rw [hafter b (by omega) le_rfl, ← hafter (b - 1) (by omega) (by omega)]

/-! ## A frame of a battle by itself -/

/-- Before the bullets start a frame costs at most one HP. -/
theorem BattleFrame.step_waiting (hp : BitVec 4) (difficulty : BitVec 2)
    (heart : BitVec 10 × BitVec 10) :
    BattleFrame.step ⟨15#4, difficulty, heart⟩ ⟨hp, fun _ => false, laneInit⟩ =
      ⟨if (hitLane heart laneInit).isSome then hp - 1#4 else hp, fun _ => false, laneInit⟩ := by
  have hno : ∀ k : Fin 15, ¬ 15 = (k : ℕ) := fun k => Nat.ne_of_gt k.isLt
  refine BattleFrame.ext rfl (funext fun k => ?_) (funext fun k => ?_)
  · simp [BattleFrame.step, hno k]
  · simp [BattleFrame.step]

section run
variable {rom : Rom} {i : ℕ → BattleInputs} {b : ℕ → Battle}
  (hb : ∀ n, b (n + 1) = (b n).step rom (i n) (i (n + 1)))
include hb

/-- A frame edge moves the sprite counter, and with it the ROM address. -/
theorem Battle.address_rises {n : ℕ} (h : Rises (Battle.vs b) n)
    (hle : (b n).bullets.inCounter.toNat ≤ 60) :
    (b (n + 1)).bullets.inCounter.toNat = ((b n).bullets.inCounter.toNat + 1) % 61 ∧
      (b (n + 1)).bullets.bAddress =
        if (b n).bullets.inCounter.toNat = 30 ∨ (b n).bullets.inCounter.toNat = 60 then
          (i n).counter
        else (b n).bullets.bAddress := by
  have hclk : (Battle.bulletsInputs (i n) (b n)).frameClk = false ∧
      (Battle.bulletsInputs (i (n + 1)) (b (n + 1))).frameClk = true := h
  rw [Battle.bullets_succ hb n, Bullets.step, if_pos hclk]
  exact Bullets.counterStep_battle (i n).counter
    (r := (b n).bullets.posedgeClk rom ((b n).bulletsInputs (i n))) hle

/-- Between frame edges the registers of the frame clock hold. -/
theorem Battle.frameRegs_held {m n : ℕ} (hmn : m ≤ n)
    (hno : ∀ k, m ≤ k → k < n → ¬ Rises (Battle.vs b) k) :
    (b n).bullets.frameRegs = (b m).bullets.frameRegs := by
  refine preserved (P := fun n => (b n).bullets.frameRegs = (b m).bullets.frameRegs) hmn rfl
    fun k hmk hkn ih => ?_
  rw [← ih, Battle.bullets_succ hb k]
  exact Bullets.step_frameRegs_hold _ _ _ _ (hno k hmk hkn)

/-- A settled battle is hit at a frame edge where its bullets are before it. -/
theorem Battle.hp_settled {n : ℕ} (h : Rises (Battle.vs b) n) (hsettled : (b n).bullets.Settled) :
    (b (n + 1)).bullets.hp =
      if (hitLane (i (n + 1)).heart (b n).bullets.position).isSome then (b n).bullets.hp - 1#4
      else (b n).bullets.hp := by
  have hpos : (b (n + 1)).bullets.position = (b n).bullets.position := by
    rw [Battle.bullets_succ hb n]
    exact Bullets.step_position_quiet rfl hsettled.quiet hsettled.home
  rw [Battle.hp_rises hb h, hpos]

section entered
variable (h0 : (b 0).flower = Flower.clear) (hhidden : (b 0).Hidden)
include h0 hhidden

/-- Up to the 241st frame edge the battle is settled. -/
theorem Battle.settled_before {e : ℕ} (he : Rises (Battle.vs b) e) (he2 : 2 ≤ e)
    (hcount : countIn (Rises (Battle.vs b)) 0 e ≤ 240) : (b e).bullets.Settled := by
  obtain ⟨m, rfl⟩ : ∃ m, e = m + 2 := ⟨e - 2, by omega⟩
  exact ⟨Battle.no_tick hb he, fun k _ => congrFun (Battle.position_before hb h0 hhidden hcount) k⟩

theorem Battle.frame_before {e : ℕ} (hcount : countIn (Rises (Battle.vs b)) 0 e ≤ 240) :
    (b e).bullets.frame = ⟨(b e).bullets.hp, fun _ => false, laneInit⟩ :=
  BattleFrame.ext rfl (funext fun k => Battle.showBullet_before hb h0 hhidden hcount k)
    (Battle.position_before hb h0 hhidden hcount)

/-- Every frame of a battle is a step of the frames, and ends settled. -/
theorem Battle.frame_next (hstill : HeartStill i b) {e e' : ℕ} (hee' : e < e') (he2 : 2 ≤ e)
    (he : Rises (Battle.vs b) e) (he' : Rises (Battle.vs b) e')
    (hno : ∀ n, e < n → n < e' → ¬ Rises (Battle.vs b) n) (hsettled : (b e).bullets.Settled) :
    (b e').bullets.frame =
        (b e).bullets.frame.step
          ⟨if countIn (Rises (Battle.vs b)) 0 e < 240 then 15#4
            else rom (b (e + 1)).bullets.bAddress, (i (e + 1)).difficulty, (i e).heart⟩ ∧
      (b e').bullets.Settled := by
  split
  · next hcount =>
    have hcount' : countIn (Rises (Battle.vs b)) 0 e' ≤ 240 := by
      rw [countIn_eq_of_quiet (b := e + 1) (Nat.zero_le _) hee' fun n hn hn' => hno n hn hn',
        countIn_succ (Nat.zero_le e), if_pos he]
      omega
    refine ⟨?_, Battle.settled_before hb h0 hhidden he' (by omega) hcount'⟩
    have hhp : (b e').bullets.hp = (b (e + 1)).bullets.hp :=
      congrArg (fun r => r.1) (Battle.frameRegs_held hb hee' fun n hn hn' => hno n hn hn')
    rw [Battle.frame_before hb h0 hhidden hcount', Battle.frame_before hb h0 hhidden hcount.le,
      BattleFrame.step_waiting, hhp, Battle.hp_settled hb he hsettled, (hstill e he).1,
      Battle.position_before hb h0 hhidden hcount.le]
  · next hcount =>
    refine Battle.frame_succ hb h0 hstill hee' he he' hno (Nat.not_lt.mp hcount) ?_ hsettled
    rcases Nat.eq_or_lt_of_le (Nat.not_lt.mp hcount) with heq | hlt
    · exact .inr (Battle.showBullet_before hb h0 hhidden heq.ge)
    · left
      rw [Battle.startBullet_eq hb h0]
      exact decide_eq_true hlt

end entered

end run

/-! ## The battle of the arena -/

section arena
variable {rom : Rom} {i : ℕ → ArenaInputs} {a : ℕ → Arena}
  (ha : ∀ n, a (n + 1) = (a n).step rom (i n))

/-- The inputs of the battle that is on from cycle `m` to cycle `m + t`, with the last
ones held. -/
def Arena.heldInputs (i : ℕ → ArenaInputs) (a : ℕ → Arena) (m t k : ℕ) : BattleInputs :=
  (a (m + min k t)).battleInputs (i (m + min k t))

/-- The battle that goes on from there with these inputs. -/
def Arena.heldBattle (rom : Rom) (i : ℕ → ArenaInputs) (a : ℕ → Arena) (m t : ℕ) : ℕ → Battle :=
  Battle.run rom (Arena.heldInputs i a m t) (a m).battle

include ha

/-- Its frame clock is that of the arena. -/
theorem Arena.heldBattle_vga (m t k : ℕ) :
    (Arena.heldBattle rom i a m t k).vga = (a (m + k)).vga := by
  induction k with
  | zero => rfl
  | succ k ih =>
      rw [Arena.heldBattle, Battle.run, run_succ, ← Battle.run, ← Arena.heldBattle]
      exact (congrArg (Vga.step false) ih).trans (congrArg Arena.vga (ha (m + k))).symm

theorem Arena.heldBattle_rises (m t k : ℕ) :
    Rises (Battle.vs (Arena.heldBattle rom i a m t)) k ↔ Rises (fun n => (a n).vga.vs) (m + k) := by
  unfold Rises Battle.vs
  rw [Arena.heldBattle_vga ha, Arena.heldBattle_vga ha]
  rfl

theorem Arena.countIn_heldBattle (m t k : ℕ) :
    countIn (Rises (Battle.vs (Arena.heldBattle rom i a m t))) 0 k =
      countIn (Rises fun n => (a n).vga.vs) m (m + k) := by
  induction k with
  | zero => rw [countIn_self, Nat.add_zero, countIn_self]
  | succ k ih =>
      rw [countIn_succ (Nat.zero_le k), ← Nat.add_assoc, countIn_succ (Nat.le_add_right m k), ih]
      simp only [Arena.heldBattle_rises ha]

section on
variable {m t : ℕ} (hon : ∀ k, m ≤ k → k ≤ m + t → (a k).scene = .battle)
include hon

/-- While the battle is on, it is the battle of the arena. -/
theorem Arena.heldBattle_eq {k : ℕ} (hk : k ≤ t) :
    Arena.heldBattle rom i a m t k = (a (m + k)).battle := by
  induction k with
  | zero => rfl
  | succ k ih =>
      have hstep := Arena.battle_succ ha (hon (m + k) (by omega) (by omega))
        (hon (m + k + 1) (by omega) (by omega))
      rw [Arena.heldBattle, Battle.run, run_succ, ← Battle.run, ← Arena.heldBattle, ih (by omega),
        Arena.heldInputs, Arena.heldInputs, min_eq_left (by omega), min_eq_left hk]
      exact hstep.symm

/-- The heart stands still between a frame edge and the tick. -/
theorem Arena.heldBattle_still (hm2 : 2 ≤ m) (hm : ¬ Rises (fun n => (a n).vga.vs) m) :
    HeartStill (Arena.heldInputs i a m t) (Arena.heldBattle rom i a m t) := by
  intro n hn
  rw [Arena.heldBattle_rises ha] at hn
  unfold Arena.heldInputs
  rcases Nat.lt_or_ge n t with hlt | hge
  · have hn0 : n ≠ 0 := by rintro rfl; exact hm hn
    obtain ⟨j, hj⟩ : ∃ j, m + n = j + 3 := ⟨m + n - 3, by omega⟩
    rw [hj] at hn
    obtain ⟨h1, h2⟩ := Arena.heart_still ha hn fun k hk hk' => hon k (by omega) (by omega)
    have hj₁ : m + (n + 1) = j + 4 := by omega
    have hj₂ : m + (n + 2) = j + 5 := by omega
    rw [min_eq_left hlt.le, min_eq_left (show n + 1 ≤ t from hlt), hj, hj₁]
    refine ⟨h1, ?_⟩
    rcases Nat.eq_or_lt_of_le (show n + 1 ≤ t from hlt) with rfl | hlt'
    · rw [min_eq_right (Nat.le_succ _), hj₁]
      exact h1
    · rw [min_eq_left (show n + 2 ≤ t from hlt'), hj₂]
      exact h2
  · rw [min_eq_right hge, min_eq_right (by omega), min_eq_right (by omega)]
    exact ⟨rfl, rfl⟩

end on

end arena

/-! ## The battle of the game -/

section core
variable {i : ℕ → CoreInputs} {c : ℕ → Core} (hc : ∀ n, c (n + 1) = (c n).step (i n))
include hc

/-- The battle is entered three clocks after a frame edge. -/
theorem Core.rises_before_enters (h0 : (c 0).scene ≠ .map2) {n : ℕ} (h : Core.Enters c n) :
    ∃ j, n = j + 3 ∧ Rises (Core.vs c) j := by
  obtain ⟨hmap2, harr, -⟩ := Core.map2_of_enters hc h
  obtain ⟨a, han, ha, hafter⟩ := exists_last_entry (P := fun k => (c k).scene = .map2) h0 hmap2
  obtain ⟨hlt, -⟩ := Core.rises_of_map2 hc han ha harr
  obtain ⟨j, rfl⟩ : ∃ j, n = j + 3 := ⟨n - 3, by omega⟩
  have hprev : (c (j + 2)).scene = .map2 := hafter (j + 2) (by omega) (by omega)
  refine ⟨j, rfl, ?_⟩
  by_contra hno
  -- otherwise Frisk stands where he stood, and would have been let in a clock before
  have hidle : (c (j + 2)).frisk2.frameClk.risingEdge = false :=
    risingEdge_eq_false (e := fun k => (c k).frisk2.frameClk)
      (fun n => by rw [Core.frisk2_succ hc n, Mover.step_frameClk]; rfl) hno
  rw [Core.frisk2_succ hc (j + 2), Mover.step_idle (by rw [Core.moverInputs, hprev]; rfl) hidle]
    at harr
  have hs := Core.scene_succ hc (j + 2)
  rw [hmap2, hprev] at hs
  refine Scene.step_map2_ne (i := (c (j + 2)).stateInputs (i (j + 2))) ?_ hs.symm
  rw [Core.stateInputs, hprev]
  exact harr

end core

/-- A game in which a battle has come to `f` at a frame edge. -/
structure Fight.Reached (f : Fight) (g : Game) : Prop where
  shown : f.Shown g.sprites
  settled : g.sprites.bullets.Settled
  inCounter : g.sprites.bullets.inCounter.toNat = f.turns % 61
  counter : g.counter2 = f.counter

/-- What the turn of the frame edge `e` sees. -/
def Game.fightInputs (i : ℕ → GameInputs) (g : ℕ → Game) (e : ℕ) : FightInputs where
  keycode := (i (e + 2)).keycode
  difficulty := (g (e + 1)).difficulty

/-- The turns of the battle entered at edge `m` that were made before edge `e`. -/
def Game.fight (rom : Rom) (i : ℕ → GameInputs) (g : ℕ → Game) (m e : ℕ) : Fight :=
  (sampled (Rises (Game.vs g)) (Game.fightInputs i g) (m + 1) e).foldl (Fight.step rom)
    (Fight.start (g (m + 1)).counter2)

section fight
variable {rom : Rom} {i : ℕ → GameInputs} {g : ℕ → Game} {m e e' : ℕ}

theorem Game.fight_entry : Game.fight rom i g m (m + 1) = Fight.start (g (m + 1)).counter2 := by
  rw [Game.fight, sampled_self, List.foldl_nil]

/-- Between frame edges no turn is made. -/
theorem Game.fight_quiet (hme : m < e) (hee' : e ≤ e')
    (hno : ∀ n, e ≤ n → n < e' → ¬ Rises (Game.vs g) n) :
    Game.fight rom i g m e' = Game.fight rom i g m e := by
  rw [Game.fight, sampled_quiet hme hee' hno, Game.fight]

/-- A frame edge makes one. -/
theorem Game.fight_succ (hme : m < e) (he : Rises (Game.vs g) e) :
    Game.fight rom i g m (e + 1) =
      (Game.fight rom i g m e).step rom (Game.fightInputs i g e) := by
  rw [Game.fight, sampled_succ hme, if_pos he, List.foldl_append, Game.fight]
  rfl

theorem Game.fight_turns (hme : m < e) :
    (Game.fight rom i g m e).turns = countIn (Rises (Game.vs g)) (m + 1) e := by
  have hturns := foldl_counted (P := fun t f => f.turns = t) (f := Fight.step rom)
    (fun _ _ _ h => congrArg Nat.succ h)
    (sampled (Rises (Game.vs g)) (Game.fightInputs i g) (m + 1) e)
    (t := 0) (r := Fight.start (g (m + 1)).counter2) rfl
  rwa [Nat.zero_add, length_sampled hme] at hturns

end fight

/-- `b` on the inputs `j` is the battle of the game entered at edge `m`, up to edge `e`. -/
structure Game.Battles (rom : Rom) (i : ℕ → GameInputs) (g : ℕ → Game) (m e : ℕ)
    (j : ℕ → BattleInputs) (b : ℕ → Battle) : Prop where
  succ (n : ℕ) : b (n + 1) = (b n).step rom (j n) (j (n + 1))
  entered : (b 0).Entered
  still : HeartStill j b
  rises (k : ℕ) : Rises (Battle.vs b) k ↔ Rises (Game.vs g) (m + 1 + k)
  count (k : ℕ) :
    countIn (Rises (Battle.vs b)) 0 k = countIn (Rises (Game.vs g)) (m + 1) (m + 1 + k)
  battle (k : ℕ) : m + 1 + k ≤ e → b k = (g (m + 1 + k)).arena.battle
  inputs (k : ℕ) : m + 1 + k ≤ e →
    j k = (g (m + 1 + k)).arena.battleInputs ((g (m + 1 + k)).arenaInputs (i (m + 1 + k)))

section game
variable {rom : Rom} {i : ℕ → GameInputs} {g : ℕ → Game}
  (hg : ∀ n, g (n + 1) = (g n).step rom (i n)) (h0 : (g 0).scene ≠ .map2) {m : ℕ}
  (hm : (g m).scene ≠ .battle) (hm' : (g (m + 1)).scene = .battle)
include hg h0 hm hm'

/-- The entry comes three clocks after a frame edge. -/
theorem Game.rises_before_battle : ∃ j, m = j + 3 ∧ Rises (Game.vs g) j :=
  Core.rises_before_enters (c := fun k => (g k).arena.core)
    (Arena.core_succ (a := fun k => (g k).arena) (Game.arena_succ hg)) h0 ⟨hm, hm'⟩

/-- Hence the next one is three clocks after the entry, at the earliest. -/
theorem Game.no_rises_at_entry {n : ℕ} (hn : m ≤ n + 2) (hn' : n ≤ m + 2) :
    ¬ Rises (Game.vs g) n := by
  obtain ⟨j, rfl, hj⟩ := Game.rises_before_battle hg h0 hm hm'
  exact Game.not_rises_near hg hj (by omega) (by omega) (by omega)

/-- The battle begins clean. -/
theorem Game.battle_entered : (g (m + 1)).arena.battle.Entered ∧
    (g (m + 1)).sprites.bullets.frameRegs = (5#4, false, 0#10, 0#6) := by
  have ha := Game.arena_succ hg
  have hent : Core.Enters (fun k => (g k).arena.core) m := ⟨hm, hm'⟩
  obtain ⟨-, hflower, hhp⟩ :=
    Core.clear_of_enters (Arena.core_succ (a := fun k => (g k).arena) ha) h0 hent
  obtain ⟨hshow, hbullet, -⟩ := Arena.lanes_outside (a := fun k => (g k).arena) ha hm
  have hregs := Arena.frameRegs_of_enters (a := fun k => (g k).arena) ha h0 hent
  exact ⟨⟨⟨congrFun hshow, congrFun hbullet⟩, hflower, hhp⟩, hregs⟩

omit h0 hm hm' in
/-- The heart of a game is a run of `heart_move`. -/
theorem Game.heart_succ (n : ℕ) :
    (g (n + 1)).sprites.heart =
      (g n).sprites.heart.step ((g n).sprites.moverInputs ((g n).spritesInputs (i n))) :=
  congrArg (fun g => g.sprites.heart) (hg n)

omit h0 hm hm' in
/-- Without a frame edge two clocks before, the heart makes no tick. -/
theorem Game.heart_no_tick {n : ℕ} (h : ¬ Rises (Game.vs g) n) :
    (g (n + 2)).sprites.heart.mover.frameClk.risingEdge = false :=
  risingEdge_eq_false (v := Game.vs g) (e := fun n => (g n).sprites.heart.mover.frameClk)
    (fun n => by rw [Game.heart_succ hg n]; exact Mover.step_frameClk _ _ _) h

omit h0 hm hm' in
/-- While the battle lasts and no frame edge reaches it, the heart does not move. -/
theorem Game.heart_held {a b : ℕ} (ha : 2 ≤ a) (hab : a ≤ b)
    (hon : ∀ n, a ≤ n → n < b → (g n).scene = .battle)
    (hno : ∀ n, a ≤ n + 2 → n + 2 < b → ¬ Rises (Game.vs g) n) :
    (g b).sprites.heart.mover =
      { (g a).sprites.heart.mover with frameClk := (g b).sprites.heart.mover.frameClk } := by
  refine Mover.held (p := heartMove) (r := fun n => (g n).sprites.heart.mover)
    (i := fun n => (g n).sprites.moverInputs ((g n).spritesInputs (i n)))
    (fun n => congrArg Heart.mover (Game.heart_succ hg n)) hab
    (fun n hn hn' => Scene.status_eq_five.mpr (hon n hn hn')) fun n hn hn' => ?_
  obtain ⟨l, rfl⟩ : ∃ l, n = l + 2 := ⟨n - 2, by omega⟩
  exact Game.heart_no_tick hg (hno l hn hn')

section on
variable {e : ℕ} (hme : m < e) (hon : ∀ k, m < k → k ≤ e → (g k).scene = .battle)
include hme hon

/-- The battle of the game, up to the frame edge `e`. -/
theorem Game.exists_battle : ∃ j b, Game.Battles rom i g m e j b := by
  have ha := Game.arena_succ hg
  have hon' : ∀ k, m + 1 ≤ k → k ≤ m + 1 + (e - (m + 1)) → (g k).arena.scene = .battle :=
    fun k hk hk' => hon k hk (by omega)
  obtain ⟨l, rfl, -⟩ := Game.rises_before_battle hg h0 hm hm'
  refine ⟨Arena.heldInputs (fun k => (g k).arenaInputs (i k)) (fun k => (g k).arena) (l + 3 + 1)
      (e - (l + 3 + 1)),
    Arena.heldBattle rom (fun k => (g k).arenaInputs (i k)) (fun k => (g k).arena) (l + 3 + 1)
      (e - (l + 3 + 1)), ?_⟩
  exact
    { succ := fun _ => rfl
      entered := (Game.battle_entered hg h0 hm hm').1
      still := Arena.heldBattle_still ha hon' (by omega)
        (Game.no_rises_at_entry hg h0 hm hm' (n := l + 3 + 1) (by omega) (by omega))
      rises := Arena.heldBattle_rises ha _ _
      count := Arena.countIn_heldBattle ha _ _
      battle := fun k hk => Arena.heldBattle_eq ha hon' (by omega)
      inputs := fun k hk => by rw [Arena.heldInputs, min_eq_left (by omega)] }

omit h0 hm hm' hme in
/-- In a battle the copies of the heart are loaded with where it stands. -/
theorem Game.posH_eq {n : ℕ} (hn : m < n) (hne : n < e) :
    ((g (n + 1)).sprites.heart.posXH, (g (n + 1)).sprites.heart.posYH) =
      ((g n).sprites.heart.mover.xPos, (g n).sprites.heart.mover.yPos) := by
  have hs : ((g n).sprites.moverInputs ((g n).spritesInputs (i n))).status = 5#4 :=
    Scene.status_eq_five.mpr (hon n hn hne.le)
  rw [Game.heart_succ hg n, Heart.step_posXH hs, Heart.step_posYH hs]

/-- Up to the first frame edge the heart stands where it has begun. -/
theorem Game.heart_waits (hno : ∀ n, m < n → n < e → ¬ Rises (Game.vs g) n) {n : ℕ} (hn : m < n)
    (hne : n ≤ e) :
    (g n).sprites.heart.mover =
      { Mover.init heartMove ⟨false, false⟩ with
        frameClk := (g n).sprites.heart.mover.frameClk } := by
  have hstart : (g (m + 1)).sprites.heart.mover =
      Mover.init heartMove (g (m + 1)).sprites.heart.mover.frameClk := by
    rw [Game.heart_succ hg m, Heart.step_mover, Mover.step_outside]
    · rfl
    · exact fun hs => hm (Scene.status_eq_five.mp hs)
  have hm3 : 3 ≤ m := by
    obtain ⟨l, rfl, -⟩ := Game.rises_before_battle hg h0 hm hm'
    omega
  rw [Game.heart_held hg (show 2 ≤ m + 1 by omega) hn
    (fun k hk hk' => hon k hk (by omega)) fun l hl hl' => ?_, hstart]
  · rfl
  · rcases Nat.lt_or_ge m l with h | h
    · exact hno l h (by omega)
    · exact Game.no_rises_at_entry hg h0 hm hm' (by omega) (by omega)

/-- The first frame edge finds the battle before its first turn. -/
theorem Game.fight_first (he : Rises (Game.vs g) e)
    (hno : ∀ n, m < n → n < e → ¬ Rises (Game.vs g) n) :
    (Fight.start (g (m + 1)).counter2).Reached (g e) := by
  have hlate : m + 3 ≤ e := by
    by_contra hlt
    exact Game.no_rises_at_entry hg h0 hm hm' (by omega) (by omega) he
  -- the heart
  have hheld : ∀ n, m < n → n ≤ e → (g n).sprites.heart.mover =
      { Mover.init heartMove ⟨false, false⟩ with
        frameClk := (g n).sprites.heart.mover.frameClk } :=
    fun n hn hne => Game.heart_waits hg h0 hm hm' hme hon hno hn hne
  have hposH := Game.posH_eq hg hon (n := e - 1) (by omega) (by omega)
  rw [hheld (e - 1) (by omega) (by omega), Nat.sub_add_cancel (by omega)] at hposH
  -- the bullets
  obtain ⟨j, b, hb⟩ := Game.exists_battle hg h0 hm hm' hme hon
  obtain ⟨k, rfl⟩ : ∃ k, e = m + 1 + k := ⟨e - (m + 1), by omega⟩
  have hk := hb.battle k le_rfl
  have hzero : countIn (Rises (Battle.vs b)) 0 k = 0 := by
    rw [hb.count, countIn_eq_of_quiet (b := m + 1) le_rfl (by omega) fun n hn hn' =>
      hno n hn hn', countIn_self]
  have hregs : (g (m + 1 + k)).sprites.bullets.frameRegs = (5#4, false, 0#10, 0#6) := by
    have hheldRegs := Battle.frameRegs_held hb.succ (Nat.zero_le k) fun n _ hn hr =>
      hno (m + 1 + n) (by omega) (by omega) ((hb.rises n).mp hr)
    rw [hk, hb.battle 0 (by omega)] at hheldRegs
    exact hheldRegs.trans (Game.battle_entered hg h0 hm hm').2
  have hflower := Battle.flower_eq hb.succ hb.entered.flower k
  have hframe := Battle.frame_before hb.succ hb.entered.flower hb.entered.hidden
    (hzero.trans_le (Nat.zero_le _))
  have hsettled := Battle.settled_before hb.succ hb.entered.flower hb.entered.hidden
    ((hb.rises k).mpr he) (by omega) (hzero.trans_le (Nat.zero_le _))
  rw [hk] at hflower hframe hsettled
  rw [hzero] at hflower
  exact
    { shown :=
        { heart := hheld (m + 1 + k) hme le_rfl
          posH := hposH
          flower := hflower
          address := congrArg (fun r => r.2.2.1) hregs
          frame := hframe.trans
            (BattleFrame.ext (congrArg (fun r => r.1) hregs) rfl rfl) }
      settled := hsettled
      inCounter := congrArg (fun r => r.2.2.2.toNat) hregs
      counter := preserved (P := fun n => (g n).counter2 = (g (m + 1)).counter2) hme rfl
        fun n hn hne ih => (Game.holds hg (hno n hn hne)).2.2.trans ih }

/-- From one frame edge to the next the battle makes a turn. -/
theorem Game.fight_next {f : Fight} {e₀ : ℕ} (hme₀ : m < e₀) (he₀e : e₀ < e)
    (he₀ : Rises (Game.vs g) e₀) (he : Rises (Game.vs g) e)
    (hno : ∀ n, e₀ < n → n < e → ¬ Rises (Game.vs g) n)
    (hturns : f.turns = countIn (Rises (Game.vs g)) (m + 1) e₀) (hf : f.Reached (g e₀)) :
    (f.step rom (Game.fightInputs i g e₀)).Reached (g e) := by
  have hapart : e₀ + 6 ≤ e :=
    Vga.rises_apart (r := fun n => (g n).sprites.vga) (Game.vga_succ hg) he₀ he he₀e
  have hlate : m + 3 ≤ e₀ := by
    by_contra hlt
    exact Game.no_rises_at_entry hg h0 hm hm' (by omega) (by omega) he₀
  -- the heart
  obtain ⟨hheart, hprev⟩ := Mover.tick_between (p := heartMove)
    (r := fun n => (g n).sprites.heart.mover)
    (i := fun n => (g n).sprites.moverInputs ((g n).spritesInputs (i n)))
    (fun n => congrArg Heart.mover (Game.heart_succ hg n)) hapart he₀ hno
    (fun n hn hne => Scene.status_eq_five.mpr (hon n (by omega) hne.le)) (by
      obtain ⟨l, rfl⟩ : ∃ l, e₀ = l + 2 := ⟨e₀ - 2, by omega⟩
      exact Game.heart_no_tick hg
        (Game.not_rises_near hg he₀ (by omega) (by omega) (by omega)))
  have hposH := Game.posH_eq hg hon (n := e - 1) (by omega) (by omega)
  rw [Nat.sub_add_cancel (by omega)] at hposH
  rw [hprev, hheart, hf.shown.heart] at hposH
  rw [hf.shown.heart] at hheart
  -- the bullets
  obtain ⟨j, b, hb⟩ := Game.exists_battle hg h0 hm hm' hme hon
  obtain ⟨k₀, rfl⟩ : ∃ k, e₀ = m + 1 + k := ⟨e₀ - (m + 1), by omega⟩
  obtain ⟨k, rfl⟩ : ∃ k, e = m + 1 + k := ⟨e - (m + 1), by omega⟩
  have hk₀ := hb.battle k₀ (by omega)
  have hj₀ := hb.inputs k₀ (by omega)
  have hj₁ := hb.inputs (k₀ + 1) (by omega)
  have hk := hb.battle k le_rfl
  have hno' : ∀ n, k₀ < n → n < k → ¬ Rises (Battle.vs b) n := fun n hn hn' hr =>
    hno (m + 1 + n) (by omega) (by omega) ((hb.rises n).mp hr)
  have hrise : Rises (Battle.vs b) k₀ := (hb.rises k₀).mpr he₀
  rw [← hb.count] at hturns
  have hsettled₀ : (b k₀).bullets.Settled := by rw [hk₀]; exact hf.settled
  have hin : (b k₀).bullets.inCounter.toNat = f.turns % 61 := by rw [hk₀]; exact hf.inCounter
  obtain ⟨hin₁, haddr₁⟩ := Battle.address_rises hb.succ hrise (by omega)
  have hregs := Battle.frameRegs_held hb.succ (m := k₀ + 1) (n := k) (by omega) fun n hn hn' =>
    hno' n (by omega) hn'
  obtain ⟨hframe, hsettled⟩ := Battle.frame_next hb.succ hb.entered.flower hb.entered.hidden
    hb.still (by omega) (by omega) hrise ((hb.rises k).mpr he) hno' hsettled₀
  have hflower := Battle.flower_eq hb.succ hb.entered.flower k
  rw [countIn_eq_of_quiet (b := k₀ + 1) (Nat.zero_le _) (by omega) fun n hn hn' =>
    hno' n (by omega) hn', countIn_succ (Nat.zero_le _), if_pos hrise, ← hturns] at hflower
  have haddr : (b (k₀ + 1)).bullets.bAddress = f.nextAddress := by
    rw [haddr₁, hin, hj₀, hk₀]
    exact if_congr Iff.rfl hf.counter hf.shown.address
  rw [hk] at hflower hframe hsettled hregs
  rw [← hturns, haddr, hk₀, hj₀, hj₁] at hframe
  exact
    { shown :=
        { heart := hheart
          posH := hposH
          flower := hflower
          address := (congrArg (fun r => r.2.2.1) hregs).trans haddr
          frame := by
            have hposH₀ : ((g (m + 1 + k₀)).arena.battleInputs
                ((g (m + 1 + k₀)).arenaInputs (i (m + 1 + k₀)))).heart =
                  (f.heart.xPos, f.heart.yPos) := hf.shown.posH
            have hframe₀ : (g (m + 1 + k₀)).arena.battle.bullets.frame = f.frame := hf.shown.frame
            rw [hposH₀, hframe₀] at hframe
            exact hframe }
      settled := hsettled
      inCounter := by
        refine (congrArg (fun r => r.2.2.2.toNat) hregs).trans (hin₁.trans ?_)
        rw [hin]
        exact Nat.mod_add_mod f.turns 61 1
      counter := by
        have hnext : (g (m + 1 + k₀ + 1)).counter2 = nextCounter2 f.counter := by
          rw [(Game.rises hg he₀).2.2, hf.counter]
        exact preserved (P := fun n => (g n).counter2 = nextCounter2 f.counter) he₀e hnext
          fun n hn hne ih => (Game.holds hg (hno n hn hne)).2.2.trans ih }

end on

omit h0 hm hm' in
/-- A battle that is not decided lasts until the next frame edge, and a clock longer. -/
theorem Game.battle_lasts {k n : ℕ} (hkn : k ≤ n) (hk : (g k).scene = .battle)
    (hhp : (g k).sprites.bullets.hp ≠ 0#4) (htime : (g k).sprites.flower.timeUp = false)
    (hno : ∀ l, k ≤ l → l + 1 < n → ¬ Rises (Game.vs g) l)
    (hreset : ∀ l, k ≤ l → l < n → (i l).reset = false) : (g n).scene = .battle := by
  have hcore := Arena.core_succ (a := fun k => (g k).arena) (Game.arena_succ hg)
  have hstay : ∀ l, k ≤ l → l < n → (g l).scene = .battle →
      (g l).sprites.bullets.hp ≠ 0#4 → (g l).sprites.flower.timeUp = false →
        (g (l + 1)).scene = .battle := by
    intro l hkl hln hscene hhp htime
    have hnext : (g (l + 1)).scene =
        if (g l).sprites.bullets.hp = 0#4 then .lose
        else if (g l).sprites.flower.timeUp = true then .win else .battle :=
      Core.scene_battle (c := fun k => (g k).arena.core) hcore hscene (hreset l hkl hln)
    rw [hnext, if_neg hhp, htime]
    rfl
  rcases Nat.eq_or_lt_of_le hkn with rfl | hlt
  · exact hk
  · obtain ⟨hscene, hhp', htime'⟩ := preserved (P := fun l => (g l).scene = .battle ∧
        (g l).sprites.bullets.hp ≠ 0#4 ∧ (g l).sprites.flower.timeUp = false)
      (Nat.le_sub_one_of_lt hlt) ⟨hk, hhp, htime⟩ fun l hkl hln ih => by
        have hl : ¬ Rises (Game.vs g) l := hno l hkl (by omega)
        obtain ⟨-, hcorehp⟩ := Core.holds (c := fun k => (g k).arena.core) hcore hl
        refine ⟨hstay l hkl (by omega) ih.1 ih.2.1 ih.2.2, ?_, ?_⟩
        · exact fun h => ih.2.1 (hcorehp.symm.trans h)
        · rw [(Game.holds hg hl).1]
          exact ih.2.2
    have hlast := hstay (n - 1) (by omega) (by omega) hscene hhp' htime'
    rwa [Nat.sub_add_cancel (by omega)] at hlast

/-- A frame edge takes the HP and counts the time of its turn. -/
theorem Game.fight_edge {f : Fight} {e : ℕ} (hme : m < e)
    (hon : ∀ k, m < k → k ≤ e + 1 → (g k).scene = .battle) (he : Rises (Game.vs g) e)
    (hf : f.Reached (g e)) (x : FightInputs) :
    (g (e + 1)).sprites.bullets.hp = (f.step rom x).frame.hp ∧
      (g (e + 1)).sprites.flower = Flower.timeline (f.step rom x).turns := by
  obtain ⟨j, b, hb⟩ := Game.exists_battle hg h0 hm hm' (Nat.lt_succ_of_lt hme) hon
  obtain ⟨k, rfl⟩ : ∃ k, e = m + 1 + k := ⟨e - (m + 1), by omega⟩
  have hk := hb.battle k (by omega)
  have hj := hb.inputs k (by omega)
  have hk₁ := hb.battle (k + 1) (by omega)
  have hrise : Rises (Battle.vs b) k := (hb.rises k).mpr he
  have hsettled : (b k).bullets.Settled := by rw [hk]; exact hf.settled
  have hposH : (j k).heart = (f.heart.xPos, f.heart.yPos) := by rw [hj]; exact hf.shown.posH
  have hframe : (b k).bullets.frame = f.frame := by rw [hk]; exact hf.shown.frame
  constructor
  · have hhp := Battle.hp_settled hb.succ hrise hsettled
    rw [(hb.still k hrise).1, hposH, hk₁] at hhp
    refine hhp.trans ?_
    show _ = (BattleFrame.step _ f.frame).hp
    rw [← hframe]
    rfl
  · have hstatus : (g (m + 1 + k + 1)).scene.status = 5#4 :=
      Scene.status_eq_five.mpr (hon _ (by omega) le_rfl)
    rw [(Game.rises hg he).1, hstatus, hf.shown.flower]
    exact Flower.step_timeline f.turns

/-- A battle that no turn has decided is on, and the game has come to where its turns
have. -/
theorem Game.fight_reached {e : ℕ} (hme : m < e) (he : Rises (Game.vs g) e)
    (hreset : ∀ k, m < k → k ≤ e → (i k).reset = false)
    (hopen : ∀ k, m < k → k ≤ e → (Game.fight rom i g m k).outcome = .battle) :
    (∀ k, m < k → k ≤ e + 1 → (g k).scene = .battle) ∧
      (Game.fight rom i g m e).Reached (g e) := by
  induction e using Nat.strong_induction_on with
  | _ e ih =>
  rcases exists_last_event (p := Rises (Game.vs g)) hme with hno | ⟨e₀, hme₀, he₀e, he₀, hno⟩
  · -- the first turn of the battle
    obtain ⟨⟨-, hflower, hhp⟩, -⟩ := Game.battle_entered hg h0 hm hm'
    have hon : ∀ k, m < k → k ≤ e + 1 → (g k).scene = .battle := fun k hk hke =>
      Game.battle_lasts hg hk hm'
        (by rw [show (g (m + 1)).sprites.bullets.hp = 5#4 from hhp]; decide)
        (by rw [show (g (m + 1)).sprites.flower = Flower.clear from hflower]; rfl)
        (fun l hl hlk => hno l hl (by omega)) fun l hl hlk => hreset l hl (by omega)
    refine ⟨hon, ?_⟩
    rw [Game.fight_quiet (Nat.lt_succ_self m) hme hno, Game.fight_entry]
    exact Game.fight_first hg h0 hm hm' hme (fun k hk hke => hon k hk (by omega)) he
      fun n hn hne => hno n hn hne
  · -- the turn after the one of the frame edge `e₀`
    obtain ⟨hon₀, hf⟩ := ih e₀ he₀e hme₀ he₀ (fun k hk hke => hreset k hk (by omega))
      fun k hk hke => hopen k hk (by omega)
    have hturn : Game.fight rom i g m (e₀ + 1) =
        (Game.fight rom i g m e₀).step rom (Game.fightInputs i g e₀) := Game.fight_succ hme₀ he₀
    have hnext : Game.fight rom i g m e = Game.fight rom i g m (e₀ + 1) :=
      Game.fight_quiet (by omega) he₀e fun n hn hne => hno n hn hne
    obtain ⟨hhp, hflower⟩ := Game.fight_edge hg h0 hm hm' hme₀ hon₀ he₀ hf
      (Game.fightInputs i g e₀)
    rw [← hturn] at hhp hflower
    have hundecided := hopen (e₀ + 1) (by omega) he₀e
    unfold Fight.outcome at hundecided
    have hne : (Game.fight rom i g m (e₀ + 1)).frame.hp ≠ 0#4 := by
      intro hz
      rw [if_pos hz] at hundecided
      cases hundecided
    have hle : ¬ 3840 < (Game.fight rom i g m (e₀ + 1)).turns := by
      intro hlt
      rw [if_neg hne, if_pos hlt] at hundecided
      cases hundecided
    have hon : ∀ k, m < k → k ≤ e + 1 → (g k).scene = .battle := by
      intro k hk hke
      rcases Nat.lt_or_ge (e₀ + 1) k with hlt | hge
      · refine Game.battle_lasts hg hlt.le (hon₀ (e₀ + 1) (by omega) le_rfl) (hhp ▸ hne) ?_
          (fun l hl hlk => hno l (by omega) (by omega))
          fun l hl hlk => hreset l (by omega) (by omega)
        rw [hflower]
        exact decide_eq_false hle
      · exact hon₀ k hk hge
    refine ⟨hon, ?_⟩
    rw [hnext, hturn]
    exact Game.fight_next hg h0 hm hm' hme (fun k hk hke => hon k hk (by omega)) hme₀ he₀e he₀
      he hno (Game.fight_turns hme₀) hf

/-- What a turn has come to decides what the scene is two clocks after its frame edge. -/
theorem Game.fight_decides {e : ℕ} (hme : m < e) (he : Rises (Game.vs g) e)
    (hreset : (i (e + 1)).reset = false) (hon : ∀ k, m < k → k ≤ e + 1 → (g k).scene = .battle)
    (hf : (Game.fight rom i g m e).Reached (g e)) :
    (g (e + 2)).scene = (Game.fight rom i g m (e + 1)).outcome := by
  obtain ⟨hhp, hflower⟩ :=
    Game.fight_edge hg h0 hm hm' hme hon he hf (Game.fightInputs i g e)
  rw [← Game.fight_succ hme he] at hhp hflower
  have hscene : (g (e + 2)).scene =
      if (g (e + 1)).sprites.bullets.hp = 0#4 then .lose
      else if (g (e + 1)).sprites.flower.timeUp = true then .win else .battle :=
    Core.scene_battle (c := fun k => (g k).arena.core)
      (Arena.core_succ (a := fun k => (g k).arena) (Game.arena_succ hg))
      (hon (e + 1) (by omega) le_rfl) hreset
  rw [hscene, hhp, hflower, Fight.outcome]
  refine if_congr Iff.rfl rfl (if_congr ?_ rfl rfl)
  exact decide_eq_true_iff

end game

/-- In every run from the title and every entry into the battle with `Reset` low
afterwards: at each frame edge that the turns before it have left open, the battle is on
and the registers show these turns, and the turn of this edge decides what the scene is
two clocks later. -/
theorem Game.fight_shown (rom : Rom) (i : ℕ → GameInputs) (g : Game) (m e : ℕ)
    (h0 : g.scene = .title) (hm : (Game.run rom i g m).scene ≠ .battle)
    (hm' : (Game.run rom i g (m + 1)).scene = .battle) (hme : m < e)
    (he : Rises (Game.vs (Game.run rom i g)) e)
    (hreset : ∀ k, m < k → k ≤ e + 1 → (i k).reset = false)
    (hopen : ∀ k, m < k → k ≤ e →
      (Game.fight rom i (Game.run rom i g) m k).outcome = .battle) :
    (∀ k, m < k → k ≤ e + 1 → (Game.run rom i g k).scene = .battle) ∧
      (Game.fight rom i (Game.run rom i g) m e).Shown (Game.run rom i g e).sprites ∧
        (Game.run rom i g (e + 2)).scene =
          (Game.fight rom i (Game.run rom i g) m (e + 1)).outcome := by
  have hg : ∀ n, Game.run rom i g (n + 1) = (Game.run rom i g n).step rom (i n) := fun _ => rfl
  have h0' : (Game.run rom i g 0).scene ≠ .map2 := Scene.ne_map2 h0
  obtain ⟨hon, hf⟩ := Game.fight_reached hg h0' hm hm' hme he
    (fun k hk hke => hreset k hk (by omega)) hopen
  exact ⟨hon, hf.shown,
    Game.fight_decides hg h0' hm hm' hme he (hreset (e + 1) (by omega) le_rfl) hon hf⟩

/-- A battle that has begun is open until its first turn is over. -/
theorem Game.fight_open {rom : Rom} {i : ℕ → GameInputs} {g : ℕ → Game} {m e : ℕ} (hme : m < e)
    (hno : ∀ n, m < n → n < e → ¬ Rises (Game.vs g) n) :
    (Game.fight rom i g m e).outcome = .battle := by
  rw [Game.fight_quiet (Nat.lt_succ_self m) hme hno, Game.fight_entry]
  rfl

/-- The first turn of the player's first battle. -/
theorem Game.fight_shown_play :
    let i := Game.playInputs Game.player (fun _ => 0#4) Game.zero
    let g := Game.run (fun _ => 0#4) i Game.zero
    ∃ m e, m < e ∧ (∀ k, m < k → k ≤ e + 1 → (g k).scene = .battle) ∧
      (Game.fight (fun _ => 0#4) i g m e).Shown (g e).sprites ∧
        (g (e + 2)).scene = (Game.fight (fun _ => 0#4) i g m (e + 1)).outcome := by
  intro i g
  have hg : ∀ n, g (n + 1) = (g n).step (fun _ => 0#4) (i n) := fun _ => rfl
  obtain ⟨m, -, hm, hm'⟩ :=
    Game.play_battle (g := Game.play Game.player (fun _ => 0#4) Game.zero) (fun _ => rfl)
      (n := 0) rfl
  rw [← Game.run_play] at hm hm'
  obtain ⟨e, hme, he, hno⟩ := exists_next_rises (a := m) (v := Game.vs g)
    (Game.exists_rises hg (m + 1))
  exact ⟨m, e, hme, Game.fight_shown (fun _ => 0#4) i Game.zero m e rfl
    (by rw [hm]; exact Scene.noConfusion) hm' hme he (fun _ _ _ => rfl)
    fun k hk hke => Game.fight_open hk fun n hn hnk => hno n hn (by omega)⟩

end Undertale
