import Undertale.Fight
import Undertale.Raster

/-!
# The walks as games of frames

On the two maps the registers play a simpler game than in battle: a turn sees one keycode,
and moves Frisk and, on the first map, the background and the door.  `Game.walk_shown` and
`Game.walk2_shown` say that they show the turns made so far at every clock, and that these
turns and the keycode of the clock decide whether the map is left.  Whatever the keys, a map
takes a least number of turns (`Walk.turns_le`, `Mover.walk2_turns_le`).
-/

namespace Undertale

open Clocked

/-! ## Turns -/

/-- The first map between two turns. -/
@[ext]
structure Walk where
  frisk : Mover
  map1 : Scroll
  door : Scroll

/-- One turn. -/
def Walk.step (w : Walk) (keycode : BitVec 8) : Walk where
  frisk := w.frisk.tick friskMove keycode
  map1 := w.map1.tick Undertale.map1 keycode
  door := w.door.tick Undertale.door keycode

/-- The first map before its first turn. -/
def Walk.start : Walk where
  frisk := Mover.init friskMove ⟨false, false⟩
  map1 := Scroll.init Undertale.map1 ⟨false, false⟩
  door := Scroll.init Undertale.door ⟨false, false⟩

/-- Frisk is before the door. -/
def Walk.arrived (w : Walk) : Bool := arrivedDoor 3#4 w.frisk

/-- The second map is Frisk alone.  This is one turn on it. -/
def Mover.walk2 (r : Mover) (keycode : BitVec 8) : Mover := r.tick friskMove2 keycode

/-- The registers without the edge detector. -/
def Mover.unclocked (r : Mover) : Mover := { r with frameClk := ⟨false, false⟩ }

def Scroll.unclocked (r : Scroll) : Scroll := { r with frameClk := ⟨false, false⟩ }

/-- What the registers of the sprites show of the first map. -/
def Sprites.walk (r : Sprites) : Walk := ⟨r.frisk.unclocked, r.map1.unclocked, r.door.unclocked⟩

theorem Mover.step_unclocked {p : MoverParams} {i : MoverInputs} {r : Mover}
    (hs : i.status = p.status) :
    (r.step p i).unclocked =
      if r.frameClk.risingEdge = true then r.unclocked.tick p i.keycode else r.unclocked := by
  cases ht : r.frameClk.risingEdge with
  | false => rw [Mover.step_idle hs ht]; rfl
  | true => rw [Mover.step_tick hs ht]; rfl

theorem Scroll.step_unclocked {p : ScrollParams} {i : MoverInputs} {r : Scroll}
    (hs : i.status = p.status) :
    (r.step p i).unclocked =
      if r.frameClk.risingEdge = true then r.unclocked.tick p i.keycode else r.unclocked := by
  cases ht : r.frameClk.risingEdge with
  | false => rw [Scroll.step_idle hs ht]; rfl
  | true =>
      rw [Scroll.step_tick hs ht]
      unfold Scroll.unclocked Scroll.tick
      dsimp only
      split
      · split <;> rfl
      · split
        · split <;> rfl
        · rfl

/-! ## How fast Frisk walks

A tick moves the axes by their motion registers, of which one at most is not zero, and a
clamp only brings an axis back.  Until it has made as many steps as its starting point is
away from zero, an axis has not wrapped either. -/

/-- A tick takes an axis at most a step away from a point within its limits. -/
theorem gap_tick {lo hi c : BitVec 10} (hlo : lo ≤ c) (hhi : c ≤ hi) (hc : c.toNat < 512)
    {a : Axis 10} (hu : a.Unit) (k : Push) (h : gap a.pos c < c.toNat) :
    gap (a.tick lo hi k).pos c ≤ gap a.pos c + if a.motion = 0#10 then 0 else 1 := by
  rw [BitVec.le_def] at hlo hhi
  unfold gap at h ⊢
  by_cases hclamp : a.Clamps lo hi k
  · rcases hclamp with ⟨rfl, hpos⟩ | ⟨rfl, hpos⟩
    · rw [Axis.tick_minus_pos hpos]
      rw [BitVec.le_def] at hpos
      omega
    · rw [Axis.tick_plus_pos hpos]
      rw [BitVec.le_def] at hpos
      omega
  · rw [Axis.tick_pos hclamp]
    rcases hu with hm | hm | hm
    · rw [hm, BitVec.add_zero]
      omega
    · rw [hm, toNat_add_one, if_neg (by omega), if_neg (by decide)]
      omega
    · rw [hm, toNat_add_neg_one, if_neg (by omega), if_neg (by decide)]
      omega

/-- Where a mover can be after `t` ticks: `a` of them have moved it along one axis and `b`
along the other, and the first one along none. -/
structure Mover.Travelled (p : MoverParams) (t : ℕ) (r : Mover) : Prop where
  unit : r.Unit
  single : r.xMotion = 0#10 ∨ r.yMotion = 0#10
  rest : t = 0 → r.xMotion = 0#10 ∧ r.yMotion = 0#10
  steps : ∃ a b, a + b ≤ t - 1 ∧ (a < p.xInit.toNat → gap r.xPos p.xInit ≤ a) ∧
    (b < p.yInit.toNat → gap r.yPos p.yInit ≤ b)

/-- The starting point is within the limits and in the lower half of the range. -/
structure MoverParams.Homely (p : MoverParams) : Prop where
  unitStep : p.UnitStep
  x : p.xMin ≤ p.xInit ∧ p.xInit ≤ p.xMax ∧ p.xInit.toNat < 512
  y : p.yMin ≤ p.yInit ∧ p.yInit ≤ p.yMax ∧ p.yInit.toNat < 512

theorem friskMove_homely : friskMove.Homely where
  unitStep := friskMove_unitStep
  x := by decide
  y := by decide

theorem friskMove2_homely : friskMove2.Homely where
  unitStep := friskMove2_unitStep
  x := by decide
  y := by decide

theorem Mover.travelled_init (p : MoverParams) (e : EdgeDetector) :
    (Mover.init p e).Travelled p 0 where
  unit := Mover.unit_init p e
  single := .inl rfl
  rest := fun _ => ⟨rfl, rfl⟩
  steps := ⟨0, 0, le_rfl, fun _ => by simp [gap, Mover.init], fun _ => by simp [gap, Mover.init]⟩

/-- A key sets one axis in motion, if any, and stops the other. -/
theorem Mover.tick_single (p : MoverParams) (keycode : BitVec 8) (r : Mover) :
    (r.tick p keycode).xMotion = 0#10 ∨ (r.tick p keycode).yMotion = 0#10 := by
  unfold Mover.tick Mover.decision
  rcases keycode_cases keycode with rfl | rfl | rfl | rfl | ⟨h1, h2, h3, h4⟩
  · by_cases hy : r.yPos ≤ p.yMin <;> simp [hy]
  · by_cases hx : r.xPos ≤ p.xMin <;> simp [hx]
  · by_cases hy : p.yMax ≤ r.yPos <;> simp [hy]
  · by_cases hx : p.xMax ≤ r.xPos <;> simp [hx]
  · simp [h1, h2, h3, h4]

theorem Mover.Travelled.tick {p : MoverParams} (hp : p.Homely) {t : ℕ} {r : Mover}
    (h : r.Travelled p t) (keycode : BitVec 8) : (r.tick p keycode).Travelled p (t + 1) := by
  obtain ⟨a, b, hab, ha, hb⟩ := h.steps
  have hux := h.unit.1.tick p.xMin p.xMax (r.xPush p keycode)
  have huy := h.unit.2.tick p.yMin p.yMax (r.yPush p keycode)
  rw [← Mover.tick_xAxis hp.unitStep] at hux
  rw [← Mover.tick_yAxis hp.unitStep] at huy
  refine ⟨⟨hux, huy⟩, Mover.tick_single p keycode r, fun h0 => absurd h0 t.succ_ne_zero,
    a + (if r.xMotion = 0#10 then 0 else 1), b + (if r.yMotion = 0#10 then 0 else 1), ?_,
    fun hlt => ?_, fun hlt => ?_⟩
  · rcases Nat.eq_zero_or_pos t with h0 | ht
    · rw [if_pos (h.rest h0).1, if_pos (h.rest h0).2]
      omega
    · rcases h.single with hx | hy
      · rw [if_pos hx]
        split <;> omega
      · rw [if_pos hy]
        split <;> omega
  · have hgap := ha (by omega)
    have hstep := gap_tick hp.x.1 hp.x.2.1 hp.x.2.2 h.unit.1 (r.xPush p keycode)
      (Nat.lt_of_le_of_lt hgap (by omega))
    rw [← Mover.tick_xAxis hp.unitStep] at hstep
    exact hstep.trans (Nat.add_le_add_right hgap _)
  · have hgap := hb (by omega)
    have hstep := gap_tick hp.y.1 hp.y.2.1 hp.y.2.2 h.unit.2 (r.yPush p keycode)
      (Nat.lt_of_le_of_lt hgap (by omega))
    rw [← Mover.tick_yAxis hp.unitStep] at hstep
    exact hstep.trans (Nat.add_le_add_right hgap _)

/-- The door is 219 columns and 52 rows away. -/
theorem Mover.Travelled.door {t : ℕ} {r : Mover} (h : r.Travelled friskMove t)
    (harrived : arrivedDoor 3#4 r = true) : 272 ≤ t := by
  obtain ⟨⟨hx, -⟩, ⟨-, hy⟩, -⟩ := arrivedDoor_iff.mp harrived
  obtain ⟨a, b, hab, ha, hb⟩ := h.steps
  have hxInit : friskMove.xInit.toNat = 301 := rfl
  have hyInit : friskMove.yInit.toNat = 191 := rfl
  unfold gap at ha hb
  rw [hxInit] at ha
  rw [hyInit] at hb
  omega

/-- The monster is 195 rows away. -/
theorem Mover.Travelled.monster {t : ℕ} {r : Mover} (h : r.Travelled friskMove2 t)
    (harrived : arrivedMonster 4#4 r = true) : 196 ≤ t := by
  obtain ⟨-, ⟨-, hy⟩, -⟩ := arrivedMonster_iff.mp harrived
  obtain ⟨a, b, hab, -, hb⟩ := h.steps
  have hyInit : friskMove2.yInit.toNat = 400 := rfl
  unfold gap at hb
  rw [hyInit] at hb
  omega

/-- The walks have a minimal length. -/
theorem Walk.turns_le {keys : List (BitVec 8)} (h : (keys.foldl Walk.step .start).arrived = true) :
    272 ≤ keys.length := by
  have hwalk := foldl_counted (P := fun t w => w.frisk.Travelled friskMove t) (f := Walk.step)
    (fun _ _ k hw => hw.tick friskMove_homely k) keys (t := 0) (r := .start)
    (Mover.travelled_init friskMove _)
  rw [Nat.zero_add] at hwalk
  exact hwalk.door h

theorem Mover.walk2_turns_le {keys : List (BitVec 8)} {e : EdgeDetector}
    (h : arrivedMonster 4#4 (keys.foldl Mover.walk2 (Mover.init friskMove2 e)) = true) :
    196 ≤ keys.length := by
  have hwalk := foldl_counted (P := fun t r => r.Travelled friskMove2 t) (f := Mover.walk2)
    (fun _ _ k hr => hr.tick friskMove2_homely k) keys (t := 0)
    (Mover.travelled_init friskMove2 e)
  rw [Nat.zero_add] at hwalk
  exact hwalk.monster h

/-- Right and up, with a turn for the last step: there is no slack. -/
theorem Walk.arrived_right_up :
    ((List.replicate 219 7#8 ++ List.replicate 53 26#8).foldl Walk.step .start).arrived =
      true := by
  decide +kernel

theorem Mover.arrived_up : arrivedMonster 4#4
    ((List.replicate 196 26#8).foldl Mover.walk2 (Mover.init friskMove2 ⟨false, false⟩)) =
      true := by
  decide +kernel

/-! ## The clocks of the turns -/

/-- The registers on `Clk` make a turn two clocks after a frame edge. -/
def Game.Ticks (g : ℕ → Game) (n : ℕ) : Prop := Rises (Game.vs g) (n - 2)

instance (g : ℕ → Game) : DecidablePred (Game.Ticks g) :=
  fun n => inferInstanceAs (Decidable (Rises (Game.vs g) (n - 2)))

/-- The keycodes that the turns at the edges `a, …, b - 1` see. -/
def Game.keys (i : ℕ → GameInputs) (g : ℕ → Game) (a b : ℕ) : List (BitVec 8) :=
  sampled (Game.Ticks g) (fun n => (i n).keycode) a b

/-- The walk on the first map that was entered at edge `m`, before edge `e`. -/
def Game.walk (i : ℕ → GameInputs) (g : ℕ → Game) (m e : ℕ) : Walk :=
  (Game.keys i g (m + 1) e).foldl Walk.step Walk.start

/-- The walk on the second map. -/
def Game.walk2 (i : ℕ → GameInputs) (g : ℕ → Game) (m e : ℕ) : Mover :=
  (Game.keys i g (m + 1) e).foldl Mover.walk2 (Mover.init friskMove2 ⟨false, false⟩)

section run
variable {rom : Rom} {i : ℕ → GameInputs} {g : ℕ → Game}
  (hg : ∀ n, g (n + 1) = (g n).step rom (i n))
include hg

/-- The detectors are up in the clock of a turn only. -/
theorem Game.ticks_iff {n : ℕ} (hn : 2 ≤ n) :
    ((g n).sprites.frisk.frameClk.risingEdge = true ↔ Game.Ticks g n) ∧
      (g n).sprites.frisk2.frameClk = (g n).sprites.frisk.frameClk ∧
        (g n).sprites.map1.frameClk = (g n).sprites.frisk.frameClk ∧
          (g n).sprites.door.frameClk = (g n).sprites.frisk.frameClk := by
  obtain ⟨k, rfl⟩ : ∃ k, n = k + 2 := ⟨n - 2, by omega⟩
  obtain ⟨-, hfrisk, hfrisk2, hmap1, hdoor, -⟩ := Game.detectors hg k
  refine ⟨?_, hfrisk2.trans hfrisk.symm, hmap1.trans hfrisk.symm, hdoor.trans hfrisk.symm⟩
  rw [hfrisk, Game.Ticks, Nat.add_sub_cancel, Rises]
  simp [and_comm]

/-- A clock on the first map. -/
theorem Game.walk_next {n : ℕ} (hn : 2 ≤ n) (hs : (g n).scene = .map1) :
    (g (n + 1)).sprites.walk =
      if Game.Ticks g n then (g n).sprites.walk.step (i n).keycode else (g n).sprites.walk := by
  obtain ⟨hup, -, hmap1, hdoor⟩ := Game.ticks_iff hg hn
  have hstatus : ((g n).sprites.moverInputs ((g n).spritesInputs (i n))).status = 3#4 :=
    congrArg Scene.status hs
  have hwalk : (g (n + 1)).sprites.walk =
      ⟨((g n).sprites.frisk.step friskMove _).unclocked,
        ((g n).sprites.map1.step Undertale.map1 _).unclocked,
        ((g n).sprites.door.step Undertale.door _).unclocked⟩ :=
    congrArg (fun g => g.sprites.walk) (hg n)
  rw [hwalk, Mover.step_unclocked hstatus, Scroll.step_unclocked hstatus,
    Scroll.step_unclocked hstatus, hmap1, hdoor]
  simp only [hup]
  split <;> rfl

/-- A clock on the second map. -/
theorem Game.walk2_next {n : ℕ} (hn : 2 ≤ n) (hs : (g n).scene = .map2) :
    (g (n + 1)).sprites.frisk2.unclocked =
      if Game.Ticks g n then (g n).sprites.frisk2.unclocked.walk2 (i n).keycode
      else (g n).sprites.frisk2.unclocked := by
  obtain ⟨hup, hfrisk2, -⟩ := Game.ticks_iff hg hn
  have hstatus : ((g n).sprites.moverInputs ((g n).spritesInputs (i n))).status = 4#4 :=
    congrArg Scene.status hs
  have hwalk : (g (n + 1)).sprites.frisk2.unclocked =
      ((g n).sprites.frisk2.step friskMove2 _).unclocked :=
    congrArg (fun g => g.sprites.frisk2.unclocked) (hg n)
  rw [hwalk, Mover.step_unclocked hstatus, hfrisk2]
  simp only [hup]
  rfl

/-- Off the maps everything goes back to its starting point. -/
theorem Game.walk_outside {n : ℕ} (hs : (g n).scene ≠ .map1) :
    (g (n + 1)).sprites.walk = Walk.start := by
  have hstatus : ((g n).sprites.moverInputs ((g n).spritesInputs (i n))).status ≠ 3#4 :=
    fun h => hs (Scene.status_inj (t := .map1).mp h)
  have hwalk : (g (n + 1)).sprites.walk =
      ⟨((g n).sprites.frisk.step friskMove _).unclocked,
        ((g n).sprites.map1.step Undertale.map1 _).unclocked,
        ((g n).sprites.door.step Undertale.door _).unclocked⟩ :=
    congrArg (fun g => g.sprites.walk) (hg n)
  rw [hwalk, Mover.step_outside hstatus, Scroll.step_outside hstatus, Scroll.step_outside hstatus]
  rfl

theorem Game.walk2_outside {n : ℕ} (hs : (g n).scene ≠ .map2) :
    (g (n + 1)).sprites.frisk2.unclocked = Mover.init friskMove2 ⟨false, false⟩ := by
  have hstatus : ((g n).sprites.moverInputs ((g n).spritesInputs (i n))).status ≠ 4#4 :=
    fun h => hs (Scene.status_inj (t := .map2).mp h)
  have hwalk : (g (n + 1)).sprites.frisk2.unclocked =
      ((g n).sprites.frisk2.step friskMove2 _).unclocked :=
    congrArg (fun g => g.sprites.frisk2.unclocked) (hg n)
  rw [hwalk, Mover.step_outside hstatus]
  rfl

/-! ## A stay on a map -/

section stay
variable {m e : ℕ} (hm0 : 0 < m) (hme : m < e)
include hm0 hme

/-- Throughout a stay on the first map the registers show the turns made. -/
theorem Game.walk_eq (hm : (g m).scene ≠ .map1) (hon : ∀ k, m < k → k < e → (g k).scene = .map1) :
    (g e).sprites.walk = Game.walk i g m e := by
  rw [Game.walk, Game.keys, ← Game.walk_outside hg hm]
  refine foldl_sampled (r := fun n => (g n).sprites.walk) hme (fun n hn hne ht => ?_)
    fun n hn hne ht => ?_
  · rw [Game.walk_next hg (by omega) (hon n hn hne), if_pos ht]
  · rw [Game.walk_next hg (by omega) (hon n hn hne), if_neg ht]

theorem Game.walk2_eq (hm : (g m).scene ≠ .map2) (hon : ∀ k, m < k → k < e → (g k).scene = .map2) :
    (g e).sprites.frisk2.unclocked = Game.walk2 i g m e := by
  rw [Game.walk2, Game.keys, ← Game.walk2_outside hg hm]
  refine foldl_sampled (r := fun n => (g n).sprites.frisk2.unclocked) hme (fun n hn hne ht => ?_)
    fun n hn hne ht => ?_
  · rw [Game.walk2_next hg (by omega) (hon n hn hne), if_pos ht]
  · rw [Game.walk2_next hg (by omega) (hon n hn hne), if_neg ht]

end stay

omit hg in
theorem Game.scene_step (hg : ∀ n, g (n + 1) = (g n).step rom (i n)) (n : ℕ) :
    (g (n + 1)).scene = (g n).scene.step ((g n).stateInputs (i n)) :=
  congrArg Game.scene (hg n)

omit hg in
theorem Scene.step_title (i : StateInputs) :
    Scene.title.step i = .title ∨ Scene.title.step i = .intro := by
  cases hr : i.reset with
  | true => exact .inl (Scene.step_reset hr .title)
  | false =>
      rcases eq_or_ne i.keycode 0x28#8 with hk | hk
      · exact .inr (by simp [Scene.step, Scene.nextState, hr, hk])
      · exact .inl (by simp [Scene.step, Scene.nextState, hr, hk])

/-- From the title no map is entered at once. -/
theorem Game.entry_pos (h0 : (g 0).scene = .title) {m : ℕ}
    (h : (g (m + 1)).scene = .map1 ∨ (g (m + 1)).scene = .map2) : 0 < m := by
  rcases Nat.eq_zero_or_pos m with rfl | hm
  · rw [Game.scene_step hg 0, h0] at h
    rcases Scene.step_title ((g 0).stateInputs (i 0)) with ht | ht <;> rw [ht] at h <;> simp at h
  · exact hm

/-- The first map is left by the key that opens the door, when Frisk is before it. -/
theorem Game.scene_map1 {n : ℕ} (hs : (g n).scene = .map1) (hreset : (i n).reset = false) :
    (g (n + 1)).scene =
      if (i n).keycode = 0x28#8 ∧ (g n).sprites.walk.arrived = true then .map2 else .map1 := by
  have harrived : (g n).sprites.walk.arrived = arrivedDoor 3#4 (g n).sprites.frisk := rfl
  rw [Game.scene_step hg n, hs, harrived]
  simp [Scene.step, Scene.nextState, Game.stateInputs, hreset, hs, Scene.status]

/-- The second map is left as soon as Frisk has reached the monster. -/
theorem Game.scene_map2 {n : ℕ} (hs : (g n).scene = .map2) (hreset : (i n).reset = false) :
    (g (n + 1)).scene =
      if arrivedMonster 4#4 (g n).sprites.frisk2.unclocked = true then .battle else .map2 := by
  have harrived : arrivedMonster 4#4 (g n).sprites.frisk2.unclocked =
      arrivedMonster 4#4 (g n).sprites.frisk2 := rfl
  rw [Game.scene_step hg n, hs, harrived]
  simp [Scene.step, Scene.nextState, Game.stateInputs, hreset, hs, Scene.status]

omit hg in
/-- As long as no clock decides to leave, a stay goes on. -/
theorem Game.stays {s : Scene} {leave : ℕ → Prop} {m e : ℕ} (hme : m < e)
    (hm' : (g (m + 1)).scene = s) (hopen : ∀ k, m < k → k < e → ¬ leave k)
    (hnext : ∀ n, m < n → n < e → (∀ k, m < k → k ≤ n → (g k).scene = s) → ¬ leave n →
      (g (n + 1)).scene = s) : ∀ k, m < k → k ≤ e → (g k).scene = s := by
  refine preserved (P := fun n => ∀ k, m < k → k ≤ n → (g k).scene = s) hme (fun k hk hk' => ?_)
    fun n hn hne ih k hk hkn => ?_
  · rw [show k = m + 1 by omega]
    exact hm'
  · rcases Nat.lt_or_eq_of_le hkn with hlt | rfl
    · exact ih k hk (Nat.le_of_lt_succ hlt)
    · exact hnext n hn hne ih (hopen n hn hne)

end run

/-- In every run from the title and every entry into the first map with `Reset` low
afterwards: up to a clock before which the turns and keycodes have not opened the door, the
map is on and the registers show the turns, and the keycode and the turns of this clock
decide whether the second map comes next. -/
theorem Game.walk_shown (rom : Rom) (i : ℕ → GameInputs) (g : Game) (m e : ℕ)
    (h0 : g.scene = .title) (hm : (Game.run rom i g m).scene ≠ .map1)
    (hm' : (Game.run rom i g (m + 1)).scene = .map1) (hme : m < e)
    (hreset : ∀ k, m < k → k ≤ e → (i k).reset = false)
    (hopen : ∀ k, m < k → k < e →
      ¬ ((i k).keycode = 0x28#8 ∧ (Game.walk i (Game.run rom i g) m k).arrived = true)) :
    (∀ k, m < k → k ≤ e → (Game.run rom i g k).scene = .map1) ∧
      (Game.run rom i g e).sprites.walk = Game.walk i (Game.run rom i g) m e ∧
        (Game.run rom i g (e + 1)).scene =
          if (i e).keycode = 0x28#8 ∧ (Game.walk i (Game.run rom i g) m e).arrived = true then
            .map2
          else .map1 := by
  have hg : ∀ n, Game.run rom i g (n + 1) = (Game.run rom i g n).step rom (i n) := fun _ => rfl
  have hm0 : 0 < m := Game.entry_pos hg h0 (.inl hm')
  have hwalk : ∀ n, m < n → (∀ k, m < k → k ≤ n → (Game.run rom i g k).scene = .map1) →
      (Game.run rom i g n).sprites.walk = Game.walk i (Game.run rom i g) m n :=
    fun n hn hon => Game.walk_eq hg hm0 hn hm fun k hk hkn => hon k hk hkn.le
  have hon := Game.stays hme hm' hopen fun n hn hne hon hclosed => by
    rw [← hwalk n hn hon] at hclosed
    rw [Game.scene_map1 hg (hon n hn le_rfl) (hreset n hn hne.le), if_neg hclosed]
  refine ⟨hon, hwalk e hme hon, ?_⟩
  rw [Game.scene_map1 hg (hon e hme le_rfl) (hreset e hme le_rfl), hwalk e hme hon]

/-! Right and up to the door, Enter, and up to the monster. -/

/-- Enter and Z, right for 219 turns and up for 53, Enter, and up. -/
def doorKeys (n : ℕ) : GameInputs where
  reset := false
  keycode :=
    if n = 0 then 0x28#8
    else if n = 1 then 0x1d#8
    else if n < 183120003 then 7#8
    else if n = 227640003 then 0x28#8
    else 26#8

/-- The game with these keys, from power-up. -/
def doorGame : ℕ → Game := Game.run (fun _ => 0#4) doorKeys Game.zero

/-- The turns of this game. -/
theorem doorGame_turns {n : ℕ} (hn : 3 ≤ n) :
    countIn (Game.Ticks doorGame) 2 n = (n + 54397) / 840000 + 1 := by
  have hvs : Game.vs doorGame = fun n => (Vga.scan n).vs := by
    funext n
    exact congrArg Vga.vs (Game.zero_vga _ _ n)
  have hdelay := countIn_delay (Rises fun n => (Vga.scan n).vs) 0 (n - 2) 2
  rw [Nat.sub_add_cancel (by omega), Vga.count_edges_zero (by omega)] at hdelay
  show countIn (fun n => Rises (Game.vs doorGame) (n - 2)) 2 n = _
  simp only [hvs]
  rw [hdelay]
  omega

theorem doorGame_keys : Game.keys doorKeys doorGame 2 227640003 =
    List.replicate 219 7#8 ++ List.replicate 53 26#8 := by
  have hright := doorGame_turns (n := 183120003) (by omega)
  have hup := doorGame_turns (n := 227640003) (by omega)
  have hsplit := countIn_add (p := Game.Ticks doorGame) (show 2 ≤ 183120003 by omega)
    (show 183120003 ≤ 227640003 by omega)
  have hup' : countIn (Game.Ticks doorGame) 183120003 227640003 = 53 := by omega
  rw [Game.keys, sampled_append (b := 183120003) (by omega) (by omega),
    sampled_const (x := 7#8) (by omega) fun n hn hn' => ?_,
    sampled_const (x := 26#8) (by omega) fun n hn hn' => ?_, hright, hup']
  · rw [doorKeys, if_neg (by omega), if_neg (by omega), if_neg (by omega), if_neg (by omega)]
  · rw [doorKeys, if_neg (by omega), if_neg (by omega), if_pos (by omega)]

theorem doorGame_walk : Game.walk doorKeys doorGame 1 227640003 =
    (List.replicate 219 7#8 ++ List.replicate 53 26#8).foldl Walk.step Walk.start := by
  rw [Game.walk, doorGame_keys]

/-- Until Frisk is before the door he does not press Enter. -/
theorem doorKeys_ne {k : ℕ} (hk : 1 < k) (hk' : k ≠ 227640003) :
    (doorKeys k).keycode ≠ 0x28#8 := by
  rw [doorKeys, if_neg (by omega), if_neg (by omega)]
  split
  · decide
  · simp

/-- After the 272 turns of the first map Frisk is before the door, and Enter opens it. -/
theorem Game.walk_shown_door :
    (∀ k, 1 < k → k ≤ 227640003 → (doorGame k).scene = .map1) ∧
      (doorGame 227640003).sprites.walk =
        (List.replicate 219 7#8 ++ List.replicate 53 26#8).foldl Walk.step Walk.start ∧
      (doorGame (227640003 + 1)).scene = .map2 := by
  obtain ⟨hon, hwalk, hnext⟩ := Game.walk_shown (fun _ => 0#4) doorKeys Game.zero 1 227640003 rfl
    Scene.noConfusion rfl (by omega) (fun _ _ _ => rfl)
    fun k hk hk' hopen => doorKeys_ne hk hk'.ne hopen.1
  have hturns : Game.walk doorKeys (Game.run (fun _ => 0#4) doorKeys Game.zero) 1 227640003 = _ :=
    doorGame_walk
  rw [hturns] at hwalk hnext
  exact ⟨hon, hwalk, hnext.trans (if_pos ⟨rfl, Walk.arrived_right_up⟩)⟩

/-- The same for the second map, which Frisk leaves as soon as he has reached the monster. -/
theorem Game.walk2_shown (rom : Rom) (i : ℕ → GameInputs) (g : Game) (m e : ℕ)
    (h0 : g.scene = .title) (hm : (Game.run rom i g m).scene ≠ .map2)
    (hm' : (Game.run rom i g (m + 1)).scene = .map2) (hme : m < e)
    (hreset : ∀ k, m < k → k ≤ e → (i k).reset = false)
    (hopen : ∀ k, m < k → k < e →
      ¬ arrivedMonster 4#4 (Game.walk2 i (Game.run rom i g) m k) = true) :
    (∀ k, m < k → k ≤ e → (Game.run rom i g k).scene = .map2) ∧
      (Game.run rom i g e).sprites.frisk2.unclocked = Game.walk2 i (Game.run rom i g) m e ∧
        (Game.run rom i g (e + 1)).scene =
          if arrivedMonster 4#4 (Game.walk2 i (Game.run rom i g) m e) = true then .battle
          else .map2 := by
  have hg : ∀ n, Game.run rom i g (n + 1) = (Game.run rom i g n).step rom (i n) := fun _ => rfl
  have hm0 : 0 < m := Game.entry_pos hg h0 (.inr hm')
  have hwalk : ∀ n, m < n → (∀ k, m < k → k ≤ n → (Game.run rom i g k).scene = .map2) →
      (Game.run rom i g n).sprites.frisk2.unclocked = Game.walk2 i (Game.run rom i g) m n :=
    fun n hn hon => Game.walk2_eq hg hm0 hn hm fun k hk hkn => hon k hk hkn.le
  have hon := Game.stays hme hm' hopen fun n hn hne hon hclosed => by
    rw [← hwalk n hn hon] at hclosed
    rw [Game.scene_map2 hg (hon n hn le_rfl) (hreset n hn hne.le), if_neg hclosed]
  refine ⟨hon, hwalk e hme hon, ?_⟩
  rw [Game.scene_map2 hg (hon e hme le_rfl) (hreset e hme le_rfl), hwalk e hme hon]

theorem doorGame_map1 {k : ℕ} (hk : 1 < k) (hk' : k ≤ 227640003) :
    (doorGame k).scene = .map1 := by
  refine preserved (P := fun k => (doorGame k).scene = .map1) hk rfl fun l hl hlk ih => ?_
  rw [Game.scene_map1 (g := doorGame) (fun _ => rfl) ih rfl,
    if_neg fun h => doorKeys_ne hl (by omega) h.1]

theorem doorGame_map2 : (doorGame (227640003 + 1)).scene = .map2 := by
  rw [Game.scene_map1 (g := doorGame) (i := doorKeys) (fun _ => rfl)
      (doorGame_map1 (by omega) le_rfl) rfl,
    Game.walk_eq (g := doorGame) (i := doorKeys) (fun _ => rfl) Nat.one_pos (by omega)
      Scene.noConfusion fun k hk hk' => doorGame_map1 hk hk'.le, doorGame_walk]
  exact if_pos ⟨rfl, Walk.arrived_right_up⟩

/-- The turns of the second map. -/
theorem doorGame_keys2 {n : ℕ} (hn : 227640003 + 1 ≤ n) :
    Game.keys doorKeys doorGame (227640003 + 1) n =
      List.replicate ((n + 54397) / 840000 - 271) 26#8 := by
  have hfirst := doorGame_turns (n := 227640003 + 1) (by omega)
  have hall := doorGame_turns (n := n) (by omega)
  have hsplit := countIn_add (p := Game.Ticks doorGame) (show 2 ≤ 227640003 + 1 by omega) hn
  have hcount : countIn (Game.Ticks doorGame) (227640003 + 1) n = (n + 54397) / 840000 - 271 := by
    omega
  rw [Game.keys, sampled_const (x := 26#8) hn fun k hk hk' => ?_, hcount]
  rw [doorKeys, if_neg (by omega), if_neg (by omega), if_neg (by omega), if_neg (by omega)]

/-- 196 turns later he has reached the monster. -/
theorem Game.walk2_shown_monster :
    (∀ k, 227640003 < k → k ≤ 392225603 → (doorGame k).scene = .map2) ∧
      (doorGame 392225603).sprites.frisk2.unclocked =
        (List.replicate 196 26#8).foldl Mover.walk2 (Mover.init friskMove2 ⟨false, false⟩) ∧
      (doorGame (392225603 + 1)).scene = .battle := by
  have hturns : ∀ k, 227640003 < k → Game.walk2 doorKeys doorGame 227640003 k =
      (List.replicate ((k + 54397) / 840000 - 271) 26#8).foldl Mover.walk2
        (Mover.init friskMove2 ⟨false, false⟩) := by
    intro k hk
    rw [Game.walk2, doorGame_keys2 hk]
  obtain ⟨hon, hwalk, hnext⟩ := Game.walk2_shown (fun _ => 0#4) doorKeys Game.zero 227640003
    392225603 rfl (by
      have hmap1 := doorGame_map1 (k := 227640003) (by omega) le_rfl
      rw [show (Game.run (fun _ => 0#4) doorKeys Game.zero 227640003).scene = .map1 from hmap1]
      exact Scene.noConfusion) doorGame_map2 (by omega) (fun _ _ _ => rfl)
    fun k hk hk' harrived => by
      rw [show Game.walk2 doorKeys (Game.run (fun _ => 0#4) doorKeys Game.zero) 227640003 k = _
        from hturns k hk] at harrived
      have hlen := Mover.walk2_turns_le harrived
      rw [List.length_replicate] at hlen
      omega
  have hlast : Game.walk2 doorKeys (Game.run (fun _ => 0#4) doorKeys Game.zero) 227640003
    392225603 = _ := hturns 392225603 (by omega)
  rw [hlast] at hwalk hnext
  exact ⟨hon, hwalk, hnext.trans (if_pos Mover.arrived_up)⟩

end Undertale
