import Undertale.Arena
import Undertale.BulletLanes

/-!
# A battle by itself

What the bullets do in a battle depends on the VGA controller that clocks them, on
the timer that starts them and on where the heart is.  `Battle` is `bullets_move`
with these two modules in a battle that does not end: the status is 5 in every
cycle.  The heart, the difficulty and the free-running counter are inputs.

As long as the scene machine stays in the battle, a run of the arena, read on these
registers, is such a run (`Arena.battle_run`), and its heart stands still between a
frame edge and the tick (`Arena.heart_still`).
-/

namespace Undertale

open Clocked

/-- The registers of a battle. -/
@[ext]
structure Battle where
  vga : Vga
  flower : Flower
  bullets : Bullets

/-- The inputs of a battle in one cycle. -/
structure BattleInputs where
  difficulty : BitVec 2
  counter : BitVec 10
  posXH : BitVec 10
  posYH : BitVec 10

/-- What `bullets_move` samples. -/
def Battle.bulletsInputs (i : BattleInputs) (b : Battle) : BulletsInputs where
  frameClk := b.vga.vs
  counter := i.counter
  status := 5#4
  difficulty := i.difficulty
  posXH := i.posXH
  posYH := i.posYH
  startBullet := b.flower.startBullet

/-- One clock edge of a battle, between cycles with inputs `i` and `i'`. -/
def Battle.step (rom : Rom) (i i' : BattleInputs) (b : Battle) : Battle :=
  let vga := b.vga.step false
  let flower := if b.vga.vs = false ∧ vga.vs = true then b.flower.step 5#4 else b.flower
  { vga := vga
    flower := flower
    bullets := b.bullets.step rom (b.bulletsInputs i)
      (Battle.bulletsInputs i' { vga := vga, flower := flower, bullets := b.bullets }) }

/-- A run of a battle from the registers `b` on the inputs `i`. -/
def Battle.run (rom : Rom) (i : ℕ → BattleInputs) (b : Battle) : ℕ → Battle :=
  Clocked.run (fun n => Battle.step rom (i n) (i (n + 1))) b

/-- All bullets are hidden, at their starting points. -/
structure Battle.Hidden (b : Battle) : Prop where
  showBullet (k : Fin 15) : b.bullets.showBullet k = false
  bullet (k : Fin 15) : b.bullets.bullet k = (lane k).init

/-- The coordinates of the heart. -/
def BattleInputs.heart (i : BattleInputs) : BitVec 10 × BitVec 10 := (i.posXH, i.posYH)

/-- The frame clock of a run. -/
def Battle.vs (b : ℕ → Battle) (n : ℕ) : Bool := (b n).vga.vs

/-- The heart changes right after ticks only, hence not in the two clocks between a
frame edge and its tick. -/
def HeartStill (i : ℕ → BattleInputs) (b : ℕ → Battle) : Prop :=
  ∀ n, Rises (Battle.vs b) n → (i (n + 1)).heart = (i n).heart ∧ (i (n + 2)).heart = (i n).heart

/-! ## The arena in a battle -/

/-- The registers of the arena that a battle has. -/
def Arena.battle (a : Arena) : Battle := ⟨a.vga, a.flower, a.bullets⟩

/-- The inputs the arena gives its battle. -/
def Arena.battleInputs (i : ArenaInputs) (a : Arena) : BattleInputs where
  difficulty := i.difficulty
  counter := i.counter
  posXH := a.heart.posXH
  posYH := a.heart.posYH

section arena
variable {rom : Rom} {i : ℕ → ArenaInputs} {a : ℕ → Arena}
  (ha : ∀ n, a (n + 1) = (a n).step rom (i n))
include ha

/-- An edge within a battle is an edge of the battle by itself. -/
theorem Arena.battle_succ {n : ℕ} (h : (a n).scene = .battle) (h' : (a (n + 1)).scene = .battle) :
    (a (n + 1)).battle =
      (a n).battle.step rom ((a n).battleInputs (i n)) ((a (n + 1)).battleInputs (i (n + 1))) := by
  have hs : (a n).scene.status = 5#4 := Scene.status_eq_five.mpr h
  have hs' : ((a n).scene.step ((a n).stateInputs (i n))).status = 5#4 := by
    rw [ha n] at h'
    exact Scene.status_eq_five.mpr h'
  have hin : (a n).bulletsInputs (i n) = (a n).battle.bulletsInputs ((a n).battleInputs (i n)) := by
    simp only [Arena.bulletsInputs, hs]
    rfl
  rw [ha n]
  refine Battle.ext rfl ?_ ?_
  · simp only [Arena.battle, Arena.step, Battle.step, hs']
    rfl
  · simp only [Arena.battle, Arena.step, Battle.step, hs', hin]
    rfl

/-- In cycles `m` to `m + n` of one battle a run of the arena is a run of it. -/
theorem Arena.battle_run {m n : ℕ} (h : ∀ k, m ≤ k → k ≤ m + n → (a k).scene = .battle) :
    (a (m + n)).battle =
      Battle.run rom (fun k => (a (m + k)).battleInputs (i (m + k))) (a m).battle n := by
  refine preserved (P := fun n => (a (m + n)).battle =
    Battle.run rom (fun k => (a (m + k)).battleInputs (i (m + k))) (a m).battle n)
    (Nat.zero_le n) rfl fun k _ hk ih => ?_
  rw [Battle.run, run_succ, ← Battle.run, ← ih]
  exact Arena.battle_succ ha (h (m + k) (by omega) (by omega)) (h (m + k + 1) (by omega) (by omega))

/-- In a battle the heart does not move between a frame edge and the tick: the
copies the bullets see are two clocks behind a tick, and ticks are as far apart as
frame edges. -/
theorem Arena.heart_still {n : ℕ} (hn : Rises (fun k => (a k).vga.vs) (n + 3))
    (hs : ∀ k, n + 2 ≤ k → k ≤ n + 4 → (a k).scene = .battle) :
    ((a (n + 4)).battleInputs (i (n + 4))).heart = ((a (n + 3)).battleInputs (i (n + 3))).heart ∧
      ((a (n + 5)).battleInputs (i (n + 5))).heart =
        ((a (n + 3)).battleInputs (i (n + 3))).heart := by
  have hvga : ∀ n, (a (n + 1)).vga = (a n).vga.step false := fun n => congrArg Arena.vga (ha n)
  have hheart : ∀ n, (a (n + 1)).heart = (a n).heart.step ((a n).moverInputs (i n)) :=
    fun n => congrArg Arena.heart (ha n)
  have htick : ∀ k, ¬ Rises (fun k => (a k).vga.vs) k →
      (a (k + 2)).heart.mover.frameClk.risingEdge = false := fun k hk =>
    risingEdge_eq_false (e := fun k => (a k).heart.mover.frameClk)
      (fun n => by rw [hheart n]; exact Mover.step_frameClk _ _ _) hk
  have hquiet : ∀ k, 0 < k → k ≤ 3 → ¬ Rises (fun k => (a k).vga.vs) (n + 3 - k) := by
    intro k hk hk' hrise
    have := Vga.rises_apart hvga hrise hn (by omega)
    omega
  have hstatus : ∀ k, n + 2 ≤ k → k ≤ n + 4 → ((a k).moverInputs (i k)).status = 5#4 :=
    fun k hk hk' => Scene.status_eq_five.mpr (hs k hk hk')
  have hpos : ∀ k, n + 2 ≤ k → k ≤ n + 3 →
      (a (k + 1)).heart.mover.xPos = (a k).heart.mover.xPos ∧
        (a (k + 1)).heart.mover.yPos = (a k).heart.mover.yPos := by
    intro k hk hk'
    obtain ⟨j, rfl⟩ : ∃ j, k = j + 2 := ⟨k - 2, by omega⟩
    have hno : ¬ Rises (fun k => (a k).vga.vs) j := by
      have h := hquiet (n + 3 - j) (by omega) (by omega)
      rwa [show n + 3 - (n + 3 - j) = j by omega] at h
    rw [hheart (j + 2), Heart.step_mover,
      Mover.step_idle (p := heartMove) (hstatus (j + 2) hk (by omega)) (htick j hno)]
    exact ⟨rfl, rfl⟩
  have hcopy : ∀ k, n + 2 ≤ k → k ≤ n + 4 →
      ((a (k + 1)).battleInputs (i (k + 1))).heart =
        ((a k).heart.mover.xPos, (a k).heart.mover.yPos) := by
    intro k hk hk'
    show ((a (k + 1)).heart.posXH, (a (k + 1)).heart.posYH) = _
    rw [hheart k, Heart.step_posXH (hstatus k hk hk'), Heart.step_posYH (hstatus k hk hk')]
  obtain ⟨hx, hy⟩ := hpos (n + 2) le_rfl (by omega)
  obtain ⟨hx', hy'⟩ := hpos (n + 3) (by omega) le_rfl
  rw [hcopy (n + 2) le_rfl (by omega), hcopy (n + 3) (by omega) (by omega),
    hcopy (n + 4) (by omega) le_rfl, hx', hy', hx, hy]
  exact ⟨rfl, rfl⟩

end arena

/-! ## The registers of a battle, one edge on -/

section run
variable {rom : Rom} {i : ℕ → BattleInputs} {b : ℕ → Battle}
  (hb : ∀ n, b (n + 1) = (b n).step rom (i n) (i (n + 1)))
include hb

theorem Battle.vga_succ (n : ℕ) : (b (n + 1)).vga = (b n).vga.step false :=
  congrArg Battle.vga (hb n)

theorem Battle.bullets_succ (n : ℕ) :
    (b (n + 1)).bullets =
      (b n).bullets.step rom ((b n).bulletsInputs (i n))
        ((b (n + 1)).bulletsInputs (i (n + 1))) := by
  rw [hb n]
  rfl

theorem Battle.flower_rises {n : ℕ} (h : Rises (Battle.vs b) n) :
    (b (n + 1)).flower = (b n).flower.step 5#4 := by
  have hvs : (b n).vga.vs = false ∧ ((b n).vga.step false).vs = true := by
    rw [← Battle.vga_succ hb n]; exact h
  rw [hb n]
  exact if_pos hvs

theorem Battle.flower_holds {n : ℕ} (h : ¬ Rises (Battle.vs b) n) :
    (b (n + 1)).flower = (b n).flower := by
  have hvs : ¬ ((b n).vga.vs = false ∧ ((b n).vga.step false).vs = true) := by
    rw [← Battle.vga_succ hb n]; exact h
  rw [hb n]
  exact if_neg hvs

theorem Battle.apart {m n : ℕ} (hm : Rises (Battle.vs b) m) (hn : Rises (Battle.vs b) n)
    (hmn : m < n) : m + 6 ≤ n :=
  Vga.rises_apart (r := fun n => (b n).vga) (Battle.vga_succ hb) hm hn hmn

/-- A battle that starts with its timer cleared has it on the timeline. -/
theorem Battle.flower_eq (h0 : (b 0).flower = Flower.clear) (n : ℕ) :
    (b n).flower = Flower.timeline (countIn (Rises (Battle.vs b)) 0 n) := by
  induction n with
  | zero => rw [h0, countIn_self, Flower.timeline_zero]
  | succ n ih =>
      rw [countIn_succ (Nat.zero_le n)]
      rcases Classical.em (Rises (Battle.vs b) n) with h | h
      · rw [Battle.flower_rises hb h, ih, if_pos h, Flower.step_timeline]
      · rw [Battle.flower_holds hb h, ih, if_neg h, Nat.add_zero]

/-- The detector flags a frame edge two clocks later. -/
theorem Battle.tick_iff (n : ℕ) :
    (b (n + 2)).bullets.frameClk.risingEdge = true ↔ Rises (Battle.vs b) n :=
  risingEdge_iff (v := Battle.vs b) (e := fun n => (b n).bullets.frameClk)
    (fun n => by rw [Battle.bullets_succ hb n, Bullets.step_frameClk]; rfl) n

/-- One clock after a frame edge there is no tick. -/
theorem Battle.no_tick_succ {n : ℕ} (h : Rises (Battle.vs b) n) :
    (b (n + 1)).bullets.frameClk.risingEdge = false := by
  rw [Battle.bullets_succ hb n, Bullets.step_frameClk]
  show ((b n).vga.vs && _) = false
  rw [show (b n).vga.vs = false from h.1]
  rfl

/-- At a frame edge there is no tick, except perhaps one left over from before the
battle. -/
theorem Battle.no_tick {n : ℕ} (h : Rises (Battle.vs b) (n + 2)) :
    (b (n + 2)).bullets.frameClk.risingEdge = false := by
  rw [← Bool.not_eq_true, Battle.tick_iff hb]
  intro hn
  have := Battle.apart hb hn h (by omega)
  omega

end run

end Undertale
