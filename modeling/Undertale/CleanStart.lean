import Undertale.Arena
import Undertale.Reachable

/-!
# Every battle starts clean

Nothing but the scene machine sees the player's reset.  The registers on `Clk`
are at their starting values in every cycle outside the battle.  The registers
on the frame clock are cleared at frame edges outside it, and between two battles
there is one (`Core.frame_before_enters`), however short the stay.
-/

namespace Undertale

open Clocked

/-- The registers of a battle in its first cycle. -/
structure Arena.Fresh (a : Arena) : Prop where
  hp : a.bullets.hp = 5#4
  timeUp : a.flower.timeUp = false
  startBullet : a.flower.startBullet = false
  counter : a.flower.counter = 0#12
  flowerNum : a.flower.flowerNum = 0#3
  inCounter : a.bullets.inCounter = 0#6
  bAddress : a.bullets.bAddress = 0#10
  showBullet (k : Fin 15) : a.bullets.showBullet k = false
  bullet (k : Fin 15) : a.bullets.bullet k = (lane k).init
  heartX : a.heart.mover.xPos = 319#10
  heartY : a.heart.mover.yPos = 317#10

section run
variable {rom : Rom} {i : ℕ → ArenaInputs} {a : ℕ → Arena}
  (ha : ∀ n, a (n + 1) = (a n).step rom (i n))
include ha

theorem Arena.core_succ (n : ℕ) :
    (a (n + 1)).core = (a n).core.step ((a n).coreInputs rom (i n)) := by
  rw [ha n]
  exact Arena.core_step rom (i n) (a n)

/-- An edge out of another scene leaves the lanes and the heart at their starting
points. -/
theorem Arena.lanes_outside {n : ℕ} (h : (a n).scene ≠ .battle) :
    (a (n + 1)).bullets.showBullet = (fun _ => false) ∧
      (a (n + 1)).bullets.bullet = (fun k => (lane k).init) ∧
        (a (n + 1)).heart.mover.AtInit heartMove := by
  have hs : (a n).scene.status ≠ 5#4 := fun hs => h (Scene.status_eq_five.mp hs)
  rw [ha n]
  obtain ⟨hshow, hbullet⟩ := Bullets.step_lanes_outside rom ((a n).bulletsInputs (i n)) _
    (a n).bullets hs
  refine ⟨hshow, hbullet, ?_⟩
  show ((a n).heart.mover.step heartMove _).AtInit heartMove
  rw [Mover.step_outside hs]
  exact Mover.atInit_init heartMove _

/-- A frame edge that finds another scene clears the registers of the frame clock
in `bullets_move`. -/
theorem Arena.frameRegs_rises {n : ℕ} (hr : Rises (fun k => (a k).vga.vs) n)
    (h : (a (n + 1)).scene ≠ .battle) :
    (a (n + 1)).bullets.frameRegs = (5#4, false, 0#10, 0#6) := by
  have hs : (a (n + 1)).scene.status ≠ 5#4 := fun hs => h (Scene.status_eq_five.mp hs)
  have hvs : (a n).vga.vs = false ∧ (a (n + 1)).vga.vs = true := hr
  rw [ha n] at hs hvs ⊢
  exact Bullets.step_frameRegs_outside _ _ _ _ hvs hs

/-- Between frame edges they hold. -/
theorem Arena.frameRegs_holds {n : ℕ} (hr : ¬ Rises (fun k => (a k).vga.vs) n) :
    (a (n + 1)).bullets.frameRegs = (a n).bullets.frameRegs := by
  have hvs : ¬ ((a n).vga.vs = false ∧ (a (n + 1)).vga.vs = true) := hr
  rw [ha n] at hvs ⊢
  exact Bullets.step_frameRegs_hold _ _ _ _ hvs

/-- An entry into the battle finds them clear and leaves them so. -/
theorem Arena.frameRegs_of_enters (h0 : (a 0).scene ≠ .map2) {n : ℕ}
    (h : Core.Enters (fun k => (a k).core) n) :
    (a (n + 1)).bullets.frameRegs = (5#4, false, 0#10, 0#6) := by
  obtain ⟨⟨m, hmn, hm, hafter⟩, hno⟩ := Core.frame_before_enters (Arena.core_succ ha) h0 h
  have hout : ∀ k, m < k → k ≤ n → (a k).scene ≠ .battle := by
    intro k hk hkn hb
    have hmap2 : (a k).scene = .map2 := hafter k hk hkn
    rw [hmap2] at hb
    cases hb
  rw [Arena.frameRegs_holds ha hno]
  exact eq_of_rises (r := fun k => (a k).bullets.frameRegs) hm hmn
    (fun k hk hkn hr => Arena.frameRegs_rises ha hr (hout _ (by omega) (Nat.succ_le_of_lt hkn)))
    (fun k _ _ hr => Arena.frameRegs_holds ha hr)

end run

/-- In every run from the title, whatever the other registers hold at its start,
every battle starts clean. -/
theorem Arena.fresh_of_enters (rom : Rom) (i : ℕ → ArenaInputs) (a : Arena)
    (h0 : a.scene = .title) (n : ℕ) (hn : (Arena.run rom i a n).scene ≠ .battle)
    (hn' : (Arena.run rom i a (n + 1)).scene = .battle) : (Arena.run rom i a (n + 1)).Fresh := by
  have ha : ∀ n, Arena.run rom i a (n + 1) = (Arena.run rom i a n).step rom (i n) := fun _ => rfl
  have h0' : (Arena.run rom i a 0).scene ≠ .map2 := Scene.ne_map2 h0
  have hent : Core.Enters (fun k => (Arena.run rom i a k).core) n := ⟨hn, hn'⟩
  obtain ⟨-, hflower, -⟩ := Core.clear_of_enters (Arena.core_succ ha) h0' hent
  have hflower' : (Arena.run rom i a (n + 1)).flower = Flower.clear := hflower
  have hregs := Arena.frameRegs_of_enters ha h0' hent
  obtain ⟨hshow, hbullet, hx, hy⟩ := Arena.lanes_outside ha hn
  exact
    { hp := congrArg (fun r => r.1) hregs
      timeUp := by rw [hflower']; rfl
      startBullet := by rw [hflower']; rfl
      counter := by rw [hflower']; rfl
      flowerNum := by rw [hflower']; rfl
      inCounter := congrArg (fun r => r.2.2.2) hregs
      bAddress := congrArg (fun r => r.2.2.1) hregs
      showBullet := congrFun hshow
      bullet := congrFun hbullet
      heartX := hx
      heartY := hy }

/-- The keys into the battle. -/
def arenaInputs (n : ℕ) : ArenaInputs where
  reset := false
  keycode := battleKeys n
  arrivedDoor := true
  difficulty := 1#2
  counter := 0#10

/-- From power-up there is a battle, and it starts clean. -/
theorem Arena.zero_fresh :
    ∃ n, (Arena.run (fun _ => 0#4) arenaInputs Arena.zero (n + 1)).Fresh := by
  obtain ⟨n, hn, hn'⟩ := Core.exists_enters
    (c := fun k => (Arena.run (fun _ => 0#4) arenaInputs Arena.zero k).core)
    (Arena.core_succ (a := Arena.run (fun _ => 0#4) arenaInputs Arena.zero) (fun _ => rfl)) rfl
    (fun _ => rfl) rfl (fun _ => rfl)
  exact ⟨n, Arena.fresh_of_enters (fun _ => 0#4) arenaInputs Arena.zero rfl n hn hn'⟩

end Undertale
