import Undertale.Battle
import Mathlib.Tactic.Linarith

/-!
# What a hit does

A frame edge takes one HP if some lane is near the heart, and the tick after it
hides the lane that the else-if chain has settled on.  The chain does not ask
whether a lane is in view.  For a heart in its field this is harmless: a lane that
is hidden is at its starting point, far from the field, so that only bullets in
view hit, and each of them once (`Battle.hit_once`).
-/

namespace Undertale

open Clocked

/-! ## The lane that hits -/

theorem hitLane_eq_some {heart : BitVec 10 × BitVec 10}
    {position : Fin 15 → BitVec 10 × BitVec 10} {k : Fin 15} :
    hitLane heart position = some k ↔
      sqDist (position k) heart ≤ 169 ∧ ∀ j, j < k → ¬ sqDist (position j) heart ≤ 169 := by
  rw [hitLane, ← Fin.find?_eq_find?_finRange, Fin.find?_eq_some_iff]
  simp only [decide_eq_true_eq, decide_eq_false_iff_not]

theorem hitLane_eq_none {heart : BitVec 10 × BitVec 10}
    {position : Fin 15 → BitVec 10 × BitVec 10} :
    hitLane heart position = none ↔ ∀ k, ¬ sqDist (position k) heart ≤ 169 := by
  rw [hitLane, ← Fin.find?_eq_find?_finRange, Fin.find?_eq_none_iff]
  simp only [decide_eq_false_iff_not]

/-- A collision flag, by the distances. -/
theorem Bullets.collide_eq (posXH posYH : BitVec 10) (r : Bullets) (k : Fin 15) :
    r.collide posXH posYH k = (hitLane (posXH, posYH) r.position == some k) := by
  rw [← Bullets.firstNear_eq]
  rfl

/-! ## The field -/

/-- The field the heart is confined to. -/
structure InField (p : BitVec 10 × BitVec 10) : Prop where
  left : 251 ≤ p.1.toNat
  right : p.1.toNat ≤ 390
  top : 252 ≤ p.2.toNat
  bottom : p.2.toNat ≤ 366

/-- Positions more than 13 apart in a coordinate are not near. -/
theorem not_near_of_apart {p q : BitVec 10 × BitVec 10}
    (h : (p.1.toNat + 13 < q.1.toNat ∨ q.1.toNat + 13 < p.1.toNat) ∨
      p.2.toNat + 13 < q.2.toNat ∨ q.2.toNat + 13 < p.2.toNat) : ¬ sqDist p q ≤ 169 := by
  unfold sqDist
  have hx := mul_self_nonneg ((p.1.toNat : ℤ) - q.1.toNat)
  have hy := mul_self_nonneg ((p.2.toNat : ℤ) - q.2.toNat)
  rcases h with (h | h) | h | h
  · nlinarith
  · nlinarith
  · nlinarith
  · nlinarith

/-- No lane starts near the field. -/
theorem laneInit_not_near {k : Fin 15} {heart : BitVec 10 × BitVec 10} (h : InField heart) :
    ¬ sqDist (laneInit k) heart ≤ 169 := by
  obtain ⟨h1, h2, h3, h4⟩ := h
  have hinit : (laneInit k).1.toNat + 13 < 251 ∨ 390 + 13 < (laneInit k).1.toNat ∨
      (laneInit k).2.toNat + 13 < 252 := by
    revert k; decide
  refine not_near_of_apart ?_
  omega

/-! ## Lanes at their starting points -/

/-- A clock leaves a bullet that has just been put to its starting point there. -/
theorem Lane.pos_step_init (k : Fin 15) (status : BitVec 4) (risingEdge shown : Bool)
    (difficulty : BitVec 2) :
    (lane k).pos ((lane k).step status risingEdge shown difficulty (lane k).init) = laneInit k := by
  rw [← Lane.pos_init k, Lane.step]
  split
  · rfl
  · cases risingEdge with
    | false => rfl
    | true =>
        -- the motion registers are still zero
        have hx : (lane k).init.xPos + (lane k).init.xMotion = (lane k).init.xPos :=
          BitVec.add_zero _
        have hy : (lane k).init.yPos + (lane k).init.yMotion = (lane k).init.yPos :=
          BitVec.add_zero _
        simp only [if_true, hx, hy]
        rfl

section run
variable {rom : Rom} {i : ℕ → BattleInputs} {b : ℕ → Battle}
  (hb : ∀ n, b (n + 1) = (b n).step rom (i n) (i (n + 1)))
include hb

theorem Battle.position_hidden {n : ℕ} {k : Fin 15} (h : (b n).bullets.showBullet k = false) :
    (b (n + 1)).bullets.position k = laneInit k := by
  rw [Battle.bullets_succ hb n]
  exact Bullets.step_position_hidden h

/-- A lane in view was so before the clock, or comes into view at a tick. -/
theorem Battle.showBullet_succ {n : ℕ} {k : Fin 15}
    (ht : (b n).bullets.frameClk.risingEdge = false) :
    (b (n + 1)).bullets.showBullet k =
      ((b n).flower.startBullet && (b n).bullets.showBullet k) := by
  rw [Battle.bullets_succ hb n, Bullets.step_showBullet]
  cases hstart : (b n).flower.startBullet with
  | false => simp [Battle.bulletsInputs, hstart]
  | true => simp [Battle.bulletsInputs, hstart, Bullets.showBulletIn, ht]

/-- No lane is in view unless the bullets had started a clock before. -/
theorem Battle.startBullet_of_shown {n : ℕ} {k : Fin 15}
    (h : (b (n + 1)).bullets.showBullet k = true) : (b n).flower.startBullet = true := by
  rw [Battle.bullets_succ hb n, Bullets.step_showBullet] at h
  cases hstart : (b n).flower.startBullet with
  | true => rfl
  | false => simp [Battle.bulletsInputs, hstart] at h

/-- Two clocks after a frame edge that finds the bullets started, the lanes stand
where they did one clock after it. -/
theorem Battle.home_of_rises {n : ℕ} (hn : Rises (Battle.vs b) (n + 2))
    (hstart : (b (n + 2)).flower.startBullet = true) :
    (b (n + 3)).bullets.Home ∧
      (b (n + 4)).bullets.position = (b (n + 3)).bullets.position := by
  have hhome : (b (n + 3)).bullets.Home := by
    rw [Battle.bullets_succ hb (n + 2)]
    exact Bullets.step_home rfl (Battle.no_tick hb hn) hstart
  refine ⟨hhome, ?_⟩
  rw [Battle.bullets_succ hb (n + 3)]
  exact Bullets.step_position_quiet rfl (Battle.no_tick_succ hb hn) hhome

/-- A frame edge takes one HP if some lane is near the heart. -/
theorem Battle.hp_rises {n : ℕ} (h : Rises (Battle.vs b) n) :
    (b (n + 1)).bullets.hp =
      if (hitLane (i (n + 1)).heart (b (n + 1)).bullets.position).isSome then
        (b n).bullets.hp - 1#4
      else (b n).bullets.hp := by
  have hstep := Bullets.step_hp rom ((b n).bulletsInputs (i n))
    ((b (n + 1)).bulletsInputs (i (n + 1))) (b n).bullets
  rw [← Battle.bullets_succ hb n] at hstep
  refine hstep.trans ((if_pos h).trans ?_)
  show nextHP 5#4 (isCollide _) _ = _
  rw [nextHP_battle, Bullets.firstNear_eq]
  rfl

/-! ## One hit for each bullet -/

/-- The collision flag of lane `k` is up at the frame edge `n`, which sees the values
the edge has loaded. -/
def Battle.Hits (i : ℕ → BattleInputs) (b : ℕ → Battle) (k : Fin 15) (n : ℕ) : Prop :=
  Rises (Battle.vs b) n ∧
    (b (n + 1)).bullets.collide (i (n + 1)).posXH (i (n + 1)).posYH k = true

omit hb in
theorem Battle.Hits.hitLane {k : Fin 15} {n : ℕ} (h : Battle.Hits i b k n) :
    Undertale.hitLane (i (n + 1)).heart (b (n + 1)).bullets.position = some k := by
  have hcollide := h.2
  rw [Bullets.collide_eq] at hcollide
  exact beq_iff_eq.mp hcollide

section field
variable (h0 : (b 0).Hidden) (hfield : ∀ n, InField (i n).heart)
include h0 hfield

/-- A lane that hits is in view, and has been for some time. -/
theorem Battle.Hits.shown {k : Fin 15} {n : ℕ} (h : Battle.Hits i b k n) :
    2 ≤ n ∧ (b n).bullets.showBullet k = true := by
  have hnear : sqDist ((b (n + 1)).bullets.position k) (i (n + 1)).heart ≤ 169 :=
    (hitLane_eq_some.mp h.hitLane).1
  have hfar : (b (n + 1)).bullets.position k ≠ laneInit k := by
    intro he
    rw [he] at hnear
    exact laneInit_not_near (hfield (n + 1)) hnear
  have hshown : (b n).bullets.showBullet k = true := by
    cases hk : (b n).bullets.showBullet k with
    | true => rfl
    | false => exact absurd (Battle.position_hidden hb hk) hfar
  refine ⟨?_, hshown⟩
  rcases n with _ | _ | n
  · rw [h0.showBullet k] at hshown
    cases hshown
  · -- one clock after the entry the lane is still at its starting point
    refine absurd ?_ hfar
    have hinit : (b 1).bullets.bullet k = (lane k).init := by
      rw [Battle.bullets_succ hb 0, Bullets.step_bullet, Lane.step,
        if_pos (.inr (.inr (h0.showBullet k)))]
    rw [Battle.bullets_succ hb 1, Bullets.position, Bullets.step_bullet, hinit]
    exact Lane.pos_step_init k _ _ _ _
  · omega

/-- A lane that hits is in view where the edge tests it, too. -/
theorem Battle.Hits.shown_succ {k : Fin 15} {n : ℕ} (h : Battle.Hits i b k n) :
    (b n).flower.startBullet = true ∧ (b (n + 1)).bullets.showBullet k = true := by
  obtain ⟨hn, hshown⟩ := h.shown hb h0 hfield
  obtain ⟨m, rfl⟩ : ∃ m, n = m + 2 := ⟨n - 2, by omega⟩
  have hstart : (b (m + 2)).flower.startBullet = true := by
    have hno : ¬ Rises (Battle.vs b) (m + 1) := fun hr => by
      have := Battle.apart hb hr h.1 (by omega)
      omega
    rw [Battle.flower_holds hb hno]
    exact Battle.startBullet_of_shown hb hshown
  refine ⟨hstart, ?_⟩
  rw [Battle.showBullet_succ hb (Battle.no_tick hb h.1), hstart, hshown]
  rfl

/-- The tick after a hit hides the lane. -/
theorem Battle.Hits.hidden (hstill : HeartStill i b) {k : Fin 15} {n : ℕ}
    (h : Battle.Hits i b k n) : (b (n + 3)).bullets.showBullet k = false := by
  obtain ⟨hn, -⟩ := h.shown hb h0 hfield
  obtain ⟨hstart, -⟩ := h.shown_succ hb h0 hfield
  obtain ⟨m, rfl⟩ : ∃ m, n = m + 2 := ⟨n - 2, by omega⟩
  obtain ⟨-, hpos⟩ := Battle.home_of_rises hb h.1 hstart
  have hheart : (i (m + 4)).heart = (i (m + 3)).heart :=
    (hstill (m + 2) h.1).2.trans (hstill (m + 2) h.1).1.symm
  have htick : (b (m + 4)).bullets.frameClk.risingEdge = true :=
    (Battle.tick_iff hb (m + 2)).mpr h.1
  have hcollide : (b (m + 4)).bullets.collide (i (m + 4)).posXH (i (m + 4)).posYH k = true := by
    rw [Bullets.collide_eq, hpos]
    show (Undertale.hitLane (i (m + 4)).heart _ == some k) = true
    rw [hheart, h.hitLane]
    exact beq_self_eq_true _
  rw [Battle.bullets_succ hb (m + 4), Bullets.step_showBullet]
  split
  · rfl
  · rw [Bullets.showBulletIn, htick, if_pos rfl]
    have hin : (Battle.bulletsInputs (i (m + 4)) (b (m + 4))).posXH = (i (m + 4)).posXH := rfl
    have hin' : (Battle.bulletsInputs (i (m + 4)) (b (m + 4))).posYH = (i (m + 4)).posYH := rfl
    rw [hin, hin', hcollide, Bool.or_true, if_pos rfl]

/-- Between two hits of a lane it comes into view again. -/
theorem Battle.Hits.exists_rises (hstill : HeartStill i b) {k : Fin 15} {m n : ℕ}
    (hm : Battle.Hits i b k m) (hn : Battle.Hits i b k n) (hmn : m < n) :
    ∃ j, m < j ∧ j < n ∧ Rises (fun j => (b j).bullets.showBullet k) j := by
  have hapart := Battle.apart hb hm.1 hn.1 hmn
  obtain ⟨j, hj, hjn, hrise⟩ := Clocked.exists_rises (v := fun j => (b j).bullets.showBullet k)
    (by omega : m + 3 ≤ n) (hm.hidden hb h0 hfield hstill) (hn.shown hb h0 hfield).2
  exact ⟨j, by omega, hjn, hrise⟩

end field

end run

/-- In every battle that starts with all bullets hidden, with a heart in its field
that moves after ticks only, a lane whose collision flag is up at a frame edge is in
view, and between two consecutive rises of its show flag, and after the last one,
there is at most one such edge. -/
theorem Battle.hit_once (rom : Rom) (i : ℕ → BattleInputs) (b : Battle) (h0 : b.Hidden)
    (hfield : ∀ n, InField (i n).heart) (hstill : HeartStill i (Battle.run rom i b)) (k : Fin 15) :
    let r := Battle.run rom i b
    let shown := fun n => (r n).bullets.showBullet k
    (∀ n, Battle.Hits i r k n → shown n = true ∧ shown (n + 1) = true) ∧
      ∀ s t, Rises shown s → (∀ j, s < j → j < t → ¬ Rises shown j) →
        ∀ m n, s ≤ m → m ≤ t → s ≤ n → n ≤ t → Battle.Hits i r k m → Battle.Hits i r k n →
          m = n := by
  intro r shown
  have hb : ∀ n, r (n + 1) = (r n).step rom (i n) (i (n + 1)) := fun _ => rfl
  refine ⟨fun n hn => ⟨(hn.shown hb h0 hfield).2, (hn.shown_succ hb h0 hfield).2⟩, ?_⟩
  intro s t _ hno m n hsm hmt hsn hnt hm hn
  rcases Nat.lt_trichotomy m n with hlt | heq | hlt
  · obtain ⟨j, hmj, hjn, hj⟩ := hm.exists_rises hb h0 hfield hstill hn hlt
    exact absurd hj (hno j (by omega) (by omega))
  · exact heq
  · obtain ⟨j, hnj, hjm, hj⟩ := hn.exists_rises hb h0 hfield hstill hm hlt
    exact absurd hj (hno j (by omega) (by omega))

/-- The registers of a battle at its entry, with `vga` in the VGA controller. -/
def Battle.entry (vga : Vga) : Battle where
  vga := vga
  flower := Flower.clear
  bullets :=
    { hp := 5#4
      bulletShape := false
      bAddress := 0#10
      inCounter := 0#6
      showBullet := fun _ => false
      bullet := fun k => (lane k).init
      frameClk := ⟨false, false⟩ }

theorem Battle.entry_hidden (vga : Vga) : (Battle.entry vga).Hidden := ⟨fun _ => rfl, fun _ => rfl⟩

/-- What a battle has at its entry. -/
structure Battle.Entered (b : Battle) : Prop where
  hidden : b.Hidden
  flower : b.flower = Flower.clear
  hp : b.bullets.hp = 5#4

theorem Battle.entry_entered (vga : Vga) : (Battle.entry vga).Entered :=
  ⟨Battle.entry_hidden vga, rfl, rfl⟩

/-- A heart that is held in the middle of the field. -/
def heldHeart (_ : ℕ) : BattleInputs where
  difficulty := 2#2
  counter := 0#10
  posXH := 319#10
  posYH := 317#10

theorem heldHeart_inField (n : ℕ) : InField (heldHeart n).heart where
  left := show 251 ≤ (319#10).toNat by decide
  right := show (319#10).toNat ≤ 390 by decide
  top := show 252 ≤ (317#10).toNat by decide
  bottom := show (317#10).toNat ≤ 366 by decide

/-- A battle in which only lane 4 is shown, against this heart. -/
theorem Battle.hit_once_held :
    let r := Battle.run (fun _ => 4#4) heldHeart (Battle.entry Vga.init)
    let shown := fun n => (r n).bullets.showBullet 4
    (∀ n, Battle.Hits heldHeart r 4 n → shown n = true ∧ shown (n + 1) = true) ∧
      ∀ s t, Rises shown s → (∀ j, s < j → j < t → ¬ Rises shown j) →
        ∀ m n, s ≤ m → m ≤ t → s ≤ n → n ≤ t → Battle.Hits heldHeart r 4 m →
          Battle.Hits heldHeart r 4 n → m = n :=
  Battle.hit_once (fun _ => 4#4) heldHeart (Battle.entry Vga.init) (Battle.entry_hidden Vga.init)
    heldHeart_inField (fun _ _ => ⟨rfl, rfl⟩) 4

end Undertale
