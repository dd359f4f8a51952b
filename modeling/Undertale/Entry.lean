import Undertale.Core

/-!
# Entering the battle

HP, the timer and the ROM address are cleared only at a frame edge that finds
another scene, so it matters that one happens between two battles.  It does: the
way into the battle leads through the second map, and Frisk does not reach the
monster there before the frame clock has risen (`Mover.atInit_of_no_rises`).

The entry itself falls between two frame edges.  Frisk reaches the monster in a
tick, two clocks after the frame clock has risen, and the scene changes one clock
later.  The frame clock moves at every other clock only, so it does not rise at
that edge.
-/

namespace Undertale

open Clocked

section run
variable {i : ℕ → CoreInputs} {c : ℕ → Core}

/-- The frame clock of a run. -/
def Core.vs (c : ℕ → Core) (n : ℕ) : Bool := (c n).vga.vs

/-- The battle is entered at edge `n`. -/
def Core.Enters (c : ℕ → Core) (n : ℕ) : Prop :=
  (c n).scene ≠ .battle ∧ (c (n + 1)).scene = .battle

variable (hc : ∀ n, c (n + 1) = (c n).step (i n))
include hc

/-! ## The registers, one edge on -/

theorem Core.scene_succ (n : ℕ) : (c (n + 1)).scene = (c n).scene.step ((c n).stateInputs (i n)) :=
  congrArg Core.scene (hc n)

theorem Core.frisk2_succ (n : ℕ) :
    (c (n + 1)).frisk2 = (c n).frisk2.step friskMove2 ((c n).moverInputs (i n)) :=
  congrArg Core.frisk2 (hc n)

theorem Core.vga_succ (n : ℕ) : (c (n + 1)).vga = (c n).vga.step false :=
  congrArg Core.vga (hc n)

theorem Core.flower_rises {n : ℕ} (h : Rises (Core.vs c) n) :
    (c (n + 1)).flower = (c n).flower.step (c (n + 1)).scene.status := by
  have hvs : (c n).vga.vs = false ∧ ((c n).vga.step false).vs = true := by
    rw [← Core.vga_succ hc n]; exact h
  rw [hc n]
  exact if_pos hvs

theorem Core.hp_rises {n : ℕ} (h : Rises (Core.vs c) n) :
    (c (n + 1)).hp = nextHP (c (n + 1)).scene.status (isCollide (i n).near) (c n).hp := by
  have hvs : (c n).vga.vs = false ∧ ((c n).vga.step false).vs = true := by
    rw [← Core.vga_succ hc n]; exact h
  rw [hc n]
  exact if_pos hvs

/-- Between frame edges the registers of the frame clock hold. -/
theorem Core.holds {n : ℕ} (h : ¬ Rises (Core.vs c) n) :
    (c (n + 1)).flower = (c n).flower ∧ (c (n + 1)).hp = (c n).hp := by
  have hvs : ¬ ((c n).vga.vs = false ∧ ((c n).vga.step false).vs = true) := by
    rw [← Core.vga_succ hc n]; exact h
  rw [hc n]
  exact ⟨if_neg hvs, if_neg hvs⟩

/-- What becomes of a battle. -/
theorem Core.scene_battle {n : ℕ} (h : (c n).scene = .battle) (hreset : (i n).reset = false) :
    (c (n + 1)).scene =
      if (c n).hp = 0#4 then .lose
      else if (c n).flower.timeUp = true then .win else .battle := by
  rw [Core.scene_succ hc n, h]
  exact Scene.step_battle hreset

/-! ## What an entry needs -/

/-- The battle is entered with Frisk at the monster. -/
theorem Core.map2_of_enters {n : ℕ} (h : Core.Enters c n) :
    (c n).scene = .map2 ∧ arrivedMonster 4#4 (c n).frisk2 = true ∧ (i n).reset = false := by
  obtain ⟨hn, hn'⟩ := h
  rw [Core.scene_succ hc n] at hn'
  obtain ⟨hreset, ⟨hb, -⟩ | ⟨hm, ha⟩⟩ := Scene.step_eq_battle hn'
  · exact absurd hb hn
  · refine ⟨hm, ?_, hreset⟩
    rw [Core.stateInputs, hm] at ha
    exact ha

/-- On the way to the monster the frame clock has risen. -/
theorem Core.rises_of_map2 {a n : ℕ} (han : a < n) (ha : (c a).scene ≠ .map2)
    (h : arrivedMonster 4#4 (c n).frisk2 = true) :
    a + 2 < n ∧ ∃ m, a ≤ m ∧ m < n ∧ Rises (Core.vs c) m := by
  have hstatus : ((c a).moverInputs (i a)).status ≠ friskMove2.status := by
    intro hs
    exact ha (Scene.status_eq_four.mp hs)
  have hinit : ∀ n', (∀ k, a ≤ k → k < n' → ¬ Rises (Core.vs c) k) → n ≤ n' + 2 → False := by
    intro n' hno hn
    exact not_arrivedMonster_of_atInit (Mover.atInit_of_no_rises (r := fun k => (c k).frisk2)
      (i := fun k => (c k).moverInputs (i k)) friskMove2_unitStep friskMove2_initInside
      (Core.frisk2_succ hc) hstatus hno han hn) h
  constructor
  · by_contra hle
    exact hinit a (fun k hk hk' => absurd hk' (Nat.not_lt.mpr hk)) (by omega)
  · by_contra hno
    exact hinit n (fun k hk hk' hr => hno ⟨k, hk, hk', hr⟩) (by omega)

/-- Every entry into the battle has a frame edge before it with no scene but the
second map in between, and falls between two frame edges. -/
theorem Core.frame_before_enters (h0 : (c 0).scene ≠ .map2) {n : ℕ} (h : Core.Enters c n) :
    (∃ m, m < n ∧ Rises (Core.vs c) m ∧ ∀ k, m < k → k ≤ n → (c k).scene = .map2) ∧
      ¬ Rises (Core.vs c) n := by
  obtain ⟨hmap2, harr, -⟩ := Core.map2_of_enters hc h
  obtain ⟨a, han, ha, hafter⟩ := exists_last_entry (P := fun k => (c k).scene = .map2) h0 hmap2
  obtain ⟨hlt, m, ham, hmn, hm⟩ := Core.rises_of_map2 hc han ha harr
  refine ⟨⟨m, hmn, hm, fun k hk hkn => hafter k (by omega) hkn⟩, ?_⟩
  -- Frisk was not at the monster a clock before, so he has just moved
  obtain ⟨j, rfl⟩ : ∃ j, n = j + 3 := ⟨n - 3, by omega⟩
  have hprev : (c (j + 2)).scene = .map2 := hafter (j + 2) (by omega) (by omega)
  have hnot : arrivedMonster 4#4 (c (j + 2)).frisk2 ≠ true := by
    intro harr'
    have hs := Core.scene_succ hc (j + 2)
    rw [hmap2, hprev] at hs
    refine Scene.step_map2_ne (i := (c (j + 2)).stateInputs (i (j + 2))) ?_ hs.symm
    rw [Core.stateInputs, hprev]
    exact harr'
  have htick : (c (j + 2)).frisk2.frameClk.risingEdge = true := by
    rw [← Bool.not_eq_false]
    intro hidle
    rw [Core.frisk2_succ hc (j + 2), Mover.step_idle (by rw [Core.moverInputs, hprev]; rfl) hidle]
      at harr
    exact hnot harr
  have hrise : Rises (Core.vs c) j :=
    (risingEdge_iff (v := Core.vs c) (e := fun k => (c k).frisk2.frameClk)
      (fun n => by rw [Core.frisk2_succ hc n, Mover.step_frameClk]; rfl) j).mp htick
  exact Vga.not_rises_add_three (r := fun k => (c k).vga) (Core.vga_succ hc) hrise

/-! ## What an entry finds -/

/-- A frame edge outside the battle clears the registers of the frame clock. -/
theorem Core.clear_of_rises {n : ℕ} (hr : Rises (Core.vs c) n) (h : (c (n + 1)).scene ≠ .battle) :
    (c (n + 1)).flower = Flower.clear ∧ (c (n + 1)).hp = 5#4 := by
  have hstatus : (c (n + 1)).scene.status ≠ 5#4 := fun hs => h (Scene.status_eq_five.mp hs)
  rw [Core.flower_rises hc hr, Core.hp_rises hc hr]
  exact ⟨Flower.step_outside hstatus _, nextHP_outside hstatus _ _⟩

/-- The battle is entered with the timer clear and HP full, and the entry leaves
them so. -/
theorem Core.clear_of_enters (h0 : (c 0).scene ≠ .map2) {n : ℕ} (h : Core.Enters c n) :
    ((c n).flower = Flower.clear ∧ (c n).hp = 5#4) ∧
      (c (n + 1)).flower = Flower.clear ∧ (c (n + 1)).hp = 5#4 := by
  obtain ⟨⟨m, hmn, hm, hafter⟩, hno⟩ := Core.frame_before_enters hc h0 h
  have hout : ∀ k, m < k → k ≤ n → (c k).scene ≠ .battle := by
    intro k hk hkn hb
    rw [hafter k hk hkn] at hb
    cases hb
  have hload : ∀ k, m ≤ k → k < n → Rises (Core.vs c) k →
      (c (k + 1)).flower = Flower.clear ∧ (c (k + 1)).hp = 5#4 :=
    fun k hk hkn hr => Core.clear_of_rises hc hr (hout _ (by omega) (Nat.succ_le_of_lt hkn))
  have hn : (c n).flower = Flower.clear ∧ (c n).hp = 5#4 :=
    ⟨eq_of_rises (r := fun k => (c k).flower) hm hmn (fun k hk hkn hr => (hload k hk hkn hr).1)
        (fun _ _ _ hr => (Core.holds hc hr).1),
      eq_of_rises (r := fun k => (c k).hp) hm hmn (fun k hk hkn hr => (hload k hk hkn hr).2)
        (fun _ _ _ hr => (Core.holds hc hr).2)⟩
  obtain ⟨hf, hhp⟩ := Core.holds hc hno
  exact ⟨hn, hf.trans hn.1, hhp.trans hn.2⟩

omit hc in
/-- A cycle of battle comes after an entry, and the battle lasts from there on. -/
theorem Core.entered (h0 : (c 0).scene ≠ .battle) {n : ℕ} (h : (c n).scene = .battle) :
    ∃ e, e < n ∧ Core.Enters c e ∧ ∀ k, e < k → k ≤ n → (c k).scene = .battle := by
  obtain ⟨e, hen, he, hafter⟩ := exists_last_entry (P := fun k => (c k).scene = .battle) h0 h
  exact ⟨e, hen, ⟨he, hafter (e + 1) (Nat.lt_succ_self e) hen⟩, hafter⟩

end run

end Undertale
