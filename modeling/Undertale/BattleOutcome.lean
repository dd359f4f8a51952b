import Undertale.Reachable

/-!
# The outcome of a battle

Two counters run against each other on the frame clock.  `flower` counts the
frame edges of the battle and raises `time_up` at the 3841st, and HP counts down
the hits.  The scene machine looks at both one clock after the edge, HP first.
`Core.Ongoing` relates the registers to the numbers of edges and hits so far.
`Core.Ongoing.hold` and `Core.Ongoing.edge` are what one clock does to it, and
`Core.ongoing` is what they come to over a battle.
-/

namespace Undertale

open Clocked

/-- Some collision flag is set. -/
def CoreInputs.Hit (i : CoreInputs) : Prop := ∃ k, isCollide i.near k = true

instance (i : CoreInputs) : Decidable i.Hit := inferInstanceAs (Decidable (∃ _, _))

theorem CoreInputs.hit_iff (i : CoreInputs) : i.Hit ↔ (firstNear i.near).isSome = true := by
  unfold CoreInputs.Hit isCollide
  cases h : firstNear i.near with
  | none => simp
  | some k => simp

/-- Clock edge `n` is a frame edge with a hit. -/
def Core.HitEdge (i : ℕ → CoreInputs) (c : ℕ → Core) (n : ℕ) : Prop :=
  Rises (Core.vs c) n ∧ (i n).Hit

instance (i : ℕ → CoreInputs) (c : ℕ → Core) : DecidablePred (Core.HitEdge i c) :=
  fun _ => inferInstanceAs (Decidable (_ ∧ _))

/-- A battle that is not over after `edges` frame edges and `hits` hits. -/
structure Core.Ongoing (c : Core) (edges hits : ℕ) : Prop where
  scene : c.scene = .battle
  hp : c.hp.toNat + hits = 5
  counter : c.flower.counter.toNat = edges
  timeUp : c.flower.timeUp = false

section run
variable {i : ℕ → CoreInputs} {c : ℕ → Core} (hc : ∀ n, c (n + 1) = (c n).step (i n))

/-! ## One clock of a battle -/

section step
variable {edges hits n : ℕ} (h : (c n).Ongoing edges hits) (hhits : hits ≤ 4)
  (hreset : (i n).reset = false)
include hc h hhits hreset

/-- Before the fifth hit the scene stays. -/
theorem Core.Ongoing.scene_succ : (c (n + 1)).scene = .battle := by
  have hhp : (c n).hp ≠ 0#4 := by
    intro hz
    have := h.hp
    rw [hz, BitVec.toNat_zero] at this
    omega
  rw [Core.scene_battle hc h.scene hreset, if_neg hhp, h.timeUp, if_neg Bool.false_ne_true]

/-- Between frame edges nothing changes. -/
theorem Core.Ongoing.hold (hr : ¬ Rises (Core.vs c) n) : (c (n + 1)).Ongoing edges hits := by
  obtain ⟨hf, hhp⟩ := Core.holds hc hr
  exact ⟨h.scene_succ hc hhits hreset, by rw [hhp]; exact h.hp, by rw [hf]; exact h.counter,
    by rw [hf]; exact h.timeUp⟩

/-- A frame edge takes one HP if it is a hit. -/
theorem Core.Ongoing.hp_succ (hr : Rises (Core.vs c) n) :
    (c (n + 1)).hp.toNat + (hits + if (i n).Hit then 1 else 0) = 5 := by
  have hhp := h.hp
  rw [Core.hp_rises hc hr, h.scene_succ hc hhits hreset, Scene.status, nextHP_battle]
  simp only [← CoreInputs.hit_iff]
  split
  · have hdec : ((c n).hp - 1#4).toNat = (c n).hp.toNat - 1 :=
      BitVec.toNat_sub_of_le (by rw [BitVec.le_def, BitVec.toNat_ofNat]; omega)
    rw [hdec]; omega
  · exact hhp

/-- A frame edge before the last is counted. -/
theorem Core.Ongoing.edge (hedges : edges < 3840) (hr : Rises (Core.vs c) n) :
    (c (n + 1)).Ongoing (edges + 1) (hits + if (i n).Hit then 1 else 0) := by
  have hs := h.scene_succ hc hhits hreset
  obtain ⟨ht, hcount⟩ := Flower.step_counting (by rw [h.counter]; exact hedges) h.timeUp
  have hf : (c (n + 1)).flower = (c n).flower.step 5#4 := by
    rw [Core.flower_rises hc hr, hs]; rfl
  exact ⟨hs, h.hp_succ hc hhits hreset hr, by rw [hf, hcount, h.counter], by rw [hf]; exact ht⟩

/-- The last frame edge raises `time_up`. -/
theorem Core.Ongoing.last (hedges : edges = 3840) (hr : Rises (Core.vs c) n) :
    (c (n + 1)).flower.timeUp = true := by
  rw [Core.flower_rises hc hr, h.scene_succ hc hhits hreset]
  exact Flower.step_last (h.counter.trans hedges)

end step

/-! ## A whole battle -/

section battle
variable (h0 : (c 0).scene ≠ .map2) {e : ℕ} (he : Core.Enters c e)
  (hreset : ∀ k, e < k → (i k).reset = false)
include hc h0 he hreset

/-- Until its fifth hit and its last frame edge a battle is ongoing. -/
theorem Core.ongoing {n : ℕ} (hen : e < n) (hedges : countIn (Rises (Core.vs c)) (e + 1) n ≤ 3840)
    (hhits : countIn (Core.HitEdge i c) (e + 1) n ≤ 4) :
    (c n).Ongoing (countIn (Rises (Core.vs c)) (e + 1) n)
      (countIn (Core.HitEdge i c) (e + 1) n) := by
  induction n, hen using Nat.le_induction with
  | base =>
      obtain ⟨-, hf, hhp⟩ := Core.clear_of_enters hc h0 he
      rw [countIn_self, countIn_self]
      exact ⟨he.2, by rw [hhp]; rfl, by rw [hf]; rfl, by rw [hf]; rfl⟩
  | succ n hen' ih =>
      have hen : e + 1 ≤ n := hen'
      have hedges' : countIn (Rises (Core.vs c)) (e + 1) n ≤ _ := countIn_mono hen (Nat.le_succ n)
      have hhits' : countIn (Core.HitEdge i c) (e + 1) n ≤ _ := countIn_mono hen (Nat.le_succ n)
      have hn := ih (hedges'.trans hedges) (hhits'.trans hhits)
      rw [countIn_succ hen] at hedges
      rw [countIn_succ hen, countIn_succ hen]
      rcases Classical.em (Rises (Core.vs c) n) with hr | hr
      · rw [if_pos hr] at hedges ⊢
        have hnext := hn.edge hc (hhits'.trans hhits) (hreset n hen) (by omega) hr
        simp only [Core.HitEdge, hr, true_and]
        exact hnext
      · have hnext := hn.hold hc (hhits'.trans hhits) (hreset n hen) hr
        rw [if_neg hr, if_neg fun hh => hr hh.1]
        exact hnext

/-- An edge of a battle that is not over before it, and the scene up to there. -/
theorem Core.ongoing_at {k : ℕ} (hek : e < k)
    (hedges : countIn (Rises (Core.vs c)) (e + 1) k ≤ 3840)
    (hhits : countIn (Core.HitEdge i c) (e + 1) k ≤ 4) :
    (c k).Ongoing (countIn (Rises (Core.vs c)) (e + 1) k)
        (countIn (Core.HitEdge i c) (e + 1) k) ∧
      ∀ j, e < j → j ≤ k + 1 → (c j).scene = .battle := by
  have hk := Core.ongoing hc h0 he hreset hek hedges hhits
  refine ⟨hk, fun j hej hjk => ?_⟩
  rcases Nat.lt_or_eq_of_le hjk with hlt | rfl
  · have hjk' : j ≤ k := Nat.le_of_lt_succ hlt
    exact (Core.ongoing hc h0 he hreset hej ((countIn_mono hej hjk').trans hedges)
      ((countIn_mono hej hjk').trans hhits)).scene
  · exact hk.scene_succ hc hhits (hreset k hek)

/-- The fifth hit takes the last HP. -/
theorem Core.hp_of_fifth_hit {n k : ℕ} (hn : n ≤ 3841)
    (hk : IsNth (Rises (Core.vs c)) (e + 1) n k) (hhit : IsNth (Core.HitEdge i c) (e + 1) 5 k) :
    (∀ j, e < j → j ≤ k + 1 → (c j).scene = .battle) ∧ (c k).hp = 1#4 ∧ (c (k + 1)).hp = 0#4 := by
  have hedges := hk.countIn_eq
  have hhits := hhit.countIn_eq
  obtain ⟨hon, hstay⟩ := Core.ongoing_at hc h0 he hreset hk.1 (by omega) (by omega)
  have hhp := hon.hp
  have hhp' := hon.hp_succ hc (by omega) (hreset k hk.1) hk.2.1
  rw [if_pos hhit.2.1.2, hhits] at hhp'
  exact ⟨hstay, BitVec.eq_of_toNat_eq (by rw [BitVec.toNat_ofNat]; omega),
    BitVec.eq_of_toNat_eq (by rw [BitVec.toNat_zero]; omega)⟩

/-- The fifth hit ends the battle in `lose`. -/
theorem Core.lose_of_fifth_hit {n k : ℕ} (hn : n ≤ 3841)
    (hk : IsNth (Rises (Core.vs c)) (e + 1) n k) (hhit : IsNth (Core.HitEdge i c) (e + 1) 5 k) :
    (∀ j, e < j → j ≤ k + 1 → (c j).scene = .battle) ∧ (c (k + 2)).scene = .lose := by
  obtain ⟨hstay, -, hzero⟩ := Core.hp_of_fifth_hit hc h0 he hreset hn hk hhit
  refine ⟨hstay, ?_⟩
  rw [Core.scene_battle hc (hstay (k + 1) (Nat.lt_succ_of_lt hk.1) le_rfl)
    (hreset (k + 1) (Nat.lt_succ_of_lt hk.1)), if_pos hzero]

/-- With fewer hits the last frame edge ends the battle in `win`. -/
theorem Core.win_of_last_edge {k : ℕ} (hk : IsNth (Rises (Core.vs c)) (e + 1) 3841 k)
    (hhits : countIn (Core.HitEdge i c) (e + 1) (k + 1) < 5) :
    (∀ j, e < j → j ≤ k + 1 → (c j).scene = .battle) ∧ (c (k + 2)).scene = .win := by
  have hedges := hk.countIn_eq
  rw [countIn_succ hk.1] at hhits
  obtain ⟨hon, hstay⟩ := Core.ongoing_at hc h0 he hreset hk.1 (by omega) (by omega)
  have hhp := hon.hp_succ hc (by omega) (hreset k hk.1) hk.2.1
  have htime := hon.last hc (by omega) (hreset k hk.1) (by omega) hk.2.1
  have hne : (c (k + 1)).hp ≠ 0#4 := by
    intro hz
    simp only [Core.HitEdge, hk.2.1, true_and] at hhits
    rw [hz, BitVec.toNat_zero] at hhp
    omega
  refine ⟨hstay, ?_⟩
  rw [Core.scene_battle hc (hstay (k + 1) (Nat.lt_succ_of_lt hk.1) le_rfl)
    (hreset (k + 1) (Nat.lt_succ_of_lt hk.1)), if_neg hne, if_pos htime]

/-- Every battle has a last frame edge, and none outlasts it. -/
theorem Core.exists_last_edge :
    ∃ k, IsNth (Rises (Core.vs c)) (e + 1) 3841 k ∧
      ∃ j, e < j ∧ j ≤ k + 2 ∧ (c j).scene ≠ .battle := by
  obtain ⟨k, hk⟩ : ∃ k, IsNth (Rises (Core.vs c)) (e + 1) 3841 k :=
    exists_isNth_of_forever (Vga.exists_rises (r := fun n => (c n).vga) (Core.vga_succ hc))
      (by decide)
  have hek : e < k := hk.1
  refine ⟨k, hk, ?_⟩
  rcases Nat.lt_or_ge (countIn (Core.HitEdge i c) (e + 1) (k + 1)) 5 with hlt | hge
  · obtain ⟨-, hwin⟩ := Core.win_of_last_edge hc h0 he hreset hk hlt
    exact ⟨k + 2, by omega, le_rfl, by rw [hwin]; exact Scene.noConfusion⟩
  · -- the fifth hit comes at an edge up to the last
    obtain ⟨l, hlk, hl⟩ := exists_isNth (Nat.succ_le_of_lt (Nat.lt_succ_of_lt hek)) (by decide) hge
    have hmono := countIn_mono (p := Rises (Core.vs c)) (Nat.le_succ_of_le hl.1)
      (Nat.succ_le_of_lt hlk)
    rw [hk.2.2] at hmono
    obtain ⟨-, hlose⟩ := Core.lose_of_fifth_hit hc h0 he hreset hmono ⟨hl.1, hl.2.1.1, rfl⟩ hl
    have hel : e < l := hl.1
    exact ⟨l + 2, by omega, by omega, by rw [hlose]; exact Scene.noConfusion⟩

end battle

end run

/-- In every run from the title and every entry into the battle with the reset
low afterwards: a fifth hit at a frame edge up to the 3841st ends the battle in
`lose` right after that edge, and otherwise the 3841st ends it in `win`.  Until
then the battle lasts, and the 3841st edge comes. -/
theorem Core.battle_outcome (i : ℕ → CoreInputs) (c : Core) (h0 : c.scene = .title) (e : ℕ)
    (he : Core.Enters (Core.run i c) e) (hreset : ∀ k, e < k → (i k).reset = false) :
    (∀ n k, n ≤ 3841 → IsNth (Rises (Core.vs (Core.run i c))) (e + 1) n k →
        IsNth (Core.HitEdge i (Core.run i c)) (e + 1) 5 k →
          (∀ j, e < j → j ≤ k + 1 → (Core.run i c j).scene = .battle) ∧
            (Core.run i c (k + 2)).scene = .lose) ∧
      (∀ k, IsNth (Rises (Core.vs (Core.run i c))) (e + 1) 3841 k →
        countIn (Core.HitEdge i (Core.run i c)) (e + 1) (k + 1) < 5 →
          (∀ j, e < j → j ≤ k + 1 → (Core.run i c j).scene = .battle) ∧
            (Core.run i c (k + 2)).scene = .win) ∧
      ∃ k, IsNth (Rises (Core.vs (Core.run i c))) (e + 1) 3841 k ∧
        ∃ j, e < j ∧ j ≤ k + 2 ∧ (Core.run i c j).scene ≠ .battle := by
  have hc : ∀ n, Core.run i c (n + 1) = (Core.run i c n).step (i n) := fun _ => rfl
  have hmap2 : (Core.run i c 0).scene ≠ .map2 := Scene.ne_map2 h0
  exact ⟨fun n k hn hk hhit => Core.lose_of_fifth_hit hc hmap2 he hreset hn hk hhit,
    fun k hk hhits => Core.win_of_last_edge hc hmap2 he hreset hk hhits,
    Core.exists_last_edge hc hmap2 he hreset⟩

/-- A battle without a hit is won. -/
theorem Core.battleInputs_wins : ∃ k, (Core.run battleInputs Core.zero k).scene = .win := by
  obtain ⟨e, he⟩ := Core.battleInputs_enters
  obtain ⟨-, hwin, k, hk, -⟩ := Core.battle_outcome battleInputs Core.zero rfl e he fun _ _ => rfl
  have hno : ∀ n, ¬ Core.HitEdge battleInputs (Core.run battleInputs Core.zero) n := by
    rintro n ⟨-, k, hk⟩
    have hnone : ∀ k, isCollide (fun _ => false) k ≠ true := by decide
    exact hnone k hk
  exact ⟨k + 2, (hwin k hk (by rw [countIn_eq_zero hno]; decide)).2⟩

end Undertale
