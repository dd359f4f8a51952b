import Undertale.BattleOutcome
import Undertale.Clocked.Events

/-!
# HP in a battle

The HP block has a decrement for each of the fifteen collision flags and no guard
at 0.  What keeps the four-bit counter from wrapping is that at most one flag is
set (`nextHP_battle`), that the scene machine leaves a battle in which HP is 0 at
the next clock, and that a battle is never entered with less than 5.
-/

namespace Undertale

open Clocked

section run
variable {i : ℕ → CoreInputs} {c : ℕ → Core} (hc : ∀ n, c (n + 1) = (c n).step (i n))
  (h0 : (c 0).scene = .title)
include hc h0

/-- No edge leads into or through a battle with no HP left. -/
theorem Core.hp_ne_zero {n : ℕ} (h : (c (n + 1)).scene = .battle) : (c n).hp ≠ 0#4 := by
  cases hb : (c n).scene with
  | battle =>
      rw [Core.scene_succ hc n, hb] at h
      obtain ⟨-, ⟨-, hhp, -⟩ | ⟨hm, -⟩⟩ := Scene.step_eq_battle h
      · exact hhp
      · cases hm
  | title | intro | map1 | map2 | win | lose =>
      obtain ⟨⟨-, hhp⟩, -⟩ := Core.clear_of_enters hc (Scene.ne_map2 h0)
        ⟨by rw [hb]; exact Scene.noConfusion, h⟩
      rw [hhp]
      decide

/-- What one edge does to HP when it leads into or through a battle. -/
theorem Core.hp_battle {n : ℕ} (h : (c (n + 1)).scene = .battle) :
    (c (n + 1)).hp.toNat ≤ (c n).hp.toNat ∧
      (c n).hp.toNat ≤ (c (n + 1)).hp.toNat + if Rises (Core.vs c) n then 1 else 0 := by
  have hpos : (c n).hp.toNat ≠ 0 := fun h' =>
    Core.hp_ne_zero hc h0 h (BitVec.eq_of_toNat_eq h')
  rcases Classical.em (Rises (Core.vs c) n) with hr | hr
  · have hdec : ((c n).hp - 1#4).toNat = (c n).hp.toNat - 1 :=
      BitVec.toNat_sub_of_le (by rw [BitVec.le_def]; exact Nat.one_le_iff_ne_zero.mpr hpos)
    rw [Core.hp_rises hc hr, h, if_pos hr, Scene.status, nextHP_battle]
    split
    · rw [hdec]; omega
    · omega
  · rw [(Core.holds hc hr).2, if_neg hr]
    exact ⟨le_rfl, le_rfl⟩

/-- Once the frame clock has risen HP is at most 5. -/
theorem Core.hp_le_five {n : ℕ} (h : ∃ m, m < n ∧ Rises (Core.vs c) m) : (c n).hp.toNat ≤ 5 := by
  induction n with
  | zero => obtain ⟨m, hm, -⟩ := h; exact absurd hm (Nat.not_lt_zero m)
  | succ n ih =>
      rcases Classical.em ((c (n + 1)).scene = .battle) with hb | hb
      · -- the entry into this battle has a frame edge before it
        obtain ⟨e, hen, he, -⟩ := Core.entered (Scene.ne_battle h0) hb
        obtain ⟨⟨m, hme, hm, -⟩, -⟩ := Core.frame_before_enters hc (Scene.ne_map2 h0) he
        exact (Core.hp_battle hc h0 hb).1.trans (ih ⟨m, by omega, hm⟩)
      · rcases Classical.em (Rises (Core.vs c) n) with hr | hr
        · rw [(Core.clear_of_rises hc hr hb).2]; decide
        · rw [(Core.holds hc hr).2]
          obtain ⟨m, hmn, hm⟩ := h
          refine ih ⟨m, lt_of_le_of_ne (Nat.le_of_lt_succ hmn) ?_, hm⟩
          rintro rfl
          exact hr hm

/-- In a battle with no HP left the frame clock has just risen. -/
theorem Core.vs_of_hp_zero {n : ℕ} (hz : (c n).hp = 0#4) (hb : (c n).scene = .battle) :
    Core.vs c n = true := by
  cases n with
  | zero => rw [h0] at hb; cases hb
  | succ n =>
      rcases Classical.em (Rises (Core.vs c) n) with hr | hr
      · exact hr.2
      · rw [(Core.holds hc hr).2] at hz
        exact absurd hz (Core.hp_ne_zero hc h0 hb)

end run

/-- In every run from the title, once the frame clock has risen, HP is at most 5.
Through a battle it never increases and drops by at most one at a frame edge and
not in between.  At a frame edge that finds HP at 0 the battle is over, so the
edge does not wrap it. -/
theorem Core.hp_never_wraps (i : ℕ → CoreInputs) (c : Core) (h0 : c.scene = .title) (n : ℕ)
    (hframe : ∃ m, m < n ∧ Rises (Core.vs (Core.run i c)) m) :
    (Core.run i c n).hp.toNat ≤ 5 ∧
      ((Core.run i c n).scene = .battle → (Core.run i c (n + 1)).scene = .battle →
        (Core.run i c (n + 1)).hp.toNat ≤ (Core.run i c n).hp.toNat ∧
          (Core.run i c n).hp.toNat ≤ (Core.run i c (n + 1)).hp.toNat +
            if Rises (Core.vs (Core.run i c)) n then 1 else 0) ∧
      ((Core.run i c n).hp = 0#4 → Rises (Core.vs (Core.run i c)) n →
        (Core.run i c n).scene ≠ .battle ∧ (Core.run i c (n + 1)).scene ≠ .battle) ∧
      ((Core.run i c n).hp = 0#4 → (Core.run i c (n + 1)).hp ≠ 15#4) := by
  have hc : ∀ n, Core.run i c (n + 1) = (Core.run i c n).step (i n) := fun _ => rfl
  refine ⟨Core.hp_le_five hc h0 hframe, fun _ hb => Core.hp_battle hc h0 hb, ?_, ?_⟩
  · intro hz hr
    refine ⟨fun hb => ?_, fun hb => Core.hp_ne_zero hc h0 hb hz⟩
    have hvs := Core.vs_of_hp_zero hc h0 hz hb
    rw [hr.1] at hvs
    cases hvs
  · intro _ h15
    obtain ⟨m, hmn, hm⟩ := hframe
    have hle := Core.hp_le_five hc h0 ⟨m, Nat.lt_succ_of_lt hmn, hm⟩
    rw [h15] at hle
    exact absurd hle (by decide)

/-- The keys into the battle, and a bullet at the heart at every edge of it. -/
def hitInputs (n : ℕ) : CoreInputs := { battleInputs n with near := fun _ => true }

theorem Core.hitInputs_hitEdge (n : ℕ) :
    Core.HitEdge hitInputs (Core.run hitInputs Core.zero) n ↔
      Rises (Core.vs (Core.run hitInputs Core.zero)) n :=
  ⟨And.left, fun hr => ⟨hr, 0, show isCollide (fun _ => true) 0 = true by decide⟩⟩

/-- The fifth hit takes HP from 1 to 0, and the next frame edge, where every collision flag
still asks for a hit, finds the battle over. -/
theorem Core.hp_fifth_hit :
    ∃ k n, k < n ∧ (Core.run hitInputs Core.zero k).scene = .battle ∧
      (Core.run hitInputs Core.zero k).hp = 1#4 ∧
      (Core.run hitInputs Core.zero (k + 1)).scene = .battle ∧
      (Core.run hitInputs Core.zero (k + 1)).hp = 0#4 ∧
      Rises (Core.vs (Core.run hitInputs Core.zero)) n ∧
      (Core.run hitInputs Core.zero n).hp = 0#4 ∧
      (Core.run hitInputs Core.zero n).scene ≠ .battle ∧
      (Core.run hitInputs Core.zero (n + 1)).hp ≠ 15#4 := by
  have hc : ∀ n, Core.run hitInputs Core.zero (n + 1) =
    (Core.run hitInputs Core.zero n).step (hitInputs n) := fun _ => rfl
  have hmap2 : (Core.run hitInputs Core.zero 0).scene ≠ .map2 := Scene.noConfusion
  have hforever := Vga.exists_rises (r := fun n => (Core.run hitInputs Core.zero n).vga)
    (Core.vga_succ hc)
  obtain ⟨e, he⟩ := Core.exists_enters hc rfl (fun _ => rfl) rfl (fun _ => rfl)
  obtain ⟨k, hk⟩ : ∃ k, IsNth (Rises (Core.vs (Core.run hitInputs Core.zero))) (e + 1) 5 k :=
    exists_isNth_of_forever hforever (by decide)
  have hek : e < k := hk.1
  have hhits := countIn_congr (a := e + 1) (b := k + 1) fun n _ => Core.hitInputs_hitEdge n
  obtain ⟨hstay, hone, hzero⟩ := Core.hp_of_fifth_hit hc hmap2 he (fun _ _ => rfl) (by decide) hk
    ⟨hk.1, (Core.hitInputs_hitEdge k).mpr hk.2.1, hhits.trans hk.2.2⟩
  -- HP is still 0 when the frame clock rises again
  obtain ⟨l, hkl, hl⟩ := hforever (k + 1)
  obtain ⟨n, hkn, hn, hno⟩ := exists_next_rises ⟨l, hkl, hl⟩
  have hheld : (Core.run hitInputs Core.zero n).hp = 0#4 :=
    preserved (P := fun n => (Core.run hitInputs Core.zero n).hp = 0#4) hkn hzero
      fun m hkm hmn hm => (Core.holds hc (hno m hkm hmn)).2.trans hm
  obtain ⟨-, -, hover, hwrap⟩ :=
    Core.hp_never_wraps hitInputs Core.zero rfl n ⟨k, hkn, hk.2.1⟩
  exact ⟨k, n, hkn, hstay k hek (Nat.le_succ k), hone,
    hstay (k + 1) (Nat.lt_succ_of_lt hek) le_rfl, hzero, hn, hheld, (hover hheld hn).1,
    hwrap hheld⟩

end Undertale
