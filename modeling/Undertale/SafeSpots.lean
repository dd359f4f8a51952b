import Undertale.BattleFrames

/-!
# Where the bullets do not reach

A heart that is held in its field is hit by some lane if it is within 13 pixels of
the line of a straight lane, or within 18, measured along a row or a column, of the
diagonal of a diagonal lane.  The bands around the twelve lines do not cover the
field, and at the points left over (`SafeSpot`) a heart is never hit.
-/

namespace Undertale

open Clocked

/-! ## The bands around the lanes -/

/-- A point that is off the bands of all lanes: more than 13 away from the rows of the
lanes 0 to 5 and the columns of the lanes 6 to 8, and more than 18 away, along a
row, from the diagonals of the lanes 9 to 14. -/
structure SafeSpot (x y : ℤ) : Prop where
  rows : ∀ c : ℤ, c ∈ [274, 309, 344] → y + 13 < c ∨ c + 13 < y
  columns : ∀ c : ℤ, c ∈ [279, 320, 361] → x + 13 < c ∨ c + 13 < x
  falling : ∀ c : ℤ, c ∈ [45, -25, -115] → y - x + 18 < c ∨ c + 18 < y - x
  rising : ∀ c : ℤ, c ∈ [684, 614, 524] → x + y + 18 < c ∨ c + 18 < x + y

/-- A coordinate of a near point is at most 13 away. -/
theorem abs_le_of_sq {a b : ℤ} (h : a * a + b * b ≤ 169) : -13 ≤ a ∧ a ≤ 13 := by
  have hb := mul_self_nonneg b
  constructor
  · by_contra hlt
    nlinarith
  · by_contra hlt
    nlinarith

/-- The coordinates of a near point differ, and sum up, by at most 18. -/
theorem abs_sub_le_of_sq {a b : ℤ} (h : a * a + b * b ≤ 169) : -18 ≤ a - b ∧ a - b ≤ 18 := by
  have hab := mul_self_nonneg (a + b)
  constructor
  · by_contra hlt
    nlinarith
  · by_contra hlt
    nlinarith

/-- A number of at most 18 is the difference of two that are near. -/
theorem exists_near_sub {d : ℤ} (h : -18 ≤ d) (h' : d ≤ 18) :
    ∃ u, -9 ≤ u ∧ u ≤ 9 ∧ u * u + (u - d) * (u - d) ≤ 169 := by
  refine ⟨d / 2, by omega, by omega, ?_⟩
  have hu : -9 ≤ d / 2 ∧ d / 2 ≤ 9 := by omega
  have hv : -9 ≤ d / 2 - d ∧ d / 2 - d ≤ 9 := by omega
  nlinarith

/-- A safe spot is not near any lane. -/
theorem SafeSpot.not_near {x y : ℤ} (h : SafeSpot x y) (k : Fin 15) (s : ℕ) :
    ¬ LaneNear k s (x, y) := by
  intro hnear
  unfold LaneNear at hnear
  have hx := abs_le_of_sq hnear
  have hy := abs_le_of_sq ((add_comm _ _).trans_le hnear)
  have hsub := abs_sub_le_of_sq hnear
  have hadd := abs_sub_le_of_sq (a := (lanePoint k s).1 - x) (b := -((lanePoint k s).2 - y))
    (by rw [neg_mul_neg]; exact hnear)
  cases laneKind k with
  | right hk dir length hxInit hyInit =>
      have hrow := h.rows _ hyInit
      simp only [lanePoint, dir] at hy
      omega
  | left hk hk' dir length hxInit hyInit =>
      have hrow := h.rows _ hyInit
      simp only [lanePoint, dir] at hy
      omega
  | down hk hk' dir length hxInit hyInit =>
      have hcolumn := h.columns _ hxInit
      simp only [lanePoint, dir] at hx
      omega
  | downRight hk hk' dir length hxInit hyInit diagonal =>
      have hfalling := h.falling _ diagonal
      simp only [lanePoint, dir] at hsub
      omega
  | downLeft hk dir length hxInit hyInit diagonal =>
      have hrising := h.rising _ diagonal
      simp only [lanePoint, dir] at hadd
      omega

section near
variable {k : Fin 15} {x y : ℤ} (X Y L : ℕ) (hX : (lane k).xInit.toNat = X)
  (hY : (lane k).yInit.toNat = Y) (hL : laneLength k = L)
include hX hY hL

/-- A lane that flies to the right comes near the points within 13 of its row. -/
theorem exists_near_right (hdir : laneDir k = (1, 0)) (hx : X ≤ x ∧ x ≤ X + L)
    (hy : -13 ≤ Y - y ∧ Y - y ≤ 13) : ∃ s, s ≤ laneLength k ∧ LaneNear k s (x, y) := by
  refine ⟨(x - X).toNat, by omega, ?_⟩
  have hpoint : lanePoint k (x - X).toNat = (x, (Y : ℤ)) := by
    rw [lanePoint, hX, hY, hdir]
    exact Prod.ext (by dsimp only; omega) (by dsimp only; omega)
  rw [LaneNear, hpoint]
  dsimp only
  nlinarith

/-- A lane that flies down comes near the points within 13 of its column. -/
theorem exists_near_down (hdir : laneDir k = (0, 1)) (hy : Y ≤ y ∧ y ≤ Y + L)
    (hx : -13 ≤ X - x ∧ X - x ≤ 13) : ∃ s, s ≤ laneLength k ∧ LaneNear k s (x, y) := by
  refine ⟨(y - Y).toNat, by omega, ?_⟩
  have hpoint : lanePoint k (y - Y).toNat = ((X : ℤ), y) := by
    rw [lanePoint, hX, hY, hdir]
    exact Prod.ext (by dsimp only; omega) (by dsimp only; omega)
  rw [LaneNear, hpoint]
  dsimp only
  nlinarith

/-- A diagonal lane to the right comes near the points within 18 of its diagonal. -/
theorem exists_near_downRight (hdir : laneDir k = (1, 1)) (hx : X + 9 ≤ x ∧ x + 9 ≤ X + L)
    (hd : -18 ≤ (y - x) - (Y - X) ∧ (y - x) - (Y - X) ≤ 18) :
    ∃ s, s ≤ laneLength k ∧ LaneNear k s (x, y) := by
  obtain ⟨u, hu, hu', hnear⟩ := exists_near_sub hd.1 hd.2
  refine ⟨(x - X + u).toNat, by omega, ?_⟩
  have hpoint : lanePoint k (x - X + u).toNat = (x + u, Y + (x - X + u)) := by
    rw [lanePoint, hX, hY, hdir]
    exact Prod.ext (by dsimp only; omega) (by dsimp only; omega)
  rw [LaneNear, hpoint]
  dsimp only
  have h1 : x + u - x = u := by omega
  have h2 : Y + (x - X + u) - y = u - ((y - x) - (Y - X)) := by omega
  rw [h1, h2]
  exact hnear

/-- A diagonal lane to the left comes near the points within 18 of its diagonal. -/
theorem exists_near_downLeft (hdir : laneDir k = (-1, 1)) (hx : x + 9 ≤ X ∧ X + 9 ≤ x + L)
    (hd : -18 ≤ (x + y) - (X + Y) ∧ (x + y) - (X + Y) ≤ 18) :
    ∃ s, s ≤ laneLength k ∧ LaneNear k s (x, y) := by
  obtain ⟨u, hu, hu', hnear⟩ := exists_near_sub hd.1 hd.2
  refine ⟨(X - x + u).toNat, by omega, ?_⟩
  have hpoint : lanePoint k (X - x + u).toNat = (x - u, Y + (X - x + u)) := by
    rw [lanePoint, hX, hY, hdir]
    exact Prod.ext (by dsimp only; omega) (by dsimp only; omega)
  rw [LaneNear, hpoint]
  dsimp only
  have h1 : x - u - x = -u := by omega
  have h2 : Y + (X - x + u) - y = u - ((x + y) - (X + Y)) := by omega
  rw [h1, h2, neg_mul_neg]
  exact hnear

end near

/-- In the field the lanes come near every point that is not a safe spot, on their
way to their limits. -/
theorem exists_near {x y : ℤ} (hx : 251 ≤ x ∧ x ≤ 390) (hy : 252 ≤ y ∧ y ≤ 366)
    (h : ¬ SafeSpot x y) : ∃ k s, s ≤ laneLength k ∧ LaneNear k s (x, y) := by
  by_contra hnone
  have hno : ∀ k, ¬ ∃ s, s ≤ laneLength k ∧ LaneNear k s (x, y) := fun k hk => hnone ⟨k, hk⟩
  refine h ⟨?_, ?_, ?_, ?_⟩
  · intro c hc
    by_contra hnear
    simp only [List.mem_cons, List.not_mem_nil, or_false] at hc
    rcases hc with rfl | rfl | rfl
    · exact hno 0 (exists_near_right 120 274 513 rfl rfl rfl rfl (by omega) (by omega))
    · exact hno 1 (exists_near_right 120 309 513 rfl rfl rfl rfl (by omega) (by omega))
    · exact hno 2 (exists_near_right 120 344 513 rfl rfl rfl rfl (by omega) (by omega))
  · intro c hc
    by_contra hnear
    simp only [List.mem_cons, List.not_mem_nil, or_false] at hc
    rcases hc with rfl | rfl | rfl
    · exact hno 6 (exists_near_down 279 60 413 rfl rfl rfl rfl (by omega) (by omega))
    · exact hno 7 (exists_near_down 320 60 413 rfl rfl rfl rfl (by omega) (by omega))
    · exact hno 8 (exists_near_down 361 60 413 rfl rfl rfl rfl (by omega) (by omega))
  · intro c hc
    by_contra hnear
    simp only [List.mem_cons, List.not_mem_nil, or_false] at hc
    rcases hc with rfl | rfl | rfl
    · exact hno 9 (exists_near_downRight 115 160 313 rfl rfl rfl rfl (by omega) (by omega))
    · exact hno 10 (exists_near_downRight 145 120 353 rfl rfl rfl rfl (by omega) (by omega))
    · exact hno 11 (exists_near_downRight 175 60 413 rfl rfl rfl rfl (by omega) (by omega))
  · intro c hc
    by_contra hnear
    simp only [List.mem_cons, List.not_mem_nil, or_false] at hc
    rcases hc with rfl | rfl | rfl
    · exact hno 12 (exists_near_downLeft 524 160 313 rfl rfl rfl rfl (by omega) (by omega))
    · exact hno 13 (exists_near_downLeft 494 120 353 rfl rfl rfl rfl (by omega) (by omega))
    · exact hno 14 (exists_near_downLeft 464 60 413 rfl rfl rfl rfl (by omega) (by omega))

/-! ## Losing HP with a held heart -/

/-- With some bullet numbers in the ROM, a battle from `b` with a heart held at `heart`
at difficulty 1 takes HP before it ends. -/
def LosesHP (b : Battle) (heart : BitVec 10 × BitVec 10) : Prop :=
  ∃ (rom : Rom) (counter : ℕ → BitVec 10) (n : ℕ),
    let r := Battle.run rom (heldInputs counter heart) b
    (∀ m, m ≤ n → (r m).bullets.hp ≠ 0#4 ∧ (r m).flower.timeUp = false) ∧
      (r (n + 1)).bullets.hp.toNat < (r n).bullets.hp.toNat

section run
variable {rom : Rom} {i : ℕ → BattleInputs} {b : ℕ → Battle}
  (hb : ∀ n, b (n + 1) = (b n).step rom (i n) (i (n + 1)))
include hb

/-- The bullets of a battle are on their tracks. -/
theorem Battle.tracked (h0 : (b 0).Hidden) (n : ℕ) (k : Fin 15) :
    ∃ s d, Lane.Tracked k s d ((b n).bullets.bullet k) := by
  induction n with
  | zero =>
      rw [h0.bullet k]
      exact ⟨0, 0#2, Lane.tracked_init k⟩
  | succ n ih =>
      obtain ⟨s, d, ht⟩ := ih
      rw [Battle.bullets_succ hb n, Bullets.step_bullet]
      exact ht.step

/-- HP changes at a frame edge that finds some lane near the heart, and there by one. -/
theorem Battle.hp_succ (n : ℕ) :
    (b (n + 1)).bullets.hp = (b n).bullets.hp ∨
      (b (n + 1)).bullets.hp = (b n).bullets.hp - 1#4 ∧
        ∃ k, sqDist ((b (n + 1)).bullets.position k) (i (n + 1)).heart ≤ 169 := by
  rcases Classical.em (Rises (Battle.vs b) n) with hr | hr
  · rw [Battle.hp_rises hb hr]
    cases hlane : hitLane (i (n + 1)).heart (b (n + 1)).bullets.position with
    | none => exact .inl rfl
    | some k => exact .inr ⟨rfl, k, (hitLane_eq_some.mp hlane).1⟩
  · left
    rw [Battle.bullets_succ hb n, Bullets.step_hp]
    exact if_neg hr

/-- A battle that has lost HP by some cycle loses it at an edge, and goes on until
then if the timer has not run out. -/
theorem Battle.exists_loss (h0 : (b 0).Entered) {e : ℕ} (he : (b e).bullets.hp ≠ 5#4)
    (hcount : countIn (Rises (Battle.vs b)) 0 e ≤ 3840) :
    ∃ n, (∀ m, m ≤ n → (b m).bullets.hp ≠ 0#4 ∧ (b m).flower.timeUp = false) ∧
      (b (n + 1)).bullets.hp.toNat < (b n).bullets.hp.toNat := by
  have hchange : ∃ n, (b n).bullets.hp ≠ 5#4 := ⟨e, he⟩
  have hfirst := Nat.find_spec hchange
  have hbefore : ∀ m, m < Nat.find hchange → (b m).bullets.hp = 5#4 := fun m hm =>
    not_not.mp (Nat.find_min hchange hm)
  have hle : Nat.find hchange ≤ e := Nat.find_min' hchange he
  generalize Nat.find hchange = n at hfirst hbefore hle
  cases n with
  | zero => exact absurd h0.hp hfirst
  | succ n =>
      refine ⟨n, fun m hm => ⟨?_, ?_⟩, ?_⟩
      · rw [hbefore m (Nat.lt_succ_of_le hm)]
        decide
      · have hmono := countIn_mono (p := Rises (Battle.vs b)) (Nat.zero_le m) (by omega : m ≤ e)
        rw [Battle.flower_eq hb h0.flower]
        exact decide_eq_false (by omega)
      · have h5 := hbefore n (Nat.lt_succ_self n)
        rcases Battle.hp_succ hb n with heq | ⟨hdec, -⟩
        · rw [heq, h5] at hfirst
          exact absurd rfl hfirst
        · rw [hdec, h5]
          decide

end run

/-- A safe spot loses no HP. -/
theorem SafeSpot.not_losesHP {b : Battle} (h0 : b.Hidden) {heart : BitVec 10 × BitVec 10}
    (h : SafeSpot heart.1.toNat heart.2.toNat) : ¬ LosesHP b heart := by
  rintro ⟨rom, counter, n, -, hlt⟩
  have hb : ∀ n, Battle.run rom (heldInputs counter heart) b (n + 1) =
      (Battle.run rom (heldInputs counter heart) b n).step rom (heldInputs counter heart n)
        (heldInputs counter heart (n + 1)) := fun _ => rfl
  rcases Battle.hp_succ hb n with heq | ⟨-, k, hnear⟩
  · rw [heq] at hlt
    exact absurd hlt (Nat.lt_irrefl _)
  · obtain ⟨s, d, ht⟩ := Battle.tracked hb h0 (n + 1) k
    exact h.not_near k s (ht.onTrack.near_iff.mp hnear)

/-- The flight of the only lane that the ROM shows. -/
theorem flight_const (k l : Fin 15) (j : ℕ) :
    flight (fun _ => BitVec.ofNat 4 k) l (j + 1) = if l = k then some j else none := by
  have hnum : (BitVec.ofNat 4 k).toNat = k := by
    rw [BitVec.toNat_ofNat]
    exact Nat.mod_eq_of_lt (by omega)
  split
  · next h =>
    have hfrom : flight (fun _ => BitVec.ofNat 4 k) k (0 + 1 + j) = some j :=
      flight_from (a := 0) hnum (fun l hl => absurd hl (Nat.not_lt_zero l)) j
    rw [Nat.zero_add, Nat.add_comm] at hfrom
    rw [h, hfrom]
  · next h =>
    refine flight_never fun _ _ he => h (Fin.ext ?_)
    rw [← he, hnum]

/-- The first lane that comes near a held heart takes one HP, if the ROM shows no
other. -/
theorem heldFrames_hit {heart : BitVec 10 × BitVec 10} (hfield : InField heart) {k : Fin 15} {s : ℕ}
    (hlen : s ≤ laneLength k) (hnear : LaneNear k s (point heart))
    (hmin : ∀ t, t < s → ¬ LaneNear k t (point heart)) (hp : BitVec 4) :
    (heldFrames (fun _ => BitVec.ofNat 4 k) heart hp (s + 2)).hp = hp - 1#4 := by
  have hfar : ∀ l, ¬ LaneNear l 0 (point heart) := fun l hl =>
    laneInit_not_near hfield ((onTrack_init l).near_iff.mpr hl)
  obtain ⟨hhp, hat⟩ := heldFrames_at (fun _ => BitVec.ofNat 4 k) heart hp
    (j := s + 1) (fun j hj l => by
      cases j with
      | zero => exact hfar l
      | succ j =>
          rw [flight_const]
          split
          · next h => rw [h]; exact hmin j (by omega)
          · exact hfar l) (fun j hj l t ht => by
      cases j with
      | zero => cases ht
      | succ j =>
          rw [flight_const] at ht
          split at ht
          · next h => cases ht; rw [h]; omega
          · cases ht)
  have hk := hat k
  rw [flight_const, if_pos rfl] at hk
  rw [heldFrames, run_succ, ← heldFrames, BattleFrame.step, hhp]
  cases hlane : hitLane heart
      (heldFrames (fun _ => BitVec.ofNat 4 k) heart hp (s + 1)).position with
  | none => exact absurd (hk.2.near_iff.mpr hnear) (hitLane_eq_none.mp hlane k)
  | some l => rfl

/-- A lane that comes near a held heart takes HP from it. -/
theorem losesHP_of_near {b : Battle} (h0 : b.Entered) {heart : BitVec 10 × BitVec 10}
    (hfield : InField heart) {k : Fin 15} (h : ∃ s, s ≤ laneLength k ∧ LaneNear k s (point heart)) :
    LosesHP b heart := by
  obtain ⟨hlen, hnear⟩ := Nat.find_spec h
  have hmin : ∀ s, s < Nat.find h → ¬ LaneNear k s (point heart) := fun s hs hn =>
    Nat.find_min h hs ⟨hs.le.trans hlen, hn⟩
  generalize Nat.find h = s at hlen hnear hmin
  refine ⟨fun _ => BitVec.ofNat 4 k, fun _ => 0#10, ?_⟩
  have hb : ∀ n,
      Battle.run (fun _ => BitVec.ofNat 4 k) (heldInputs (fun _ => 0#10) heart) b (n + 1) =
        (Battle.run (fun _ => BitVec.ofNat 4 k) (heldInputs (fun _ => 0#10) heart) b n).step
          (fun _ => BitVec.ofNat 4 k) (heldInputs (fun _ => 0#10) heart n)
            (heldInputs (fun _ => 0#10) heart (n + 1)) := fun _ => rfl
  obtain ⟨e, he, -, hframe⟩ := Battle.exists_frame hb h0.flower h0.hidden (fun _ => rfl) hfield
    (fun _ => rfl) (fun _ => BitVec.ofNat 4 k) (fun _ _ _ => rfl) (s + 2)
  refine Battle.exists_loss hb h0 (e := e) ?_ ?_
  · have hhp := congrArg BattleFrame.hp hframe
    rw [heldFrames_hit hfield hlen hnear hmin] at hhp
    intro h5
    have h4 : (5#4 : BitVec 4) = 5#4 - 1#4 :=
      h5.symm.trans (hhp.trans (congrArg (fun hp => hp - 1#4) h0.hp))
    exact absurd h4 (by decide)
  · have hcount := he.countIn_eq
    have hlane := laneLength_le k
    omega

/-- In every battle from its entry on a heart held at a point of the field can lose HP
at difficulty 1, with some bullet numbers in the ROM, exactly if the point is not a
safe spot. -/
theorem losesHP_iff (b : Battle) (h0 : b.Entered) (heart : BitVec 10 × BitVec 10)
    (hfield : InField heart) :
    LosesHP b heart ↔ ¬ SafeSpot heart.1.toNat heart.2.toNat := by
  constructor
  · exact fun hloses hsafe => hsafe.not_losesHP h0.hidden hloses
  · intro hsafe
    obtain ⟨h1, h2, h3, h4⟩ := hfield
    obtain ⟨k, hk⟩ := exists_near (x := heart.1.toNat) (y := heart.2.toNat) (by omega) (by omega)
      hsafe
    exact losesHP_of_near h0 ⟨h1, h2, h3, h4⟩ hk

/-- The middle of the field is no safe spot. -/
theorem losesHP_middle : LosesHP (Battle.entry Vga.init) (319#10, 317#10) := by
  refine (losesHP_iff (Battle.entry Vga.init) (Battle.entry_entered Vga.init) (319#10, 317#10)
    ⟨by decide, by decide, by decide, by decide⟩).mpr fun h => ?_
  have := h.columns 320 (by simp)
  revert this
  decide

/-- The upper left corner of the field is one. -/
theorem not_losesHP_corner :
    ¬ ∀ heart : BitVec 10 × BitVec 10, InField heart → LosesHP (Battle.entry Vga.init) heart := by
  intro h
  have hsafe : SafeSpot (251#10).toNat (252#10).toNat :=
    ⟨by decide, by decide, by decide, by decide⟩
  exact SafeSpot.not_losesHP (Battle.entry_hidden Vga.init) hsafe
    (h (251#10, 252#10) ⟨by decide, by decide, by decide, by decide⟩)

end Undertale
