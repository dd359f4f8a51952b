import Undertale.BattleFrames
import Mathlib.Data.Fintype.Card
import Mathlib.Tactic.FinCases

/-!
# When all hits count

The HP block has a decrement for each lane and the show flags a test for each lane,
but the else-if chain raises one flag at a time.  Of two bullets that reach the heart
in one frame the second is neither counted nor removed (`Battle.hits_count_iff`).
It happens: the bullets of two lanes whose tracks cross can arrive at a heart in the
same frame (`Battle.not_hits_count`).
-/

namespace Undertale

open Clocked

/-! ## Hits in one frame -/

/-- The bullets in view whose position is near the heart. -/
def Bullets.hitting (heart : BitVec 10 × BitVec 10) (r : Bullets) : Finset (Fin 15) :=
  {k | r.showBullet k = true ∧ sqDist (r.position k) heart ≤ 169}

theorem Bullets.mem_hitting {heart : BitVec 10 × BitVec 10} {r : Bullets} {k : Fin 15} :
    k ∈ r.hitting heart ↔ r.showBullet k = true ∧ sqDist (r.position k) heart ≤ 169 := by
  simp [Bullets.hitting]

/-- No lane is near the heart, or one bullet in view is, and no lane before it unless
it is at the end of its lane. -/
def Bullets.OneHit (heart : BitVec 10 × BitVec 10) (r : Bullets) : Prop :=
  (∀ k, ¬ sqDist (r.position k) heart ≤ 169) ∨
    ∃ k, r.hitting heart = {k} ∧ (pastLimit k (r.position k) = false →
      ∀ j, j < k → ¬ sqDist (r.position j) heart ≤ 169)

/-- What the hits at the frame edge `n` should do: take as many HP as bullets in view
are near the heart, and have these removed at the tick two clocks later.  Bullets at
the end of their lanes are left out. -/
def Battle.HitsCount (i : ℕ → BattleInputs) (b : ℕ → Battle) (n : ℕ) : Prop :=
  let hitting := (b (n + 1)).bullets.hitting (i (n + 1)).heart
  (b (n + 1)).bullets.hp.toNat = (b n).bullets.hp.toNat - hitting.card ∧
    ∀ k, pastLimit k ((b (n + 1)).bullets.position k) = false →
      (((b (n + 2)).bullets.showBullet k = true ∧ (b (n + 3)).bullets.showBullet k = false) ↔
        k ∈ hitting)

section frame
variable {rom : Rom} {i : ℕ → BattleInputs} {b : ℕ → Battle}
  (hb : ∀ n, b (n + 1) = (b n).step rom (i n) (i (n + 1)))
include hb

section entered
variable (h0 : (b 0).flower = Flower.clear)
include h0

/-- Once the bullets have started they stay so, and the run is well under way. -/
theorem Battle.startBullet_mono {m n : ℕ} (hmn : m ≤ n) (h : (b m).flower.startBullet = true) :
    240 < m ∧ (b n).flower.startBullet = true := by
  rw [Battle.flower_eq hb h0] at h ⊢
  have hm : 240 < countIn (Rises (Battle.vs b)) 0 m := of_decide_eq_true h
  have hle : countIn (Rises (Battle.vs b)) 0 m ≤ m := Nat.count_le _
  have hmono := countIn_mono (p := Rises (Battle.vs b)) (Nat.zero_le m) hmn
  exact ⟨by omega, decide_eq_true (by omega)⟩

/-- The lanes in view do not change between a frame edge and the tick. -/
theorem Battle.showBullet_add_two {n : ℕ} (h : Rises (Battle.vs b) n) :
    (b (n + 2)).bullets.showBullet = (b (n + 1)).bullets.showBullet := by
  funext k
  rw [Battle.showBullet_succ hb (Battle.no_tick_succ hb h)]
  cases hstart : (b (n + 1)).flower.startBullet with
  | true => exact Bool.true_and _
  | false =>
      cases hk : (b (n + 1)).bullets.showBullet k with
      | false => rfl
      | true =>
          have hstart' := Battle.startBullet_of_shown hb hk
          rw [(Battle.startBullet_mono hb h0 (Nat.le_succ n) hstart').2] at hstart
          cases hstart

/-- The tick removes a bullet in view, short of the end of its lane, exactly if the
chain has settled on it. -/
theorem Battle.removed_iff (hstill : HeartStill i b) {n : ℕ} (h : Rises (Battle.vs b) n)
    {k : Fin 15} (hk : (b (n + 1)).bullets.showBullet k = true)
    (hlimit : pastLimit k ((b (n + 1)).bullets.position k) = false) :
    (b (n + 3)).bullets.showBullet k = false ↔
      hitLane (i (n + 1)).heart (b (n + 1)).bullets.position = some k := by
  have hstart := Battle.startBullet_of_shown hb hk
  obtain ⟨hn, -⟩ := Battle.startBullet_mono hb h0 le_rfl hstart
  obtain ⟨m, rfl⟩ : ∃ m, n = m + 2 := ⟨n - 2, by omega⟩
  obtain ⟨hhome, hpos⟩ := Battle.home_of_rises hb h hstart
  have hshow := Battle.showBullet_add_two hb h0 h
  have hhome' : (b (m + 4)).bullets.Home := by
    intro j hj
    rw [hpos]
    exact hhome j (by rw [← hshow]; exact hj)
  have hheart : (i (m + 4)).heart = (i (m + 3)).heart :=
    (hstill (m + 2) h).2.trans (hstill (m + 2) h).1.symm
  have htick := (Battle.tick_iff hb (m + 2)).mpr h
  show (b (m + 5)).bullets.showBullet k = false ↔ _
  rw [Battle.bullets_succ hb (m + 4), Bullets.step_showBullet_tick rfl htick
    (Battle.startBullet_mono hb h0 (by omega) hstart).2 hhome' k, hpos, hshow, hk, ← hheart]
  show (if hitLane (i (m + 4)).heart _ = some k then false else _) = false ↔ _
  split
  · next hhit => simp [hhit]
  · next hhit => simp [hhit, hlimit]

end entered

end frame

/-! ## When the hits of a frame all count -/

section oneHit
variable {heart : BitVec 10 × BitVec 10} {r : Bullets} {hp : BitVec 4}

/-- One bullet in view is near exactly if the block takes as many HP as there are. -/
theorem Bullets.OneHit.counts (h : r.OneHit heart) (hhp : (r.hitting heart).card ≤ hp.toNat) :
    (if (hitLane heart r.position).isSome then hp - 1#4 else hp).toNat =
      hp.toNat - (r.hitting heart).card := by
  rcases h with hnone | ⟨k, hk, -⟩
  · have hempty : r.hitting heart = ∅ := by
      refine Finset.eq_empty_of_forall_notMem fun k hk => ?_
      exact hnone k (Bullets.mem_hitting.mp hk).2
    rw [hitLane_eq_none.mpr hnone, hempty]
    rfl
  · have hnear := (Bullets.mem_hitting.mp (hk ▸ Finset.mem_singleton_self k)).2
    cases hlane : hitLane heart r.position with
    | none => exact absurd hnear (hitLane_eq_none.mp hlane k)
    | some j =>
        rw [hk, Finset.card_singleton] at hhp ⊢
        exact BitVec.toNat_sub_of_le (by rw [BitVec.le_def]; exact hhp)

/-- The chain settles on every bullet in view that is near, short of the end of its
lane. -/
theorem Bullets.OneHit.settles (h : r.OneHit heart) {k : Fin 15}
    (hlimit : pastLimit k (r.position k) = false) :
    (r.showBullet k = true ∧ hitLane heart r.position = some k) ↔ k ∈ r.hitting heart := by
  constructor
  · rintro ⟨hk, hlane⟩
    exact Bullets.mem_hitting.mpr ⟨hk, (hitLane_eq_some.mp hlane).1⟩
  · intro hmem
    obtain ⟨hk, hnear⟩ := Bullets.mem_hitting.mp hmem
    refine ⟨hk, ?_⟩
    rcases h with hnone | ⟨j, hj, hfirst⟩
    · exact absurd hnear (hnone k)
    · rw [hj, Finset.mem_singleton] at hmem
      subst hmem
      exact hitLane_eq_some.mpr ⟨hnear, hfirst hlimit⟩

/-- If all hits count there is at most one. -/
theorem Bullets.oneHit_of_counts (hhp : (r.hitting heart).card ≤ hp.toNat)
    (hcount : (if (hitLane heart r.position).isSome then hp - 1#4 else hp).toNat =
      hp.toNat - (r.hitting heart).card)
    (hsettles : ∀ k, pastLimit k (r.position k) = false →
      ((r.showBullet k = true ∧ hitLane heart r.position = some k) ↔ k ∈ r.hitting heart)) :
    r.OneHit heart := by
  cases hlane : hitLane heart r.position with
  | none => exact .inl (hitLane_eq_none.mp hlane)
  | some j =>
      rw [hlane, Option.isSome_some, if_pos rfl] at hcount
      -- a decrement from 0 wraps, and is no count of hits
      have hpos : hp.toNat ≠ 0 := by
        intro hz
        have hzero : hp = 0#4 := BitVec.eq_of_toNat_eq hz
        rw [hzero] at hcount
        have h15 : (0#4 - 1#4).toNat = 15 := by decide
        have h0 : (0#4).toNat = 0 := rfl
        omega
      have hdec : (hp - 1#4).toNat = hp.toNat - 1 :=
        BitVec.toNat_sub_of_le (by rw [BitVec.le_def]; exact Nat.one_le_iff_ne_zero.mpr hpos)
      have hcard : (r.hitting heart).card = 1 := by omega
      obtain ⟨k, hk⟩ := Finset.card_eq_one.mp hcard
      refine .inr ⟨k, hk, fun hlimit => ?_⟩
      have hmem : k ∈ r.hitting heart := hk ▸ Finset.mem_singleton_self k
      exact (hitLane_eq_some.mp ((hsettles k hlimit).mpr hmem).2).2

end oneHit

/-- In every battle whose timer starts cleared, with a heart that moves after ticks
only, at every frame edge with enough HP: the hits all count, and the tick removes
exactly the bullets that hit, if and only if no lane is near the heart or one bullet
in view is, and no lane before it. -/
theorem Battle.hits_count_iff (rom : Rom) (i : ℕ → BattleInputs) (b : Battle)
    (h0 : b.flower = Flower.clear) (hstill : HeartStill i (Battle.run rom i b)) (n : ℕ)
    (hn : Rises (Battle.vs (Battle.run rom i b)) n)
    (hhp : ((Battle.run rom i b (n + 1)).bullets.hitting (i (n + 1)).heart).card ≤
      (Battle.run rom i b n).bullets.hp.toNat) :
    Battle.HitsCount i (Battle.run rom i b) n ↔
      (Battle.run rom i b (n + 1)).bullets.OneHit (i (n + 1)).heart := by
  have hb : ∀ n, Battle.run rom i b (n + 1) =
      (Battle.run rom i b n).step rom (i n) (i (n + 1)) := fun _ => rfl
  have hedge := Battle.hp_rises hb hn
  have hremoved : ∀ k, pastLimit k ((Battle.run rom i b (n + 1)).bullets.position k) = false →
      (((Battle.run rom i b (n + 2)).bullets.showBullet k = true ∧
          (Battle.run rom i b (n + 3)).bullets.showBullet k = false) ↔
        (Battle.run rom i b (n + 1)).bullets.showBullet k = true ∧
          hitLane (i (n + 1)).heart (Battle.run rom i b (n + 1)).bullets.position = some k) := by
    intro k hlimit
    rw [Battle.showBullet_add_two hb h0 hn]
    exact and_congr_right fun hk => Battle.removed_iff hb h0 hstill hn hk hlimit
  constructor
  · rintro ⟨hcount, hgone⟩
    rw [hedge] at hcount
    exact Bullets.oneHit_of_counts hhp hcount fun k hlimit =>
      (hremoved k hlimit).symm.trans (hgone k hlimit)
  · intro hone
    refine ⟨?_, fun k hlimit => (hremoved k hlimit).trans (hone.settles hlimit)⟩
    rw [hedge]
    exact hone.counts hhp

section held
variable {num : ℕ → BitVec 4} {heart : BitVec 10 × BitVec 10} {j : ℕ}

theorem flight_lt {k : Fin 15} {t : ℕ} (h : flight num k j = some t) : t < j := by
  induction j generalizing t with
  | zero => cases h
  | succ j ih =>
      rw [flight] at h
      split at h
      · split at h
        · cases h
          exact Nat.succ_pos j
        · cases h
      · next s hs =>
        cases h
        exact Nat.succ_lt_succ (ih hs)

/-- Which bullets are near the heart, with the lanes on their flights. -/
theorem Bullets.mem_hitting_of_at {r : Bullets} {o : Fin 15 → Option ℕ}
    (hat : ∀ k, r.frame.At k (o k)) (k : Fin 15) :
    k ∈ r.hitting heart ↔ ∃ t, o k = some t ∧ LaneNear k t (point heart) := by
  rw [Bullets.mem_hitting]
  have hk := hat k
  cases hf : o k with
  | none =>
      rw [hf] at hk
      have hshow : r.showBullet k = false := hk.1
      simp [hshow]
  | some t =>
      rw [hf] at hk
      have hshow : r.showBullet k = true := hk.1
      have hnear : sqDist (r.position k) heart ≤ 169 ↔ LaneNear k t (point heart) :=
        OnTrack.near_iff hk.2
      simp [hshow, hnear]

/-- A battle with a held heart that nothing comes near before frame `j` has all HP left at
that frame's edge, which sees the lanes on their flights. -/
theorem Battle.held_edge {rom : Rom} {counter : ℕ → BitVec 10} {b : ℕ → Battle}
    (hb : ∀ n, b (n + 1) =
      (b n).step rom (heldInputs counter heart n) (heldInputs counter heart (n + 1)))
    (h0 : (b 0).Entered) (hfield : InField heart)
    (hnum : ∀ j e, IsNth (Rises (Battle.vs b)) 0 (241 + j) e →
      rom (b (e + 1)).bullets.bAddress = num j)
    (hclear : ∀ l, l < j → ∀ k, ¬ LaneNear k ((flight num k l).getD 0) (point heart))
    (hj : 0 < j) (hj' : j ≤ 313) :
    ∃ e, IsNth (Rises (Battle.vs b)) 0 (241 + j) e ∧ (b e).bullets.hp = 5#4 ∧
      ∀ k, (b (e + 1)).bullets.frame.At k (flight num k j) := by
  obtain ⟨e, he, hsettled, hframe⟩ := Battle.exists_frame hb h0.flower h0.hidden
    (fun _ => rfl) hfield (fun _ => rfl) num hnum j
  have hlen : ∀ k, 313 ≤ laneLength k := by decide
  obtain ⟨hhp, hat⟩ := heldFrames_at num heart (b 0).bullets.hp hclear fun l hl k t ht => by
    have hlt := flight_lt ht
    have hk := hlen k
    omega
  rw [← hframe] at hhp hat
  have hstart : (b e).flower.startBullet = true := by
    have hcount := he.countIn_eq
    rw [Battle.startBullet_eq hb h0.flower]
    exact decide_eq_true (by omega)
  have hposition : (b (e + 1)).bullets.position = (b e).bullets.position := by
    rw [Battle.bullets_succ hb e]
    exact Bullets.step_position_quiet rfl hsettled.quiet hsettled.home
  have hshow : (b (e + 1)).bullets.showBullet = (b e).bullets.showBullet := by
    funext k
    rw [Battle.showBullet_succ hb hsettled.quiet, hstart, Bool.true_and]
  refine ⟨e, he, (show (b e).bullets.hp = _ from hhp).trans h0.hp, fun k => ?_⟩
  rw [Bullets.frame, hposition, hshow]
  exact hat k

end held

/-- A heart that is held in the middle of the field, at difficulty 1. -/
def middle : ℕ → BattleInputs := heldInputs (fun _ => 0#10) (319#10, 317#10)

/-- A battle against it in which the ROM shows lane 4 only. -/
def laneFour : ℕ → Battle := Battle.run (fun _ => 4#4) middle (Battle.entry Vga.init)

theorem laneFour_succ (n : ℕ) : laneFour (n + 1) =
    (laneFour n).step (fun _ => 4#4) (middle n) (middle (n + 1)) := rfl

theorem laneFour_flight (j : ℕ) (k : Fin 15) :
    flight (fun _ => 4#4) k j = if k = 4 ∧ 0 < j then some (j - 1) else none := by
  rcases eq_or_ne k 4 with rfl | hk
  · rw [flight_eq (a := 0) rfl fun l hl => absurd hl (Nat.not_lt_zero l)]
    simp
  · rw [if_neg fun h => hk h.1]
    exact flight_never fun l _ h => hk (Fin.ext h.symm)

/-- Before frame 192 no lane is near. -/
theorem laneFour_clear {l : ℕ} (hl : l < 192) (k : Fin 15) :
    ¬ LaneNear k ((flight (fun _ => 4#4) k l).getD 0) (point (319#10, 317#10)) := by
  have hclear : ∀ l, l < 192 → ∀ k : Fin 15,
      ¬ LaneNear k ((if k = 4 ∧ 0 < l then some (l - 1) else none).getD 0)
        (point (319#10, 317#10)) := by
    decide +kernel
  rw [laneFour_flight]
  exact hclear l hl k

/-- The 433rd frame edge comes with all HP left and sees the bullet of lane 4, and no
other, near the heart. -/
theorem laneFour_edge : ∃ n, IsNth (Rises (Battle.vs laneFour)) 0 433 n ∧
    (laneFour n).bullets.hp = 5#4 ∧
      (laneFour (n + 1)).bullets.hitting (319#10, 317#10) = {4} ∧
        hitLane (319#10, 317#10) (laneFour (n + 1)).bullets.position = some 4 := by
  have hfield : InField (319#10, 317#10) := ⟨by decide, by decide, by decide, by decide⟩
  obtain ⟨n, hn, hhp, hat⟩ := Battle.held_edge (j := 192) laneFour_succ
    (Battle.entry_entered Vga.init) hfield (fun _ _ _ => rfl)
    (fun l hl k => laneFour_clear hl k) (by decide) (by decide)
  simp only [laneFour_flight 192] at hat
  have hhitting : (laneFour (n + 1)).bullets.hitting (319#10, 317#10) = {4} := by
    ext k
    rw [Bullets.mem_hitting_of_at hat, Finset.mem_singleton]
    constructor
    · rintro ⟨t, ht, -⟩
      by_contra hk
      rw [if_neg fun h => hk h.1] at ht
      cases ht
    · rintro rfl
      exact ⟨191, rfl, by decide⟩
  refine ⟨n, hn, hhp, hhitting, hitLane_eq_some.mpr ⟨?_, fun j hj => ?_⟩⟩
  · exact (Bullets.mem_hitting.mp (hhitting ▸ Finset.mem_singleton_self 4)).2
  · have hinit := hat j
    rw [if_neg fun h => absurd h.1 hj.ne] at hinit
    rw [show (laneFour (n + 1)).bullets.position j = laneInit j from hinit.2]
    exact laneInit_not_near hfield

/-- In the 433rd frame of that battle the bullet of lane 4 reaches the heart.  The hit
counts, and the bullet is removed. -/
theorem Battle.hits_count_laneFour :
    ∃ n, IsNth (Rises (Battle.vs laneFour)) 0 433 n ∧ (laneFour n).bullets.hp = 5#4 ∧
      (laneFour (n + 1)).bullets.hitting (319#10, 317#10) = {4} ∧
      Battle.HitsCount middle laneFour n := by
  obtain ⟨n, hn, hhp, hhitting, hlane⟩ := laneFour_edge
  refine ⟨n, hn, hhp, hhitting, ?_⟩
  refine (Battle.hits_count_iff (fun _ => 4#4) middle (Battle.entry Vga.init) rfl
    (fun _ _ => ⟨rfl, rfl⟩) n hn.2.1 ?_).mpr
    (.inr ⟨4, hhitting, fun _ => (hitLane_eq_some.mp hlane).2⟩)
  show ((laneFour (n + 1)).bullets.hitting (319#10, 317#10)).card ≤ (laneFour n).bullets.hp.toNat
  rw [hhitting, hhp]
  decide

/-! ## A crossing -/

/-- The numbers of `random.txt`, sixty-four to a word. -/
def random : List ℕ :=
  [0x2b8a008964a235599e321b3aa84830c22d08428b7435cd9d8d02ae69185661b0,
    0x319064adb236ca833834db8d46c44430be7257a3d3c7b51584943d2c464b284e,
    0xba9bbe9572cdab417a43a563c941a0b67c230c9ac58bbcbc5c91dc9a091a4826,
    0x9c2139c3cd6ad2c6da7e5017c5d068c5d068c27b5e8dc411725bc1c4c001d285,
    0x8809ad66e85a729be90717020d5a729be90717020d5a6322d6135a8745b42763,
    0x95e12a2c7389b3ca362808d7c9c4c93857d803764d7b8d876749438593ae805a,
    0x57653a553c9c7910e8c1c3ba66c55a5267629e27b2a55d9bc5d16cda909b7bd9,
    0x94d3700b19ad7add55577346ba4248e9b78616cddb1a30da854741b2b7b8cd20,
    0x74e8d457dbe107439c96a8915e817e584914d91b5581e13d5c9648954262a17c,
    0x66973773170304dea74b7360ac8e000e4e3dc758e618d99594c50cde2e23bebb,
    0x6a2a33318857bd7d02debae00c839a50c9c3b1506064a0c107a46eb821b381b9,
    0xbbd1b50607d63367c90eceeadc592c9c3d65089e3d0ee38d8338b637e1a7ba71,
    0xda820c1ee99aa366285672e2867e04969300b89e148b48ccaa2d05eb98c69112,
    0x846155759d5283dee688d11393635e238e4a75d387c95b3b163281a9260c4940,
    0xb9d05db2bb244de92c9714b82c1e918051b6530dc9b07e79952249056ddcbd51,
    0x2bc9eba5ae83ce7a720771b77db1ede41b568977adb0e9b29046e176adc74b32]

/-- What `rand_rom` is loaded with. -/
def randRom : Rom := fun address =>
  BitVec.ofNat 4 (random.getD (address.toNat / 64) 0 >>> (4 * (63 - address.toNat % 64)))

/-- The right border of the field, near the crossing of the lanes 3 and 12. -/
def crossingHeart : BitVec 10 × BitVec 10 := (390#10, 280#10)

/-- A heart that is held there in a battle with the frame counter at 114 at its entry. -/
def crossing : ℕ → BattleInputs :=
  heldInputs (fun n => BitVec.ofNat 10 (114 + countIn (Rises fun n => (Vga.scan n).vs) 0 n))
    crossingHeart

/-- That battle, with the numbers of `random.txt`. -/
def crossingBattle : ℕ → Battle := Battle.run randRom crossing (Battle.entry Vga.init)

/-- The bullet numbers that it reads. -/
def crossingNum (j : ℕ) : BitVec 4 := randRom (BitVec.ofNat 10 (114 + romFrame (241 + j)))

/-- The frames in which the ROM shows the first four lanes. -/
def crossingLaunch : Fin 15 → Option ℕ :=
  ![none, none, none, some 3, some 95, none, some 64, none, none, none, none, none, some 0, none,
    none]

/-- How far the lanes have come in frame `j`. -/
def crossingFlight (j : ℕ) (k : Fin 15) : Option ℕ :=
  (crossingLaunch k).bind fun a => if a < j then some (j - (a + 1)) else none

theorem crossing_flight {j : ℕ} (hj : j ≤ 123) (k : Fin 15) :
    flight crossingNum k j = crossingFlight j k := by
  have hnone : ∀ k, crossingLaunch k = none → ∀ l, l < 123 → (crossingNum l).toNat ≠ k := by
    decide +kernel
  have hsome : ∀ a, a < 96 → ∀ k, crossingLaunch k = some a →
      (crossingNum a).toNat = k ∧ ∀ l, l < a → (crossingNum l).toNat ≠ k := by
    decide +kernel
  have hlaunch : ∀ k a, crossingLaunch k = some a → a < 96 := by
    intro k
    fin_cases k <;> simp [crossingLaunch]
  unfold crossingFlight
  cases h : crossingLaunch k with
  | none => exact flight_never fun l hl => hnone k h l (by omega)
  | some a =>
      obtain ⟨ha, hno⟩ := hsome a (hlaunch k a h) k h
      exact flight_eq ha hno j

/-- Before frame 123 no lane is near. -/
theorem crossing_clear {l : ℕ} (hl : l < 123) (k : Fin 15) :
    ¬ LaneNear k ((crossingFlight l k).getD 0) (point crossingHeart) := by
  have hclear : ∀ l, l < 123 → ∀ k,
      ¬ LaneNear k ((crossingFlight l k).getD 0) (point crossingHeart) := by
    decide +kernel
  exact hclear l hl k

theorem crossingHeart_inField : InField crossingHeart where
  left := by decide
  right := by decide
  top := by decide
  bottom := by decide

/-- Frame 123 finds the bullets of the lanes 3 and 12, and no others, near the heart. -/
theorem crossing_near (k : Fin 15) :
    (∃ t, crossingFlight 123 k = some t ∧ LaneNear k t (point crossingHeart)) ↔ k = 3 ∨ k = 12 := by
  have hnear : ∀ k,
      (crossingFlight 123 k).any (fun t => LaneNear k t (point crossingHeart)) = true ↔
        k = 3 ∨ k = 12 := by
    decide +kernel
  rw [← hnear k, Option.any_eq_true]
  simp only [decide_eq_true_eq]

/-! The battle from its entry up to the edge of frame 123. -/

theorem crossingBattle_succ (n : ℕ) : crossingBattle (n + 1) =
    (crossingBattle n).step randRom (crossing n) (crossing (n + 1)) := rfl

/-- The frame counter counts the frame edges of the battle. -/
theorem crossing_counter (n : ℕ) : (crossing n).counter =
    BitVec.ofNat 10 (114 + countIn (Rises (Battle.vs crossingBattle)) 0 n) := by
  have hvga : ∀ n, (crossingBattle n).vga = Vga.scan n := run_map Battle.vga fun _ => rfl
  have hvs : Battle.vs crossingBattle = fun n => (Vga.scan n).vs := by
    funext n
    rw [Battle.vs, hvga]
  rw [hvs]
  rfl

theorem crossing_num (j e : ℕ) (he : IsNth (Rises (Battle.vs crossingBattle)) 0 (241 + j) e) :
    randRom (crossingBattle (e + 1)).bullets.bAddress = crossingNum j := by
  have haddr := (Battle.bAddress_eq crossingBattle_succ crossing_counter rfl (e + 1)).2
    (by rw [he.2.2]; omega)
  rw [haddr, he.2.2]
  rfl

/-- The 364th edge comes with all HP left and sees the lanes where frame 123 has them. -/
theorem crossing_edge : ∃ e, IsNth (Rises (Battle.vs crossingBattle)) 0 364 e ∧
    (crossingBattle e).bullets.hp = 5#4 ∧
      ∀ k, (crossingBattle (e + 1)).bullets.frame.At k (crossingFlight 123 k) := by
  obtain ⟨e, he, hhp, hat⟩ := Battle.held_edge (j := 123) crossingBattle_succ
    (Battle.entry_entered Vga.init) crossingHeart_inField crossing_num
    (fun l hl k => by rw [crossing_flight (by omega) k]; exact crossing_clear hl k)
    (by decide) (by decide)
  exact ⟨e, he, hhp, fun k => by rw [← crossing_flight le_rfl k]; exact hat k⟩

theorem crossing_hitting {r : Bullets} (hat : ∀ k, r.frame.At k (crossingFlight 123 k)) :
    r.hitting crossingHeart = {3, 12} := by
  ext k
  rw [Bullets.mem_hitting_of_at hat, crossing_near, Finset.mem_insert, Finset.mem_singleton]

/-- In the 364th frame of the battle the bullets of the lanes 3 and 12 reach the heart,
and one HP is taken. -/
theorem Battle.not_hits_count :
    ∃ n, IsNth (Rises (Battle.vs crossingBattle)) 0 364 n ∧
      (crossingBattle (n + 1)).bullets.hitting crossingHeart = {3, 12} ∧
      (crossingBattle n).bullets.hp = 5#4 ∧ (crossingBattle (n + 1)).bullets.hp = 4#4 ∧
      ¬ Battle.HitsCount crossing crossingBattle n := by
  obtain ⟨e, he, hhp5, hat⟩ := crossing_edge
  have hhitting := crossing_hitting hat
  have hhp4 : (crossingBattle (e + 1)).bullets.hp = 4#4 := by
    have hmem : (3 : Fin 15) ∈ (crossingBattle (e + 1)).bullets.hitting crossingHeart := by
      rw [hhitting]
      decide
    rw [Battle.hp_rises crossingBattle_succ he.2.1, hhp5]
    cases hlane : hitLane (crossing (e + 1)).heart (crossingBattle (e + 1)).bullets.position with
    | none => exact absurd (Bullets.mem_hitting.mp hmem).2 (hitLane_eq_none.mp hlane 3)
    | some k => rfl
  refine ⟨e, he, hhitting, hhp5, hhp4, fun hcount => ?_⟩
  have hcard := hcount.1
  rw [hhp5, hhp4] at hcard
  have h2 : ((crossingBattle (e + 1)).bullets.hitting (crossing (e + 1)).heart).card = 2 :=
    congrArg Finset.card hhitting
  rw [h2] at hcard
  exact absurd hcard (by decide)

end Undertale
