import Undertale.BattleHits

/-!
# A battle, frame by frame

From the frame edge on that starts the bullets, the 241st of a battle, a battle is
a run of the frames (`Battle.exists_frame`): HP, which lanes have a bullet and where
it is, with the bullet numbers of the ROM as the only input left once the heart is
held and the difficulty fixed.

A lane of the frames that nothing hits flies along its track
(`BattleFrame.At.step_shown`), and starts again from its starting point when the ROM
shows it (`BattleFrame.At.step_hidden`).
-/

namespace Undertale

open Clocked

/-! ## A lane in a frame -/

/-- The lane is hidden at its starting point, or in view after `t` steps. -/
def BattleFrame.At (f : BattleFrame) (k : Fin 15) : Option ℕ → Prop
  | none => f.visible k = false ∧ f.position k = laneInit k
  | some t => f.visible k = true ∧ OnTrack k t (f.position k)

theorem BattleFrame.at_start (hp : BitVec 4) (k : Fin 15) :
    BattleFrame.At ⟨hp, fun _ => false, laneInit⟩ k none := ⟨rfl, rfl⟩

/-- The lane is on its track in either case. -/
theorem BattleFrame.At.onTrack {f : BattleFrame} {k : Fin 15} {o : Option ℕ} (h : f.At k o) :
    OnTrack k (o.getD 0) (f.position k) := by
  cases o with
  | none => rw [h.2]; exact onTrack_init k
  | some t => exact h.2

section step
variable {f : BattleFrame} {i : FrameInputs} {k : Fin 15}
  (hnone : hitLane i.heart f.position = none)
include hnone

/-- A frame without a hit takes no HP. -/
theorem BattleFrame.step_hp_quiet : (f.step i).hp = f.hp := by
  simp [BattleFrame.step, hnone]

/-- A hidden lane that nothing hits comes into view if the ROM shows it. -/
theorem BattleFrame.At.step_hidden (h : f.At k none) :
    (f.step i).At k (if i.bulletNum.toNat = k then some 0 else none) := by
  obtain ⟨hk, hpos⟩ := h
  have hstart : (f.step i).position k = laneInit k := by simp [BattleFrame.step, hnone, hk]
  have hshow : (f.step i).visible k = decide (i.bulletNum.toNat = k) := by
    simp [BattleFrame.step, hnone, hk]
  split
  · next hnum => exact ⟨by rw [hshow, decide_eq_true hnum], by rw [hstart]; exact onTrack_init k⟩
  · next hnum => exact ⟨by rw [hshow, decide_eq_false hnum], hstart⟩

/-- A bullet in view that nothing hits makes a step, short of the end of its lane. -/
theorem BattleFrame.At.step_shown {t : ℕ} (h : f.At k (some t)) (ht : t < laneLength k) :
    (f.step i).At k (some (t + i.difficulty.toNat)) := by
  obtain ⟨hk, hpos⟩ := h
  have hlimit : pastLimit k (f.position k) = false := by
    rw [hpos.pastLimit_eq]
    exact decide_eq_false (by omega)
  refine ⟨?_, ?_⟩
  · simp [BattleFrame.step, hnone, hk, hlimit]
  · have hmove : (f.step i).position k = moveBy (laneDir k) i.difficulty (f.position k) := by
      simp [BattleFrame.step, hnone, hk, hlimit]
    rw [hmove]
    exact hpos.move ht i.difficulty

end step

/-! ## Flights

With the difficulty at 1 a lane that nothing hits makes one step in each frame from
the first one on in which the ROM has shown it. -/

/-- After `s` steps a bullet of the lane is near the point `p`. -/
def LaneNear (k : Fin 15) (s : ℕ) (p : ℤ × ℤ) : Prop :=
  ((lanePoint k s).1 - p.1) * ((lanePoint k s).1 - p.1) +
    ((lanePoint k s).2 - p.2) * ((lanePoint k s).2 - p.2) ≤ 169

instance (k : Fin 15) (s : ℕ) (p : ℤ × ℤ) : Decidable (LaneNear k s p) :=
  inferInstanceAs (Decidable (_ ≤ _))

/-- The coordinates of a register pair as numbers. -/
def point (p : BitVec 10 × BitVec 10) : ℤ × ℤ := (p.1.toNat, p.2.toNat)

theorem OnTrack.near_iff {k : Fin 15} {s : ℕ} {p heart : BitVec 10 × BitVec 10}
    (h : OnTrack k s p) : sqDist p heart ≤ 169 ↔ LaneNear k s (point heart) := by
  unfold sqDist LaneNear point
  rw [h.x, h.y]

/-- How far a lane has come in frame `j` when the ROM gives the numbers `num`. -/
def flight (num : ℕ → BitVec 4) (k : Fin 15) : ℕ → Option ℕ
  | 0 => none
  | j + 1 =>
      match flight num k j with
      | none => if (num j).toNat = k then some 0 else none
      | some t => some (t + 1)

section flight
variable {num : ℕ → BitVec 4} {k : Fin 15}

theorem flight_never {j : ℕ} (h : ∀ l, l < j → (num l).toNat ≠ k) : flight num k j = none := by
  induction j with
  | zero => rfl
  | succ j ih =>
      rw [flight, ih fun l hl => h l (Nat.lt_succ_of_lt hl)]
      exact if_neg (h j (Nat.lt_succ_self j))

theorem flight_from {a : ℕ} (ha : (num a).toNat = k) (hno : ∀ l, l < a → (num l).toNat ≠ k)
    (j : ℕ) : flight num k (a + 1 + j) = some j := by
  induction j with
  | zero =>
      rw [Nat.add_zero, flight, flight_never hno]
      exact if_pos ha
  | succ j ih =>
      rw [← Nat.add_assoc, flight, ih]

theorem flight_eq {a : ℕ} (ha : (num a).toNat = k) (hno : ∀ l, l < a → (num l).toNat ≠ k) (j : ℕ) :
    flight num k j = if a < j then some (j - (a + 1)) else none := by
  split
  · next hlt =>
    obtain ⟨t, rfl⟩ := Nat.exists_eq_add_of_le (Nat.succ_le_of_lt hlt)
    rw [Nat.succ_eq_add_one, flight_from ha hno, Nat.add_sub_cancel_left]
  · next hle => exact flight_never fun l hl => hno l (by omega)

end flight

/-- The frames of a held heart at difficulty 1. -/
def heldFrames (num : ℕ → BitVec 4) (heart : BitVec 10 × BitVec 10) (hp : BitVec 4) :
    ℕ → BattleFrame :=
  Clocked.run (fun j => BattleFrame.step ⟨num j, 1#2, heart⟩) ⟨hp, fun _ => false, laneInit⟩

/-- The lanes of a frame that are on their flights are near the heart where their
flights are. -/
theorem BattleFrame.hitLane_none {f : BattleFrame} {heart : BitVec 10 × BitVec 10}
    {o : Fin 15 → Option ℕ} (h : ∀ k, f.At k (o k))
    (hclear : ∀ k, ¬ LaneNear k ((o k).getD 0) (point heart)) :
    hitLane heart f.position = none :=
  hitLane_eq_none.mpr fun k hnear => hclear k ((h k).onTrack.near_iff.mp hnear)

/-- As long as no lane comes near the heart all lanes keep to their flights. -/
theorem heldFrames_at (num : ℕ → BitVec 4) (heart : BitVec 10 × BitVec 10) (hp : BitVec 4) {j : ℕ}
    (hclear : ∀ l, l < j → ∀ k, ¬ LaneNear k ((flight num k l).getD 0) (point heart))
    (hlen : ∀ l, l < j → ∀ k t, flight num k l = some t → t < laneLength k) :
    (heldFrames num heart hp j).hp = hp ∧
      ∀ k, (heldFrames num heart hp j).At k (flight num k j) := by
  induction j with
  | zero => exact ⟨rfl, fun k => BattleFrame.at_start hp k⟩
  | succ j ih =>
      obtain ⟨hhp, hat⟩ := ih (fun l hl => hclear l (Nat.lt_succ_of_lt hl))
        fun l hl => hlen l (Nat.lt_succ_of_lt hl)
      have hnone := BattleFrame.hitLane_none hat (hclear j (Nat.lt_succ_self j))
      rw [heldFrames, run_succ, ← heldFrames]
      refine ⟨(BattleFrame.step_hp_quiet (i := ⟨num j, 1#2, heart⟩) hnone).trans hhp, fun k => ?_⟩
      have hk := hat k
      rw [flight]
      cases hf : flight num k j with
      | none =>
          rw [hf] at hk
          exact hk.step_hidden (i := ⟨num j, 1#2, heart⟩) hnone
      | some t =>
          rw [hf] at hk
          exact hk.step_shown (i := ⟨num j, 1#2, heart⟩) hnone (hlen j (Nat.lt_succ_self j) k t hf)

/-- A heart held at `heart`, at difficulty 1. -/
def heldInputs (counter : ℕ → BitVec 10) (heart : BitVec 10 × BitVec 10) (n : ℕ) :
    BattleInputs where
  difficulty := 1#2
  counter := counter n
  posXH := heart.1
  posYH := heart.2

/-! ## The first frame with bullets -/

section run
variable {rom : Rom} {i : ℕ → BattleInputs} {b : ℕ → Battle}
  (hb : ∀ n, b (n + 1) = (b n).step rom (i n) (i (n + 1)))
include hb

/-- What `bullets_move` samples in each cycle. -/
def Battle.samples (i : ℕ → BattleInputs) (b : ℕ → Battle) (n : ℕ) : BulletsInputs :=
  (b n).bulletsInputs (i n)

section entered
variable (h0 : (b 0).flower = Flower.clear)
include h0

/-- The bullets have not started before the 241st frame edge, and have after it. -/
theorem Battle.startBullet_eq (n : ℕ) :
    (b n).flower.startBullet = decide (240 < countIn (Rises (Battle.vs b)) 0 n) := by
  rw [Battle.flower_eq hb h0]
  rfl

section hidden
variable (hhidden : (b 0).Hidden) {n : ℕ} (hn : countIn (Rises (Battle.vs b)) 0 n ≤ 240)
include hhidden hn

/-- Up to the 241st frame edge every lane is hidden. -/
theorem Battle.showBullet_before (k : Fin 15) : (b n).bullets.showBullet k = false := by
  cases n with
  | zero => exact hhidden.showBullet k
  | succ n =>
      cases hk : (b (n + 1)).bullets.showBullet k with
      | false => rfl
      | true =>
          have hstart := Battle.startBullet_of_shown hb hk
          rw [Battle.startBullet_eq hb h0] at hstart
          have hcount := of_decide_eq_true hstart
          have hmono := countIn_mono (p := Rises (Battle.vs b)) (Nat.zero_le n) (Nat.le_succ n)
          exact absurd (hmono.trans hn) (Nat.not_le.mpr hcount)

theorem Battle.position_before : (b n).bullets.position = laneInit := by
  funext k
  cases n with
  | zero => rw [Bullets.position, hhidden.bullet k, Lane.pos_init]
  | succ n =>
      have hmono := countIn_mono (p := Rises (Battle.vs b)) (Nat.zero_le n) (Nat.le_succ n)
      exact Battle.position_hidden hb
        (Battle.showBullet_before hb h0 hhidden (Nat.le_trans hmono hn) k)

/-- No HP is lost before there are bullets. -/
theorem Battle.hp_before (hfield : ∀ n, InField (i n).heart) :
    (b n).bullets.hp = (b 0).bullets.hp := by
  induction n with
  | zero => rfl
  | succ n ih =>
      have hmono := countIn_mono (p := Rises (Battle.vs b)) (Nat.zero_le n) (Nat.le_succ n)
      rw [← ih (Nat.le_trans hmono hn)]
      rcases Classical.em (Rises (Battle.vs b) n) with hr | hr
      · have hnone : hitLane (i (n + 1)).heart (b (n + 1)).bullets.position = none := by
          rw [Battle.position_before hb h0 hhidden hn]
          exact hitLane_eq_none.mpr fun k => laneInit_not_near (hfield (n + 1))
        rw [Battle.hp_rises hb hr, hnone]
        rfl
      · rw [Battle.bullets_succ hb n, Bullets.step_hp]
        exact if_neg hr

end hidden

/-! ## One frame with bullets -/

omit h0 hb in
/-- The samples with `start_bullet` up in the cycle `e`. -/
def Battle.raised (i : ℕ → BattleInputs) (b : ℕ → Battle) (e n : ℕ) : BulletsInputs :=
  if n = e then { Battle.samples i b n with startBullet := true } else Battle.samples i b n

omit hb h0 in
theorem Battle.raised_eq (e n : ℕ) :
    Battle.raised i b e n =
      { Battle.samples i b n with
        startBullet := if n = e then true else (b n).flower.startBullet } := by
  unfold Battle.raised
  split
  · rfl
  · rfl

omit h0 in
/-- In a cycle without a tick that finds every lane hidden it makes no difference
whether the bullets have started. -/
theorem Battle.bullets_raised {e : ℕ} (ht : (b e).bullets.frameClk.risingEdge = false)
    (h : (b e).flower.startBullet = true ∨ ∀ k, (b e).bullets.showBullet k = false) (n : ℕ) :
    (b (n + 1)).bullets =
      (b n).bullets.step rom (Battle.raised i b e n) (Battle.raised i b e (n + 1)) := by
  rw [Battle.bullets_succ hb n]
  have hclk : (b n).bullets.posedgeClk rom (Battle.raised i b e n) =
      (b n).bullets.posedgeClk rom (Battle.samples i b n) := by
    rw [Battle.raised_eq]
    rcases eq_or_ne n e with rfl | hne
    · refine Bullets.ext rfl rfl rfl rfl (funext fun k => ?_) rfl rfl
      simp only [Bullets.posedgeClk, if_true, Battle.samples, Battle.bulletsInputs]
      rcases h with hstart | hhidden
      · simp [hstart, Bullets.showBulletIn]
      · simp [Bullets.showBulletIn, ht, hhidden k]
    · rw [if_neg hne]
      rfl
  unfold Bullets.step
  rw [hclk, Battle.raised_eq, Battle.raised_eq]
  rfl

/-- A frame from the 241st edge on is a step of the frames, and ends settled. -/
theorem Battle.frame_succ (hstill : HeartStill i b) {e e' : ℕ} (hee' : e < e')
    (he : Rises (Battle.vs b) e) (he' : Rises (Battle.vs b) e')
    (hno : ∀ n, e < n → n < e' → ¬ Rises (Battle.vs b) n)
    (hcount : 240 ≤ countIn (Rises (Battle.vs b)) 0 e)
    (hstart : (b e).flower.startBullet = true ∨ ∀ k, (b e).bullets.showBullet k = false)
    (hsettled : (b e).bullets.Settled) :
    (b e').bullets.frame =
        (b e).bullets.frame.step
          ⟨rom (b (e + 1)).bullets.bAddress, (i (e + 1)).difficulty, (i e).heart⟩ ∧
      (b e').bullets.Settled := by
  have hvs : BulletsInputs.vs (Battle.raised i b e) = Battle.vs b := by
    funext n
    rw [BulletsInputs.vs, Battle.raised_eq]
    rfl
  have hframe : Bullets.IsFrame (Battle.raised i b e) e e' := by
    refine ⟨by rw [hvs]; exact he, by rw [hvs]; exact hno, Battle.apart hb he he' hee', ?_, ?_, ?_⟩
    · intro n _ _
      rw [Battle.raised_eq]
      rfl
    · intro n hn _
      rw [Battle.raised_eq]
      rcases Nat.eq_or_lt_of_le hn with rfl | hlt
      · exact if_pos rfl
      · refine (if_neg (by omega)).trans ?_
        have hmono := countIn_mono (p := Rises (Battle.vs b)) (Nat.zero_le (e + 1)) hlt
        rw [countIn_succ (Nat.zero_le e), if_pos he] at hmono
        rw [Battle.startBullet_eq hb h0]
        exact decide_eq_true (by omega)
    · intro n hn hn'
      rw [Battle.raised_eq, Battle.raised_eq]
      obtain ⟨h1, h2⟩ := hstill e he
      obtain rfl | rfl : n = e ∨ n = e + 1 := by omega
      · exact h1
      · exact h2.trans h1.symm
  obtain ⟨hstep, hsettled'⟩ :=
    hframe.frame_eq (r := fun n => (b n).bullets)
      (Battle.bullets_raised hb hsettled.quiet hstart) hsettled
  refine ⟨?_, hsettled'⟩
  rw [hstep, Bullets.frameInputs, Battle.raised_eq, Battle.raised_eq]
  rfl

/-- From the 241st frame edge on the battle is a run of the frames: the heart is held
at `heart`, the difficulty is `difficulty`, and `num` are the bullet numbers the ROM
has given after each edge. -/
theorem Battle.exists_frame (hhidden : (b 0).Hidden) {heart : BitVec 10 × BitVec 10}
    (hheart : ∀ n, (i n).heart = heart) (hfield : InField heart)
    (hd : ∀ n, (i n).difficulty = 1#2) (num : ℕ → BitVec 4)
    (hnum : ∀ j e, IsNth (Rises (Battle.vs b)) 0 (241 + j) e →
      rom (b (e + 1)).bullets.bAddress = num j) (j : ℕ) :
    ∃ e, IsNth (Rises (Battle.vs b)) 0 (241 + j) e ∧ (b e).bullets.Settled ∧
      (b e).bullets.frame = heldFrames num heart (b 0).bullets.hp j := by
  have hforever : ∀ k, ∃ l, k ≤ l ∧ Rises (Battle.vs b) l :=
    Vga.exists_rises (r := fun n => (b n).vga) (Battle.vga_succ hb)
  have hstill : HeartStill i b := fun n _ => by simp [hheart]
  induction j with
  | zero =>
      obtain ⟨e, he⟩ := exists_isNth_of_forever (a := 0) (n := 241) hforever (by omega)
      have hcount := he.countIn_eq
      have hle : countIn (Rises (Battle.vs b)) 0 e ≤ e := Nat.count_le _
      have hbefore : countIn (Rises (Battle.vs b)) 0 e ≤ 240 := by omega
      have hpos := Battle.position_before hb h0 hhidden hbefore
      refine ⟨e, he, ⟨?_, fun k _ => congrFun hpos k⟩, BattleFrame.ext ?_ ?_ hpos⟩
      · obtain ⟨m, rfl⟩ : ∃ m, e = m + 2 := ⟨e - 2, by omega⟩
        exact Battle.no_tick hb he.2.1
      · exact Battle.hp_before hb h0 hhidden hbefore fun n => hheart n ▸ hfield
      · exact funext fun k => Battle.showBullet_before hb h0 hhidden hbefore k
  | succ j ih =>
      obtain ⟨e, he, hsettled, hframe⟩ := ih
      obtain ⟨e', hee', he', hno⟩ :=
        exists_next_rises (a := e) (v := Battle.vs b) (by
          obtain ⟨l, hl, hrise⟩ := hforever (e + 1)
          exact ⟨l, hl, hrise⟩)
      have hcount := he.countIn_eq
      have hcount' : countIn (Rises (Battle.vs b)) 0 e' = 241 + j := by
        rw [countIn_eq_of_quiet (b := e + 1) (Nat.zero_le _) hee' fun n hn hn' => hno n hn hn']
        exact he.2.2
      have hstart : (b e).flower.startBullet = true ∨ ∀ k, (b e).bullets.showBullet k = false := by
        rcases Nat.eq_zero_or_pos j with rfl | hj
        · exact .inr (Battle.showBullet_before hb h0 hhidden (by omega))
        · left
          rw [Battle.startBullet_eq hb h0]
          exact decide_eq_true (by omega)
      obtain ⟨hstep, hsettled'⟩ :=
        Battle.frame_succ hb h0 hstill hee' he.2.1 he' hno (by omega) hstart hsettled
      refine ⟨e', ⟨Nat.zero_le _, he', ?_⟩, hsettled', ?_⟩
      · rw [countIn_succ (Nat.zero_le e'), if_pos he', hcount']
        omega
      · rw [hstep, hframe, hnum j e he, hd, hheart, heldFrames, run_succ]

end entered

/-! ## The ROM address

Two of the sixty-one values of the sprite counter load the ROM address. -/

omit hb in
theorem Bullets.counterStep_battle (counter : BitVec 10) {r : Bullets}
    (h : r.inCounter.toNat ≤ 60) :
    (r.counterStep 5#4 counter).inCounter.toNat = (r.inCounter.toNat + 1) % 61 ∧
      (r.counterStep 5#4 counter).bAddress =
        if r.inCounter.toNat = 30 ∨ r.inCounter.toNat = 60 then counter else r.bAddress := by
  have hnext : r.inCounter.toNat < 60 →
      (r.inCounter + 1#6).toNat = (r.inCounter.toNat + 1) % 61 := by
    intro hlt
    rw [toNat_add_one, if_neg (by omega), Nat.mod_eq_of_lt (by omega)]
  have h30 : r.inCounter = 30#6 ↔ r.inCounter.toNat = 30 := BitVec.toNat_inj.symm
  generalize haddress : (if r.inCounter.toNat = 30 ∨ r.inCounter.toNat = 60 then counter
    else r.bAddress) = address
  unfold Bullets.counterStep
  rw [if_neg (by decide)]
  simp only [BitVec.le_def, BitVec.lt_def, h30, BitVec.toNat_ofNat, Nat.reducePow, Nat.reduceMod]
  split_ifs with h1 h2 h3 h4 h5 h6
  · exact ⟨hnext (by omega), (if_neg (by omega)).symm.trans haddress⟩
  · exact ⟨hnext (by omega), (if_neg (by omega)).symm.trans haddress⟩
  · exact ⟨hnext (by omega), (if_pos (.inl h3)).symm.trans haddress⟩
  · exact ⟨hnext (by omega), (if_neg (by omega)).symm.trans haddress⟩
  · exact ⟨hnext h5, (if_neg (by omega)).symm.trans haddress⟩
  · have hlast : r.inCounter.toNat = 60 := h.antisymm h6
    exact ⟨by rw [hlast]; rfl, (if_pos (.inr hlast)).symm.trans haddress⟩
  · exact absurd (Nat.not_lt.mp h5) h6

/-- The frame in which the address was loaded that the ROM has after `t` frame edges. -/
def romFrame (t : ℕ) : ℕ := if t % 61 ≤ 30 then t / 61 * 61 - 1 else t / 61 * 61 + 30

omit hb in
theorem romFrame_succ {t : ℕ} (h : 61 ≤ t) :
    romFrame (t + 1) = if t % 61 = 30 ∨ t % 61 = 60 then t else romFrame t := by
  unfold romFrame
  repeat' split
  all_goals omega

/-- With a counter that counts the frames, as that of the text controller does, the
ROM address is the count at which it was loaded. -/
theorem Battle.bAddress_eq {c : ℕ} (hcounter : ∀ n, (i n).counter =
      BitVec.ofNat 10 (c + countIn (Rises (Battle.vs b)) 0 n))
    (h0 : (b 0).bullets.inCounter = 0#6) (n : ℕ) :
    (b n).bullets.inCounter.toNat = countIn (Rises (Battle.vs b)) 0 n % 61 ∧
      (61 ≤ countIn (Rises (Battle.vs b)) 0 n → (b n).bullets.bAddress =
        BitVec.ofNat 10 (c + romFrame (countIn (Rises (Battle.vs b)) 0 n))) := by
  induction n with
  | zero =>
      rw [h0, countIn_self]
      exact ⟨rfl, fun h => absurd h (by decide)⟩
  | succ n ih =>
      obtain ⟨hin, haddr⟩ := ih
      rw [countIn_succ (Nat.zero_le n), Battle.bullets_succ hb n]
      rcases Classical.em (Rises (Battle.vs b) n) with hr | hr
      · have hclk : (Battle.bulletsInputs (i n) (b n)).frameClk = false ∧
            (Battle.bulletsInputs (i (n + 1)) (b (n + 1))).frameClk = true := hr
        rw [if_pos hr, Bullets.step, if_pos hclk]
        have hstep := Bullets.counterStep_battle (i n).counter
          (r := (b n).bullets.posedgeClk rom ((b n).bulletsInputs (i n)))
          (show (b n).bullets.inCounter.toNat ≤ 60 by omega)
        refine ⟨hstep.1.trans ?_, fun hle => hstep.2.trans ?_⟩
        · show ((b n).bullets.inCounter.toNat + 1) % 61 = _
          omega
        · show (if (b n).bullets.inCounter.toNat = 30 ∨ (b n).bullets.inCounter.toNat = 60 then _
            else (b n).bullets.bAddress) = _
          rw [hin, hcounter]
          generalize countIn (Rises (Battle.vs b)) 0 n = t at *
          rcases Nat.lt_or_ge t 61 with hlt | hge
          · obtain rfl : t = 60 := by omega
            rfl
          · rw [romFrame_succ hge]
            split
            · rfl
            · exact haddr hge
      · have hclk : ¬ ((Battle.bulletsInputs (i n) (b n)).frameClk = false ∧
            (Battle.bulletsInputs (i (n + 1)) (b (n + 1))).frameClk = true) := hr
        rw [if_neg hr, Nat.add_zero, Bullets.step, if_neg hclk]
        exact ⟨hin, haddr⟩

end run

end Undertale
