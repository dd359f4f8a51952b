import Undertale.Clocked.Run

/-!
# The frame counters

`flower` and `intro` count frames while their scene lasts: `flower` starts the
bullets and ends the battle, `intro` turns the pages of the introduction.  Both
are clocked by the frame clock alone and are cleared at a frame edge that finds
another scene.
-/

namespace Undertale

/-! ## The battle timer -/

/-- The registers of `flower`. -/
structure Flower where
  flowerNum : BitVec 3
  counter : BitVec 12
  timeUp : Bool
  startBullet : Bool
deriving DecidableEq, Repr

/-- The registers of `flower` outside the battle. -/
def Flower.clear : Flower where
  flowerNum := 0#3
  counter := 0#12
  timeUp := false
  startBullet := false

/-- One frame edge of `flower`. -/
def Flower.step (status : BitVec 4) (r : Flower) : Flower :=
  if status = 5#4 then
    if r.counter = 1#12 then
      { r with flowerNum := 1#3, startBullet := false, counter := r.counter + 1#12 }
    else if r.counter = 120#12 then
      { r with flowerNum := 2#3, startBullet := false, counter := r.counter + 1#12 }
    else if r.counter = 240#12 then
      { r with flowerNum := 3#3, startBullet := true, counter := r.counter + 1#12 }
    else if r.counter = 3840#12 then { r with timeUp := true }
    else { r with timeUp := false, counter := r.counter + 1#12 }
  else Flower.clear

theorem Flower.step_outside {status : BitVec 4} (h : status ≠ 5#4) (r : Flower) :
    r.step status = Flower.clear := by simp [Flower.step, h]

/-- Before its last frame the timer counts and raises nothing. -/
theorem Flower.step_counting {r : Flower} (hc : r.counter.toNat < 3840) (ht : r.timeUp = false) :
    (r.step 5#4).timeUp = false ∧ (r.step 5#4).counter.toNat = r.counter.toNat + 1 := by
  have hadd : (r.counter + 1#12).toNat = r.counter.toNat + 1 := by
    rw [BitVec.toNat_add]
    exact Nat.mod_eq_of_lt (by simp; omega)
  have hne : r.counter ≠ 3840#12 := by
    intro he
    rw [he] at hc
    exact absurd hc (by decide)
  unfold Flower.step
  rw [if_pos rfl]
  split
  · exact ⟨ht, hadd⟩
  · split
    · exact ⟨ht, hadd⟩
    · split
      · exact ⟨ht, hadd⟩
      · -- the last frame is excluded by `hne`
        exact ⟨rfl, hadd⟩

/-- At its last frame the timer raises `timeUp`. -/
theorem Flower.step_last {r : Flower} (hc : r.counter.toNat = 3840) :
    (r.step 5#4).timeUp = true := by
  have he : r.counter = 3840#12 := BitVec.eq_of_toNat_eq hc
  simp [Flower.step, he]

/-- The registers of `flower` after `n` frame edges of a battle. -/
def Flower.timeline (n : ℕ) : Flower where
  flowerNum := if n ≤ 1 then 0#3 else if n ≤ 120 then 1#3 else if n ≤ 240 then 2#3 else 3#3
  counter := BitVec.ofNat 12 (min n 3840)
  timeUp := decide (3840 < n)
  startBullet := decide (240 < n)

theorem Flower.timeline_zero : Flower.timeline 0 = Flower.clear := rfl

theorem Flower.step_default {r : Flower} (h1 : r.counter ≠ 1#12) (h2 : r.counter ≠ 120#12)
    (h3 : r.counter ≠ 240#12) (h4 : r.counter ≠ 3840#12) :
    r.step 5#4 = { r with timeUp := false, counter := r.counter + 1#12 } := by
  simp [Flower.step, h1, h2, h3, h4]

/-- The timeline between the special values. -/
theorem Flower.timeline_succ {n : ℕ} (h1 : n ≠ 1) (h2 : n ≠ 120) (h3 : n ≠ 240)
    (hn : n < 3840) :
    Flower.timeline (n + 1) =
      { Flower.timeline n with timeUp := false, counter := BitVec.ofNat 12 (n + 1) } := by
  have e1 : n + 1 ≤ 1 ↔ n ≤ 1 := by omega
  have e2 : n + 1 ≤ 120 ↔ n ≤ 120 := by omega
  have e3 : n + 1 ≤ 240 ↔ n ≤ 240 := by omega
  have e4 : 240 < n + 1 ↔ 240 < n := by omega
  have e5 : ¬ 3840 < n + 1 := by omega
  simp only [Flower.timeline, e1, e2, e3, e4, e5, min_eq_left (Nat.succ_le_of_lt hn),
    decide_false]

/-- The registers from the last frame on. -/
theorem Flower.timeline_last {n : ℕ} (h : 3840 ≤ n) :
    Flower.timeline n =
      { flowerNum := 3#3, counter := 3840#12, timeUp := decide (3840 < n),
        startBullet := true } := by
  have h240 : 240 < n := by omega
  have h120 : ¬ n ≤ 120 := by omega
  have h1 : ¬ n ≤ 1 := by omega
  simp [Flower.timeline, h1, h120, h240, min_eq_right h]

/-- A frame edge in the battle moves the registers along the timeline. -/
theorem Flower.step_timeline (n : ℕ) :
    (Flower.timeline n).step 5#4 = Flower.timeline (n + 1) := by
  rcases Nat.lt_or_ge n 3840 with hlt | hge
  · have hcounter : (Flower.timeline n).counter = BitVec.ofNat 12 n := by
      rw [Flower.timeline, min_eq_left hlt.le]
    have hne : ∀ k, k < 4096 → n ≠ k → (Flower.timeline n).counter ≠ BitVec.ofNat 12 k := by
      intro k hk hnk he
      have := congrArg BitVec.toNat (hcounter.symm.trans he)
      rw [BitVec.toNat_ofNat, BitVec.toNat_ofNat] at this
      omega
    rcases eq_or_ne n 1 with rfl | h1
    · rfl
    · rcases eq_or_ne n 120 with rfl | h2
      · rfl
      · rcases eq_or_ne n 240 with rfl | h3
        · rfl
        · rw [Flower.step_default (hne 1 (by omega) h1) (hne 120 (by omega) h2)
            (hne 240 (by omega) h3) (hne 3840 (by omega) (by omega)), hcounter,
            Flower.timeline_succ h1 h2 h3 hlt, BitVec.ofNat_add]
  · rw [Flower.timeline_last hge, Flower.timeline_last (by omega : 3840 ≤ n + 1)]
    have hlast : 3840 < n + 1 := by omega
    simp [Flower.step, hlast]

/-! ## The introduction -/

/-- The registers of `intro`. -/
structure Intro where
  counter : BitVec 12
  introNum1 : BitVec 4
  introNum2 : BitVec 4
  isSub1 : Bool
  isSub2 : Bool
deriving DecidableEq, Repr

/-- The registers of `intro` outside the introduction. -/
def Intro.clear : Intro where
  counter := 0#12
  introNum1 := 0#4
  introNum2 := 0#4
  isSub1 := false
  isSub2 := false

/-- One frame edge of `intro`. -/
def Intro.step (status : BitVec 4) (r : Intro) : Intro :=
  if status = 2#4 then
    let next := { r with counter := r.counter + 1#12 }
    if r.counter = 1#12 then { next with introNum1 := 1#4, isSub1 := true }
    else if r.counter = 300#12 then { next with introNum2 := 2#4, isSub2 := true }
    else if r.counter = 600#12 then
      { next with introNum1 := 3#4, introNum2 := 0#4, isSub1 := true, isSub2 := false }
    else if r.counter = 900#12 then { next with introNum2 := 4#4, isSub2 := true }
    else if r.counter = 1200#12 then
      { next with introNum1 := 5#4, introNum2 := 0#4, isSub1 := true, isSub2 := false }
    else if r.counter = 1500#12 then { next with introNum2 := 6#4, isSub2 := true }
    else if r.counter = 1800#12 then
      { next with introNum1 := 7#4, introNum2 := 0#4, isSub1 := true, isSub2 := false }
    else if r.counter = 2100#12 then { next with introNum2 := 8#4, isSub2 := true }
    else if r.counter = 2400#12 then
      { next with introNum1 := 9#4, introNum2 := 0#4, isSub1 := true, isSub2 := false }
    else if r.counter = 2700#12 then { next with introNum2 := 10#4, isSub2 := true }
    else if r.counter = 3000#12 then
      { counter := 3000#12, introNum1 := 0#4, introNum2 := 0#4, isSub1 := false, isSub2 := false }
    else next
  else Intro.clear

theorem Intro.step_outside {status : BitVec 4} (h : status ≠ 2#4) (r : Intro) :
    r.step status = Intro.clear := by simp [Intro.step, h]

end Undertale
