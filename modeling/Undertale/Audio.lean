import Undertale.Clocked.Counter

/-!
# The music

`audio` moves the sample address `Add` along the music.  In `RUN` a divider counts the
clocks from 0 to 126, and the clock that finds it at 125 takes the next sample if the
codec asks for one.  From 46094, the last sample of the longest piece, the address goes
back to 0 by a branch of its own.

The guard of the increment would let the address reach 46095.  It does not, because the
address comes to 46094 when the divider comes to 126, and the next clock takes it away
(`Audio.InRange`).
-/

namespace Undertale

open Clocked

/-- `current_state`. -/
inductive AudioState where
  | wait
  | run
deriving DecidableEq, Repr

/-- The inputs of `audio` in one cycle. -/
structure AudioInputs where
  reset : Bool
  initFinish : Bool
  dataOver : Bool

/-- The registers of `audio`. -/
@[ext]
structure Audio where
  state : AudioState
  counter : BitVec 16
  add : BitVec 17
deriving DecidableEq, Repr

/-- The registers after a reset. -/
def Audio.zero : Audio := ⟨.wait, 0#16, 0#17⟩

/-- `next_state`, `inner_counter` and `inner_Add`. -/
def Audio.next (i : AudioInputs) (r : Audio) : Audio :=
  match r.state with
  | .wait =>
    { state := if i.initFinish then .run else .wait
      counter := 0#16
      add := 0#17 }
  | .run =>
    { state := .run
      counter := if r.counter < 126#16 then r.counter + 1#16 else 0#16
      add :=
        if r.counter = 125#16 ∧ r.add ≤ 46094#17 ∧ i.dataOver = true then r.add + 1#17
        else if r.add < 46094#17 then r.add
        else 0#17 }

/-- One clock edge of `audio`. -/
def Audio.step (i : AudioInputs) (r : Audio) : Audio := if i.reset then Audio.zero else r.next i

/-- A run of `audio` from the registers `r` on the inputs `i`. -/
def Audio.run (i : ℕ → AudioInputs) (r : Audio) : ℕ → Audio :=
  Clocked.run (fun n => Audio.step (i n)) r

/-! ## One clock -/

/-- The divider and the address are in their ranges, and the last address comes with the
last value of the divider. -/
structure Audio.InRange (r : Audio) : Prop where
  counter : r.counter.toNat ≤ 126
  add : r.add.toNat ≤ 46094
  last : r.add.toNat = 46094 → r.counter.toNat = 126

theorem Audio.zero_inRange : Audio.zero.InRange where
  counter := by decide
  add := by decide
  last := by decide

section step
variable {i : AudioInputs} {r : Audio}

theorem Audio.step_reset (h : i.reset = true) : r.step i = Audio.zero := if_pos h

theorem Audio.step_wait (h : i.reset = false) (hs : r.state = .wait) :
    r.step i = { Audio.zero with state := if i.initFinish then .run else .wait } := by
  rw [Audio.step, h, Audio.next, hs]
  rfl

theorem Audio.state_run (h : i.reset = false) (hs : r.state = .run) :
    (r.step i).state = .run := by
  rw [Audio.step, h, Audio.next, hs]
  rfl

/-- The divider counts modulo 127. -/
theorem Audio.counter_run (h : i.reset = false) (hs : r.state = .run)
    (hr : r.counter.toNat ≤ 126) :
    (r.step i).counter.toNat = (r.counter.toNat + 1) % 127 := by
  have hcounter : (r.step i).counter =
      if r.counter < 126#16 then r.counter + 1#16 else 0#16 := by
    rw [Audio.step, h, Audio.next, hs]
    rfl
  rw [hcounter]
  split
  · next hlt =>
    have hlt' : r.counter.toNat < 126 := hlt
    rw [toNat_add_one, if_neg (by omega), Nat.mod_eq_of_lt (by omega)]
  · next hge =>
    have hge' : ¬ r.counter.toNat < 126 := hge
    obtain heq : r.counter.toNat = 126 := by omega
    rw [heq]
    rfl

/-- The address steps on where the divider is at 125 and the codec asks, and goes back
from its last value at once. -/
theorem Audio.add_run (h : i.reset = false) (hs : r.state = .run) (hr : r.InRange) :
    (r.step i).add.toNat =
      if r.add.toNat = 46094 then 0
      else if r.counter.toNat = 125 ∧ i.dataOver = true then r.add.toNat + 1
      else r.add.toNat := by
  have hadd : (r.step i).add =
      if r.counter = 125#16 ∧ r.add ≤ 46094#17 ∧ i.dataOver = true then r.add + 1#17
      else if r.add < 46094#17 then r.add
      else 0#17 := by
    rw [Audio.step, h, Audio.next, hs]
    rfl
  have h125 : r.counter = 125#16 ↔ r.counter.toNat = 125 := BitVec.toNat_inj.symm
  have hle : r.add ≤ 46094#17 := hr.add
  have hlt : r.add < 46094#17 ↔ r.add.toNat < 46094 := Iff.rfl
  have hmax := hr.add
  rw [hadd]
  simp only [h125, hle, true_and, hlt]
  rcases eq_or_ne r.add.toNat 46094 with hlast | hne
  · -- the divider is at 126, so that the increment is off
    have h126 := hr.last hlast
    rw [if_pos hlast, if_neg (by omega), if_neg (by omega)]
    rfl
  · rw [if_neg hne]
    split
    · rw [toNat_add_one, if_neg (by omega)]
    · rw [if_pos (by omega)]

/-- Every clock keeps the registers in their ranges. -/
theorem Audio.InRange.step (hr : r.InRange) : (r.step i).InRange := by
  cases h : i.reset with
  | true => rw [Audio.step_reset h]; exact Audio.zero_inRange
  | false =>
      cases hs : r.state with
      | wait =>
          rw [Audio.step_wait h hs]
          exact ⟨Audio.zero_inRange.counter, Audio.zero_inRange.add, Audio.zero_inRange.last⟩
      | run =>
          have hcounter := Audio.counter_run h hs hr.counter
          have hadd := Audio.add_run h hs hr
          have hmax := hr.add
          refine ⟨by omega, ?_, fun hlast => ?_⟩
          · rw [hadd]
            split
            · omega
            · split <;> omega
          · rw [hadd] at hlast
            split at hlast
            · omega
            · split at hlast <;> omega

end step

/-! ## Every run -/

section run
variable {i : ℕ → AudioInputs} {r : ℕ → Audio} (hr : ∀ n, r (n + 1) = (r n).step (i n))
  (h0 : (i 0).reset = true)
include hr h0

/-- From the reset on the registers are in their ranges. -/
theorem Audio.inRange_of_run {n : ℕ} (hn : 1 ≤ n) : (r n).InRange := by
  refine preserved (P := fun n => (r n).InRange) hn ?_ fun k _ _ ih => ?_
  · rw [hr 0, Audio.step_reset h0]
    exact Audio.zero_inRange
  · rw [hr k]
    exact ih.step

end run

/-- In every run from a reset, with any later resets, the divider stays up to 126 and the
address up to 46094, and a clock in `RUN` leaves the address, adds one to it, or takes it
from 46094 to 0. -/
theorem Audio.add_steps (i : ℕ → AudioInputs) (r : Audio) (h0 : (i 0).reset = true) (n : ℕ) :
    ((Audio.run i r (n + 1)).counter.toNat ≤ 126 ∧ (Audio.run i r (n + 1)).add.toNat ≤ 46094) ∧
      ((i (n + 1)).reset = false → (Audio.run i r (n + 1)).state = .run →
        (Audio.run i r (n + 2)).add = (Audio.run i r (n + 1)).add ∨
        (Audio.run i r (n + 2)).add.toNat = (Audio.run i r (n + 1)).add.toNat + 1 ∨
        ((Audio.run i r (n + 1)).add = 46094#17 ∧ (Audio.run i r (n + 2)).add = 0#17)) := by
  have hr : ∀ n, Audio.run i r (n + 1) = (Audio.run i r n).step (i n) := fun _ => rfl
  have hrange := Audio.inRange_of_run hr h0 (Nat.le_add_left 1 n)
  refine ⟨⟨hrange.counter, hrange.add⟩, fun hreset hs => ?_⟩
  have hadd := Audio.add_run hreset hs hrange
  rw [← hr (n + 1)] at hadd
  split at hadd
  · next hlast => exact .inr (.inr ⟨BitVec.eq_of_toNat_eq hlast, BitVec.eq_of_toNat_eq hadd⟩)
  · split at hadd
    · exact .inr (.inl hadd)
    · exact .inl (BitVec.eq_of_toNat_eq hadd)

/-- A codec that asks all the time. -/
def longPlay (n : ℕ) : AudioInputs where
  reset := n == 0
  initFinish := true
  dataOver := true

/-- The first clock in `RUN`. -/
theorem Audio.add_steps_longPlay :
    ((Audio.run longPlay Audio.zero 2).counter.toNat ≤ 126 ∧
      (Audio.run longPlay Audio.zero 2).add.toNat ≤ 46094) ∧
      ((Audio.run longPlay Audio.zero 3).add = (Audio.run longPlay Audio.zero 2).add ∨
        (Audio.run longPlay Audio.zero 3).add.toNat =
          (Audio.run longPlay Audio.zero 2).add.toNat + 1 ∨
        ((Audio.run longPlay Audio.zero 2).add = 46094#17 ∧
          (Audio.run longPlay Audio.zero 3).add = 0#17)) :=
  ⟨(Audio.add_steps longPlay Audio.zero rfl 1).1,
    (Audio.add_steps longPlay Audio.zero rfl 1).2 rfl rfl⟩

/-! ## How long a sample is held

From the first clock in `RUN` on, with `Reset` low, the divider has the phase of that
clock, and the address is the number of requests that have met the divider at 125, up to
the first time it comes to 46094. -/

/-- Every value that `Add` takes in `RUN` is held for 126 clocks before it changes. -/
def Audio.HoldsSamples (r : ℕ → Audio) : Prop :=
  ∀ n, 1 ≤ n → (r n).state = .run → (r (n + 1)).add ≠ (r n).add →
    125 ≤ n ∧ ∀ m, n ≤ m + 125 → m ≤ n → (r m).state = .run ∧ (r m).add = (r n).add

/-- The edge that takes `audio` to `RUN`: the first after the reset with `INIT_FINISH`. -/
structure Audio.Starts (i : ℕ → AudioInputs) (s : ℕ) : Prop where
  pos : 1 ≤ s
  initFinish : (i s).initFinish = true
  first : ∀ n, 1 ≤ n → n < s → (i n).initFinish = false

/-- The codec asks for a sample in a clock that finds the divider at 125, for a start at
edge `s`. -/
def Audio.Requests (i : ℕ → AudioInputs) (s n : ℕ) : Prop :=
  s < n ∧ (n - s) % 127 = 126 ∧ (i n).dataOver = true

instance (i : ℕ → AudioInputs) (s : ℕ) : DecidablePred (Audio.Requests i s) :=
  fun n => inferInstanceAs (Decidable (s < n ∧ (n - s) % 127 = 126 ∧ (i n).dataOver = true))

section playing
variable {i : ℕ → AudioInputs} {r : ℕ → Audio} (hr : ∀ n, r (n + 1) = (r n).step (i n))
  (h0 : (i 0).reset = true) (hlow : ∀ n, 1 ≤ n → (i n).reset = false)
include hr h0 hlow

/-- Until the start `audio` waits. -/
theorem Audio.waits {n : ℕ} (hn : 1 ≤ n)
    (hno : ∀ m, 1 ≤ m → m < n → (i m).initFinish = false) : r n = Audio.zero := by
  refine preserved (P := fun n => r n = Audio.zero) hn ?_ fun k hk hkn ih => ?_
  · rw [hr 0, Audio.step_reset h0]
  · rw [hr k, ih, Audio.step_wait (hlow k hk) rfl, hno k hk hkn]
    rfl

/-- A clock in `RUN` comes after a start. -/
theorem Audio.exists_starts {n : ℕ} (hn : 1 ≤ n) (hs : (r n).state = .run) :
    ∃ s, Audio.Starts i s ∧ s < n := by
  have hfinish : ∃ m, 1 ≤ m ∧ (i m).initFinish = true ∧ m < n := by
    by_contra hnone
    rw [Audio.waits hr h0 hlow hn fun m hm hmn =>
      Bool.eq_false_iff.mpr fun h => hnone ⟨m, hm, h, hmn⟩] at hs
    cases hs
  obtain ⟨hm, hs', hmn⟩ := Nat.find_spec hfinish
  refine ⟨Nat.find hfinish, ⟨hm, hs', fun k hk hkm => ?_⟩, hmn⟩
  exact Bool.eq_false_iff.mpr fun h => Nat.find_min hfinish hkm ⟨hk, h, hkm.trans hmn⟩

section started
variable {s : ℕ} (hstart : Audio.Starts i s)
include hstart

theorem Audio.at_start : r (s + 1) = { Audio.zero with state := .run } := by
  rw [hr s, Audio.waits hr h0 hlow hstart.pos hstart.first,
    Audio.step_wait (hlow s hstart.pos) rfl, hstart.initFinish]
  rfl

/-- From the start on the divider has its phase. -/
theorem Audio.counter_eq {n : ℕ} (hn : s < n) :
    (r n).state = .run ∧ (r n).counter.toNat = (n - (s + 1)) % 127 := by
  refine preserved (P := fun n => (r n).state = .run ∧ (r n).counter.toNat = (n - (s + 1)) % 127)
    (Nat.succ_le_of_lt hn) ?_ fun k hk _ ih => ?_
  · rw [Audio.at_start hr h0 hlow hstart, Nat.sub_self]
    exact ⟨rfl, rfl⟩
  · obtain ⟨hs, hcounter⟩ := ih
    have hreset := hlow k (by omega)
    rw [hr k]
    refine ⟨Audio.state_run hreset hs, ?_⟩
    rw [Audio.counter_run hreset hs (by omega), hcounter]
    omega

/-- One clock of the address from the start on. -/
theorem Audio.add_succ {n : ℕ} (hn : s < n) :
    (r (n + 1)).add.toNat =
      if (r n).add.toNat = 46094 then 0
      else if Audio.Requests i s n then (r n).add.toNat + 1
      else (r n).add.toNat := by
  obtain ⟨hs, hcounter⟩ := Audio.counter_eq hr h0 hlow hstart hn
  have hpos : 1 ≤ n := by omega
  have hphase : ((r n).counter.toNat = 125 ∧ (i n).dataOver = true) ↔ Audio.Requests i s n := by
    rw [Audio.Requests, hcounter]
    constructor
    · exact fun h => ⟨hn, by omega, h.2⟩
    · exact fun h => ⟨by omega, h.2.2⟩
  rw [hr n, Audio.add_run (hlow n hpos) hs (Audio.inRange_of_run hr h0 hpos)]
  simp only [hphase]

/-- A value other than the last is held for 126 clocks: it changes at a request, and in
the 125 clocks before there is neither a request nor the last value. -/
theorem Audio.held {n : ℕ} (hn : s < n) (hlast : (r n).add.toNat ≠ 46094)
    (hchange : (r (n + 1)).add ≠ (r n).add) :
    125 ≤ n ∧ ∀ m, n ≤ m + 125 → m ≤ n → (r m).state = .run ∧ (r m).add = (r n).add := by
  have hrequest : Audio.Requests i s n := by
    by_contra hno
    have hadd := Audio.add_succ hr h0 hlow hstart hn
    rw [if_neg hlast, if_neg hno] at hadd
    exact hchange (BitVec.eq_of_toNat_eq hadd)
  obtain ⟨-, hphase, -⟩ := hrequest
  refine ⟨by omega, fun m hm hmn => ?_⟩
  have hsm : s < m := by omega
  refine ⟨(Audio.counter_eq hr h0 hlow hstart hsm).1, ?_⟩
  refine (preserved (P := fun k => (r k).add = (r m).add) hmn rfl fun k hk hkn ih => ?_).symm
  have hadd := Audio.add_succ hr h0 hlow hstart (n := k) (by omega)
  have hno : ¬ Audio.Requests i s k := fun h => by have := h.2.1; omega
  have hne : (r k).add.toNat ≠ 46094 := by
    intro h
    have h126 := (Audio.inRange_of_run hr h0 (by omega)).last h
    rw [(Audio.counter_eq hr h0 hlow hstart (by omega)).2] at h126
    omega
  rw [if_neg hne, if_neg hno] at hadd
  exact (BitVec.eq_of_toNat_eq hadd).trans ih

/-- Until its last value the address counts the requests. -/
theorem Audio.add_eq {n : ℕ} (hn : s < n)
    (hcount : countIn (Audio.Requests i s) 0 n < 46094) :
    (r n).add.toNat = countIn (Audio.Requests i s) 0 n := by
  refine preserved (P := fun n => countIn (Audio.Requests i s) 0 n < 46094 →
      (r n).add.toNat = countIn (Audio.Requests i s) 0 n) (Nat.succ_le_of_lt hn) ?_
      (fun k hk _ ih hcount => ?_) hcount
  · intro _
    have hquiet : countIn (Audio.Requests i s) 0 (s + 1) = countIn (Audio.Requests i s) 0 0 :=
      countIn_eq_of_quiet le_rfl (Nat.zero_le _) fun n _ hn h => by have := h.1; omega
    rw [Audio.at_start hr h0 hlow hstart, hquiet, countIn_self]
    rfl
  · rw [countIn_succ (Nat.zero_le k)] at hcount ⊢
    have heq := ih (by omega)
    rw [Audio.add_succ hr h0 hlow hstart (by omega), if_neg (by omega), heq]
    split <;> rfl

/-- The request that comes with all but one of the samples taken leads to the last value,
which is gone after one clock. -/
theorem Audio.last_lost {n : ℕ} (hn : IsNth (Audio.Requests i s) 0 46094 n) :
    (r n).add.toNat = 46093 ∧ (r (n + 1)).add.toNat = 46094 ∧ (r (n + 2)).add.toNat = 0 := by
  have hs := hn.2.1.1
  have hcount := hn.countIn_eq
  have h1 := Audio.add_eq hr h0 hlow hstart hs (by omega)
  have h2 := Audio.add_succ hr h0 hlow hstart hs
  rw [if_neg (by omega), if_pos hn.2.1] at h2
  have h3 := Audio.add_succ hr h0 hlow hstart (n := n + 1) (by omega)
  rw [if_pos (by omega)] at h3
  exact ⟨by omega, by omega, h3⟩

/-- A run that comes to the last value does not hold it. -/
theorem Audio.not_holds {n : ℕ} (hn : IsNth (Audio.Requests i s) 0 46094 n) :
    ¬ Audio.HoldsSamples r := by
  intro hholds
  obtain ⟨h1, h2, h3⟩ := Audio.last_lost hr h0 hlow hstart hn
  have hsn := hn.2.1.1
  have hs := (Audio.counter_eq hr h0 hlow hstart (n := n + 1) (by omega)).1
  have hchange : (r (n + 2)).add ≠ (r (n + 1)).add := by
    intro h
    rw [h] at h3
    omega
  have hheld := ((hholds (n + 1) (by omega) hs hchange).2 n (by omega) (by omega)).2
  rw [hheld] at h1
  omega

end started

end playing

/-- In every run from a reset, with `Reset` low afterwards: every value of `Add` is held for
126 clocks if and only if there are fewer than 46094 requests, so that the last one is not
reached. -/
theorem Audio.holdsSamples_iff (i : ℕ → AudioInputs) (r : Audio) (h0 : (i 0).reset = true)
    (hlow : ∀ n, 1 ≤ n → (i n).reset = false) :
    Audio.HoldsSamples (Audio.run i r) ↔
      ∀ s, Audio.Starts i s → ∀ n, countIn (Audio.Requests i s) 0 n < 46094 := by
  have hr : ∀ n, Audio.run i r (n + 1) = (Audio.run i r n).step (i n) := fun _ => rfl
  constructor
  · intro hholds s hstart n
    by_contra hcount
    obtain ⟨k, -, hk⟩ := exists_isNth (p := Audio.Requests i s) (Nat.zero_le n) (by omega)
      (Nat.not_lt.mp hcount)
    exact Audio.not_holds hr h0 hlow hstart hk hholds
  · intro hfew n hn hs hchange
    obtain ⟨s, hstart, hsn⟩ := Audio.exists_starts hr h0 hlow hn hs
    have hcount := hfew s hstart n
    have hlast : (Audio.run i r n).add.toNat ≠ 46094 := by
      rw [Audio.add_eq hr h0 hlow hstart hsn hcount]
      omega
    exact Audio.held hr h0 hlow hstart hsn hlast hchange

/-- A codec that asks up to clock 10000. -/
def shortPlay (n : ℕ) : AudioInputs where
  reset := n == 0
  initFinish := true
  dataOver := n < 10000

theorem Audio.holdsSamples_shortPlay : Audio.HoldsSamples (Audio.run shortPlay Audio.zero) := by
  have hlow : ∀ n, 1 ≤ n → (shortPlay n).reset = false := fun n hn =>
    beq_eq_false_iff_ne.mpr (Nat.ne_of_gt hn)
  refine (Audio.holdsSamples_iff shortPlay Audio.zero rfl hlow).mpr fun s _ n => ?_
  have hle : ∀ n, countIn (Audio.Requests shortPlay s) 0 n ≤ n := fun n => Nat.count_le _
  rcases Nat.lt_or_ge n 10000 with hlt | hge
  · exact (hle n).trans_lt (by omega)
  · rw [countIn_eq_of_quiet (Nat.zero_le _) hge fun k hk _ h =>
      absurd (of_decide_eq_true h.2.2) (Nat.not_lt.mpr hk)]
    exact (hle 10000).trans_lt (by omega)

theorem longPlay_starts : Audio.Starts longPlay 1 where
  pos := le_rfl
  initFinish := rfl
  first n hn hn' := absurd hn (by omega)

/-- It is served in every 127th clock. -/
theorem longPlay_count (k : ℕ) :
    countIn (Audio.Requests longPlay 1) 0 (127 * k + 127) = k := by
  induction k with
  | zero =>
      refine (countIn_eq_of_quiet le_rfl (Nat.zero_le _) fun n _ hn h => ?_).trans (countIn_self 0)
      have := h.2.1
      omega
  | succ k ih =>
      have hrequest : Audio.Requests longPlay 1 (127 * k + 127) := ⟨by omega, by omega, rfl⟩
      have hquiet : countIn (Audio.Requests longPlay 1) 0 (127 * (k + 1) + 127) =
          countIn (Audio.Requests longPlay 1) 0 (127 * k + 127 + 1) := by
        refine countIn_eq_of_quiet (Nat.zero_le _) (by omega) fun n hn hn' h => ?_
        have := h.2.1
        omega
      rw [hquiet, countIn_succ (Nat.zero_le _), if_pos hrequest, ih]

/-- In clock 5853939 the address is 46094, and in the next it is 0. -/
theorem Audio.not_holdsSamples :
    (Audio.run longPlay Audio.zero 5853938).add = 46093#17 ∧
      (Audio.run longPlay Audio.zero 5853939).add = 46094#17 ∧
      (Audio.run longPlay Audio.zero 5853940).add = 0#17 ∧
      ¬ Audio.HoldsSamples (Audio.run longPlay Audio.zero) := by
  have hr : ∀ n, Audio.run longPlay Audio.zero (n + 1) =
      (Audio.run longPlay Audio.zero n).step (longPlay n) := fun _ => rfl
  have hn : IsNth (Audio.Requests longPlay 1) 0 46094 (127 * 46093 + 127) := by
    have hrequest : Audio.Requests longPlay 1 (127 * 46093 + 127) := ⟨by omega, by omega, rfl⟩
    refine ⟨Nat.zero_le _, hrequest, ?_⟩
    rw [countIn_succ (Nat.zero_le _), if_pos hrequest, longPlay_count]
  have hlow : ∀ n, 1 ≤ n → (longPlay n).reset = false := fun n hn =>
    beq_eq_false_iff_ne.mpr (Nat.ne_of_gt hn)
  have hnot := Audio.not_holds hr rfl hlow longPlay_starts hn
  obtain ⟨h1, h2, h3⟩ := Audio.last_lost hr rfl hlow longPlay_starts hn
  generalize Audio.run longPlay Audio.zero = r at *
  simp only [Nat.reduceMul, Nat.reduceAdd] at h1 h2 h3
  exact ⟨BitVec.eq_of_toNat_eq h1, BitVec.eq_of_toNat_eq h2, BitVec.eq_of_toNat_eq h3, hnot⟩

end Undertale
