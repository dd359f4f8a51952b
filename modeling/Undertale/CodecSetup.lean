import Undertale.AudioInterface
import Undertale.Clocked.I2c
import Mathlib.Tactic.IntervalCases

/-!
# The setup of the codec

After a reset the I²C machine of `audio_interface` sends nine words without a stop
between them, each of the device address, a register and its value.  It takes no inputs
until it is reset again, and does not look at the acknowledgements.  Its clock 0 is the
first cycle in which `Reset` is low, one clock after the last cycle of the reset.

A period of `SCLK_int` has 1024 clocks, and the machine spends one in every state of a
word.  `I2c.At` says what the registers hold in every clock before the stop condition, and
`busEvents_slot` what a receiver on the bus sees in one period.  From these two a
receiver reads the tables of the source (`AudioInterface.configures`).
-/

namespace Undertale

open Clocked

/-! ## The states of a word -/

/-- The states of a word from its start condition on.  Before the start condition the
machine waits in `initialise`. -/
def wordStates : List I2cState :=
  .start :: (List.finRange 8).map I2cState.b ++ .bAck :: (List.finRange 8).map I2cState.a ++
    .aAck :: (List.finRange 8).map I2cState.d ++ [.dAck]

/-- The state of period `j` of a word. -/
def I2cState.slot (j : ℕ) : I2cState := wordStates.getD j .dAck

/-- A period ends with the falling edge of the sampled clock. -/
theorem I2cState.slot_next {j : ℕ} (hj : j < 27) (scl : Bool) (sck : Sampler) (w : ℕ) :
    (slot j).next scl sck w = if sck.falling then slot (j + 1) else slot j := by
  interval_cases j <;> rfl

/-- Only the last state of a word counts it. -/
theorem I2cState.slot_quiet {j : ℕ} (hj : j < 28) :
    (slot j).sclkInhibit = false ∧ (slot j).over = false ∧ (slot j).countEn = decide (j = 27) := by
  interval_cases j <;> exact ⟨rfl, rfl, rfl⟩

/-! ## The timeline -/

/-- The state in clock `t` after the reset, up to the end of the last word. -/
def I2cState.at (t : ℕ) : I2cState :=
  if (t - 2) / 1024 % 28 = 0 ∧ t % 28672 < 513 then .initialise else slot ((t - 2) / 1024 % 28)

theorem I2cState.at_quiet (t : ℕ) :
    (I2cState.at t).sclkInhibit = false ∧ (I2cState.at t).over = false := by
  unfold I2cState.at
  split
  · exact ⟨rfl, rfl⟩
  · have h := slot_quiet (j := (t - 2) / 1024 % 28) (Nat.mod_lt _ (by decide))
    exact ⟨h.1, h.2.1⟩

/-- The word is counted in the two clocks at its end in which the samples are late. -/
theorem I2cState.at_countEn (t : ℕ) :
    (I2cState.at t).countEn = decide ((t - 2) / 1024 % 28 = 27) := by
  unfold I2cState.at
  split
  · next hinit =>
    rw [hinit.1]
    rfl
  · exact (slot_quiet (Nat.mod_lt _ (by decide))).2.2

/-- The registers in clock `t` after the reset. -/
structure I2c.At (t : ℕ) (r : I2c) : Prop where
  i2cCounter : r.i2cCounter = BitVec.ofNat 10 t
  s0 : r.sck.s0 = decide (1 ≤ t ∧ 512 ≤ (t - 1) % 1024)
  s1 : r.sck.s1 = decide (2 ≤ t ∧ 512 ≤ (t - 2) % 1024)
  state : r.state = I2cState.at t
  wordCount : r.wordCount = t / 28672

/-- The clock divider divides by 1024. -/
theorem ofNat_getLsbD_nine (t : ℕ) :
    (BitVec.ofNat 10 t).getLsbD 9 = decide (512 ≤ t % 1024) := by
  rw [BitVec.getLsbD_ofNat, Nat.testBit_eq_decide_div_mod_eq]
  simp only [show (9 : ℕ) < 10 from by decide, decide_true, Bool.true_and]
  exact decide_eq_decide.mpr (by omega)

theorem I2c.step_wordCount (r : I2c) :
    r.step.wordCount =
      if r.step.state.over = true then 0
      else if r.sclkInt = true ∧ r.posedgeClk.sclkInt = false ∧ r.step.state.countEn = true then
        r.wordCount + 1
      else r.wordCount := rfl

section At
variable {t : ℕ} {r : I2c} (h : r.At t)
include h

theorem I2c.At.sclkInt : r.sclkInt = decide (512 ≤ t % 1024) := by
  rw [I2c.sclkInt, h.i2cCounter, h.state, (I2cState.at_quiet t).1, ofNat_getLsbD_nine,
    Bool.or_false]

/-- The falling edge is seen one clock after the divider has come round. -/
theorem I2c.At.falling : r.sck.falling = decide (2 ≤ t ∧ t % 1024 = 1) := by
  rw [Sampler.falling, h.s0, h.s1, ← decide_not, ← Bool.decide_and]
  exact decide_eq_decide.mpr (by omega)

theorem I2c.At.next (ht : t < 258049) :
    r.state.next r.sclkInt r.sck r.wordCount = I2cState.at (t + 1) := by
  rw [h.state, h.sclkInt, h.wordCount]
  have hfalling := h.falling
  generalize r.sck = sck at hfalling
  unfold I2cState.at
  rcases Classical.em ((t - 2) / 1024 % 28 = 0 ∧ t % 28672 < 513) with hinit | hinit
  · -- `initialise` waits for the clock to be high
    rw [if_pos hinit]
    rcases Nat.lt_or_ge (t % 1024) 512 with hlow | hhigh
    · rw [if_pos (by omega), I2cState.next, if_neg (by simpa using hlow)]
    · rw [if_neg (by omega), I2cState.next, if_pos (by simpa using hhigh)]
      rw [show (t + 1 - 2) / 1024 % 28 = 0 by omega]
      rfl
  · rw [if_neg hinit]
    rcases Nat.lt_or_ge ((t - 2) / 1024 % 28) 27 with hj | hj
    · rw [I2cState.slot_next hj, hfalling]
      rcases Classical.em (2 ≤ t ∧ t % 1024 = 1) with hfall | hfall
      · rw [if_pos (by simpa using hfall), if_neg (by omega)]
        congr 1
        omega
      · rw [if_neg (by simpa using hfall), if_neg (by omega)]
        congr 1
        omega
    · -- the end of a word that is not the last one
      rw [show (t - 2) / 1024 % 28 = 27 by omega]
      show (if sck.falling then _ else _) = _
      rw [hfalling]
      rcases Classical.em (2 ≤ t ∧ t % 1024 = 1) with hfall | hfall
      · rw [if_pos (by simpa using hfall), if_neg (by rw [wordLimit]; omega), if_pos (by omega)]
      · rw [if_neg (by simpa using hfall), if_neg (by omega),
          show (t + 1 - 2) / 1024 % 28 = 27 by omega]
        rfl

/-- One clock before the stop condition. -/
theorem I2c.At.step (ht : t < 258049) : r.step.At (t + 1) := by
  have hstate : r.step.state = I2cState.at (t + 1) := h.next ht
  have hcounter : r.step.i2cCounter = BitVec.ofNat 10 (t + 1) := by
    show r.i2cCounter + 1#10 = _
    rw [h.i2cCounter, BitVec.ofNat_add]
  refine ⟨hcounter, ?_, ?_, hstate, ?_⟩
  · show r.sclkInt = _
    rw [h.sclkInt]
    exact decide_eq_decide.mpr (by omega)
  · show r.sck.s0 = _
    rw [h.s0]
    exact decide_eq_decide.mpr (by omega)
  · have hscl' : r.posedgeClk.sclkInt = decide (512 ≤ (t + 1) % 1024) := by
      show (r.step.i2cCounter.getLsbD 9 || r.step.state.sclkInhibit) = _
      rw [hcounter, hstate, (I2cState.at_quiet _).1, ofNat_getLsbD_nine, Bool.or_false]
    rw [I2c.step_wordCount, hstate, (I2cState.at_quiet _).2, if_neg Bool.false_ne_true,
      h.sclkInt, hscl', h.wordCount]
    rw [I2cState.at_countEn]
    simp only [decide_eq_true_eq, decide_eq_false_iff_not]
    split <;> omega

end At

theorem I2c.zero_at : I2c.zero.At 0 := ⟨rfl, rfl, rfl, rfl, rfl⟩

/-! ## The stop condition -/

section timeline
variable {r : ℕ → I2c} (hr : ∀ t, r (t + 1) = (r t).step) (h0 : r 0 = I2c.zero)
include hr h0

theorem I2c.at_of_run {t : ℕ} (ht : t ≤ 258049) : (r t).At t := by
  refine preserved (P := fun t => (r t).At t) (Nat.zero_le t) (by rw [h0]; exact I2c.zero_at)
    fun k _ hk ih => ?_
  rw [hr k]
  exact ih.step (by omega)

/-- After the last word the machine waits for the clock with the data line low. -/
theorem I2c.stopping {t : ℕ} (ht : 258050 ≤ t) (ht' : t ≤ 258560) :
    (r t).state = .bStop0 ∧ (r t).i2cCounter = BitVec.ofNat 10 t := by
  refine preserved (P := fun t => (r t).state = .bStop0 ∧ (r t).i2cCounter = BitVec.ofNat 10 t) ht
    ?_ fun k hk hkt ih => ?_
  · have hat := I2c.at_of_run hr h0 (t := 258049) le_rfl
    have hfalling : (r 258049).sck.falling = true := by
      rw [hat.falling]
      exact decide_eq_true (by decide)
    have hstate : (r 258049).state = .dAck := by
      rw [hat.state]
      exact (by decide : I2cState.at 258049 = .dAck)
    have hcount : (r 258049).wordCount = wordLimit + 1 := hat.wordCount
    rw [hr 258049]
    constructor
    · show I2cState.next _ _ _ _ = _
      rw [hstate, I2cState.next, if_pos hfalling, if_pos hcount]
    · show (r 258049).i2cCounter + 1#10 = _
      rw [hat.i2cCounter, ← BitVec.ofNat_add]
  · obtain ⟨hstate, hcounter⟩ := ih
    have hscl : (r k).sclkInt = false := by
      rw [I2c.sclkInt, hstate, hcounter, ofNat_getLsbD_nine]
      exact (Bool.or_false _).trans (decide_eq_false (by omega))
    rw [hr k]
    constructor
    · show I2cState.next _ _ _ _ = _
      rw [hstate, hscl]
      rfl
    · show (r k).i2cCounter + 1#10 = _
      rw [hcounter, ← BitVec.ofNat_add]

theorem I2c.stopped : (r 258561).state = .bStop1 := by
  obtain ⟨hstate, hcounter⟩ := I2c.stopping hr h0 (t := 258560) (by decide) le_rfl
  have hscl : (r 258560).sclkInt = true := by
    rw [I2c.sclkInt, hstate, hcounter, ofNat_getLsbD_nine]
    rfl
  rw [hr 258560]
  show I2cState.next _ _ _ _ = _
  rw [hstate, hscl]
  rfl

theorem I2c.ended {t : ℕ} (ht : 258562 ≤ t) : (r t).state = .bEnd := by
  refine preserved (P := fun t => (r t).state = .bEnd) ht ?_ fun k _ _ ih => ?_
  · rw [hr 258561]
    show I2cState.next _ _ _ _ = _
    rw [I2c.stopped hr h0]
    rfl
  · rw [hr k]
    show I2cState.next _ _ _ _ = _
    rw [ih]
    rfl

/-- The word counter stops at 9, and stands below it while a table is read. -/
theorem I2c.wordCount_run (t : ℕ) :
    (r t).wordCount ≤ 9 ∧ ∀ k, (r t).state = .a k ∨ (r t).state = .d k → (r t).wordCount < 9 := by
  rcases Nat.lt_or_ge 258049 t with hgt | hle
  · have hkeep : ∀ t, (r (t + 1)).state.countEn = false →
        (r (t + 1)).wordCount ≤ (r t).wordCount := by
      intro t hcount
      rw [hr t] at hcount ⊢
      rw [I2c.step_wordCount, hcount]
      split
      · exact Nat.zero_le _
      · rw [if_neg fun h => Bool.false_ne_true h.2.2]
    have hstop : ∀ t, 258050 ≤ t → (r t).state = .bStop0 ∨ (r t).state = .bStop1 ∨
        (r t).state = .bEnd := by
      intro t ht
      rcases Nat.lt_or_ge 258560 t with hgt | hle
      · rcases Nat.eq_or_lt_of_le hgt with rfl | hgt
        · exact .inr (.inl (I2c.stopped hr h0))
        · exact .inr (.inr (I2c.ended hr h0 hgt))
      · exact .inl (I2c.stopping hr h0 ht hle).1
    refine ⟨?_, fun k hk => ?_⟩
    · refine preserved (P := fun t => (r t).wordCount ≤ 9) (Nat.le_of_succ_le hgt) ?_
        fun k hk _ ih => (hkeep k ?_).trans ih
      · rw [(I2c.at_of_run hr h0 le_rfl).wordCount]
      · rcases hstop (k + 1) (by omega) with h | h | h <;> rw [h] <;> rfl
    · rcases hstop t hgt with h | h | h <;> rw [h] at hk <;> rcases hk with hk | hk <;> cases hk
  · have hat := I2c.at_of_run hr h0 hle
    rw [hat.wordCount, hat.state]
    refine ⟨by omega, fun k hk => ?_⟩
    by_contra hlast
    have hack : I2cState.at t = .dAck := by
      rw [I2cState.at, show (t - 2) / 1024 % 28 = 27 by omega]
      rfl
    rw [hack] at hk
    rcases hk with hk | hk <;> cases hk

/-- The machine is done from clock 258562 on. -/
theorem I2c.over_iff (t : ℕ) : (r t).state.over = true ↔ 258562 ≤ t := by
  constructor
  · intro hover
    by_contra hlt
    rcases Nat.lt_or_ge 258049 t with hgt | hle
    · rcases Nat.lt_or_ge 258560 t with hgt' | hle'
      · obtain rfl : t = 258561 := by omega
        rw [I2c.stopped hr h0] at hover
        cases hover
      · rw [(I2c.stopping hr h0 hgt hle').1] at hover
        cases hover
    · rw [(I2c.at_of_run hr h0 hle).state, (I2cState.at_quiet t).2] at hover
      cases hover
  · intro ht
    rw [I2c.ended hr h0 ht]
    rfl

end timeline

/-! ## The bus

The lines in one period: the clock line rises once, and in the first period of a word the
data line falls one clock later. -/

/-- The bus, with the level `slave` that the codec gives a released data line. -/
def I2c.bus (r : I2c) (slave : Bool) : Bus := ⟨r.sclkInt, r.sdat.getD slave⟩

/-- What a receiver sees in period `j` of word `k`, where `level j` is the level of the
codec when the clock line rises in it. -/
def slotEvents (level : ℕ → Bool) (k j : ℕ) : List BusEvent :=
  if j = 0 then [.bit true, .start] else [.bit (((I2cState.slot j).sdat k).getD (level j))]

/-- Word `k` with the acknowledgements of the codec. -/
def setupWord (level : ℕ → Bool) (k : ℕ) : List AckedByte :=
  [(sciAddr, level 9), (sciRegRom k, level 18), (sciDatRom k, level 27)]

/-- The periods of a word are its transaction, after a bit that no transaction has. -/
theorem flatMap_slotEvents (level : ℕ → Bool) (k : ℕ) :
    (List.range 28).flatMap (slotEvents level k) =
      .bit true :: transaction (setupWord level k) := by
  have hrange : List.range 28 =
      [0] ++ List.range' 1 8 ++ [9] ++ List.range' 10 8 ++ [18] ++ List.range' 19 8 ++ [27] := rfl
  have haddr : (List.range' 1 8).flatMap (slotEvents level k) = (bitsOf sciAddr).map .bit := rfl
  have hreg : (List.range' 10 8).flatMap (slotEvents level k) =
      (bitsOf (sciRegRom k)).map .bit := rfl
  have hdat : (List.range' 19 8).flatMap (slotEvents level k) =
      (bitsOf (sciDatRom k)).map .bit := rfl
  have hack : ∀ j, j = 9 ∨ j = 18 ∨ j = 27 →
      [j].flatMap (slotEvents level k) = [.bit (level j)] := by
    rintro j (rfl | rfl | rfl) <;> rfl
  rw [hrange]
  simp only [List.flatMap_append, haddr, hreg, hdat, hack 9 (by decide), hack 18 (by decide),
    hack 27 (by decide)]
  simp [slotEvents, transaction, setupWord, AckedByte.events]

section bus
variable {r : ℕ → I2c} {slave : ℕ → Bool} (hr : ∀ t, r (t + 1) = (r t).step) (h0 : r 0 = I2c.zero)
  (hslave : ∀ t, (r t).sclkInt = true → (r (t + 1)).sclkInt = true → slave (t + 1) = slave t)
include hr h0

variable (slave) in
/-- The lines in clock `s` of period `j` of word `k`. -/
theorem I2c.bus_slot {k j s : ℕ} (hk : k < 9) (hj : j < 28) (hs : 2 ≤ s) (hs' : s < 1024) :
    (r (1024 * (28 * k + j) + s)).bus (slave (1024 * (28 * k + j) + s)) =
      ⟨decide (512 ≤ s),
        (if j = 0 ∧ s < 513 then some true else (I2cState.slot j).sdat k).getD
          (slave (1024 * (28 * k + j) + s))⟩ := by
  have hat := I2c.at_of_run hr h0 (t := 1024 * (28 * k + j) + s) (by omega)
  have hstate : I2cState.at (1024 * (28 * k + j) + s) =
      if j = 0 ∧ s < 513 then .initialise else I2cState.slot j := by
    unfold I2cState.at
    rw [show (1024 * (28 * k + j) + s - 2) / 1024 % 28 = j by omega]
    congr 1
    exact propext (and_congr_right fun h => by omega)
  have hsdat : (r (1024 * (28 * k + j) + s)).sdat =
      if j = 0 ∧ s < 513 then some true else (I2cState.slot j).sdat k := by
    rw [I2c.sdat, hat.state, hat.wordCount, hstate,
      show (1024 * (28 * k + j) + s) / 28672 = k by omega]
    split <;> rfl
  rw [I2c.bus, hat.sclkInt, hsdat, show (1024 * (28 * k + j) + s) % 1024 = s by omega]

variable (slave) in
/-- Up to the stop condition the clock line is that of the divider. -/
theorem I2c.bus_scl {t : ℕ} (ht : t ≤ 258560) :
    ((r t).bus (slave t)).scl = decide (512 ≤ t % 1024) := by
  rcases Nat.lt_or_ge 258049 t with hgt | hle
  · obtain ⟨hstate, hcounter⟩ := I2c.stopping hr h0 hgt ht
    show (r t).sclkInt = _
    rw [I2c.sclkInt, hstate, hcounter, ofNat_getLsbD_nine]
    exact Bool.or_false _
  · exact (I2c.at_of_run hr h0 hle).sclkInt

include hslave

/-- While the clock line is high the data line changes only to start a word. -/
theorem I2c.sda_held {k j s : ℕ} (hk : k < 9) (hj : j < 28) (hs : 512 ≤ s) (hs' : s < 1023)
    (hstart : ¬ (j = 0 ∧ s = 512)) :
    ((r (1024 * (28 * k + j) + s + 1)).bus (slave (1024 * (28 * k + j) + s + 1))).sda =
      ((r (1024 * (28 * k + j) + s)).bus (slave (1024 * (28 * k + j) + s))).sda := by
  have hlevel : slave (1024 * (28 * k + j) + s + 1) = slave (1024 * (28 * k + j) + s) := by
    refine hslave _ ?_ ?_
    · rw [(I2c.at_of_run hr h0 (by omega)).sclkInt]
      exact decide_eq_true (by omega)
    · rw [(I2c.at_of_run hr h0 (by omega)).sclkInt]
      exact decide_eq_true (by omega)
  have hnext := I2c.bus_slot slave hr h0 hk hj (s := s + 1) (by omega) (by omega)
  rw [← Nat.add_assoc] at hnext
  rw [hnext, I2c.bus_slot slave hr h0 hk hj (by omega) (by omega), hlevel]
  dsimp only
  congr 1
  refine if_congr ?_ rfl rfl
  omega

/-- What a receiver sees in one period. -/
theorem busEvents_slot {k j : ℕ} (hk : k < 9) (hj : j < 28) :
    busEvents (fun t => (r t).bus (slave t)) (1024 * (28 * k + (j + 1)) + 2) =
      busEvents (fun t => (r t).bus (slave t)) (1024 * (28 * k + j) + 2) ++
        slotEvents (fun j => slave (1024 * (28 * k + j) + 512)) k j := by
  have hlow : ∀ m n, m ≤ n → n ≤ 258560 → (∀ t, m < t → t ≤ n → t % 1024 < 512) →
      busEvents (fun t => (r t).bus (slave t)) n = busEvents (fun t => (r t).bus (slave t)) m := by
    intro m n hmn hn hall
    refine busEvents_quiet hmn fun t hmt htn => busEvent_low ?_
    rw [I2c.bus_scl slave hr h0 (by omega)]
    exact decide_eq_false (Nat.not_le.mpr (hall (t + 1) (by omega) htn))
  have hheld : ∀ m, (j = 0 → 513 ≤ m) → 512 ≤ m → m ≤ 1023 →
      busEvents (fun t => (r t).bus (slave t)) (1024 * (28 * k + j) + 1023) =
        busEvents (fun t => (r t).bus (slave t)) (1024 * (28 * k + j) + m) := by
    intro m hj0 hm hm'
    refine busEvents_quiet (by omega) fun t hmt htn => ?_
    obtain ⟨s, rfl⟩ : ∃ s, t = 1024 * (28 * k + j) + s := ⟨t - 1024 * (28 * k + j), by omega⟩
    refine busEvent_held ?_ (I2c.sda_held hr h0 hslave hk hj (by omega) (by omega) (by omega))
    rw [I2c.bus_scl slave hr h0 (by omega)]
    exact decide_eq_true (by omega)
  have hrise : busEvents (fun t => (r t).bus (slave t)) (1024 * (28 * k + j) + 512) =
      busEvents (fun t => (r t).bus (slave t)) (1024 * (28 * k + j) + 2) ++
        [.bit ((r (1024 * (28 * k + j) + 512)).bus (slave (1024 * (28 * k + j) + 512))).sda] := by
    rw [busEvents_succ, busEvent_rise, hlow (1024 * (28 * k + j) + 2) _ (by omega) (by omega)
      (fun t ht ht' => by omega)]
    · rfl
    · rw [I2c.bus_scl slave hr h0 (by omega)]
      exact decide_eq_false (by omega)
    · rw [I2c.bus_scl slave hr h0 (by omega)]
      exact decide_eq_true (by omega)
  have hend := hlow (1024 * (28 * k + j) + 1023) (1024 * (28 * k + (j + 1)) + 2) (by omega)
    (by omega) (fun t ht ht' => by omega)
  rw [hend]
  rcases eq_or_ne j 0 with rfl | hj0
  · have hidle := I2c.bus_slot slave hr h0 hk hj (s := 512) (by decide) (by decide)
    have hstart := I2c.bus_slot slave hr h0 hk hj (s := 513) (by decide) (by decide)
    rw [hheld 513 (fun _ => le_rfl) (by decide) (by decide), busEvents_succ,
      busEvent_start hidle hstart, hrise, hidle]
    simp [slotEvents]
  · rw [hheld 512 (fun h => absurd h hj0) le_rfl (by decide), hrise,
      I2c.bus_slot slave hr h0 hk hj (by decide) (by decide)]
    simp [slotEvents, hj0]

/-- What a receiver sees in the first periods of a word. -/
theorem busEvents_slots {k j : ℕ} (hk : k < 9) (hj : j ≤ 28) :
    busEvents (fun t => (r t).bus (slave t)) (1024 * (28 * k + j) + 2) =
      busEvents (fun t => (r t).bus (slave t)) (1024 * (28 * k) + 2) ++
        (List.range j).flatMap (slotEvents (fun j => slave (1024 * (28 * k + j) + 512)) k) := by
  induction j with
  | zero => simp
  | succ j ih =>
      rw [busEvents_slot hr h0 hslave hk hj, ih (by omega), List.range_succ, List.flatMap_append]
      simp

/-- What a receiver sees in the first words. -/
theorem busEvents_words {k : ℕ} (hk : k ≤ 9) :
    busEvents (fun t => (r t).bus (slave t)) (1024 * (28 * k) + 2) =
      (List.range k).flatMap fun k =>
        .bit true :: transaction (setupWord (fun j => slave (1024 * (28 * k + j) + 512)) k) := by
  induction k with
  | zero =>
      refine busEvents_quiet (m := 0) (by decide) fun t _ ht => busEvent_low ?_
      rw [I2c.bus_scl slave hr h0 (by omega)]
      exact decide_eq_false (by omega)
  | succ k ih =>
      have hword := busEvents_slots hr h0 hslave (k := k) (j := 28) (by omega) le_rfl
      rw [flatMap_slotEvents, ih (by omega)] at hword
      rw [show 28 * (k + 1) = 28 * k + 28 by omega, hword, List.range_succ, List.flatMap_append]
      simp

/-- What a receiver sees from the reset to the stop condition and after. -/
theorem busEvents_setup {n : ℕ} (hn : 258561 ≤ n) :
    busEvents (fun t => (r t).bus (slave t)) n =
      ((List.range 9).flatMap fun k =>
        .bit true :: transaction (setupWord (fun j => slave (1024 * (28 * k + j) + 512)) k)) ++
      [.bit false, .stop] := by
  have hbefore : ∀ t, 258050 ≤ t → t ≤ 258560 →
      (r t).bus (slave t) = ⟨decide (512 ≤ t % 1024), false⟩ := by
    intro t ht ht'
    have hscl := I2c.bus_scl slave hr h0 ht'
    have hsda : ((r t).bus (slave t)).sda = false := by
      rw [I2c.bus, I2c.sdat, (I2c.stopping hr h0 ht ht').1]
      rfl
    rw [← hscl, ← hsda]
  have hafter : ∀ t, 258561 ≤ t → (r t).bus (slave t) = ⟨true, true⟩ := by
    intro t ht
    rcases Nat.lt_or_ge t 258562 with hlt | hge
    · obtain rfl : t = 258561 := by omega
      simp [I2c.bus, I2c.sclkInt, I2c.sdat, I2c.stopped hr h0, I2cState.sclkInhibit,
        I2cState.sdat]
    · simp [I2c.bus, I2c.sclkInt, I2c.sdat, I2c.ended hr h0 hge, I2cState.sclkInhibit,
        I2cState.sdat]
  have hquiet : busEvents (fun t => (r t).bus (slave t)) n =
      busEvents (fun t => (r t).bus (slave t)) 258561 := by
    refine busEvents_quiet hn fun t ht _ => busEvent_held ?_ ?_
    · rw [hafter t ht]
    · rw [hafter t ht, hafter (t + 1) (by omega)]
  have hlow : busEvents (fun t => (r t).bus (slave t)) 258559 =
      busEvents (fun t => (r t).bus (slave t)) 258050 := by
    refine busEvents_quiet (by decide) fun t ht ht' => busEvent_low ?_
    rw [hbefore (t + 1) (by omega) (by omega)]
    exact decide_eq_false (by omega)
  rw [hquiet, busEvents_succ, busEvent_stop (hbefore 258560 (by decide) le_rfl)
    (hafter 258561 le_rfl), busEvents_succ, busEvent_rise, hlow, hbefore 258560 (by decide) le_rfl,
    show (258050 : ℕ) = 1024 * (28 * 9) + 2 from rfl, busEvents_words hr h0 hslave le_rfl]
  · simp
  · rw [hbefore 258559 (by decide) (by decide)]
    rfl
  · rw [hbefore 258560 (by decide) le_rfl]
    rfl

end bus

/-! ## The module

The machine takes no inputs, so that after a reset it does the same in every run. -/

/-- The registers of the I²C machine after a reset. -/
def I2c.run : ℕ → I2c := Clocked.run (fun _ => I2c.step) I2c.zero

section module
variable {i : ℕ → AudioInterfaceInputs} {r : AudioInterface} {m : ℕ}

/-- At an edge at which `Reset` is high the machine is cleared. -/
theorem AudioInterface.i2c_released (hreset : (i m).reset = true) :
    (AudioInterface.run i r (m + 1)).i2c = I2c.zero := by
  show (AudioInterface.step (i m) (i (m + 1)).reset _).i2c = _
  rw [AudioInterface.step, if_pos hreset]
  rfl

/-- An edge that raises `Reset` clears it as well. -/
theorem AudioInterface.i2c_raised (hreset : (i (m + 1)).reset = true) :
    (AudioInterface.run i r (m + 1)).i2c = I2c.zero := by
  show (AudioInterface.step (i m) (i (m + 1)).reset _).i2c = _
  rw [AudioInterface.step, hreset]
  split <;> rfl

theorem AudioInterface.i2c_succ (hlow : (i m).reset = false) (hlow' : (i (m + 1)).reset = false) :
    (AudioInterface.run i r (m + 1)).i2c = (AudioInterface.run i r m).i2c.step := by
  show (AudioInterface.step (i m) (i (m + 1)).reset _).i2c = _
  rw [AudioInterface.step, hlow, hlow']
  rfl

/-- The machine starts in the first cycle in which `Reset` is low. -/
theorem AudioInterface.i2c_eq (hreset : (i m).reset = true) {n : ℕ}
    (hlow : ∀ k, m < k → k ≤ m + 1 + n → (i k).reset = false) :
    (AudioInterface.run i r (m + 1 + n)).i2c = I2c.run n := by
  refine preserved (P := fun n => (AudioInterface.run i r (m + 1 + n)).i2c = I2c.run n)
    (Nat.zero_le n) (AudioInterface.i2c_released hreset) fun k _ hk ih => ?_
  have hnext := AudioInterface.i2c_succ (r := r) (hlow (m + 1 + k) (by omega) (by omega))
    (hlow (m + 1 + k + 1) (by omega) (by omega))
  rw [ih] at hnext
  exact hnext

/-- `INIT_FINISH` is high from 258563 clocks after a reset on, until the next reset. -/
theorem AudioInterface.initFinish_iff (hreset : (i m).reset = true) {n : ℕ} (hn : 1 ≤ n)
    (hlow : ∀ k, m < k → k ≤ m + n → (i k).reset = false) :
    (AudioInterface.run i r (m + n)).initFinish = true ↔ 258563 ≤ n := by
  obtain ⟨k, rfl⟩ : ∃ k, n = 1 + k := ⟨n - 1, by omega⟩
  rw [← Nat.add_assoc] at hlow ⊢
  rw [AudioInterface.initFinish, AudioInterface.i2c_eq hreset hlow,
    I2c.over_iff (r := I2c.run) (fun _ => rfl) rfl k]
  omega

end module

/-- A design that is reset in its second cycle. -/
def startUp (n : ℕ) : AudioInterfaceInputs := ⟨n == 1, 0#16, 0#16, false, false⟩

theorem startUp_low {n : ℕ} (h : 0 + 1 < n) : (startUp n).reset = false :=
  beq_eq_false_iff_ne.mpr (Nat.ne_of_gt h)

/-- In every run, from the first reset on and with any resets after it, the word counter
stays in its range, and the tables are read for their nine words only. -/
theorem AudioInterface.wordCount_le (i : ℕ → AudioInterfaceInputs) (r : AudioInterface) (m n : ℕ)
    (hreset : (i (m + 1)).reset = true) (hmn : m + 1 ≤ n) :
    (AudioInterface.run i r n).i2c.wordCount ≤ 9 ∧
      ∀ k, (AudioInterface.run i r n).i2c.state = .a k ∨
        (AudioInterface.run i r n).i2c.state = .d k →
        (AudioInterface.run i r n).i2c.wordCount < 9 := by
  -- the registers are those of some clock after the last reset
  have hclock : ∃ t, (AudioInterface.run i r n).i2c = I2c.run t := by
    refine preserved (P := fun n => ∃ t, (AudioInterface.run i r n).i2c = I2c.run t) hmn
      ⟨0, AudioInterface.i2c_raised hreset⟩ fun k _ _ ih => ?_
    cases hk : (i k).reset with
    | true => exact ⟨0, AudioInterface.i2c_released hk⟩
    | false =>
        cases hk' : (i (k + 1)).reset with
        | true => exact ⟨0, AudioInterface.i2c_raised hk'⟩
        | false =>
            obtain ⟨t, ht⟩ := ih
            refine ⟨t + 1, ?_⟩
            rw [AudioInterface.i2c_succ hk hk', ht]
            rfl
  obtain ⟨t, ht⟩ := hclock
  rw [ht]
  exact I2c.wordCount_run (r := I2c.run) (fun _ => rfl) rfl t

theorem AudioInterface.wordCount_le_startUp :
    (AudioInterface.run startUp ⟨I2c.zero, ⟨.zero, .zero, 0#32, 0#5, false⟩⟩ 300000).i2c.wordCount
      ≤ 9 :=
  (AudioInterface.wordCount_le startUp _ 0 300000 rfl (by omega)).1

/-- In every run, from the last cycle of a reset on a receiver on the bus reads the nine
words of the tables and a stop, whatever it acknowledges, and nothing after them. -/
theorem AudioInterface.configures (i : ℕ → AudioInterfaceInputs) (r : AudioInterface)
    (slave : ℕ → Bool) (m : ℕ) (hreset : (i (m + 1)).reset = true)
    (hlow : ∀ k, m + 1 < k → (i k).reset = false)
    (hslave : ∀ t, (AudioInterface.run i r (m + 1 + t)).i2c.sclkInt = true →
      (AudioInterface.run i r (m + 1 + (t + 1))).i2c.sclkInt = true → slave (t + 1) = slave t)
    (n : ℕ) (hn : 258562 ≤ n) :
    ∃ acks : ℕ → ℕ → Bool,
      receive (busEvents (fun t => (AudioInterface.run i r (m + 1 + t)).i2c.bus (slave t)) n) =
        ⟨(List.range 9).map fun k =>
          [(sciAddr, acks k 0), (sciRegRom k, acks k 1), (sciDatRom k, acks k 2)], none, []⟩ := by
  have heq : ∀ t, (AudioInterface.run i r (m + 1 + (t + 1))).i2c = I2c.run t := by
    intro t
    rw [show m + 1 + (t + 1) = m + 1 + 1 + t by omega]
    exact AudioInterface.i2c_eq hreset fun k hk _ => hlow k hk
  -- the clock of the reset itself shows a receiver nothing
  have hfirst : busEvent ((AudioInterface.run i r (m + 1 + 0)).i2c.bus (slave 0))
      ((AudioInterface.run i r (m + 1 + (0 + 1))).i2c.bus (slave (0 + 1))) = none := by
    refine busEvent_low ?_
    rw [heq 0]
    rfl
  obtain ⟨k, rfl⟩ : ∃ k, n = k + 1 := ⟨n - 1, by omega⟩
  rw [busEvents_delay hfirst]
  have hslave' := fun t => hslave (t + 1)
  simp only [heq] at hslave' ⊢
  refine ⟨fun k j => slave (1024 * (28 * k + 9 * (j + 1)) + 512 + 1), ?_⟩
  rw [busEvents_setup (r := I2c.run) (fun _ => rfl) rfl hslave'
    (by omega), receive_transactions_stop]
  rfl

theorem AudioInterface.configures_startUp :
    ∃ acks : ℕ → ℕ → Bool,
      receive (busEvents (fun t => (AudioInterface.run startUp
        ⟨I2c.zero, ⟨.zero, .zero, 0#32, 0#5, false⟩⟩ (0 + 1 + t)).i2c.bus false) 258562) =
        ⟨(List.range 9).map fun k =>
          [(sciAddr, acks k 0), (sciRegRom k, acks k 1), (sciDatRom k, acks k 2)], none, []⟩ :=
  AudioInterface.configures startUp _ (fun _ => false) 0 rfl (fun _ => startUp_low)
    (fun _ _ _ => rfl) 258562 le_rfl

end Undertale
