import Undertale.Clocked.Run

/-!
# Sampled clocks

A design that receives a clock from outside samples it with two registers and takes
an edge where they differ.  The edge is seen two cycles after the clock has changed
(`falling_iff`, `rising_iff`).

The rises and the falls of a clock alternate, so between two cycles their numbers are
equal up to the levels at the ends (`countIn_rises`).
-/

namespace Clocked

/-- The signal `v` falls at edge `n`: it is high before the edge and low after. -/
def Falls (v : ℕ → Bool) (n : ℕ) : Prop := v n = true ∧ v (n + 1) = false

instance (v : ℕ → Bool) : DecidablePred (Falls v) :=
  fun n => inferInstanceAs (Decidable (v n = true ∧ v (n + 1) = false))

/-- Two samples of a signal, the newer one in `s0`. -/
@[ext]
structure Sampler where
  s0 : Bool
  s1 : Bool
deriving DecidableEq, Repr

/-- The samples after a reset. -/
def Sampler.zero : Sampler := ⟨false, false⟩

/-- One clock edge of the samples on the signal value `v`. -/
def Sampler.step (v : Bool) (s : Sampler) : Sampler := ⟨v, s.s0⟩

/-- The samples show a rising edge. -/
def Sampler.rising (s : Sampler) : Bool := s.s0 && !s.s1

/-- The samples show a falling edge. -/
def Sampler.falling (s : Sampler) : Bool := !s.s0 && s.s1

/-- No samples show both edges. -/
theorem Sampler.not_falling_of_rising {s : Sampler} (h : s.rising = true) : s.falling = false := by
  obtain ⟨s0, s1⟩ := s
  cases s0 with
  | false => cases h
  | true => rfl

section Sampler
variable {v : ℕ → Bool} {s : ℕ → Sampler} {n : ℕ}

/-- After two edges the samples are the last two levels. -/
theorem sampler_eq (h0 : s (n + 1) = (s n).step (v n))
    (h1 : s (n + 2) = (s (n + 1)).step (v (n + 1))) : s (n + 2) = ⟨v (n + 1), v n⟩ := by
  rw [h1, h0]
  rfl

theorem rising_iff (h0 : s (n + 1) = (s n).step (v n))
    (h1 : s (n + 2) = (s (n + 1)).step (v (n + 1))) :
    (s (n + 2)).rising = true ↔ Rises v n := by
  rw [sampler_eq h0 h1]
  simp [Sampler.rising, Rises, and_comm]

theorem falling_iff (h0 : s (n + 1) = (s n).step (v n))
    (h1 : s (n + 2) = (s (n + 1)).step (v (n + 1))) :
    (s (n + 2)).falling = true ↔ Falls v n := by
  rw [sampler_eq h0 h1]
  simp [Sampler.falling, Falls, and_comm]

end Sampler

/-! ## Alternation -/

/-- Every rise is followed by a fall before the next one. -/
theorem countIn_rises (v : ℕ → Bool) {a b : ℕ} (hab : a ≤ b) :
    countIn (Rises v) a b + (v a).toNat = countIn (Falls v) a b + (v b).toNat := by
  refine preserved (P := fun b => countIn (Rises v) a b + (v a).toNat =
    countIn (Falls v) a b + (v b).toNat) hab (by simp) fun n han _ ih => ?_
  rw [countIn_succ han, countIn_succ han]
  cases hn : v n with
  | false =>
      have hfall : ¬ Falls v n := fun h => by rw [h.1] at hn; cases hn
      rw [hn, Bool.toNat_false] at ih
      cases hn' : v (n + 1) with
      | false =>
          have hrise : ¬ Rises v n := fun h => by rw [h.2] at hn'; cases hn'
          rw [if_neg hrise, if_neg hfall, Bool.toNat_false]
          omega
      | true =>
          rw [if_pos (show Rises v n from ⟨hn, hn'⟩), if_neg hfall, Bool.toNat_true]
          omega
  | true =>
      have hrise : ¬ Rises v n := fun h => by rw [h.1] at hn; cases hn
      rw [hn, Bool.toNat_true] at ih
      cases hn' : v (n + 1) with
      | false =>
          rw [if_neg hrise, if_pos (show Falls v n from ⟨hn, hn'⟩), Bool.toNat_false]
          omega
      | true =>
          have hfall : ¬ Falls v n := fun h => by rw [h.2] at hn'; cases hn'
          rw [if_neg hrise, if_neg hfall, Bool.toNat_true]
          omega

end Clocked
