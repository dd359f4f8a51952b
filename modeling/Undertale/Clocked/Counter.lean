import Undertale.Clocked.Run

/-!
# Counters that wrap

What a step of one does to a register of `w` bits, read as a number, and the
counters built from it.  A counter over `w` bits steps by one at the edges that
enable it and goes back to 0 at `top`.  Whatever it starts from, also above `top`,
it comes by every value up to `top` again and again, as long as it keeps being
enabled.
-/

namespace Clocked

variable {w : ℕ}

/-! ## Unit steps of a register -/

theorem toNat_add_one (x : BitVec w) :
    (x + 1#w).toNat = if x.toNat + 1 = 2 ^ w then 0 else x.toNat + 1 := by
  have hx : x.toNat < 2 ^ w := x.isLt
  have hadd : (x + 1#w).toNat = (x.toNat + 1) % 2 ^ w := by
    simp [BitVec.toNat_add, Nat.add_mod]
  rw [hadd]
  split
  · next h => rw [h, Nat.mod_self]
  · exact Nat.mod_eq_of_lt (by omega)

theorem toNat_add_neg_one (x : BitVec w) :
    (x + -1#w).toNat = if x.toNat = 0 then 2 ^ w - 1 else x.toNat - 1 := by
  have hback : x = (x + -1#w) + 1#w := by
    rw [BitVec.add_assoc, BitVec.add_left_neg, BitVec.add_zero]
  have hone := toNat_add_one (x + -1#w)
  rw [← hback] at hone
  have hlt : (x + -1#w).toNat < 2 ^ w := (x + -1#w).isLt
  split at hone
  · next h => rw [if_pos hone]; omega
  · next h => rw [if_neg (by omega)]; omega

/-- A signed step that does not leave the range of the register is a step of the
number in it. -/
theorem toNat_add_ofInt (x : BitVec w) {z : ℤ} (h0 : 0 ≤ (x.toNat : ℤ) + z)
    (h1 : (x.toNat : ℤ) + z < (2 ^ w : ℕ)) :
    ((x + BitVec.ofInt w z).toNat : ℤ) = x.toNat + z := by
  have hsum : x + BitVec.ofInt w z = BitVec.ofInt w (x.toNat + z) := by
    rw [BitVec.ofInt_add, BitVec.ofInt_natCast, BitVec.ofNat_toNat, BitVec.setWidth_eq]
  rw [hsum, BitVec.toNat_ofInt, Int.emod_eq_of_lt h0 h1, Int.toNat_of_nonneg h0]

/-! ## Wrapping counters -/

/-- The next value of a counter that wraps at `top`. -/
def wrapNext (top v : BitVec w) : BitVec w := if v = top then 0#w else v + 1#w

/-- A register that is not enabled waits for its enable. -/
theorem exists_enabled {α : Type*} {v : ℕ → α} {e : ℕ → Prop}
    (hhold : ∀ n, ¬ e n → v (n + 1) = v n) {a b : ℕ} (hab : a ≤ b) (hb : e b) :
    ∃ n, a ≤ n ∧ e n ∧ v n = v a := by
  induction hab using Nat.decreasingInduction with
  | self => exact ⟨b, le_rfl, hb, rfl⟩
  | of_succ a _ ih =>
      rcases Classical.em (e a) with h | h
      · exact ⟨a, le_rfl, h, rfl⟩
      · obtain ⟨n, han, hn, hv⟩ := ih
        exact ⟨n, Nat.le_of_succ_le han, hn, hv.trans (hhold a h)⟩

section counter
variable {top : BitVec w} {v : ℕ → BitVec w} {e : ℕ → Prop}

variable (hhold : ∀ n, ¬ e n → v (n + 1) = v n) (hstep : ∀ n, e n → v (n + 1) = wrapNext top (v n))
  (hen : ∀ n, ∃ m, n ≤ m ∧ e m)
include hhold hstep hen

/-- The counter reaches `top`.  The distance to it, modulo `2 ^ w`, shrinks by
one at every enabled edge. -/
theorem exists_eq_top (n : ℕ) : ∃ m, n ≤ m ∧ v m = top := by
  induction h : (top - v n).toNat generalizing n with
  | zero =>
      have hsub : top - v n = 0#w := BitVec.eq_of_toNat_eq (by rw [h, BitVec.toNat_zero])
      rw [BitVec.sub_eq_iff_eq_add, BitVec.zero_add] at hsub
      exact ⟨n, le_rfl, hsub.symm⟩
  | succ d ih =>
      obtain ⟨b, hnb, hb⟩ := hen n
      obtain ⟨k, hnk, hk, hv⟩ := exists_enabled hhold hnb hb
      have hne : v k ≠ top := by
        intro he
        rw [← hv, he, BitVec.sub_self, BitVec.toNat_zero] at h
        cases h
      have hnext : v (k + 1) = v n + 1#w := by
        rw [hstep k hk, wrapNext, if_neg hne, hv]
      have hdist : (top - v (k + 1)).toNat = d := by
        have hback : top - v n = (top - v (k + 1)) + 1#w := by
          rw [hnext, ← BitVec.sub_sub, BitVec.sub_add_cancel]
        rw [hback, toNat_add_one] at h
        split at h
        · cases h
        · exact Nat.succ.inj h
      obtain ⟨m, hkm, hm⟩ := ih (k + 1) hdist
      exact ⟨m, by omega, hm⟩

/-- The counter comes by every value up to `top` again and again. -/
theorem exists_eq_ofNat {t : ℕ} (ht : t ≤ top.toNat) (n : ℕ) :
    ∃ m, n ≤ m ∧ v m = BitVec.ofNat w t := by
  induction t with
  | zero =>
      obtain ⟨a, hna, ha⟩ := exists_eq_top hhold hstep hen n
      obtain ⟨b, hab, hb⟩ := hen a
      obtain ⟨k, hak, hk, hv⟩ := exists_enabled hhold hab hb
      refine ⟨k + 1, by omega, ?_⟩
      rw [hstep k hk, wrapNext, if_pos (hv.trans ha)]
  | succ t ih =>
      obtain ⟨a, hna, ha⟩ := ih (Nat.le_of_succ_le ht)
      obtain ⟨b, hab, hb⟩ := hen a
      obtain ⟨k, hak, hk, hv⟩ := exists_enabled hhold hab hb
      have hlt : t < 2 ^ w := lt_of_lt_of_le ht top.isLt.le
      have hne : v k ≠ top := by
        intro he
        rw [hv, ha] at he
        have := congrArg BitVec.toNat he
        rw [BitVec.toNat_ofNat, Nat.mod_eq_of_lt hlt] at this
        omega
      refine ⟨k + 1, by omega, ?_⟩
      rw [hstep k hk, wrapNext, if_neg hne, hv, ha, BitVec.ofNat_add]

end counter

end Clocked
