import Undertale.Clocked.Counter

/-!
# A coordinate with a motion register

A sprite coordinate of the usual kind is a `w`-bit position and a `w`-bit motion
register.  A tick moves the position by the motion *register* and loads the
register with the motion the key asks for.  A key that pushes the coordinate
against a limit it has reached clamps it there instead.  Steps are of one unit,
so a motion is `0`, `1` or `-1` in two's complement (`Axis.Unit`).

The limit test reads the position and not the motion, so the last step towards a
limit leaves a motion behind that the next tick still applies.  `Axis.Overruns`
is the exact condition for a tick to leave the limits and `Axis.Jumps` the exact
condition for a tick to change the position, read as a number, by more than one.
-/

namespace Clocked

variable {w : ℕ}

/-! ## Axes -/

/-- A coordinate: its position and its motion register. -/
structure Axis (w : ℕ) where
  pos : BitVec w
  motion : BitVec w

/-- What a key asks of an axis: push it down or up, keep its motion, or stop. -/
inductive Push where
  | minus | plus | hold | release
deriving DecidableEq, Repr

/-- One tick of an axis with limits `lo` and `hi`. -/
def Axis.tick (lo hi : BitVec w) (k : Push) (a : Axis w) : Axis w :=
  match k with
  | .minus => if a.pos ≤ lo then ⟨lo, 0#w⟩ else ⟨a.pos + a.motion, -1#w⟩
  | .plus => if hi ≤ a.pos then ⟨hi, 0#w⟩ else ⟨a.pos + a.motion, 1#w⟩
  | .hold => ⟨a.pos + a.motion, a.motion⟩
  | .release => ⟨a.pos + a.motion, 0#w⟩

/-- The key pushes the axis against a limit that it has reached. -/
def Axis.Clamps (lo hi : BitVec w) (k : Push) (a : Axis w) : Prop :=
  (k = .minus ∧ a.pos ≤ lo) ∨ (k = .plus ∧ hi ≤ a.pos)

instance (lo hi : BitVec w) (k : Push) (a : Axis w) : Decidable (a.Clamps lo hi k) :=
  inferInstanceAs (Decidable (_ ∨ _))

/-- The motion register holds a unit step. -/
def Axis.Unit (a : Axis w) : Prop := a.motion = 0#w ∨ a.motion = 1#w ∨ a.motion = -1#w

/-- The position lies within the limits. -/
def Axis.Within (lo hi : BitVec w) (a : Axis w) : Prop := lo ≤ a.pos ∧ a.pos ≤ hi

section tick
variable {lo hi : BitVec w} {k : Push} {a : Axis w}

/-- An axis that is not clamped moves by its motion register. -/
theorem Axis.tick_pos (h : ¬ a.Clamps lo hi k) : (a.tick lo hi k).pos = a.pos + a.motion := by
  cases k with
  | minus => simp only [Axis.tick]; rw [if_neg fun hc => h (.inl ⟨rfl, hc⟩)]
  | plus => simp only [Axis.tick]; rw [if_neg fun hc => h (.inr ⟨rfl, hc⟩)]
  | hold => rfl
  | release => rfl

theorem Axis.tick_minus_pos (h : a.pos ≤ lo) : (a.tick lo hi .minus).pos = lo := by
  simp [Axis.tick, h]

theorem Axis.tick_plus_pos (h : hi ≤ a.pos) : (a.tick lo hi .plus).pos = hi := by
  simp [Axis.tick, h]

/-- Whatever the key, a tick leaves a unit step in the motion register. -/
theorem Axis.Unit.tick (h : a.Unit) (lo hi : BitVec w) (k : Push) : (a.tick lo hi k).Unit := by
  cases k with
  | minus =>
      simp only [Axis.tick]
      split
      · exact .inl rfl
      · exact .inr (.inr rfl)
  | plus =>
      simp only [Axis.tick]
      split
      · exact .inl rfl
      · exact .inr (.inl rfl)
  | hold => exact h
  | release => exact .inl rfl

/-! ## Leaving the limits -/

/-- The axis stands on a limit with its motion still pointing out across it, and
the key does not clamp it. -/
def Axis.Overruns (lo hi : BitVec w) (k : Push) (a : Axis w) : Prop :=
  ¬ a.Clamps lo hi k ∧ ((a.pos = lo ∧ a.motion = -1#w) ∨ (a.pos = hi ∧ a.motion = 1#w))

instance (lo hi : BitVec w) (k : Push) (a : Axis w) : Decidable (a.Overruns lo hi k) :=
  inferInstanceAs (Decidable (_ ∧ _))

/-- A tick keeps an axis within limits that a unit step can cross exactly when
the axis does not overrun one of them. -/
theorem Axis.within_tick_iff (hlo : 0 < lo.toNat) (hhi : hi.toNat + 1 < 2 ^ w) (hu : a.Unit)
    (ha : a.Within lo hi) : (a.tick lo hi k).Within lo hi ↔ ¬ a.Overruns lo hi k := by
  obtain ⟨hal, hah⟩ := ha
  rw [BitVec.le_def] at hal hah
  by_cases hc : a.Clamps lo hi k
  · refine ⟨fun _ ho => ho.1 hc, fun _ => ?_⟩
    rcases hc with ⟨rfl, h⟩ | ⟨rfl, h⟩
    · rw [Axis.Within, Axis.tick_minus_pos h, BitVec.le_def, BitVec.le_def]; omega
    · rw [Axis.Within, Axis.tick_plus_pos h, BitVec.le_def, BitVec.le_def]; omega
  · rw [Axis.Within, Axis.tick_pos hc, BitVec.le_def, BitVec.le_def]
    constructor
    · rintro ⟨h1, h2⟩ ⟨-, ⟨hp, hm⟩ | ⟨hp, hm⟩⟩
      · rw [hm, toNat_add_neg_one, hp] at h1; split at h1 <;> omega
      · rw [hm, toNat_add_one, hp] at h2; split at h2 <;> omega
    · intro ho
      rcases hu with hm | hm | hm
      · rw [hm, BitVec.add_zero]; exact ⟨hal, hah⟩
      · have hne : a.pos.toNat ≠ hi.toNat :=
          fun he => ho ⟨hc, .inr ⟨BitVec.eq_of_toNat_eq he, hm⟩⟩
        rw [hm, toNat_add_one, if_neg (by omega)]; omega
      · have hne : a.pos.toNat ≠ lo.toNat :=
          fun he => ho ⟨hc, .inl ⟨BitVec.eq_of_toNat_eq he, hm⟩⟩
        rw [hm, toNat_add_neg_one, if_neg (by omega)]; omega

/-! ## Steps of more than one -/

/-- Two positions differ by at most one as numbers. -/
def Near (x y : BitVec w) : Prop := x.toNat ≤ y.toNat + 1 ∧ y.toNat ≤ x.toNat + 1

theorem Near.refl (x : BitVec w) : Near x x := by simp [Near]

/-- The tick clamps an axis that is more than one beyond the limit, or moves an
axis that stands at the end of the register's range out across it. -/
def Axis.Jumps (lo hi : BitVec w) (k : Push) (a : Axis w) : Prop :=
  (k = .minus ∧ a.pos.toNat + 1 < lo.toNat) ∨ (k = .plus ∧ hi.toNat + 1 < a.pos.toNat) ∨
    (¬ a.Clamps lo hi k ∧
      ((a.pos.toNat = 0 ∧ a.motion = -1#w) ∨ (a.pos.toNat + 1 = 2 ^ w ∧ a.motion = 1#w)))

instance (lo hi : BitVec w) (k : Push) (a : Axis w) : Decidable (a.Jumps lo hi k) :=
  inferInstanceAs (Decidable (_ ∨ _))

/-- A tick moves the position by at most one exactly when the axis does not jump. -/
theorem Axis.near_tick_iff (lo hi : BitVec w) (k : Push) (hw : 2 < 2 ^ w) (hu : a.Unit) :
    Near a.pos (a.tick lo hi k).pos ↔ ¬ a.Jumps lo hi k := by
  by_cases hc : a.Clamps lo hi k
  · rcases hc with ⟨rfl, h⟩ | ⟨rfl, h⟩
    · rw [Axis.tick_minus_pos h]
      rw [BitVec.le_def] at h
      have hj : a.Jumps lo hi .minus ↔ a.pos.toNat + 1 < lo.toNat := by
        simp [Axis.Jumps, Axis.Clamps, BitVec.le_def, h]
      rw [hj, Near]; omega
    · rw [Axis.tick_plus_pos h]
      rw [BitVec.le_def] at h
      have hj : a.Jumps lo hi .plus ↔ hi.toNat + 1 < a.pos.toNat := by
        simp [Axis.Jumps, Axis.Clamps, BitVec.le_def, h]
      rw [hj, Near]; omega
  · rw [Axis.tick_pos hc]
    -- an axis that is not clamped jumps only by wrapping
    have hj : a.Jumps lo hi k ↔
        (a.pos.toNat = 0 ∧ a.motion = -1#w) ∨ (a.pos.toNat + 1 = 2 ^ w ∧ a.motion = 1#w) := by
      constructor
      · rintro (⟨rfl, h⟩ | ⟨rfl, h⟩ | ⟨-, h⟩)
        · exact absurd (.inl ⟨rfl, by rw [BitVec.le_def]; omega⟩) hc
        · exact absurd (.inr ⟨rfl, by rw [BitVec.le_def]; omega⟩) hc
        · exact h
      · exact fun h => .inr (.inr ⟨hc, h⟩)
    rw [hj, Near]
    have hlt : a.pos.toNat < 2 ^ w := a.pos.isLt
    constructor
    · rintro ⟨h1, h2⟩ (⟨hp, hm⟩ | ⟨hp, hm⟩)
      · rw [hm, toNat_add_neg_one, if_pos hp] at h2; omega
      · rw [hm, toNat_add_one, if_pos hp] at h1; omega
    · intro hn
      rcases hu with hm | hm | hm
      · rw [hm, BitVec.add_zero]; omega
      · rw [hm, toNat_add_one, if_neg fun he => hn (.inr ⟨he, hm⟩)]; omega
      · rw [hm, toNat_add_neg_one, if_neg fun he => hn (.inl ⟨he, hm⟩)]; omega

/-! ## Axes without a held motion -/

/-- The axis is at most one beyond its limits, and does not point further out
there. -/
def Axis.Tame (lo hi : BitVec w) (a : Axis w) : Prop :=
  (lo.toNat ≤ a.pos.toNat + 1 ∧ a.pos.toNat ≤ hi.toNat + 1) ∧
    (a.pos.toNat < lo.toNat → a.motion ≠ -1#w) ∧ (hi.toNat < a.pos.toNat → a.motion ≠ 1#w)

/-- In a register of at least two bits the three unit steps are distinct. -/
theorem unit_steps_distinct {w : ℕ} (hw : 2 < 2 ^ w) : 0#w ≠ 1#w ∧ 0#w ≠ -1#w ∧ 1#w ≠ -1#w := by
  have hpos : 0 < w := by
    rcases Nat.eq_zero_or_pos w with rfl | h
    · simp at hw
    · exact h
  have hone : (1#w).toNat = 1 := BitVec.toNat_one hpos
  have hneg : (-1#w).toNat = 2 ^ w - 1 := by
    have h := toNat_add_neg_one (0#w)
    rwa [BitVec.zero_add, if_pos BitVec.toNat_zero] at h
  refine ⟨fun h => ?_, fun h => ?_, fun h => ?_⟩
  · have := congrArg BitVec.toNat h
    rw [hone, BitVec.toNat_zero] at this
    omega
  · have := congrArg BitVec.toNat h
    rw [hneg, BitVec.toNat_zero] at this
    omega
  · have := congrArg BitVec.toNat h
    rw [hone, hneg] at this
    omega

/-- The position an unclamped tame axis moves to. -/
theorem Axis.Tame.move (hlo : 0 < lo.toNat) (hhi : hi.toNat + 1 < 2 ^ w) (hu : a.Unit)
    (ha : a.Tame lo hi) :
    (lo.toNat ≤ (a.pos + a.motion).toNat + 1 ∧ (a.pos + a.motion).toNat ≤ hi.toNat + 1) ∧
      (lo.toNat < a.pos.toNat → lo.toNat ≤ (a.pos + a.motion).toNat) ∧
        (a.pos.toNat < hi.toNat → (a.pos + a.motion).toNat ≤ hi.toNat) := by
  obtain ⟨⟨h1, h2⟩, h3, h4⟩ := ha
  rcases hu with hm | hm | hm
  · rw [hm, BitVec.add_zero]; omega
  · have hle : ¬ hi.toNat < a.pos.toNat := fun h => h4 h hm
    rw [hm, toNat_add_one, if_neg (by omega)]; omega
  · have hle : ¬ a.pos.toNat < lo.toNat := fun h => h3 h hm
    rw [hm, toNat_add_neg_one, if_neg (by omega)]; omega

/-- Keys that never hold a motion keep an axis tame. -/
theorem Axis.Tame.tick (hlo : 0 < lo.toNat) (hlohi : lo.toNat ≤ hi.toNat)
    (hhi : hi.toNat + 1 < 2 ^ w) (hk : k ≠ .hold) (hu : a.Unit) (ha : a.Tame lo hi) :
    (a.tick lo hi k).Tame lo hi := by
  obtain ⟨h01, h0m, h1m⟩ := unit_steps_distinct (w := w) (by omega)
  obtain ⟨⟨hl, hh⟩, hfl, hfh⟩ := ha.move hlo hhi hu
  cases k with
  | minus =>
      simp only [Axis.tick]
      split
      · exact ⟨⟨by dsimp only; omega, by dsimp only; omega⟩, fun _ => h0m, fun _ => h01⟩
      · next h =>
        rw [BitVec.le_def] at h
        refine ⟨⟨hl, hh⟩, fun h' => ?_, fun _ he => h1m he.symm⟩
        dsimp only at h'
        omega
  | plus =>
      simp only [Axis.tick]
      split
      · exact ⟨⟨by dsimp only; omega, by dsimp only; omega⟩, fun _ => h0m, fun _ => h01⟩
      · next h =>
        rw [BitVec.le_def] at h
        refine ⟨⟨hl, hh⟩, fun _ => h1m, fun h' => ?_⟩
        dsimp only at h'
        omega
  | hold => exact absurd rfl hk
  | release => exact ⟨⟨hl, hh⟩, fun _ => h0m, fun _ => h01⟩

/-! ## Positions away from the limits

Away from the limits a clamp makes no difference: whether a tick takes the axis
into an interval there can be read off the registers before it. -/

/-- The interval may touch the lower limit if the axis is not clamped there. -/
theorem Axis.tick_between_iff (lo hi : BitVec w) (k : Push) (m n : ℕ)
    (hm : ¬ (k = .minus ∧ a.pos ≤ lo) ∨ lo.toNat + 1 < m) (hpos : 0 < m) (hn : n < hi.toNat)
    (hu : a.Unit) :
    (m ≤ (a.tick lo hi k).pos.toNat ∧ (a.tick lo hi k).pos.toNat < n) ↔
      (m ≤ (a.pos + a.motion).toNat ∧ (a.pos + a.motion).toNat < n) := by
  by_cases hc : a.Clamps lo hi k
  · have hlt : hi.toNat < 2 ^ w := hi.isLt
    rcases hc with ⟨rfl, h⟩ | ⟨rfl, h⟩
    · have hlo : lo.toNat + 1 < m := hm.resolve_left fun hno => hno ⟨rfl, h⟩
      rw [Axis.tick_minus_pos h]
      rw [BitVec.le_def] at h
      refine iff_of_false (by omega) ?_
      rcases hu with hm' | hm' | hm'
      · rw [hm', BitVec.add_zero]; omega
      · rw [hm', toNat_add_one]; split <;> omega
      · rw [hm', toNat_add_neg_one]; split <;> omega
    · rw [Axis.tick_plus_pos h]
      rw [BitVec.le_def] at h
      refine iff_of_false (by omega) ?_
      rcases hu with hm' | hm' | hm'
      · rw [hm', BitVec.add_zero]; omega
      · rw [hm', toNat_add_one]; split <;> omega
      · rw [hm', toNat_add_neg_one]; split <;> omega
  · rw [Axis.tick_pos hc]

theorem Axis.lt_tick_iff (k : Push) {x : ℕ} (hlo : 0 < lo.toNat) (hhi : hi.toNat + 1 < 2 ^ w)
    (hx : lo.toNat < x) (hx' : x + 1 < hi.toNat) (hu : a.Unit) (ha : a.Tame lo hi) :
    x < (a.tick lo hi k).pos.toNat ↔ x < (a.pos + a.motion).toNat := by
  by_cases hc : a.Clamps lo hi k
  · obtain ⟨-, h3, h4⟩ := ha
    rcases hc with ⟨rfl, h⟩ | ⟨rfl, h⟩
    · rw [Axis.tick_minus_pos h]
      rw [BitVec.le_def] at h
      rcases hu with hm | hm | hm
      · rw [hm, BitVec.add_zero]; omega
      · rw [hm, toNat_add_one, if_neg (by omega)]; omega
      · have hle : ¬ a.pos.toNat < lo.toNat := fun h' => h3 h' hm
        rw [hm, toNat_add_neg_one, if_neg (by omega)]; omega
    · rw [Axis.tick_plus_pos h]
      rw [BitVec.le_def] at h
      rcases hu with hm | hm | hm
      · rw [hm, BitVec.add_zero]; omega
      · have hle : ¬ hi.toNat < a.pos.toNat := fun h' => h4 h' hm
        rw [hm, toNat_add_one, if_neg (by omega)]; omega
      · rw [hm, toNat_add_neg_one, if_neg (by omega)]; omega
  · rw [Axis.tick_pos hc]

end tick

end Clocked
