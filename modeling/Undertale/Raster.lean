import Undertale.Clocked.Events
import Undertale.Vga

/-!
# The raster

A frame is 420000 pixels of two clocks each, of which 640 × 480 are displayed.
`Vga.scan_eq` gives the registers at every clock from reset in closed form, and
`Vga.timing` is what a screen needs of them: every pixel has its two clocks in every
frame, the sync pulses have their lengths and come at their intervals, and nothing is
displayed during one.  The sync registers are a pixel behind the counters.  For `hs` the
comparison with `hc + 1` makes up for it; for `vs` the one with `vc + 1` does not, and its
two lines are 489 and 490 and begin at the second pixel.
-/

namespace Undertale

open Clocked

/-! ## The registers in closed form -/

/-- The registers after `q` pixels.  `clkdiv` is the phase within a pixel. -/
def Vga.raster (clkdiv : Bool) (q : ℕ) : Vga where
  clkdiv := clkdiv
  hc := BitVec.ofNat 10 (q % 800)
  vc := BitVec.ofNat 10 (q / 800 % 525)
  hs := q ≠ 0 ∧ ¬ (656 ≤ (q - 1) % 800 + 1 ∧ (q - 1) % 800 + 1 < 752)
  vs := q ≠ 0 ∧ ¬ ((q - 1) / 800 % 525 + 1 = 490 ∨ (q - 1) / 800 % 525 + 1 = 491)

theorem Vga.scan_even (k : ℕ) : Vga.scan (2 * k) = Vga.raster false k := by
  cases k with
  | zero => rfl
  | succ k =>
      obtain ⟨hx, hy⟩ := Pixel.mk.inj (Vga.scan_draw k)
      obtain ⟨hx', hy'⟩ := Pixel.mk.inj (Vga.scan_draw (k + 1))
      have hdiv : (Vga.scan (2 * (k + 1))).clkdiv = false := by
        rw [Vga.scan_clkdiv]
        exact decide_eq_false (by omega)
      have hcol : (BitVec.ofNat 10 (k % 800)).toNat = k % 800 := by
        rw [BitVec.toNat_ofNat, Nat.mod_eq_of_lt (by omega)]
      have hline : (BitVec.ofNat 10 (k / 800 % 525)).toNat = k / 800 % 525 := by
        rw [BitVec.toNat_ofNat, Nat.mod_eq_of_lt (by omega)]
      have hs : (Vga.scan (2 * (k + 1))).hs =
          decide (¬ (656 ≤ k % 800 + 1 ∧ k % 800 + 1 < 752)) := by
        rw [Vga.scan_pixel, Vga.pixelStep, hx, hcol, Bool.eq_iff_iff]
        simp
      have vs : (Vga.scan (2 * (k + 1))).vs =
          decide (¬ (k / 800 % 525 + 1 = 490 ∨ k / 800 % 525 + 1 = 491)) := by
        rw [Vga.scan_pixel, Vga.pixelStep, hy, hline, Bool.eq_iff_iff]
        simp
      generalize Vga.scan (2 * (k + 1)) = r at *
      obtain ⟨clkdiv, hc, vc, hsr, vsr⟩ := r
      dsimp only at hx' hy' hdiv hs vs
      rw [hx', hy', hdiv, hs, vs, Vga.raster]
      simp

/-- The registers at every clock. -/
theorem Vga.scan_eq (n : ℕ) : Vga.scan n = Vga.raster (decide (n % 2 = 1)) ((n + 1) / 2) := by
  rcases Nat.even_or_odd' n with ⟨k, rfl | rfl⟩
  · rw [Vga.scan_even, decide_eq_false (by omega), show (2 * k + 1) / 2 = k by omega]
  · have hnext := Vga.scan_even (k + 1)
    have hdiv : (Vga.scan (2 * k)).clkdiv = false := by rw [Vga.scan_even]; rfl
    rw [Vga.scan_pixel] at hnext
    rw [Vga.scan_succ, Vga.step_high hdiv, hnext, decide_eq_true (by omega),
      show (2 * k + 1 + 1) / 2 = k + 1 by omega]
    rfl

theorem Vga.blank_raster (clkdiv : Bool) (q : ℕ) :
    (Vga.raster clkdiv q).blank = true ↔ q % 800 < 640 ∧ q / 800 % 525 < 480 := by
  have hcol : (BitVec.ofNat 10 (q % 800)).toNat = q % 800 := by
    rw [BitVec.toNat_ofNat, Nat.mod_eq_of_lt (by omega)]
  have hline : (BitVec.ofNat 10 (q / 800 % 525)).toNat = q / 800 % 525 := by
    rw [BitVec.toNat_ofNat, Nat.mod_eq_of_lt (by omega)]
  simp [Vga.blank, Vga.raster, BitVec.le_def, hcol, hline]

theorem Vga.counter_inj {m k : ℕ} (hm : m < 800) (hk : k < 800) :
    BitVec.ofNat 10 m = BitVec.ofNat 10 k ↔ m = k := by
  rw [← BitVec.toNat_inj, BitVec.toNat_ofNat, BitVec.toNat_ofNat, Nat.mod_eq_of_lt (by omega),
    Nat.mod_eq_of_lt (by omega)]

/-! ## The frame edges -/

/-- The frame edges so far, without the one of the first clock. -/
theorem Vga.count_edges {n : ℕ} (hn : 0 < n) :
    countIn (Rises fun n => (Vga.scan n).vs) 1 n = (n + 54399) / 840000 := by
  induction n, hn using Nat.le_induction with
  | base => exact countIn_self 1
  | succ n hn ih =>
      rw [countIn_succ hn, ih]
      simp only [Vga.rises_scan_iff hn]
      split <;> omega

theorem Vga.count_edges_zero {n : ℕ} (hn : 0 < n) :
    countIn (Rises fun n => (Vga.scan n).vs) 0 n = (n + 54399) / 840000 + 1 := by
  have hfirst : countIn (Rises fun n => (Vga.scan n).vs) 0 1 = 1 := by decide
  rw [← countIn_add (Nat.zero_le 1) hn, Vga.count_edges hn, hfirst, Nat.add_comm]

/-- The clock of a frame edge. -/
theorem Vga.eq_of_isNth {q n : ℕ} (h : IsNth (Rises fun n => (Vga.scan n).vs) 0 (q + 2) n) :
    n = 785600 + 840000 * q := by
  obtain ⟨-, hn, hcount⟩ := h
  rw [Vga.count_edges_zero n.succ_pos] at hcount
  rw [Vga.rises_scan_iff (by omega)] at hn
  omega

/-! ## What a screen needs -/

/-- A pixel of the picture is displayed in a clock. -/
def Vga.Shows (x y n : ℕ) : Prop :=
  (Vga.scan n).blank = true ∧ (Vga.scan n).draw = ⟨BitVec.ofNat 10 x, BitVec.ofNat 10 y⟩

instance (x y : ℕ) : DecidablePred (Vga.Shows x y) :=
  fun _ => inferInstanceAs (Decidable (_ ∧ _))

theorem Vga.shows_iff {x y : ℕ} (hx : x < 640) (hy : y < 480) (n : ℕ) :
    Vga.Shows x y n ↔ (n + 1) / 2 % 420000 = 800 * y + x := by
  have hcol := Vga.counter_inj (m := (n + 1) / 2 % 800) (k := x) (by omega) (by omega)
  have hline := Vga.counter_inj (m := (n + 1) / 2 / 800 % 525) (k := y) (by omega) (by omega)
  rw [Vga.Shows, Vga.scan_eq, Vga.blank_raster]
  simp only [Vga.draw, Vga.raster, Pixel.mk.injEq, hcol, hline]
  omega

/-- Every window of a frame has the two clocks of a pixel. -/
theorem Vga.shows_twice {x y : ℕ} (hx : x < 640) (hy : y < 480) (a : ℕ) :
    countIn (Vga.Shows x y) a (a + 840000) = 2 := by
  have hperiod : ∀ n, Vga.Shows x y (n + 840000) ↔ Vga.Shows x y n := by
    intro n
    rw [Vga.shows_iff hx hy, Vga.shows_iff hx hy]
    omega
  -- counted over a window that does not cut the pixel in two
  have hpulse : ∀ n, 1 ≤ n → n < 1 + 840000 → (Vga.Shows x y n ↔
      2 * (800 * y + x + if x + y = 0 then 420000 else 0) - 1 ≤ n ∧
        n < 2 * (800 * y + x + if x + y = 0 then 420000 else 0) + 1) := by
    intro n hn hn'
    rw [Vga.shows_iff hx hy]
    split <;> omega
  rw [countIn_pulse hperiod hpulse (by split <;> omega) (by split <;> omega)]
  split <;> omega

/-- `hs` is low for 96 pixels of a line. -/
theorem Vga.hs_low {n : ℕ} (hn : 0 < n) :
    (Vga.scan n).hs = false ↔ 656 ≤ (n + 1) / 2 % 800 ∧ (n + 1) / 2 % 800 < 752 := by
  rw [Vga.scan_eq]
  simp only [Vga.raster, decide_eq_false_iff_not]
  omega

/-- `vs` is low for two lines of a frame, from the second pixel of line 489 on. -/
theorem Vga.vs_low {n : ℕ} (hn : 0 < n) :
    (Vga.scan n).vs = false ↔
      391201 ≤ (n + 1) / 2 % 420000 ∧ (n + 1) / 2 % 420000 < 392801 := by
  rw [Vga.scan_eq]
  simp only [Vga.raster, decide_eq_false_iff_not]
  omega

/-- Every window of a line has the clocks of its pulse. -/
theorem Vga.count_hs {a : ℕ} (ha : 0 < a) :
    countIn (fun n => (Vga.scan n).hs = false) a (a + 1600) = 192 := by
  rw [countIn_congr fun n han => Vga.hs_low (Nat.lt_of_lt_of_le ha han)]
  exact countIn_pulse (c := 0) (by omega) (by omega) (Nat.zero_le 1311)
    (show 1503 ≤ 0 + 1600 by decide) a

/-- Every window of a frame has the clocks of its pulse. -/
theorem Vga.count_vs {a : ℕ} (ha : 0 < a) :
    countIn (fun n => (Vga.scan n).vs = false) a (a + 840000) = 3200 := by
  rw [countIn_congr fun n han => Vga.vs_low (Nat.lt_of_lt_of_le ha han)]
  exact countIn_pulse (c := 0) (by omega) (by omega) (Nat.zero_le 782401)
    (show 785601 ≤ 0 + 840000 by decide) a

/-- Nothing is displayed during a pulse. -/
theorem Vga.high_of_blank {n : ℕ} (hn : 0 < n) (h : (Vga.scan n).blank = true) :
    (Vga.scan n).hs = true ∧ (Vga.scan n).vs = true := by
  rw [Vga.scan_eq, Vga.blank_raster] at h
  constructor
  · rw [← Bool.not_eq_false, Vga.hs_low hn]
    omega
  · rw [← Bool.not_eq_false, Vga.vs_low hn]
    omega

/-- The picture and the sync pulses from any clock on. -/
theorem Vga.timing {a : ℕ} (ha : 0 < a) :
    (∀ x y, x < 640 → y < 480 → countIn (Vga.Shows x y) a (a + 840000) = 2) ∧
      countIn (fun n => (Vga.scan n).hs = false) a (a + 1600) = 192 ∧
      countIn (fun n => (Vga.scan n).vs = false) a (a + 840000) = 3200 ∧
      ∀ n, a ≤ n → (Vga.scan n).blank = true → (Vga.scan n).hs = true ∧ (Vga.scan n).vs = true :=
  ⟨fun _ _ hx hy => Vga.shows_twice hx hy a, Vga.count_hs ha, Vga.count_vs ha,
    fun _ han hn => Vga.high_of_blank (Nat.lt_of_lt_of_le ha han) hn⟩

/-- From the first clock after reset on. -/
theorem Vga.timing_first :
    (∀ x y, x < 640 → y < 480 → countIn (Vga.Shows x y) 1 (1 + 840000) = 2) ∧
      countIn (fun n => (Vga.scan n).hs = false) 1 (1 + 1600) = 192 ∧
      countIn (fun n => (Vga.scan n).vs = false) 1 (1 + 840000) = 3200 ∧
      ∀ n, 1 ≤ n → (Vga.scan n).blank = true → (Vga.scan n).hs = true ∧ (Vga.scan n).vs = true :=
  Vga.timing Nat.one_pos

end Undertale
