import Undertale.Clocked.Counter

/-!
# The VGA controller

`vga_controller` divides the clock by two and runs its counters on the divided
clock: `hc` over the pixels of a line, `vc` over the lines of a frame, and the
registered sync pulses `hs` and `vs`.  `vs` is the frame clock of the game.  A
posedge of `clkdiv` happens inside the clock edge that raises it, so one
`Vga.step` is one clock edge with the pixel-clock blocks run after it.
-/

namespace Undertale

open Clocked

/-- The registers of `vga_controller`. -/
structure Vga where
  clkdiv : Bool
  hc : BitVec 10
  vc : BitVec 10
  hs : Bool
  vs : Bool
deriving DecidableEq, Repr

/-- The last pixel of a line. -/
def hpixels : BitVec 10 := 799#10

/-- The last line of a frame. -/
def vlines : BitVec 10 := 524#10

/-- The registers while `Reset` is high. -/
def Vga.init : Vga where
  clkdiv := false
  hc := 0#10
  vc := 0#10
  hs := false
  vs := false

/-- The blocks at a posedge of `clkdiv`.  The sync pulses compare `hc + 1` and
`vc + 1` in 32 bits, so the sums do not wrap. -/
def Vga.pixelStep (r : Vga) : Vga where
  clkdiv := r.clkdiv
  hc := wrapNext hpixels r.hc
  vc := if r.hc = hpixels then wrapNext vlines r.vc else r.vc
  hs := !(656 ≤ r.hc.toNat + 1 && r.hc.toNat + 1 < 752)
  vs := !(r.vc.toNat + 1 == 490 || r.vc.toNat + 1 == 491)

/-- One clock edge of `vga_controller`. -/
def Vga.step (reset : Bool) (r : Vga) : Vga :=
  if reset then Vga.init
  else if r.clkdiv then { r with clkdiv := false }
  else { r.pixelStep with clkdiv := true }

/-- `blank`: a pixel is displayed. -/
def Vga.blank (r : Vga) : Bool := !(640#10 ≤ r.hc || 480#10 ≤ r.vc)

/-- A pixel of the screen. -/
structure Pixel where
  drawX : BitVec 10
  drawY : BitVec 10
deriving DecidableEq, Repr

/-- `DrawX` and `DrawY`: the pixel that is scanned. -/
def Vga.draw (r : Vga) : Pixel := ⟨r.hc, r.vc⟩

/-! ## One clock edge -/

section step
variable {r : Vga}

theorem Vga.step_low (h : r.clkdiv = true) : r.step false = { r with clkdiv := false } := by
  simp [Vga.step, h]

theorem Vga.step_high (h : r.clkdiv = false) :
    r.step false = { r.pixelStep with clkdiv := true } := by
  simp [Vga.step, h]

@[simp] theorem Vga.step_clkdiv (r : Vga) : (r.step false).clkdiv = !r.clkdiv := by
  cases h : r.clkdiv with
  | false => rw [Vga.step_high h]; rfl
  | true => rw [Vga.step_low h]; rfl

end step

/-! ## The phase of the frame clock

`vs` changes at posedges of `clkdiv` only, and those are two clocks apart. -/

section phase
variable {r : ℕ → Vga}

theorem Vga.clkdiv_add_two (hr : ∀ n, r (n + 1) = (r n).step false) (n : ℕ) :
    (r (n + 2)).clkdiv = (r n).clkdiv := by
  rw [hr (n + 1), hr n]
  simp

/-- The frame clock rises while `clkdiv` is low. -/
theorem Vga.clkdiv_of_rises (hr : ∀ n, r (n + 1) = (r n).step false) {n : ℕ}
    (h : Rises (fun k => (r k).vs) n) : (r n).clkdiv = false := by
  obtain ⟨h0, h1⟩ := h
  cases hc : (r n).clkdiv with
  | false => rfl
  | true =>
      dsimp only at h0 h1
      rw [hr n, Vga.step_low hc] at h1
      rw [h0] at h1
      cases h1

/-- The frame clock does not rise three clocks after it has risen. -/
theorem Vga.not_rises_add_three (hr : ∀ n, r (n + 1) = (r n).step false) {n : ℕ}
    (h : Rises (fun k => (r k).vs) n) : ¬ Rises (fun k => (r k).vs) (n + 3) := by
  intro h3
  have hn := Vga.clkdiv_of_rises hr h
  have hn3 := Vga.clkdiv_of_rises hr h3
  rw [Vga.clkdiv_add_two hr (n + 1), hr n, Vga.step_clkdiv, hn] at hn3
  cases hn3

/-- The frame clock does not rise twice within three clocks. -/
theorem Vga.not_rises_of_rises (hr : ∀ n, r (n + 1) = (r n).step false) {n k : ℕ}
    (h : Rises (fun k => (r k).vs) n) (hk : 0 < k) (hk' : k ≤ 3) :
    ¬ Rises (fun k => (r k).vs) (n + k) := by
  intro hnk
  obtain ⟨-, hhigh⟩ := id h
  obtain ⟨hlow, -⟩ := id hnk
  dsimp only at hhigh hlow
  obtain rfl | rfl | rfl : k = 1 ∨ k = 2 ∨ k = 3 := by omega
  · rw [hhigh] at hlow; cases hlow
  · have hdiv : (r (n + 1)).clkdiv = true := by
      rw [hr n, Vga.step_clkdiv, Vga.clkdiv_of_rises hr h]; rfl
    rw [hr (n + 1), Vga.step_low hdiv, hhigh] at hlow
    cases hlow
  · exact Vga.not_rises_add_three hr h hnk

/-- Two clocks from a low phase are one pixel. -/
theorem Vga.add_two (hr : ∀ n, r (n + 1) = (r n).step false) {n : ℕ} (h : (r n).clkdiv = false) :
    r (n + 2) = (r n).pixelStep := by
  have h1 : r (n + 1) = { (r n).pixelStep with clkdiv := true } := by
    rw [hr n, Vga.step_high h]
  rw [hr (n + 1), Vga.step_low (by rw [h1]), h1]
  simp [Vga.pixelStep, h]

/-! ## The frame clock keeps running

Read once a pixel, `hc` is a counter that wraps at `hpixels`, and `vc` is one
that wraps at `vlines` and is enabled by the last pixel of a line. -/

/-- The pixels from a low phase on. -/
theorem Vga.pixel_succ (hr : ∀ n, r (n + 1) = (r n).step false) {a : ℕ}
    (ha : (r a).clkdiv = false) (k : ℕ) : r (a + 2 * (k + 1)) = (r (a + 2 * k)).pixelStep := by
  refine Vga.add_two hr ?_
  induction k with
  | zero => exact ha
  | succ k ih => exact (Vga.clkdiv_add_two hr (a + 2 * k)).trans ih

/-- From whatever the registers hold, every value of `vc` comes up again. -/
theorem Vga.exists_vc (hr : ∀ n, r (n + 1) = (r n).step false) {a t : ℕ}
    (ha : (r a).clkdiv = false) (ht : t ≤ 524) (k : ℕ) :
    ∃ l, k ≤ l ∧ (r (a + 2 * l)).vc = BitVec.ofNat 10 t := by
  have hline : ∀ k, ∃ l, k ≤ l ∧ (r (a + 2 * l)).hc = hpixels :=
    exists_eq_top (v := fun k => (r (a + 2 * k)).hc) (e := fun _ => True)
      (fun _ h => absurd trivial h) (fun k _ => congrArg Vga.hc (Vga.pixel_succ hr ha k))
      (fun k => ⟨k, le_rfl, trivial⟩)
  refine exists_eq_ofNat (v := fun k => (r (a + 2 * k)).vc)
    (e := fun k => (r (a + 2 * k)).hc = hpixels) (fun k h => ?_) (fun k h => ?_) hline
    (show t ≤ vlines.toNat from ht) k
  · rw [Vga.pixel_succ hr ha k]
    exact if_neg h
  · rw [Vga.pixel_succ hr ha k]
    exact if_pos h

/-- The frame clock rises again and again. -/
theorem Vga.exists_rises (hr : ∀ n, r (n + 1) = (r n).step false) (n : ℕ) :
    ∃ m, n ≤ m ∧ Rises (fun k => (r k).vs) m := by
  obtain ⟨a, hna, ha⟩ : ∃ a, n ≤ a ∧ (r a).clkdiv = false := by
    cases hc : (r n).clkdiv with
    | false => exact ⟨n, le_rfl, hc⟩
    | true => exact ⟨n + 1, Nat.le_succ n, by rw [hr n, Vga.step_clkdiv, hc]; rfl⟩
  obtain ⟨l, -, hl⟩ := Vga.exists_vc (t := 489) hr ha (by decide) 0
  obtain ⟨l', hll', hl'⟩ := Vga.exists_vc (t := 491) hr ha (by decide) (l + 1)
  have hlow : (r (a + 2 * (l + 1))).vs = false := by
    rw [Vga.pixel_succ hr ha l]
    simp [Vga.pixelStep, hl]
  have hhigh : (r (a + 2 * (l' + 1))).vs = true := by
    rw [Vga.pixel_succ hr ha l']
    simp [Vga.pixelStep, hl']
  obtain ⟨m, ham, -, hm⟩ :=
    Clocked.exists_rises (v := fun k => (r k).vs) (show a + 2 * (l + 1) ≤ a + 2 * (l' + 1) by omega)
      hlow hhigh
  exact ⟨m, by omega, hm⟩

/-! ## The line of the frame clock

Started in reset, the registers let the frame clock rise at the first edge,
because `vs` is low there without a sync pulse.  Every later rise ends a sync
pulse, at the first pixel of line 491. -/

theorem Vga.line_of_rises (hr : ∀ n, r (n + 1) = (r n).step false) (h0 : r 0 = Vga.init) {n : ℕ}
    (hn : 0 < n) (h : Rises (fun k => (r k).vs) n) :
    (r n).clkdiv = false ∧ (r n).hc = 0#10 ∧ (r n).vc = 491#10 := by
  have hdiv := Vga.clkdiv_of_rises hr h
  obtain ⟨m, rfl⟩ : ∃ m, n = m + 2 := by
    refine ⟨n - 2, ?_⟩
    rcases Nat.lt_or_eq_of_le (Nat.succ_le_of_lt hn) with hlt | rfl
    · omega
    · rw [hr 0, h0] at hdiv
      cases hdiv
  have hm : r (m + 2) = (r m).pixelStep :=
    Vga.add_two hr ((Vga.clkdiv_add_two hr m).symm.trans hdiv)
  obtain ⟨hlow, hhigh⟩ := h
  dsimp only at hlow hhigh
  rw [hr (m + 2), Vga.step_high hdiv] at hhigh
  simp only [Vga.pixelStep, Bool.not_eq_true', Bool.or_eq_false_iff, beq_eq_false_iff_ne] at hhigh
  rw [hm] at hlow hhigh
  simp only [Vga.pixelStep, Bool.not_eq_false', Bool.or_eq_true, beq_iff_eq] at hlow hhigh
  refine ⟨hdiv, ?_⟩
  rw [hm]
  rcases eq_or_ne (r m).hc hpixels with hline | hline
  · rw [if_pos hline] at hhigh
    have hvc : (r m).vc ≠ vlines := by
      intro he
      rw [he] at hlow
      exact absurd hlow (by decide)
    simp only [wrapNext, if_neg hvc] at hhigh
    refine ⟨if_pos hline, ?_⟩
    show (if (r m).hc = hpixels then wrapNext vlines (r m).vc else (r m).vc) = 491#10
    rw [if_pos hline, wrapNext, if_neg hvc]
    apply BitVec.eq_of_toNat_eq
    rw [toNat_add_one] at hhigh ⊢
    rw [if_neg (by omega)] at hhigh ⊢
    simp only [BitVec.toNat_ofNat]
    omega
  · rw [if_neg hline] at hhigh
    exact absurd hlow (by omega)

/-- Within a line a pixel changes `hc` only. -/
theorem Vga.line_add_two (hr : ∀ n, r (n + 1) = (r n).step false) {n : ℕ}
    (hdiv : (r n).clkdiv = false) (hc : (r n).hc ≠ hpixels) :
    (r (n + 1)).vc = (r n).vc ∧ (r (n + 2)).vc = (r n).vc ∧ (r (n + 2)).hc = (r n).hc + 1#10 := by
  rw [Vga.add_two hr hdiv, hr n, Vga.step_high hdiv]
  exact ⟨if_neg hc, if_neg hc, if_neg hc⟩

/-- `vs` does not fall and rise at two pixels in a row. -/
theorem Vga.not_rises_add_four (hr : ∀ n, r (n + 1) = (r n).step false) {n : ℕ}
    (h : Rises (fun k => (r k).vs) n) : ¬ Rises (fun k => (r k).vs) (n + 4) := by
  rintro ⟨hlow, hhigh'⟩
  have hdiv : (r n).clkdiv = false := Vga.clkdiv_of_rises hr h
  have hdiv2 : (r (n + 2)).clkdiv = false := (Vga.clkdiv_add_two hr n).trans hdiv
  have hdiv4 : (r (n + 4)).clkdiv = false := (Vga.clkdiv_add_two hr (n + 2)).trans hdiv2
  obtain ⟨-, hhigh⟩ := h
  dsimp only at hhigh hlow hhigh'
  rw [hr n, Vga.step_high hdiv] at hhigh
  rw [hr (n + 4), Vga.step_high hdiv4] at hhigh'
  rw [Vga.add_two hr hdiv2] at hlow
  simp only [Vga.pixelStep, Bool.not_eq_true', Bool.not_eq_false', Bool.or_eq_false_iff,
    Bool.or_eq_true, beq_eq_false_iff_ne, beq_iff_eq] at hhigh hlow hhigh'
  rcases eq_or_ne (r n).hc hpixels with hline | hline
  · -- a new line has begun, and the next pixel is in it
    have hhc2 : (r (n + 2)).hc ≠ hpixels := by
      rw [Vga.add_two hr hdiv]
      simp only [Vga.pixelStep, hline]
      decide
    rw [(Vga.line_add_two hr hdiv2 hhc2).2.1] at hhigh'
    omega
  · rw [(Vga.line_add_two hr hdiv hline).2.1] at hlow
    omega

/-- Rises are six clocks apart, whatever the registers start from. -/
theorem Vga.rises_apart (hr : ∀ n, r (n + 1) = (r n).step false) {m n : ℕ}
    (hm : Rises (fun k => (r k).vs) m) (hn : Rises (fun k => (r k).vs) n) (hmn : m < n) :
    m + 6 ≤ n := by
  have hdiv := Vga.clkdiv_of_rises hr hm
  have hdiv' := Vga.clkdiv_of_rises hr hn
  by_contra hlt
  obtain ⟨k, hk, hk', rfl⟩ | rfl | rfl :
      (∃ k, 0 < k ∧ k ≤ 3 ∧ n = m + k) ∨ n = m + 4 ∨ n = m + 5 := by
    rcases Nat.lt_or_ge n (m + 4) with h | h
    · exact .inl ⟨n - m, by omega, by omega, by omega⟩
    · omega
  · exact Vga.not_rises_of_rises hr hm hk hk' hn
  · exact Vga.not_rises_add_four hr hm hn
  · rw [hr (m + 4), Vga.step_clkdiv, Vga.clkdiv_add_two hr (m + 2), Vga.clkdiv_add_two hr m,
      hdiv] at hdiv'
    cases hdiv'

/-- The pixels right after a rise are not displayed. -/
theorem Vga.blank_after_rises (hr : ∀ n, r (n + 1) = (r n).step false) (h0 : r 0 = Vga.init)
    {n k : ℕ} (hn : 0 < n) (h : Rises (fun k => (r k).vs) n) (hnk : n < k) (hkn : k ≤ n + 4) :
    (r k).blank = false := by
  obtain ⟨hdiv, hhc, hvc⟩ := Vga.line_of_rises hr h0 hn h
  obtain ⟨h1, h2, hhc2⟩ := Vga.line_add_two hr hdiv (by rw [hhc]; decide)
  have hdiv2 : (r (n + 2)).clkdiv = false := (Vga.clkdiv_add_two hr n).trans hdiv
  obtain ⟨h3, h4, -⟩ := Vga.line_add_two hr hdiv2 (by rw [hhc2, hhc]; decide)
  have hvck : (r k).vc = 491#10 := by
    obtain rfl | rfl | rfl | rfl : k = n + 1 ∨ k = n + 2 ∨ k = n + 3 ∨ k = n + 4 := by omega
    · exact h1.trans hvc
    · exact h2.trans hvc
    · exact h3.trans (h2.trans hvc)
    · exact h4.trans (h2.trans hvc)
  rw [Vga.blank, hvck]
  simp

end phase

/-! ## The scan from reset

A frame is 800 × 525 pixels of two clocks each. -/

/-- The registers from `Reset` on. -/
def Vga.scan : ℕ → Vga := Clocked.run (fun _ => Vga.step false) Vga.init

theorem Vga.scan_succ (n : ℕ) : scan (n + 1) = (scan n).step false := rfl

theorem Vga.scan_pixel (k : ℕ) : scan (2 * (k + 1)) = (scan (2 * k)).pixelStep := by
  have h := pixel_succ (a := 0) scan_succ (by rfl) k
  rwa [Nat.zero_add, Nat.zero_add] at h

theorem Vga.scan_clkdiv (n : ℕ) : (scan n).clkdiv = decide (n % 2 = 1) := by
  induction n with
  | zero => rfl
  | succ n ih =>
      rw [scan_succ, step_clkdiv, ih, ← decide_not]
      exact decide_eq_decide.mpr (by omega)

/-- The pixel of the clock `2 k`. -/
theorem Vga.scan_draw (k : ℕ) :
    (scan (2 * k)).draw = ⟨BitVec.ofNat 10 (k % 800), BitVec.ofNat 10 (k / 800 % 525)⟩ := by
  induction k with
  | zero => rfl
  | succ k ih =>
      obtain ⟨hx, hy⟩ := Pixel.mk.inj ih
      have hline : BitVec.ofNat 10 (k % 800) = hpixels ↔ k % 800 = 799 := by
        rw [← BitVec.toNat_inj, BitVec.toNat_ofNat, Nat.mod_eq_of_lt (by omega)]
        rfl
      have hframe : BitVec.ofNat 10 (k / 800 % 525) = vlines ↔ k / 800 % 525 = 524 := by
        rw [← BitVec.toNat_inj, BitVec.toNat_ofNat, Nat.mod_eq_of_lt (by omega)]
        rfl
      rw [scan_pixel, draw, pixelStep, hx, hy]
      simp only [wrapNext, hline, hframe, Pixel.mk.injEq]
      constructor
      · split
        · rw [show (k + 1) % 800 = 0 by omega]
        · rw [← BitVec.ofNat_add, show (k + 1) % 800 = k % 800 + 1 by omega]
      · split
        · split
          · rw [show (k + 1) / 800 % 525 = 0 by omega]
          · rw [← BitVec.ofNat_add, show (k + 1) / 800 % 525 = k / 800 % 525 + 1 by omega]
        · rw [show (k + 1) / 800 = k / 800 by omega]

/-- After the first clock the frame clock rises once in a frame. -/
theorem Vga.rises_scan_iff {n : ℕ} (hn : 0 < n) :
    Rises (fun k => (scan k).vs) n ↔ n % 840000 = 785600 := by
  constructor
  · intro h
    obtain ⟨hdiv, hhc, hvc⟩ := line_of_rises scan_succ rfl hn h
    rw [scan_clkdiv, decide_eq_false_iff_not] at hdiv
    obtain ⟨k, rfl⟩ : ∃ k, n = 2 * k := ⟨n / 2, by omega⟩
    obtain ⟨hx, hy⟩ := Pixel.mk.inj (scan_draw k)
    have hx' := congrArg BitVec.toNat (hx.symm.trans hhc)
    have hy' := congrArg BitVec.toNat (hy.symm.trans hvc)
    simp only [BitVec.toNat_ofNat] at hx' hy'
    omega
  · intro h
    obtain ⟨k, rfl⟩ : ∃ k, n = 2 * (k + 1) := ⟨n / 2 - 1, by omega⟩
    have hlast : (scan (2 * k)).vc = 490#10 := by
      rw [(Pixel.mk.inj (scan_draw k)).2, show k / 800 % 525 = 490 by omega]
    have hfirst : (scan (2 * (k + 1))).vc = 491#10 := by
      rw [(Pixel.mk.inj (scan_draw (k + 1))).2, show (k + 1) / 800 % 525 = 491 by omega]
    have hdiv : (scan (2 * (k + 1))).clkdiv = false := by
      rw [scan_clkdiv]
      exact decide_eq_false (by omega)
    constructor
    · show (scan (2 * (k + 1))).vs = false
      rw [scan_pixel]
      simp [pixelStep, hlast]
    · show (scan (2 * (k + 1) + 1)).vs = true
      rw [scan_succ, step_high hdiv]
      simp [pixelStep, hfirst]

end Undertale
