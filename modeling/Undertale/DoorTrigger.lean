import Undertale.FriskSteps

/-!
# The door and its trigger

`arrived_door` tests Frisk against a box fixed on the screen, columns 520 to 579
and rows 130 to 139, while the door he is meant to stand at is drawn at its own
scroll position.  The test does not read that position, so it is right only as
far as the two registers happen to agree.

In the box the right end of the door is never the problem: the door scrolls no
further left than column 457 and is 182 columns wide.  The left end is.  The door
stops scrolling at column 458 while Frisk walks on to column 602, and when he
turns back it scrolls right at once.  And Frisk can slide along the top edge on
an inherited motion with the door standing still.  `TriggersLeftOfDoor` is the
tick that brings him into the box, or leaves him in it, left of the door, read
off the registers before the tick.
-/

namespace Undertale

open Clocked

/-! ## Drawn extents -/

/-- `DistX >= 0 && DistX < 38` of `frisk_move`, at column `x`. -/
def friskColumn (f : Mover) (x : ℤ) : Prop := 0 ≤ x - f.xPos.toNat ∧ x - f.xPos.toNat < 38

/-- `DistX >= 0 && DistX < 182` of `door`, at column `x`. -/
def doorColumn (d : Scroll) (x : ℤ) : Prop := 0 ≤ x - d.xPos.toNat ∧ x - d.xPos.toNat < 182

/-- Every column Frisk is drawn in is one the door is drawn in. -/
def AtDoor (f : Mover) (d : Scroll) : Prop := ∀ x, friskColumn f x → doorColumn d x

theorem atDoor_iff {f : Mover} {d : Scroll} :
    AtDoor f d ↔ d.xPos.toNat ≤ f.xPos.toNat ∧ f.xPos.toNat + 38 ≤ d.xPos.toNat + 182 := by
  unfold AtDoor friskColumn doorColumn
  constructor
  · intro h
    have hleft := h f.xPos.toNat (by omega)
    have hright := h (f.xPos.toNat + 37) (by omega)
    omega
  · intro h x hx
    omega

/-- In the trigger box the extents agree when the door is not right of Frisk. -/
theorem atDoor_iff_left {status : BitVec 4} {f : Mover} {d : Scroll}
    (hf : arrivedDoor status f = true) (hd : d.Tame door) :
    AtDoor f d ↔ d.xPos.toNat ≤ f.xPos.toNat := by
  have hx := (arrivedDoor_iff.mp hf).1
  have hpos : 458 ≤ d.xPos.toNat + 1 := hd.2.1.1
  rw [atDoor_iff]
  omega

/-! ## The tick that goes wrong -/

/-- A tick is due.  It moves Frisk into the columns of the trigger box, clamps
him on or moves him into its rows, and moves the door right of him. -/
def TriggersLeftOfDoor (keycode : BitVec 8) (f : Mover) (d : Scroll) : Prop :=
  f.frameClk.risingEdge = true ∧
    (520 ≤ (f.xPos + f.xMotion).toNat ∧ (f.xPos + f.xMotion).toNat < 580) ∧
    ((keycode = 26#8 ∧ f.yPos ≤ 130#10) ∨
      (130 ≤ (f.yPos + f.yMotion).toNat ∧ (f.yPos + f.yMotion).toNat < 140)) ∧
    (f.xPos + f.xMotion).toNat < (d.xPos + d.xMotion).toNat

section tick
variable {keycode : BitVec 8} {f : Mover} {d : Scroll}

theorem Mover.tick_column_iff (keycode : BitVec 8) (hu : f.Unit) :
    (520 ≤ (f.tick friskMove keycode).xPos.toNat ∧ (f.tick friskMove keycode).xPos.toNat < 580) ↔
      (520 ≤ (f.xPos + f.xMotion).toNat ∧ (f.xPos + f.xMotion).toNat < 580) := by
  have h := Axis.tick_between_iff friskMove.xMin friskMove.xMax (f.xPush friskMove keycode) 520 580
    (.inr (by decide)) (by decide) (by decide) hu.1
  rw [← Mover.tick_xAxis friskMove_unitStep] at h
  exact h

/-- The top limit of Frisk's walk is the first row of the trigger box, so a clamp
there counts as well. -/
theorem Mover.tick_row_iff (keycode : BitVec 8) (hu : f.Unit) :
    (130 ≤ (f.tick friskMove keycode).yPos.toNat ∧ (f.tick friskMove keycode).yPos.toNat < 140) ↔
      ((keycode = 26#8 ∧ f.yPos ≤ 130#10) ∨
        (130 ≤ (f.yPos + f.yMotion).toNat ∧ (f.yPos + f.yMotion).toNat < 140)) := by
  by_cases hc : keycode = 26#8 ∧ f.yPos ≤ 130#10
  · have hpos : (f.tick friskMove keycode).yAxis.pos = friskMove.yMin := by
      rw [Mover.tick_yAxis friskMove_unitStep, Mover.yPush, if_pos hc.1]
      exact Axis.tick_minus_pos hc.2
    have hrow : (f.tick friskMove keycode).yPos = 130#10 := hpos
    rw [hrow]
    exact iff_of_true (by decide) (.inl hc)
  · have hno : ¬ (f.yPush friskMove keycode = .minus ∧ f.yAxis.pos ≤ friskMove.yMin) := by
      rintro ⟨hpush, hle⟩
      refine hc ⟨?_, hle⟩
      by_contra hk
      rw [Mover.yPush, if_neg hk] at hpush
      split at hpush
      · cases hpush
      · split at hpush <;> cases hpush
    have h := Axis.tick_between_iff friskMove.yMin friskMove.yMax (f.yPush friskMove keycode)
      130 140 (.inl hno) (by decide) (by decide) hu.2
    rw [← Mover.tick_yAxis friskMove_unitStep] at h
    rw [or_iff_right hc]
    exact h

/-- A door that clamps is far from the columns of the trigger box. -/
theorem Scroll.lt_tick_iff {x : ℕ} (hx : 520 ≤ x) (hx' : x < 580) (hd : d.Tame door) :
    x < (d.tick door keycode).xPos.toNat ↔ x < (d.xPos + d.xMotion).toNat := by
  have hlo : door.xMin.toNat = 458 := rfl
  have hhi : door.xMax.toNat = 698 := rfl
  have h := Axis.lt_tick_iff (scrollPush keycode) (x := x)
    (by decide) (by decide) (by omega) (by omega) hd.1 hd.2
  rw [← Scroll.tick_xAxis door_roomy.unitStep] at h
  exact h

/-- Read off the registers before it, what a tick of both modules does. -/
theorem triggersLeftOfDoor_iff (ht : f.frameClk.risingEdge = true) (hu : f.Unit)
    (hd : d.Tame door) :
    TriggersLeftOfDoor keycode f d ↔
      arrivedDoor 3#4 (f.tick friskMove keycode) = true ∧
        (f.tick friskMove keycode).xPos.toNat < (d.tick door keycode).xPos.toNat := by
  have hcol := Mover.tick_column_iff keycode hu
  have hrow := Mover.tick_row_iff keycode hu
  -- in the columns of the box Frisk is not clamped, so he moves by his motion register
  have hx : 520 ≤ (f.tick friskMove keycode).xPos.toNat →
      (f.tick friskMove keycode).xPos.toNat < 580 →
        (f.tick friskMove keycode).xPos = f.xPos + f.xMotion := by
    intro h1 h2
    have hc : ¬ f.xAxis.Clamps friskMove.xMin friskMove.xMax (f.xPush friskMove keycode) := by
      intro hc
      have hpos := congrArg Axis.pos (Mover.tick_xAxis friskMove_unitStep keycode f)
      rcases hc with ⟨hk, h⟩ | ⟨hk, h⟩
      · rw [hk, Axis.tick_minus_pos h] at hpos
        have : (f.tick friskMove keycode).xPos = 130#10 := hpos
        rw [this] at h1
        exact absurd h1 (by decide)
      · rw [hk, Axis.tick_plus_pos h] at hpos
        have : (f.tick friskMove keycode).xPos = 602#10 := hpos
        rw [this] at h2
        exact absurd h2 (by decide)
    have hpos := congrArg Axis.pos (Mover.tick_xAxis friskMove_unitStep keycode f)
    rw [Axis.tick_pos hc] at hpos
    exact hpos
  rw [arrivedDoor_iff, TriggersLeftOfDoor]
  constructor
  · rintro ⟨-, hc, hr, hlt⟩
    have hc' := hcol.mpr hc
    have he := hx hc'.1 hc'.2
    refine ⟨⟨hc', hrow.mpr hr, rfl⟩, ?_⟩
    rw [Scroll.lt_tick_iff hc'.1 hc'.2 hd, he]
    exact hlt
  · rintro ⟨⟨hc, hr, -⟩, hlt⟩
    have he := hx hc.1 hc.2
    rw [Scroll.lt_tick_iff hc.1 hc.2 hd, he] at hlt
    exact ⟨ht, hcol.mp hc, hrow.mp hr, hlt⟩

end tick

/-! ## Runs of both modules -/

section run
variable {i : ℕ → MoverInputs} {f₀ : Mover} {d₀ : Scroll}

/-- From the second cycle on both modules tick together. -/
theorem friskDoor_tick_agree (i : ℕ → MoverInputs) (f₀ : Mover) (d₀ : Scroll) (n : ℕ) :
    (Scroll.run door i d₀ (n + 2)).frameClk = (Mover.run friskMove i f₀ (n + 2)).frameClk :=
  detectors_agree (v := fun n => (i n).frameClk)
    (e := fun n => (Scroll.run door i d₀ n).frameClk)
    (d := fun n => (Mover.run friskMove i f₀ n).frameClk)
    (fun n => by rw [Scroll.run_succ, Scroll.step_frameClk])
    (fun n => by rw [Mover.run_succ, Mover.step_frameClk]) n

/-- Frisk at his starting point is far from the trigger box. -/
theorem not_arrivedDoor_init (status : BitVec 4) (e : EdgeDetector) :
    arrivedDoor status (Mover.init friskMove e) ≠ true := by
  rw [Ne, arrivedDoor_iff]
  rintro ⟨⟨h, -⟩, -⟩
  exact absurd (show 520 ≤ 301 from h) (by decide)

/-- From his starting point one clock edge does not take Frisk to the box. -/
theorem not_arrivedDoor_step_init (status : BitVec 4) (e : EdgeDetector) (m : MoverInputs) :
    arrivedDoor status ((Mover.init friskMove e).step friskMove m) ≠ true := by
  rcases eq_or_ne m.status friskMove.status with hm | hm
  · cases ht : e.risingEdge with
    | false => rw [Mover.step_idle hm ht]; exact not_arrivedDoor_init status _
    | true =>
        rw [Mover.step_tick hm ht, Ne, arrivedDoor_iff]
        rintro ⟨h, -⟩
        have hcol := (Mover.tick_column_iff m.keycode (Mover.unit_init friskMove e)).mp h
        exact absurd (show 520 ≤ 301 from hcol.1) (by decide)
  · rw [Mover.step_outside hm]; exact not_arrivedDoor_init status _

/-- What a clock edge inside the scene does to the agreement, when it held. -/
theorem atDoor_step_iff {keycode : BitVec 8} {f : Mover} {d : Scroll} {m : MoverInputs}
    (hm : m.status = 3#4) (hk : m.keycode = keycode)
    (hagree : d.frameClk.risingEdge = f.frameClk.risingEdge) (hu : f.Unit) (hd : d.Tame door)
    (hin : arrivedDoor 3#4 f = true → AtDoor f d) :
    (arrivedDoor 3#4 (f.step friskMove m) = true →
        AtDoor (f.step friskMove m) (d.step door m)) ↔ ¬ TriggersLeftOfDoor keycode f d := by
  subst hk
  have hd' : (d.step door m).Tame door := hd.step door_roomy
  cases ht : f.frameClk.risingEdge with
  | false =>
      rw [Mover.step_idle hm ht, Scroll.step_idle hm (hagree.trans ht)]
      have hno : ¬ TriggersLeftOfDoor m.keycode f d := fun h => by
        have := h.1
        rw [ht] at this
        cases this
      exact iff_of_true hin hno
  | true =>
      rw [triggersLeftOfDoor_iff ht hu hd, not_and, not_lt]
      rw [Scroll.step_tick hm (hagree.trans ht)] at hd' ⊢
      rw [Mover.step_tick hm ht]
      exact forall_congr' fun ha => atDoor_iff_left ha hd'

/-- Over a whole run of `frisk_move` and `door` that starts outside the first
map, the trigger is up only while Frisk is drawn within the door exactly when no
tick brings or leaves him in the trigger box left of the door. -/
theorem arrivedDoor_atDoor_iff (h0 : (i 0).status ≠ 3#4) :
    (∀ n, arrivedDoor (i n).status (Mover.run friskMove i f₀ n) = true →
        AtDoor (Mover.run friskMove i f₀ n) (Scroll.run door i d₀ n)) ↔
      ∀ n, (i n).status = 3#4 → (i (n + 1)).status = 3#4 →
        ¬ TriggersLeftOfDoor (i n).keycode (Mover.run friskMove i f₀ n)
          (Scroll.run door i d₀ n) := by
  have hunit := Mover.unit_of_run friskMove_unitStep (Mover.run_succ friskMove i f₀) h0
  have htame := Scroll.tame_of_run door_roomy (Scroll.run_succ door i d₀) h0
  -- one edge inside the scene, in either direction; at the first one Frisk has not moved yet
  have hstep : ∀ n, (i n).status = 3#4 →
      (arrivedDoor 3#4 (Mover.run friskMove i f₀ n) = true →
        AtDoor (Mover.run friskMove i f₀ n) (Scroll.run door i d₀ n)) →
      ((arrivedDoor 3#4 (Mover.run friskMove i f₀ (n + 1)) = true →
          AtDoor (Mover.run friskMove i f₀ (n + 1)) (Scroll.run door i d₀ (n + 1))) ↔
        ¬ TriggersLeftOfDoor (i n).keycode (Mover.run friskMove i f₀ n)
          (Scroll.run door i d₀ n)) := by
    intro n hn hin
    match n with
    | 0 => exact absurd hn h0
    | 1 =>
        have h1 : Mover.run friskMove i f₀ 1 =
            Mover.init friskMove (f₀.frameClk.step (i 0).frameClk) := Mover.step_outside h0
        refine iff_of_true (fun ha => absurd ha ?_) (fun ht => ?_)
        · rw [Mover.run_succ, h1]; exact not_arrivedDoor_step_init _ _ _
        · rw [h1] at ht; exact absurd (show 520 ≤ 301 from ht.2.1.1) (by decide)
    | n + 2 =>
        rw [Mover.run_succ, Scroll.run_succ]
        exact atDoor_step_iff hn rfl (by rw [friskDoor_tick_agree i f₀ d₀ n]) (hunit _ hn)
          (htame _) hin
  have hstatus : ∀ n, arrivedDoor (i n).status (Mover.run friskMove i f₀ n) = true →
      (i n).status = 3#4 := fun n h => (arrivedDoor_iff.mp h).2.2
  constructor
  · intro h n hn hn'
    refine (hstep n hn fun ha => h n (by rw [hn]; exact ha)).mp fun ha => h (n + 1) ?_
    rw [hn']
    exact ha
  · intro h
    have hinside : ∀ n, (i n).status = 3#4 →
        arrivedDoor 3#4 (Mover.run friskMove i f₀ n) = true →
          AtDoor (Mover.run friskMove i f₀ n) (Scroll.run door i d₀ n) := by
      refine holds_inside h0 (fun n hn _ ha => ?_) fun n hn hn' hdoor =>
        (hstep n hn hdoor).mpr (h n hn hn')
      rw [Mover.run_succ, Mover.step_outside hn] at ha
      exact absurd ha (not_arrivedDoor_init _ _)
    intro n ha
    have hn := hstatus n ha
    rw [hn] at ha
    exact hinside n hn ha

end run

/-- Up to the wall, one step right, and then up again: Frisk slides along the top
edge to the columns of the box while the door has moved by one pixel. -/
def slideInputs (n : ℕ) : MoverInputs where
  frameClk := n % 2 == 1
  status := if n = 0 then 2#4 else 3#4
  keycode := if n = 126 then 7#8 else 26#8

theorem slideInputs_triggers :
    ¬ ∀ n, (slideInputs n).status = 3#4 → (slideInputs (n + 1)).status = 3#4 →
        ¬ TriggersLeftOfDoor (slideInputs n).keycode (Mover.run friskMove slideInputs Mover.zero n)
          (Scroll.run door slideInputs Scroll.zero n) := by
  intro h
  have hat := (arrivedDoor_atDoor_iff (by decide)).mpr h 565 (by decide +kernel)
  rw [atDoor_iff] at hat
  revert hat
  decide +kernel

/-- Frisk triggers the door at column 520 while it is drawn from column 697 on. -/
theorem arrivedDoor_not_atDoor :
    ¬ ∀ (i : ℕ → MoverInputs) (f : Mover) (d : Scroll), (i 0).status ≠ 3#4 →
      ∀ n, arrivedDoor (i n).status (Mover.run friskMove i f n) = true →
        AtDoor (Mover.run friskMove i f n) (Scroll.run door i d n) := by
  intro h
  have hat := h slideInputs Mover.zero Scroll.zero (by decide) 565 (by decide +kernel)
  rw [atDoor_iff] at hat
  revert hat
  decide +kernel

end Undertale
