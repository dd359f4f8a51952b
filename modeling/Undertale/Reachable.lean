import Undertale.Entry

/-!
# The battle can be reached

The results about battles would say nothing if no run had one.  With the up key
held on the second map Frisk walks straight to the monster: the first tick loads
the motion, and each tick after it takes him one row up, from row 400 to row 205
in 196 ticks.
-/

namespace Undertale

open Clocked

/-! ## The walk -/

/-- Both axes of a mover. -/
def Mover.axes (r : Mover) : Axis 10 × Axis 10 := (r.xAxis, r.yAxis)

/-- What a tick under the up key does to them below the top row. -/
def upTick (v : Axis 10 × Axis 10) : Axis 10 × Axis 10 :=
  (⟨v.1.pos + v.1.motion, 0#10⟩, ⟨v.2.pos + v.2.motion, -1#10⟩)

/-- The axes of Frisk on his way up, `d` rows from his starting point. -/
def upAxes (d : ℕ) : Axis 10 × Axis 10 := (⟨301#10, 0#10⟩, ⟨BitVec.ofNat 10 (400 - d), -1#10⟩)

theorem upAxes_row {d : ℕ} : (BitVec.ofNat 10 (400 - d)).toNat = 400 - d := by
  rw [BitVec.toNat_ofNat]
  exact Nat.mod_eq_of_lt (by omega)

theorem upTick_upAxes {d : ℕ} (hd : d < 400) : upTick (upAxes d) = upAxes (d + 1) := by
  have hrow : BitVec.ofNat 10 (400 - d) + -1#10 = BitVec.ofNat 10 (400 - (d + 1)) := by
    apply BitVec.eq_of_toNat_eq
    rw [toNat_add_neg_one, upAxes_row, upAxes_row, if_neg (by omega)]
    omega
  rw [upTick, upAxes, upAxes, hrow]
  rfl

section walk
variable {i : ℕ → MoverInputs} {r : ℕ → Mover} (hr : ∀ n, r (n + 1) = (r n).step friskMove2 (i n))
  (hs : ∀ n, (i n).status = 4#4)
include hr hs

theorem Mover.axes_idle {n : ℕ} (ht : ¬ (r n).frameClk.risingEdge = true) :
    (r (n + 1)).axes = (r n).axes := by
  rw [hr n, Mover.step_idle (hs n) (by simpa using ht)]
  rfl

theorem Mover.axes_tick {n : ℕ} (hk : (i n).keycode = 26#8)
    (ht : (r n).frameClk.risingEdge = true) (hy : ¬ (r n).axes.2.pos ≤ 0#10) :
    (r (n + 1)).axes = upTick (r n).axes := by
  have hx : (r n).xPush friskMove2 26#8 = .release := by
    rw [Mover.xPush, if_neg (by decide), if_neg (by decide), if_neg]
    rintro (⟨-, h⟩ | ⟨h, -⟩)
    · exact hy h
    · cases h
  have hmove : (r n).yAxis.tick friskMove2.yMin friskMove2.yMax .minus = (upTick (r n).axes).2 :=
    if_neg hy
  rw [hr n, Mover.step_tick (hs n) ht, hk]
  refine Prod.ext ?_ ?_
  · exact (Mover.tick_xAxis friskMove2_unitStep 26#8 (r n)).trans (by rw [hx]; rfl)
  · exact (Mover.tick_yAxis friskMove2_unitStep 26#8 (r n)).trans hmove

/-- As long as the key is held and ticks keep coming, Frisk gets to every row on
the way. -/
theorem Mover.exists_upAxes (hk : ∀ n, (i n).keycode = 26#8)
    (hticks : ∀ n, ∃ m, n ≤ m ∧ (r m).frameClk.risingEdge = true) {e : EdgeDetector}
    (h0 : r 0 = Mover.init friskMove2 e) {d : ℕ} (hd : d < 400) : ∃ n, (r n).axes = upAxes d := by
  have hnext : ∀ n, ¬ (r n).axes.2.pos ≤ 0#10 → ∃ m, (r (m + 1)).axes = upTick (r n).axes := by
    intro n hy
    obtain ⟨b, hnb, hb⟩ := hticks n
    obtain ⟨m, -, hm, hv⟩ := exists_enabled (v := fun n => (r n).axes)
      (e := fun n => (r n).frameClk.risingEdge = true) (fun n => Mover.axes_idle hr hs) hnb hb
    rw [← hv] at hy ⊢
    exact ⟨m, Mover.axes_tick hr hs (hk m) hm hy⟩
  induction d with
  | zero =>
      have hinit : (r 0).axes = (⟨301#10, 0#10⟩, ⟨400#10, 0#10⟩) := by rw [h0]; rfl
      obtain ⟨m, hm⟩ := hnext 0 (by rw [hinit]; decide)
      exact ⟨m + 1, by rw [hm, hinit]; rfl⟩
  | succ d ih =>
      obtain ⟨n, hn⟩ := ih (Nat.lt_of_succ_lt hd)
      have hy : ¬ (r n).axes.2.pos ≤ 0#10 := by
        rw [hn, BitVec.not_le, BitVec.lt_def]
        show 0 < (BitVec.ofNat 10 (400 - d)).toNat
        rw [upAxes_row]
        omega
      obtain ⟨m, hm⟩ := hnext n hy
      exact ⟨m + 1, by rw [hm, hn, upTick_upAxes (Nat.lt_of_succ_lt hd)]⟩

end walk

/-! ## The way into the battle -/

/-- Enter, Z, Enter, and then up. -/
def battleKeys : ℕ → BitVec 8
  | 0 => 0x28#8
  | 1 => 0x1d#8
  | 2 => 0x28#8
  | _ => 26#8

section run
variable {i : ℕ → CoreInputs} {c : ℕ → Core} (hc : ∀ n, c (n + 1) = (c n).step (i n))
include hc

/-- With the door open, these keys lead from the title to the second map. -/
theorem Core.map2_of_battleKeys (h0 : (c 0).scene = .title) (hreset : ∀ n, (i n).reset = false)
    (hdoor : (i 2).arrivedDoor = true) (hkeys : ∀ n, (i n).keycode = battleKeys n) :
    (c 2).scene = .map1 ∧ (c 3).scene = .map2 := by
  have h1 : (c 1).scene = .intro := by
    rw [Core.scene_succ hc 0, h0]
    simp [Scene.step, Scene.nextState, Core.stateInputs, hreset, hkeys, battleKeys]
  have h2 : (c 2).scene = .map1 := by
    rw [Core.scene_succ hc 1, h1]
    simp [Scene.step, Scene.nextState, Core.stateInputs, hreset, hkeys, battleKeys]
  refine ⟨h2, ?_⟩
  rw [Core.scene_succ hc 2, h2]
  simp [Scene.step, Scene.nextState, Core.stateInputs, hreset, hkeys, battleKeys, hdoor]

/-- With the door open, these keys lead from the title into the battle. -/
theorem Core.exists_enters (h0 : (c 0).scene = .title) (hreset : ∀ n, (i n).reset = false)
    (hdoor : (i 2).arrivedDoor = true) (hkeys : ∀ n, (i n).keycode = battleKeys n) :
    ∃ e, Core.Enters c e := by
  obtain ⟨h2, h3⟩ := Core.map2_of_battleKeys hc h0 hreset hdoor hkeys
  by_contra hno
  -- otherwise Frisk walks up the second map for ever
  have hmap2 : ∀ n, (c (3 + n)).scene = .map2 := by
    intro n
    induction n with
    | zero => exact h3
    | succ n ih =>
        have hstep := Core.scene_succ hc (3 + n)
        have hne : (c (3 + n + 1)).scene ≠ .battle := fun hb =>
          hno ⟨3 + n, by rw [ih]; exact Scene.noConfusion, hb⟩
        rw [ih, Scene.step_map2 (hreset (3 + n))] at hstep
        split at hstep
        · exact absurd hstep hne
        · exact hstep
  have hticks : ∀ n, ∃ m, n ≤ m ∧ (c (3 + m)).frisk2.frameClk.risingEdge = true := by
    intro n
    obtain ⟨m, hnm, hm⟩ := Vga.exists_rises (r := fun k => (c k).vga) (Core.vga_succ hc) (3 + n)
    refine ⟨m - 1, by omega, ?_⟩
    have hm2 : 3 + (m - 1) = m + 2 := by omega
    rw [hm2]
    exact (risingEdge_iff (v := Core.vs c) (e := fun k => (c k).frisk2.frameClk)
      (fun n => by rw [Core.frisk2_succ hc n, Mover.step_frameClk]; rfl) m).mpr hm
  have hinit : (c 3).frisk2 =
      Mover.init friskMove2 ((c 2).frisk2.frameClk.step ((c 2).moverInputs (i 2)).frameClk) := by
    rw [Core.frisk2_succ hc 2, Mover.step_outside]
    rw [Core.moverInputs, h2]
    show Scene.map1.status ≠ 4#4
    decide
  obtain ⟨n, hn⟩ := Mover.exists_upAxes (r := fun n => (c (3 + n)).frisk2)
    (i := fun n => (c (3 + n)).moverInputs (i (3 + n))) (fun n => Core.frisk2_succ hc (3 + n))
    (fun n => by rw [Core.moverInputs, hmap2 n]; rfl)
    (fun n => by rw [Core.moverInputs, hkeys, Nat.add_comm]; rfl) hticks hinit
    (show 195 < 400 by decide)
  have hx : (c (3 + n)).frisk2.xPos = 301#10 := congrArg (fun v => v.1.pos) hn
  have hy : (c (3 + n)).frisk2.yPos = 205#10 := congrArg (fun v => v.2.pos) hn
  have harr : ((c (3 + n)).stateInputs (i (3 + n))).arrivedMonster = true := by
    rw [Core.stateInputs, hmap2 n]
    show arrivedMonster 4#4 _ = true
    rw [arrivedMonster, hx, hy]
    decide
  have hstep := Core.scene_succ hc (3 + n)
  rw [hmap2 n, Scene.step_map2 (hreset (3 + n)), if_pos harr] at hstep
  exact hno ⟨3 + n, by rw [hmap2 n]; exact Scene.noConfusion, hstep⟩

end run

/-- The keys into the battle, and a battle without a hit. -/
def battleInputs (n : ℕ) : CoreInputs where
  reset := false
  keycode := battleKeys n
  arrivedDoor := true
  near := fun _ => false

theorem Core.battleInputs_enters : ∃ e, Core.Enters (Core.run battleInputs Core.zero) e :=
  Core.exists_enters (fun _ => rfl) rfl (fun _ => rfl) rfl (fun _ => rfl)

end Undertale
