import Mathlib.Data.Nat.Count

/-!
# Runs of clocked designs

A clocked design takes one step at every clock edge.  The step may depend on
the edge, because it reads the inputs of that cycle, so a design is a family of
steps indexed by the edge.  `run` is the state after a number of edges.  A
component of a larger design is met as a sequence of states `r` with
`r (n + 1) = step n (r n)`, which is the form the lemmas about components take.

Three rules carry the arguments about runs: a projection that commutes with each
edge (`run_map`), what each edge of an interval preserves (`preserved`), and what
holds whenever a design is in a mode, because entering the mode establishes it and
staying in it preserves it (`holds_inside`).

`Rises` is a rising edge of a signal between two cycles, and `countIn` numbers
the events of a run.
-/

namespace Clocked

variable {σ τ : Type*}

/-! ## Runs -/

/-- The state after `n` edges, where edge `k` takes step `k`. -/
def run (step : ℕ → σ → σ) (s : σ) : ℕ → σ
  | 0 => s
  | n + 1 => step n (run step s n)

@[simp] theorem run_zero (step : ℕ → σ → σ) (s : σ) : run step s 0 = s := rfl

theorem run_succ (step : ℕ → σ → σ) (s : σ) (n : ℕ) :
    run step s (n + 1) = step n (run step s n) := rfl

/-- A projection that commutes with every edge commutes with the run. -/
theorem run_map {step : ℕ → σ → σ} {step' : ℕ → τ → τ} {s : σ} (f : σ → τ)
    (h : ∀ n, f (run step s (n + 1)) = step' n (f (run step s n))) (n : ℕ) :
    f (run step s n) = run step' (f s) n := by
  induction n with
  | zero => rfl
  | succ n ih => rw [h n, ih, run_succ]

/-- A property that a run gains holds from some last edge on. -/
theorem exists_last_entry {P : ℕ → Prop} {n : ℕ} (h0 : ¬ P 0) (hn : P n) :
    ∃ a, a < n ∧ ¬ P a ∧ ∀ k, a < k → k ≤ n → P k := by
  induction n with
  | zero => exact absurd hn h0
  | succ n ih =>
      rcases Classical.em (P n) with h | h
      · obtain ⟨a, han, ha, hafter⟩ := ih h
        refine ⟨a, Nat.lt_succ_of_lt han, ha, fun k hak hk => ?_⟩
        rcases Nat.lt_or_eq_of_le hk with hlt | rfl
        · exact hafter k hak (Nat.le_of_lt_succ hlt)
        · exact hn
      · refine ⟨n, Nat.lt_succ_self n, h, fun k hnk hk => ?_⟩
        obtain rfl : k = n + 1 := le_antisymm hk hnk
        exact hn

/-- What every edge of an interval preserves holds at its end if it holds at its
start. -/
theorem preserved {P : ℕ → Prop} {m n : ℕ} (hmn : m ≤ n) (hm : P m)
    (hs : ∀ k, m ≤ k → k < n → P k → P (k + 1)) : P n := by
  induction n, hmn using Nat.le_induction with
  | base => exact hm
  | succ n hmn ih =>
      exact hs n hmn (Nat.lt_succ_self n) (ih fun k hk hkn => hs k hk (Nat.lt_succ_of_lt hkn))

/-- What entering a mode establishes and staying in it preserves holds whenever the
run is in it. -/
theorem holds_inside {inside P : ℕ → Prop} (h0 : ¬ inside 0)
    (henter : ∀ n, ¬ inside n → inside (n + 1) → P (n + 1))
    (hstay : ∀ n, inside n → inside (n + 1) → P n → P (n + 1)) (n : ℕ) (hn : inside n) : P n := by
  induction n with
  | zero => exact absurd hn h0
  | succ n ih =>
      rcases Classical.em (inside n) with h | h
      · exact hstay n h hn (ih h)
      · exact henter n h hn

/-! ## Rising edges -/

/-- The signal `v` rises at edge `n`: it is low before the edge and high after. -/
def Rises (v : ℕ → Bool) (n : ℕ) : Prop := v n = false ∧ v (n + 1) = true

instance (v : ℕ → Bool) : DecidablePred (Rises v) :=
  fun n => inferInstanceAs (Decidable (v n = false ∧ v (n + 1) = true))

/-- A signal that is low and later high rises in between. -/
theorem exists_rises {v : ℕ → Bool} {a b : ℕ} (hab : a ≤ b) (ha : v a = false) (hb : v b = true) :
    ∃ n, a ≤ n ∧ n < b ∧ Rises v n := by
  induction b, hab using Nat.le_induction with
  | base => rw [ha] at hb; cases hb
  | succ b hab ih =>
      cases hv : v b with
      | false => exact ⟨b, hab, Nat.lt_succ_self b, hv, hb⟩
      | true =>
          obtain ⟨n, han, hnb, hn⟩ := ih hv
          exact ⟨n, han, Nat.lt_succ_of_lt hnb, hn⟩

/-- After a time from which a signal rises again there is a first rise. -/
theorem exists_next_rises {v : ℕ → Bool} {a : ℕ} (h : ∃ n, a < n ∧ Rises v n) :
    ∃ b, a < b ∧ Rises v b ∧ ∀ n, a < n → n < b → ¬ Rises v n := by
  obtain ⟨hab, hb⟩ := Nat.find_spec h
  exact ⟨Nat.find h, hab, hb, fun n han hnb hn => Nat.find_min h hnb ⟨han, hn⟩⟩

/-- A register that moves at rising edges only, and that the rising edges of an
interval load with `x`, holds `x` at its end if there is one. -/
theorem eq_of_rises {v : ℕ → Bool} {r : ℕ → σ} {x : σ} {m n : ℕ} (hm : Rises v m) (hmn : m < n)
    (hload : ∀ k, m ≤ k → k < n → Rises v k → r (k + 1) = x)
    (hhold : ∀ k, m ≤ k → k < n → ¬ Rises v k → r (k + 1) = r k) : r n = x := by
  refine preserved (P := fun k => r k = x) (Nat.succ_le_of_lt hmn) (hload m le_rfl hmn hm)
    fun k hk hkn ih => ?_
  have hmk : m ≤ k := Nat.le_of_succ_le hk
  rcases Classical.em (Rises v k) with hr | hr
  · exact hload k hmk hkn hr
  · exact (hhold k hmk hkn hr).trans ih

/-- The registered edge detector: a delayed copy of a signal, and a flag that
is set in the cycle after the copy has missed a rising edge. -/
structure EdgeDetector where
  delayed : Bool
  risingEdge : Bool
deriving DecidableEq, Repr

/-- One clock edge of the detector on the signal value `v`. -/
def EdgeDetector.step (v : Bool) (e : EdgeDetector) : EdgeDetector :=
  ⟨v, v && !e.delayed⟩

section EdgeDetector
variable {v : ℕ → Bool} {e : ℕ → EdgeDetector}

/-- The flag is up exactly two cycles after the signal rises. -/
theorem risingEdge_iff (he : ∀ n, e (n + 1) = (e n).step (v n)) (n : ℕ) :
    (e (n + 2)).risingEdge = true ↔ Rises v n := by
  rw [he (n + 1), he n]
  simp [EdgeDetector.step, Rises, and_comm]

theorem risingEdge_eq_false (he : ∀ n, e (n + 1) = (e n).step (v n)) {n : ℕ} (h : ¬ Rises v n) :
    (e (n + 2)).risingEdge = false := by
  rw [← Bool.not_eq_true, risingEdge_iff he]
  exact h

/-- After two cycles a detector depends on its signal only. -/
theorem detector_eq (he : ∀ n, e (n + 1) = (e n).step (v n)) (n : ℕ) :
    e (n + 2) = ⟨v (n + 1), v (n + 1) && !v n⟩ := by
  rw [he (n + 1), he n]
  rfl

/-- Two detectors on one signal agree after two cycles. -/
theorem detectors_agree {d : ℕ → EdgeDetector} (he : ∀ n, e (n + 1) = (e n).step (v n))
    (hd : ∀ n, d (n + 1) = (d n).step (v n)) (n : ℕ) : e (n + 2) = d (n + 2) := by
  rw [detector_eq he, detector_eq hd]

/-- Between two consecutive rises the flag is up in one cycle only. -/
theorem risingEdge_iff_between (he : ∀ n, e (n + 1) = (e n).step (v n)) {a b : ℕ}
    (ha : Rises v a) (hno : ∀ n, a < n → n < b → ¬ Rises v n) {n : ℕ} (han : a < n)
    (hnb : n ≤ b + 1) : (e n).risingEdge = true ↔ n = a + 2 := by
  obtain ⟨m, rfl⟩ : ∃ m, n = m + 1 := ⟨n - 1, by omega⟩
  rcases Nat.eq_or_lt_of_le (Nat.lt_succ_iff.mp han) with rfl | hlt
  · rw [he a]
    simp [EdgeDetector.step, ha.1]
  · obtain ⟨k, rfl⟩ : ∃ k, m = k + 1 := ⟨m - 1, by omega⟩
    rw [risingEdge_iff he k]
    constructor
    · intro hk
      rcases Nat.eq_or_lt_of_le (Nat.lt_succ_iff.mp hlt) with rfl | hak
      · rfl
      · exact absurd hk (hno k hak (by omega))
    · intro hk
      obtain rfl : k = a := by omega
      exact ha

end EdgeDetector

/-! ## Counting events -/

/-- The number of events of `p` at the edges `a, …, b - 1`. -/
def countIn (p : ℕ → Prop) [DecidablePred p] (a b : ℕ) : ℕ :=
  Nat.count (fun k => p (a + k)) (b - a)

section countIn
variable {p : ℕ → Prop} [DecidablePred p]

@[simp] theorem countIn_self (a : ℕ) : countIn p a a = 0 := by simp [countIn]

theorem countIn_succ {a b : ℕ} (h : a ≤ b) :
    countIn p a (b + 1) = countIn p a b + if p b then 1 else 0 := by
  have hb : b + 1 - a = (b - a) + 1 := by omega
  have hab : a + (b - a) = b := by omega
  rw [countIn, hb, Nat.count_succ, hab, countIn]

theorem countIn_eq_zero (h : ∀ n, ¬ p n) (a b : ℕ) : countIn p a b = 0 := by
  simp [countIn, h]

theorem countIn_mono {a b c : ℕ} (hab : a ≤ b) (hbc : b ≤ c) : countIn p a b ≤ countIn p a c := by
  induction c, hbc using Nat.le_induction with
  | base => exact le_rfl
  | succ c hbc ih => rw [countIn_succ (hab.trans hbc)]; exact Nat.le_add_right_of_le ih

/-- No event is counted at edges without one. -/
theorem countIn_eq_of_quiet {a b c : ℕ} (hab : a ≤ b) (hbc : b ≤ c)
    (h : ∀ n, b ≤ n → n < c → ¬ p n) : countIn p a c = countIn p a b := by
  refine preserved (P := fun n => countIn p a n = countIn p a b) hbc rfl fun n hbn hnc ih => ?_
  rw [countIn_succ (hab.trans hbn), if_neg (h n hbn hnc), ih, Nat.add_zero]

/-- A register that moves at the events of an interval only, and there by `f`, has
moved as often as there were events. -/
theorem eq_iterate {r : ℕ → σ} {f : σ → σ} {a b : ℕ} (hab : a ≤ b)
    (hmove : ∀ n, a ≤ n → n < b → p n → r (n + 1) = f (r n))
    (hhold : ∀ n, a ≤ n → n < b → ¬ p n → r (n + 1) = r n) :
    r b = f^[countIn p a b] (r a) := by
  refine preserved (P := fun n => r n = f^[countIn p a n] (r a)) hab (by simp)
    fun n han hnb ih => ?_
  rw [countIn_succ han]
  rcases Classical.em (p n) with hp | hp
  · rw [if_pos hp, Function.iterate_succ_apply', hmove n han hnb hp, ih]
  · rw [if_neg hp, hhold n han hnb hp, ih, Nat.add_zero]

/-- `k` is the edge of the `n`-th event of `p` from edge `a` on. -/
def IsNth (p : ℕ → Prop) [DecidablePred p] (a n k : ℕ) : Prop :=
  a ≤ k ∧ p k ∧ countIn p a (k + 1) = n

/-- Before the edge of its `n`-th event a run has seen `n - 1` of them. -/
theorem IsNth.countIn_eq {a n k : ℕ} (h : IsNth p a n k) : countIn p a k + 1 = n := by
  obtain ⟨hak, hp, hn⟩ := h
  rw [countIn_succ hak, if_pos hp] at hn
  exact hn

/-- A count that has reached `n` has an `n`-th event. -/
theorem exists_isNth {a b n : ℕ} (hab : a ≤ b) (hn : 0 < n) (h : n ≤ countIn p a b) :
    ∃ k, k < b ∧ IsNth p a n k := by
  induction b, hab using Nat.le_induction with
  | base => rw [countIn_self] at h; omega
  | succ b hab ih =>
      rcases Nat.lt_or_ge (countIn p a b) n with hlt | hge
      · have hp : p b := by
          by_contra hp
          rw [countIn_succ hab, if_neg hp] at h
          omega
        have hcount := countIn_succ (p := p) hab
        rw [if_pos hp] at hcount
        exact ⟨b, Nat.lt_succ_self b, hab, hp, by omega⟩
      · obtain ⟨k, hkb, hk⟩ := ih hge
        exact ⟨k, Nat.lt_succ_of_lt hkb, hk⟩

/-- An event that keeps happening happens any number of times. -/
theorem exists_isNth_of_forever {a n : ℕ} (h : ∀ k, ∃ l, k ≤ l ∧ p l) (hn : 0 < n) :
    ∃ k, IsNth p a n k := by
  have hcount : ∀ n, ∃ b, a ≤ b ∧ n ≤ countIn p a b := by
    intro n
    induction n with
    | zero => exact ⟨a, le_rfl, Nat.zero_le _⟩
    | succ n ih =>
        obtain ⟨b, hab, hb⟩ := ih
        obtain ⟨l, hbl, hl⟩ := h b
        refine ⟨l + 1, by omega, ?_⟩
        rw [countIn_succ (hab.trans hbl), if_pos hl]
        have := countIn_mono (p := p) hab hbl
        omega
  obtain ⟨b, hab, hb⟩ := hcount n
  obtain ⟨k, -, hk⟩ := exists_isNth hab hn hb
  exact ⟨k, hk⟩

end countIn

end Clocked
