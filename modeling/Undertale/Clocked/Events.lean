import Undertale.Clocked.Run
import Mathlib.Data.Nat.Periodic

/-!
# Events

A register that moves at some edges of a run only does not see its input at the
others.  `sampled` lists what it does see, in order, and the register is a fold over
that list (`foldl_sampled`).  A statement in terms of the list holds for every spacing
of the edges.  An argument about such a register goes from one event to the next
(`exists_last_event`), and an event that comes back after a period is counted over any
one period (`countIn_period`).
-/

namespace Clocked

variable {σ α : Type*} {p : ℕ → Prop} [DecidablePred p]

/-- The values of `v` at the events of `p` at the edges `a, …, b - 1`. -/
def sampled (p : ℕ → Prop) [DecidablePred p] (v : ℕ → α) (a b : ℕ) : List α :=
  ((List.range' a (b - a)).filter p).map v

section sampled
variable {v : ℕ → α} {a b c : ℕ}

@[simp] theorem sampled_self (v : ℕ → α) (a : ℕ) : sampled p v a a = [] := by
  simp [sampled]

theorem sampled_succ (h : a ≤ b) :
    sampled p v a (b + 1) = sampled p v a b ++ if p b then [v b] else [] := by
  have hlen : b + 1 - a = (b - a) + 1 := by omega
  have hlast : a + (b - a) = b := by omega
  rw [sampled, hlen, List.range'_concat, Nat.one_mul, hlast, List.filter_append, List.map_append,
    sampled]
  by_cases hb : p b <;> simp [hb]

/-- Edges without an event add nothing. -/
theorem sampled_quiet (hab : a ≤ b) (hbc : b ≤ c) (h : ∀ n, b ≤ n → n < c → ¬ p n) :
    sampled p v a c = sampled p v a b := by
  refine preserved (P := fun n => sampled p v a n = sampled p v a b) hbc rfl fun n hbn hnc ih => ?_
  rw [sampled_succ (hab.trans hbn), if_neg (h n hbn hnc), ih, List.append_nil]

theorem sampled_append (hab : a ≤ b) (hbc : b ≤ c) :
    sampled p v a c = sampled p v a b ++ sampled p v b c := by
  refine preserved (P := fun n => sampled p v a n = sampled p v a b ++ sampled p v b n) hbc
    (by simp) fun n hbn _ ih => ?_
  rw [sampled_succ (hab.trans hbn), sampled_succ hbn, ih, List.append_assoc]

theorem length_sampled (hab : a ≤ b) : (sampled p v a b).length = countIn p a b := by
  refine preserved (P := fun n => (sampled p v a n).length = countIn p a n) hab (by simp)
    fun n han _ ih => ?_
  rw [sampled_succ han, countIn_succ han, List.length_append, ih]
  split <;> rfl

/-- A value that stays the same is sampled once for each event. -/
theorem sampled_const {x : α} (hab : a ≤ b) (h : ∀ n, a ≤ n → n < b → v n = x) :
    sampled p v a b = List.replicate (countIn p a b) x := by
  refine List.eq_replicate_iff.mpr ⟨length_sampled hab, fun y hy => ?_⟩
  obtain ⟨n, hn, rfl⟩ := List.mem_map.mp hy
  have hrange := List.mem_range'_1.mp (List.mem_filter.mp hn).1
  exact h n hrange.1 (by omega)

/-- A register that moves at the events of an interval only is a fold over what it has
sampled there. -/
theorem foldl_sampled {r : ℕ → σ} {f : σ → α → σ} (hab : a ≤ b)
    (hmove : ∀ n, a ≤ n → n < b → p n → r (n + 1) = f (r n) (v n))
    (hhold : ∀ n, a ≤ n → n < b → ¬ p n → r (n + 1) = r n) :
    r b = (sampled p v a b).foldl f (r a) := by
  refine preserved (P := fun n => r n = (sampled p v a n).foldl f (r a)) hab (by simp)
    fun n han hnb ih => ?_
  rw [sampled_succ han, List.foldl_append, ← ih]
  rcases Classical.em (p n) with hp | hp
  · rw [if_pos hp]
    exact hmove n han hnb hp
  · rw [if_neg hp]
    exact hhold n han hnb hp

/-- A register that moves by `f` at each event, as long as it has not come to a value of
`D`, comes to its first one by as many events. -/
theorem iterates_to {Q : ℕ → Prop} {r : ℕ → σ} {f : σ → σ} {x : σ} {D : σ → Prop} {N : ℕ}
    {m e : ℕ} (hm : Q m) (hx : r m = x)
    (hnext : ∀ n, m ≤ n → Q n → ¬ D (r n) →
      Q (n + 1) ∧ r (n + 1) = if p n then f (r n) else r n)
    (hnot : ∀ k, k < N → ¬ D (f^[k] x)) (he : IsNth p m N e) :
    Q (e + 1) ∧ r (e + 1) = f^[N] x := by
  have hlast := he.countIn_eq
  obtain ⟨hme, -, hN⟩ := he
  rw [← hN]
  refine preserved (P := fun n => Q n ∧ r n = f^[countIn p m n] x)
    (Nat.le_succ_of_le hme) ⟨hm, by rw [countIn_self]; exact hx⟩ fun n hmn hne ih => ?_
  obtain ⟨hin, hr⟩ := ih
  have hmono := countIn_mono (p := p) hmn (Nat.le_of_lt_succ hne)
  obtain ⟨hin', hr'⟩ := hnext n hmn hin (by rw [hr]; exact hnot _ (by omega))
  refine ⟨hin', ?_⟩
  rw [hr', hr, countIn_succ hmn]
  split
  · rw [Function.iterate_succ_apply']
  · rfl

end sampled

/-- What holds at first, and moves on by one with every item of a list, holds at its end
for its length. -/
theorem foldl_counted {P : ℕ → σ → Prop} {f : σ → α → σ}
    (hstep : ∀ t r x, P t r → P (t + 1) (f r x)) (l : List α) {t : ℕ} {r : σ} (h : P t r) :
    P (t + l.length) (l.foldl f r) := by
  induction l generalizing t r with
  | nil => exact h
  | cons x l ih =>
      have hnext := ih (hstep t r x h)
      rwa [Nat.add_assoc, Nat.add_comm 1] at hnext

omit [DecidablePred p] in
/-- An interval has no event or a last one. -/
theorem exists_last_event {a b : ℕ} (hab : a ≤ b) :
    (∀ n, a ≤ n → n < b → ¬ p n) ∨
      ∃ e, a ≤ e ∧ e < b ∧ p e ∧ ∀ n, e < n → n < b → ¬ p n := by
  induction b, hab using Nat.le_induction with
  | base => exact .inl fun n hn hn' => absurd hn' (Nat.not_lt.mpr hn)
  | succ b hab ih =>
      rcases Classical.em (p b) with hb | hb
      · exact .inr ⟨b, hab, Nat.lt_succ_self b, hb, fun n hn hn' => by omega⟩
      · have hlast : ∀ n, n < b + 1 → ¬ n < b → n = b := by omega
        rcases ih with hno | ⟨e, hae, heb, he, hno⟩
        · refine .inl fun n hn hn' => ?_
          by_cases hnb : n < b
          · exact hno n hn hnb
          · rw [hlast n hn' hnb]; exact hb
        · refine .inr ⟨e, hae, Nat.lt_succ_of_lt heb, he, fun n hn hn' => ?_⟩
          by_cases hnb : n < b
          · exact hno n hn hnb
          · rw [hlast n hn' hnb]; exact hb

/-- The events of an interval as a set. -/
theorem countIn_eq_card (p : ℕ → Prop) [DecidablePred p] (a b : ℕ) :
    countIn p a b = ((Finset.Ico a b).filter p).card := by
  rcases Nat.le_total b a with hba | hab
  · rw [countIn, Nat.sub_eq_zero_of_le hba, Finset.Ico_eq_empty (Nat.not_lt.mpr hba)]
    rfl
  · refine preserved (P := fun n => countIn p a n = ((Finset.Ico a n).filter p).card) hab (by simp)
      fun n han _ ih => ?_
    rw [countIn_succ han, ih, Nat.Ico_succ_right_eq_insert_Ico han, Finset.filter_insert]
    split
    · rw [Finset.card_insert_of_notMem (by simp)]
    · rfl

theorem countIn_add {a b c : ℕ} (hab : a ≤ b) (hbc : b ≤ c) :
    countIn p a b + countIn p b c = countIn p a c := by
  refine preserved (P := fun n => countIn p a b + countIn p b n = countIn p a n) hbc (by simp)
    fun n hbn _ ih => ?_
  rw [countIn_succ hbn, countIn_succ (hab.trans hbn), ← ih, Nat.add_assoc]

/-- Counting events with a delay. -/
theorem countIn_delay (p : ℕ → Prop) [DecidablePred p] (a b t : ℕ) :
    countIn (fun n => p (n - t)) (a + t) (b + t) = countIn p a b := by
  have hshift : ∀ k, a + t + k - t = a + k := by omega
  simp only [countIn, Nat.add_sub_add_right, hshift]

theorem countIn_congr {q : ℕ → Prop} [DecidablePred q] {a b : ℕ} (h : ∀ n, a ≤ n → (p n ↔ q n)) :
    countIn p a b = countIn q a b := by
  rw [countIn_eq_card, countIn_eq_card,
    Finset.filter_congr fun n hn => h n (Finset.mem_Ico.mp hn).1]

/-- Over a period an event is counted as often from every edge on. -/
theorem countIn_period {p : ℕ → Prop} [DecidablePred p] {t : ℕ} (h : ∀ n, p (n + t) ↔ p n)
    (a b : ℕ) : countIn p a (a + t) = countIn p b (b + t) := by
  have hperiodic : Function.Periodic p t := fun n => propext (h n)
  rw [countIn_eq_card, countIn_eq_card, Nat.filter_Ico_card_eq_of_periodic a t p hperiodic,
    Nat.filter_Ico_card_eq_of_periodic b t p hperiodic]

/-- The events of a period are an interval: its length counts them, from any edge on. -/
theorem countIn_pulse {p : ℕ → Prop} [DecidablePred p] {t c lo hi : ℕ}
    (h : ∀ n, p (n + t) ↔ p n) (hpulse : ∀ n, c ≤ n → n < c + t → (p n ↔ lo ≤ n ∧ n < hi))
    (hlo : c ≤ lo) (hhi : hi ≤ c + t) (a : ℕ) : countIn p a (a + t) = hi - lo := by
  have hevents : (Finset.Ico c (c + t)).filter p = Finset.Ico lo hi := by
    ext n
    rw [Finset.mem_filter, Finset.mem_Ico, Finset.mem_Ico]
    constructor
    · rintro ⟨⟨hcn, hnc⟩, hn⟩
      exact (hpulse n hcn hnc).mp hn
    · rintro ⟨hlon, hnhi⟩
      have hcn : c ≤ n := hlo.trans hlon
      have hnc : n < c + t := Nat.lt_of_lt_of_le hnhi hhi
      exact ⟨⟨hcn, hnc⟩, (hpulse n hcn hnc).mpr ⟨hlon, hnhi⟩⟩
  rw [countIn_period h a c, countIn_eq_card, hevents, Nat.card_Ico]

/-- A value that goes to one other value only goes there or stays for ever. -/
theorem leaves_or_stays {v : ℕ → α} {x y : α} {n : ℕ} (hn : v n = x)
    (hnext : ∀ m, n ≤ m → v m = x → v (m + 1) = x ∨ v (m + 1) = y) :
    (∃ m, n ≤ m ∧ v m = x ∧ v (m + 1) = y) ∨ ∀ m, n ≤ m → v m = x := by
  rcases Classical.em (∃ m, n ≤ m ∧ v m = x ∧ v (m + 1) = y) with h | h
  · exact .inl h
  · refine .inr fun m hnm => ?_
    induction m, hnm using Nat.le_induction with
    | base => exact hn
    | succ m hnm ih =>
        rcases hnext m hnm ih with hx | hy
        · exact hx
        · exact absurd ⟨m, hnm, ih, hy⟩ h

end Clocked
