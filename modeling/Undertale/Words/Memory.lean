import Mathlib.Logic.Function.Basic
import Mathlib.Data.BitVec

/-!
# Memories behind a port

A port gives access to a memory one word at a time.  It holds an address, and an access
steps the address on by the size of a word, so that a list of words is stored by one
address and as many accesses (`Port.foldl_store`).

`Holds` says that a list of words stands at an address.  It is what a writer establishes
(`holds_fill`) and what a reader takes apart, word by word.

A memory also holds records that point to each other.  `Linked` is a chain of them, and
`walk` follows it.
-/

namespace Words

variable {w : ℕ} {α : Type*}

/-! ## Words in their order -/

/-- The memory `m` with the words `vs` at `a`, `a + d` and so on. -/
def fill (d : ℕ) : BitVec w → List α → (BitVec w → α) → BitVec w → α
  | _, [], m => m
  | a, v :: vs, m => fill d (a + BitVec.ofNat w d) vs (Function.update m a v)

/-- The words `vs` stand in `m` at `a`, `a + d` and so on. -/
def Holds (d : ℕ) (m : BitVec w → α) : BitVec w → List α → Prop
  | _, [] => True
  | a, v :: vs => m a = v ∧ Holds d m (a + BitVec.ofNat w d) vs

section words
variable {d : ℕ} {a b : BitVec w} {m m' : BitVec w → α} {us vs : List α}

@[simp] theorem holds_nil : Holds d m a [] := trivial

@[simp] theorem holds_cons {v : α} :
    Holds d m a (v :: vs) ↔ m a = v ∧ Holds d m (a + BitVec.ofNat w d) vs := Iff.rfl

/-- A word that fits behind `a` has the next address. -/
theorem toNat_next (h : a.toNat + d < 2 ^ w) : (a + BitVec.ofNat w d).toNat = a.toNat + d := by
  rw [BitVec.toNat_add, BitVec.toNat_ofNat, Nat.add_mod_mod, Nat.mod_eq_of_lt h]

theorem holds_append :
    Holds d m a (us ++ vs) ↔
      Holds d m a us ∧ Holds d m (a + BitVec.ofNat w (d * us.length)) vs := by
  induction us generalizing a with
  | nil => simp
  | cons u us ih =>
      rw [List.cons_append, holds_cons, holds_cons, ih, and_assoc, BitVec.add_assoc,
        ← BitVec.ofNat_add, List.length_cons, Nat.mul_succ, Nat.add_comm d]

/-- A list stands where another memory agrees on its span. -/
theorem Holds.congr (hd : 0 < d) (hfit : a.toNat + d * vs.length ≤ 2 ^ w) (h : Holds d m a vs)
    (hm : ∀ b : BitVec w, a.toNat ≤ b.toNat → b.toNat < a.toNat + d * vs.length → m' b = m b) :
    Holds d m' a vs := by
  induction vs generalizing a with
  | nil => trivial
  | cons v vs ih =>
      rw [List.length_cons, Nat.mul_succ] at hfit hm
      refine ⟨(hm a le_rfl (by omega)).trans h.1, ?_⟩
      rcases Nat.eq_or_lt_of_le (Nat.zero_le vs.length) with hnil | hpos
      · rw [List.eq_nil_of_length_eq_zero hnil.symm]
        trivial
      · have hle : d ≤ d * vs.length := Nat.le_mul_of_pos_right d hpos
        have hnext := toNat_next (a := a) (d := d) (by omega)
        exact ih (by omega) h.2 fun b hb hb' => hm b (by omega) (by omega)

/-- Addresses outside the span of the words are left alone. -/
theorem fill_frame (hfit : a.toNat + d * vs.length ≤ 2 ^ w) (hd : 0 < d)
    (hb : b.toNat < a.toNat ∨ a.toNat + d * vs.length ≤ b.toNat) : fill d a vs m b = m b := by
  induction vs generalizing a m with
  | nil => rfl
  | cons v vs ih =>
      rw [List.length_cons, Nat.mul_succ] at hfit hb
      have hne : b ≠ a := by
        rintro rfl
        omega
      show fill d (a + BitVec.ofNat w d) vs (Function.update m a v) b = m b
      rcases Nat.eq_or_lt_of_le (Nat.zero_le vs.length) with hnil | hpos
      · rw [List.eq_nil_of_length_eq_zero hnil.symm]
        exact Function.update_of_ne hne v m
      · have hle : d ≤ d * vs.length := Nat.le_mul_of_pos_right d hpos
        have hnext := toNat_next (a := a) (d := d) (by omega)
        rw [ih (by omega) (by omega), Function.update_of_ne hne]

/-- The words that were stored stand in the memory. -/
theorem holds_fill (hfit : a.toNat + d * vs.length ≤ 2 ^ w) (hd : 0 < d) :
    Holds d (fill d a vs m) a vs := by
  induction vs generalizing a m with
  | nil => trivial
  | cons v vs ih =>
      rw [List.length_cons, Nat.mul_succ] at hfit
      rcases Nat.eq_or_lt_of_le (Nat.zero_le vs.length) with hnil | hpos
      · rw [List.eq_nil_of_length_eq_zero hnil.symm]
        refine ⟨?_, trivial⟩
        show Function.update m a v a = v
        rw [Function.update_self]
      · have hle : d ≤ d * vs.length := Nat.le_mul_of_pos_right d hpos
        have hnext := toNat_next (a := a) (d := d) (by omega)
        refine ⟨?_, ih (by omega)⟩
        show fill d (a + BitVec.ofNat w d) vs (Function.update m a v) a = v
        rw [fill_frame (by omega) hd (by omega), Function.update_self]

end words

/-! ## Ports -/

/-- A memory behind a port. -/
@[ext]
structure Port (w : ℕ) (α : Type*) where
  address : BitVec w
  memory : BitVec w → α

/-- Points the port at `a`. -/
def Port.point (a : BitVec w) (p : Port w α) : Port w α := { p with address := a }

/-- Stores a word at the address, which steps on. -/
def Port.store (d : ℕ) (p : Port w α) (v : α) : Port w α :=
  ⟨p.address + BitVec.ofNat w d, Function.update p.memory p.address v⟩

/-- Loads a word from the address, which steps on. -/
def Port.load (d : ℕ) (p : Port w α) : Port w α :=
  { p with address := p.address + BitVec.ofNat w d }

/-- The words stored one after the other. -/
theorem Port.foldl_store (d : ℕ) (p : Port w α) (vs : List α) :
    vs.foldl (Port.store d) p =
      ⟨p.address + BitVec.ofNat w (d * vs.length), fill d p.address vs p.memory⟩ := by
  induction vs generalizing p with
  | nil => ext1 <;> simp [fill]
  | cons v vs ih =>
      rw [List.foldl_cons, ih]
      ext1
      · simp only [Port.store]
        rw [BitVec.add_assoc, ← BitVec.ofNat_add, List.length_cons, Nat.mul_succ, Nat.add_comm d]
      · rfl

/-! ## Chains -/

section chains
variable {β ρ : Type*} {read : β → ρ} {next : ρ → β} {stop : β}

/-- The records `rs` are linked from `b` on.  The pointer of the last one is `stop`. -/
inductive Linked (read : β → ρ) (next : ρ → β) (stop : β) : β → List ρ → Prop
  | nil : Linked read next stop stop []
  | cons {b : β} {rs : List ρ} (hb : b ≠ stop) (h : Linked read next stop (next (read b)) rs) :
      Linked read next stop b (read b :: rs)

/-- Follows the pointers from `b` on, through at most `n` records. -/
def walk [DecidableEq β] (read : β → ρ) (next : ρ → β) (stop : β) : ℕ → β → List ρ
  | 0, _ => []
  | n + 1, b => if b = stop then [] else read b :: walk read next stop n (next (read b))

/-- A walk that reads the same pointers as a chain has, and takes the same from its
records, finds the same.  The records stand at the first address and where all but the last
of them point to. -/
theorem Linked.walk_map [DecidableEq β] {γ : Type*} {read' : β → ρ} {g : ρ → γ} {n : ℕ} {b : β}
    {rs : List ρ} (h : Linked read next stop b rs) (hn : rs.length ≤ n)
    (hread : ∀ c ∈ (b :: rs.map next).dropLast,
      next (read' c) = next (read c) ∧ g (read' c) = g (read c)) :
    (walk read' next stop n b).map g = rs.map g := by
  induction h generalizing n with
  | nil =>
      cases n with
      | zero => rfl
      | succ n => rw [walk, if_pos rfl]
  | @cons b rs hb _ ih =>
      cases n with
      | zero => exact absurd hn (Nat.not_succ_le_zero _)
      | succ n =>
          obtain ⟨hnext, hsame⟩ := hread b List.mem_cons_self
          rw [walk, if_neg hb, List.map_cons, List.map_cons, hsame, hnext,
            ih (Nat.le_of_succ_le_succ hn) fun c hc => hread c (List.mem_cons_of_mem b hc)]

/-- A walk through a chain finds its records. -/
theorem walk_eq [DecidableEq β] {n : ℕ} {b : β} {rs : List ρ} (h : Linked read next stop b rs)
    (hn : rs.length ≤ n) : walk read next stop n b = rs := by
  have hmap := h.walk_map (g := id) hn fun _ _ => ⟨rfl, rfl⟩
  rwa [List.map_id, List.map_id] at hmap

end chains

end Words
