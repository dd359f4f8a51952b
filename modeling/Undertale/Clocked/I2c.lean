import Undertale.Clocked.Schedule
import Mathlib.Data.List.FinRange

/-!
# The I²C bus

A receiver on the two lines of an I²C bus needs no clock of its own.  A change of the
data line while the clock line is high starts or stops a transaction, and the level of
the data line when the clock line rises is the next bit.  Eight bits and the bit of the
acknowledgement make a byte.  A start inside a transaction begins the next one, and the
bits of an unfinished byte are dropped.

`receive` is the receiver, `busEvent` is what it takes from two samples of the lines, and
`receive_transactions` says that what was sent is what it reads.
-/

namespace Clocked

/-! ## The lines -/

/-- What a receiver sees between two samples of the lines. -/
inductive BusEvent where
  | start
  | stop
  | bit (b : Bool)
deriving DecidableEq, Repr

/-- The two lines of the bus. -/
structure Bus where
  scl : Bool
  sda : Bool
deriving DecidableEq, Repr

/-- The event between two samples. -/
def busEvent (l l' : Bus) : Option BusEvent :=
  if l.scl = true ∧ l'.scl = true then
    if l.sda = true ∧ l'.sda = false then some .start
    else if l.sda = false ∧ l'.sda = true then some .stop
    else none
  else if l.scl = false ∧ l'.scl = true then some (.bit l'.sda)
  else none

/-- The events of the first `n` cycles of a run of the lines. -/
def busEvents (l : ℕ → Bus) (n : ℕ) : List BusEvent := made (fun k => busEvent (l k) (l (k + 1))) n

theorem busEvents_succ (l : ℕ → Bus) (n : ℕ) :
    busEvents l (n + 1) = busEvents l n ++ (busEvent (l n) (l (n + 1))).toList :=
  made_succ _ n

section busEvent
variable {l l' : Bus}

/-- Nothing happens where the clock line is low afterwards. -/
theorem busEvent_low (h : l'.scl = false) : busEvent l l' = none := by
  simp [busEvent, h]

/-- Nothing happens where the data line does not change and the clock line does not rise. -/
theorem busEvent_held (h : l.scl = true) (hsda : l'.sda = l.sda) : busEvent l l' = none := by
  rw [busEvent, hsda, h]
  cases l.sda <;> simp

theorem busEvent_rise (h : l.scl = false) (h' : l'.scl = true) :
    busEvent l l' = some (.bit l'.sda) := by
  simp [busEvent, h, h']

theorem busEvent_start (h : l = ⟨true, true⟩) (h' : l' = ⟨true, false⟩) :
    busEvent l l' = some .start := by
  rw [h, h']
  rfl

theorem busEvent_stop (h : l = ⟨true, false⟩) (h' : l' = ⟨true, true⟩) :
    busEvent l l' = some .stop := by
  rw [h, h']
  rfl

end busEvent

/-- Cycles without an event add nothing. -/
theorem busEvents_quiet {l : ℕ → Bus} {m n : ℕ} (hmn : m ≤ n)
    (h : ∀ k, m ≤ k → k < n → busEvent (l k) (l (k + 1)) = none) :
    busEvents l n = busEvents l m := by
  induction n, hmn using Nat.le_induction with
  | base => rfl
  | succ n hmn ih =>
      rw [busEvents_succ, h n hmn (Nat.lt_succ_self n), Option.toList_none, List.append_nil]
      exact ih fun k hk hkn => h k hk (Nat.lt_succ_of_lt hkn)

/-- A first cycle without an event can be left out. -/
theorem busEvents_delay {l : ℕ → Bus} (h : busEvent (l 0) (l 1) = none) (n : ℕ) :
    busEvents l (n + 1) = busEvents (fun k => l (k + 1)) n := by
  induction n with
  | zero => rw [busEvents_succ, h]; rfl
  | succ n ih => rw [busEvents_succ, ih, busEvents_succ]

/-! ## The receiver -/

/-- A byte with the bit of its acknowledgement. -/
abbrev AckedByte := BitVec 8 × Bool

/-- A receiver: the transactions that are over, the bytes of the one that is going on, and
the bits of the byte that is not complete. -/
@[ext]
structure Receiver where
  done : List (List AckedByte)
  current : Option (List AckedByte)
  bits : List Bool
deriving DecidableEq, Repr

/-- A receiver that has seen nothing. -/
def Receiver.idle : Receiver := ⟨[], none, []⟩

/-- The byte of eight bits, the most significant first. -/
def byteOf (bits : List Bool) : BitVec 8 :=
  bits.foldl (fun x b => (x.concat b).setWidth 8) 0#8

/-- The bits of a byte, the most significant first. -/
def bitsOf (x : BitVec 8) : List Bool := (List.finRange 8).map fun k : Fin 8 => x.getMsbD k

/-- One event at the receiver. -/
def Receiver.step (r : Receiver) : BusEvent → Receiver
  | .start => ⟨r.done ++ r.current.toList, some [], []⟩
  | .stop => ⟨r.done ++ r.current.toList, none, []⟩
  | .bit b =>
    match r.current with
    | none => r
    | some bytes =>
      if r.bits.length = 8 then
        { r with current := some (bytes ++ [(byteOf r.bits, b)]), bits := [] }
      else { r with bits := r.bits ++ [b] }

/-- What a receiver reads from a list of events. -/
def receive (events : List BusEvent) : Receiver := events.foldl Receiver.step .idle

theorem byteOf_bitsOf (x : BitVec 8) : byteOf (bitsOf x) = x := by
  ext k hk
  have hcases : k = 0 ∨ k = 1 ∨ k = 2 ∨ k = 3 ∨ k = 4 ∨ k = 5 ∨ k = 6 ∨ k = 7 := by omega
  simp only [byteOf, bitsOf, List.finRange_succ, List.finRange_zero, List.map_cons, List.map_nil]
  rcases hcases with rfl | rfl | rfl | rfl | rfl | rfl | rfl | rfl <;>
    simp [BitVec.getMsbD]

/-! ## What is sent is what is read -/

/-- The events of one byte. -/
def AckedByte.events (b : AckedByte) : List BusEvent := (bitsOf b.1 ++ [b.2]).map .bit

/-- The events of a transaction. -/
def transaction (bytes : List AckedByte) : List BusEvent :=
  .start :: bytes.flatMap AckedByte.events

section receive
variable {r : Receiver}

/-- The bits before the last one of a byte are kept. -/
theorem Receiver.foldl_bits {bytes : List AckedByte} {l : List Bool} (hr : r.current = some bytes)
    (hl : r.bits.length + l.length ≤ 8) :
    (l.map BusEvent.bit).foldl Receiver.step r = { r with bits := r.bits ++ l } := by
  induction l generalizing r with
  | nil => simp
  | cons b l ih =>
      rw [List.length_cons] at hl
      have hstep : r.step (.bit b) = { r with bits := r.bits ++ [b] } := by
        simp only [Receiver.step, hr]
        rw [if_neg (by omega)]
      rw [List.map_cons, List.foldl_cons, hstep]
      rw [ih (by exact hr) (by rw [List.length_append, List.length_singleton]; omega)]
      simp

/-- A byte that is sent is read. -/
theorem Receiver.foldl_byte {bytes : List AckedByte} (hr : r.current = some bytes)
    (hbits : r.bits = []) (b : AckedByte) :
    b.events.foldl Receiver.step r = { r with current := some (bytes ++ [b]) } := by
  have hlen : (bitsOf b.1).length = 8 := by simp [bitsOf]
  rw [AckedByte.events, List.map_append, List.foldl_append,
    Receiver.foldl_bits hr (by rw [hbits, hlen]; rfl), hbits, List.nil_append]
  simp only [List.map_cons, List.map_nil, List.foldl_cons, List.foldl_nil, Receiver.step, hr, hlen,
    if_true, byteOf_bitsOf]

theorem Receiver.foldl_bytes {bytes : List AckedByte} (hr : r.current = some bytes)
    (hbits : r.bits = []) (sent : List AckedByte) :
    (sent.flatMap AckedByte.events).foldl Receiver.step r =
      { r with current := some (bytes ++ sent) } := by
  induction sent generalizing r bytes with
  | nil => simp [← hr]
  | cons b sent ih =>
      rw [List.flatMap_cons, List.foldl_append, Receiver.foldl_byte hr hbits]
      rw [ih (r := { r with current := some (bytes ++ [b]) }) rfl hbits]
      simp

/-- A transaction that is sent ends the one before it and is read. -/
theorem Receiver.foldl_transaction (r : Receiver) (bytes : List AckedByte) :
    (transaction bytes).foldl Receiver.step r =
      ⟨r.done ++ r.current.toList, some bytes, []⟩ := by
  have hstart : (r.step .start).current = some [] := rfl
  rw [transaction, List.foldl_cons, Receiver.foldl_bytes hstart rfl]
  rfl

end receive

/-- Transactions without a stop between them, each after a bit outside any byte. -/
theorem receive_transactions (sent : ℕ → List AckedByte) (b : Bool) (k : ℕ) :
    ∃ r, receive ((List.range k).flatMap fun k => .bit b :: transaction (sent k)) = r ∧
      r.done ++ r.current.toList = (List.range k).map sent ∧ r.bits = [] := by
  induction k with
  | zero => exact ⟨.idle, rfl, rfl, rfl⟩
  | succ k ih =>
      obtain ⟨r, hr, hdone, hbits⟩ := ih
      have hbit : (r.step (.bit b)).done = r.done ∧ (r.step (.bit b)).current = r.current := by
        obtain ⟨done, current, bits⟩ := r
        cases hbits
        cases current <;> exact ⟨rfl, rfl⟩
      refine ⟨_, rfl, ?_⟩
      rw [List.range_succ, List.flatMap_append, receive, List.foldl_append, ← receive, hr,
        List.flatMap_singleton, List.foldl_cons, Receiver.foldl_transaction, hbit.1, hbit.2, hdone]
      exact ⟨by simp, rfl⟩

/-- A stop ends the last of them. -/
theorem receive_transactions_stop (sent : ℕ → List AckedByte) (b b' : Bool) (k : ℕ) :
    receive (((List.range k).flatMap fun k => .bit b :: transaction (sent k)) ++
        [.bit b', .stop]) = ⟨(List.range k).map sent, none, []⟩ := by
  obtain ⟨⟨done, current, bits⟩, hr, hdone, hbits⟩ := receive_transactions sent b k
  rw [receive, List.foldl_append, ← receive, hr, ← hdone]
  cases hbits
  cases current <;> rfl

end Clocked
