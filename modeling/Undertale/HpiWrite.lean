import Undertale.Hpi

/-!
# What an HPI write delivers

The chip latches `OTG_DATA` when `OTG_WR_N` goes high, so the data must be on the
bus in the last cycle in which `OTG_WR_N` is low.  It never is.  In that cycle
`from_sw_w` is already high, because `OTG_WR_N` shows it one clock later, and
the tristate buffer is switched by `from_sw_w` itself.  Address and chip select
are right (`Hpi.ioWrite_lastLow`), and so is the data, in the cycles before
(`Hpi.ioWrite_driven`): only the enable is a clock early.
-/

namespace Undertale

open Clocked

/-- The pins of a write in one cycle: the address, the chip select, and the data
driven by the FPGA. -/
def Hpi.Delivers (s : Hpi) (address : BitVec 8) (data : BitVec 16) : Prop :=
  s.intf.otgAddr = address.setWidth 2 ∧ s.intf.otgCsN = false ∧ s.intf.otgData s.pio = some data

instance (s : Hpi) (address : BitVec 8) (data : BitVec 16) : Decidable (s.Delivers address data) :=
  inferInstanceAs (Decidable (_ ∧ _))

/-- By cycle `t` the processor has made the accesses of `calls` and then those of
`IO_write address data`, at whatever edges. -/
def WriteDone (i : ℕ → HpiInputs) (calls : List IoCall) (address : BitVec 8) (data : BitVec 16)
    (t : ℕ) : Prop :=
  made (fun n => (i n).access) t = calls.flatMap IoCall.accesses ++ ioWrite address data

instance (i : ℕ → HpiInputs) (calls : List IoCall) (address : BitVec 8) (data : BitVec 16)
    (t : ℕ) : Decidable (WriteDone i calls address data t) := inferInstanceAs (Decidable (_ = _))

/-- The stores of `IO_write` before the one that ends its strobe. -/
def strobeStores (address : BitVec 8) (data : BitVec 16) : List Access :=
  [.storeAddress address, .storeCs false, .storeW false, .storeData data]

theorem ioWrite_eq (address : BitVec 8) (data : BitVec 16) :
    ioWrite address data = strobeStores address data ++ .storeW true :: [.storeCs true] := rfl

/-- The PIO registers while a write has its strobe low and its data stored. -/
theorem Pio.strobed (p : Pio) {l l' : List Access} {address : BitVec 8} {data : BitVec 16}
    (h : l = l' ++ strobeStores address data) :
    (l.foldl Pio.access p).otgHpiAddress = address.setWidth 2 ∧
      (l.foldl Pio.access p).otgHpiData = data ∧ (l.foldl Pio.access p).otgHpiW = false ∧
      (l.foldl Pio.access p).otgHpiCs = false := by
  rw [h, List.foldl_append]
  exact ⟨rfl, rfl, rfl, rfl⟩

section write
variable {i : ℕ → HpiInputs} {calls : List IoCall} {address : BitVec 8} {data : BitVec 16} {t : ℕ}

/-- The stores of a write up to the one that ends its strobe, the PIO registers
they leave, and the PIO strobe from then on. -/
theorem WriteDone.strobe_end (s : Hpi) (h : WriteDone i calls address data t) :
    ∃ e, e + 1 < t ∧ (i e).access = some (.storeW true) ∧
      (Hpi.run i s e).pio.otgHpiAddress = address.setWidth 2 ∧
      (Hpi.run i s e).pio.otgHpiData = data ∧ (Hpi.run i s e).pio.otgHpiW = false ∧
      (Hpi.run i s e).pio.otgHpiCs = false ∧
      ∀ k, e < k → k ≤ t → (Hpi.run i s k).pio.otgHpiW = true := by
  have hsplit : made (fun n => (i n).access) t =
      (calls.flatMap IoCall.accesses ++ strobeStores address data) ++
        .storeW true :: [.storeCs true] := by
    rw [List.append_assoc, ← ioWrite_eq]; exact h
  obtain ⟨e, het, hmade, hact⟩ := exists_edge_of_made hsplit
  have hnext : made (fun n => (i n).access) (e + 1) =
      made (fun n => (i n).access) e ++ [.storeW true] := by
    rw [made_succ, hact]; rfl
  have hlt : e + 1 < t := by
    rcases Nat.lt_or_eq_of_le (Nat.succ_le_of_lt het) with hlt | heq
    · exact hlt
    · rw [← heq, hnext, hmade] at hsplit
      exact absurd (congrArg List.length hsplit) (by simp)
  obtain ⟨haddr, hdata, hw, hcs⟩ := Pio.strobed s.pio hmade
  rw [← Hpi.run_pio] at haddr hdata hw hcs
  refine ⟨e, hlt, hact, haddr, hdata, hw, hcs, fun k hek hkt => ?_⟩
  -- what is made after the strobe has ended is at most the store of the chip select
  obtain ⟨l, hl⟩ := made_prefix (fun n => (i n).access) (Nat.succ_le_of_lt hek)
  obtain ⟨l', hl'⟩ := made_prefix (fun n => (i n).access) hkt
  have hrest : l ++ l' = [.storeCs true] := by
    have hall : made (fun n => (i n).access) (e + 1) ++ (l ++ l') =
        made (fun n => (i n).access) (e + 1) ++ [.storeCs true] := by
      rw [← List.append_assoc, hl, hl', hnext, hmade, hsplit, List.append_cons]
    exact List.append_cancel_left hall
  rw [Hpi.run_pio, ← hl, hnext, List.append_assoc, List.foldl_append]
  rcases List.append_eq_singleton_iff.mp hrest with ⟨rfl, -⟩ | ⟨rfl, -⟩
  · rfl
  · rfl

/-- The last low cycle of `OTG_WR_N` in a write.  The address and the chip select
are on the pins, and the FPGA does not drive the data bus. -/
theorem Hpi.ioWrite_lastLow (s : Hpi) (hreset : ∀ n, (i n).reset = false)
    (h : WriteDone i calls address data t) :
    ∃ m, LastLow (fun n => (Hpi.run i s n).intf.otgWrN) t m ∧
      (Hpi.run i s m).intf.otgAddr = address.setWidth 2 ∧
      (Hpi.run i s m).intf.otgCsN = false ∧
      (Hpi.run i s m).intf.otgData (Hpi.run i s m).pio = none := by
  obtain ⟨e, het, -, haddr, -, hw, hcs, hafter⟩ := h.strobe_end s
  obtain ⟨-, haddr', hw', hcs'⟩ := Hpi.run_intf i s (hreset e)
  refine ⟨e + 1, ⟨het, hw'.trans hw, ?_⟩, haddr'.trans haddr, hcs'.trans hcs, ?_⟩
  · intro k hk hkt
    obtain ⟨k, rfl⟩ : ∃ l, k = l + 1 := ⟨k - 1, by omega⟩
    obtain ⟨-, -, hwk, -⟩ := Hpi.run_intf i s (hreset k)
    exact hwk.trans (hafter k (Nat.lt_of_succ_lt_succ hk) (Nat.le_of_succ_le hkt))
  · rw [HpiIoIntf.otgData, hafter (e + 1) (Nat.lt_succ_self e) het.le, if_pos rfl]

/-- The data is on the bus under the strobe if the processor waits for a clock
between the store of the data and the one that ends the strobe. -/
theorem Hpi.ioWrite_driven (s : Hpi) (hreset : ∀ n, (i n).reset = false) {l : List Access} {e : ℕ}
    (h : made (fun n => (i n).access) e = l ++ strobeStores address data)
    (hidle : (i e).access = none) :
    (Hpi.run i s (e + 1)).intf.otgWrN = false ∧ (Hpi.run i s (e + 1)).Delivers address data := by
  obtain ⟨haddr, hdata, hw, hcs⟩ := Pio.strobed s.pio h
  rw [← Hpi.run_pio] at haddr hdata hw hcs
  obtain ⟨hbuf, haddr', hw', hcs'⟩ := Hpi.run_intf i s (hreset e)
  have hpio : (Hpi.run i s (e + 1)).pio = (Hpi.run i s e).pio := by
    rw [Hpi.run_succ, Hpi.step, hidle]; rfl
  refine ⟨hw'.trans hw, haddr'.trans haddr, hcs'.trans hcs, ?_⟩
  rw [HpiIoIntf.otgData, hpio, hw, if_neg Bool.false_ne_true, hbuf, hdata]

/-- No write delivers its data: in the last low cycle of its strobe the pins are
never those of the write. -/
theorem Hpi.ioWrite_not_delivered (s : Hpi) (hreset : ∀ n, (i n).reset = false)
    (h : WriteDone i calls address data t) :
    ∃ m, LastLow (fun n => (Hpi.run i s n).intf.otgWrN) t m ∧
      ¬ (Hpi.run i s m).Delivers address data := by
  obtain ⟨m, hm, -, -, hz⟩ := Hpi.ioWrite_lastLow s hreset h
  refine ⟨m, hm, ?_⟩
  rintro ⟨-, -, hd⟩
  rw [hz] at hd
  cases hd

end write

/-- `IO_init` and a write of `0xABCD` to register 2, one access a clock. -/
def writeInputs (n : ℕ) : HpiInputs where
  reset := false
  chip := 0#16
  access := (ioInit ++ ioWrite 2#8 0xABCD#16)[n]?

/-- Both modules at power-up. -/
def Hpi.zero : Hpi where
  pio := ⟨0#2, 0#16, false, false, false, false⟩
  intf := ⟨0#16, 0#2, false, false, false, false, 0#16⟩

theorem Hpi.writeInputs_not_delivered :
    ∃ m, LastLow (fun n => (Hpi.run writeInputs Hpi.zero n).intf.otgWrN) 16 m ∧
      ¬ (Hpi.run writeInputs Hpi.zero m).Delivers 2#8 0xABCD#16 :=
  Hpi.ioWrite_not_delivered Hpi.zero (fun _ => rfl)
    (show WriteDone writeInputs [.init] 2#8 0xABCD#16 16 by decide)

/-- In cycle 15 the strobe is low for the last time and the bus is not driven. -/
theorem Hpi.not_every_write_delivered :
    ¬ ∀ (i : ℕ → HpiInputs) (s : Hpi) (calls : List IoCall) (address : BitVec 8)
        (data : BitVec 16) (t : ℕ), (∀ n, (i n).reset = false) →
      WriteDone i calls address data t →
        ∀ m, LastLow (fun n => (Hpi.run i s n).intf.otgWrN) t m →
          (Hpi.run i s m).Delivers address data := by
  intro h
  have hlast : LastLow (fun n => (Hpi.run writeInputs Hpi.zero n).intf.otgWrN) 16 15 := by
    refine ⟨by decide, by decide, fun k hk hk' => ?_⟩
    obtain rfl : k = 16 := by omega
    decide
  have hd := h writeInputs Hpi.zero [.init] 2#8 0xABCD#16 16 (fun _ => rfl) (by decide) 15 hlast
  revert hd
  decide

end Undertale
