import Undertale.Clocked.Run
import Undertale.Clocked.Schedule

/-!
# The HPI bus

The software reaches the EZ-OTG chip through six PIO registers.  A store of the
processor loads one of them, and `hpi_io_intf` registers their outputs once more
on the way to the pins.  The exception is the enable of the tristate buffer on
`OTG_DATA`: it is taken from `from_sw_w` itself, one clock before the pin
`OTG_WR_N` that the chip sees.

`IO_init`, `IO_write` and `IO_read` are the lists of accesses they make, in
program order.  At what edges the accesses happen is left open.
-/

namespace Undertale

open Clocked

/-! ## The software side -/

/-- The PIO registers, by the pointers of `io_handler.h`. -/
structure Pio where
  otgHpiAddress : BitVec 2
  otgHpiData : BitVec 16
  otgHpiR : Bool
  otgHpiW : Bool
  otgHpiCs : Bool
  otgHpiReset : Bool
deriving DecidableEq, Repr

/-- One access of the processor to a PIO. -/
inductive Access where
  | storeAddress (v : BitVec 8)
  | storeData (v : BitVec 16)
  | storeR (v : Bool)
  | storeW (v : Bool)
  | storeCs (v : Bool)
  | storeReset (v : Bool)
  | loadData
deriving DecidableEq, Repr

/-- What an access does to the PIO registers.  The address PIO is two bits wide. -/
def Pio.access (p : Pio) : Access → Pio
  | .storeAddress v => { p with otgHpiAddress := v.setWidth 2 }
  | .storeData v => { p with otgHpiData := v }
  | .storeR v => { p with otgHpiR := v }
  | .storeW v => { p with otgHpiW := v }
  | .storeCs v => { p with otgHpiCs := v }
  | .storeReset v => { p with otgHpiReset := v }
  | .loadData => p

/-- `IO_init`. -/
def ioInit : List Access :=
  [.storeReset true, .storeCs true, .storeR true, .storeW true, .storeAddress 0#8, .storeData 0#16,
    .storeCs false, .storeReset false, .storeReset true, .storeCs true]

/-- `IO_write`. -/
def ioWrite (address : BitVec 8) (data : BitVec 16) : List Access :=
  [.storeAddress address, .storeCs false, .storeW false, .storeData data, .storeW true,
    .storeCs true]

/-- `IO_read`. -/
def ioRead (address : BitVec 8) : List Access :=
  [.storeAddress address, .storeR false, .storeCs false, .loadData, .storeR true, .storeCs true]

/-- A call of one of the three functions. -/
inductive IoCall where
  | init
  | write (address : BitVec 8) (data : BitVec 16)
  | read (address : BitVec 8)
deriving DecidableEq, Repr

/-- The accesses a call makes. -/
def IoCall.accesses : IoCall → List Access
  | .init => ioInit
  | .write address data => ioWrite address data
  | .read address => ioRead address

/-! ## The interface -/

/-- The registers of `hpi_io_intf`. -/
structure HpiIoIntf where
  fromSwDataOutBuffer : BitVec 16
  otgAddr : BitVec 2
  otgRdN : Bool
  otgWrN : Bool
  otgCsN : Bool
  otgRstN : Bool
  fromSwDataIn : BitVec 16
deriving DecidableEq, Repr

/-- What the FPGA drives `OTG_DATA` with, if it drives it. -/
def HpiIoIntf.otgData (p : Pio) (r : HpiIoIntf) : Option (BitVec 16) :=
  if p.otgHpiW then none else some r.fromSwDataOutBuffer

/-- One clock edge of `hpi_io_intf`.  `chip` is the level on `OTG_DATA` while the
FPGA does not drive it. -/
def HpiIoIntf.step (reset : Bool) (p : Pio) (chip : BitVec 16) (r : HpiIoIntf) : HpiIoIntf :=
  if reset then
    { fromSwDataOutBuffer := 0#16
      otgAddr := 0#2
      otgRdN := true
      otgWrN := true
      otgCsN := true
      otgRstN := true
      fromSwDataIn := 0#16 }
  else
    { fromSwDataOutBuffer := p.otgHpiData
      otgAddr := p.otgHpiAddress
      otgRdN := p.otgHpiR
      otgWrN := p.otgHpiW
      otgCsN := p.otgHpiCs
      otgRstN := p.otgHpiReset
      fromSwDataIn := (r.otgData p).getD chip }

/-! ## The composition -/

/-- The PIO registers and the interface. -/
structure Hpi where
  pio : Pio
  intf : HpiIoIntf
deriving DecidableEq, Repr

/-- The inputs of one cycle: the reset, the chip's side of the bus, and the
access the processor makes at the edge, if it makes one. -/
structure HpiInputs where
  reset : Bool
  chip : BitVec 16
  access : Option Access

/-- One clock edge of both. -/
def Hpi.step (i : HpiInputs) (s : Hpi) : Hpi where
  pio := i.access.elim s.pio s.pio.access
  intf := s.intf.step i.reset s.pio i.chip

/-- A run of both from the registers `s` on the inputs `i`. -/
def Hpi.run (i : ℕ → HpiInputs) (s : Hpi) : ℕ → Hpi := Clocked.run (fun n => Hpi.step (i n)) s

section run
variable (i : ℕ → HpiInputs) (s : Hpi)

theorem Hpi.run_succ (n : ℕ) : Hpi.run i s (n + 1) = (Hpi.run i s n).step (i n) := rfl

/-- The PIO registers depend on the accesses made, not on when they were made. -/
theorem Hpi.run_pio (n : ℕ) :
    (Hpi.run i s n).pio = (made (fun k => (i k).access) n).foldl Pio.access s.pio :=
  foldl_made (r := fun n => (Hpi.run i s n).pio) (fun _ => rfl) n

/-- Out of reset the pins show the PIO registers of the cycle before. -/
theorem Hpi.run_intf {n : ℕ} (h : (i n).reset = false) :
    (Hpi.run i s (n + 1)).intf.fromSwDataOutBuffer = (Hpi.run i s n).pio.otgHpiData ∧
      (Hpi.run i s (n + 1)).intf.otgAddr = (Hpi.run i s n).pio.otgHpiAddress ∧
      (Hpi.run i s (n + 1)).intf.otgWrN = (Hpi.run i s n).pio.otgHpiW ∧
      (Hpi.run i s (n + 1)).intf.otgCsN = (Hpi.run i s n).pio.otgHpiCs := by
  rw [Hpi.run_succ]
  simp [Hpi.step, HpiIoIntf.step, h]

end run

end Undertale
