import Undertale.Clocked.Sampler

/-!
# The audio interface

`audio_interface` does two things for the WM8731 codec.  After a reset it writes the
registers of the codec over I²C (`I2c`): nine words of three bytes, read from two tables.
Then it shifts samples out on the clocks of the codec, which is the master of the bit
clock and of the frame clock (`Dac`).

The I²C machine moves on the falling edges of a slow clock, `SCLK_int`, which it divides
out of `Clk` and samples like a clock from outside.  Its word counter runs on the falling
edge of `SCLK_int` itself, inside the clock edge that lowers it.  The reset of the design
is asynchronous and comes out of a register of the same clock: it is still high at the
edge that lowers it, and clears what is read right after the edge that raises it.

The samples of the ADC are not modelled: no other module reads `adc_full` or `ADCDATA`.
-/

namespace Undertale

open Clocked

/-! ## The I²C machine -/

/-- `I2C_state`.  The eight states of a byte are one constructor, and `initialize` is
spelled `initialise`. -/
inductive I2cState where
  | initialise
  | start
  | b (k : Fin 8)
  | bAck
  | a (k : Fin 8)
  | aAck
  | d (k : Fin 8)
  | dAck
  | bStop0
  | bStop1
  | bEnd
deriving DecidableEq, Repr

/-- `SCI_ADDR`, the device address. -/
def sciAddr : BitVec 8 := 0x34#8

/-- `word_limit`. -/
def wordLimit : ℕ := 8

/-- `SCI_REG_ROM`. -/
def sciRegRom (k : ℕ) : BitVec 8 :=
  [0x12#8, 0x01#8, 0x05#8, 0x08#8, 0x0A#8, 0x0C#8, 0x0E#8, 0x10#8, 0x12#8].getD k 0#8

/-- `SCI_DAT_ROM`. -/
def sciDatRom (k : ℕ) : BitVec 8 :=
  [0b00000000#8, 0b00011111#8, 0b11110101#8, 0b11010000#8, 0b00000101#8, 0b01100000#8,
    0b01000011#8, 0b00000000#8, 0b00000001#8].getD k 0#8

/-- `next_state_i2c`. -/
def I2cState.next (sclkInt : Bool) (sck : Sampler) (wordCount : ℕ) : I2cState → I2cState
  | .initialise => if sclkInt then .start else .initialise
  | .start => if sck.falling then .b 0 else .start
  | .b k => if sck.falling then if k = 7 then .bAck else .b (k + 1) else .b k
  | .bAck => if sck.falling then .a 0 else .bAck
  | .a k => if sck.falling then if k = 7 then .aAck else .a (k + 1) else .a k
  | .aAck => if sck.falling then .d 0 else .aAck
  | .d k => if sck.falling then if k = 7 then .dAck else .d (k + 1) else .d k
  | .dAck =>
    if sck.falling then if wordCount = wordLimit + 1 then .bStop0 else .initialise else .dAck
  | .bStop0 => if sclkInt then .bStop1 else .bStop0
  | .bStop1 => .bEnd
  | .bEnd => .bEnd

/-- `I2C_SDAT` in `outputs_i2c`, or nothing where the line is released. -/
def I2cState.sdat (wordCount : ℕ) : I2cState → Option Bool
  | .initialise => some true
  | .start => some false
  | .b k => some (sciAddr.getMsbD k)
  | .bAck => none
  | .a k => some ((sciRegRom wordCount).getMsbD k)
  | .aAck => none
  | .d k => some ((sciDatRom wordCount).getMsbD k)
  | .dAck => none
  | .bStop0 => some false
  | .bStop1 => some true
  | .bEnd => some true

/-- `sclk_inhibit`. -/
def I2cState.sclkInhibit (s : I2cState) : Bool := s == .bStop1 || s == .bEnd

/-- `count_en`. -/
def I2cState.countEn (s : I2cState) : Bool := s == .dAck

/-- `word_reset`, and `init_over`. -/
def I2cState.over (s : I2cState) : Bool := s == .bEnd

/-- The registers of the I²C machine. -/
@[ext]
structure I2c where
  i2cCounter : BitVec 10
  sck : Sampler
  state : I2cState
  wordCount : ℕ
deriving DecidableEq, Repr

/-- The registers while `Reset` is high. -/
def I2c.zero : I2c := ⟨0#10, .zero, .initialise, 0⟩

/-- `SCLK_int`, which is `I2C_SCLK`. -/
def I2c.sclkInt (r : I2c) : Bool := r.i2cCounter.getLsbD 9 || r.state.sclkInhibit

/-- `I2C_SDAT`. -/
def I2c.sdat (r : I2c) : Option Bool := r.state.sdat r.wordCount

/-- The blocks of the I²C machine at a posedge of `Clk`. -/
def I2c.posedgeClk (r : I2c) : I2c where
  i2cCounter := r.i2cCounter + 1#10
  sck := r.sck.step r.sclkInt
  state := r.state.next r.sclkInt r.sck r.wordCount
  wordCount := r.wordCount

/-- One clock edge of the I²C machine.  The word counter runs after the other blocks, on
the falling edge they give `SCLK_int`. -/
def I2c.step (r : I2c) : I2c :=
  let r' := r.posedgeClk
  { r' with
    wordCount :=
      if r'.state.over then 0
      else if r.sclkInt = true ∧ r'.sclkInt = false ∧ r'.state.countEn = true then r.wordCount + 1
      else r.wordCount }

/-! ## The samples -/

/-- The registers that shift a sample out. -/
@[ext]
structure Dac where
  dack : Sampler
  bck : Sampler
  lrdata : BitVec 32
  bcount : BitVec 5
  flag1 : Bool
deriving DecidableEq, Repr

/-- The inputs of `audio_interface` in one cycle. -/
structure AudioInterfaceInputs where
  reset : Bool
  ldata : BitVec 16
  rdata : BitVec 16
  audBclk : Bool
  audDaclrck : Bool

/-- `DACData_reg` and the samples of the codec's clocks, at a posedge of `Clk`.  `Bcount`
is five bits wide, and takes 31 after 0. -/
def Dac.step (i : AudioInterfaceInputs) (r : Dac) : Dac where
  dack := r.dack.step i.audDaclrck
  bck := r.bck.step i.audBclk
  lrdata := if r.dack.rising then i.ldata ++ i.rdata else r.lrdata
  bcount :=
    if r.dack.rising then 31#5
    else if r.bck.rising = true ∧ r.flag1 = true then r.bcount
    else if r.bck.falling then r.bcount - 1#5
    else r.bcount
  flag1 :=
    if r.dack.rising then true
    else if r.bck.rising = true ∧ r.flag1 = true then false
    else r.flag1

/-- The registers while `Reset` is high.  `flag1` is not reset. -/
def Dac.reset (r : Dac) : Dac := ⟨.zero, .zero, 0#32, 31#5, r.flag1⟩

/-- `AUD_DACDAT`. -/
def Dac.audDacdat (r : Dac) : Bool := r.lrdata.getLsbD r.bcount.toNat

/-! ## The module -/

/-- The registers of `audio_interface`. -/
@[ext]
structure AudioInterface where
  i2c : I2c
  dac : Dac
deriving DecidableEq, Repr

/-- What `Reset` leaves of the registers. -/
def AudioInterface.clear (r : AudioInterface) : AudioInterface := ⟨I2c.zero, r.dac.reset⟩

/-- One clock edge of `audio_interface`.  `reset'` is the level of `Reset` after it. -/
def AudioInterface.step (i : AudioInterfaceInputs) (reset' : Bool) (r : AudioInterface) :
    AudioInterface :=
  if i.reset then r.clear
  -- the edge is one of the clock before it raises `Reset`, and `flag1` keeps what it brings
  else if reset' then AudioInterface.clear ⟨r.i2c.step, r.dac.step i⟩
  else ⟨r.i2c.step, r.dac.step i⟩

/-- `INIT_FINISH`. -/
def AudioInterface.initFinish (r : AudioInterface) : Bool := r.i2c.state.over

/-- `data_over`. -/
def AudioInterface.dataOver (r : AudioInterface) : Bool := r.dac.flag1

/-- A run of `audio_interface` from the registers `r` on the inputs `i`. -/
def AudioInterface.run (i : ℕ → AudioInterfaceInputs) (r : AudioInterface) : ℕ → AudioInterface :=
  Clocked.run (fun n => AudioInterface.step (i n) (i (n + 1)).reset) r

end Undertale
