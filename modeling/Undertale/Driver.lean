import Undertale.Transfers
import Undertale.UsbMessage
import Undertale.Programs.Blocks

/-!
# The keyboard driver

`main` of the USB software sets the chip up, sends nine requests to the keyboard, one
after the other, and then polls it for ever.  It goes back to `USB_HOT_PLUG` when the
chip refuses a command, when the first request fails, or when the keyboard has been taken
out and put in again.

It is modelled as its basic blocks.  A block is a list of calls, and ends where the
software decides about the last word it has read.  The nine requests are sent, resent,
waited for and checked by the same blocks.  Only the first one is not retried.  The delays
and the texts that are printed are left out.
-/

namespace Undertale

open Programs

/-! ## The constants of the chip -/

/-- `COMM_RESET` of `lcp_cmd.h`. -/
def commReset : BitVec 16 := 0xFA50#16

/-- `COMM_EXEC_INT`. -/
def commExecInt : BitVec 16 := 0xCE01#16

/-- `COMM_ACK`. -/
def commAck : BitVec 16 := 0x0FED#16

/-- `HUSB_pEOT` of `lcp_data.h`. -/
def husbPEot : BitVec 16 := 0x01B4#16

/-- `COMM_INT_NUM`. -/
def commIntNum : BitVec 16 := 0x01C2#16

/-- `COMM_R0`. -/
def commR0 : BitVec 16 := 0x01C4#16

/-- `COMM_R1` to `COMM_R13`. -/
def commR1R13 : List (BitVec 16) :=
  [0x01C6, 0x01C8, 0x01CA, 0x01CC, 0x01CE, 0x01D0, 0x01D2, 0x01D4, 0x01D6, 0x01D8, 0x01DA,
    0x01DC, 0x01DE]

/-- `HPI_IRQ_ROUTING_REG` of `cy7c67200.h`. -/
def hpiIrqRoutingReg : BitVec 16 := 0x0142#16

/-- `HPI_SIE1_MSG_ADR`. -/
def hpiSie1MsgAdr : BitVec 16 := 0x0144#16

/-- `HPI_SIE2_MSG_ADR`. -/
def hpiSie2MsgAdr : BitVec 16 := 0x0148#16

/-- `HOST1_IRQ_EN_REG`. -/
def host1IrqEnReg : BitVec 16 := 0xC08C#16

/-- `HOST1_STAT_REG`. -/
def host1StatReg : BitVec 16 := 0xC090#16

/-- `HOST2_STAT_REG`. -/
def host2StatReg : BitVec 16 := 0xC0B0#16

/-- `USB1_CTL_REG`, which is `ctl_reg`. -/
def usb1CtlReg : BitVec 16 := 0xC08A#16

/-- `SOFEOP1_TO_CPU_EN | RESUME1_TO_HPI_EN`. -/
def irqRouting : BitVec 16 := 0x0400#16 ||| 0x0040#16

/-- `A_CHG_IRQ_EN | SOF_EOP_IRQ_EN`, which is `intStat`. -/
def intStat : BitVec 16 := 0x0010#16 ||| 0x0200#16

/-- `HUSB_SIE1_INIT_INT`. -/
def husbSie1InitInt : BitVec 16 := 0x0072#16

/-- `HUSB_RESET_INT`. -/
def husbResetInt : BitVec 16 := 0x0074#16

/-- `!(v & no_device)`: both data lines are low.  `no_device` is `A_DP_STAT | A_DM_STAT`. -/
def noDevice (v : BitVec 16) : Bool := v &&& (0x2000#16 ||| 0x1000#16) == 0#16

/-- `v & HPI_STATUS_SIE1msg_FLAG`. -/
def sie1msgFlag (v : BitVec 16) : Bool := v &&& 0x0010#16 != 0#16

/-! ## The calls of a block -/

/-- `UsbSoftReset`. -/
def usbSoftReset : List IoCall :=
  [.write hpiMailbox commReset, .read hpiMailbox, .read hpiStatus] ++
    usbRead hpiSie1MsgAdr ++ usbWrite hpiSie1MsgAdr 0#16 ++
    usbRead hpiSie2MsgAdr ++ usbWrite hpiSie2MsgAdr 0#16 ++
    usbWrite host1StatReg 0xFFFF#16 ++ usbWrite host2StatReg 0xFFFF#16

/-- Steps 1a and 1b, up to the command. -/
def sie1Init : List IoCall :=
  usbWrite hpiSie1MsgAdr 0#16 ++ usbWrite host1StatReg 0xFFFF#16 ++ usbWrite husbPEot 600#16 ++
    usbWrite hpiIrqRoutingReg irqRouting ++ usbWrite host1IrqEnReg intStat ++
    usbWrite commR0 0#16 ++ commR1R13.flatMap (fun r => usbWrite r 0#16) ++
    usbWrite commIntNum husbSie1InitInt ++ [.write hpiMailbox commExecInt]

/-- Step 2, up to the command. -/
def husbReset : List IoCall :=
  usbWrite commIntNum husbResetInt ++ usbWrite commR0 0x003c#16 ++
    commR1R13.flatMap (fun r => usbWrite r 0#16) ++ [.write hpiMailbox commExecInt]

/-- One round of `UsbWaitTDListDone`. -/
def waitRound : List IoCall := usbRead hpiSie1MsgAdr ++ usbWrite hpiSie1MsgAdr 0#16

/-- The status and the control byte of the first descriptor. -/
def readControl : List IoCall := usbRead 0x0506#16 ++ usbRead 0x0508#16

/-- The device info, and the words of the endpoint descriptor that come before set
configuration. -/
def deviceInfo : List IoCall :=
  usbRead 0x056c#16 ++
    (.write hpiAddr 0x0576#16 ::
      [0x073F#16, 0x8105#16, 0x0003#16, 0x0008#16, 0xAC0A#16].map (IoCall.write hpiData)) ++
    usbWrite husbSie1PCurrentTDPtr 0x0576#16 ++ usbRead 0x057c#16

/-- The list that polls the keyboard. -/
def pollList (toggle dataSize : BitVec 8) : List IoCall := submit
  [0x051c, 0x000f &&& dataSize.setWidth 16, 0x0291,
   if toggle % 2#8 ≠ 0#8 then 0x0001 else 0x0041, 0x0013, 0x0000]

/-! ## The program -/

/-- What `main` does: a call, or a store to the keycode PIO. -/
inductive Action where
  | io (call : IoCall)
  | keycode (v : BitVec 8)
deriving DecidableEq, Repr

/-- The actions that the chip answers. -/
def Action.reads : Action → Bool
  | .io (.read _) => true
  | _ => false

/-- The places of `main`. -/
inductive MainPc where
  | start
  | hotPlug
  | sie1Status
  | sie1Ack
  | sie1Error
  | husbReset
  | resetAck
  | resetError
  | device
  | plugFor
  | plugWhile
  | submit (q : Request)
  | poll (q : Request)
  | wait (q : Request)
  | control (q : Request)
  | retry (q : Request)
  | retryClear (q : Request)
  | retryPoll (q : Request)
  | retryRead (q : Request)
  | deviceInfo
  | keyLoop
  | keySubmit
  | keyPoll
  | keyWait
  | keyRead
  | keyStore
  | unplugFor
  | unplugWhile
deriving DecidableEq, Repr

/-- `main` with its variables.  `code` and `intStat` are written only. -/
structure Main where
  pc : MainPc
  usbCtlVal : BitVec 16
  keycode : BitVec 16
  toggle : BitVec 8
  dataSize : BitVec 8
  hotPlugCount : BitVec 8
deriving DecidableEq, Repr

/-- The calls up to the next decision. -/
def Main.calls (s : Main) : List IoCall :=
  match s.pc with
  | .start => [.init]
  | .hotPlug => usbSoftReset ++ sie1Init
  | .sie1Status => [.read hpiStatus]
  | .sie1Ack => [.read hpiMailbox]
  | .sie1Error => [.read hpiMailbox]
  | .husbReset => Undertale.husbReset
  | .resetAck => [.read hpiMailbox]
  | .resetError => [.read hpiMailbox]
  | .device => usbRead usb1CtlReg
  | .plugFor => usbRead usb1CtlReg
  | .plugWhile => usbRead usb1CtlReg
  | .submit q => q.calls
  | .poll _ => [.read hpiStatus]
  | .wait _ => waitRound
  | .control _ => readControl
  | .retry _ => .read hpiStatus :: usbRead hpiSie1MsgAdr
  | .retryClear _ => usbWrite hpiSie1MsgAdr 0#16
  | .retryPoll _ => [.read hpiStatus]
  | .retryRead _ => usbRead 0x0508#16
  | .deviceInfo => Undertale.deviceInfo
  | .keyLoop => []
  | .keySubmit => pollList s.toggle s.dataSize
  | .keyPoll => [.read hpiStatus]
  | .keyWait => waitRound
  | .keyRead => usbRead 0x051e#16
  | .keyStore => usbRead usb1CtlReg
  | .unplugFor => usbRead usb1CtlReg
  | .unplugWhile => usbRead usb1CtlReg ++ usbRead usb1CtlReg ++ usbRead usb1CtlReg

/-- The actions up to the next decision.  The keycode is stored before the device is
looked for. -/
def Main.actions (s : Main) : List Action :=
  match s.pc with
  | .keyStore => .keycode (s.keycode.setWidth 8) :: s.calls.map .io
  | _ => s.calls.map .io

/-- The place after a request whose control byte has been right. -/
def Request.after : Request → MainPc
  | .setAddress => .submit .getDeviceDesc1
  | .getDeviceDesc1 => .submit .getDeviceDesc2
  | .getDeviceDesc2 => .submit .getConfigDesc1
  | .getConfigDesc1 => .submit .getConfigDesc2
  | .getConfigDesc2 => .deviceInfo
  | .setConfig => .submit .classRequest
  | .classRequest => .submit .getHidDesc
  | .getHidDesc => .submit .getReportDesc
  | .getReportDesc => .keyLoop

/-- The decision about the last word read, `v`. -/
def Main.next (v : BitVec 16) (s : Main) : Main :=
  match s.pc with
  | .start => { s with pc := .hotPlug }
  | .hotPlug => { s with usbCtlVal := irqRouting, pc := .sie1Status }
  | .sie1Status => { s with pc := if v &&& 0xFFFF#16 = 0#16 then .sie1Status else .sie1Ack }
  | .sie1Ack => { s with pc := if v ≠ commAck then .sie1Error else .husbReset }
  | .sie1Error => { s with pc := .hotPlug }
  | .husbReset => { s with pc := .resetAck }
  | .resetAck => { s with pc := if v ≠ commAck then .resetError else .device }
  | .resetError => { s with pc := .hotPlug }
  | .device =>
    if noDevice v then { s with usbCtlVal := v, hotPlugCount := 0#8, pc := .plugFor }
    else { s with usbCtlVal := v, pc := .submit .setAddress }
  | .plugFor =>
    if noDevice v then
      { s with
        usbCtlVal := v
        hotPlugCount := s.hotPlugCount + 1#8
        pc := if s.hotPlugCount + 1#8 < 5#8 then .plugFor else .plugWhile }
    else { s with usbCtlVal := v, pc := .submit .setAddress }
  | .plugWhile => { s with usbCtlVal := v, pc := if noDevice v then .plugWhile else .hotPlug }
  | .submit q => { s with pc := .poll q }
  | .poll q => { s with pc := if sie1msgFlag v then .wait q else .submit q }
  | .wait q => { s with pc := if v ≠ husbTDListDone then .wait q else .control q }
  | .control q => { s with usbCtlVal := v, pc := if v ≠ 0x03#16 then .retry q else q.after }
  | .retry q => { s with pc := if v = husbTDListDone then .retryClear q else .retryRead q }
  | .retryClear q => { s with pc := .retryPoll q }
  | .retryPoll q => { s with pc := if sie1msgFlag v then .retryRead q else .retryPoll q }
  | .retryRead q =>
    { s with
      usbCtlVal := v
      pc := if q = .setAddress then .hotPlug else if v ≠ 0x03#16 then .retry q else q.after }
  | .deviceInfo => { s with dataSize := (v &&& 0x00ff#16).setWidth 8, pc := .submit .setConfig }
  | .keyLoop => { s with toggle := s.toggle + 1#8, pc := .keySubmit }
  | .keySubmit => { s with pc := .keyPoll }
  | .keyPoll => { s with pc := if sie1msgFlag v then .keyWait else .keySubmit }
  | .keyWait => { s with usbCtlVal := v, pc := if v ≠ husbTDListDone then .keyWait else .keyRead }
  | .keyRead => { s with keycode := v, pc := .keyStore }
  | .keyStore =>
    if noDevice v then { s with usbCtlVal := v, hotPlugCount := 0#8, pc := .unplugFor }
    else { s with usbCtlVal := v, pc := .keyLoop }
  | .unplugFor =>
    if noDevice v then
      { s with
        usbCtlVal := v
        hotPlugCount := s.hotPlugCount + 1#8
        pc := if s.hotPlugCount + 1#8 < 7#8 then .unplugFor else .unplugWhile }
    else { s with usbCtlVal := v, pc := .keyLoop }
  | .unplugWhile => { s with usbCtlVal := v, pc := if noDevice v then .unplugWhile else .hotPlug }

/-- `main` as a program. -/
def driver : Blocks Main Action (BitVec 16) where
  actions := Main.actions
  reads := Action.reads
  next := Main.next

/-- `main` at its start.  Only `keycode` and `toggle` are initialised. -/
def Main.initial (usbCtlVal : BitVec 16) (dataSize hotPlugCount : BitVec 8) : Main :=
  ⟨.start, usbCtlVal, 0#16, 0#8, dataSize, hotPlugCount⟩

/-- An action with the answer of the chip. -/
abbrev Event := Action × BitVec 16

end Undertale
