import Undertale.Hpi
import Undertale.Words.Memory

/-!
# Control transfers

`usb.c` gives the EZ-OTG chip its work in the chip's own memory.  A request function
writes a list of transfer descriptors and the packet of the request to `0x0500`, one word
after the other through `HPI_DATA`, and stores `0x0500` in the pointer that starts the
list.  The functions are lists of words in the source.

A descriptor has six words.  The last one points to the next descriptor, and the packet
stands between the first descriptor and the second.  `ControlTransfer` is what the words
are for: a device, a request, and the packets its answer comes in.  `ControlTransfer.words`
writes it as the source does, and a chip that follows the pointers finds it again
(`Request.carriedOut`), also while the answer comes in.  The chip itself writes the answer,
the status of a descriptor, which is the high byte of its control word, and its retry word,
which `main` compares with 3 in the end.

The chip steps the address on by two at every access to `HPI_DATA`, which `UsbPrintMem`
relies on as well.  A call is taken to arrive at the port as it is made; what the pins do
in a call is in `Hpi` and `HpiWrite`.
-/

namespace Undertale

open Words

/-! ## The registers of the port -/

/-- `HPI_DATA` of `usb.h`. -/
def hpiData : BitVec 8 := 0#8

/-- `HPI_MAILBOX`. -/
def hpiMailbox : BitVec 8 := 1#8

/-- `HPI_ADDR`. -/
def hpiAddr : BitVec 8 := 2#8

/-- `HPI_STATUS`. -/
def hpiStatus : BitVec 8 := 3#8

/-- `HUSB_SIE1_pCurrentTDPtr` of `lcp_data.h`. -/
def husbSie1PCurrentTDPtr : BitVec 16 := 0x01B0#16

/-- The memory of the chip behind `HPI_ADDR` and `HPI_DATA`. -/
abbrev EzOtg := Port 16 (BitVec 16)

/-- What a call does to the port. -/
def IoCall.onChip (p : EzOtg) : IoCall → EzOtg
  | .init => p
  | .write address data =>
    if address = hpiAddr then p.point data else if address = hpiData then p.store 2 data else p
  | .read address => if address = hpiData then p.load 2 else p

/-- What a list of calls does to the port. -/
def EzOtg.calls (p : EzOtg) (cs : List IoCall) : EzOtg := cs.foldl IoCall.onChip p

/-- `UsbWrite`. -/
def usbWrite (address data : BitVec 16) : List IoCall :=
  [.write hpiAddr address, .write hpiData data]

/-- `UsbRead`. -/
def usbRead (address : BitVec 16) : List IoCall := [.write hpiAddr address, .read hpiData]

/-! ## The request functions -/

/-- The words `ws` at `0x0500`, and the pointer to them. -/
def submit (ws : List (BitVec 16)) : List IoCall :=
  .write hpiAddr 0x0500#16 :: ws.map (IoCall.write hpiData) ++
    usbWrite husbSie1PCurrentTDPtr 0x0500#16

/-- `UsbSetAddress`. -/
def usbSetAddress : List IoCall := submit
  [0x050C, 0x0008, 0x00D0, 0x0001, 0x0013, 0x0514,
   0x0500, 0x0002, 0x0000, 0x0000,
   0x0000, 0x0000, 0x0090, 0x0041, 0x0013, 0x0000]

/-- `UsbGetDeviceDesc1`. -/
def usbGetDeviceDesc1 : List IoCall := submit
  [0x050C, 0x0008, 0x02D0, 0x0001, 0x0013, 0x0514,
   0x0680, 0x0100, 0x0000, 0x0008,
   0x052C, 0x0008, 0x0290, 0x0041, 0x0013, 0x0520,
   0x0000, 0x0000, 0x0210, 0x0041, 0x0013, 0x0000]

/-- `UsbGetDeviceDesc2`. -/
def usbGetDeviceDesc2 : List IoCall := submit
  [0x050C, 0x0008, 0x02D0, 0x0001, 0x0013, 0x0514,
   0x0680, 0x0100, 0x0000, 0x0012,
   0x0544, 0x0008, 0x0290, 0x0041, 0x0013, 0x0520,
   0x054c, 0x0008, 0x0290, 0x0001, 0x0013, 0x052c,
   0x0554, 0x0002, 0x0290, 0x0041, 0x0013, 0x0538,
   0x0000, 0x0000, 0x0210, 0x0041, 0x0013, 0x0000]

/-- `UsbGetConfigDesc1`. -/
def usbGetConfigDesc1 : List IoCall := submit
  [0x050C, 0x0008, 0x02D0, 0x0001, 0x0013, 0x0514,
   0x0680, 0x0200, 0x0000, 0x0009,
   0x0544, 0x0008, 0x0290, 0x0041, 0x0013, 0x0520,
   0x054c, 0x0001, 0x0290, 0x0001, 0x0013, 0x052c,
   0x0000, 0x0000, 0x0210, 0x0041, 0x0013, 0x0000]

/-- `UsbGetConfigDesc2`. -/
def usbGetConfigDesc2 : List IoCall := submit
  [0x050C, 0x0008, 0x02D0, 0x0001, 0x0013, 0x0514,
   0x0680, 0x0200, 0x0000, 0x00FF,
   0x055c, 0x0008, 0x0290, 0x0041, 0x0013, 0x0520,
   0x0564, 0x0008, 0x0290, 0x0001, 0x0013, 0x052c,
   0x056c, 0x0008, 0x0290, 0x0041, 0x0013, 0x0538,
   0x0574, 0x0008, 0x0290, 0x0001, 0x0013, 0x0544,
   0x057c, 0x0002, 0x0290, 0x0041, 0x0013, 0x0550,
   0x0000, 0x0000, 0x0210, 0x0041, 0x0013, 0x0000]

/-- `UsbSetConfig`. -/
def usbSetConfig : List IoCall := submit
  [0x050C, 0x0008, 0x02D0, 0x0001, 0x0013, 0x0514,
   0x0900, 0x0001, 0x0000, 0x0000,
   0x0000, 0x0000, 0x0290, 0x0041, 0x0013, 0x0000]

/-- `UsbClassRequest`. -/
def usbClassRequest : List IoCall := submit
  [0x050C, 0x0008, 0x02D0, 0x0001, 0x0013, 0x0514,
   0x0A21, 0x0000, 0x0000, 0x0000,
   0x0000, 0x0000, 0x0290, 0x0041, 0x0013, 0x0000]

/-- `UsbGetHidDesc`. -/
def usbGetHidDesc : List IoCall := submit
  [0x050C, 0x0008, 0x02D0, 0x0001, 0x0013, 0x0514,
   0x0681, 0x2100, 0x0000, 0x007B,
   0x0544, 0x0008, 0x0290, 0x0041, 0x0013, 0x0520,
   0x0000, 0x0000, 0x0210, 0x0041, 0x0013, 0x0000]

/-- `UsbGetReportDesc`. -/
def usbGetReportDesc : List IoCall := submit
  [0x050C, 0x0008, 0x02D0, 0x0001, 0x0013, 0x0514,
   0x0681, 0x2200, 0x0000, 0x007B,
   0x0580, 0x0008, 0x0290, 0x0041, 0x0013, 0x0520,
   0x0588, 0x0008, 0x0290, 0x0001, 0x0013, 0x052c,
   0x0590, 0x0008, 0x0290, 0x0041, 0x0013, 0x0538,
   0x0598, 0x0008, 0x0290, 0x0001, 0x0013, 0x0544,
   0x05a0, 0x0008, 0x0290, 0x0041, 0x0013, 0x0550,
   0x05a8, 0x0008, 0x0290, 0x0001, 0x0013, 0x055c,
   0x05b0, 0x0008, 0x0290, 0x0041, 0x0013, 0x0568,
   0x05b8, 0x0003, 0x0290, 0x0001, 0x0013, 0x0574,
   0x0000, 0x0000, 0x0210, 0x0041, 0x0013, 0x0000]

/-- The requests that set a keyboard up, in the order of `main`. -/
inductive Request where
  | setAddress
  | getDeviceDesc1
  | getDeviceDesc2
  | getConfigDesc1
  | getConfigDesc2
  | setConfig
  | classRequest
  | getHidDesc
  | getReportDesc
deriving DecidableEq, Repr

/-- The function of a request. -/
def Request.calls : Request → List IoCall
  | .setAddress => usbSetAddress
  | .getDeviceDesc1 => usbGetDeviceDesc1
  | .getDeviceDesc2 => usbGetDeviceDesc2
  | .getConfigDesc1 => usbGetConfigDesc1
  | .getConfigDesc2 => usbGetConfigDesc2
  | .setConfig => usbSetConfig
  | .classRequest => usbClassRequest
  | .getHidDesc => usbGetHidDesc
  | .getReportDesc => usbGetReportDesc

/-! ## Descriptors -/

/-- The words of a transfer descriptor, by what they tell the chip.  `retry` has the
active bit and the retries left, and `next` is 0 at the end of the list. -/
@[ext]
structure Td where
  base : BitVec 16
  length : BitVec 16
  pidAddress : BitVec 16
  control : BitVec 16
  retry : BitVec 16
  next : BitVec 16
deriving DecidableEq, Repr

/-- The words in their order. -/
def Td.words (t : Td) : List (BitVec 16) :=
  [t.base, t.length, t.pidAddress, t.control, t.retry, t.next]

/-- The descriptor at `a`. -/
def Td.readAt (m : BitVec 16 → BitVec 16) (a : BitVec 16) : Td where
  base := m a
  length := m (a + 2#16)
  pidAddress := m (a + 4#16)
  control := m (a + 6#16)
  retry := m (a + 8#16)
  next := m (a + 10#16)

/-- The kind of a packet. -/
inductive Pid where
  | setup
  | input
  | output
deriving DecidableEq, Repr

/-- The code of a kind in a descriptor. -/
def Pid.code : Pid → BitVec 4
  | .setup => 0xD#4
  | .input => 0x9#4
  | .output => 0x1#4

/-- What a descriptor asks for: a packet of a kind for an endpoint of a device, with its
data toggle, its length and its place in the memory. -/
structure Transaction where
  pid : BitVec 4
  endpoint : BitVec 4
  address : BitVec 8
  toggle : Bool
  base : BitVec 16
  length : BitVec 16
deriving DecidableEq, Repr

/-- The transaction of a descriptor. -/
def Td.transaction (t : Td) : Transaction where
  pid := t.pidAddress.extractLsb' 4 4
  endpoint := t.pidAddress.extractLsb' 0 4
  address := t.pidAddress.extractLsb' 8 8
  toggle := t.control.getLsbD 6
  base := t.base
  length := t.length

/-- The descriptor of a transaction, active and with three retries. -/
def Transaction.td (next : BitVec 16) (t : Transaction) : Td where
  base := t.base
  length := t.length
  pidAddress := t.address ++ (t.pid ++ t.endpoint : BitVec 8)
  control := if t.toggle then 0x0041#16 else 0x0001#16
  retry := 0x0013#16
  next := next

@[simp] theorem Transaction.td_next (next : BitVec 16) (t : Transaction) :
    (t.td next).next = next := rfl

/-- A descriptor says everything about its transaction. -/
@[simp] theorem Transaction.transaction_td (next : BitVec 16) (t : Transaction) :
    (t.td next).transaction = t := by
  obtain ⟨pid, endpoint, address, toggle, base, length⟩ := t
  simp only [Td.transaction, Transaction.td, Transaction.mk.injEq, and_true]
  refine ⟨?_, ?_, ?_, ?_⟩
  · ext k hk
    simp
    grind
  · ext k hk
    simp
    grind
  · ext k hk
    simp
    grind
  · cases toggle <;> simp

/-- A descriptor is read where its words stand. -/
theorem Td.readAt_eq {m : BitVec 16 → BitVec 16} {a : BitVec 16} {t : Td}
    (h : Holds 2 m a t.words) : Td.readAt m a = t := by
  obtain ⟨h0, h1, h2, h3, h4, h5, -⟩ := h
  simp only [BitVec.add_assoc, ← BitVec.ofNat_add, Nat.reduceAdd] at h1 h2 h3 h4 h5
  exact Td.ext h0 h1 h2 h3 h4 h5

/-! ## Control transfers -/

/-- The packet of a request, by the fields of the USB specification. -/
@[ext]
structure Setup where
  bmRequestType : BitVec 8
  bRequest : BitVec 8
  wValue : BitVec 16
  wIndex : BitVec 16
  wLength : BitVec 16
deriving DecidableEq, Repr

/-- The bytes of the packet, with the first one low in its word. -/
def Setup.words (s : Setup) : List (BitVec 16) :=
  [s.bRequest ++ s.bmRequestType, s.wValue, s.wIndex, s.wLength]

/-- The packet at `a`. -/
def Setup.readAt (m : BitVec 16 → BitVec 16) (a : BitVec 16) : Setup where
  bmRequestType := (m a).extractLsb' 0 8
  bRequest := (m a).extractLsb' 8 8
  wValue := m (a + 2#16)
  wIndex := m (a + 4#16)
  wLength := m (a + 6#16)

/-- A packet is read where its words stand. -/
theorem Setup.readAt_eq {m : BitVec 16 → BitVec 16} {a : BitVec 16} {s : Setup}
    (h : Holds 2 m a s.words) : Setup.readAt m a = s := by
  obtain ⟨h0, h1, h2, h3, -⟩ := h
  simp only [BitVec.add_assoc, ← BitVec.ofNat_add, Nat.reduceAdd] at h1 h2 h3
  refine Setup.ext ?_ ?_ h1 h2 h3
  · rw [Setup.readAt, h0]
    ext k hk
    simp
    grind
  · rw [Setup.readAt, h0]
    ext k hk
    simp
    grind

/-- A place in the memory for a packet of the answer. -/
structure Buffer where
  base : BitVec 16
  length : BitVec 16
deriving DecidableEq, Repr

/-- A request to the device at `address`, and the buffers of its answer. -/
structure ControlTransfer where
  address : BitVec 8
  setup : Setup
  answer : List Buffer
deriving DecidableEq, Repr

namespace ControlTransfer

variable (t : ControlTransfer)

/-- The packet of the request, which stands at `base`. -/
def setupTransaction (base : BitVec 16) : Transaction where
  pid := Pid.setup.code
  endpoint := 0#4
  address := t.address
  toggle := false
  base := base
  length := 8#16

/-- A packet of the answer. -/
def dataTransaction (toggle : Bool) (buffer : Buffer) : Transaction where
  pid := Pid.input.code
  endpoint := 0#4
  address := t.address
  toggle := toggle
  base := buffer.base
  length := buffer.length

/-- The empty packet at the end, which goes against the answer. -/
def statusTransaction : Transaction where
  pid := if t.answer = [] then Pid.input.code else Pid.output.code
  endpoint := 0#4
  address := t.address
  toggle := true
  base := 0#16
  length := 0#16

/-- The answer and the empty packet.  The toggles of the answer alternate. -/
def answerTransactions (toggle : Bool) : List Buffer → List Transaction
  | [] => [t.statusTransaction]
  | buffer :: buffers =>
    t.dataTransaction toggle buffer :: answerTransactions (!toggle) buffers

/-- The transactions of a control transfer whose list is at `a`. -/
def transactions (a : BitVec 16) : List Transaction :=
  t.setupTransaction (a + 12#16) :: t.answerTransactions true t.answer

/-- Descriptors in a row from `a` on. -/
def row (a : BitVec 16) : List Transaction → List Td
  | [] => []
  | [t] => [t.td 0#16]
  | t :: ts => t.td (a + 12#16) :: row (a + 12#16) ts

/-- The first descriptor, which points past the packet. -/
def setupTd (a : BitVec 16) : Td := (t.setupTransaction (a + 12#16)).td (a + 20#16)

/-- The words of the source, at `a`. -/
def words (a : BitVec 16) : List (BitVec 16) :=
  (t.setupTd a).words ++ t.setup.words ++
    (row (a + 20#16) (t.answerTransactions true t.answer)).flatMap Td.words

/-- The descriptors of the list at `a`. -/
def tds (a : BitVec 16) : List Td :=
  t.setupTd a :: row (a + 20#16) (t.answerTransactions true t.answer)

/-- Where they stand: at `a`, and where all but the last of them point to. -/
def places (a : BitVec 16) : List (BitVec 16) := (a :: (t.tds a).map Td.next).dropLast

/-- A word that the chip leaves as it is: it is in no buffer of the answer, and no control
or retry word of a descriptor. -/
def Fixed (a b : BitVec 16) : Prop :=
  (∀ buffer ∈ t.answer,
    b.toNat < buffer.base.toNat ∨ buffer.base.toNat + buffer.length.toNat ≤ b.toNat) ∧
  ∀ c ∈ t.places a, b ≠ c + 6#16 ∧ b ≠ c + 8#16

instance (a b : BitVec 16) : Decidable (t.Fixed a b) := inferInstanceAs (Decidable (_ ∧ _))

end ControlTransfer

/-- What a request asks for. -/
def Request.transfer : Request → ControlTransfer
  | .setAddress => ⟨0, ⟨0x00, 0x05, 2, 0, 0⟩, []⟩
  | .getDeviceDesc1 => ⟨2, ⟨0x80, 0x06, 0x0100, 0, 8⟩, [⟨0x052C, 8⟩]⟩
  | .getDeviceDesc2 => ⟨2, ⟨0x80, 0x06, 0x0100, 0, 18⟩, [⟨0x0544, 8⟩, ⟨0x054C, 8⟩, ⟨0x0554, 2⟩]⟩
  | .getConfigDesc1 => ⟨2, ⟨0x80, 0x06, 0x0200, 0, 9⟩, [⟨0x0544, 8⟩, ⟨0x054C, 1⟩]⟩
  | .getConfigDesc2 => ⟨2, ⟨0x80, 0x06, 0x0200, 0, 255⟩,
      [⟨0x055C, 8⟩, ⟨0x0564, 8⟩, ⟨0x056C, 8⟩, ⟨0x0574, 8⟩, ⟨0x057C, 2⟩]⟩
  | .setConfig => ⟨2, ⟨0x00, 0x09, 1, 0, 0⟩, []⟩
  | .classRequest => ⟨2, ⟨0x21, 0x0A, 0, 0, 0⟩, []⟩
  | .getHidDesc => ⟨2, ⟨0x81, 0x06, 0x2100, 0, 123⟩, [⟨0x0544, 8⟩]⟩
  | .getReportDesc => ⟨2, ⟨0x81, 0x06, 0x2200, 0, 123⟩,
      [⟨0x0580, 8⟩, ⟨0x0588, 8⟩, ⟨0x0590, 8⟩, ⟨0x0598, 8⟩, ⟨0x05A0, 8⟩, ⟨0x05A8, 8⟩,
        ⟨0x05B0, 8⟩, ⟨0x05B8, 3⟩]⟩

/-- Every function writes its request. -/
theorem Request.calls_eq (q : Request) : q.calls = submit (q.transfer.words 0x0500#16) := by
  cases q <;> rfl

/-! ## What the chip finds -/

section find
variable {m : BitVec 16 → BitVec 16} {a : BitVec 16}

/-- An address above 0 does not end a list. -/
theorem ne_zero_of_pos {a : BitVec 16} (ha : 0 < a.toNat) : a ≠ 0#16 := by
  rintro rfl
  exact absurd ha (by decide)

/-- Descriptors in a row are linked. -/
theorem ControlTransfer.linked_row {t : Transaction} {ts : List Transaction} (ha : 0 < a.toNat)
    (hfit : a.toNat + 12 * (ts.length + 1) ≤ 2 ^ 16)
    (h : Holds 2 m a ((row a (t :: ts)).flatMap Td.words)) :
    Linked (Td.readAt m) Td.next 0#16 a (row a (t :: ts)) := by
  induction ts generalizing a t with
  | nil =>
      rw [row, List.flatMap_singleton] at h
      rw [row, ← Td.readAt_eq h]
      refine .cons (ne_zero_of_pos ha) ?_
      rw [Td.readAt_eq h]
      exact .nil
  | cons t' ts ih =>
      rw [List.length_cons] at hfit
      have hnext : (a + 12#16).toNat = a.toNat + 12 := toNat_next (d := 12) (by omega)
      have hrow : row a (t :: t' :: ts) = t.td (a + 12#16) :: row (a + 12#16) (t' :: ts) := rfl
      rw [hrow, List.flatMap_cons, holds_append] at h
      have htail := ih (a := a + 12#16) (t := t') (by omega) (by omega) h.2
      rw [hrow, ← Td.readAt_eq h.1]
      refine .cons (ne_zero_of_pos ha) ?_
      rw [Td.readAt_eq h.1]
      exact htail

/-- The transactions of a row. -/
theorem ControlTransfer.row_transactions (a : BitVec 16) (ts : List Transaction) :
    (row a ts).map Td.transaction = ts := by
  induction ts generalizing a with
  | nil => rfl
  | cons t ts ih =>
      cases ts with
      | nil => simp [row]
      | cons t' ts => simp [row, ih]

theorem ControlTransfer.row_length (a : BitVec 16) (ts : List Transaction) :
    (row a ts).length = ts.length := by
  rw [← List.length_map (f := Td.transaction), row_transactions]

theorem ControlTransfer.answerTransactions_length (t : ControlTransfer) (toggle : Bool)
    (buffers : List Buffer) :
    (t.answerTransactions toggle buffers).length = buffers.length + 1 := by
  induction buffers generalizing toggle with
  | nil => rfl
  | cons buffer buffers ih => rw [answerTransactions, List.length_cons, ih, List.length_cons]

/-- The descriptors of a transfer are linked where its words stand. -/
theorem ControlTransfer.linked_tds (t : ControlTransfer) (ha : 0 < a.toNat)
    (hfit : a.toNat + 20 + 12 * (t.answer.length + 1) ≤ 2 ^ 16) (h : Holds 2 m a (t.words a)) :
    Linked (Td.readAt m) Td.next 0#16 a (t.tds a) := by
  rw [words, holds_append, holds_append] at h
  obtain ⟨⟨hfirst, -⟩, hrest⟩ := h
  have hread := Td.readAt_eq hfirst
  have hnext : (a + 20#16).toNat = a.toNat + 20 := toNat_next (d := 20) (by omega)
  have hlinked : Linked (Td.readAt m) Td.next 0#16 (a + 20#16)
      (row (a + 20#16) (t.answerTransactions true t.answer)) := by
    have hlength := t.answerTransactions_length true t.answer
    obtain ⟨u, us, hus⟩ := List.exists_cons_of_length_eq_add_one hlength
    rw [hus, List.length_cons] at hlength
    rw [hus] at hrest ⊢
    exact linked_row (by omega) (by omega) hrest
  rw [tds, ← hread]
  refine .cons (ne_zero_of_pos ha) ?_
  rw [hread]
  exact hlinked

theorem ControlTransfer.tds_length (t : ControlTransfer) (a : BitVec 16) :
    (t.tds a).length = t.answer.length + 2 := by
  rw [tds, List.length_cons, row_length, answerTransactions_length]

theorem ControlTransfer.tds_transactions (t : ControlTransfer) (a : BitVec 16) :
    (t.tds a).map Td.transaction = t.transactions a := by
  rw [tds, List.map_cons, row_transactions, setupTd, Transaction.transaction_td]
  rfl

/-- The descriptors of a row stand twelve bytes apart. -/
theorem ControlTransfer.mem_row {c : BitVec 16} {u : Transaction} {us : List Transaction}
    (hfit : a.toNat + 12 * (us.length + 1) ≤ 2 ^ 16)
    (h : c ∈ (a :: (row a (u :: us)).map Td.next).dropLast) :
    ∃ k, k ≤ us.length ∧ c.toNat = a.toNat + 12 * k := by
  induction us generalizing a u with
  | nil =>
      obtain rfl : c = a := List.mem_singleton.mp h
      exact ⟨0, le_rfl, rfl⟩
  | cons u' us ih =>
      rw [List.length_cons] at hfit ⊢
      have hnext : (a + 12#16).toNat = a.toNat + 12 := toNat_next (d := 12) (by omega)
      have hrow : (a :: (row a (u :: u' :: us)).map Td.next).dropLast =
          a :: ((a + 12#16) :: (row (a + 12#16) (u' :: us)).map Td.next).dropLast := rfl
      rw [hrow] at h
      rcases List.mem_cons.mp h with rfl | h
      · exact ⟨0, Nat.zero_le _, rfl⟩
      · obtain ⟨k, hk, hc⟩ := ih (by omega) h
        exact ⟨k + 1, by omega, by omega⟩

theorem ControlTransfer.mem_places (t : ControlTransfer) {c : BitVec 16}
    (hfit : a.toNat + 20 + 12 * (t.answer.length + 1) ≤ 2 ^ 16) (h : c ∈ t.places a) :
    c = a ∨ ∃ k, k ≤ t.answer.length ∧ c.toNat = a.toNat + 20 + 12 * k := by
  have hnext : (a + 20#16).toNat = a.toNat + 20 := toNat_next (d := 20) (by omega)
  have hlength := t.answerTransactions_length true t.answer
  obtain ⟨u, us, hus⟩ := List.exists_cons_of_length_eq_add_one hlength
  rw [hus, List.length_cons] at hlength
  have hplaces : t.places a =
      a :: ((a + 20#16) :: (row (a + 20#16) (u :: us)).map Td.next).dropLast := by
    rw [places, tds, hus]
    rfl
  rw [hplaces] at h
  rcases List.mem_cons.mp h with rfl | h
  · exact .inl rfl
  · obtain ⟨k, hk, hc⟩ := mem_row (by omega) h
    exact .inr ⟨k, by omega, by omega⟩

/-- The packet of a transfer is read where its words stand. -/
theorem ControlTransfer.setup_words (t : ControlTransfer) (h : Holds 2 m a (t.words a)) :
    Setup.readAt m (a + 12#16) = t.setup := by
  rw [words, holds_append, holds_append] at h
  exact Setup.readAt_eq h.1.2

/-- The status of a descriptor and its retry word do not change what it asks for. -/
theorem Td.readAt_congr {m' : BitVec 16 → BitVec 16}
    (h : ∀ b ∈ [a, a + 2#16, a + 4#16, a + 10#16], m' b = m b)
    (hcontrol : (m' (a + 6#16)).setWidth 8 = (m (a + 6#16)).setWidth 8) :
    (Td.readAt m' a).next = (Td.readAt m a).next ∧
      (Td.readAt m' a).transaction = (Td.readAt m a).transaction := by
  have htoggle : (m' (a + 6#16)).getLsbD 6 = (m (a + 6#16)).getLsbD 6 := by
    have hbit := congrArg (fun x : BitVec 8 => x.getLsbD 6) hcontrol
    simpa only [BitVec.getLsbD_setWidth, show (6 < 8) = True from by decide, decide_true,
      Bool.true_and] using hbit
  simp only [List.mem_cons, List.not_mem_nil, or_false, forall_eq_or_imp, forall_eq] at h
  obtain ⟨hbase, hlength, hpid, hnext⟩ := h
  refine ⟨hnext, ?_⟩
  simp only [Td.transaction, Td.readAt, hbase, hlength, hpid, htoggle]

end find

/-- A list of words submitted. -/
theorem EzOtg.calls_submit (p : EzOtg) (ws : List (BitVec 16)) :
    (p.calls (submit ws)).memory =
      Function.update (fill 2 0x0500#16 ws p.memory) husbSie1PCurrentTDPtr 0x0500#16 := by
  have hstores : (ws.map (IoCall.write hpiData)).foldl IoCall.onChip (p.point 0x0500#16) =
      ws.foldl (Port.store 2) (p.point 0x0500#16) := by
    rw [List.foldl_map]
    rfl
  show (((ws.map (IoCall.write hpiData) ++ usbWrite _ _).foldl IoCall.onChip
    (p.point 0x0500#16))).memory = _
  rw [List.foldl_append, hstores, Port.foldl_store]
  rfl

/-- The words of a list submitted stand at `0x0500`, with the pointer to them. -/
theorem EzOtg.holds_submit (p : EzOtg) {ws : List (BitVec 16)} (hws : ws.length ≤ 1024) :
    Holds 2 (p.calls (submit ws)).memory 0x0500#16 ws ∧
      (p.calls (submit ws)).memory husbSie1PCurrentTDPtr = 0x0500#16 := by
  have hbase : (0x0500#16).toNat = 1280 := rfl
  have hfill : Holds 2 (fill 2 0x0500#16 ws p.memory) 0x0500#16 ws :=
    holds_fill (by omega) (by decide)
  rw [EzOtg.calls_submit, Function.update_self]
  refine ⟨hfill.congr (by decide) (by omega) fun b hb _ => ?_, rfl⟩
  refine Function.update_of_ne ?_ _ _
  rintro rfl
  exact absurd hb (by decide)

/-- The buffers of an answer are behind the list. -/
theorem Request.buffers_behind (q : Request) (buffer : Buffer) (h : buffer ∈ q.transfer.answer) :
    1300 + 12 * (q.transfer.answer.length + 1) ≤ buffer.base.toNat := by
  revert buffer
  cases q <;> decide

theorem Request.answer_length (q : Request) : q.transfer.answer.length ≤ 8 := by
  cases q <;> decide

section fixed
variable {q : Request} {b c : BitVec 16}

/-- Before the buffers the chip writes the control and retry words only. -/
theorem Request.fixed_of_ne (hb : b.toNat < 1300 + 12 * (q.transfer.answer.length + 1))
    (hne : ∀ k, b.toNat ≠ 1306 + 12 * k ∧ b.toNat ≠ 1308 + 12 * k)
    (hfirst : b.toNat ≠ 1286 ∧ b.toNat ≠ 1288) : q.transfer.Fixed 0x0500#16 b := by
  have hlength := q.answer_length
  have hbase : (0x0500#16).toNat = 1280 := rfl
  refine ⟨fun buffer hbuffer => .inl (hb.trans_le (q.buffers_behind buffer hbuffer)),
    fun c hc => ?_⟩
  rcases q.transfer.mem_places (by omega) hc with rfl | ⟨k, hk, hc⟩
  · exact ⟨fun h => hfirst.1 (by rw [h]; rfl), fun h => hfirst.2 (by rw [h]; rfl)⟩
  · have hcontrol : (c + 6#16).toNat = c.toNat + 6 := toNat_next (d := 6) (by omega)
    have hretry : (c + 8#16).toNat = c.toNat + 8 := toNat_next (d := 8) (by omega)
    exact ⟨fun h => (hne k).1 (by rw [h]; omega), fun h => (hne k).2 (by rw [h]; omega)⟩

/-- So the other words of a descriptor are left as they are. -/
theorem Request.fixed_td (hc : c ∈ q.transfer.places 0x0500#16)
    (hb : b ∈ [c, c + 2#16, c + 4#16, c + 10#16]) : q.transfer.Fixed 0x0500#16 b := by
  have hlength := q.answer_length
  have hbase : (0x0500#16).toNat = 1280 := rfl
  have hplace := q.transfer.mem_places (by omega) hc
  obtain ⟨d, hd, hbd⟩ : ∃ d, (d = 0 ∨ d = 2 ∨ d = 4 ∨ d = 10) ∧ b.toNat = c.toNat + d := by
    have hoff : ∀ d, d ≤ 10 → (c + BitVec.ofNat 16 d).toNat = c.toNat + d := fun d hd =>
      toNat_next (by rcases hplace with rfl | ⟨k, hk, hk'⟩ <;> omega)
    simp only [List.mem_cons, List.not_mem_nil, or_false] at hb
    rcases hb with rfl | rfl | rfl | rfl
    · exact ⟨0, .inl rfl, rfl⟩
    · exact ⟨2, .inr (.inl rfl), hoff 2 (by decide)⟩
    · exact ⟨4, .inr (.inr (.inl rfl)), hoff 4 (by decide)⟩
    · exact ⟨10, .inr (.inr (.inr rfl)), hoff 10 le_rfl⟩
  rcases hplace with rfl | ⟨k, hk, hk'⟩
  · exact Request.fixed_of_ne (by omega) (fun _ => by omega) (by omega)
  · exact Request.fixed_of_ne (by omega) (fun _ => by omega) (by omega)

end fixed

/-- A chip carries a request out while it writes what is its own: the answer, the status
of the descriptors and their retry words.  It follows the pointers to the setup packet, the
packets of the answer with alternating toggles, and the empty packet, and sends the packet
of the request. -/
theorem Request.carriedOut (q : Request) (p : EzOtg) (m : BitVec 16 → BitVec 16) (n : ℕ)
    (hm : ∀ b, q.transfer.Fixed 0x0500#16 b → m b = (p.calls q.calls).memory b)
    (hcontrol : ∀ c ∈ q.transfer.places 0x0500#16,
      (m (c + 6#16)).setWidth 8 = ((p.calls q.calls).memory (c + 6#16)).setWidth 8)
    (hn : 10 ≤ n) :
    (walk (Td.readAt m) Td.next 0#16 n (m husbSie1PCurrentTDPtr)).map Td.transaction =
        q.transfer.transactions 0x0500#16 ∧
      Setup.readAt m 0x050C#16 = q.transfer.setup := by
  have hwords : (q.transfer.words 0x0500#16).length ≤ 1024 := by cases q <;> decide
  have hshort := q.answer_length
  have hbase : (0x0500#16).toNat = 1280 := rfl
  rw [Request.calls_eq] at hm hcontrol
  obtain ⟨hholds, hptr⟩ := EzOtg.holds_submit p hwords
  have hlinked := q.transfer.linked_tds (by decide) (by omega) hholds
  have hlength := q.transfer.tds_length 0x0500#16
  have hsetup := q.transfer.setup_words hholds
  generalize (p.calls (submit (q.transfer.words 0x0500#16))).memory = m₀ at *
  constructor
  · have hptr' : husbSie1PCurrentTDPtr.toNat = 432 := rfl
    have hpointer : q.transfer.Fixed 0x0500#16 husbSie1PCurrentTDPtr :=
      Request.fixed_of_ne (by omega) (fun _ => by omega) (by omega)
    rw [hm _ hpointer, hptr, ← q.transfer.tds_transactions]
    exact hlinked.walk_map (by omega) fun c hc =>
      Td.readAt_congr (fun b hb => hm b (Request.fixed_td hc hb)) (hcontrol c hc)
  · have hpacket : ∀ b ∈ [0x050C#16, 0x050E#16, 0x0510#16, 0x0512#16], m b = m₀ b := by
      intro b hb
      have hspan : 1292 ≤ b.toNat ∧ b.toNat < 1300 := by
        simp only [List.mem_cons, List.not_mem_nil, or_false] at hb
        rcases hb with rfl | rfl | rfl | rfl <;> decide
      exact hm b (Request.fixed_of_ne (by omega) (fun _ => by omega) (by omega))
    rw [← hsetup]
    simp only [List.mem_cons, List.not_mem_nil, or_false, forall_eq_or_imp, forall_eq] at hpacket
    obtain ⟨h0, h1, h2, h3⟩ := hpacket
    exact Setup.ext (congrArg (BitVec.extractLsb' 0 8) h0) (congrArg (BitVec.extractLsb' 8 8) h0)
      h1 h2 h3

/-- The memory `m` when the chip has carried a transfer out: there is a status in the
descriptors, there are no retries left to make, and the buffers are filled with `x`. -/
def ControlTransfer.done (t : ControlTransfer) (a x : BitVec 16) (m : BitVec 16 → BitVec 16)
    (b : BitVec 16) : BitVec 16 :=
  if b ∈ (t.places a).map (· + 6#16) then m b ||| 0x0100#16
  else if b ∈ (t.places a).map (· + 8#16) then 0x0003#16
  else if ∃ buffer ∈ t.answer,
    buffer.base.toNat ≤ b.toNat ∧ b.toNat < buffer.base.toNat + buffer.length.toNat then x
  else m b

section done
variable {t : ControlTransfer} {a b x : BitVec 16} {m : BitVec 16 → BitVec 16}

theorem ControlTransfer.done_fixed (h : t.Fixed a b) : t.done a x m b = m b := by
  have hcontrol : b ∉ (t.places a).map (· + 6#16) := fun hb => by
    obtain ⟨c, hc, rfl⟩ := List.mem_map.mp hb
    exact (h.2 c hc).1 rfl
  have hretry : b ∉ (t.places a).map (· + 8#16) := fun hb => by
    obtain ⟨c, hc, rfl⟩ := List.mem_map.mp hb
    exact (h.2 c hc).2 rfl
  have hanswer : ¬ ∃ buffer ∈ t.answer,
      buffer.base.toNat ≤ b.toNat ∧ b.toNat < buffer.base.toNat + buffer.length.toNat := by
    rintro ⟨buffer, hbuffer, hb⟩
    have hout := h.1 buffer hbuffer
    omega
  rw [done, if_neg hcontrol, if_neg hretry, if_neg hanswer]

theorem ControlTransfer.done_control {c : BitVec 16} (hc : c ∈ t.places a) :
    (t.done a x m (c + 6#16)).setWidth 8 = (m (c + 6#16)).setWidth 8 := by
  rw [done, if_pos (List.mem_map_of_mem hc), BitVec.setWidth_or]
  exact BitVec.or_zero

end done

/-- `UsbGetConfigDesc2` when the chip is done: the status and retry words and the answer have
been written, and the list is still the one of the request. -/
theorem Request.carriedOut_getConfigDesc2 :
    let m := Request.getConfigDesc2.transfer.done 0x0500#16 0xBEEF#16
      (EzOtg.calls ⟨0#16, fun _ => 0#16⟩ usbGetConfigDesc2).memory
    m 0x0508#16 = 0x0003#16 ∧ m 0x055C#16 = 0xBEEF#16 ∧
      (walk (Td.readAt m) Td.next 0#16 10 (m husbSie1PCurrentTDPtr)).map Td.transaction =
        Request.getConfigDesc2.transfer.transactions 0x0500#16 ∧
      Setup.readAt m 0x050C#16 = Request.getConfigDesc2.transfer.setup :=
  ⟨by rfl, by rfl, Request.carriedOut .getConfigDesc2 ⟨0#16, fun _ => 0#16⟩ _ 10
    (fun _ hb => ControlTransfer.done_fixed hb)
    (fun _ hc => ControlTransfer.done_control hc) le_rfl⟩

end Undertale
