import Undertale.DriverOrder

/-!
# The driver and the memory of the chip

The driver writes to the chip through the port only: the registers it names, and the
lists of descriptors from `0x0500` up to `0x0580`.  All other words are the chip's
(`Main.memory_kept`).

The list that polls the keyboard has one descriptor.  Its data toggle follows the number
of keycodes stored since the power came on, and not since the keyboard was set up
(`Main.poll_toggles`).
-/

namespace Undertale

open Programs Words

/-! ## The words that are written -/

/-- The calls of the events. -/
def ioCalls (l : List Event) : List IoCall :=
  l.filterMap fun e => match e.1 with
    | .io call => some call
    | .keycode _ => none

/-- The registers that are written one by one. -/
def driverRegs : List (BitVec 16) :=
  [husbSie1PCurrentTDPtr, husbPEot, hpiIrqRoutingReg, hpiSie1MsgAdr, hpiSie2MsgAdr,
    host1IrqEnReg, host1StatReg, host2StatReg, commIntNum, commR0]

/-- The words that belong to the driver. -/
def DriverWord (b : BitVec 16) : Prop :=
  1280 ≤ b.toNat ∧ b.toNat < 1408 ∨ b ∈ driverRegs ++ commR1R13

instance (b : BitVec 16) : Decidable (DriverWord b) := inferInstanceAs (Decidable (_ ∨ _))

/-- The calls leave the word at `b` alone, wherever the port points. -/
def Spares (b : BitVec 16) (cs : List IoCall) : Prop :=
  ∀ p : EzOtg, (p.calls cs).memory b = p.memory b

/-- The addresses of the words that calls store, from a port that points at `address`. -/
def storedAt (address : BitVec 16) : List IoCall → List (BitVec 16)
  | [] => []
  | .init :: cs => storedAt address cs
  | .write port data :: cs =>
    if port = hpiAddr then storedAt data cs
    else if port = hpiData then address :: storedAt (address + 2#16) cs
    else storedAt address cs
  | .read port :: cs => storedAt (if port = hpiData then address + 2#16 else address) cs

/-- Calls leave the words alone that they do not store. -/
theorem EzOtg.calls_frame (p : EzOtg) {b : BitVec 16} {cs : List IoCall}
    (hb : b ∉ storedAt p.address cs) : (p.calls cs).memory b = p.memory b := by
  induction cs generalizing p with
  | nil => rfl
  | cons c cs ih =>
      show ((c.onChip p).calls cs).memory b = _
      cases c with
      | init => exact ih p hb
      | read port =>
          rw [storedAt] at hb
          rw [IoCall.onChip]
          split at hb
          · rw [if_pos ‹_›]
            exact ih (p.load 2) hb
          · rw [if_neg ‹_›]
            exact ih p hb
      | write port data =>
          rw [storedAt] at hb
          rw [IoCall.onChip]
          split at hb
          · rw [if_pos ‹_›]
            exact ih (p.point data) hb
          · rw [if_neg ‹_›]
            split at hb
            · rw [if_pos ‹_›, ih (p.store 2 data) (fun h => hb (List.mem_cons_of_mem _ h))]
              exact Function.update_of_ne (List.ne_of_not_mem_cons hb) _ _
            · rw [if_neg ‹_›]
              exact ih p hb

/-- Words stored one after the other. -/
theorem storedAt_words {a b : BitVec 16} {ws : List (BitVec 16)} {cs : List IoCall}
    (hfit : a.toNat + 2 * ws.length < 2 ^ 16)
    (h : b ∈ storedAt a (ws.map (IoCall.write hpiData) ++ cs)) :
    a.toNat ≤ b.toNat ∧ b.toNat < a.toNat + 2 * ws.length ∨
      b ∈ storedAt (a + BitVec.ofNat 16 (2 * ws.length)) cs := by
  induction ws generalizing a with
  | nil => exact .inr (by simpa using h)
  | cons w ws ih =>
      rw [List.length_cons] at hfit ⊢
      have hnext : (a + 2#16).toNat = a.toNat + 2 := toNat_next (d := 2) (by omega)
      rcases List.mem_cons.mp h with rfl | h
      · exact .inl ⟨le_rfl, by omega⟩
      · rcases ih (a := a + 2#16) (by omega) h with h | h
        · exact .inl (by omega)
        · rw [BitVec.add_assoc, ← BitVec.ofNat_add, Nat.add_comm 2, ← Nat.mul_succ] at h
          exact .inr h

/-- A list submitted is stored in the area of the driver. -/
theorem storedAt_submit {a : BitVec 16} {ws : List (BitVec 16)} (hws : ws.length ≤ 64) :
    ∀ b ∈ storedAt a (submit ws), DriverWord b := by
  intro b hb
  have hbase : (0x0500#16).toNat = 1280 := rfl
  rcases storedAt_words (a := 0x0500#16) (by omega) hb with h | h
  · exact .inl (by omega)
  · obtain rfl : b = husbSie1PCurrentTDPtr := List.mem_singleton.mp h
    exact .inr List.mem_cons_self

/-- A list of addresses is checked by evaluation. -/
theorem driverWord_all {l : List (BitVec 16)} (h : l.all (fun b => decide (DriverWord b)) = true) :
    ∀ b ∈ l, DriverWord b := fun b hb => of_decide_eq_true (List.all_eq_true.mp h b hb)

/-- The calls of every block store words of the driver only, and name an address before
they store. -/
theorem Main.storedAt_driver (s : Main) (address : BitVec 16) :
    ∀ a ∈ storedAt address s.calls, DriverWord a := by
  obtain ⟨pc, usbCtlVal, keycode, toggle, dataSize, hotPlugCount⟩ := s
  cases pc with
  | submit q =>
      have hshort : (q.transfer.words 0x0500#16).length ≤ 64 := by cases q <;> decide
      show ∀ a ∈ storedAt address q.calls, _
      rw [q.calls_eq]
      exact storedAt_submit hshort
  | keySubmit => exact storedAt_submit (show 6 ≤ 64 by decide)
  | _ => exact driverWord_all rfl

theorem Main.spares {b : BitVec 16} (hb : ¬ DriverWord b) (s : Main) : Spares b s.calls :=
  fun p => p.calls_frame fun h => hb (s.storedAt_driver p.address b h)

/-- The events of a block make its calls. -/
theorem Main.ioCalls_events (f : ℕ → BitVec 16) (s : Main) :
    ioCalls (driver.events f s) = s.calls := by
  have hcalls : ∀ (cs : List IoCall) (f : ℕ → BitVec 16),
      ioCalls (events (cs.map Action.io) f) = cs := by
    intro cs
    induction cs with
    | nil => exact fun _ => rfl
    | cons c cs ih => exact fun f => congrArg (c :: ·) (ih _)
  obtain ⟨pc, usbCtlVal, keycode, toggle, dataSize, hotPlugCount⟩ := s
  cases pc <;> exact hcalls _ _

/-- Whatever the chip answers, the driver leaves every word but its own as it was. -/
theorem Main.memory_kept (i : ℕ → ℕ → BitVec 16) (s : Main) (p : EzOtg) (n : ℕ) (b : BitVec 16)
    (hb : ¬ DriverWord b) : (p.calls (ioCalls (driver.trace i s n))).memory b = p.memory b := by
  induction n with
  | zero => rfl
  | succ n ih =>
      have hsplit : ioCalls (driver.trace i s (n + 1)) =
          ioCalls (driver.trace i s n) ++ (driver.run i s n).calls := by
        rw [← Main.ioCalls_events (i n)]
        exact List.filterMap_append
      rw [hsplit, EzOtg.calls, List.foldl_append]
      exact (Main.spares hb _ _).trans ih

/-- The word behind the lists, when the keyboard has been set up and a key stored. -/
theorem Main.memory_kept_typing :
    (EzOtg.calls ⟨0#16, fun _ => 0x1234#16⟩
      (ioCalls (driver.trace typing (Main.initial 0#16 0#8 0#8) 50))).memory 0x0580#16 =
      0x1234#16 :=
  Main.memory_kept typing _ ⟨0#16, fun _ => 0x1234#16⟩ 50 0x0580#16 (by decide)

/-! ## The toggle of the polls -/

/-- The keycodes stored in a trace. -/
def stores (l : List Event) : ℕ :=
  l.countP fun e => match e.1 with
    | .keycode _ => true
    | .io _ => false

/-- The loop has gone on to its next toggle, and has not stored the keycode yet. -/
def MainPc.Polls (pc : MainPc) : Prop :=
  pc = .keySubmit ∨ pc = .keyPoll ∨ pc = .keyWait ∨ pc = .keyRead ∨ pc = .keyStore

instance (pc : MainPc) : Decidable pc.Polls := inferInstanceAs (Decidable (_ ∨ _))

/-- Only the calls after a read store a keycode, and they store one. -/
theorem Main.stores_events (f : ℕ → BitVec 16) (s : Main) :
    stores (driver.events f s) = if s.pc = .keyStore then 1 else 0 := by
  have hcalls : ∀ (cs : List IoCall) (f : ℕ → BitVec 16),
      stores (events (cs.map Action.io) f) = 0 := by
    intro cs
    induction cs with
    | nil => exact fun _ => rfl
    | cons c cs ih => exact fun f => ih _
  obtain ⟨pc, usbCtlVal, keycode, toggle, dataSize, hotPlugCount⟩ := s
  cases pc with
  | keyStore => rfl
  | _ => exact hcalls _ _

/-- The toggle counts the keycodes. -/
def Main.Toggles (s : Main) (l : List Event) : Prop :=
  s.toggle = BitVec.ofNat 8 (stores l + if s.pc.Polls then 1 else 0)

/-- The place after a request is no poll. -/
theorem Request.after_not_polls (q : Request) : ¬ q.after.Polls := by
  cases q <;> simp [Request.after, MainPc.Polls]

/-- The other blocks neither change the toggle nor begin or end a poll. -/
theorem Main.next_toggle (v : BitVec 16) {s : Main} (hloop : s.pc ≠ .keyLoop)
    (hstore : s.pc ≠ .keyStore) :
    (s.next v).toggle = s.toggle ∧ ((s.next v).pc.Polls ↔ s.pc.Polls) := by
  obtain ⟨pc, usbCtlVal, keycode, toggle, dataSize, hotPlugCount⟩ := s
  cases pc with
  | keyLoop => exact absurd rfl hloop
  | keyStore => exact absurd rfl hstore
  | control q =>
      refine ⟨rfl, iff_of_false ?_ (by simp [MainPc.Polls])⟩
      show ¬ MainPc.Polls (if _ then _ else _)
      split
      · simp [MainPc.Polls]
      · exact q.after_not_polls
  | retryRead q =>
      refine ⟨rfl, iff_of_false ?_ (by simp [MainPc.Polls])⟩
      show ¬ MainPc.Polls (if _ then _ else if _ then _ else _)
      split
      · simp [MainPc.Polls]
      · split
        · simp [MainPc.Polls]
        · exact q.after_not_polls
  | start | hotPlug | sie1Error | husbReset | resetError | submit | retryClear | deviceInfo
  | keySubmit | keyRead => simp [Main.next, MainPc.Polls]
  | _ =>
      simp only [Main.next]
      split_ifs <;> simp [MainPc.Polls]

theorem Main.Toggles.step {s : Main} {l : List Event} {f : ℕ → BitVec 16} (h : s.Toggles l) :
    (driver.step f s).Toggles (l ++ driver.events f s) := by
  have hstores : stores (l ++ driver.events f s) =
      stores l + if s.pc = .keyStore then 1 else 0 := by
    rw [← Main.stores_events f]
    exact List.countP_append
  rw [Main.Toggles] at h ⊢
  rw [hstores]
  rcases eq_or_ne s.pc .keyLoop with hloop | hloop
  · obtain ⟨pc, usbCtlVal, keycode, toggle, dataSize, hotPlugCount⟩ := s
    obtain rfl : pc = .keyLoop := hloop
    show toggle + 1#8 = BitVec.ofNat 8 (stores l + 0 + 1)
    rw [show toggle = BitVec.ofNat 8 (stores l + 0) from h, BitVec.ofNat_add (stores l + 0) 1]
  · rcases eq_or_ne s.pc .keyStore with hstore | hstore
    · obtain ⟨pc, usbCtlVal, keycode, toggle, dataSize, hotPlugCount⟩ := s
      obtain rfl : pc = .keyStore := hstore
      have htoggle : toggle = BitVec.ofNat 8 (stores l + 1) := h
      show (if _ then _ else _ : Main).toggle =
        BitVec.ofNat 8 (stores l + 1 + if MainPc.Polls (if _ then _ else _ : Main).pc then 1 else 0)
      split <;> exact htoggle
    · obtain ⟨htoggle, hpolls⟩ := Main.next_toggle
        (lastRead driver.reads (driver.events f s) (f 0)) hloop hstore
      rw [if_neg hstore, Nat.add_zero]
      refine htoggle.trans (h.trans ?_)
      congr 2
      exact (if_congr hpolls rfl rfl).symm

/-- Whatever the chip answers, the list that polls the keyboard is one packet from endpoint 1
of device 2, and its toggle is the parity of the keycodes stored so far. -/
theorem Main.poll_toggles (i : ℕ → ℕ → BitVec 16) (usbCtlVal : BitVec 16)
    (dataSize hotPlugCount : BitVec 8) (n k : ℕ) (p : EzOtg)
    (hpc : (driver.run i (Main.initial usbCtlVal dataSize hotPlugCount) n).pc = .keySubmit)
    (hk : 1 ≤ k) :
    (walk (Td.readAt (p.calls
        (driver.run i (Main.initial usbCtlVal dataSize hotPlugCount) n).calls).memory)
        Td.next 0#16 k
        ((p.calls (driver.run i (Main.initial usbCtlVal dataSize hotPlugCount) n).calls).memory
          husbSie1PCurrentTDPtr)).map Td.transaction =
      [{ pid := Pid.input.code
         endpoint := 1#4
         address := 2#8
         toggle := stores (driver.trace i (Main.initial usbCtlVal dataSize hotPlugCount) n) % 2 == 1
         base := 0x051c#16
         length := 0x000f#16 &&& (driver.run i (Main.initial usbCtlVal dataSize hotPlugCount)
           n).dataSize.setWidth 16 }] := by
  have htoggles := Blocks.invariant (b := driver) (i := i) (P := Main.Toggles)
    (s := Main.initial usbCtlVal dataSize hotPlugCount) rfl (fun _ _ _ h => h.step) n
  generalize driver.trace i (Main.initial usbCtlVal dataSize hotPlugCount) n = l at *
  generalize driver.run i (Main.initial usbCtlVal dataSize hotPlugCount) n = s at *
  obtain ⟨pc, usbCtlVal', keycode, toggle, dataSize', hotPlugCount'⟩ := s
  obtain rfl : pc = .keySubmit := hpc
  have htoggle : toggle = BitVec.ofNat 8 (stores l + 1) := htoggles
  have hparity : toggle % 2#8 ≠ 0#8 ↔ ¬ stores l % 2 = 1 := by
    rw [not_iff_not, ← BitVec.toNat_inj, BitVec.toNat_umod, htoggle]
    simp only [BitVec.toNat_ofNat, Nat.reducePow, Nat.reduceMod]
    omega
  let poll : Transaction :=
    ⟨Pid.input.code, 1#4, 2#8, stores l % 2 == 1, 0x051c#16, 0x000f#16 &&& dataSize'.setWidth 16⟩
  have hwords : pollList toggle dataSize' =
      submit ((ControlTransfer.row 0x0500#16 [poll]).flatMap Td.words) := by
    have hcontrol : (if toggle % 2#8 ≠ 0#8 then 0x0001#16 else 0x0041#16) =
        (poll.td 0#16).control := by
      rw [Transaction.td]
      rcases Classical.em (stores l % 2 = 1) with hodd | heven
      · rw [if_neg (hparity.not.mpr (not_not.mpr hodd)), if_pos (beq_iff_eq.mpr hodd)]
      · rw [if_pos (hparity.mpr heven), if_neg fun h => heven (beq_iff_eq.mp h)]
    have hpid : (poll.td 0#16).pidAddress = 0x0291#16 := by
      show 2#8 ++ (Pid.input.code ++ 1#4 : BitVec 8) = 0x0291#16
      decide
    rw [pollList,
      show (if toggle % 2#8 ≠ 0#8 then 0x0001 else 0x0041 : BitVec 16) = _ from hcontrol]
    show _ = submit [_, _, (poll.td 0#16).pidAddress, (poll.td 0#16).control, _, _]
    rw [hpid]
    rfl
  show (walk (Td.readAt (p.calls (pollList toggle dataSize')).memory) Td.next 0#16 k
    ((p.calls (pollList toggle dataSize')).memory husbSie1PCurrentTDPtr)).map Td.transaction =
      [poll]
  rw [hwords]
  have hlen : ((ControlTransfer.row 0x0500#16 [poll]).flatMap Td.words).length ≤ 1024 :=
    show 6 ≤ 1024 by decide
  obtain ⟨hholds, hptr⟩ := EzOtg.holds_submit p hlen
  rw [hptr, walk_eq (ControlTransfer.linked_row (by decide) (by decide) hholds) hk,
    ControlTransfer.row_transactions]

/-- The first poll of the keyboard. -/
theorem Main.poll_toggles_typing :
    (walk (Td.readAt (EzOtg.calls ⟨0#16, fun _ => 0#16⟩
        (driver.run typing (Main.initial 0#16 0#8 0#8) 45).calls).memory) Td.next 0#16 1
        ((EzOtg.calls ⟨0#16, fun _ => 0#16⟩
          (driver.run typing (Main.initial 0#16 0#8 0#8) 45).calls).memory
          husbSie1PCurrentTDPtr)).map Td.transaction =
      [{ pid := Pid.input.code
         endpoint := 1#4
         address := 2#8
         toggle := stores (driver.trace typing (Main.initial 0#16 0#8 0#8) 45) % 2 == 1
         base := 0x051c#16
         length := 0x000f#16 &&& (driver.run typing (Main.initial 0#16 0#8 0#8)
           45).dataSize.setWidth 16 }] :=
  Main.poll_toggles typing 0#16 0#8 0#8 45 1 _ (by decide) le_rfl

end Undertale
