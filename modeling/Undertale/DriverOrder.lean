import Undertale.Driver

/-!
# The order of the requests

The driver stores a keycode only for a keyboard that it has set up.  Whatever the chip
answers, the trace up to the store has the nine requests in their order, each sent,
reported done and read back without retries, with no reset of the chip since.  After the
last of them, and after the keycode before, the keyboard has been polled and the poll been
reported done, and the keycode is the low byte of the word read last
(`Main.keycode_polled`).

What is known at a place of `main` is `Main.Knows`.  A request that is resent or retried
keeps what is known, because `After` asks for one time at which it was sent.
-/

namespace Undertale

open Programs Words

/-! ## What a trace says -/

/-- The events `l` are the calls `cs`. -/
def Calls (cs : List IoCall) (l : List Event) : Prop := l.map Prod.fst = cs.map .io

/-- The events `l` are a `UsbRead` of `v` at `a`. -/
def Reads (a v : BitVec 16) (l : List Event) : Prop :=
  ∃ x, l = [(.io (.write hpiAddr a), x), (.io (.read hpiData), v)]

/-- The request has been sent. -/
def Submitted (q : Request) : List Event → Prop := After (fun _ => True) (Calls q.calls)

/-- The chip has then reported its list done. -/
def Reported (q : Request) : List Event → Prop :=
  After (Submitted q) (Reads hpiSie1MsgAdr husbTDListDone)

/-- And its control byte has been read as `0x03`. -/
def Confirmed (q : Request) : List Event → Prop := After (Reported q) (Reads 0x0508#16 0x03#16)

/-- The reset of the chip by `UsbSoftReset`. -/
def IsReset (e : Event) : Prop := e.1 = .io (.write hpiMailbox commReset)

/-- The trace ends in a session in which the requests `past` have been confirmed in their
order, and `now` holds of what came after the last of them. -/
def Session (past : List Request) (now : List Event → Prop) (l : List Event) : Prop :=
  ∃ before parts rest, l = before ++ parts.flatten ++ rest ∧ List.Forall₂ Confirmed past parts ∧
    (∀ e ∈ parts.flatten ++ rest, ¬ IsReset e) ∧ now rest

/-- `now` holds of an end of the events without a keycode. -/
def SinceKeycode (now : List Event → Prop) (l : List Event) : Prop :=
  ∃ old new, l = old ++ new ∧ (∀ e ∈ new, ∀ v, e.1 ≠ .keycode v) ∧ now new

/-- The keyboard has been polled. -/
def Polled : List Event → Prop :=
  After (fun _ => True) fun l => ∃ toggle dataSize, Calls (pollList toggle dataSize) l

/-- The chip has then reported its list done. -/
def PollReported : List Event → Prop := After Polled (Reads hpiSie1MsgAdr husbTDListDone)

/-- And the last event reads `v` from the buffer. -/
def PollRead (v : BitVec 16) (l : List Event) : Prop :=
  ∃ before now, l = before ++ now ∧ PollReported before ∧ Reads 0x051e#16 v now

section Session
variable {past : List Request} {now now' : List Event → Prop} {l es : List Event}

theorem Session.start (h : now []) : Session [] now l :=
  ⟨l, [], [], by simp, .nil, by simp, h⟩

theorem Session.append (h : Session past now l) (hes : ∀ e ∈ es, ¬ IsReset e)
    (hnow : ∀ rest, now rest → now' (rest ++ es)) : Session past now' (l ++ es) := by
  obtain ⟨before, parts, rest, rfl, hparts, hreset, hrest⟩ := h
  refine ⟨before, parts, rest ++ es, by simp, hparts, fun e he => ?_, hnow rest hrest⟩
  rw [← List.append_assoc, List.mem_append] at he
  exact he.elim (hreset e) (hes e)

theorem Session.confirm {q : Request} (h : Session past (Confirmed q) l) (hnow : now []) :
    Session (past ++ [q]) now l := by
  obtain ⟨before, parts, rest, rfl, hparts, hreset, hrest⟩ := h
  refine ⟨before, parts ++ [rest], [], by simp, ?_, fun e he => hreset e ?_, hnow⟩
  · exact List.rel_append hparts (.cons hrest .nil)
  · simpa using he

theorem SinceKeycode.append (h : SinceKeycode now l) (hes : ∀ e ∈ es, ∀ v, e.1 ≠ .keycode v)
    (hnow : ∀ new, now new → now' (new ++ es)) : SinceKeycode now' (l ++ es) := by
  obtain ⟨old, new, rfl, hkeycode, hnew⟩ := h
  refine ⟨old, new ++ es, by simp, fun e he => ?_, hnow new hnew⟩
  rw [List.mem_append] at he
  exact he.elim (hkeycode e) (hes e)

end Session

/-! ## Blocks -/

/-- The requests in their order. -/
def Request.all : List Request :=
  [.setAddress, .getDeviceDesc1, .getDeviceDesc2, .getConfigDesc1, .getConfigDesc2, .setConfig,
    .classRequest, .getHidDesc, .getReportDesc]

/-- The requests before `q`. -/
def Request.before (q : Request) : List Request := Request.all.takeWhile (· ≠ q)

/-- What is known at a place of `main`. -/
def Main.Knows (s : Main) (l : List Event) : Prop :=
  match s.pc with
  | .submit q => Session q.before (fun _ => True) l
  | .poll q | .wait q => Session q.before (Submitted q) l
  | .control q | .retry q | .retryClear q | .retryPoll q | .retryRead q =>
    Session q.before (Reported q) l
  | .deviceInfo => Session Request.setConfig.before (fun _ => True) l
  | .keyLoop | .keySubmit | .unplugFor => Session Request.all (fun _ => True) l
  | .keyPoll | .keyWait => Session Request.all (SinceKeycode Polled) l
  | .keyRead => Session Request.all (SinceKeycode PollReported) l
  | .keyStore => Session Request.all (SinceKeycode (PollRead s.keycode)) l
  | _ => True

section blocks
variable {s : Main} {f : ℕ → BitVec 16} {l : List Event}

/-- A list submitted is no reset. -/
theorem submit_no_reset {ws : List (BitVec 16)} {c : IoCall} (hc : c ∈ submit ws) :
    c ≠ .write hpiMailbox commReset := by
  rintro rfl
  simp [submit, usbWrite, hpiMailbox, hpiAddr, hpiData] at hc

/-- Only the block of `USB_HOT_PLUG` resets the chip. -/
theorem Main.no_reset (h : s.pc ≠ .hotPlug) (e : Event) (he : e ∈ driver.events f s) :
    ¬ IsReset e := by
  have hcalls : IoCall.write hpiMailbox commReset ∉ s.calls := by
    obtain ⟨pc, usbCtlVal, keycode, toggle, dataSize, hotPlugCount⟩ := s
    cases pc with
    | hotPlug => exact absurd rfl h
    | submit q =>
        show _ ∉ q.calls
        rw [q.calls_eq]
        exact fun hc => submit_no_reset hc rfl
    | keySubmit => exact fun hc => submit_no_reset hc rfl
    | _ =>
        simp [Main.calls, husbReset, waitRound, readControl, deviceInfo, usbRead, usbWrite,
          commR1R13, hpiMailbox, hpiAddr, hpiData, commReset, commExecInt]
  have hactions : Action.io (.write hpiMailbox commReset) ∉ s.actions := by
    rw [Main.actions]
    split <;> simpa using hcalls
  intro hreset
  have hmem := List.mem_map_of_mem (f := Prod.fst) he
  rw [Blocks.events, map_fst_events, hreset] at hmem
  exact hactions hmem

/-- Only the block after the read stores a keycode. -/
theorem Main.no_keycode (h : s.pc ≠ .keyStore) (e : Event) (he : e ∈ driver.events f s)
    (v : BitVec 8) : e.1 ≠ .keycode v := by
  have hactions : s.actions = s.calls.map .io := by
    rw [Main.actions]
    split
    · exact absurd ‹_› h
    · rfl
  intro hkeycode
  have hmem := List.mem_map_of_mem (f := Prod.fst) he
  rw [Blocks.events, map_fst_events, hkeycode] at hmem
  rw [show driver.actions s = s.calls.map .io from hactions] at hmem
  simp at hmem

/-- A request confirmed leads to the next place. -/
theorem Main.knows_after {q : Request} (h : Session q.before (Confirmed q) l)
    (hpc : s.pc = q.after) : s.Knows l := by
  have hnext : Session (q.before ++ [q]) (fun _ => True) l := h.confirm trivial
  rw [Main.Knows, hpc]
  cases q <;> exact hnext

/-- A round of `UsbWaitTDListDone` that reads the message. -/
theorem after_waitRound {P : List Event → Prop} {rest : List Event} (h : P rest)
    (hdone : f 1 = husbTDListDone) :
    After P (Reads hpiSie1MsgAdr husbTDListDone) (rest ++ events (waitRound.map .io) f) :=
  ⟨rest, [(.io (.write hpiAddr hpiSie1MsgAdr), f 0), (.io (.read hpiData), f 1)],
    [(.io (.write hpiAddr hpiSie1MsgAdr), f 2), (.io (.write hpiData 0#16), f 3)],
    by rw [List.append_assoc]; rfl, h, f 0, by rw [hdone]⟩

/-- The control byte, read after the status byte. -/
theorem after_readControl {P : List Event → Prop} {rest : List Event}
    (h : ∀ es, P (rest ++ es)) (hok : f 3 = 0x03#16) :
    After P (Reads 0x0508#16 0x03#16) (rest ++ events (readControl.map .io) f) :=
  ⟨rest ++ [(.io (.write hpiAddr 0x0506#16), f 0), (.io (.read hpiData), f 1)],
    [(.io (.write hpiAddr 0x0508#16), f 2), (.io (.read hpiData), f 3)], [],
    by rw [List.append_nil, List.append_assoc]; rfl, h _, f 2, by rw [hok]⟩

/-- A word read at the end of a block. -/
theorem reads_usbRead (a : BitVec 16) : Reads a (f 1) (events ((usbRead a).map .io) f) :=
  ⟨f 0, rfl⟩

/-- Every block keeps what is known. -/
theorem Main.Knows.step (h : s.Knows l) :
    (driver.step f s).Knows (l ++ driver.events f s) := by
  have hno := Main.no_reset (s := s) (f := f)
  obtain ⟨pc, usbCtlVal, keycode, toggle, dataSize, hotPlugCount⟩ := s
  cases pc with
  | start => exact trivial
  | hotPlug => exact trivial
  | sie1Status =>
      show Main.Knows { pc := if _ then _ else _, .. } _
      split <;> exact trivial
  | sie1Ack =>
      show Main.Knows { pc := if _ then _ else _, .. } _
      split <;> exact trivial
  | sie1Error => exact trivial
  | husbReset => exact trivial
  | resetAck =>
      show Main.Knows { pc := if _ then _ else _, .. } _
      split <;> exact trivial
  | resetError => exact trivial
  | device =>
      show Main.Knows (if _ then _ else _) _
      split
      · exact trivial
      · exact Session.start trivial
  | plugFor =>
      show Main.Knows (if _ then _ else _) _
      split
      · show Main.Knows { pc := if _ then _ else _, .. } _
        split <;> exact trivial
      · exact Session.start trivial
  | plugWhile =>
      show Main.Knows { pc := if _ then _ else _, .. } _
      split <;> exact trivial
  | submit q =>
      refine Session.append h (hno (by simp)) fun rest _ => After.intro trivial ?_
      exact map_fst_events _ f
  | poll q =>
      show Main.Knows { pc := if _ then _ else _, .. } _
      split
      · exact Session.append h (hno (by simp)) fun rest hrest => hrest.append _
      · exact Session.append h (hno (by simp)) fun _ _ => trivial
  | wait q =>
      show Main.Knows { pc := if f 1 ≠ _ then _ else _, .. } _
      split
      · exact Session.append h (hno (by simp)) fun rest hrest => hrest.append _
      · next hdone =>
        exact Session.append h (hno (by simp)) fun rest hrest =>
          after_waitRound hrest (not_not.mp hdone)
  | control q =>
      show Main.Knows { pc := if f 3 ≠ _ then _ else _, .. } _
      split
      · exact Session.append h (hno (by simp)) fun rest hrest => hrest.append _
      · next hok =>
        refine Main.knows_after (q := q) ?_ rfl
        exact Session.append h (hno (by simp)) fun rest hrest =>
          after_readControl (fun es => hrest.append es) (not_not.mp hok)
  | retry q =>
      show Main.Knows { pc := if _ then _ else _, .. } _
      split <;> exact Session.append h (hno (by simp)) fun rest hrest => hrest.append _
  | retryClear q => exact Session.append h (hno (by simp)) fun rest hrest => hrest.append _
  | retryPoll q =>
      show Main.Knows { pc := if _ then _ else _, .. } _
      split <;> exact Session.append h (hno (by simp)) fun rest hrest => hrest.append _
  | retryRead q =>
      show Main.Knows { pc := if _ then _ else if f 1 ≠ _ then _ else _, .. } _
      split
      · exact trivial
      · split
        · exact Session.append h (hno (by simp)) fun rest hrest => hrest.append _
        · next hok =>
          have hread := reads_usbRead (f := f) 0x0508#16
          rw [not_not.mp hok] at hread
          refine Main.knows_after (q := q) ?_ rfl
          exact Session.append h (hno (by simp)) fun rest hrest => After.intro hrest hread
  | deviceInfo => exact Session.append h (hno (by simp)) fun _ _ => trivial
  | keyLoop => exact Session.append h (hno (by simp)) fun _ _ => trivial
  | keySubmit =>
      refine Session.append h (hno (by simp)) fun rest _ => ⟨rest, _, rfl, ?_, ?_⟩
      · exact Main.no_keycode (s := ⟨.keySubmit, _, _, _, _, _⟩) (by simp)
      · show After _ _ ([] ++ events ((pollList toggle dataSize).map Action.io) f)
        exact After.intro trivial ⟨toggle, dataSize, map_fst_events _ f⟩
  | keyPoll =>
      show Main.Knows { pc := if _ then _ else _, .. } _
      split
      · refine Session.append h (hno (by simp)) fun rest hrest => hrest.append ?_ fun new hnew => ?_
        · exact Main.no_keycode (s := ⟨.keyPoll, _, _, _, _, _⟩) (by simp)
        · exact hnew.append _
      · exact Session.append h (hno (by simp)) fun _ _ => trivial
  | keyWait =>
      show Main.Knows { pc := if f 1 ≠ _ then _ else _, .. } _
      have hnot := Main.no_keycode (f := f)
        (s := ⟨.keyWait, usbCtlVal, keycode, toggle, dataSize, hotPlugCount⟩) (by simp)
      split
      · exact Session.append h (hno (by simp)) fun rest hrest => hrest.append hnot fun new hnew =>
          hnew.append _
      · next hdone =>
        exact Session.append h (hno (by simp)) fun rest hrest => hrest.append hnot fun new hnew =>
          after_waitRound hnew (not_not.mp hdone)
  | keyRead =>
      refine Session.append h (hno (by simp)) fun rest hrest => hrest.append ?_ fun new hnew => ?_
      · exact Main.no_keycode (s := ⟨.keyRead, _, _, _, _, _⟩) (by simp)
      · exact ⟨new, _, rfl, hnew, reads_usbRead 0x051e#16⟩
  | keyStore =>
      show Main.Knows (if _ then _ else _) _
      split
      · exact Session.append h (hno (by simp)) fun _ _ => trivial
      · exact Session.append h (hno (by simp)) fun _ _ => trivial
  | unplugFor =>
      show Main.Knows (if _ then _ else _) _
      split
      · show Main.Knows { pc := if _ then _ else _, .. } _
        split
        · exact Session.append h (hno (by simp)) fun _ _ => trivial
        · exact trivial
      · exact Session.append h (hno (by simp)) fun _ _ => trivial
  | unplugWhile =>
      show Main.Knows { pc := if _ then _ else _, .. } _
      split <;> exact trivial

end blocks

/-! ## The order -/

/-- The chip may answer what it likes: when a keycode is stored, the requests have been
confirmed in their order since the chip was reset last, the keyboard has been polled since
the keycode before and the poll reported done, and the keycode is the low byte of the word
read then. -/
theorem Main.keycode_polled (i : ℕ → ℕ → BitVec 16) (usbCtlVal : BitVec 16)
    (dataSize hotPlugCount : BitVec 8) (n : ℕ) (h t : List Event) (v : BitVec 8) (x : BitVec 16)
    (htrace : driver.trace i (Main.initial usbCtlVal dataSize hotPlugCount) n =
      h ++ (.keycode v, x) :: t) :
    ∃ word : BitVec 16, v = word.setWidth 8 ∧
      Session Request.all (SinceKeycode (PollRead word)) h := by
  obtain ⟨k, l, l', -, rfl, hblock⟩ := Blocks.exists_block htrace
  have hknows := Blocks.invariant (b := driver) (i := i) (P := Main.Knows)
    (s := Main.initial usbCtlVal dataSize hotPlugCount) trivial (fun _ _ _ h => h.step) k
  generalize driver.run i (Main.initial usbCtlVal dataSize hotPlugCount) k = s at *
  have hpc : s.pc = .keyStore := by
    by_contra hpc
    refine Main.no_keycode (f := i k) hpc (.keycode v, x) ?_ v rfl
    rw [hblock]
    exact List.mem_append_right l List.mem_cons_self
  obtain ⟨pc, usbCtlVal', keycode, toggle, dataSize', hotPlugCount'⟩ := s
  obtain rfl : pc = .keyStore := hpc
  refine ⟨keycode, ?_⟩
  cases l with
  | nil =>
      have hfirst := (List.cons.inj hblock).1
      refine ⟨(Action.keycode.inj (congrArg Prod.fst hfirst)).symm, ?_⟩
      rw [List.append_nil]
      exact hknows
  | cons e l =>
      -- the two calls of the block are no stores
      have hmem : (Action.keycode v, x) ∈ l ++ (.keycode v, x) :: l' :=
        List.mem_append_right l List.mem_cons_self
      rw [← show _ = l ++ _ from (List.cons.inj hblock).2] at hmem
      have hcall := List.mem_map_of_mem (f := Prod.fst) hmem
      rw [map_fst_events] at hcall
      simp at hcall

/-- The answers of a keyboard that is set up without retries and types `a`, one for each
block. -/
def typing (n _ : ℕ) : BitVec 16 :=
  ([0, 0, 0x0010, commAck, 0, commAck, 0x1000] ++
    (List.replicate 5 [0, 0x0010, husbTDListDone, 0x0003]).flatten ++ [0] ++
    (List.replicate 4 [0, 0x0010, husbTDListDone, 0x0003]).flatten ++
    [0, 0, 0x0010, husbTDListDone, 0x0004, 0x1000]).getD n 0

theorem Main.keycode_polled_typing :
    ∃ word : BitVec 16, 0x04#8 = word.setWidth 8 ∧
      Session Request.all (SinceKeycode (PollRead word))
        (driver.trace typing (Main.initial 0#16 0#8 0#8) 49) := by
  have hrun : driver.run typing (Main.initial 0#16 0#8 0#8) 49 =
      ⟨.keyStore, 0x1000#16, 0x0004#16, 1#8, 0#8, 0#8⟩ := by decide
  refine Main.keycode_polled typing 0#16 0#8 0#8 50 _
    (events ((usbRead usb1CtlReg).map .io) fun _ => 0x1000#16) 0x04#8 0x1000#16 ?_
  show _ ++ driver.events (typing 49) (driver.run typing _ 49) = _
  rw [hrun]
  rfl

end Undertale
