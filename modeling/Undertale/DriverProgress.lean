import Undertale.DriverOrder
import Mathlib.Data.Fintype.Defs

/-!
# The driver arrives

`main` polls the chip in many places: for the flag of the status word, for the
acknowledgement of a command, for a keyboard, for the end of a list.  Here it runs
together with the chip (`chip`).  The memory of the chip is written by both sides: before
every call the chip takes a turn, in which it may change any word, and a word is read as
it stands.

A chip that serves the driver (`Serves`) may leave polls unanswered, refuse commands and
lose the keyboard, only not for ever at one place.  It need not answer the polls of
`UsbWaitTDListDone` at all: it reports every list once, at any time after the list was
submitted, and the report stands in the message word until the driver comes for it.  The
driver clears that word in every round, so a report between the read and the clear of a
round would be lost (`UsbWait.never_erases_iff`).  With such a chip keycodes are stored
again and again (`Main.keycode_arrives`).
-/

namespace Undertale

open Programs Clocked Filter

/-! ## The chip -/

/-- What the chip does before a call: it changes its memory, and has a word in its status
register and one in its mailbox. -/
structure ChipTurn where
  memory : (BitVec 16 → BitVec 16) → BitVec 16 → BitVec 16
  status : BitVec 16
  mailbox : BitVec 16

/-- The chip after its turn. -/
def ChipTurn.take (t : ChipTurn) (p : EzOtg) : EzOtg := { p with memory := t.memory p.memory }

/-- The answer of the chip to an action. -/
def Action.answer (t : ChipTurn) (p : EzOtg) : Action → BitVec 16
  | .io (.read address) =>
    if address = hpiData then p.memory p.address
    else if address = hpiStatus then t.status
    else if address = hpiMailbox then t.mailbox
    else 0#16
  | _ => 0#16

/-- What an action does to the chip. -/
def Action.onChip (p : EzOtg) : Action → EzOtg
  | .io call => call.onChip p
  | .keycode _ => p

/-- The chip behind the driver. -/
def chip : Device EzOtg ChipTurn Action (BitVec 16) where
  answer t p a := a.answer t (t.take p)
  step t p a := a.onChip (t.take p)

section block
variable (t : ℕ → ChipTurn) (s : Main × EzOtg)

/-- The last word that the driver reads in a block. -/
def lastWord : BitVec 16 :=
  lastRead driver.reads (driver.events (chip.answers s.1.actions t s.2) s.1)
    (chip.answers s.1.actions t s.2 0)

/-- The SIE1 message word before turn `k` of the chip in a block. -/
def msgBefore (k : ℕ) : BitVec 16 :=
  (chip.after (s.1.actions.take k) t s.2).memory hpiSie1MsgAdr

/-- The word after that turn. -/
def msgAfter (k : ℕ) : BitVec 16 :=
  ((t k).take (chip.after (s.1.actions.take k) t s.2)).memory hpiSie1MsgAdr

end block

/-! ## A chip that serves the driver -/

/-- A list is submitted. -/
def MainPc.Submits : MainPc → Prop
  | .submit _ | .keySubmit => True
  | _ => False

/-- The flag is polled after a list was submitted. -/
def MainPc.Checks : MainPc → Prop
  | .poll _ | .keyPoll => True
  | _ => False

/-- A round of `UsbWaitTDListDone`. -/
def MainPc.Waits : MainPc → Prop
  | .wait _ | .keyWait => True
  | _ => False

/-- A round of one of the loops with a counter. -/
def MainPc.Counts : MainPc → Prop
  | .plugFor | .unplugFor => True
  | _ => False

/-- The word read at a place is the one that the place is there to wait for. -/
def MainPc.Answered (v : BitVec 16) : MainPc → Prop
  | .sie1Status => v &&& 0xFFFF#16 ≠ 0#16
  | .sie1Ack | .resetAck => v = commAck
  | .device | .plugWhile | .unplugWhile => noDevice v = false
  | .poll _ | .keyPoll | .retryPoll _ => sie1msgFlag v = true
  | .wait _ | .keyWait => v = husbTDListDone
  | .control .setAddress | .retryRead _ => v = 0x03#16
  | _ => True

/-- The chip serves the driver in the run `r`, on its turns `i`. -/
structure Serves (i : ℕ → ℕ → ChipTurn) (r : ℕ → Main × EzOtg) : Prop where
  /-- No poll but that of a report is unanswered for ever. -/
  answered : ∀ pc : MainPc, ¬ pc.Waits → (∃ᶠ n in atTop, (r n).1.pc = pc) →
    ∃ᶠ n in atTop, (r n).1.pc = pc ∧ pc.Answered (lastWord (i n) (r n))
  /-- Every list is reported, at some time after it was submitted. -/
  reports : ∀ n, (r n).1.pc.Submits →
    ∃ m k, n < m ∧ k < (r m).1.actions.length ∧ msgAfter (i m) (r m) k = husbTDListDone
  /-- The chip does not take a report back before the driver has read it. -/
  keeps : ∀ n k, (r n).1.pc.Checks ∨ (r n).1.pc.Waits → k < (r n).1.actions.length →
    msgBefore (i n) (r n) k = husbTDListDone → msgAfter (i n) (r n) k = husbTDListDone
  /-- No report comes between the read of a round and the clear after it. -/
  inTime : ∀ n k, (r n).1.pc.Waits → 2 ≤ k → k < (r n).1.actions.length →
    msgAfter (i n) (r n) k = husbTDListDone → msgBefore (i n) (r n) k = husbTDListDone

/-! ## The ranks -/

/-- The rank of the place after a request. -/
def Request.rank : Request → ℕ
  | .getReportDesc => 5
  | .getHidDesc => 13
  | .classRequest => 21
  | .setConfig => 29
  | .getConfigDesc2 => 38
  | .getConfigDesc1 => 46
  | .getDeviceDesc2 => 54
  | .getDeviceDesc1 => 62
  | .setAddress => 70

/-- What is left to do at a place.  A place is left for a lower one when its word comes.
The retries of the first request lead back to `USB_HOT_PLUG`. -/
def MainPc.rank : MainPc → ℕ
  | .keyStore => 0
  | .keyRead => 1
  | .keyWait => 2
  | .keyPoll => 3
  | .keySubmit => 4
  | .keyLoop => 5
  | .deviceInfo => 38
  | .retryRead q => if q = .setAddress then 85 else q.rank + 1
  | .retryPoll q => if q = .setAddress then 86 else q.rank + 2
  | .retryClear q => if q = .setAddress then 87 else q.rank + 3
  | .retry q => if q = .setAddress then 88 else q.rank + 4
  | .control q => q.rank + 5
  | .wait q => q.rank + 6
  | .poll q => q.rank + 7
  | .submit q => q.rank + 8
  | .device => 79
  | .resetAck => 80
  | .husbReset => 81
  | .sie1Ack => 82
  | .sie1Status => 83
  | .hotPlug => 84
  | .start => 85
  | .sie1Error => 85
  | .resetError => 85
  | .plugWhile => 85
  | .unplugWhile => 85
  | .plugFor => 86
  | .unplugFor => 86

/-- The end of a request. -/
theorem Request.after_rank (q : Request) : q.after.rank = q.rank := by
  cases q <;> rfl

/-- The places of `main`. -/
def MainPc.all : List MainPc :=
  [.start, .hotPlug, .sie1Status, .sie1Ack, .sie1Error, .husbReset, .resetAck, .resetError,
    .device, .plugFor, .plugWhile, .deviceInfo, .keyLoop, .keySubmit, .keyPoll, .keyWait, .keyRead,
    .keyStore, .unplugFor, .unplugWhile] ++
  Request.all.flatMap fun q =>
    [.submit q, .poll q, .wait q, .control q, .retry q, .retryClear q, .retryPoll q, .retryRead q]

instance : Finite MainPc :=
  @Finite.of_fintype _ <| Fintype.ofList MainPc.all fun pc => by
    cases pc with
    | submit q | poll q | wait q | control q | retry q | retryClear q | retryPoll q | retryRead q =>
        cases q <;> decide
    | _ => decide

/-! ## Leaving a place -/

section next
variable {s : Main} {v : BitVec 16}

/-- The word that a place is there to wait for takes the driver to a lower place. -/
theorem Main.rank_next (h : s.pc.Answered v) (hpc : s.pc ≠ .keyStore) (hfor : ¬ s.pc.Counts) :
    (s.next v).pc.rank < s.pc.rank := by
  obtain ⟨pc, usbCtlVal, keycode, toggle, dataSize, hotPlugCount⟩ := s
  cases pc with
  | start => exact (by decide : MainPc.rank .hotPlug < MainPc.rank .start)
  | hotPlug => exact (by decide : MainPc.rank .sie1Status < MainPc.rank .hotPlug)
  | sie1Status =>
      replace h : ¬ v &&& 0xFFFF#16 = 0#16 := h
      show MainPc.rank (if v &&& 0xFFFF#16 = 0#16 then _ else _) < _
      rw [if_neg h]
      exact Nat.lt_succ_self _
  | sie1Ack =>
      replace h : v = commAck := h
      show MainPc.rank (if v ≠ commAck then _ else _) < _
      rw [if_neg (not_not.mpr h)]
      exact Nat.lt_succ_self _
  | sie1Error => exact Nat.lt_succ_self _
  | husbReset => exact Nat.lt_succ_self _
  | resetAck =>
      replace h : v = commAck := h
      show MainPc.rank (if v ≠ commAck then _ else _) < _
      rw [if_neg (not_not.mpr h)]
      exact Nat.lt_succ_self _
  | resetError => exact Nat.lt_succ_self _
  | device =>
      replace h : noDevice v = false := h
      show MainPc.rank (if noDevice v then _ else _ : Main).pc < _
      rw [h]
      exact Nat.lt_succ_self _
  | plugFor => exact absurd trivial hfor
  | plugWhile =>
      replace h : noDevice v = false := h
      show MainPc.rank (if noDevice v then _ else _) < _
      rw [h]
      exact Nat.lt_succ_self _
  | submit q => exact Nat.lt_succ_self _
  | poll q =>
      replace h : sie1msgFlag v = true := h
      show MainPc.rank (if sie1msgFlag v then _ else _) < _
      rw [if_pos h]
      exact Nat.lt_succ_self _
  | wait q =>
      replace h : v = husbTDListDone := h
      show MainPc.rank (if v ≠ husbTDListDone then _ else _) < _
      rw [if_neg (not_not.mpr h)]
      exact Nat.lt_succ_self _
  | control q =>
      show MainPc.rank (if v ≠ 0x03#16 then _ else _) < q.rank + 5
      rcases eq_or_ne v 0x03#16 with hv | hv
      · rw [if_neg (not_not.mpr hv), q.after_rank]
        omega
      · -- only the first request is not tried again
        have hq : q ≠ .setAddress := fun hq => hv (by rw [hq] at h; exact h)
        rw [if_pos hv, MainPc.rank, if_neg hq]
        exact Nat.lt_succ_self _
  | retry q =>
      show MainPc.rank (if v = husbTDListDone then _ else _) < MainPc.rank (.retry q)
      split <;> cases q <;> decide
  | retryClear q =>
      show MainPc.rank (.retryPoll q) < MainPc.rank (.retryClear q)
      cases q <;> decide
  | retryPoll q =>
      replace h : sie1msgFlag v = true := h
      show MainPc.rank (if sie1msgFlag v then _ else _) < MainPc.rank (.retryPoll q)
      rw [if_pos h]
      cases q <;> decide
  | retryRead q =>
      replace h : v = 0x03#16 := h
      show MainPc.rank (if q = .setAddress then _ else if v ≠ 0x03#16 then _ else _) <
        MainPc.rank (.retryRead q)
      rw [if_neg (not_not.mpr h)]
      cases q <;> decide
  | deviceInfo => exact (by decide : MainPc.rank (.submit .setConfig) < MainPc.rank .deviceInfo)
  | keyLoop => exact Nat.lt_succ_self _
  | keySubmit => exact Nat.lt_succ_self _
  | keyPoll =>
      replace h : sie1msgFlag v = true := h
      show MainPc.rank (if sie1msgFlag v then _ else _) < _
      rw [if_pos h]
      exact Nat.lt_succ_self _
  | keyWait =>
      replace h : v = husbTDListDone := h
      show MainPc.rank (if v ≠ husbTDListDone then _ else _) < _
      rw [if_neg (not_not.mpr h)]
      exact Nat.lt_succ_self _
  | keyRead => exact Nat.lt_succ_self _
  | keyStore => exact absurd rfl hpc
  | unplugFor => exact absurd trivial hfor
  | unplugWhile =>
      replace h : noDevice v = false := h
      show MainPc.rank (if noDevice v then _ else _) < _
      rw [h]
      exact Nat.lt_succ_self _

/-- A loop with a counter is left, or it counts on and is not over. -/
theorem Main.next_counts (h : s.pc.Counts) :
    (s.next v).pc.rank < s.pc.rank ∨ (s.next v).pc = s.pc ∧
      (s.next v).hotPlugCount = s.hotPlugCount + 1#8 ∧ s.hotPlugCount + 1#8 < 7#8 := by
  obtain ⟨pc, usbCtlVal, keycode, toggle, dataSize, hotPlugCount⟩ := s
  cases pc with
  | plugFor =>
      show (if noDevice v then _ else _ : Main).pc.rank < _ ∨
        (if noDevice v then _ else _ : Main).pc = _ ∧
          (if noDevice v then _ else _ : Main).hotPlugCount = _ ∧ _
      split
      · show MainPc.rank (if hotPlugCount + 1#8 < 5#8 then _ else _) < _ ∨
          (if hotPlugCount + 1#8 < 5#8 then MainPc.plugFor else _) = _ ∧ _
        split
        · next hcount => exact .inr ⟨rfl, rfl, BitVec.lt_trans hcount (by decide : 5#8 < 7#8)⟩
        · exact .inl (Nat.lt_succ_self _)
      · exact .inl (by decide : MainPc.rank (.submit .setAddress) < MainPc.rank .plugFor)
  | unplugFor =>
      show (if noDevice v then _ else _ : Main).pc.rank < _ ∨
        (if noDevice v then _ else _ : Main).pc = _ ∧
          (if noDevice v then _ else _ : Main).hotPlugCount = _ ∧ _
      split
      · show MainPc.rank (if hotPlugCount + 1#8 < 7#8 then _ else _) < _ ∨
          (if hotPlugCount + 1#8 < 7#8 then MainPc.unplugFor else _) = _ ∧ _
        split
        · next hcount => exact .inr ⟨rfl, rfl, hcount⟩
        · exact .inl (Nat.lt_succ_self _)
      · exact .inl (by decide : MainPc.rank .keyLoop < MainPc.rank .unplugFor)
  | _ => exact absurd h id

/-- The driver waits on until it reads the report. -/
theorem Main.next_waiting (h : s.pc.Waits) (hv : v ≠ husbTDListDone) : (s.next v).pc = s.pc := by
  obtain ⟨pc, usbCtlVal, keycode, toggle, dataSize, hotPlugCount⟩ := s
  cases pc with
  | wait q | keyWait => exact if_pos hv
  | _ => exact absurd h id

/-- Then it waits no longer. -/
theorem Main.next_reported (h : s.pc.Waits) (hv : v = husbTDListDone) : ¬ (s.next v).pc.Waits := by
  obtain ⟨pc, usbCtlVal, keycode, toggle, dataSize, hotPlugCount⟩ := s
  cases pc with
  | wait q =>
      show ¬ MainPc.Waits (if v ≠ husbTDListDone then .wait q else .control q)
      rw [if_neg (not_not.mpr hv)]
      exact id
  | keyWait =>
      show ¬ MainPc.Waits (if v ≠ husbTDListDone then .keyWait else .keyRead)
      rw [if_neg (not_not.mpr hv)]
      exact id
  | _ => exact absurd h id

/-- At a place where the driver waits it waits for the report. -/
theorem MainPc.answered_waits {pc : MainPc} (h : pc.Waits) (hv : v = husbTDListDone) :
    pc.Answered v := by
  cases pc with
  | wait q | keyWait => exact hv
  | _ => exact absurd h id

/-- The driver comes to wait from a place where it has found the flag. -/
theorem Main.checks_of_waits (h : (s.next v).pc.Waits) (hs : ¬ s.pc.Waits) : s.pc.Checks := by
  obtain ⟨pc, usbCtlVal, keycode, toggle, dataSize, hotPlugCount⟩ := s
  cases pc with
  | poll q | keyPoll => trivial
  | wait q | keyWait => exact absurd trivial hs
  | control q | retryRead q =>
      cases q <;> simp only [Main.next, Request.after] at h <;> (repeat' split at h) <;>
        exact h.elim
  | _ =>
      simp only [Main.next] at h
      repeat' split at h
      all_goals exact h.elim

/-- And there it comes right after it has submitted a list. -/
theorem Main.submits_of_checks (h : (s.next v).pc.Checks) : s.pc.Submits := by
  obtain ⟨pc, usbCtlVal, keycode, toggle, dataSize, hotPlugCount⟩ := s
  cases pc with
  | submit q | keySubmit => trivial
  | control q | retryRead q =>
      cases q <;> simp only [Main.next, Request.after] at h <;> (repeat' split at h) <;>
        exact h.elim
  | _ =>
      simp only [Main.next] at h
      repeat' split at h
      all_goals exact h.elim

end next

/-! ## The report -/

section report
variable {t : ℕ → ChipTurn} {s : Main × EzOtg}

/-- A poll of the flag leaves the message word alone. -/
theorem msgAfter_checks (h : s.1.pc.Checks) {k : ℕ} (hk : k < s.1.actions.length)
    (t' : ℕ → ChipTurn) :
    msgBefore t' (driver.stepWith chip t s) 0 = msgAfter t s k := by
  obtain ⟨⟨pc, usbCtlVal, keycode, toggle, dataSize, hotPlugCount⟩, p⟩ := s
  cases pc with
  | poll q | keyPoll =>
      obtain rfl : k = 0 := Nat.lt_one_iff.mp hk
      rfl
  | _ => exact absurd h id

/-- A round reads the word as it stands after the second turn of the chip. -/
theorem lastWord_waits (h : s.1.pc.Waits) : lastWord t s = msgAfter t s 1 := by
  obtain ⟨⟨pc, usbCtlVal, keycode, toggle, dataSize, hotPlugCount⟩, p⟩ := s
  cases pc with
  | wait q | keyWait => rfl
  | _ => exact absurd h id

/-- In a round only the last call writes the word. -/
theorem msgBefore_waits (h : s.1.pc.Waits) {k : ℕ} (hk : k < 3) :
    msgBefore t s (k + 1) = msgAfter t s k := by
  obtain ⟨⟨pc, usbCtlVal, keycode, toggle, dataSize, hotPlugCount⟩, p⟩ := s
  cases pc with
  | wait q | keyWait =>
      obtain rfl | rfl | rfl : k = 0 ∨ k = 1 ∨ k = 2 := by omega
      · rfl
      · rfl
      · rfl
  | _ => exact absurd h id

/-- A round has four calls. -/
theorem Main.length_waits {s : Main} (h : s.pc.Waits) : s.actions.length = 4 := by
  obtain ⟨pc, usbCtlVal, keycode, toggle, dataSize, hotPlugCount⟩ := s
  cases pc with
  | wait q | keyWait => rfl
  | _ => exact absurd h id

end report

section run
variable {i : ℕ → ℕ → ChipTurn} {r : ℕ → Main × EzOtg} (h : Serves i r)
  (hr : ∀ n, r (n + 1) = driver.stepWith chip (i n) (r n))
include h

/-- A report that stands at the beginning of a round is read in it. -/
theorem Serves.reads {n : ℕ} (hw : (r n).1.pc.Waits)
    (hdone : msgBefore (i n) (r n) 0 = husbTDListDone) :
    lastWord (i n) (r n) = husbTDListDone := by
  have hlen := Main.length_waits hw
  have hfirst := h.keeps n 0 (.inr hw) (by omega) hdone
  rw [← msgBefore_waits hw (by decide)] at hfirst
  rw [lastWord_waits hw]
  exact h.keeps n 1 (.inr hw) (by omega) hfirst

/-- So is a report that comes in the round: it comes before the read. -/
theorem Serves.reads_report {n k : ℕ} (hw : (r n).1.pc.Waits) (hk : k < (r n).1.actions.length)
    (hdone : msgAfter (i n) (r n) k = husbTDListDone) :
    lastWord (i n) (r n) = husbTDListDone := by
  have hlen := Main.length_waits hw
  rw [lastWord_waits hw]
  obtain rfl | rfl | rfl | rfl : k = 0 ∨ k = 1 ∨ k = 2 ∨ k = 3 := by omega
  · rw [← msgBefore_waits hw (by decide)] at hdone
    exact h.keeps n 1 (.inr hw) (by omega) hdone
  · exact hdone
  · rw [← msgBefore_waits hw (by decide)]
    exact h.inTime n 2 hw le_rfl hk hdone
  · have hsecond := h.inTime n 3 hw (by decide) hk hdone
    rw [msgBefore_waits hw (by decide)] at hsecond
    rw [← msgBefore_waits hw (by decide)]
    exact h.inTime n 2 hw le_rfl (by omega) hsecond

include hr

/-- The driver does not wait for ever: it finds the report of its last list. -/
theorem Serves.reported (h0 : (r 0).1.pc = .start) {n : ℕ} (hn : (r n).1.pc.Waits) :
    ∃ m, n ≤ m ∧ (r m).1.pc = (r n).1.pc ∧ lastWord (i m) (r m) = husbTDListDone := by
  have hpc : ∀ m, (r (m + 1)).1.pc = ((r m).1.next (lastWord (i m) (r m))).pc := fun m => by
    rw [hr m]
    rfl
  by_contra hno
  have hstay : ∀ m, n ≤ m → (r m).1.pc = (r n).1.pc := fun m hnm => by
    refine preserved (P := fun m => (r m).1.pc = (r n).1.pc) hnm rfl fun k hk _ ih => ?_
    rw [hpc k, Main.next_waiting (ih ▸ hn) fun hread => hno ⟨k, hk, ih, hread⟩]
    exact ih
  -- it has come here after the list of block `b`
  obtain ⟨a, han, ha, hafter⟩ := exists_last_entry (P := fun k => (r k).1.pc.Waits)
    (by rw [h0]; exact id) hn
  have hwaits : ∀ k, a < k → (r k).1.pc.Waits := fun k hk => by
    rcases Nat.le_total k n with hkn | hnk
    · exact hafter k hk hkn
    · exact hstay k hnk ▸ hn
  have hchecks : (r a).1.pc.Checks :=
    Main.checks_of_waits (hpc a ▸ hwaits (a + 1) (Nat.lt_succ_self a)) ha
  obtain ⟨b, rfl⟩ : ∃ b, a = b + 1 := by
    cases a with
    | zero =>
        rw [h0] at hchecks
        exact hchecks.elim
    | succ b => exact ⟨b, rfl⟩
  obtain ⟨m, k, hbm, hk, hdone⟩ := h.reports b (Main.submits_of_checks (hpc b ▸ hchecks))
  -- and reads its report, in the block `m` of the report or right after the poll
  obtain ⟨l, hl, hread⟩ : ∃ l, b + 1 < l ∧ lastWord (i l) (r l) = husbTDListDone := by
    rcases Nat.eq_or_lt_of_le (Nat.succ_le_of_lt hbm) with rfl | hlt
    · refine ⟨b + 1 + 1, Nat.lt_succ_self _, h.reads (hwaits _ (Nat.lt_succ_self _)) ?_⟩
      rw [hr (b + 1), msgAfter_checks hchecks hk]
      exact hdone
    · exact ⟨m, hlt, h.reads_report (hwaits m hlt) hk hdone⟩
  refine Main.next_reported (hwaits l hl) hread ?_
  rw [← hpc l]
  exact hwaits (l + 1) (Nat.lt_succ_of_lt hl)

end run

/-- A loop with a counter is left, since the counter comes to its limit. -/
theorem leaves_counts {i : ℕ → ℕ → ChipTurn} {r : ℕ → Main × EzOtg}
    (hr : ∀ n, r (n + 1) = driver.stepWith chip (i n) (r n)) {n : ℕ} (hn : (r n).1.pc.Counts) :
    ∃ m, n ≤ m ∧ (r (m + 1)).1.pc.rank < (r n).1.pc.rank := by
  have hnext : ∀ m, (r (m + 1)).1 = (r m).1.next (lastWord (i m) (r m)) := fun m => by
    rw [hr m]
    rfl
  by_contra hno
  have hcounts : ∀ m, n ≤ m → (r m).1.pc = (r n).1.pc →
      (r (m + 1)).1.pc = (r m).1.pc ∧ (r (m + 1)).1.hotPlugCount = (r m).1.hotPlugCount + 1#8 ∧
        (r m).1.hotPlugCount + 1#8 < 7#8 := by
    intro m hnm hm
    have hstep := Main.next_counts (s := (r m).1) (v := lastWord (i m) (r m)) (hm ▸ hn)
    rw [← hnext m] at hstep
    exact hstep.resolve_left fun hlt => hno ⟨m, hnm, hm ▸ hlt⟩
  have hstay : ∀ k, (r (n + k)).1.pc = (r n).1.pc ∧
      (r (n + k)).1.hotPlugCount = (r n).1.hotPlugCount + BitVec.ofNat 8 k := by
    intro k
    induction k with
    | zero => exact ⟨rfl, (BitVec.add_zero _).symm⟩
    | succ k ih =>
        obtain ⟨hpc, hcount, -⟩ := hcounts (n + k) (Nat.le_add_right n k) ih.1
        rw [← Nat.add_assoc, hpc, hcount, ih.2, BitVec.ofNat_add, BitVec.add_assoc]
        exact ⟨ih.1, rfl⟩
  -- at some block the counter is 6
  obtain ⟨hpc, hcount⟩ := hstay (6#8 - (r n).1.hotPlugCount).toNat
  have hlast := (hcounts _ (Nat.le_add_right n _) hpc).2.2
  rw [hcount, BitVec.ofNat_toNat, BitVec.setWidth_eq, BitVec.add_comm _ (6#8 - _),
    BitVec.sub_add_cancel] at hlast
  exact absurd hlast (by decide)

/-! ## The keycodes -/

/-- In every run of `main` with a chip that serves it, keycodes are stored again and
again. -/
theorem Main.keycode_arrives (i : ℕ → ℕ → ChipTurn) (usbCtlVal : BitVec 16)
    (dataSize hotPlugCount : BitVec 8) (p : EzOtg)
    (h : Serves i (driver.runWith chip i (Main.initial usbCtlVal dataSize hotPlugCount, p))) :
    ∃ᶠ n in atTop, ∃ v, Action.keycode v ∈
      (driver.runWith chip i (Main.initial usbCtlVal dataSize hotPlugCount, p) n).1.actions := by
  have hr : ∀ n, driver.runWith chip i (Main.initial usbCtlVal dataSize hotPlugCount, p) (n + 1) =
      driver.stepWith chip (i n)
        (driver.runWith chip i (Main.initial usbCtlVal dataSize hotPlugCount, p) n) := fun _ => rfl
  have h0 : (driver.runWith chip i (Main.initial usbCtlVal dataSize hotPlugCount, p) 0).1.pc =
      .start := rfl
  generalize driver.runWith chip i (Main.initial usbCtlVal dataSize hotPlugCount, p) = r at *
  have hnext : ∀ n, (r (n + 1)).1 = (r n).1.next (lastWord (i n) (r n)) := fun n => by
    rw [hr n]
    rfl
  have hstore : ∃ᶠ n in atTop, (r n).1.pc = .keyStore := by
    refine frequently_of_fair (f := fun n => (r n).1.pc) (· = .keyStore) MainPc.rank
      fun pc hpc hoften => ?_
    rcases Classical.em pc.Counts with hcounts | hcounts
    · refine frequently_atTop.mpr fun a => ?_
      obtain ⟨n, han, rfl⟩ := frequently_atTop.mp hoften a
      obtain ⟨m, hnm, hm⟩ := leaves_counts hr hcounts
      exact ⟨m, han.trans hnm, hm⟩
    · -- the word of the place comes again and again
      have hanswered : ∃ᶠ n in atTop, (r n).1.pc = pc ∧ pc.Answered (lastWord (i n) (r n)) := by
        rcases Classical.em pc.Waits with hwaits | hwaits
        · refine frequently_atTop.mpr fun a => ?_
          obtain ⟨n, han, rfl⟩ := frequently_atTop.mp hoften a
          obtain ⟨m, hnm, hm, hread⟩ := h.reported hr h0 hwaits
          exact ⟨m, han.trans hnm, hm, MainPc.answered_waits hwaits hread⟩
        · exact h.answered pc hwaits hoften
      refine hanswered.mono fun n hn => ?_
      obtain ⟨rfl, hword⟩ := hn
      show (r (n + 1)).1.pc.rank < _
      rw [hnext n]
      exact Main.rank_next hword hpc hcounts
  refine hstore.mono fun n hn => ?_
  generalize (r n).1 = s at hn
  obtain ⟨pc, usbCtlVal, keycode, toggle, dataSize, hotPlugCount⟩ := s
  obtain rfl : pc = .keyStore := hn
  exact ⟨keycode.setWidth 8, List.mem_cons_self⟩

/-- A turn in which the chip does nothing. -/
def ChipTurn.silent : ChipTurn := ⟨id, 0#16, 0#16⟩

/-- A turn in which the chip reports a list that was carried out, with a keyboard. -/
def ChipTurn.helpful : ChipTurn where
  memory m a :=
    if a = hpiSie1MsgAdr then husbTDListDone
    else if a = 0x0508#16 then 0x03#16
    else if a = usb1CtlReg then 0x1000#16
    else m a
  status := 0x0010#16
  mailbox := commAck

/-- A chip that is helpful in every fifth block only, and from block 200 on in every one. -/
def busyTurn (n _ : ℕ) : ChipTurn := if n < 200 ∧ n % 5 ≠ 0 then .silent else .helpful

/-- In a block the chip is either silent or helpful. -/
theorem busyTurn_cases (n : ℕ) :
    busyTurn n = (fun _ => .silent) ∨ busyTurn n = fun _ => .helpful := by
  rcases Classical.em (n < 200 ∧ n % 5 ≠ 0) with h | h
  · exact .inl (funext fun _ => if_pos h)
  · exact .inr (funext fun _ => if_neg h)

theorem busyTurn_late {n : ℕ} (h : 200 ≤ n) : busyTurn n = fun _ => .helpful :=
  funext fun _ => if_neg fun hn => by omega

/-- A helpful chip answers every place. -/
theorem answered_helpful (s : Main × EzOtg) :
    s.1.pc.Answered (lastWord (fun _ => .helpful) s) := by
  obtain ⟨⟨pc, usbCtlVal, keycode, toggle, dataSize, hotPlugCount⟩, p⟩ := s
  cases pc with
  | sie1Status => exact (by decide : 0x0010#16 &&& 0xFFFF#16 ≠ 0#16)
  | sie1Ack | resetAck => rfl
  | device | plugWhile | unplugWhile => exact (by decide : noDevice 0x1000#16 = false)
  | poll q | keyPoll | retryPoll q => exact (by decide : sie1msgFlag 0x0010#16 = true)
  | wait q | keyWait | retryRead q => rfl
  | control q =>
      cases q with
      | setAddress => rfl
      | _ => trivial
  | _ => trivial

/-- Only the head of the keycode loop makes no calls. -/
theorem Main.actions_pos {s : Main} (h : s.pc ≠ .keyLoop) : 0 < s.actions.length := by
  obtain ⟨pc, usbCtlVal, keycode, toggle, dataSize, hotPlugCount⟩ := s
  cases pc with
  | submit q => cases q <;> exact Nat.zero_lt_succ _
  | keyLoop => exact absurd rfl h
  | _ => exact Nat.zero_lt_succ _

theorem serves_busy (s : Main × EzOtg) : Serves busyTurn (driver.runWith chip busyTurn s) where
  answered pc _ hoften := (hoften.and_eventually (eventually_ge_atTop 200)).mono fun n hn => by
    obtain ⟨rfl, hlate⟩ := hn
    rw [busyTurn_late hlate]
    exact ⟨rfl, answered_helpful _⟩
  reports n _ := by
    obtain ⟨m, hnm, hlate, hpc⟩ : ∃ m, n < m ∧ 200 ≤ m ∧
        (driver.runWith chip busyTurn s m).1.pc ≠ .keyLoop := by
      obtain ⟨m, hnm, hlate⟩ : ∃ m, n < m ∧ 200 ≤ m := ⟨n + 200, by omega, by omega⟩
      rcases eq_or_ne (driver.runWith chip busyTurn s m).1.pc .keyLoop with hloop | hloop
      · refine ⟨m + 1, by omega, by omega, ?_⟩
        show (Main.next _ (driver.runWith chip busyTurn s m).1).pc ≠ _
        rw [Main.next, hloop]
        exact MainPc.noConfusion
      · exact ⟨m, hnm, hlate, hloop⟩
    refine ⟨m, 0, hnm, Main.actions_pos hpc, ?_⟩
    rw [busyTurn_late hlate]
    rfl
  keeps n k _ _ hdone := by
    rcases busyTurn_cases n with h | h
    · rw [h] at hdone ⊢
      exact hdone
    · rw [h]
      rfl
  inTime n k hw hk hlen hdone := by
    rcases busyTurn_cases n with h | h
    · rw [h] at hdone ⊢
      exact hdone
    · obtain ⟨j, rfl⟩ : ∃ j, k = j + 1 := ⟨k - 1, by omega⟩
      rw [Main.length_waits hw] at hlen
      rw [h, msgBefore_waits hw (by omega)]
      rfl

theorem Main.keycode_arrives_busy :
    ∃ᶠ n in atTop, ∃ v, Action.keycode v ∈
      (driver.runWith chip busyTurn (Main.initial 0#16 0#8 0#8, ⟨0#16, fun _ => 0#16⟩)
        n).1.actions :=
  Main.keycode_arrives busyTurn 0#16 0#8 0#8 _ (serves_busy _)

end Undertale
