import Undertale.Clocked.Run

/-!
# Waiting for a message of the USB chip

`UsbWaitTDListDone` polls the SIE1 message word until it reads
`HUSB_TDListDone`, and clears the word after every read, whatever the read has
returned.  The chip may post a message between the read and the clear, and then
the clear erases a message that nobody has read.

The two parties take turns in any order: an event is a post of the chip or the
next access of the routine, and one `UsbRead` or `UsbWrite` is one access.
-/

namespace Undertale

open Clocked

/-- `HUSB_TDListDone` of `lcp_cmd.h`. -/
def husbTDListDone : BitVec 16 := 0x1000#16

/-! ## The routine -/

/-- Where `UsbWaitTDListDone` stands: before its first read or write, at the test
of the loop, before the read or the write of the loop body, or returned. -/
inductive WaitPc where
  | firstRead | firstWrite | test | loopRead | loopWrite | returned
deriving DecidableEq, Repr

/-- The routine with its variable, and the message word of the chip. -/
structure UsbWait where
  pc : WaitPc
  usbCtlVal : BitVec 16
  sie1Msg : BitVec 16
deriving DecidableEq, Repr

/-- The call of the routine with `w` in the message word and `v` in the variable. -/
def UsbWait.call (v w : BitVec 16) : UsbWait := ⟨.firstRead, v, w⟩

/-- `usb_ctl_val = UsbRead(HPI_SIE1_MSG_ADR)`. -/
def UsbWait.usbRead (next : WaitPc) (s : UsbWait) : UsbWait :=
  { s with pc := next, usbCtlVal := s.sie1Msg }

/-- `UsbWrite(HPI_SIE1_MSG_ADR, 0)`. -/
def UsbWait.usbWrite (next : WaitPc) (s : UsbWait) : UsbWait :=
  { s with pc := next, sie1Msg := 0#16 }

/-- The next access of the routine.  The loop body prints a message it does not
wait for, which is no access. -/
def UsbWait.advance (s : UsbWait) : UsbWait :=
  match s.pc with
  | .firstRead => s.usbRead .firstWrite
  | .firstWrite => s.usbWrite .test
  | .test => { s with pc := if s.usbCtlVal = husbTDListDone then .returned else .loopRead }
  | .loopRead => s.usbRead .loopWrite
  | .loopWrite => s.usbWrite .test
  | .returned => s

/-- One event: a post of the chip, or, without one, the next access of the routine. -/
def UsbWait.step (post : Option (BitVec 16)) (s : UsbWait) : UsbWait :=
  match post with
  | some code => { s with sie1Msg := code }
  | none => s.advance

/-- A run of both on the posts `i`. -/
def UsbWait.run (i : ℕ → Option (BitVec 16)) (s : UsbWait) : ℕ → UsbWait :=
  Clocked.run (fun n => UsbWait.step (i n)) s

/-- The routine is about to read the word. -/
def WaitPc.Reads (pc : WaitPc) : Prop := pc = .firstRead ∨ pc = .loopRead

/-- The routine has read the word and is about to clear it. -/
def WaitPc.Clears (pc : WaitPc) : Prop := pc = .firstWrite ∨ pc = .loopWrite

instance (pc : WaitPc) : Decidable pc.Reads := inferInstanceAs (Decidable (_ ∨ _))
instance (pc : WaitPc) : Decidable pc.Clears := inferInstanceAs (Decidable (_ ∨ _))

theorem UsbWait.step_post (code : BitVec 16) (s : UsbWait) : (s.step (some code)).pc = s.pc := rfl

/-- A clear leads to the test. -/
theorem UsbWait.step_clears {s : UsbWait} (h : s.pc.Clears) :
    s.step none = ⟨.test, s.usbCtlVal, 0#16⟩ := by
  rcases h with h | h <;> simp [UsbWait.step, UsbWait.advance, UsbWait.usbWrite, h]

/-- Only a read leads to a clear. -/
theorem UsbWait.reads_of_step_clears {s : UsbWait} (h : (s.step none).pc.Clears) :
    s.pc.Reads := by
  obtain ⟨pc, v, w⟩ := s
  cases pc with
  | firstRead => exact .inl rfl
  | loopRead => exact .inr rfl
  | test =>
      simp only [UsbWait.step, UsbWait.advance, WaitPc.Clears] at h
      split at h <;> simp at h
  | firstWrite => simp [UsbWait.step, UsbWait.advance, UsbWait.usbWrite, WaitPc.Clears] at h
  | loopWrite => simp [UsbWait.step, UsbWait.advance, UsbWait.usbWrite, WaitPc.Clears] at h
  | returned => simp [UsbWait.step, UsbWait.advance, WaitPc.Clears] at h

/-! ## What the routine returns -/

/-- If the routine has returned, it has read the message it waits for. -/
def UsbWait.Sound (s : UsbWait) : Prop := s.pc = .returned → s.usbCtlVal = husbTDListDone

theorem UsbWait.Sound.step {s : UsbWait} (h : s.Sound) (post : Option (BitVec 16)) :
    (s.step post).Sound := by
  cases post with
  | some code => exact h
  | none =>
      obtain ⟨pc, v, w⟩ := s
      cases pc with
      | test =>
          intro hret
          rcases eq_or_ne v husbTDListDone with hv | hv
          · exact hv
          · simp [UsbWait.step, UsbWait.advance, hv] at hret
      | returned => exact h
      | _ => exact fun hret => by cases hret

/-- The routine returns with the message it waits for. -/
theorem UsbWait.run_sound (i : ℕ → Option (BitVec 16)) (v w : BitVec 16) (n : ℕ) :
    (UsbWait.run i (.call v w) n).Sound := by
  induction n with
  | zero => exact fun hret => by cases hret
  | succ n ih => exact ih.step (i n)

/-- The routine is in its loop, has not read its message, and there is none. -/
def UsbWait.Starved (s : UsbWait) : Prop :=
  s.sie1Msg ≠ husbTDListDone ∧ s.pc ≠ .returned ∧ (¬ s.pc.Reads → s.usbCtlVal ≠ husbTDListDone)

/-- Without another post a starved routine stays starved. -/
theorem UsbWait.Starved.step {s : UsbWait} (h : s.Starved) : (s.step none).Starved := by
  obtain ⟨pc, v, w⟩ := s
  obtain ⟨hw, hret, hv⟩ := h
  have h0 : 0#16 ≠ husbTDListDone := by decide
  cases pc with
  | firstRead => exact ⟨hw, WaitPc.noConfusion, fun _ => hw⟩
  | loopRead => exact ⟨hw, WaitPc.noConfusion, fun _ => hw⟩
  | firstWrite =>
      exact ⟨h0, WaitPc.noConfusion, fun _ => hv (show ¬ WaitPc.firstWrite.Reads by decide)⟩
  | loopWrite =>
      exact ⟨h0, WaitPc.noConfusion, fun _ => hv (show ¬ WaitPc.loopWrite.Reads by decide)⟩
  | test =>
      have hne : v ≠ husbTDListDone := hv (show ¬ WaitPc.test.Reads by decide)
      refine ⟨hw, ?_, fun _ => hne⟩
      simp [UsbWait.step, UsbWait.advance, hne]
  | returned => exact absurd rfl hret

/-- A routine that has lost its message waits for ever if the chip has nothing more
to say. -/
theorem UsbWait.Starved.never_returns {i : ℕ → Option (BitVec 16)} {s : UsbWait} {m n : ℕ}
    (hmn : m ≤ n) (h : (UsbWait.run i s m).Starved) (hno : ∀ k, m ≤ k → i k = none) :
    (UsbWait.run i s n).pc ≠ .returned := by
  refine (preserved (P := fun k => (UsbWait.run i s k).Starved) hmn h fun k hmk _ hk => ?_).2.1
  show (UsbWait.step (i k) (UsbWait.run i s k)).Starved
  rw [hno k hmk]
  exact hk.step

/-! ## Erased messages -/

/-- The routine reads the word at event `n`. -/
def UsbWait.ReadsAt (i : ℕ → Option (BitVec 16)) (s : UsbWait) (n : ℕ) : Prop :=
  i n = none ∧ (UsbWait.run i s n).pc.Reads

/-- The routine clears the word at event `n`. -/
def UsbWait.ClearsAt (i : ℕ → Option (BitVec 16)) (s : UsbWait) (n : ℕ) : Prop :=
  i n = none ∧ (UsbWait.run i s n).pc.Clears

/-- The clear at event `w` erases the `HUSB_TDListDone` posted at event `p`: until
`w` the chip has posted nothing else, and the routine has neither read the word
nor cleared it. -/
structure UsbWait.Erases (i : ℕ → Option (BitVec 16)) (s : UsbWait) (p w : ℕ) : Prop where
  posted : i p = some husbTDListDone
  later : p < w
  clears : UsbWait.ClearsAt i s w
  kept : ∀ k, p < k → k < w → i k = none
  unread : ∀ k, p < k → k < w → ¬ UsbWait.ReadsAt i s k ∧ ¬ UsbWait.ClearsAt i s k

section run
variable {i : ℕ → Option (BitVec 16)} {s : UsbWait}

/-- A post erased by a clear came right before it, when the routine had read the
word already. -/
theorem UsbWait.Erases.window {p w : ℕ} (h : UsbWait.Erases i s p w) :
    w = p + 1 ∧ (UsbWait.run i s p).pc.Clears := by
  obtain ⟨hpost, hpw, hclears, hkept, hunread⟩ := h
  obtain ⟨m, rfl⟩ : ∃ m, w = m + 1 := ⟨w - 1, by omega⟩
  rcases Nat.eq_or_lt_of_le (Nat.le_of_lt_succ hpw) with rfl | hpm
  · refine ⟨rfl, ?_⟩
    have hpc : (UsbWait.run i s (p + 1)).pc = (UsbWait.run i s p).pc := by
      show (UsbWait.step (i p) (UsbWait.run i s p)).pc = _
      rw [hpost, UsbWait.step_post]
    rw [← hpc]
    exact hclears.2
  · -- the access before the clear would be a read
    have hm : i m = none := hkept m hpm (Nat.lt_succ_self m)
    have hread : (UsbWait.run i s m).pc.Reads := by
      refine UsbWait.reads_of_step_clears ?_
      rw [← hm]
      exact hclears.2
    exact absurd ⟨hm, hread⟩ (hunread m hpm (Nat.lt_succ_self m)).1

/-- A routine that erases its message, and has not just read another of the kind, is
starved. -/
theorem UsbWait.Erases.starved {p w : ℕ} (h : UsbWait.Erases i s p w)
    (hv : (UsbWait.run i s w).usbCtlVal ≠ husbTDListDone) :
    (UsbWait.run i s (w + 1)).Starved := by
  show (UsbWait.step (i w) (UsbWait.run i s w)).Starved
  rw [h.clears.1, UsbWait.step_clears h.clears.2]
  exact ⟨show 0#16 ≠ husbTDListDone by decide, WaitPc.noConfusion, fun _ => hv⟩

end run

/-- Every `HUSB_TDListDone` that is posted stays until a read returns it or the
chip overwrites it, exactly if none posted between a read and its clear is still
the last post at the clear. -/
theorem UsbWait.never_erases_iff (i : ℕ → Option (BitVec 16)) (s : UsbWait) :
    (∀ p w, ¬ UsbWait.Erases i s p w) ↔
      ∀ p, i p = some husbTDListDone → (UsbWait.run i s p).pc.Clears → i (p + 1) ≠ none := by
  constructor
  · intro h p hpost hclears hnext
    refine h p (p + 1) ⟨hpost, Nat.lt_succ_self p, ⟨hnext, ?_⟩, ?_, ?_⟩
    · show (UsbWait.step (i p) (UsbWait.run i s p)).pc.Clears
      rw [hpost]
      exact hclears
    · exact fun k hk hk' => absurd hk (by omega)
    · exact fun k hk hk' => absurd hk (by omega)
  · intro h p w hw
    obtain ⟨rfl, hclears⟩ := hw.window
    exact h p hw.posted hclears hw.clears.1

/-- The routine reads an empty word, the chip posts, and the routine clears. -/
theorem UsbWait.erases_post :
    ¬ ∀ (i : ℕ → Option (BitVec 16)) (v w : BitVec 16) (p q : ℕ),
      ¬ UsbWait.Erases i (.call v w) p q := by
  intro h
  refine h (fun n => if n = 1 then some husbTDListDone else none) 0#16 0#16 1 2
    ⟨rfl, by omega, ⟨rfl, by decide⟩, ?_, ?_⟩
  · exact fun k hk hk' => absurd hk (by omega)
  · exact fun k hk hk' => absurd hk (by omega)

end Undertale
