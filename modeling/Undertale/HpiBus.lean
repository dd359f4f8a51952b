import Undertale.Hpi

/-!
# No contention on the HPI bus

The FPGA and the chip share `OTG_DATA`.  The FPGA drives it while `from_sw_w` is
low, and the chip while `OTG_RD_N` is low, which shows `from_sw_r` one clock late.
`IO_read` and `IO_write` never have both PIO strobes low, and between calls both
are high.  The clock of delay does no harm, because the processor changes one
register at a time.
-/

namespace Undertale

open Clocked

/-! ## The PIO strobes -/

/-- Both strobes are high. -/
def Pio.Idle (p : Pio) : Prop := p.otgHpiR = true ∧ p.otgHpiW = true

/-- One of the strobes is high. -/
def Pio.Exclusive (p : Pio) : Prop := p.otgHpiR = true ∨ p.otgHpiW = true

theorem Pio.Idle.exclusive {p : Pio} (h : p.Idle) : p.Exclusive := .inl h.1

/-- An access leaves one of the strobes as it is. -/
theorem Pio.access_strobes (p : Pio) (a : Access) :
    (p.access a).otgHpiR = p.otgHpiR ∨ (p.access a).otgHpiW = p.otgHpiW := by
  cases a with
  | storeR v => exact .inr rfl
  | _ => exact .inl rfl

/-! ## The calls -/

/-- A list of accesses that goes from idle strobes to idle strobes and has one of
them high all along. -/
def Pio.Keeps (l : List Access) : Prop := Clocked.Keeps Pio.access Pio.Idle Pio.Exclusive l

/-- An access that lowers no strobe. -/
def Access.Quiet : Access → Prop
  | .storeR v | .storeW v => v = true
  | _ => True

theorem Pio.Idle.access {p : Pio} (hp : p.Idle) {a : Access} (h : a.Quiet) :
    (p.access a).Idle := by
  cases a with
  | storeR v => exact ⟨h, hp.2⟩
  | storeW v => exact ⟨hp.1, h⟩
  | _ => exact hp

theorem Pio.Idle.foldl {l : List Access} (h : ∀ a ∈ l, a.Quiet) {p : Pio} (hp : p.Idle) :
    (l.foldl Pio.access p).Idle := by
  induction l generalizing p with
  | nil => exact hp
  | cons a l ih =>
      exact ih (fun b hb => h b (List.mem_cons_of_mem a hb)) (hp.access (h a List.mem_cons_self))

theorem Pio.keeps_of_quiet {l : List Access} (h : ∀ a ∈ l, a.Quiet) : Pio.Keeps l where
  along _ hp _ hq := (hp.foldl fun a ha => h a (hq.subset ha)).exclusive
  after _ hp := hp.foldl h

theorem ioInit_quiet : ∀ a ∈ ioInit, a.Quiet := by simp [ioInit, Access.Quiet]

/-- A write leaves the read strobe alone. -/
theorem ioWrite_keeps (address : BitVec 8) (data : BitVec 16) :
    Pio.Keeps (ioWrite address data) where
  along p hp q hq := by
    have hmem : q ∈ (ioWrite address data).inits := (List.mem_inits _ _).mpr hq
    simp only [ioWrite, List.inits, List.map_cons, List.map_nil, List.mem_cons,
      List.not_mem_nil, or_false] at hmem
    rcases hmem with rfl | rfl | rfl | rfl | rfl | rfl | rfl <;> exact .inl hp.1
  after _ hp := ⟨hp.1, rfl⟩

/-- A read leaves the write strobe alone. -/
theorem ioRead_keeps (address : BitVec 8) : Pio.Keeps (ioRead address) where
  along p hp q hq := by
    have hmem : q ∈ (ioRead address).inits := (List.mem_inits _ _).mpr hq
    simp only [ioRead, List.inits, List.map_cons, List.map_nil, List.mem_cons,
      List.not_mem_nil, or_false] at hmem
    rcases hmem with rfl | rfl | rfl | rfl | rfl | rfl | rfl <;> exact .inr hp.2
  after _ hp := ⟨rfl, hp.2⟩

theorem IoCall.keeps (c : IoCall) : Pio.Keeps c.accesses := by
  cases c with
  | init => exact Pio.keeps_of_quiet ioInit_quiet
  | write address data => exact ioWrite_keeps address data
  | read address => exact ioRead_keeps address

/-- What is left of `IO_init` once it has driven both strobes high, and the calls
after it. -/
theorem Pio.keeps_calls (calls : List IoCall) :
    Pio.Keeps (ioInit.drop 4 ++ calls.flatMap IoCall.accesses) :=
  (Pio.keeps_of_quiet fun a ha => ioInit_quiet a (List.mem_of_mem_drop ha)).append
    (Keeps.flatMap (fun _ => Pio.Idle.exclusive) IoCall.keeps calls)

/-! ## The bus -/

/-- The FPGA drives `OTG_DATA` while the chip does, because `OTG_RD_N` is low. -/
def Hpi.Contends (s : Hpi) : Prop :=
  (s.intf.otgData s.pio).isSome = true ∧ s.intf.otgRdN = false

instance (s : Hpi) : Decidable s.Contends := inferInstanceAs (Decidable (_ ∧ _))

section run
variable {i : ℕ → HpiInputs} {s : Hpi}

/-- A strobe pin that is low shows a PIO strobe that was low a clock before. -/
theorem Hpi.low_pins {n : ℕ} :
    ((Hpi.run i s (n + 1)).intf.otgRdN = false → (Hpi.run i s n).pio.otgHpiR = false) ∧
      ((Hpi.run i s (n + 1)).intf.otgWrN = false → (Hpi.run i s n).pio.otgHpiW = false) := by
  rw [Hpi.run_succ]
  cases hr : (i n).reset with
  | true => simp [Hpi.step, HpiIoIntf.step, hr]
  | false => simp [Hpi.step, HpiIoIntf.step, hr]

/-- With one PIO strobe high in both cycles of an edge there is no contention
after it. -/
theorem Hpi.quiet_succ {n : ℕ} (h : (Hpi.run i s n).pio.Exclusive)
    (h' : (Hpi.run i s (n + 1)).pio.Exclusive) :
    ¬ (Hpi.run i s (n + 1)).Contends ∧
      ¬ ((Hpi.run i s (n + 1)).intf.otgRdN = false ∧
        (Hpi.run i s (n + 1)).intf.otgWrN = false) := by
  obtain ⟨hrd, hwr⟩ := Hpi.low_pins (i := i) (s := s) (n := n)
  constructor
  · rintro ⟨hdrive, hlow⟩
    have hr : (Hpi.run i s n).pio.otgHpiR = false := hrd hlow
    have hw' : (Hpi.run i s (n + 1)).pio.otgHpiW = false := by
      cases hw : (Hpi.run i s (n + 1)).pio.otgHpiW with
      | true => rw [HpiIoIntf.otgData, hw] at hdrive; cases hdrive
      | false => rfl
    have hw : (Hpi.run i s n).pio.otgHpiW = true := h.resolve_left (by simp [hr])
    have hr' : (Hpi.run i s (n + 1)).pio.otgHpiR = true := h'.resolve_right (by simp [hw'])
    -- both strobes would have changed at one edge
    rw [Hpi.run_succ] at hr' hw'
    cases ha : (i n).access with
    | none =>
        simp only [Hpi.step, ha, Option.elim_none] at hr'
        rw [hr] at hr'
        cases hr'
    | some a =>
        simp only [Hpi.step, ha, Option.elim_some] at hr' hw'
        rcases (Hpi.run i s n).pio.access_strobes a with he | he
        · rw [he, hr] at hr'; cases hr'
        · rw [he, hw] at hw'; cases hw'
  · rintro ⟨hlow, hlow'⟩
    rcases h with hr | hw
    · rw [hrd hlow] at hr; cases hr
    · rw [hwr hlow'] at hw; cases hw

end run

/-- By cycle `t` the processor has driven both strobes high in `IO_init`, and up to
cycle `n` it goes on with the rest of `IO_init` and with `calls`, at whatever
edges and however far. -/
structure CallsMade (i : ℕ → HpiInputs) (before : List Access) (calls : List IoCall) (t n : ℕ) :
    Prop where
  driven : made (fun k => (i k).access) t = before ++ ioInit.take 4
  going : made (fun k => (i k).access) n <+: before ++ ioInit ++ calls.flatMap IoCall.accesses

/-- One PIO strobe is high in every cycle from then on. -/
theorem CallsMade.exclusive {i : ℕ → HpiInputs} {before : List Access} {calls : List IoCall}
    {t n : ℕ} (h : CallsMade i before calls t n) (s : Hpi) {k : ℕ} (htk : t ≤ k) (hkn : k ≤ n) :
    (Hpi.run i s k).pio.Exclusive := by
  have hidle : ((made (fun k => (i k).access) t).foldl Pio.access s.pio).Idle := by
    rw [h.driven, List.foldl_append]
    exact ⟨rfl, rfl⟩
  have hgoing : made (fun k => (i k).access) k <+:
      made (fun k => (i k).access) t ++ (ioInit.drop 4 ++ calls.flatMap IoCall.accesses) := by
    have hsplit : before ++ ioInit ++ calls.flatMap IoCall.accesses =
        before ++ ioInit.take 4 ++ (ioInit.drop 4 ++ calls.flatMap IoCall.accesses) := by
      rw [List.append_assoc before, List.append_assoc before, ← List.append_assoc (ioInit.take 4),
        List.take_append_drop]
    rw [h.driven, ← hsplit]
    have hmade := made_prefix (fun k => (i k).access) hkn
    exact hmade.trans h.going
  rw [Hpi.run_pio]
  exact (Pio.keeps_calls calls).made htk hidle hgoing

/-- From one clock after `IO_init` has driven both strobes high, whatever calls
follow, whatever their spacing and whenever the interface is reset, the FPGA and
the chip never drive the bus together and the two strobes are never low together. -/
theorem Hpi.no_contention {i : ℕ → HpiInputs} {before : List Access} {calls : List IoCall}
    {t n : ℕ} (h : CallsMade i before calls t n) (s : Hpi) (htn : t < n) :
    ¬ (Hpi.run i s n).Contends ∧
      ¬ ((Hpi.run i s n).intf.otgRdN = false ∧ (Hpi.run i s n).intf.otgWrN = false) := by
  obtain ⟨k, rfl⟩ : ∃ k, n = k + 1 := ⟨n - 1, by omega⟩
  exact Hpi.quiet_succ (h.exclusive s (by omega) (by omega)) (h.exclusive s (by omega) le_rfl)

/-- A write and a read right after it, one access a clock. -/
def busInputs (n : ℕ) : HpiInputs where
  reset := false
  chip := 0#16
  access := (ioInit ++ (ioWrite 2#8 0xABCD#16 ++ ioRead 0#8))[n]?

theorem Hpi.no_contention_read :
    let s : Hpi := ⟨⟨0#2, 0#16, false, false, false, false⟩,
      ⟨0#16, 0#2, false, false, false, false, 0#16⟩⟩
    ¬ (Hpi.run busInputs s 19).Contends ∧
      ¬ ((Hpi.run busInputs s 19).intf.otgRdN = false ∧
        (Hpi.run busInputs s 19).intf.otgWrN = false) := by
  intro s
  have hmade : CallsMade busInputs [] [.write 2#8 0xABCD#16, .read 0#8] 4 19 :=
    ⟨by decide, by decide⟩
  exact Hpi.no_contention hmade s (by omega)

end Undertale
