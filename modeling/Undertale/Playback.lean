import Undertale.Audio
import Undertale.CodecSetup

/-!
# Playing the music

`lab9` plays the song of the current scene.  `audio` steps through the samples, the three
music memories are read at its address in every clock, and the status selects which of
them goes to both channels of `audio_interface`.

Two modules wait for each other here.  `audio` stays in `WAIT` until the codec is set up,
which takes a fixed time (`Sound.run_iff`), and then the address counts the requests
modulo the length of the song (`Audio.add_mod`).  The sample on its way to the codec is
the one that was addressed when the frame began (`Sound.serial`).
-/

namespace Undertale

open Clocked

/-! ## The design -/

/-- The contents of the music memories. -/
structure Songs where
  music1 : BitVec 17 → BitVec 17
  music2 : BitVec 17 → BitVec 17
  music3 : BitVec 17 → BitVec 17

/-- The registers that play the music. -/
@[ext]
structure Sound where
  audio : Audio
  musicContent1 : BitVec 17
  musicContent2 : BitVec 17
  musicContent3 : BitVec 17
  audioInterface : AudioInterface
deriving DecidableEq, Repr

/-- The inputs of one cycle.  `reset` is `Reset_h`. -/
structure SoundInputs where
  reset : Bool
  status : BitVec 4
  audBclk : Bool
  audDaclrck : Bool

/-- `music_content`. -/
def Sound.musicContent (status : BitVec 4) (r : Sound) : BitVec 17 :=
  if status = 1#4 ∨ status = 2#4 ∨ status = 6#4 ∨ status = 7#4 then r.musicContent1
  else if status = 3#4 then r.musicContent3
  else if status = 4#4 ∨ status = 5#4 then r.musicContent2
  else 0#17

/-- The song of a scene, by the same selection. -/
def Songs.song (songs : Songs) (status : BitVec 4) (add : BitVec 17) : BitVec 17 :=
  if status = 1#4 ∨ status = 2#4 ∨ status = 6#4 ∨ status = 7#4 then songs.music1 add
  else if status = 3#4 then songs.music3 add
  else if status = 4#4 ∨ status = 5#4 then songs.music2 add
  else 0#17

/-- What `audio` samples. -/
def Sound.audioInputs (i : SoundInputs) (r : Sound) : AudioInputs where
  reset := i.reset
  initFinish := r.audioInterface.initFinish
  dataOver := r.audioInterface.dataOver

/-- What `audio_interface` samples.  Its data inputs take the low 16 bits of the
content. -/
def Sound.interfaceInputs (i : SoundInputs) (r : Sound) : AudioInterfaceInputs where
  reset := i.reset
  ldata := (r.musicContent i.status).setWidth 16
  rdata := (r.musicContent i.status).setWidth 16
  audBclk := i.audBclk
  audDaclrck := i.audDaclrck

/-- One clock edge.  `reset'` is the level of `Reset_h` after it. -/
def Sound.step (songs : Songs) (i : SoundInputs) (reset' : Bool) (r : Sound) : Sound where
  audio := r.audio.step (r.audioInputs i)
  musicContent1 := songs.music1 r.audio.add
  musicContent2 := songs.music2 r.audio.add
  musicContent3 := songs.music3 r.audio.add
  audioInterface := r.audioInterface.step (r.interfaceInputs i) reset'

/-- A run from the registers `r` on the inputs `i`. -/
def Sound.run (songs : Songs) (i : ℕ → SoundInputs) (r : Sound) : ℕ → Sound :=
  Clocked.run (fun n => Sound.step songs (i n) (i (n + 1)).reset) r

/-! ## The shift register -/

section serial
variable {i : ℕ → AudioInterfaceInputs} {r : ℕ → Dac} {a n : ℕ}

/-- The bit clock of the codec. -/
def AudioInterfaceInputs.bclk (i : ℕ → AudioInterfaceInputs) (n : ℕ) : Bool := (i n).audBclk

/-- The frame clock of the codec. -/
def AudioInterfaceInputs.lrck (i : ℕ → AudioInterfaceInputs) (n : ℕ) : Bool := (i n).audDaclrck

open AudioInterfaceInputs

variable (hr : ∀ k, a < k → k < n → r (k + 1) = (r k).step (i k))
  (hs0 : (r (a + 1)).dack.s0 = false) (hrise : Rises (lrck i) a)
  (hno : ∀ k, a < k → k < n → ¬ Rises (lrck i) k) (hn : a + 3 ≤ n)
include hr hs0 hrise hno hn

/-- Three clocks after the frame clock has risen the sample is loaded, and from then on
the bit count goes down where the bit clock has fallen. -/
theorem Dac.held :
    (r n).lrdata = (i (a + 2)).ldata ++ (i (a + 2)).rdata ∧
      (r n).bcount = 31#5 - BitVec.ofNat 5 (countIn (Falls (bclk i)) (a + 1) (n - 2)) := by
  have hdack : ∀ k, a < k → k + 2 ≤ n →
      ((r (k + 2)).dack.rising = true ↔ Rises (lrck i) k) := fun k hk hkn =>
    rising_iff (s := fun k => (r k).dack) (by rw [hr k hk (by omega)]; rfl)
      (by rw [hr (k + 1) (by omega) (by omega)]; rfl)
  have hbck : ∀ k, a < k → k + 2 ≤ n →
      ((r (k + 2)).bck.falling = true ↔ Falls (bclk i) k) := fun k hk hkn =>
    falling_iff (s := fun k => (r k).bck) (by rw [hr k hk (by omega)]; rfl)
      (by rw [hr (k + 1) (by omega) (by omega)]; rfl)
  refine preserved (P := fun n => (r n).lrdata = (i (a + 2)).ldata ++ (i (a + 2)).rdata ∧
    (r n).bcount = 31#5 - BitVec.ofNat 5 (countIn (Falls (bclk i)) (a + 1) (n - 2))) hn ?_
    fun k hk hkn ih => ?_
  · have hdack' : (r (a + 2)).dack = ⟨lrck i (a + 1), (r (a + 1)).dack.s0⟩ := by
      rw [hr (a + 1) (by omega) (by omega)]
      rfl
    have hload : (r (a + 2)).dack.rising = true := by
      rw [hdack', hs0, hrise.2]
      rfl
    rw [hr (a + 2) (by omega) (by omega), show a + 3 - 2 = a + 1 by omega, countIn_self]
    exact ⟨if_pos hload, if_pos hload⟩
  · obtain ⟨j, rfl⟩ : ∃ j, k = j + 2 := ⟨k - 2, by omega⟩
    have hload : (r (j + 2)).dack.rising = false := by
      rw [← Bool.not_eq_true, hdack j (by omega) (by omega)]
      exact hno j (by omega) (by omega)
    rw [hr (j + 2) (by omega) hkn]
    simp only [Dac.step, hload, if_neg Bool.false_ne_true]
    refine ⟨ih.1, ?_⟩
    rw [show j + 2 + 1 - 2 = j + 1 by omega, countIn_succ (by omega), ih.2,
      show j + 2 - 2 = j by omega]
    rcases Classical.em (Falls (bclk i) j) with hfall | hfall
    · have hfalling : (r (j + 2)).bck.falling = true := (hbck j (by omega) (by omega)).mpr hfall
      have hrising : (r (j + 2)).bck.rising ≠ true := fun h => by
        rw [Sampler.not_falling_of_rising h] at hfalling
        cases hfalling
      rw [if_neg fun h => hrising h.1, if_pos hfalling, if_pos hfall, BitVec.ofNat_add]
      exact BitVec.sub_sub _ _ _
    · have hfalling : (r (j + 2)).bck.falling ≠ true := fun h =>
        hfall ((hbck j (by omega) (by omega)).mp h)
      rw [if_neg hfall, if_neg hfalling, ite_self]
      rfl

/-- At its `j`-th rise after the frame clock, counted from 0, the bit clock finds bit `j`
of the sample, if it was low when the frame clock rose and for three clocks before the
rise. -/
theorem Dac.audDacdat_eq {j : ℕ} (hj : j < 32) (hlow : bclk i (a + 1) = false)
    (hbit : IsNth (Rises (bclk i)) (a + 1) (j + 1) n)
    (hwait : bclk i (n - 1) = false ∧ bclk i (n - 2) = false) :
    (r n).audDacdat = ((i (a + 2)).ldata ++ (i (a + 2)).rdata).getMsbD j := by
  obtain ⟨hdata, hcount⟩ := Dac.held hr hs0 hrise hno hn
  have hfalls : countIn (Falls (bclk i)) (a + 1) (n - 2) = j := by
    have halternate := countIn_rises (bclk i) (a := a + 1) (b := n) (by omega)
    have hquiet : countIn (Falls (bclk i)) (a + 1) n =
        countIn (Falls (bclk i)) (a + 1) (n - 2) := by
      refine countIn_eq_of_quiet (by omega) (by omega) fun k hk hkn hfall => ?_
      have hhigh := hfall.1
      obtain rfl | rfl : k = n - 2 ∨ k = n - 1 := by omega
      · rw [hwait.2] at hhigh; cases hhigh
      · rw [hwait.1] at hhigh; cases hhigh
    have hrises := hbit.countIn_eq
    rw [hlow, hbit.2.1.1] at halternate
    simp only [Bool.toNat_false] at halternate
    omega
  rw [Dac.audDacdat, hdata, hcount, hfalls, BitVec.getMsbD]
  have hindex : (31#5 - BitVec.ofNat 5 j).toNat = 31 - j := by
    rw [BitVec.toNat_sub, BitVec.toNat_ofNat, BitVec.toNat_ofNat]
    omega
  rw [hindex]
  simp [hj]

end serial

/-! ## The design in a run -/

section run
variable {songs : Songs} {i : ℕ → SoundInputs} {r : Sound} {m n : ℕ}

/-- The interface in a run is a run of the interface. -/
theorem Sound.audioInterface_eq (n : ℕ) :
    (Sound.run songs i r n).audioInterface =
      AudioInterface.run (fun k => (Sound.run songs i r k).interfaceInputs (i k))
        r.audioInterface n :=
  run_map Sound.audioInterface (fun _ => rfl) n

/-- While `Reset_h` is low the shift register takes its steps. -/
theorem Sound.dac_succ (hlow : (i n).reset = false) (hlow' : (i (n + 1)).reset = false) :
    (Sound.run songs i r (n + 1)).audioInterface.dac =
      (Sound.run songs i r n).audioInterface.dac.step
        ((Sound.run songs i r n).interfaceInputs (i n)) := by
  have hinput : ((Sound.run songs i r n).interfaceInputs (i n)).reset = false := hlow
  show (AudioInterface.step ((Sound.run songs i r n).interfaceInputs (i n)) (i (n + 1)).reset
    (Sound.run songs i r n).audioInterface).dac = _
  rw [AudioInterface.step, hinput, hlow']
  rfl

/-- A low frame clock is sampled as low, also by an edge at which `Reset_h` is high. -/
theorem Sound.dack_low (hlow : (i n).audDaclrck = false) :
    (Sound.run songs i r (n + 1)).audioInterface.dac.dack.s0 = false := by
  show (AudioInterface.step _ (i (n + 1)).reset _).dac.dack.s0 = _
  rw [AudioInterface.step]
  split
  · rfl
  · split
    · rfl
    · exact hlow

/-- The content of a clock is the sample addressed in the clock before. -/
theorem Sound.musicContent_succ (status : BitVec 4) :
    (Sound.run songs i r (n + 1)).musicContent status =
      songs.song status (Sound.run songs i r n).audio.add := rfl

end run

/-- In every run, `audio` is in `RUN` from 258564 clocks after a reset on, which is when the
codec is set up, until the next reset. -/
theorem Sound.run_iff (songs : Songs) (i : ℕ → SoundInputs) (r : Sound) (m n : ℕ)
    (hreset : (i m).reset = true) (hlow : ∀ k, m < k → k ≤ m + n → (i k).reset = false)
    (hn : 1 ≤ n) :
    (Sound.run songs i r (m + n)).audio.state = .run ↔ 258564 ≤ n := by
  have hfinish : ∀ k, 1 ≤ k → k ≤ n →
      ((Sound.run songs i r (m + k)).audioInterface.initFinish = true ↔ 258563 ≤ k) := by
    intro k hk hkn
    rw [Sound.audioInterface_eq]
    exact AudioInterface.initFinish_iff hreset hk fun l hl hl' => hlow l hl (by omega)
  refine preserved (P := fun n =>
    (Sound.run songs i r (m + n)).audio.state = .run ↔ 258564 ≤ n) hn ?_ fun k hk hkn ih => ?_
  · have hzero : (Sound.run songs i r (m + 1)).audio = Audio.zero := Audio.step_reset hreset
    rw [hzero]
    exact iff_of_false AudioState.noConfusion (by decide)
  · have hlow' : ((Sound.run songs i r (m + k)).audioInputs (i (m + k))).reset = false :=
      hlow _ (by omega) (by omega)
    have hstep : (Sound.run songs i r (m + (k + 1))).audio =
        (Sound.run songs i r (m + k)).audio.step
          ((Sound.run songs i r (m + k)).audioInputs (i (m + k))) := rfl
    rw [hstep]
    cases hs : (Sound.run songs i r (m + k)).audio.state with
    | run =>
        rw [Audio.state_run hlow' hs]
        exact iff_of_true rfl (by have := ih.mp hs; omega)
    | wait =>
        have hbefore : ¬ 258564 ≤ k := fun h => by
          rw [ih.mpr h] at hs
          cases hs
        rw [Audio.step_wait hlow' hs]
        show (if (Sound.run songs i r (m + k)).audioInterface.initFinish then _ else _) = _ ↔ _
        rcases Nat.lt_or_ge k 258563 with hlt | hge
        · rw [if_neg ((hfinish k hk (by omega)).not.mpr (by omega))]
          exact iff_of_false AudioState.noConfusion (by omega)
        · rw [if_pos ((hfinish k hk (by omega)).mpr hge)]
          exact iff_of_true rfl (by omega)

/-- Songs whose samples are their addresses. -/
def scale : Songs := ⟨id, id, id⟩

/-- The registers before the first reset. -/
def Sound.powerUp : Sound :=
  ⟨⟨.run, 77#16, 99999#17⟩, 0#17, 0#17, 0#17, ⟨I2c.zero, ⟨.zero, .zero, 0#32, 0#5, false⟩⟩⟩

/-- The title scene, reset in its second cycle. -/
def titleScene (n : ℕ) : SoundInputs := ⟨n == 1, 1#4, false, false⟩

theorem Sound.run_titleScene :
    (Sound.run scale titleScene Sound.powerUp (1 + 258564)).audio.state = .run :=
  (Sound.run_iff scale titleScene Sound.powerUp 1 258564 rfl
    (fun _ hk _ => beq_eq_false_iff_ne.mpr (Nat.ne_of_gt hk)) (by decide)).mpr le_rfl

/-- In every run from a reset, with `Reset` low afterwards and whatever the codec asks for,
the address counts the requests modulo 46094.  Where the count has come to a multiple the
address shows 46094 for one clock. -/
theorem Audio.add_mod (i : ℕ → AudioInputs) (r : Audio) (h0 : (i 0).reset = true)
    (hlow : ∀ n, 1 ≤ n → (i n).reset = false) (s n : ℕ) (hstart : Audio.Starts i s) (hn : s < n) :
    (Audio.run i r n).add.toNat =
      if Audio.Requests i s (n - 1) ∧ countIn (Audio.Requests i s) 0 n % 46094 = 0 then 46094
      else countIn (Audio.Requests i s) 0 n % 46094 := by
  have hr : ∀ n, Audio.run i r (n + 1) = (Audio.run i r n).step (i n) := fun _ => rfl
  refine preserved (P := fun n => (Audio.run i r n).add.toNat =
    if Audio.Requests i s (n - 1) ∧ countIn (Audio.Requests i s) 0 n % 46094 = 0 then 46094
    else countIn (Audio.Requests i s) 0 n % 46094) (Nat.succ_le_of_lt hn) ?_
    fun k hk _ ih => ?_
  · have hnone : countIn (Audio.Requests i s) 0 (s + 1) = countIn (Audio.Requests i s) 0 0 :=
      countIn_eq_of_quiet le_rfl (Nat.zero_le _) fun n _ hn h => by have := h.1; omega
    have hno : ¬ Audio.Requests i s (s + 1 - 1) := fun h => by have := h.1; omega
    rw [Audio.at_start hr h0 hlow hstart, hnone, countIn_self, if_neg fun h => hno h.1]
    rfl
  · rw [Audio.add_succ hr h0 hlow hstart hk, countIn_succ (Nat.zero_le k), Nat.add_sub_cancel]
    rcases Classical.em (Audio.Requests i s (k - 1) ∧
      countIn (Audio.Requests i s) 0 k % 46094 = 0) with hlast | hlast
    · -- the phases of two requests differ by 127 clocks
      have hno : ¬ Audio.Requests i s k := fun h => by
        have h1 := h.2.1
        have h2 := hlast.1.2.1
        omega
      rw [if_pos hlast] at ih
      rw [if_pos ih, if_neg hno, if_neg fun h => hno h.1]
      exact hlast.2.symm
    · rw [if_neg hlast] at ih
      rw [if_neg (by omega), ih]
      rcases Classical.em (Audio.Requests i s k) with hrequest | hno
      · rw [if_pos hrequest, if_pos hrequest]
        rcases Nat.eq_zero_or_pos ((countIn (Audio.Requests i s) 0 k + 1) % 46094) with hmod | hmod
        · rw [if_pos ⟨hrequest, hmod⟩]
          omega
        · rw [if_neg fun h => Nat.ne_of_gt hmod h.2]
          omega
      · rw [if_neg hno, if_neg hno, if_neg fun h => hno h.1]
        rfl

/-- After 46104 requests the address has wrapped once. -/
theorem Audio.add_mod_longPlay :
    (Audio.run longPlay Audio.zero (127 * 46104 + 127)).add.toNat = 10 := by
  have hmod := Audio.add_mod longPlay Audio.zero rfl
    (fun _ hn => beq_eq_false_iff_ne.mpr (Nat.ne_of_gt hn)) 1 (127 * 46104 + 127) longPlay_starts
    (by decide)
  rw [longPlay_count, if_neg fun h => absurd h.2 (by decide)] at hmod
  exact hmod

/-- A sample on both channels.  The interface takes its low 16 bits. -/
def stereo (sample : BitVec 17) : BitVec 32 := sample.setWidth 16 ++ sample.setWidth 16

/-- In every run, the codec finds on its `j`-th bit clock after the rise of the frame
clock, counted from 0, bit `j` of what the song of the scene has at the address of the
frame, on both channels.  The bit clock is low when the frame clock rises, and low for
three clocks before its own rise. -/
theorem Sound.serial (songs : Songs) (i : ℕ → SoundInputs) (r : Sound) (a n j : ℕ)
    (hreset : ∀ k, a < k → k ≤ n → (i k).reset = false)
    (hrise : Rises (fun k => (i k).audDaclrck) a)
    (hno : ∀ k, a < k → k < n → ¬ Rises (fun k => (i k).audDaclrck) k) (hn : a + 3 ≤ n)
    (hj : j < 32) (hlow : (i (a + 1)).audBclk = false)
    (hbit : IsNth (Rises fun k => (i k).audBclk) (a + 1) (j + 1) n)
    (hwait : (i (n - 1)).audBclk = false ∧ (i (n - 2)).audBclk = false) :
    (Sound.run songs i r n).audioInterface.dac.audDacdat =
      (stereo (songs.song (i (a + 2)).status
        (Sound.run songs i r (a + 1)).audio.add)).getMsbD j := by
  have hcontent : (Sound.run songs i r (a + 2)).musicContent (i (a + 2)).status =
      songs.song (i (a + 2)).status (Sound.run songs i r (a + 1)).audio.add :=
    Sound.musicContent_succ _
  have hbit' := Dac.audDacdat_eq (i := fun k => (Sound.run songs i r k).interfaceInputs (i k))
    (r := fun k => (Sound.run songs i r k).audioInterface.dac)
    (fun k hk hkn => Sound.dac_succ (hreset k hk (by omega)) (hreset (k + 1) (by omega) (by omega)))
    (Sound.dack_low hrise.1) hrise hno hn hj hlow hbit hwait
  rw [← hcontent]
  exact hbit'

/-- A codec that waits four clocks between its edges, and a frame in clock 9. -/
def oneFrame (n : ℕ) : SoundInputs := ⟨false, 4#4, decide (4 ≤ (n + 6) % 8), decide (10 ≤ n)⟩

theorem Sound.serial_oneFrame :
    (Sound.run scale oneFrame Sound.powerUp 13).audioInterface.dac.audDacdat =
      (stereo (scale.song 4#4 (Sound.run scale oneFrame Sound.powerUp 10).audio.add)).getMsbD 0 :=
  Sound.serial scale oneFrame Sound.powerUp 9 13 0 (fun _ _ _ => rfl) ⟨rfl, rfl⟩
    (fun k hk _ h => of_decide_eq_false h.1 hk)
    (by decide) (by decide) (by decide) ⟨by decide, by decide, by decide⟩ ⟨by decide, by decide⟩

end Undertale
