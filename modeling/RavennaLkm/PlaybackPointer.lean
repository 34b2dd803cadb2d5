import Mathlib.Tactic.Ring
import RavennaLkm.AudioDriverSpec
import RavennaLkm.ManagerSpec

/-!
The position that ALSA is told of during playback, and the bytes of the area that
were read until then. The area is read one PTP frame per interrupt, also where
ALSA expects one frame in two or four interrupts.
-/
namespace RavennaLkm
open CheckedLoop Gather AccessLog

namespace PCMSubstream

def alsaFrame (sub : PCMSubstream) (k : Nat) : List Nat :=
  gather (fun ch => (List.range (sub.format.width / 8)).map
    ((k % sub.bufferSize * sub.channels.toNat + ch) * sub.format.stride + ·)) sub.channels.toNat

/-- The position and the reads after `n` interrupts are those of `n * F / nb` frames. -/
def PositionLaw (sub : PCMSubstream) (F : UInt32) (start : AudioChip) : Prop :=
  ∀ dma n, sub.nbInterrupts.toNat ∣ n → ∃ chip reads, AudioChip.playbackRun F dma n start = .ok chip ∧
    (AudioChip.pcmPointer chip.playback).toNat = n * F.toNat / sub.nbInterrupts.toNat % sub.bufferSize ∧
    chip.dmaReads = start.dmaReads ++ reads ∧
    reads.Perm (gather sub.alsaFrame (n * F.toNat / sub.nbInterrupts.toNat))

/-- PCM, or DSD at the rate of the PTP frames with samples of two or four bytes. -/
def ReadAtOnce (sub : PCMSubstream) : Prop :=
  sub.dsdMode = 0 ∨ (sub.rate = ptpFrameRateForDSD ∧ sub.format ≠ .dsdU8)

variable {sub : PCMSubstream}

theorem width_le_stride (format : PCMFormat) : format.width / 8 ≤ format.stride := by
  cases format <;> decide

theorem length_alsaFrame (sub : PCMSubstream) (k : Nat) :
    (sub.alsaFrame k).length = sub.channels.toNat * (sub.format.width / 8) :=
  length_gather fun _ _ => by rw [List.length_map, List.length_range]

theorem format_cases (format : sub.format ∈ playbackFormats) (rate : sub.rate ∈ ratesByFormat sub.format) :
    (sub.dsdMode = 0 ∧ sub.format ∈ captureFormats) ∨
      (sub.format, sub.rate) ∈ [(.dsdU8, 352800), (.dsdU16BE, 176400), (.dsdU16BE, 352800), (.dsdU32BE, 88200),
        (.dsdU32BE, 176400), (.dsdU32BE, 352800)] := by
  unfold dsdMode
  cases isFormat : sub.format
  case dsdU8 =>
    rw [isFormat] at rate
    right
    rw [List.mem_singleton.mp rate]
    decide
  case dsdU16BE =>
    rw [isFormat] at rate
    right
    simp only [ratesByFormat, List.mem_cons, List.not_mem_nil, or_false] at rate
    rcases rate with isRate | isRate
    · rw [isRate]
      decide
    · rw [isRate]
      decide
  case dsdU32BE =>
    rw [isFormat] at rate
    right
    simp only [ratesByFormat, List.mem_cons, List.not_mem_nil, or_false] at rate
    rcases rate with isRate | isRate | isRate
    · rw [isRate]
      decide
    · rw [isRate]
      decide
    · rw [isRate]
      decide
  case dsdU16LE =>
    rw [isFormat] at format
    exact absurd format (by decide)
  case dsdU32LE =>
    rw [isFormat] at format
    exact absurd format (by decide)
  all_goals exact .inl ⟨rfl, by decide⟩

theorem ReadAtOnce.reads (once : sub.ReadAtOnce) (format : sub.format ∈ playbackFormats)
    (rate : sub.rate ∈ ratesByFormat sub.format) :
    sub.nbInterrupts = 1 ∧ (sub.readOffsets 1).Perm (List.range (sub.format.width / 8)) := by
  rcases format_cases format rate with ⟨mode, pcm⟩ | dsd
  · unfold nbInterrupts readOffsets
    rw [mode]
    refine ⟨rfl, ?_⟩
    generalize sub.format = f at pcm
    revert f
    decide
  · simp only [List.mem_cons, Prod.mk.injEq, List.not_mem_nil, or_false] at dsd
    unfold ReadAtOnce dsdMode at once
    unfold nbInterrupts readOffsets dsdMode
    rcases dsd with ⟨f, r⟩ | ⟨f, r⟩ | ⟨f, r⟩ | ⟨f, r⟩ | ⟨f, r⟩ | ⟨f, r⟩
    all_goals
      rw [f, r] at once ⊢
      revert once
      decide

/-- Else the bytes that a sample is read with, in all the interrupts of a period, are too many. -/
theorem reads_of_not_atOnce (more : ¬ sub.ReadAtOnce) (format : sub.format ∈ playbackFormats)
    (rate : sub.rate ∈ ratesByFormat sub.format) :
    0 < sub.nbInterrupts.toNat ∧
      sub.nbInterrupts.toNat * (sub.readOffsets sub.nbInterrupts.toNat).length ≠ sub.format.width / 8 := by
  rcases format_cases format rate with ⟨mode, -⟩ | dsd
  · exact absurd (.inl mode) more
  · simp only [List.mem_cons, Prod.mk.injEq, List.not_mem_nil, or_false] at dsd
    unfold ReadAtOnce dsdMode at more
    unfold nbInterrupts readOffsets dsdMode
    rcases dsd with ⟨f, r⟩ | ⟨f, r⟩ | ⟨f, r⟩ | ⟨f, r⟩ | ⟨f, r⟩ | ⟨f, r⟩
    all_goals
      rw [f, r] at more ⊢
      revert more
      decide

end PCMSubstream

theorem length_frameReads (offsets : List Nat) (strideIn src channels frames : Nat) :
    (frameReads offsets strideIn src channels frames).length = channels * (frames * offsets.length) :=
  length_gather fun _ _ => length_gather fun _ _ => List.length_map ..

/-- One interrupt reads the frames behind its position, each sample with `offsets`. -/
theorem frameReads_perm {offsets whole : List Nat} (perm : offsets.Perm whole) (strideIn o channels frames : Nat) :
    (frameReads offsets strideIn (o * (channels * strideIn)) channels frames).Perm
      (gather (fun f => gather (fun ch => whole.map (((o + f) * channels + ch) * strideIn + ·)) channels) frames) := by
  apply (gather_comm_perm ..).trans
  apply gather_perm
  intro f _
  apply gather_perm
  intro ch _
  rw [sample_address]
  exact perm.map _

namespace AudioChip

variable {sub : PCMSubstream} {F : UInt32} {start : AudioChip}

theorem length_frameReadsAt (frames o : Nat) : (frameReadsAt sub frames o).length =
    sub.channels.toNat * (frames * (sub.readOffsets sub.nbInterrupts.toNat).length) :=
  length_frameReads ..

theorem frameReadsAt_perm (reads : (sub.readOffsets sub.nbInterrupts.toNat).Perm (List.range (sub.format.width / 8)))
    (fits : RingCursor.Fits sub.bufferSize F.toNat 0) (k : Nat) :
    (frameReadsAt sub F.toNat (RingCursor.after sub.bufferSize F.toNat 0 k)).Perm
      (gather (fun f => sub.alsaFrame (k * F.toNat + f)) F.toNat) := by
  apply (frameReads_perm reads sub.format.stride _ sub.channels.toNat F.toNat).trans
  apply List.Perm.of_eq
  apply gather_congr
  intro f below
  have here := fits k
  unfold RingCursor.after at here ⊢
  rw [Nat.zero_add] at here ⊢
  have frame : (k * F.toNat + f) % sub.bufferSize = k * F.toNat % sub.bufferSize + f := by
    rw [Nat.add_mod, Nat.mod_eq_of_lt (show f < sub.bufferSize by omega), Nat.mod_eq_of_lt (by omega)]
  rw [PCMSubstream.alsaFrame, frame]

theorem pcmPointer_eq {p : PCMStream} {o : Nat} (sized : sub.Sized) (substream : p.substream = some sub)
    (stride : p.currentAlsaStride = UInt32.ofNat sub.format.stride) (once : p.nbInterruptsPerPeriod = 1)
    (at_ : p.dmaOffset.toNat = o * sub.frameBytes) : (pcmPointer p).toNat = o := by
  have positive := sized.frameBytes.1
  have factor := sized.toNat_frameBytes
  unfold pcmPointer
  rw [substream, once, stride]
  dsimp only
  rw [if_neg, if_neg (by decide), if_neg (by decide), if_neg (by decide), UInt32.toNat_div, at_, factor,
    Nat.mul_div_cancel _ positive]
  intro none
  rw [none] at factor
  exact absurd factor (by simp; omega)

theorem positionLaw_of_readAtOnce (sized : sub.Sized) (multiple : F.toNat ∣ sub.bufferSize)
    (prepared : PlayedFor sub F start 0 start) (once : sub.nbInterrupts = 1)
    (reads : (sub.readOffsets 1).Perm (List.range (sub.format.width / 8))) : sub.PositionLaw F start := by
  have positive := sized.bufferSize.1
  have short := Nat.le_of_dvd positive multiple
  have fits := RingCursor.fits_of_dvd positive multiple (Nat.dvd_zero _)
  have moves : 0 < F.toNat := Nat.pos_of_dvd_of_pos multiple positive
  have oneInterrupt : sub.nbInterrupts.toNat = 1 := by rw [once]; rfl
  have inside (n : Nat) :
      ∀ a ∈ frameReadsAt sub F.toNat (RingCursor.after sub.bufferSize F.toNat 0 n), a < sub.bufferBytes := by
    by_cases none : sub.readOffsets 1 = []
    · intro a isRead
      unfold frameReadsAt at isRead
      obtain ⟨_, -, inChannel⟩ := mem_gather.mp isRead
      obtain ⟨_, -, inSample⟩ := mem_gather.mp inChannel
      rw [oneInterrupt, none] at inSample
      cases inSample
    · unfold frameReadsAt
      rw [oneInterrupt]
      apply (frameReads_inside_iff ?_ none sized.channels.1 moves).mpr (fits n)
      intro k isOffset
      exact Nat.lt_of_lt_of_le (List.mem_range.mp (reads.mem_iff.mp isOffset)) (PCMSubstream.width_le_stride _)
  intro dma n _
  obtain ⟨chip, ran, played⟩ := playbackRun_succeeds sized short prepared inside dma n
  rw [oneInterrupt, Nat.div_one]
  refine ⟨chip, _, ran, ?_, played.reads, ?_⟩
  · rw [pcmPointer_eq sized played.playing.substream played.playing.stride
      (played.playing.interrupts.trans once) played.dmaOffset, RingCursor.after, Nat.zero_add]
  · rw [gather_mul]
    apply gather_perm
    intro k _
    exact frameReadsAt_perm (by rwa [oneInterrupt]) fits k

theorem readAtOnce_of_positionLaw (sized : sub.Sized) (multiple : F.toNat ∣ sub.bufferSize)
    (prepared : PlayedFor sub F start 0 start) (format : sub.format ∈ playbackFormats)
    (rate : sub.rate ∈ ratesByFormat sub.format) (law : sub.PositionLaw F start) : sub.ReadAtOnce := by
  by_contra more
  obtain ⟨interrupts, tooMany⟩ := PCMSubstream.reads_of_not_atOnce more format rate
  have positive := sized.bufferSize.1
  have moves : 0 < F.toNat := Nat.pos_of_dvd_of_pos multiple positive
  obtain ⟨chip, reads, ran, -, isReads, perm⟩ := law (fun _ _ => 0) sub.nbInterrupts.toNat (Nat.dvd_refl _)
  have played := playbackRun_played sized (Nat.le_of_dvd positive multiple) prepared _ _ ran
  have same := List.append_cancel_left (played.reads.symm.trans isReads)
  have length := perm.length_eq
  rw [Nat.mul_div_cancel_left _ interrupts, ← same,
    length_gather fun k _ => length_frameReadsAt F.toNat _,
    length_gather fun k _ => sub.length_alsaFrame k] at length
  apply tooMany
  -- both are counted for each channel and each of the F frames
  have scaled : sub.channels.toNat * F.toNat *
        (sub.nbInterrupts.toNat * (sub.readOffsets sub.nbInterrupts.toNat).length) =
      sub.channels.toNat * F.toNat * (sub.format.width / 8) := by
    calc sub.channels.toNat * F.toNat * (sub.nbInterrupts.toNat * (sub.readOffsets sub.nbInterrupts.toNat).length)
      _ = sub.nbInterrupts.toNat *
          (sub.channels.toNat * (F.toNat * (sub.readOffsets sub.nbInterrupts.toNat).length)) := by ring
      _ = F.toNat * (sub.channels.toNat * (sub.format.width / 8)) := length
      _ = sub.channels.toNat * F.toNat * (sub.format.width / 8) := by ring
  exact Nat.eq_of_mul_eq_mul_left (Nat.mul_pos sized.channels.1 moves) scaled

/-- For every configuration of a playback and every frame that its buffer is a multiple of. -/
theorem positionLaw_iff {m : Manager} {c : HwConstraints} {chip : AudioChip} {before : Manager} {err : Int32}
    (opened : pcmOpen playbackFormats m = .ok c) (allows : c.Allows sub)
    (prepared : chip.preparePlayback sub before err = some start) (multiple : F.toNat ∣ sub.bufferSize) :
    sub.PositionLaw F start ↔ sub.ReadAtOnce := by
  have sized := pcmOpen_sized opened allows
  obtain ⟨playing, atStart, -, -⟩ := preparePlayback_playing prepared
  have played := prepared_played F playing sized atStart
  have format : sub.format ∈ playbackFormats := by
    rw [← (pcmOpen_eq opened).2.1]
    exact allows.format
  constructor
  · exact readAtOnce_of_positionLaw sized multiple played format allows.rateByFormat
  · intro once
    obtain ⟨oneInterrupt, reads⟩ := once.reads format allows.rateByFormat
    exact positionLaw_of_readAtOnce sized multiple played oneInterrupt reads

def stereo : PCMSubstream :=
  { periodSize := 512, periods := 2, fits := by decide, format := .s16LE, rate := 44100, channels := 2,
    bufferSize := 1024 }

theorem stereo_allowed : ∃ c, pcmOpen playbackFormats Manager.loaded = .ok c ∧ c.Allows stereo := by
  refine ⟨_, rfl, ?_⟩
  constructor
  all_goals decide

theorem positionLaw_stereo :
    ∃ start, ({} : AudioChip).preparePlayback stereo Manager.loaded 0 = some start ∧ stereo.PositionLaw 512 start := by
  obtain ⟨c, opened, allows⟩ := stereo_allowed
  obtain ⟨start, prepared⟩ : ∃ start, ({} : AudioChip).preparePlayback stereo Manager.loaded 0 = some start := ⟨_, rfl⟩
  refine ⟨start, prepared, ?_⟩
  apply (positionLaw_iff opened allows prepared (by decide)).mpr
  exact .inl rfl

def dsd64Manager : Manager :=
  { Manager.loaded with ticFrameSizeAt1FS := 48, sampleRate := 2822400, frameSize := 384 }

def dsdU16 : PCMSubstream :=
  { periodSize := 384, periods := 2, fits := by decide, format := .dsdU16BE, rate := 176400, channels := 2,
    bufferSize := 768 }

/-- The two interrupts of a period read two PTP frames, where ALSA expects one. -/
theorem positionLaw_fails :
    ∃ c start, pcmOpen playbackFormats dsd64Manager = .ok c ∧ c.Allows dsdU16 ∧ dsdU16.nbInterrupts = 2 ∧
      ({} : AudioChip).preparePlayback dsdU16 dsd64Manager 0 = some start ∧
      dsd64Manager.frameSize.toNat ∣ dsdU16.bufferSize ∧ ¬ dsdU16.PositionLaw dsd64Manager.frameSize start := by
  have allowed : ∃ c, pcmOpen playbackFormats dsd64Manager = .ok c ∧ c.Allows dsdU16 := by
    refine ⟨_, rfl, ?_⟩
    constructor
    all_goals decide
  obtain ⟨c, opened, allows⟩ := allowed
  obtain ⟨start, prepared⟩ : ∃ start, ({} : AudioChip).preparePlayback dsdU16 dsd64Manager 0 = some start := ⟨_, rfl⟩
  refine ⟨c, start, opened, allows, rfl, prepared, by decide, ?_⟩
  intro law
  have sized := pcmOpen_sized opened allows
  obtain ⟨playing, atStart, -, -⟩ := preparePlayback_playing prepared
  have once := readAtOnce_of_positionLaw sized (by decide) (prepared_played _ playing sized atStart) (by decide)
    (by decide) law
  revert once
  unfold PCMSubstream.ReadAtOnce
  decide

end AudioChip
end RavennaLkm
