import RavennaLkm.PlaybackPointer

/-!
Which geometries keep the interrupts inside the DMA areas and the rings. Nothing
wraps within a frame, neither in the area nor at the end of a ring that is
shorter than the longest one, so that both must be whole numbers of frames.
-/
namespace RavennaLkm
open CheckedLoop Gather

theorem nFS_eq_periodFactor {rate : UInt32} (supported : rate ∈ supportedRates) : nFS rate = periodFactor rate := by
  simp only [supportedRates, List.mem_cons, List.not_mem_nil, or_false] at supported
  rcases supported with rfl | rfl | rfl | rfl | rfl | rfl | rfl | rfl
  all_goals rfl

theorem frameSize_le (m : Manager) (rate : UInt32) :
    (m.withRate rate).frameSize.toNat ≤ m.maxFrameSize.toNat ∧
      (m.withRate rate).frameSize.toNat ≤ (m.getMinInterruptsFrameSize * nFS rate).toNat := by
  unfold Manager.withRate Manager.updateFrameSize Manager.getMinInterruptsFrameSize
  dsimp only
  split
  · rename_i capped
    exact ⟨Nat.le_refl _, Nat.le_of_lt (UInt32.lt_iff_toNat_lt.mp capped)⟩
  · rename_i under
    exact ⟨Nat.le_of_not_lt fun beyond => under (UInt32.lt_iff_toNat_lt.mpr beyond), Nat.le_refl _⟩

/-- The frame of a manager that was changed to the rate of a substream is no longer than its period. -/
theorem frameSize_le_period {formats : List PCMFormat} {m : Manager} {c : HwConstraints} {sub : PCMSubstream}
    (opened : pcmOpen formats m = .ok c) (allows : c.Allows sub) :
    (m.withRate sub.rate).frameSize.toNat ≤ sub.periodSize := by
  obtain ⟨-, -, isMin, -⟩ := pcmOpen_eq opened
  have atLeast := allows.periodSizeByRate.1
  rw [isMin, ← nFS_eq_periodFactor allows.rate] at atLeast
  exact Nat.le_trans (frameSize_le m sub.rate).2 atLeast

theorem frameSize_pos {formats : List PCMFormat} {m : Manager} {c : HwConstraints} {sub : PCMSubstream}
    (opened : pcmOpen formats m = .ok c) (allows : c.Allows sub) :
    0 < (m.withRate sub.rate).frameSize.toNat := by
  obtain ⟨longest, -⟩ := pcmOpen_eq opened
  have shortest := Manager.minFrame_ne_zero longest sub.rate
  rw [← nFS_eq_periodFactor allows.rate] at shortest
  have some_ : (m.withRate sub.rate).frameSize ≠ 0 := by
    unfold Manager.withRate Manager.updateFrameSize
    dsimp only
    split
    · intro none
      apply longest
      unfold Manager.getMaxInterruptsFrameSize
      rw [none]
      apply UInt32.toNat_inj.mp
      rw [toNat_min]
      exact Nat.zero_min _
    · exact shortest
  exact Nat.pos_of_ne_zero fun none => some_ (UInt32.toNat_inj.mp none)

theorem pcmOpen_periodsMax {formats : List PCMFormat} {m : Manager} {c : HwConstraints}
    (opened : pcmOpen formats m = .ok c) : c.periodsMax = ringBufferSize / m.getMaxInterruptsFrameSize := by
  unfold pcmOpen at opened
  dsimp only at opened
  split at opened
  · cases opened
  · cases opened
    rfl

/-- With eight frames at 1FS nothing is lost that a shorter multiple has. -/
theorem minFrame_le_eight (min rate : UInt32) (small : (min * periodFactor rate).toNat < 2 ^ 29) :
    (min * periodFactor rate).toNat ≤ (min * 8).toNat := by
  rcases periodFactor_cases rate with factor | factor | factor | factor
  · rw [factor, UInt32.mul_one] at small ⊢
    rw [UInt32.toNat_mul]
    change _ ≤ min.toNat * 8 % 2 ^ 32
    omega
  · rw [factor] at small ⊢
    rw [show (8 : UInt32) = 2 * 4 from rfl, ← UInt32.mul_assoc, UInt32.toNat_mul (min * 2)]
    change _ ≤ (min * 2).toNat * 4 % 2 ^ 32
    omega
  · rw [factor] at small ⊢
    rw [show (8 : UInt32) = 4 * 2 from rfl, ← UInt32.mul_assoc, UInt32.toNat_mul (min * 4)]
    change _ ≤ (min * 4).toNat * 2 % 2 ^ 32
    omega
  · rw [factor]

/-- The frame is no longer than the ring, which is the longest one when a DSD mode is left over from before. -/
theorem frameSize_le_ring {formats : List PCMFormat} {m : Manager} {c : HwConstraints} {sub : PCMSubstream}
    (opened : pcmOpen formats m = .ok c) (allows : c.Allows sub) (dsd : UInt32) :
    (m.withRate sub.rate).frameSize.toNat ≤ (AudioChip.ringBufferFrames dsd sub).toNat := by
  have sized := pcmOpen_sized opened allows
  have periods := allows.periods
  have inPeriod : sub.periodSize ≤ sub.ringFrames := Nat.le_mul_of_pos_right _ (by omega)
  obtain ⟨isRing, small⟩ := AudioChip.toNat_ringFrames sized
  by_cases pcm : dsd = 0
  · rw [pcm, isRing]
    exact Nat.le_trans (frameSize_le_period opened allows) inPeriod
  · obtain ⟨longest, -, isMin, -⟩ := pcmOpen_eq opened
    obtain ⟨capped, scaled⟩ := frameSize_le m sub.rate
    rw [nFS_eq_periodFactor allows.rate] at scaled
    have atLeast := allows.periodSizeByRate.1
    rw [isMin] at atLeast
    have eight := minFrame_le_eight m.getMinInterruptsFrameSize sub.rate (by omega)
    have inLongest : (m.withRate sub.rate).frameSize.toNat ≤ m.getMaxInterruptsFrameSize.toNat := by
      unfold Manager.getMaxInterruptsFrameSize
      rw [toNat_min]
      omega
    have several := periods.2
    rw [pcmOpen_periodsMax opened, UInt32.toNat_div] at several
    have fits : m.getMaxInterruptsFrameSize.toNat ≤ ringBufferSize.toNat := by
      by_contra beyond
      rw [Nat.div_eq_of_lt (by omega)] at several
      omega
    unfold AudioChip.ringBufferFrames
    rw [if_pos pcm]
    exact Nat.le_trans inLongest fits

namespace AudioChip

theorem pcm_reads {sub : PCMSubstream} (pcm : sub.format ∈ captureFormats) (nb : Nat) :
    (∀ k ∈ sub.readOffsets nb, k < sub.format.stride) ∧ sub.readOffsets nb ≠ [] := by
  have mode : sub.dsdMode = 0 := by
    unfold PCMSubstream.dsdMode getDSDSampleRate
    generalize sub.format = format at pcm
    simp only [captureFormats, List.mem_cons, List.not_mem_nil, or_false] at pcm
    rcases pcm with rfl | rfl | rfl | rfl
    all_goals rfl
  unfold PCMSubstream.readOffsets sampleReads
  rw [if_pos mode]
  generalize sub.format = format at pcm
  simp only [captureFormats, List.mem_cons, List.not_mem_nil, or_false] at pcm
  rcases pcm with rfl | rfl | rfl | rfl
  all_goals decide

/-- In PCM a frame is read from the inside of the area exactly when it ends there. -/
theorem frameReadsAt_inside_iff {sub : PCMSubstream} (pcm : sub.format ∈ captureFormats) (sized : sub.Sized)
    {F o : Nat} (moves : 0 < F) :
    (∀ a ∈ frameReadsAt sub F o, a < sub.bufferBytes) ↔ o + F ≤ sub.bufferSize := by
  obtain ⟨narrow, some_⟩ := pcm_reads pcm sub.nbInterrupts.toNat
  exact frameReads_inside_iff narrow some_ sized.channels.1 moves

structure PCMPlayedFor (sub : PCMSubstream) (F : UInt32) (start : AudioChip) (n : Nat) (chip : AudioChip) : Prop
    extends PlayedFor sub F start n chip where
  pcm : chip.currentDSD = 0
  bufferPos : chip.playback.bufferPos.toNat = RingCursor.after sub.ringFrames F.toNat 0 n

theorem PCMPlayedFor.positions {sub : PCMSubstream} {F : UInt32} {start chip : AudioChip} {n : Nat}
    (played : PCMPlayedFor sub F start n chip) (sized : sub.Sized) :
    PositionsAfter sub 0 F.toNat 0 n chip.playback where
  dmaOffset := played.dmaOffset
  bufferPos := by
    rw [(toNat_ringFrames sized).1]
    exact played.bufferPos

theorem PCMPlayedFor.interrupt {sub : PCMSubstream} {F : UInt32} {start chip : AudioChip} {n : Nat}
    (played : PCMPlayedFor sub F start n chip) (format : sub.format ∈ captureFormats) (sized : sub.Sized)
    (short : F.toNat ≤ sub.ringFrames) (moves : 0 < F.toNat) (dma : Nat → UInt8) :
    (RingCursor.after sub.bufferSize F.toNat 0 n + F.toNat ≤ sub.bufferSize →
        Succeeds (chip.pcmInterruptPlayback F dma)) ∧
      ∀ next, chip.pcmInterruptPlayback F dma = .ok next →
        RingCursor.after sub.bufferSize F.toNat 0 n + F.toNat ≤ sub.bufferSize ∧
        PCMPlayedFor sub F start (n + 1) next := by
  have inBuffer := Nat.le_trans short sized.ringFrames.2
  obtain ⟨succeeds, after⟩ := played.toPlayedFor.interrupt sized inBuffer dma
  rw [frameReadsAt_inside_iff format sized moves] at succeeds
  refine ⟨succeeds, ?_⟩
  intro next done
  obtain ⟨inside, further, isPos, isDSD⟩ := after next done
  refine ⟨(frameReadsAt_inside_iff format sized moves).mp inside, further, isDSD.trans played.pcm, ?_⟩
  have ring := (toNat_ringFrames sized).1
  rw [isPos, played.pcm, ← ring]
  exact ((played.positions sized).advance sized inBuffer (by rwa [ring]) played.playing.stride
    played.playing.size).bufferPos

theorem preparePlayback_played {chip start : AudioChip} {sub : PCMSubstream} {before : Manager} {err : Int32}
    (F : UInt32) (sized : sub.Sized) (pcm : getDSDMode before.sampleRate = 0)
    (prepared : chip.preparePlayback sub before err = some start) : PCMPlayedFor sub F start 0 start := by
  obtain ⟨playing, offset, pos, isDSD⟩ := preparePlayback_playing prepared
  refine ⟨prepared_played F playing sized offset, isDSD.trans pcm, ?_⟩
  rw [pos, RingCursor.after_zero sized.ringFrames.1]
  rfl

variable {sub : PCMSubstream} {F : UInt32} {start : AudioChip}

structure FrameInRing (sub : PCMSubstream) (F : UInt32) (p : PCMStream) : Prop where
  position : p.bufferPos.toNat < sub.ringFrames
  frame : p.bufferPos.toNat + F.toNat ≤ sub.ringFrames

def PlaybackSafe (sub : PCMSubstream) (F : UInt32) (start : AudioChip) : Prop :=
  ∀ dma n, ∃ chip, playbackRun F dma n start = .ok chip ∧ FrameInRing sub F chip.playback

def CaptureSafe (sub : PCMSubstream) (F : UInt32) (start : AudioChip) : Prop :=
  ∀ rings n, ∃ chip, captureRun F rings n start = .ok chip ∧ FrameInRing sub F chip.capture

theorem frameInRing_iff {p : PCMStream} {first n : Nat} (at_ : PositionsAfter sub 0 F.toNat first n p)
    (sized : sub.Sized) :
    FrameInRing sub F p ↔ RingCursor.after sub.ringFrames F.toNat first n + F.toNat ≤ sub.ringFrames := by
  have position := at_.bufferPos
  rw [(toNat_ringFrames sized).1] at position
  constructor
  · intro inRing
    rw [← position]
    exact inRing.frame
  · intro fits
    rw [← position] at fits
    refine ⟨?_, fits⟩
    rw [position]
    exact RingCursor.after_lt sized.ringFrames.1 n

theorem playbackSafe_iff (format : sub.format ∈ captureFormats) (sized : sub.Sized)
    (short : F.toNat ≤ sub.ringFrames) (moves : 0 < F.toNat) (prepared : PCMPlayedFor sub F start 0 start) :
    PlaybackSafe sub F start ↔ F.toNat ∣ sub.bufferSize ∧ F.toNat ∣ sub.ringFrames := by
  have runs (dma : Nat → Nat → UInt8) := forUp_succeeds_iff (PCMPlayedFor sub F start ·) prepared
    fun k chip played => played.interrupt format sized short moves (dma k)
  have buffer := RingCursor.fits_iff sized.bufferSize.1 moves
  have ring := RingCursor.fits_iff sized.ringFrames.1 moves
  simp only [Nat.dvd_zero, and_true] at buffer ring
  rw [← buffer, ← ring]
  constructor
  · intro safe
    have ran (n : Nat) : ∃ chip, playbackRun F (fun _ _ => 0) n start = .ok chip ∧
        PCMPlayedFor sub F start n chip := by
      obtain ⟨chip, done, -⟩ := safe (fun _ _ => 0) n
      refine ⟨chip, done, ?_⟩
      exact forUp_kept (PCMPlayedFor sub F start ·) prepared
        (fun k before next _ played step => ((played.interrupt format sized short moves _).2 next step).2) done
    refine ⟨(runs _).mp ran, ?_⟩
    intro n
    obtain ⟨chip, done, inRing⟩ := safe (fun _ _ => 0) n
    obtain ⟨same, again, played⟩ := ran n
    cases done.symm.trans again
    exact (frameInRing_iff (played.positions sized) sized).mp inRing
  · rintro ⟨inArea, inRing⟩ dma n
    obtain ⟨chip, done, played⟩ := (runs dma).mpr inArea n
    exact ⟨chip, done, (frameInRing_iff (played.positions sized) sized).mpr (inRing n)⟩

theorem captureSafe_iff (format : sub.format ∈ captureFormats) (sized : sub.Sized)
    (short : F.toNat ≤ sub.ringFrames) (moves : 0 < F.toNat) {first : Nat} (inside : first < sub.ringFrames)
    (prepared : CapturedFor sub 0 F first 0 start) :
    CaptureSafe sub F start ↔ F.toNat ∣ sub.bufferSize ∧ F.toNat ∣ sub.ringFrames ∧ F.toNat ∣ first := by
  obtain ⟨fn, selected, width⟩ := selectInterleave_some format
  have inBuffer := Nat.le_trans short sized.ringFrames.2
  have inRing : F.toNat ≤ (ringBufferFrames 0 sub).toNat := by rwa [(toNat_ringFrames sized).1]
  have runs (rings : Nat → RingMemory) := forUp_succeeds_iff (CapturedFor sub 0 F first ·) prepared
    fun k chip captured => by
      obtain ⟨succeeds, next⟩ := captured.interrupt sized inBuffer inRing moves selected width (rings k)
      exact ⟨succeeds, fun chip' done => ⟨(next chip' done).1, (next chip' done).2.1⟩⟩
  have buffer := RingCursor.fits_iff sized.bufferSize.1 moves
  simp only [Nat.dvd_zero, and_true] at buffer
  rw [← buffer, ← RingCursor.fits_iff inside moves]
  constructor
  · intro safe
    have ran (n : Nat) :
        ∃ chip, captureRun F (fun _ _ => {}) n start = .ok chip ∧ CapturedFor sub 0 F first n chip := by
      obtain ⟨chip, done, -⟩ := safe (fun _ _ => {}) n
      refine ⟨chip, done, ?_⟩
      exact forUp_kept (CapturedFor sub 0 F first ·) prepared
        (fun k before next _ captured step =>
          ((captured.interrupt sized inBuffer inRing moves selected width _).2 next step).2.1) done
    refine ⟨(runs _).mp ran, ?_⟩
    intro n
    obtain ⟨chip, done, inRing⟩ := safe (fun _ _ => {}) n
    obtain ⟨same, again, captured⟩ := ran n
    cases done.symm.trans again
    exact (frameInRing_iff captured.positions sized).mp inRing
  · rintro ⟨inArea, inRing⟩ rings n
    obtain ⟨chip, done, captured⟩ := (runs rings).mpr inArea n
    exact ⟨chip, done, (frameInRing_iff captured.positions sized).mpr (inRing n)⟩

/-- Both directions of a substream, prepared in PCM from any state of the chip; a capture is prepared
at the position `sac`. -/
structure GeometrySafe (m : Manager) (sub : PCMSubstream) (sac : UInt64) : Prop where
  ring : sub.ringFrames ≤ ringBufferSize.toNat
  playback : ∀ chip before err start, getDSDMode before.sampleRate = 0 →
    AudioChip.preparePlayback chip sub before err = some start → PlaybackSafe sub (m.withRate sub.rate).frameSize start
  capture : ∀ chip before after err start, getDSDMode before.sampleRate = 0 → chip.capture.substream = some sub →
    after.ptpSelected.globalSAC = sac → AudioChip.prepareCapture chip sub before after err = .ok (some start) →
    CaptureSafe sub (m.withRate sub.rate).frameSize start

/-- The buffer, the ring and the position are whole numbers of frames. -/
structure WholeFrames (m : Manager) (sub : PCMSubstream) (sac : UInt64) : Prop where
  ring : sub.ringFrames ≤ ringBufferSize.toNat
  buffer : (m.withRate sub.rate).frameSize.toNat ∣ sub.bufferSize
  turns : (m.withRate sub.rate).frameSize.toNat ∣ sub.ringFrames
  position : (m.withRate sub.rate).frameSize.toNat ∣ sac.toNat

theorem geometrySafe_iff {formats : List PCMFormat} {m : Manager} {c : HwConstraints}
    (opened : pcmOpen formats m = .ok c) (allows : c.Allows sub) (format : sub.format ∈ captureFormats)
    (sac : UInt64) : GeometrySafe m sub sac ↔ WholeFrames m sub sac := by
  have sized := pcmOpen_sized opened allows
  have moves := frameSize_pos opened allows
  have positive := sized.ringFrames.1
  have inside := Nat.mod_lt sac.toNat positive
  have short : (m.withRate sub.rate).frameSize.toNat ≤ sub.ringFrames := by
    have periods := allows.periods.1
    calc (m.withRate sub.rate).frameSize.toNat ≤ sub.periodSize := frameSize_le_period opened allows
      _ ≤ sub.periodSize * sub.periods := Nat.le_mul_of_pos_right _ (by omega)
  constructor
  · intro safe
    obtain ⟨pcmManager, pcm⟩ : ∃ before : Manager, getDSDMode before.sampleRate = 0 :=
      ⟨{ m with sampleRate := 48000 }, rfl⟩
    let atSAC : Manager := { m with ptp := fun _ => { ClockPTP.initPTP with globalSAC := sac } }
    let onlyCapture : AudioChip := { capture := { substream := some sub } }
    obtain ⟨start, prepared⟩ : ∃ start, onlyCapture.prepareCapture sub pcmManager atSAC 0 = .ok (some start) :=
      prepareCapture_succeeds pcmManager atSAC sized rfl
    have captured := prepareCapture_captured (m.withRate sub.rate).frameSize sized rfl prepared
    rw [pcm, (toNat_ringFrames sized).1] at captured
    obtain ⟨buffer, turns, position⟩ := (captureSafe_iff format sized short moves inside captured).mp
      (safe.capture _ _ _ _ _ pcm rfl rfl prepared)
    exact ⟨safe.ring, buffer, turns, (Nat.dvd_mod_iff turns).mp position⟩
  · rintro ⟨ring, buffer, turns, position⟩
    refine ⟨ring, ?_, ?_⟩
    · intro chip before err start pcm prepared
      have played := preparePlayback_played (m.withRate sub.rate).frameSize sized pcm prepared
      exact (playbackSafe_iff format sized short moves played).mpr ⟨buffer, turns⟩
    · intro chip before after err start pcm substream isSAC prepared
      have captured := prepareCapture_captured (m.withRate sub.rate).frameSize sized substream prepared
      rw [pcm, (toNat_ringFrames sized).1, isSAC] at captured
      exact (captureSafe_iff format sized short moves inside captured).mpr
        ⟨buffer, turns, (Nat.dvd_mod_iff turns).mpr position⟩

theorem geometrySafe_stereo : GeometrySafe Manager.loaded stereo 1024 := by
  obtain ⟨c, opened, allows⟩ := stereo_allowed
  apply (geometrySafe_iff opened allows (by decide) 1024).mpr
  constructor
  all_goals decide

def framesOf64 : Manager := { Manager.loaded with ticFrameSizeAt1FS := 64, sampleRate := 48000, frameSize := 64 }

def oneAndAHalf : PCMSubstream :=
  { periodSize := 192, periods := 3, fits := by decide, format := .s16LE, rate := 96000, channels := 2,
    bufferSize := 576 }

/-- The sizes were listed at the rate of the manager, so that a period at twice that rate need not be whole. -/
theorem geometrySafe_fails :
    ∃ c, pcmOpen playbackFormats framesOf64 = .ok c ∧ c.Allows oneAndAHalf ∧
      ∀ sac, ¬ GeometrySafe framesOf64 oneAndAHalf sac := by
  have allowed : ∃ c, pcmOpen playbackFormats framesOf64 = .ok c ∧ c.Allows oneAndAHalf := by
    refine ⟨_, rfl, ?_⟩
    constructor
    all_goals decide
  obtain ⟨c, opened, allows⟩ := allowed
  refine ⟨c, opened, allows, ?_⟩
  intro sac safe
  have sized := pcmOpen_sized opened allows
  obtain ⟨start, prepared⟩ : ∃ start, ({} : AudioChip).preparePlayback oneAndAHalf framesOf64 0 = some start :=
    ⟨_, rfl⟩
  have played := preparePlayback_played (framesOf64.withRate 96000).frameSize sized rfl prepared
  have whole := (playbackSafe_iff (by decide) sized (by decide) (by decide) played).mp
    (safe.playback _ _ _ _ rfl prepared)
  exact absurd whole.1 (by decide)

end AudioChip
end RavennaLkm
