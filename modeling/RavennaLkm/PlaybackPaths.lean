import RavennaLkm.AudioDriverSpec

/-!
The two ways in which an interrupt copies a frame to the playback rings. The
de-interleaving functions know before the loop where a ring ends; the generic
copy moves a byte position on and looks at every sample. For a PCM format both
write the same words and read the same bytes in the same order.
-/
namespace RavennaLkm
open CheckedLoop AudioChip

namespace AudioChip

/-- A chip that plays a PCM format, one interrupt for a period. -/
structure PlaysPCM (sub : PCMSubstream) (fn : PlaybackDeinterleave) (chip : AudioChip) : Prop where
  interleaved : sub.interleaved = true
  selected : selectDeinterleave sub = some fn
  stride : chip.playback.currentAlsaStride = UInt32.ofNat sub.format.stride
  oneInterrupt : chip.playback.nbInterruptsPerPeriod = 1

variable {sub : PCMSubstream} {fn : PlaybackDeinterleave} {chip : AudioChip}

/-- The generic copy of a sample and the one of the selected function are the same. -/
theorem copyPCM_selected (selected : selectDeinterleave sub = some fn) (size : Nat) (dma : Nat → UInt8)
    (address cell : Nat) (nb : UInt32) :
    copyPlaybackSample sub nb size dma address cell = copySample size dma fn.offsets fn.decode address cell := by
  obtain ⟨mode, -, -⟩ := selectDeinterleave_reads selected 1
  funext copy
  rw [copyPlaybackSample, if_pos mode]
  unfold selectDeinterleave at selected
  split at selected
  · cases isFormat : sub.format
    all_goals
      rw [isFormat] at selected
      cases selected
    all_goals rfl
  · cases selected

def turnedCell (pos : UInt32) (f : Nat) : Nat := (pos.toNat + f) % ringBufferSize.toNat

theorem wrappedCell_eq_turned {pos F : UInt32} (below : pos < ringBufferSize) (once : F ≤ ringBufferSize) {f : Nat}
    (inFrame : f < F.toNat) : wrappedCell ringBufferSize pos F f = turnedCell pos f := by
  have inRing := UInt32.lt_iff_toNat_lt.mp below
  have frame := UInt32.le_iff_toNat_le.mp once
  have room := UInt32.toNat_sub_of_le ringBufferSize pos (UInt32.le_iff_toNat_le.mpr (by omega))
  unfold wrappedCell turnedCell
  rw [toNat_min, room]
  generalize ringBufferSize.toNat = ring at *
  dsimp only
  split
  · rw [Nat.mod_eq_of_lt (by omega)]
  · rw [Nat.mod_eq_sub_mod (by omega), Nat.mod_eq_of_lt (by omega)]
    omega

def turnedPos (pos : UInt32) (f : Nat) : UInt32 := UInt32.ofNat (4 * turnedCell pos f)

theorem turnedPos_toNat (pos : UInt32) (f : Nat) : (turnedPos pos f).toNat = 4 * turnedCell pos f := by
  have inRing : turnedCell pos f < ringBufferSize.toNat := Nat.mod_lt _ (by decide)
  have size := toNat_ringBufferSize
  exact UInt32.toNat_ofNat_of_lt (show _ < 2 ^ 32 by omega)

theorem turnedPos_next (pos : UInt32) (f : Nat) :
    (if turnedPos pos f + 4 * 1 ≥ ringBufferSize * 4 then 0 else turnedPos pos f + 4 * 1) =
      turnedPos pos (f + 1) := by
  have inRing : turnedCell pos f < ringBufferSize.toNat := Nat.mod_lt _ (by decide)
  have size := toNat_ringBufferSize
  have next : (turnedPos pos f + 4 * 1).toNat = 4 * turnedCell pos f + 4 := by
    rw [UInt32.toNat_add, turnedPos_toNat]
    change (4 * turnedCell pos f + 4) % 2 ^ 32 = _
    omega
  have turned : turnedCell pos (f + 1) = if turnedCell pos f + 1 = 49152 then 0 else turnedCell pos f + 1 := by
    unfold turnedCell at inRing ⊢
    rw [size] at inRing ⊢
    split
    · omega
    · omega
  apply UInt32.toNat_inj.mp
  rw [turnedPos_toNat, turned]
  have full : (ringBufferSize * 4).toNat = 196608 := rfl
  by_cases last : turnedCell pos f + 1 = 49152
  · rw [if_pos last, if_pos (UInt32.le_iff_toNat_le.mpr (by omega))]
    rfl
  · rw [if_neg last, if_neg (mt UInt32.le_iff_toNat_le.mp (by omega)), next]
    omega

/-- The loop of the generic copy over one channel, without the position that it moves on. -/
theorem forUp_playbackCopyFrame (selected : selectDeinterleave sub = some fn) (size : Nat) (dma : Nat → UInt8)
    (chn : Nat) (address : Nat → Nat) (pos : UInt32) (below : pos < ringBufferSize) (n : Nat)
    (copy : PlaybackCopy) :
    forUp (fun f => playbackCopyFrame sub 1 size dma chn (address f)) n ⟨copy, pos * 4⟩ =
      (fun c => ⟨c, turnedPos pos n⟩) <$>
        forUp (fun f => copySample size dma fn.offsets fn.decode (address f)
          (chn * ringBufferSize.toNat + turnedCell pos f)) n copy := by
  induction n with
  | zero =>
    have inRing := UInt32.lt_iff_toNat_lt.mp below
    have size := toNat_ringBufferSize
    have start : pos * 4 = turnedPos pos 0 := by
      apply UInt32.toNat_inj.mp
      rw [turnedPos_toNat, UInt32.toNat_mul, turnedCell, Nat.add_zero, Nat.mod_eq_of_lt inRing]
      change pos.toNat * 4 % 2 ^ 32 = _
      omega
    rw [start]
    rfl
  | succ n ih =>
    rw [forUp_succ, forUp_succ, ih]
    cases forUp _ n copy with
    | error fault => rfl
    | ok c =>
      have cell : (turnedPos pos n).toNat / 4 = turnedCell pos n := by
        rw [turnedPos_toNat, Nat.mul_div_cancel_left _ (by decide)]
      rw [map_ok, ok_bind, ok_bind]
      unfold playbackCopyFrame
      dsimp only
      rw [cell, copyPCM_selected selected, turnedPos_next]
      cases copySample size dma fn.offsets fn.decode (address n)
          (chn * ringBufferSize.toNat + turnedCell pos n) c with
      | error fault => rfl
      | ok d => rfl

theorem genericLoop_eq_call (plays : PlaysPCM sub fn chip) (below : chip.playback.bufferPos < ringBufferSize)
    {F : UInt32} (once : F ≤ ringBufferSize) (dma : Nat → UInt8)
    (small : sub.channels.toNat * (ringBufferSize.toNat * 4) ≤ 2 ^ 32) :
    forUp (fun chn copy => (·.copy) <$>
        forUp (fun frmCnt => playbackCopyFrame sub chip.playback.nbInterruptsPerPeriod
            chip.playback.pcmBufferSize.toNat dma chn
            (chip.playback.dmaOffset.toNat + chn * chip.playback.currentAlsaStride.toNat +
              frmCnt * (sub.channels * chip.playback.currentAlsaStride).toNat))
          F.toNat ⟨copy, chip.playback.bufferPos * 4⟩) sub.channels.toNat =
      fn.call chip.playback.pcmBufferSize.toNat dma chip.playback.dmaOffset.toNat ringBufferSize
        chip.playback.bufferPos sub.channels F := by
  obtain ⟨-, stride, -⟩ := selectDeinterleave_reads plays.selected 1
  have narrow := PCMSubstream.stride_bounds sub.format
  have size := toNat_ringBufferSize
  have step : (sub.channels * chip.playback.currentAlsaStride).toNat = sub.channels.toNat * sub.format.stride := by
    have product : sub.channels.toNat * sub.format.stride ≤ sub.channels.toNat * 4 :=
      Nat.mul_le_mul_left _ narrow.2
    rw [size] at small
    rw [plays.stride, UInt32.toNat_mul, PCMSubstream.toNat_stride, Nat.mod_eq_of_lt (by omega)]
  rw [fn.call_eq, playbackDeinterleave_eq, plays.oneInterrupt, step, plays.stride, PCMSubstream.toNat_stride, stride]
  funext start
  apply forUp_congr
  intro ch _ copy
  rw [forUp_playbackCopyFrame plays.selected _ _ _ _ _ below]
  have channel : forUp (fun f => copySample chip.playback.pcmBufferSize.toNat dma fn.offsets fn.decode
        (chip.playback.dmaOffset.toNat + ch * sub.format.stride + f * (sub.channels.toNat * sub.format.stride))
        (ch * ringBufferSize.toNat + turnedCell chip.playback.bufferPos f)) F.toNat copy =
      forUp (fun f => copySample chip.playback.pcmBufferSize.toNat dma fn.offsets fn.decode
        (chip.playback.dmaOffset.toNat + (f * sub.channels.toNat + ch) * sub.format.stride)
        (ch * ringBufferSize.toNat + wrappedCell ringBufferSize chip.playback.bufferPos F f)) F.toNat copy := by
    apply forUp_congr
    intro f inFrame c
    have address : ch * sub.format.stride + f * (sub.channels.toNat * sub.format.stride) =
        (f * sub.channels.toNat + ch) * sub.format.stride := by
      rw [Nat.add_mul, Nat.mul_assoc, Nat.add_comm]
    rw [wrappedCell_eq_turned below once inFrame, Nat.add_assoc, address]
  rw [channel]
  cases forUp _ F.toNat copy with
  | error fault => rfl
  | ok c => rfl

/-- The two copies of a frame are the same computation: the rings, the bytes read, and the faults. -/
theorem playbackCopy_paths (plays : PlaysPCM sub fn chip) (below : chip.playback.bufferPos < ringBufferSize)
    {F : UInt32} (once : F ≤ ringBufferSize) (dma : Nat → UInt8)
    (small : sub.channels.toNat * (ringBufferSize.toNat * 4) ≤ 2 ^ 32) :
    { chip with playbackDeinterleaveFn := some fn }.playbackCopy sub F dma =
      (fun c => { c with playbackDeinterleaveFn := some fn }) <$>
        { chip with playbackDeinterleaveFn := none }.playbackCopy sub F dma := by
  have same := genericLoop_eq_call plays below once dma small
  unfold playbackCopy playbackCopyInternal
  dsimp only
  rw [if_pos plays.interleaved, same]
  cases fn.call chip.playback.pcmBufferSize.toNat dma chip.playback.dmaOffset.toNat ringBufferSize
      chip.playback.bufferPos sub.channels F ⟨chip.playbackBuffer, chip.dmaReads⟩ with
  | error fault => rfl
  | ok c => rfl

theorem playbackCopy_alsaSAC {dma : Nat → UInt8} {F : UInt32} {copied : AudioChip}
    (done : { chip with playbackDeinterleaveFn := some fn }.playbackCopy sub F dma = .ok copied) :
    copied.playbackBufferAlsaSAC = chip.playbackBufferAlsaSAC + F.toUInt64 := by
  unfold playbackCopy at done
  obtain ⟨copy, -, same⟩ := bind_eq_ok.mp done
  cases same
  rfl

theorem playbackCopy_succeeds (dma : Nat → UInt8) {F : UInt32}
    (inside : ∀ a ∈ frameReads fn.offsets fn.strideIn chip.playback.dmaOffset.toNat sub.channels.toNat F.toNat,
      a < chip.playback.pcmBufferSize.toNat) :
    Succeeds ({ chip with playbackDeinterleaveFn := some fn }.playbackCopy sub F dma) := by
  have accesses := playbackDeinterleave_accesses fn.strideIn fn.offsets fn.decode
    chip.playback.pcmBufferSize.toNat dma chip.playback.dmaOffset.toNat ringBufferSize chip.playback.bufferPos
    sub.channels F
  rw [← fn.call_eq] at accesses
  unfold playbackCopy
  obtain ⟨copy, ran⟩ := accesses.succeeds inside ⟨chip.playbackBuffer, chip.dmaReads⟩
  exact succeeds_bind.mpr ⟨copy, ran, succeeds_ok _⟩

/-- With the selected function an interrupt does what it does without it, to the rings and to all else;
both advance the ALSA position by the frame, and succeed if the frame is inside the area. -/
def SamePaths (sub : PCMSubstream) (fn : PlaybackDeinterleave) (chip : AudioChip) (F : UInt32)
    (dma : Nat → UInt8) : Prop :=
  let fast := { chip with playbackDeinterleaveFn := some fn }.pcmInterruptPlayback F dma
  let generic := { chip with playbackDeinterleaveFn := none }.pcmInterruptPlayback F dma
  fast = (fun c => { c with playbackDeinterleaveFn := some fn }) <$> generic ∧
    (∀ next, generic = .ok next → next.playbackBufferAlsaSAC = chip.playbackBufferAlsaSAC + F.toUInt64) ∧
    ((∀ a ∈ frameReads fn.offsets fn.strideIn chip.playback.dmaOffset.toNat sub.channels.toNat F.toNat,
      a < chip.playback.pcmBufferSize.toNat) → Succeeds generic)

theorem interrupt_paths (plays : PlaysPCM sub fn chip) (substream : chip.playback.substream = some sub)
    (below : chip.playback.bufferPos < ringBufferSize) {F : UInt32} (once : F ≤ ringBufferSize)
    (small : sub.channels.toNat * (ringBufferSize.toNat * 4) ≤ 2 ^ 32) (dma : Nat → UInt8) :
    SamePaths sub fn chip F dma := by
  have copies := playbackCopy_paths plays below once dma small
  unfold SamePaths pcmInterruptPlayback
  dsimp only
  rw [substream]
  dsimp only
  cases generic : { chip with playbackDeinterleaveFn := none }.playbackCopy sub F dma with
  | error fault =>
    rw [generic] at copies
    refine ⟨by rw [copies]; rfl, ?_, ?_⟩
    · intro next done
      cases done
    · intro inside
      obtain ⟨copied, done⟩ := playbackCopy_succeeds dma inside
      cases done.symm.trans copies
  | ok copied =>
    rw [generic, map_ok] at copies
    have sac := playbackCopy_alsaSAC copies
    refine ⟨by rw [copies]; rfl, ?_, fun _ => succeeds_ok _⟩
    intro next done
    cases done
    exact sac

def packedStereo : PCMSubstream :=
  { periodSize := 1024, periods := 4, fits := by decide, format := .s24_3LE, rate := 48000, channels := 2
    bufferSize := 4096 }

def nearRingEnd : AudioChip := { playback := preparedStream packedStereo 24000 }

theorem interrupt_paths_packedStereo :
    SamePaths packedStereo .s24_3LE nearRingEnd 1024 (fun a => UInt8.ofNat a) :=
  interrupt_paths ⟨rfl, rfl, rfl, rfl⟩ rfl (by decide) (by decide) (by decide) _

end AudioChip

end RavennaLkm
