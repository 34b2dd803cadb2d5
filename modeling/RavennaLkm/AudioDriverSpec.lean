import RavennaLkm.AudioDriver
import RavennaLkm.Lib.AccessLog
import RavennaLkm.Lib.CellWrites
import RavennaLkm.Lib.RingCursor

/-!
What one interrupt does to the positions of a stream, which bytes of the playback
area it reads, and when it stays inside the DMA areas.
-/
namespace RavennaLkm
open CheckedLoop Gather AccessLog CellWrites

def frameReads (offsets : List Nat) (strideIn src channels frames : Nat) : List Nat :=
  gather (fun ch => gather (fun f => offsets.map (src + (f * channels + ch) * strideIn + ·)) frames) channels

theorem sample_address (o f ch channels stride : Nat) :
    o * (channels * stride) + (f * channels + ch) * stride = ((o + f) * channels + ch) * stride := by
  rw [← Nat.mul_assoc, ← Nat.add_mul, ← Nat.add_assoc, ← Nat.add_mul]

theorem copySample_accesses (size : Nat) (dma : Nat → UInt8) (offsets : List Nat)
    (decode : (Nat → UInt8) → Sample) (address cell : Nat) :
    Accesses (·.reads) size (copySample size dma offsets decode address cell) (offsets.map (address + ·)) where
  succeeds := by
    intro inside c
    refine ⟨_, if_pos ?_⟩
    intro k isIn
    exact inside _ (List.mem_map_of_mem isIn)
  logged := by
    intro c d done
    unfold copySample at done
    split at done
    · rename_i inside
      cases done
      refine ⟨?_, rfl⟩
      intro a isIn
      obtain ⟨k, isOffset, rfl⟩ := List.mem_map.mp isIn
      exact inside k isOffset
    · cases done

def wrappedCell (ringBufferFrames ravennaPos frames : UInt32) (f : Nat) : Nat :=
  let first := (min frames (ringBufferFrames - ravennaPos)).toNat
  if f < first then ravennaPos.toNat + f else f - first

theorem playbackDeinterleave_eq (strideIn : Nat) (offsets : List Nat) (decode : (Nat → UInt8) → Sample)
    (size : Nat) (dma : Nat → UInt8) (src : Nat) (ringBufferFrames ravennaPos channels frames : UInt32) :
    playbackDeinterleave strideIn offsets decode size dma src ringBufferFrames ravennaPos channels frames =
      forUp (fun ch => forUp (fun f => copySample size dma offsets decode
          (src + (f * channels.toNat + ch) * strideIn)
          (ch * ringBufferFrames.toNat + wrappedCell ringBufferFrames ravennaPos frames f))
        frames.toNat) channels.toNat := by
  funext c
  unfold playbackDeinterleave
  apply forUp_congr
  intro ch _ c
  have atMost : (min frames (ringBufferFrames - ravennaPos)).toNat ≤ frames.toNat := by
    rw [toNat_min]
    exact Nat.min_le_left _ _
  have whole := Nat.add_sub_of_le atMost
  conv_rhs => rw [← whole]
  rw [forUp_add]
  congr 1
  · apply forUp_congr
    intro f below c
    rw [wrappedCell, if_pos below]
  · funext c
    apply forUp_congr
    intro f _ c
    rw [wrappedCell, if_neg (by omega), Nat.add_sub_cancel_left]

theorem playbackDeinterleave_accesses (strideIn : Nat) (offsets : List Nat) (decode : (Nat → UInt8) → Sample)
    (size : Nat) (dma : Nat → UInt8) (src : Nat) (ringBufferFrames ravennaPos channels frames : UInt32) :
    Accesses (·.reads) size
      (playbackDeinterleave strideIn offsets decode size dma src ringBufferFrames ravennaPos channels frames)
      (frameReads offsets strideIn src channels.toNat frames.toNat) := by
  rw [playbackDeinterleave_eq]
  exact .forUp fun ch _ => .forUp fun f _ => copySample_accesses ..

namespace PlaybackDeinterleave

def strideIn : PlaybackDeinterleave → Nat
  | .s32LE | .s24LE => 4
  | .s24_3LE => 3
  | .s16LE => 2

def offsets : PlaybackDeinterleave → List Nat
  | .s32LE => [0, 1, 2, 3]
  | .s24LE | .s24_3LE => [2, 1, 0]
  | .s16LE => [1, 0]

def decode : PlaybackDeinterleave → (Nat → UInt8) → Sample
  | .s32LE, s => ⟨s 0, s 1, s 2, s 3⟩
  | .s24LE, s | .s24_3LE, s => ⟨0, s 0, s 1, s 2⟩
  | .s16LE, s => ⟨0, 0, s 0, s 1⟩

theorem call_eq (fn : PlaybackDeinterleave) : fn.call = playbackDeinterleave fn.strideIn fn.offsets fn.decode := by
  cases fn <;> rfl

end PlaybackDeinterleave

def sampleReads (dsdMode : UInt32) (width nb : Nat) : List Nat :=
  if dsdMode = 0 then
    if width = 16 then [1, 0]
    else if width = 24 then [2, 1, 0]
    else if width = 32 then [0, 1, 2, 3]
    else []
  else if dsdMode = 1 then gather (fun outCnt => [0, 1, 2, 3].map (outCnt + ·)) nb
  else if dsdMode = 2 then gather (fun outCnt => [1, 0].map (2 * outCnt + ·)) nb
  else if dsdMode = 4 then gather (fun _ => [0, 1, 2, 3]) nb
  else []

def PCMSubstream.readOffsets (sub : PCMSubstream) (nb : Nat) : List Nat :=
  sampleReads sub.dsdMode sub.format.width nb

namespace AudioChip

theorem copyPCM_accesses (width size : Nat) (dma : Nat → UInt8) (address cell : Nat) :
    Accesses (·.reads) size (copyPCM width size dma address cell)
      ((if width = 16 then [1, 0] else if width = 24 then [2, 1, 0] else if width = 32 then [0, 1, 2, 3]
        else []).map (address + ·)) := by
  unfold copyPCM
  split
  · exact copySample_accesses ..
  · split
    · exact copySample_accesses ..
    · split
      · exact copySample_accesses ..
      · exact .nothing

theorem copyDSD_accesses (sub : PCMSubstream) (nb size : Nat) (dma : Nat → UInt8) (address cell : Nat)
    (isDSD : sub.dsdMode ≠ 0) :
    Accesses (·.reads) size (forUp (copyDSD sub.dsdMode size dma address cell) nb)
      ((sub.readOffsets nb).map (address + ·)) := by
  have shifted (chunk : Nat → List Nat) (n : Nat) :
      (gather chunk n).map (address + ·) = gather (fun outCnt => (chunk outCnt).map (address + ·)) n := by
    induction n with
    | zero => rfl
    | succ n ih => rw [gather_succ, gather_succ, List.map_append, ih]
  have round (offsets : List Nat) (decode : (Nat → UInt8) → Sample) (at_ into : Nat → Nat) :
      Accesses (·.reads) size (forUp (fun outCnt => copySample size dma offsets decode (at_ outCnt) (into outCnt)) nb)
        (gather (fun outCnt => offsets.map (at_ outCnt + ·)) nb) :=
    .forUp fun outCnt _ => copySample_accesses ..
  unfold copyDSD PCMSubstream.readOffsets sampleReads
  rw [if_neg isDSD]
  split
  · rw [shifted]
    simp only [List.map_map, Function.comp_def, ← Nat.add_assoc]
    exact round ..
  · split
    · rw [shifted]
      simp only [List.map_map, Function.comp_def, ← Nat.add_assoc]
      exact round ..
    · split
      · rw [shifted]
        exact round ..
      · rw [List.map_nil, ← gather_nil nb]
        exact .forUp fun _ _ => .nothing

theorem copyPlaybackSample_accesses (sub : PCMSubstream) (nb : UInt32) (size : Nat) (dma : Nat → UInt8)
    (address cell : Nat) : Accesses (·.reads) size (copyPlaybackSample sub nb size dma address cell)
      ((sub.readOffsets nb.toNat).map (address + ·)) := by
  unfold copyPlaybackSample
  by_cases isPCM : sub.dsdMode = 0
  · simp only [isPCM, if_true, PCMSubstream.readOffsets, sampleReads]
    exact copyPCM_accesses ..
  · simp only [if_neg isPCM]
    exact copyDSD_accesses sub nb.toNat size dma address cell isPCM

theorem playbackCopyFrame_accesses (sub : PCMSubstream) (nb : UInt32) (size : Nat) (dma : Nat → UInt8)
    (chn address : Nat) :
    Accesses (·.copy.reads) size (playbackCopyFrame sub nb size dma chn address)
      ((sub.readOffsets nb.toNat).map (address + ·)) where
  succeeds := by
    intro inside st
    obtain ⟨copy, ran⟩ := (copyPlaybackSample_accesses sub nb size dma address _).succeeds inside st.copy
    exact succeeds_bind.mpr ⟨copy, ran, succeeds_ok _⟩
  logged := by
    intro st st' done
    obtain ⟨copy, ran, same⟩ := bind_eq_ok.mp done
    cases same
    exact (copyPlaybackSample_accesses ..).logged st.copy copy ran

end AudioChip

theorem frameReads_inside_iff {offsets : List Nat} {stride channels frames o bufferSize : Nat}
    (narrow : ∀ k ∈ offsets, k < stride) (some_ : offsets ≠ []) (channel : 0 < channels) (moves : 0 < frames) :
    (∀ a ∈ frameReads offsets stride (o * (channels * stride)) channels frames, a < bufferSize * (channels * stride)) ↔
      o + frames ≤ bufferSize := by
  constructor
  · intro inside
    obtain ⟨k, isOffset⟩ := List.exists_mem_of_ne_nil _ some_
    have last : o * (channels * stride) + ((frames - 1) * channels + 0) * stride + k <
        bufferSize * (channels * stride) := by
      apply inside
      refine mem_gather.mpr ⟨0, channel, ?_⟩
      refine mem_gather.mpr ⟨frames - 1, by omega, ?_⟩
      exact List.mem_map_of_mem isOffset
    have begins : (o + (frames - 1)) * (channels * stride) < bufferSize * (channels * stride) := by
      calc (o + (frames - 1)) * (channels * stride)
        _ = o * (channels * stride) + ((frames - 1) * channels + 0) * stride := by
          rw [Nat.add_mul, Nat.add_zero, Nat.mul_assoc (frames - 1)]
        _ < bufferSize * (channels * stride) := by omega
    have below := Nat.lt_of_mul_lt_mul_right begins
    omega
  · intro fits a isRead
    obtain ⟨ch, chBelow, inChannel⟩ := mem_gather.mp isRead
    obtain ⟨f, fBelow, inSample⟩ := mem_gather.mp inChannel
    obtain ⟨k, isOffset, rfl⟩ := List.mem_map.mp inSample
    have kBelow := narrow k isOffset
    have inFrames := block_lt fBelow chBelow kBelow
    calc o * (channels * stride) + (f * channels + ch) * stride + k
      _ < o * (channels * stride) + frames * (channels * stride) := by omega
      _ = (o + frames) * (channels * stride) := (Nat.add_mul ..).symm
      _ ≤ bufferSize * (channels * stride) := Nat.mul_le_mul_right _ fits

namespace PCMSubstream

structure Sized (sub : PCMSubstream) : Prop where
  access : sub.interleaved = true
  channels : 1 ≤ sub.channels.toNat ∧ sub.channels.toNat ≤ nbChannelsMax
  ringFrames : 0 < sub.ringFrames ∧ sub.ringFrames ≤ sub.bufferSize
  bufferBytes : sub.bufferBytes ≤ bufferBytesMax

variable {sub : PCMSubstream}

theorem stride_bounds (format : PCMFormat) : 0 < format.stride ∧ format.stride ≤ 4 := by
  cases format <;> decide

theorem toNat_stride (format : PCMFormat) : (UInt32.ofNat format.stride).toNat = format.stride := by
  cases format <;> rfl

theorem Sized.frameBytes (sized : sub.Sized) : 0 < sub.frameBytes ∧ sub.frameBytes ≤ 512 := by
  obtain ⟨one, most⟩ := sized.channels
  obtain ⟨wide, narrow⟩ := stride_bounds sub.format
  constructor
  · exact Nat.mul_pos one wide
  · exact Nat.mul_le_mul most narrow

theorem Sized.bufferSize (sized : sub.Sized) : 0 < sub.bufferSize ∧ sub.bufferSize ≤ bufferBytesMax := by
  constructor
  · exact Nat.lt_of_lt_of_le sized.ringFrames.1 sized.ringFrames.2
  · exact Nat.le_trans (Nat.le_mul_of_pos_right _ sized.frameBytes.1) sized.bufferBytes

theorem Sized.toNat_bufferBytes (sized : sub.Sized) : (UInt32.ofNat sub.bufferBytes).toNat = sub.bufferBytes := by
  have small := sized.bufferBytes
  rw [UInt32.toNat_ofNat']
  exact Nat.mod_eq_of_lt (by rw [bufferBytesMax_eq] at small; omega)

theorem Sized.toNat_frameBytes (sized : sub.Sized) :
    (sub.channels * UInt32.ofNat sub.format.stride).toNat = sub.frameBytes := by
  have small := sized.frameBytes.2
  rw [UInt32.toNat_mul, toNat_stride]
  exact Nat.mod_eq_of_lt (by change sub.frameBytes < _; omega)

end PCMSubstream

theorem HwConstraints.Allows.sized {c : HwConstraints} {sub : PCMSubstream} (allows : c.Allows sub)
    (period : 0 < sub.periodSize) : sub.Sized where
  access := allows.access
  channels := allows.channels
  ringFrames := ⟨Nat.mul_pos period (by have := allows.periods.1; omega), allows.bufferSize.1⟩
  bufferBytes := allows.bufferBytes

namespace AudioChip

theorem advance_dmaOffset {p : PCMStream} {F ring factor : UInt32} {bufferSize o frameBytes : Nat}
    (size : p.pcmBufferSize.toNat = bufferSize * frameBytes) (isFactor : factor.toNat = frameBytes)
    (at_ : p.dmaOffset.toNat = o * frameBytes) (inside : o < bufferSize) (short : F.toNat ≤ bufferSize)
    (wide : 0 < frameBytes) (small : bufferSize * frameBytes ≤ bufferBytesMax) :
    (advance p F ring factor).dmaOffset.toNat = RingCursor.advance bufferSize F.toNat o * frameBytes := by
  rw [bufferBytesMax_eq] at small
  have here : o * frameBytes < bufferSize * frameBytes := Nat.mul_lt_mul_of_pos_right inside wide
  have frame : F.toNat * frameBytes ≤ bufferSize * frameBytes := Nat.mul_le_mul_right _ short
  have next : (p.dmaOffset.toUInt64 + F.toUInt64 * factor.toUInt64).toUInt32.toNat = (o + F.toNat) * frameBytes := by
    rw [UInt64.toNat_toUInt32, UInt64.toNat_add, UInt64.toNat_mul, UInt32.toNat_toUInt64, UInt32.toNat_toUInt64,
      UInt32.toNat_toUInt64, at_, isFactor, Nat.add_mul]
    have product : F.toNat * frameBytes % 2 ^ 64 = F.toNat * frameBytes := Nat.mod_eq_of_lt (by omega)
    rw [product]
    omega
  unfold advance RingCursor.advance
  dsimp only
  have wraps : (p.dmaOffset.toUInt64 + F.toUInt64 * factor.toUInt64).toUInt32 ≥ p.pcmBufferSize ↔
      o + F.toNat ≥ bufferSize := by
    rw [ge_iff_le, UInt32.le_iff_toNat_le, next, size]
    exact Nat.mul_le_mul_right_iff wide
  by_cases past : o + F.toNat ≥ bufferSize
  · rw [if_pos past, if_pos (wraps.mpr past), UInt32.toNat_sub_of_le _ _ (wraps.mpr past), next, size, Nat.sub_mul]
  · rw [if_neg past, if_neg (mt wraps.mp past), next]

theorem advance_bufferPos {p : PCMStream} {F ring factor : UInt32} (inside : p.bufferPos.toNat < ring.toNat)
    (short : F.toNat ≤ ring.toNat) (small : ring.toNat < 2 ^ 25) :
    (advance p F ring factor).bufferPos.toNat = RingCursor.advance ring.toNat F.toNat p.bufferPos.toNat := by
  have next : (p.bufferPos + F).toNat = p.bufferPos.toNat + F.toNat := by
    rw [UInt32.toNat_add]
    exact Nat.mod_eq_of_lt (by omega)
  unfold advance RingCursor.advance
  dsimp only
  have wraps : p.bufferPos + F ≥ ring ↔ p.bufferPos.toNat + F.toNat ≥ ring.toNat := by
    rw [ge_iff_le, UInt32.le_iff_toNat_le, next]
  by_cases past : p.bufferPos.toNat + F.toNat ≥ ring.toNat
  · rw [if_pos past, if_pos (wraps.mpr past), UInt32.toNat_sub_of_le _ _ (wraps.mpr past), next]
  · rw [if_neg past, if_neg (mt wraps.mp past), next]

structure Playing (sub : PCMSubstream) (chip : AudioChip) : Prop where
  substream : chip.playback.substream = some sub
  stride : chip.playback.currentAlsaStride = UInt32.ofNat sub.format.stride
  interrupts : chip.playback.nbInterruptsPerPeriod = sub.nbInterrupts
  size : chip.playback.pcmBufferSize = UInt32.ofNat sub.bufferBytes
  deinterleave : chip.playbackDeinterleaveFn = selectDeinterleave sub

def frameReadsAt (sub : PCMSubstream) (frames o : Nat) : List Nat :=
  frameReads (sub.readOffsets sub.nbInterrupts.toNat) sub.format.stride (o * sub.frameBytes) sub.channels.toNat
    frames

theorem selectDeinterleave_reads {sub : PCMSubstream} {fn : PlaybackDeinterleave}
    (selected : selectDeinterleave sub = some fn) (nb : Nat) :
    sub.dsdMode = 0 ∧ fn.strideIn = sub.format.stride ∧ fn.offsets = sub.readOffsets nb := by
  unfold selectDeinterleave at selected
  split at selected
  · rename_i notDSD
    have mode : sub.dsdMode = 0 := by
      unfold PCMSubstream.dsdMode
      rw [notDSD]
      rfl
    unfold PCMSubstream.readOffsets sampleReads
    rw [if_pos mode]
    refine ⟨mode, ?_⟩
    cases isFormat : sub.format
    all_goals
      rw [isFormat] at selected
      cases selected
    all_goals exact ⟨rfl, rfl⟩
  · cases selected

theorem playbackCopyInternal_accesses {sub : PCMSubstream} {chip : AudioChip} (playing : Playing sub chip)
    (sized : sub.Sized) (F : UInt32) (dma : Nat → UInt8) {o : Nat}
    (at_ : chip.playback.dmaOffset.toNat = o * sub.frameBytes) :
    Accesses (·.reads) sub.bufferBytes
      (forUp (fun chn copy => (·.copy) <$>
        forUp (fun frmCnt => playbackCopyFrame sub chip.playback.nbInterruptsPerPeriod
            chip.playback.pcmBufferSize.toNat dma chn
            (chip.playback.dmaOffset.toNat + chn * chip.playback.currentAlsaStride.toNat +
              frmCnt * (sub.channels * chip.playback.currentAlsaStride).toNat))
          F.toNat ⟨copy, chip.playback.bufferPos * 4⟩) sub.channels.toNat)
      (frameReadsAt sub F.toNat o) := by
  rw [playing.interrupts, playing.size, sized.toNat_bufferBytes, playing.stride, sized.toNat_frameBytes,
    PCMSubstream.toNat_stride, at_]
  apply Accesses.forUp
  intro chn _
  refine Accesses.within (fun copy => (⟨copy, chip.playback.bufferPos * 4⟩ : OutPos)) (·.copy)
    ?_ (fun _ => rfl) (fun _ => rfl : ∀ t : OutPos, t.copy.reads = t.copy.reads)
  apply Accesses.forUp
  intro frmCnt _
  have address : o * sub.frameBytes + chn * sub.format.stride + frmCnt * sub.frameBytes =
      o * sub.frameBytes + (frmCnt * sub.channels.toNat + chn) * sub.format.stride := by
    unfold PCMSubstream.frameBytes
    rw [Nat.add_mul, Nat.mul_assoc frmCnt]
    omega
  rw [address]
  exact playbackCopyFrame_accesses ..

/-- The copy of an interrupt reads its frame, if that is inside the area, and leaves all but the rings alone. -/
theorem playbackCopy_reads {sub : PCMSubstream} {chip : AudioChip} (playing : Playing sub chip) (sized : sub.Sized)
    (F : UInt32) (dma : Nat → UInt8) {o : Nat} (at_ : chip.playback.dmaOffset.toNat = o * sub.frameBytes) :
    ((∀ a ∈ frameReadsAt sub F.toNat o, a < sub.bufferBytes) → Succeeds (chip.playbackCopy sub F dma)) ∧
      ∀ copied, chip.playbackCopy sub F dma = .ok copied →
        (∀ a ∈ frameReadsAt sub F.toNat o, a < sub.bufferBytes) ∧
        ∃ ring sac, copied = { chip with
          playbackBuffer := ring
          dmaReads := chip.dmaReads ++ frameReadsAt sub F.toNat o
          playbackBufferAlsaSAC := sac } := by
  unfold playbackCopy playbackCopyInternal
  cases selected : chip.playbackDeinterleaveFn with
  | some fn =>
    obtain ⟨-, stride, offsets⟩ :=
      selectDeinterleave_reads (playing.deinterleave.symm.trans selected) sub.nbInterrupts.toNat
    have accesses := playbackDeinterleave_accesses fn.strideIn fn.offsets fn.decode
      chip.playback.pcmBufferSize.toNat dma chip.playback.dmaOffset.toNat ringBufferSize chip.playback.bufferPos
      sub.channels F
    rw [← fn.call_eq, playing.size, sized.toNat_bufferBytes, at_, stride, offsets] at accesses
    simp only [playing.size, sized.toNat_bufferBytes, at_]
    constructor
    · intro inside
      obtain ⟨copy, ran⟩ := accesses.succeeds inside ⟨chip.playbackBuffer, chip.dmaReads⟩
      exact succeeds_bind.mpr ⟨copy, ran, succeeds_ok _⟩
    · intro copied done
      obtain ⟨copy, ran, same⟩ := bind_eq_ok.mp done
      obtain ⟨inside, logged⟩ := accesses.logged _ copy ran
      cases same
      refine ⟨inside, copy.ring, chip.playbackBufferAlsaSAC + F.toUInt64, ?_⟩
      rw [logged]
      rfl
  | none =>
    have accesses := playbackCopyInternal_accesses playing sized F dma at_
    simp only [sized.access, if_true]
    constructor
    · intro inside
      obtain ⟨copy, ran⟩ := accesses.succeeds inside ⟨chip.playbackBuffer, chip.dmaReads⟩
      exact succeeds_bind.mpr ⟨copy, ran, succeeds_ok _⟩
    · intro copied done
      obtain ⟨copy, ran, same⟩ := bind_eq_ok.mp done
      obtain ⟨inside, logged⟩ := accesses.logged _ copy ran
      cases same
      refine ⟨inside, copy.ring, chip.playbackBufferAlsaSAC + F.toUInt64, ?_⟩
      rw [logged]

def playbackRun (F : UInt32) (dma : Nat → Nat → UInt8) : Nat → AudioChip → Except Fault AudioChip :=
  forUp fun k chip => chip.pcmInterruptPlayback F (dma k)

structure PlayedFor (sub : PCMSubstream) (F : UInt32) (start : AudioChip) (n : Nat) (chip : AudioChip) : Prop where
  playing : Playing sub chip
  dmaOffset : chip.playback.dmaOffset.toNat = RingCursor.after sub.bufferSize F.toNat 0 n * sub.frameBytes
  reads : chip.dmaReads =
    start.dmaReads ++ gather (fun k => frameReadsAt sub F.toNat (RingCursor.after sub.bufferSize F.toNat 0 k)) n

theorem prepared_played {sub : PCMSubstream} {chip : AudioChip} (F : UInt32) (playing : Playing sub chip)
    (sized : sub.Sized) (atStart : chip.playback.dmaOffset = 0) : PlayedFor sub F chip 0 chip where
  playing := playing
  dmaOffset := by
    rw [atStart, RingCursor.after_zero sized.bufferSize.1, Nat.zero_mul]
    rfl
  reads := (List.append_nil _).symm

theorem PlayedFor.interrupt {sub : PCMSubstream} {F : UInt32} {start chip : AudioChip} {n : Nat}
    (played : PlayedFor sub F start n chip) (sized : sub.Sized) (short : F.toNat ≤ sub.bufferSize)
    (dma : Nat → UInt8) :
    ((∀ a ∈ frameReadsAt sub F.toNat (RingCursor.after sub.bufferSize F.toNat 0 n), a < sub.bufferBytes) →
        Succeeds (chip.pcmInterruptPlayback F dma)) ∧
      ∀ next, chip.pcmInterruptPlayback F dma = .ok next →
        (∀ a ∈ frameReadsAt sub F.toNat (RingCursor.after sub.bufferSize F.toNat 0 n), a < sub.bufferBytes) ∧
        PlayedFor sub F start (n + 1) next ∧
        next.playback.bufferPos = (advance chip.playback F (ringBufferFrames chip.currentDSD sub)
          (sub.channels * chip.playback.currentAlsaStride)).bufferPos ∧
        next.currentDSD = chip.currentDSD := by
  obtain ⟨succeeds, copies⟩ := playbackCopy_reads played.playing sized F dma played.dmaOffset
  unfold pcmInterruptPlayback
  simp only [played.playing.substream]
  constructor
  · intro inside
    obtain ⟨copied, ran⟩ := succeeds inside
    exact succeeds_bind.mpr ⟨copied, ran, succeeds_ok _⟩
  · intro next done
    obtain ⟨copied, ran, same⟩ := bind_eq_ok.mp done
    obtain ⟨inside, ring, sac, rfl⟩ := copies copied ran
    cases same
    refine ⟨inside, ?_, rfl, rfl⟩
    constructor
    case playing =>
      exact ⟨played.playing.substream, played.playing.stride, played.playing.interrupts, played.playing.size,
        played.playing.deinterleave⟩
    case dmaOffset =>
      have positive := sized.bufferSize.1
      rw [← RingCursor.advance_after positive short]
      apply advance_dmaOffset
      · rw [played.playing.size, sized.toNat_bufferBytes]
        rfl
      · rw [played.playing.stride, sized.toNat_frameBytes]
      · exact played.dmaOffset
      · exact RingCursor.after_lt positive n
      · exact short
      · exact sized.frameBytes.1
      · exact sized.bufferBytes
    case reads => rw [played.reads, List.append_assoc, gather_succ]

theorem playbackRun_played {sub : PCMSubstream} {F : UInt32} {start : AudioChip} (sized : sub.Sized)
    (short : F.toNat ≤ sub.bufferSize) (prepared : PlayedFor sub F start 0 start) (dma : Nat → Nat → UInt8) (n : Nat)
    {chip : AudioChip} (ran : playbackRun F dma n start = .ok chip) : PlayedFor sub F start n chip := by
  refine forUp_kept (PlayedFor sub F start ·) prepared ?_ ran
  intro k before next _ played done
  exact ((played.interrupt sized short (dma k)).2 next done).2.1

theorem playbackRun_succeeds {sub : PCMSubstream} {F : UInt32} {start : AudioChip} (sized : sub.Sized)
    (short : F.toNat ≤ sub.bufferSize) (prepared : PlayedFor sub F start 0 start)
    (inside : ∀ n, ∀ a ∈ frameReadsAt sub F.toNat (RingCursor.after sub.bufferSize F.toNat 0 n), a < sub.bufferBytes)
    (dma : Nat → Nat → UInt8) (n : Nat) :
    ∃ chip, playbackRun F dma n start = .ok chip ∧ PlayedFor sub F start n chip := by
  apply forUp_invariant (PlayedFor sub F start ·) prepared
  intro k _ chip played
  obtain ⟨succeeds, next⟩ := played.interrupt sized short (dma k)
  obtain ⟨chip', ran⟩ := succeeds (inside k)
  exact ⟨chip', ran, (next chip' ran).2.1⟩

theorem preparePlayback_playing {chip0 chip : AudioChip} {sub : PCMSubstream} {before : Manager} {err : Int32}
    (prepared : chip0.preparePlayback sub before err = some chip) :
    Playing sub chip ∧ chip.playback.dmaOffset = 0 ∧ chip.playback.bufferPos = 0 ∧
      chip.currentDSD = getDSDMode before.sampleRate := by
  unfold preparePlayback at prepared
  dsimp only at prepared
  split at prepared
  · cases prepared
  · cases prepared
    exact ⟨⟨rfl, rfl, rfl, rfl, rfl⟩, rfl, rfl, rfl⟩

end AudioChip

namespace CaptureInterleave

def store : CaptureInterleave → Sample → List UInt8
  | .int32LE, s => [s.byte0, s.byte1, s.byte2, s.byte3]
  | .int24LE, s => [s.byte1, s.byte2, s.byte3]
  | .int24LE4Byte, s => [s.byte1, s.byte2, s.byte3, 0]
  | .int16LE, s => [s.byte2, s.byte3]

theorem call_eq (fn : CaptureInterleave) : fn.call = interleave fn.store := by
  cases fn <;> rfl

end CaptureInterleave

namespace AudioChip

structure Capturing (sub : PCMSubstream) (chip : AudioChip) : Prop where
  substream : chip.capture.substream = some sub
  stride : chip.capture.currentAlsaStride = UInt32.ofNat sub.format.stride
  size : chip.capture.pcmBufferSize = UInt32.ofNat sub.bufferBytes
  interleave : chip.captureInterleaveFn = selectInterleave sub

theorem selectInterleave_some {sub : PCMSubstream} (pcm : sub.format ∈ captureFormats) :
    ∃ fn, selectInterleave sub = some fn ∧ ∀ s, (fn.store s).length = sub.format.stride := by
  unfold selectInterleave
  generalize sub.format = format at pcm
  simp only [captureFormats, List.mem_cons, List.not_mem_nil, or_false] at pcm
  rcases pcm with rfl | rfl | rfl | rfl
  all_goals
    refine ⟨_, rfl, ?_⟩
    simp [CaptureInterleave.store, PCMFormat.stride, PCMFormat.physicalWidth]

def capturedBytes (fn : CaptureInterleave) (rings : RingMemory) (channels : Nat) (pos F : UInt32) : List UInt8 :=
  gather (fun i => gather (fun ch => fn.store (rings (ch * ringBufferSize.toNat + inPos pos i))) channels)
    (sampleRounds pos F)

theorem captureCopy_eq {sub : PCMSubstream} {chip : AudioChip} {fn : CaptureInterleave}
    (capturing : Capturing sub chip) (sized : sub.Sized) (selected : selectInterleave sub = some fn) (F : UInt32)
    (rings : RingMemory) :
    chip.captureCopy sub F rings =
      emit sub.bufferBytes (capturedBytes fn rings sub.channels.toNat chip.capture.bufferPos F)
        ⟨chip.capture.dmaOffset.toNat, chip.dmaCaptured⟩ := by
  unfold captureCopy
  rw [capturing.interleave, selected]
  dsimp only
  rw [fn.call_eq, capturing.size, sized.toNat_bufferBytes]
  apply MappedToInterleave.interleave_eq_emit
  intro ch below
  have := sized.channels.2
  unfold captureBufferChannelsMap
  rw [if_pos (by omega)]

theorem length_capturedBytes {sub : PCMSubstream} {fn : CaptureInterleave}
    (width : ∀ s, (fn.store s).length = sub.format.stride) (rings : RingMemory) {pos F : UInt32}
    (small : pos.toNat + F.toNat < 2 ^ 32) :
    (capturedBytes fn rings sub.channels.toNat pos F).length = F.toNat * sub.frameBytes := by
  unfold capturedBytes
  rw [sampleRounds_of_noWrap small]
  exact length_gather fun _ _ => length_gather fun _ _ => width _

structure PositionsAfter (sub : PCMSubstream) (dsd : UInt32) (F first n : Nat) (p : PCMStream) : Prop where
  dmaOffset : p.dmaOffset.toNat = RingCursor.after sub.bufferSize F 0 n * sub.frameBytes
  bufferPos : p.bufferPos.toNat = RingCursor.after (ringBufferFrames dsd sub).toNat F first n

theorem toNat_ringFrames {sub : PCMSubstream} (sized : sub.Sized) :
    (ringBufferFrames 0 sub).toNat = sub.ringFrames ∧ sub.ringFrames < 2 ^ 25 := by
  obtain ⟨-, inBuffer⟩ := sized.ringFrames
  have small := sized.bufferSize.2
  rw [bufferBytesMax_eq] at small
  refine ⟨?_, by omega⟩
  unfold ringBufferFrames
  rw [if_neg (by decide), UInt32.toNat_ofNat']
  exact Nat.mod_eq_of_lt (by omega)

theorem ringBufferFrames_bounds {sub : PCMSubstream} (sized : sub.Sized) (dsd : UInt32) :
    0 < (ringBufferFrames dsd sub).toNat ∧ (ringBufferFrames dsd sub).toNat < 2 ^ 25 := by
  by_cases pcm : dsd = 0
  · rw [pcm, (toNat_ringFrames sized).1]
    exact ⟨sized.ringFrames.1, (toNat_ringFrames sized).2⟩
  · unfold ringBufferFrames
    rw [if_pos pcm]
    decide

theorem PositionsAfter.advance {sub : PCMSubstream} {dsd F : UInt32} {first n : Nat} {p : PCMStream}
    (at_ : PositionsAfter sub dsd F.toNat first n p) (sized : sub.Sized) (inBuffer : F.toNat ≤ sub.bufferSize)
    (short : F.toNat ≤ (ringBufferFrames dsd sub).toNat) (stride : p.currentAlsaStride = UInt32.ofNat sub.format.stride)
    (size : p.pcmBufferSize = UInt32.ofNat sub.bufferBytes) :
    PositionsAfter sub dsd F.toNat first (n + 1)
      (advance p F (ringBufferFrames dsd sub) (sub.channels * p.currentAlsaStride)) where
  dmaOffset := by
    rw [← RingCursor.advance_after sized.bufferSize.1 inBuffer]
    apply advance_dmaOffset
    · rw [size, sized.toNat_bufferBytes]
      rfl
    · rw [stride, sized.toNat_frameBytes]
    · exact at_.dmaOffset
    · exact RingCursor.after_lt sized.bufferSize.1 n
    · exact inBuffer
    · exact sized.frameBytes.1
    · exact sized.bufferBytes
  bufferPos := by
    obtain ⟨positive, small⟩ := ringBufferFrames_bounds sized dsd
    rw [← RingCursor.advance_after positive short, ← at_.bufferPos]
    apply advance_bufferPos
    · rw [at_.bufferPos]
      exact RingCursor.after_lt positive n
    · exact short
    · exact small

structure CapturedFor (sub : PCMSubstream) (dsd F : UInt32) (first n : Nat) (chip : AudioChip) : Prop where
  capturing : Capturing sub chip
  mode : chip.currentDSD = dsd
  positions : PositionsAfter sub dsd F.toNat first n chip.capture

/-- One capture interrupt more: it succeeds exactly when its frame is inside the area. -/
theorem CapturedFor.interrupt {sub : PCMSubstream} {dsd F : UInt32} {first n : Nat} {chip : AudioChip}
    {fn : CaptureInterleave} (captured : CapturedFor sub dsd F first n chip) (sized : sub.Sized)
    (inBuffer : F.toNat ≤ sub.bufferSize) (short : F.toNat ≤ (ringBufferFrames dsd sub).toNat)
    (moves : 0 < F.toNat) (selected : selectInterleave sub = some fn)
    (width : ∀ s, (fn.store s).length = sub.format.stride) (rings : RingMemory) :
    (RingCursor.after sub.bufferSize F.toNat 0 n + F.toNat ≤ sub.bufferSize →
        Succeeds (chip.pcmInterruptCapture F rings)) ∧
      ∀ next, chip.pcmInterruptCapture F rings = .ok next →
        RingCursor.after sub.bufferSize F.toNat 0 n + F.toNat ≤ sub.bufferSize ∧
        CapturedFor sub dsd F first (n + 1) next ∧
        next.dmaCaptured = writeBytes chip.dmaCaptured chip.capture.dmaOffset.toNat
          (capturedBytes fn rings sub.channels.toNat chip.capture.bufferPos F) := by
  obtain ⟨positive, ringSmall⟩ := ringBufferFrames_bounds sized dsd
  have inside : RingCursor.after (ringBufferFrames dsd sub).toNat F.toNat first n <
      (ringBufferFrames dsd sub).toNat := RingCursor.after_lt positive n
  have wide := sized.frameBytes.1
  have small : chip.capture.bufferPos.toNat + F.toNat < 2 ^ 32 := by
    rw [captured.positions.bufferPos]
    omega
  have length := length_capturedBytes width rings small
  have room : chip.capture.dmaOffset.toNat +
        (capturedBytes fn rings sub.channels.toNat chip.capture.bufferPos F).length ≤ sub.bufferBytes ↔
      RingCursor.after sub.bufferSize F.toNat 0 n + F.toNat ≤ sub.bufferSize := by
    rw [length, captured.positions.dmaOffset, ← Nat.add_mul]
    exact Nat.mul_le_mul_right_iff wide
  have some_ : capturedBytes fn rings sub.channels.toNat chip.capture.bufferPos F ≠ [] := by
    intro none
    rw [none, List.length_nil] at length
    exact absurd length.symm (Nat.mul_pos moves wide).ne'
  unfold pcmInterruptCapture
  simp only [captured.capturing.substream, captureCopy_eq captured.capturing sized selected]
  unfold emit
  constructor
  · intro fits
    rw [if_pos (.inr (room.mpr fits))]
    exact succeeds_ok _
  · intro next done
    split at done
    · rename_i fits
      cases done
      refine ⟨room.mp (fits.resolve_left some_), ?_, rfl⟩
      refine ⟨⟨captured.capturing.substream, captured.capturing.stride, captured.capturing.size,
        captured.capturing.interleave⟩, captured.mode, ?_⟩
      rw [captured.mode]
      exact captured.positions.advance sized inBuffer short captured.capturing.stride captured.capturing.size
    · cases done

/-- What the manager answers for the length of the ring of a substream. -/
theorem bufferSizeInFrames_eq {sub : PCMSubstream} (sized : sub.Sized) (currentDSD : UInt32) :
    bufferSizeInFrames (currentDSD != 0) (some sub.toPCMRuntime) = ringBufferFrames currentDSD sub := by
  have positive := sized.ringFrames.1
  have some_ : sub.periodSize ≠ 0 ∧ sub.periods ≠ 0 := by
    constructor
    · intro none
      unfold PCMSubstream.ringFrames at positive
      rw [none, Nat.zero_mul] at positive
      omega
    · intro none
      unfold PCMSubstream.ringFrames at positive
      rw [none, Nat.mul_zero] at positive
      omega
  simp only [bufferSizeInFrames, if_pos some_, ringBufferFrames, bne_iff_ne]
  rfl

theorem captureLength {sub : PCMSubstream} {chip : AudioChip} (sized : sub.Sized)
    (substream : chip.capture.substream = some sub) :
    chip.alsaBuffers.getCaptureBufferSizeInFrames = ringBufferFrames chip.currentDSD sub := by
  rw [← bufferSizeInFrames_eq sized]
  simp only [AlsaBuffers.getCaptureBufferSizeInFrames, alsaBuffers, substream, Option.map_some]

theorem playbackLength {sub : PCMSubstream} {chip : AudioChip} (sized : sub.Sized)
    (substream : chip.playback.substream = some sub) :
    chip.alsaBuffers.getPlaybackBufferSizeInFrames = ringBufferFrames chip.currentDSD sub := by
  rw [← bufferSizeInFrames_eq sized]
  simp only [AlsaBuffers.getPlaybackBufferSizeInFrames, alsaBuffers, substream, Option.map_some]

theorem liveInOffset_eq {sub : PCMSubstream} {chip : AudioChip} (sized : sub.Sized)
    (substream : chip.capture.substream = some sub) (m : Manager) (sac : UInt64) :
    ∃ offset, getLiveInJitterBufferOffset (m.callbacks chip.alsaBuffers) sac = .ok offset ∧
      offset.toNat = sac.toNat % (ringBufferFrames chip.currentDSD sub).toNat := by
  have length := congrArg UInt32.toNat (captureLength sized substream)
  obtain ⟨positive, small⟩ := ringBufferFrames_bounds sized chip.currentDSD
  have below := Nat.mod_lt sac.toNat positive
  unfold getLiveInJitterBufferOffset cwLlModulo
  change ∃ offset, ((if (chip.alsaBuffers.getCaptureBufferSizeInFrames.toUInt64.toUInt32) = 0 then
      Except.error Fault.divideByZero else _) >>= _) = _ ∧ _
  rw [UInt32.toUInt32_toUInt64, if_neg]
  · refine ⟨_, rfl, ?_⟩
    change (sac % chip.alsaBuffers.getCaptureBufferSizeInFrames.toUInt64.toUInt32.toUInt64).toUInt32.toNat = _
    rw [UInt32.toUInt32_toUInt64, UInt64.toNat_toUInt32, UInt64.toNat_mod, UInt32.toNat_toUInt64, length]
    exact Nat.mod_eq_of_lt (by omega)
  · intro none
    rw [none] at length
    exact absurd length.symm positive.ne'

theorem prepareCapture_captured {chip start : AudioChip} {sub : PCMSubstream} {before after : Manager} {err : Int32}
    (F : UInt32) (sized : sub.Sized) (substream : chip.capture.substream = some sub)
    (prepared : chip.prepareCapture sub before after err = .ok (some start)) :
    CapturedFor sub (getDSDMode before.sampleRate) F
      (after.ptpSelected.globalSAC.toNat % (ringBufferFrames (getDSDMode before.sampleRate) sub).toNat) 0 start := by
  have same : (chip.readRate before).capture.substream = some sub := substream
  obtain ⟨offset, isOffset, at_⟩ := liveInOffset_eq sized same
    after after.ptpSelected.globalSAC
  have done := prepared
  unfold prepareCapture at done
  dsimp only at done
  change ((getLiveInJitterBufferOffset (after.callbacks (chip.readRate before).alsaBuffers)
    after.ptpSelected.globalSAC) >>= _) = _ at done
  rw [isOffset, ok_bind] at done
  split at done
  · cases done
  · cases done
    refine ⟨⟨rfl, rfl, rfl, rfl⟩, rfl, ?_, ?_⟩
    · rw [RingCursor.after_zero sized.bufferSize.1, Nat.zero_mul]
      rfl
    · rw [RingCursor.after_zero (Nat.mod_lt _ (ringBufferFrames_bounds sized _).1)]
      exact at_

theorem prepareCapture_succeeds {chip : AudioChip} {sub : PCMSubstream} (before after : Manager) (sized : sub.Sized)
    (substream : chip.capture.substream = some sub) :
    ∃ start, chip.prepareCapture sub before after 0 = .ok (some start) := by
  have same : (chip.readRate before).capture.substream = some sub := substream
  obtain ⟨offset, isOffset, -⟩ := liveInOffset_eq sized same
    after after.ptpSelected.globalSAC
  unfold prepareCapture
  dsimp only
  change ∃ start, ((getLiveInJitterBufferOffset (after.callbacks (chip.readRate before).alsaBuffers)
    after.ptpSelected.globalSAC) >>= _) = _
  rw [isOffset, ok_bind, if_neg]
  · exact ⟨_, rfl⟩
  · intro refused
    exact absurd refused.2 (by decide)

def captureRun (F : UInt32) (rings : Nat → RingMemory) : Nat → AudioChip → Except Fault AudioChip :=
  forUp fun k chip => chip.pcmInterruptCapture F (rings k)

end AudioChip

theorem periodFactor_cases (rate : UInt32) :
    periodFactor rate = 1 ∨ periodFactor rate = 2 ∨ periodFactor rate = 4 ∨ periodFactor rate = 8 := by
  unfold periodFactor
  split
  · simp
  · split
    · simp
    · split
      · simp
      · simp

/-- Where the longest frame is not empty, no multiple of the shortest one is. -/
theorem Manager.minFrame_ne_zero {m : Manager} (longest : m.getMaxInterruptsFrameSize ≠ 0) (rate : UInt32) :
    m.getMinInterruptsFrameSize * periodFactor rate ≠ 0 := by
  intro none
  apply longest
  have eight : m.getMinInterruptsFrameSize * 8 = 0 := by
    rcases periodFactor_cases rate with factor | factor | factor | factor
    · rw [factor, UInt32.mul_one] at none
      rw [none, UInt32.zero_mul]
    · rw [factor] at none
      rw [show (8 : UInt32) = 2 * 4 from rfl, ← UInt32.mul_assoc, none, UInt32.zero_mul]
    · rw [factor] at none
      rw [show (8 : UInt32) = 4 * 2 from rfl, ← UInt32.mul_assoc, none, UInt32.zero_mul]
    · rwa [factor] at none
  unfold Manager.getMaxInterruptsFrameSize
  rw [eight]
  apply UInt32.toNat_inj.mp
  rw [toNat_min]
  exact Nat.min_zero _

theorem pcmOpen_eq {formats : List PCMFormat} {m : Manager} {c : HwConstraints} (opened : pcmOpen formats m = .ok c) :
    m.getMaxInterruptsFrameSize ≠ 0 ∧ c.formats = formats ∧ c.minPTPFrameSize = m.getMinInterruptsFrameSize ∧
      c.maxPTPFrameSize = m.getMaxInterruptsFrameSize := by
  unfold pcmOpen at opened
  dsimp only at opened
  split at opened
  · cases opened
  · rename_i longest
    cases opened
    exact ⟨longest, rfl, rfl, rfl⟩

theorem pcmOpen_period {formats : List PCMFormat} {m : Manager} {c : HwConstraints} {sub : PCMSubstream}
    (opened : pcmOpen formats m = .ok c) (allows : c.Allows sub) : 0 < sub.periodSize := by
  obtain ⟨longest, -, isMin, -⟩ := pcmOpen_eq opened
  have shortest := Manager.minFrame_ne_zero longest sub.rate
  have atLeast := allows.periodSizeByRate.1
  rw [isMin] at atLeast
  have positive : (m.getMinInterruptsFrameSize * periodFactor sub.rate).toNat ≠ 0 := fun zero =>
    shortest (UInt32.toNat_inj.mp zero)
  omega

theorem pcmOpen_sized {formats : List PCMFormat} {m : Manager} {c : HwConstraints} {sub : PCMSubstream}
    (opened : pcmOpen formats m = .ok c) (allows : c.Allows sub) : sub.Sized :=
  allows.sized (pcmOpen_period opened allows)

end RavennaLkm
