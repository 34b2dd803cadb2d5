import RavennaLkm.DMAGeometry
import RavennaLkm.Lib.GuardedRun

/-!
The position of a capture in its rings and the position of the clock. Both move by
a frame in each TIC, but the position in the rings only while the interrupts run.
-/
namespace RavennaLkm
open CheckedLoop Gather GuardedRun

namespace Manager

def advanceSAC (self : Manager) : Manager :=
  { self with ptp := fun nic =>
      { self.ptp nic with globalSAC := (self.ptp nic).globalSAC + self.frameSize.toUInt64 } }

def runsCapture (self : Manager) : Bool := self.sendsOutgoing && self.isRecordingIO

end Manager

structure CaptureRun where
  manager : Manager
  chip : AudioChip
  tics : Nat := 0
  /-- The TICs without an interrupt of the capture. -/
  missed : Nat := 0

/-- The triggers of ALSA, the lock of the clock, and the TICs, each with the streams as packets and
messages have left them. -/
inductive CaptureOp where
  | startInterrupts (isPlayback : Bool)
  | stopInterrupts (isPlayback : Bool)
  | lockStatus (status : Nat → PTPLockStatus)
  | tic (streams : RTPStreamsManager) (tick : Manager.Tick) (dma : Nat → UInt8)

def CaptureOp.step (r : CaptureRun) : CaptureOp → Except Fault CaptureRun
  | .startInterrupts isPlayback =>
    let next := r.manager.startInterrupts r.chip isPlayback
    .ok { r with manager := next.1, chip := next.2 }
  | .stopInterrupts isPlayback =>
    let next := r.manager.stopInterrupts r.chip isPlayback
    .ok { r with manager := next.1, chip := next.2 }
  | .lockStatus status => .ok { r with manager := { r.manager with lastLockStatus := status } }
  | .tic streams tick dma => do
    let next ← (r.manager.advanceSAC.setStreams streams).audioFrameTICWithChip r.chip tick dma
    .ok {
      manager := next.1
      chip := next.2.1
      tics := r.tics + 1
      missed := if r.manager.runsCapture then r.missed else r.missed + 1 }

structure CaptureGeometry (sub : PCMSubstream) (dsd F : UInt32) : Prop where
  sized : sub.Sized
  inBuffer : F.toNat ≤ sub.bufferSize
  short : F.toNat ≤ (AudioChip.ringBufferFrames dsd sub).toNat
  moves : 0 < F.toNat
  format : sub.format ∈ captureFormats

theorem captureGeometry_of_open {m : Manager} {c : HwConstraints} {sub : PCMSubstream}
    (opened : pcmOpen captureFormats m = .ok c) (allows : c.Allows sub) (dsd : UInt32) :
    CaptureGeometry sub dsd (m.withRate sub.rate).frameSize := by
  have sized := pcmOpen_sized opened allows
  have inPCM := frameSize_le_ring opened allows 0
  rw [(AudioChip.toNat_ringFrames sized).1] at inPCM
  constructor
  case sized => exact sized
  case inBuffer => exact Nat.le_trans inPCM sized.ringFrames.2
  case short => exact frameSize_le_ring opened allows dsd
  case moves => exact frameSize_pos opened allows
  case format =>
    rw [← (pcmOpen_eq opened).2.1]
    exact allows.format

/-- Frames that the area is a whole number of, whatever the manager was opened with. -/
theorem captureGeometry_of_whole {m : Manager} {c : HwConstraints} {sub : PCMSubstream} {dsd F : UInt32}
    (opened : pcmOpen captureFormats m = .ok c) (allows : c.Allows sub) (whole : F.toNat ∣ sub.bufferSize)
    (inRing : F.toNat ≤ (AudioChip.ringBufferFrames dsd sub).toNat) : CaptureGeometry sub dsd F := by
  have sized := pcmOpen_sized opened allows
  have some_ := sized.bufferSize.1
  constructor
  case sized => exact sized
  case inBuffer => exact Nat.le_of_dvd some_ whole
  case short => exact inRing
  case moves => exact Nat.pos_of_dvd_of_pos whole some_
  case format =>
    rw [← (pcmOpen_eq opened).2.1]
    exact allows.format

namespace AudioChip

structure SameCapture (chip chip' : AudioChip) : Prop where
  capture : chip'.capture = chip.capture
  interleave : chip'.captureInterleaveFn = chip.captureInterleaveFn
  mode : chip'.currentDSD = chip.currentDSD

theorem SameCapture.captured {sub : PCMSubstream} {dsd F : UInt32} {first n : Nat} {chip chip' : AudioChip}
    (same : SameCapture chip chip') (captured : CapturedFor sub dsd F first n chip) :
    CapturedFor sub dsd F first n chip' := by
  obtain ⟨capturing, mode, positions⟩ := captured
  constructor
  · obtain ⟨substream, stride, size, interleave⟩ := capturing
    constructor
    · rwa [same.capture]
    · rwa [same.capture]
    · rwa [same.capture]
    · rwa [same.interleave]
  · rwa [same.mode]
  · rwa [same.capture]

theorem playbackCopy_sameCapture {chip copied : AudioChip} {sub : PCMSubstream} {F : UInt32} {dma : Nat → UInt8}
    (done : chip.playbackCopy sub F dma = .ok copied) : SameCapture chip copied := by
  unfold playbackCopy at done
  split at done
  · obtain ⟨_, -, same⟩ := bind_eq_ok.mp done
    cases same
    exact ⟨rfl, rfl, rfl⟩
  · unfold playbackCopyInternal at done
    split at done
    · obtain ⟨_, -, same⟩ := bind_eq_ok.mp done
      cases same
      exact ⟨rfl, rfl, rfl⟩
    · cases done
      exact ⟨rfl, rfl, rfl⟩

theorem pcmInterruptPlayback_sameCapture {chip next : AudioChip} {F : UInt32} {dma : Nat → UInt8}
    (done : chip.pcmInterruptPlayback F dma = .ok next) : SameCapture chip next := by
  unfold pcmInterruptPlayback at done
  split at done
  · cases done
    exact ⟨rfl, rfl, rfl⟩
  · obtain ⟨copied, ran, same⟩ := bind_eq_ok.mp done
    obtain ⟨capture, interleave, mode⟩ := playbackCopy_sameCapture ran
    cases same
    exact ⟨capture, interleave, mode⟩

end AudioChip

namespace Manager
open AudioChip

variable {m m' : Manager} {chip chip' : AudioChip}

theorem startInterrupts_frame (m : Manager) (chip : AudioChip) (isPlayback : Bool) :
    SameCapture chip (m.startInterrupts chip isPlayback).2 ∧
      (m.startInterrupts chip isPlayback).1.frameSize = m.frameSize ∧
      (m.startInterrupts chip isPlayback).1.ptpSelected = m.ptpSelected := by
  unfold startInterrupts startIo
  dsimp only
  refine ⟨?_, ?_, ?_⟩
  · split
    · exact ⟨rfl, rfl, rfl⟩
    · exact ⟨rfl, rfl, rfl⟩
  · split
    · rfl
    · split <;> rfl
  · split
    · rfl
    · split <;> rfl

theorem stopInterrupts_frame (m : Manager) (chip : AudioChip) (isPlayback : Bool) :
    SameCapture chip (m.stopInterrupts chip isPlayback).2 ∧
      (m.stopInterrupts chip isPlayback).1.frameSize = m.frameSize ∧
      (m.stopInterrupts chip isPlayback).1.ptpSelected = m.ptpSelected := by
  unfold stopInterrupts stopIo
  dsimp only
  refine ⟨?_, ?_, ?_⟩
  · split
    · exact ⟨rfl, rfl, rfl⟩
    · exact ⟨rfl, rfl, rfl⟩
  · split
    · split <;> rfl
    · split <;> rfl
  · split
    · split <;> rfl
    · split <;> rfl

theorem audioFrameTICWithChip_capture {tick : Tick} {dma : Nat → UInt8} {log : RTPStreamsManager.SendLog}
    (done : m.audioFrameTICWithChip chip tick dma = .ok (m', chip', log)) :
    (∃ streams, m' = m.setStreams streams) ∧
      (m.runsCapture = false → SameCapture chip chip') ∧
      (m.runsCapture = true →
        ∃ livesIn next, chip.pcmInterruptCapture m.frameSize livesIn = .ok next ∧ SameCapture next chip') := by
  unfold audioFrameTICWithChip at done
  obtain ⟨streams, -, rest⟩ := bind_eq_ok.mp done
  unfold runsCapture
  split at rest
  · rename_i sends
    obtain ⟨sent, -, rest⟩ := bind_eq_ok.mp rest
    obtain ⟨captured, captures, rest⟩ := bind_eq_ok.mp rest
    obtain ⟨played, plays, same⟩ := bind_eq_ok.mp rest
    cases same
    unfold interruptCapture at captures
    have afterwards : SameCapture captured chip' := by
      unfold interruptPlayback at plays
      split at plays
      · exact pcmInterruptPlayback_sameCapture plays
      · cases plays
        exact ⟨rfl, rfl, rfl⟩
    refine ⟨⟨_, rfl⟩, ?_, ?_⟩
    · intro idle
      rw [sends, Bool.true_and] at idle
      rw [idle, if_neg Bool.false_ne_true] at captures
      cases captures
      exact afterwards
    · intro runs
      rw [sends, Bool.true_and] at runs
      rw [if_pos runs] at captures
      exact ⟨_, captured, captures, afterwards⟩
  · rename_i silent
    cases rest
    refine ⟨⟨_, rfl⟩, ?_, ?_⟩
    · intro _
      exact ⟨rfl, rfl, rfl⟩
    · intro runs
      rw [Bool.and_eq_true] at runs
      exact absurd runs.1 silent

end Manager

namespace CaptureRun
open AudioChip

/-- Where a run from the position `sac` has come to: the clock has counted all the TICs, the chip only
those with an interrupt. -/
structure Kept (sub : PCMSubstream) (dsd F : UInt32) (sac : UInt64) (r : CaptureRun) : Prop where
  missed : r.missed ≤ r.tics
  frame : r.manager.frameSize = F
  clock : r.manager.ptpSelected.globalSAC = sac + UInt64.ofNat r.tics * F.toUInt64
  captured : CapturedFor sub dsd F (sac.toNat % (ringBufferFrames dsd sub).toNat) (r.tics - r.missed) r.chip

variable {sub : PCMSubstream} {dsd F : UInt32} {sac : UInt64} {r r' : CaptureRun}

theorem Kept.tic (kept : r.Kept sub dsd F sac) (g : CaptureGeometry sub dsd F)
    {streams : RTPStreamsManager} {tick : Manager.Tick} {dma : Nat → UInt8}
    (done : CaptureOp.step r (.tic streams tick dma) = .ok r') : r'.Kept sub dsd F sac := by
  obtain ⟨fn, selected, width⟩ := selectInterleave_some g.format
  have missed := kept.missed
  obtain ⟨⟨manager, chip, log⟩, ran, same⟩ := bind_eq_ok.mp done
  obtain ⟨⟨streams', isManager⟩, idle, runs⟩ := Manager.audioFrameTICWithChip_capture ran
  have clock : manager.ptpSelected.globalSAC = sac + UInt64.ofNat (r.tics + 1) * F.toUInt64 := by
    calc manager.ptpSelected.globalSAC = r.manager.ptpSelected.globalSAC + r.manager.frameSize.toUInt64 := by
          rw [isManager]
          rfl
      _ = sac + UInt64.ofNat r.tics * F.toUInt64 + F.toUInt64 := by rw [kept.clock, kept.frame]
      _ = sac + UInt64.ofNat (r.tics + 1) * F.toUInt64 := by
          rw [UInt64.ofNat_add, UInt64.add_mul, UInt64.add_assoc]
          congr 2
          exact (UInt64.one_mul _).symm
  have frame : manager.frameSize = F := by
    rw [isManager]
    exact kept.frame
  cases same
  cases captures : r.manager.runsCapture with
  | false =>
    refine ⟨?_, frame, clock, ?_⟩
    · simp only [Bool.false_eq_true, if_false]
      omega
    · simp only [Bool.false_eq_true, if_false, Nat.add_sub_add_right]
      exact (idle captures).captured kept.captured
  | true =>
    refine ⟨?_, frame, clock, ?_⟩
    · simp only [if_true]
      omega
    · obtain ⟨livesIn, next, interrupts, afterwards⟩ := runs captures
      change r.chip.pcmInterruptCapture r.manager.frameSize livesIn = .ok next at interrupts
      rw [kept.frame] at interrupts
      obtain ⟨-, after⟩ := kept.captured.interrupt g.sized g.inBuffer g.short g.moves selected width livesIn
      simp only [if_true]
      rw [Nat.sub_add_comm missed]
      exact afterwards.captured (after next interrupts).2.1

theorem Kept.step (kept : r.Kept sub dsd F sac) (g : CaptureGeometry sub dsd F)
    (op : CaptureOp) (done : op.step r = .ok r') : r'.Kept sub dsd F sac := by
  obtain ⟨missed, frame, clock, captured⟩ := kept
  cases op with
  | startInterrupts isPlayback =>
    cases done
    obtain ⟨same, sameFrame, sameClock⟩ := Manager.startInterrupts_frame r.manager r.chip isPlayback
    exact ⟨missed, sameFrame.trans frame, (congrArg ClockPTP.globalSAC sameClock).trans clock, same.captured captured⟩
  | stopInterrupts isPlayback =>
    cases done
    obtain ⟨same, sameFrame, sameClock⟩ := Manager.stopInterrupts_frame r.manager r.chip isPlayback
    exact ⟨missed, sameFrame.trans frame, (congrArg ClockPTP.globalSAC sameClock).trans clock, same.captured captured⟩
  | lockStatus status =>
    cases done
    exact ⟨missed, frame, clock, captured⟩
  | tic streams tick dma => exact Kept.tic ⟨missed, frame, clock, captured⟩ g done

/-- All the steps are those of `CaptureOp.step`, in any order. -/
def Reaches (r r' : CaptureRun) : Prop := ∃ ops, Run CaptureOp.step (fun _ _ => True) r ops r'

theorem Kept.run (kept : r.Kept sub dsd F sac) (g : CaptureGeometry sub dsd F)
    (reaches : r.Reaches r') : r'.Kept sub dsd F sac := by
  obtain ⟨ops, run⟩ := reaches
  apply run.invariant (Kept sub dsd F sac ·) kept
  intro r op r' kept _ done
  exact kept.step g op done

/-- The interrupt of a TIC ends at the position of the clock, and gives ALSA, as the sample of position
`sac` in a channel, what is in the cell for `sac`. -/
structure HandsOver (sub : PCMSubstream) (m : Manager) (chip next : AudioChip) (livesIn : RingMemory) : Prop where
  position : next.capture.bufferPos.toNat =
    m.ptpSelected.globalSAC.toNat % chip.alsaBuffers.getCaptureBufferSizeInFrames.toNat
  samples : ∀ fn, chip.captureInterleaveFn = some fn → ∀ sac : UInt64,
    m.ptpSelected.globalSAC.toNat ≤ sac.toNat + m.frameSize.toNat → sac.toNat < m.ptpSelected.globalSAC.toNat →
    ∀ ch < sub.channels.toNat, ∃ offset,
      getLiveInJitterBufferOffset (m.callbacks chip.alsaBuffers) sac = .ok offset ∧
      ∀ i b, (fn.store (livesIn (ch * ringBufferSize.toNat + offset.toNat)))[i]? = some b →
        next.dmaCaptured (chip.capture.dmaOffset.toNat +
          ((sac.toNat + m.frameSize.toNat - m.ptpSelected.globalSAC.toNat) * sub.channels.toNat + ch) *
            sub.format.stride + i) = some b

/-- Whatever the rings hold at the interrupt of the next TIC. -/
def Aligned (sub : PCMSubstream) (r : CaptureRun) : Prop :=
  ∀ livesIn next, r.chip.pcmInterruptCapture r.manager.frameSize livesIn = .ok next →
    HandsOver sub r.manager.advanceSAC r.chip next livesIn

/-- The missed TICs are whole turns of the ring, and the next frame does not reach over its end. -/
structure InStep (r : CaptureRun) : Prop where
  turns : r.chip.alsaBuffers.getCaptureBufferSizeInFrames.toNat ∣ r.missed * r.manager.frameSize.toNat
  frame : r.manager.ptpSelected.globalSAC.toNat % r.chip.alsaBuffers.getCaptureBufferSizeInFrames.toNat +
    r.manager.frameSize.toNat ≤ r.chip.alsaBuffers.getCaptureBufferSizeInFrames.toNat

theorem Kept.currentSAC (kept : r.Kept sub dsd F sac) (noWrap : sac.toNat + (r.tics + 1) * F.toNat < 2 ^ 64) :
    r.manager.ptpSelected.globalSAC.toNat = sac.toNat + r.tics * F.toNat := by
  rw [Nat.succ_mul] at noWrap
  rw [kept.clock, UInt64.toNat_add, UInt64.toNat_mul, UInt32.toNat_toUInt64, UInt64.toNat_ofNat', Nat.mod_mul_mod,
    Nat.add_mod_mod]
  exact Nat.mod_eq_of_lt (by omega)

theorem Kept.nextSAC (kept : r.Kept sub dsd F sac) (noWrap : sac.toNat + (r.tics + 1) * F.toNat < 2 ^ 64) :
    r.manager.advanceSAC.ptpSelected.globalSAC.toNat = sac.toNat + (r.tics + 1) * F.toNat := by
  change (r.manager.ptpSelected.globalSAC + r.manager.frameSize.toUInt64).toNat = _
  rw [UInt64.toNat_add, kept.currentSAC noWrap, kept.frame, UInt32.toNat_toUInt64, Nat.succ_mul, ← Nat.add_assoc]
  rw [Nat.succ_mul] at noWrap
  exact Nat.mod_eq_of_lt (by omega)

theorem getElem?_capturedBytes {fn : CaptureInterleave} (width : ∀ s, (fn.store s).length = sub.format.stride)
    (livesIn : RingMemory) {pos : UInt32} (small : pos.toNat + F.toNat < 2 ^ 30) {j ch i : Nat} (inFrame : j < F.toNat)
    (channel : ch < sub.channels.toNat) (byte : i < sub.format.stride) :
    (capturedBytes fn livesIn sub.channels.toNat pos F)[(j * sub.channels.toNat + ch) * sub.format.stride + i]? =
      (fn.store (livesIn (ch * ringBufferSize.toNat + (pos.toNat + j))))[i]? := by
  unfold capturedBytes
  rw [sampleRounds_of_noWrap (by omega), getElem?_gather_blocks (fun _ _ => width _) inFrame channel byte,
    inPos_eq (by omega)]

theorem sample_after_interrupt {first n : Nat} {chip next : AudioChip} {fn : CaptureInterleave}
    (captured : CapturedFor sub dsd F first n chip) (g : CaptureGeometry sub dsd F)
    (selected : selectInterleave sub = some fn) (width : ∀ s, (fn.store s).length = sub.format.stride)
    {livesIn : RingMemory} (done : chip.pcmInterruptCapture F livesIn = .ok next) {j ch i : Nat}
    (inFrame : j < F.toNat) (channel : ch < sub.channels.toNat) (byte : i < sub.format.stride) :
    next.dmaCaptured (chip.capture.dmaOffset.toNat + (j * sub.channels.toNat + ch) * sub.format.stride + i) =
      (fn.store (livesIn (ch * ringBufferSize.toNat + (chip.capture.bufferPos.toNat + j))))[i]? := by
  obtain ⟨positive, small⟩ := ringBufferFrames_bounds g.sized dsd
  have short := g.short
  have inside : chip.capture.bufferPos.toNat < (ringBufferFrames dsd sub).toNat := by
    rw [captured.positions.bufferPos]
    exact RingCursor.after_lt positive n
  obtain ⟨-, after⟩ := captured.interrupt g.sized g.inBuffer g.short g.moves selected width livesIn
  have sample := getElem?_capturedBytes width livesIn (show chip.capture.bufferPos.toNat + F.toNat < 2 ^ 30 by omega)
    inFrame channel byte
  have some_ : i < (fn.store (livesIn (ch * ringBufferSize.toNat + (chip.capture.bufferPos.toNat + j)))).length := by
    rwa [width]
  rw [List.getElem?_eq_getElem some_] at sample
  obtain ⟨inBytes, -⟩ := List.getElem?_eq_some_iff.mp sample
  rw [(after next done).2.2, writeBytes, if_pos (by omega), List.getElem?_eq_getElem some_, ← sample]
  congr 1
  omega

theorem Kept.ring (kept : r.Kept sub dsd F sac) (g : CaptureGeometry sub dsd F) :
    r.chip.alsaBuffers.getCaptureBufferSizeInFrames = ringBufferFrames dsd sub := by
  rw [captureLength g.sized kept.captured.capturing.substream, kept.captured.mode]

theorem Kept.position_iff (kept : r.Kept sub dsd F sac) (g : CaptureGeometry sub dsd F)
    (noWrap : sac.toNat + (r.tics + 1) * F.toNat < 2 ^ 64) {livesIn : RingMemory} {next : AudioChip}
    (done : r.chip.pcmInterruptCapture F livesIn = .ok next) :
    next.capture.bufferPos.toNat =
        r.manager.advanceSAC.ptpSelected.globalSAC.toNat % (ringBufferFrames dsd sub).toNat ↔
      (ringBufferFrames dsd sub).toNat ∣ r.missed * F.toNat := by
  obtain ⟨fn, selected, width⟩ := selectInterleave_some g.format
  obtain ⟨-, after⟩ := kept.captured.interrupt g.sized g.inBuffer g.short g.moves selected width livesIn
  have missed := kept.missed
  have turns := @RingCursor.after_eq_after_iff (ringBufferFrames dsd sub).toNat F.toNat sac.toNat
    (r.tics - r.missed + 1) (r.tics + 1) (by omega)
  rw [show r.tics + 1 - (r.tics - r.missed + 1) = r.missed by omega] at turns
  rw [(after next done).2.1.positions.bufferPos, RingCursor.after_mod_start, kept.nextSAC noWrap]
  exact turns

/-- Without a gap the frame before the position of the clock is what is read. -/
theorem Kept.bufferPos (kept : r.Kept sub dsd F sac)
    (turns : (ringBufferFrames dsd sub).toNat ∣ r.missed * F.toNat) :
    r.chip.capture.bufferPos.toNat = (sac.toNat + r.tics * F.toNat) % (ringBufferFrames dsd sub).toNat := by
  have missed := kept.missed
  rw [kept.captured.positions.bufferPos, RingCursor.after_mod_start]
  apply (RingCursor.after_eq_after_iff (Nat.sub_le r.tics r.missed)).mpr
  rwa [Nat.sub_sub_self missed]

theorem Kept.handsOver (kept : r.Kept sub dsd F sac) (g : CaptureGeometry sub dsd F)
    (noWrap : sac.toNat + (r.tics + 1) * F.toNat < 2 ^ 64)
    (turns : (ringBufferFrames dsd sub).toNat ∣ r.missed * F.toNat)
    (frame : (sac.toNat + r.tics * F.toNat) % (ringBufferFrames dsd sub).toNat + F.toNat ≤
      (ringBufferFrames dsd sub).toNat) : Aligned sub r := by
  obtain ⟨fn, selected, width⟩ := selectInterleave_some g.format
  have nextSAC := kept.nextSAC noWrap
  have ring := kept.ring g
  intro livesIn next done
  rw [kept.frame] at done
  constructor
  case position =>
    rw [ring]
    exact (kept.position_iff g noWrap done).mpr turns
  case samples =>
    intro fn' isFn position notBefore before ch channel
    have same : fn' = fn := Option.some.inj (isFn.symm.trans (kept.captured.capturing.interleave.trans selected))
    subst same
    change _ ≤ position.toNat + r.manager.frameSize.toNat at notBefore
    rw [kept.frame, nextSAC, Nat.succ_mul] at notBefore
    rw [nextSAC, Nat.succ_mul] at before
    obtain ⟨offset, isOffset, at_⟩ := liveInOffset_eq g.sized kept.captured.capturing.substream
      r.manager.advanceSAC position
    refine ⟨offset, isOffset, ?_⟩
    intro i b stored
    have byte : i < sub.format.stride := by
      rw [← width]
      exact (List.getElem?_eq_some_iff.mp stored).1
    -- the place of the sample in its frame
    let j := position.toNat - (sac.toNat + r.tics * F.toNat)
    have isPosition : position.toNat = sac.toNat + r.tics * F.toNat + j := by omega
    have inFrame : j < F.toNat := by omega
    have cell : offset.toNat = r.chip.capture.bufferPos.toNat + j := by
      rw [at_, kept.captured.mode, isPosition, kept.bufferPos turns]
      exact RingCursor.add_mod_of_lt (by omega)
    have frameIndex : position.toNat + r.manager.advanceSAC.frameSize.toNat -
        r.manager.advanceSAC.ptpSelected.globalSAC.toNat = j := by
      change position.toNat + r.manager.frameSize.toNat - _ = j
      rw [kept.frame, nextSAC, Nat.succ_mul]
      omega
    rw [frameIndex, sample_after_interrupt kept.captured g selected width done inFrame channel
      byte, ← cell]
    exact stored

theorem Kept.turns_of_aligned (kept : r.Kept sub dsd F sac) (g : CaptureGeometry sub dsd F)
    (noWrap : sac.toNat + (r.tics + 1) * F.toNat < 2 ^ 64) {livesIn : RingMemory}
    (completes : Succeeds (r.chip.pcmInterruptCapture F livesIn)) (aligned : Aligned sub r) :
    (ringBufferFrames dsd sub).toNat ∣ r.missed * F.toNat := by
  obtain ⟨next, done⟩ := completes
  have position := (aligned livesIn next (by rwa [kept.frame])).position
  rw [kept.ring g] at position
  exact (kept.position_iff g noWrap done).mp position

theorem Kept.frame_of_aligned (kept : r.Kept sub dsd F sac) (g : CaptureGeometry sub dsd F)
    (noWrap : sac.toNat + (r.tics + 1) * F.toNat < 2 ^ 64)
    (turns : (ringBufferFrames dsd sub).toNat ∣ r.missed * F.toNat) {livesIn : RingMemory}
    (completes : Succeeds (r.chip.pcmInterruptCapture F livesIn)) (aligned : Aligned sub r) :
    (sac.toNat + r.tics * F.toNat) % (ringBufferFrames dsd sub).toNat + F.toNat ≤
      (ringBufferFrames dsd sub).toNat := by
  by_contra beyond
  obtain ⟨fn, selected, width⟩ := selectInterleave_some g.format
  obtain ⟨positive, -⟩ := ringBufferFrames_bounds g.sized dsd
  have nextSAC := kept.nextSAC noWrap
  have below := Nat.mod_lt (sac.toNat + r.tics * F.toNat) positive
  have bufferPos := kept.bufferPos turns
  -- only the first cell of all the rings is set, and the sample `j` of the frame belongs there
  let livesIn : RingMemory := fun cell => if cell = 0 then ⟨1, 1, 1, 1⟩ else ⟨0, 0, 0, 0⟩
  let j := (ringBufferFrames dsd sub).toNat - r.chip.capture.bufferPos.toNat
  have inFrame : j < F.toNat := by omega
  obtain ⟨next, done⟩ : Succeeds (r.chip.pcmInterruptCapture F livesIn) := by
    obtain ⟨other, ran⟩ := completes
    have inside := ((kept.captured.interrupt g.sized g.inBuffer g.short g.moves selected width _).2 other ran).1
    exact (kept.captured.interrupt g.sized g.inBuffer g.short g.moves selected width livesIn).1 inside
  have handsOver := aligned livesIn next (by rwa [kept.frame])
  let position := UInt64.ofNat (sac.toNat + r.tics * F.toNat + j)
  have isPosition : position.toNat = sac.toNat + r.tics * F.toNat + j := by
    rw [Nat.succ_mul] at noWrap
    exact UInt64.toNat_ofNat_of_lt' (by change _ < 2 ^ 64; omega)
  obtain ⟨offset, isOffset, moved⟩ := handsOver.samples fn (kept.captured.capturing.interleave.trans selected) position
    (by
      change _ ≤ position.toNat + r.manager.frameSize.toNat
      rw [nextSAC, kept.frame, isPosition, Nat.succ_mul]
      omega)
    (by
      rw [nextSAC, isPosition, Nat.succ_mul]
      omega)
    0 g.sized.channels.1
  obtain ⟨same, isSame, at_⟩ := liveInOffset_eq g.sized kept.captured.capturing.substream r.manager.advanceSAC position
  cases isOffset.symm.trans isSame
  have atStart : offset.toNat = 0 := by
    rw [at_, kept.captured.mode, isPosition, ← Nat.mod_add_mod, ← bufferPos]
    have whole : r.chip.capture.bufferPos.toNat + j = (ringBufferFrames dsd sub).toNat := by omega
    rw [whole, Nat.mod_self]
  have frameIndex : position.toNat + r.manager.advanceSAC.frameSize.toNat -
      r.manager.advanceSAC.ptpSelected.globalSAC.toNat = j := by
    change position.toNat + r.manager.frameSize.toNat - _ = j
    rw [kept.frame, nextSAC, isPosition, Nat.succ_mul]
    omega
  have set : next.dmaCaptured (r.chip.capture.dmaOffset.toNat +
      (j * sub.channels.toNat + 0) * sub.format.stride + 0) = some 1 := by
    rw [← frameIndex]
    apply moved
    rw [atStart]
    cases fn <;> rfl
  rw [sample_after_interrupt kept.captured g selected width done inFrame g.sized.channels.1
    (PCMSubstream.stride_bounds _).1] at set
  have behind : 0 * ringBufferSize.toNat + (r.chip.capture.bufferPos.toNat + j) ≠ 0 := by omega
  have unset : livesIn (0 * ringBufferSize.toNat + (r.chip.capture.bufferPos.toNat + j)) = ⟨0, 0, 0, 0⟩ := if_neg behind
  rw [unset] at set
  cases fn <;> exact absurd set (by decide)

theorem kept_of_geometry {before after : Manager} {chip start : AudioChip} {err : Int32}
    (g : CaptureGeometry sub (getDSDMode before.sampleRate) after.frameSize)
    (substream : chip.capture.substream = some sub)
    (prepared : chip.prepareCapture sub before after err = .ok (some start))
    (reaches : Reaches { manager := after, chip := start } r) :
    r.Kept sub (getDSDMode before.sampleRate) after.frameSize after.ptpSelected.globalSAC := by
  refine Kept.run ?_ g reaches
  constructor
  case missed => exact Nat.le_refl _
  case frame => rfl
  case clock => exact (UInt64.add_zero _).symm.trans (congrArg _ UInt64.zero_mul.symm)
  case captured => exact prepareCapture_captured after.frameSize g.sized substream prepared

theorem kept_of_prepared {m before after : Manager} {c : HwConstraints} {chip start : AudioChip} {err : Int32}
    (opened : pcmOpen captureFormats m = .ok c) (allows : c.Allows sub)
    (substream : chip.capture.substream = some sub)
    (prepared : chip.prepareCapture sub before after err = .ok (some start))
    (frame : after.frameSize = (m.withRate sub.rate).frameSize)
    (reaches : Reaches { manager := after, chip := start } r) :
    CaptureGeometry sub (getDSDMode before.sampleRate) after.frameSize ∧
      r.Kept sub (getDSDMode before.sampleRate) after.frameSize after.ptpSelected.globalSAC := by
  have g := captureGeometry_of_open opened allows (getDSDMode before.sampleRate)
  rw [← frame] at g
  exact ⟨g, kept_of_geometry g substream prepared reaches⟩

/-- At every interrupt of every run. -/
theorem aligned_iff {m before after : Manager} {c : HwConstraints} {chip start : AudioChip} {err : Int32}
    {livesIn : RingMemory} (opened : pcmOpen captureFormats m = .ok c) (allows : c.Allows sub)
    (substream : chip.capture.substream = some sub)
    (prepared : chip.prepareCapture sub before after err = .ok (some start))
    (frame : after.frameSize = (m.withRate sub.rate).frameSize)
    (reaches : Reaches { manager := after, chip := start } r)
    (noWrap : after.ptpSelected.globalSAC.toNat + (r.tics + 1) * after.frameSize.toNat < 2 ^ 64)
    (completes : Succeeds (r.chip.pcmInterruptCapture r.manager.frameSize livesIn)) : Aligned sub r ↔ InStep r := by
  obtain ⟨g, kept⟩ := kept_of_prepared opened allows substream prepared frame reaches
  have ring := congrArg UInt32.toNat (kept.ring g)
  rw [kept.frame] at completes
  constructor
  · intro aligned
    have turns := kept.turns_of_aligned g noWrap completes aligned
    constructor
    · rwa [ring, kept.frame]
    · rw [ring, kept.frame, kept.currentSAC noWrap]
      exact kept.frame_of_aligned g noWrap turns completes aligned
  · rintro ⟨turns, inRing⟩
    rw [ring, kept.frame] at turns inRing
    rw [kept.currentSAC noWrap] at inRing
    exact kept.handsOver g noWrap turns inRing

def recordingManager : Manager :=
  { Manager.loaded with isStarted := true, lastLockStatus := fun _ => .locked }

def stereoChip : AudioChip := { capture := { substream := some stereo } }

theorem stereo_capture_allowed : ∃ c, pcmOpen captureFormats recordingManager = .ok c ∧ c.Allows stereo := by
  refine ⟨_, rfl, ?_⟩
  constructor
  all_goals decide

def quietTIC : CaptureOp :=
  .tic Manager.loaded.streams
    { clockTime := fun _ => 0, endTime := fun _ => 0, counterTime := fun _ => 0, currentRTXClockTime := fun _ => 0,
      alsa := {}, skb := true, livesOut := fun _ => {} }
    fun _ => 0

def stereoStart : AudioChip :=
  { stereoChip.readRate recordingManager with
    capture := preparedStream stereo 0, captureInterleaveFn := selectInterleave stereo }

theorem stereo_prepared :
    stereoChip.prepareCapture stereo recordingManager recordingManager 0 = .ok (some stereoStart) := rfl

/-- The counts of a run with its position, frame and ring, and whether the next TIC has an interrupt that
completes. -/
def seen (r : CaptureRun) : List Nat × Bool × Bool :=
  ([r.tics, r.missed, r.manager.ptpSelected.globalSAC.toNat, r.manager.frameSize.toNat,
      r.chip.alsaBuffers.getCaptureBufferSizeInFrames.toNat],
    r.manager.runsCapture, (r.chip.pcmInterruptCapture r.manager.frameSize fun _ => {}).isOk)

structure Reached (r : CaptureRun) : Prop where
  reaches : Reaches { manager := recordingManager, chip := stereoStart } r
  runsCapture : r.manager.runsCapture = true
  completes : Succeeds (r.chip.pcmInterruptCapture r.manager.frameSize fun _ => {})

theorem reached_of_computed (ops : List CaptureOp) {tics missed sac frame ring : Nat}
    (computed : seen <$> ops.foldlM (guarded .divideByZero CaptureOp.step fun _ _ => True)
      { manager := recordingManager, chip := stereoStart } = .ok ([tics, missed, sac, frame, ring], true, true)) :
    ∃ r, Reached r ∧ r.tics = tics ∧ r.missed = missed ∧ r.manager.ptpSelected.globalSAC.toNat = sac ∧
      r.manager.frameSize.toNat = frame ∧ r.chip.alsaBuffers.getCaptureBufferSizeInFrames.toNat = ring := by
  obtain ⟨r, run, sees⟩ := exists_run _ _ _ _ ops seen _ computed
  simp only [seen, Prod.mk.injEq, List.cons.injEq, and_true] at sees
  obtain ⟨⟨isTics, isMissed, isSAC, isFrame, isRing⟩, runs, completes⟩ := sees
  refine ⟨r, ⟨⟨ops, run⟩, runs, ?_⟩, isTics, isMissed, isSAC, isFrame, isRing⟩
  unfold Except.isOk Except.toBool at completes
  split at completes
  · exact ⟨_, ‹_›⟩
  · cases completes

/-- One TIC with the interrupt, from the trigger right after the preparation on. -/
theorem aligned_after_one_frame : ∃ r, Reached r ∧ r.tics = 1 ∧ Aligned stereo r := by
  obtain ⟨c, opened, allows⟩ := stereo_capture_allowed
  obtain ⟨r, reached, tics, missed, sac, frame, ring⟩ :=
    @reached_of_computed [.startInterrupts false, quietTIC] 1 0 512 512 1024 (by decide +kernel)
  refine ⟨r, reached, tics, ?_⟩
  apply (aligned_iff opened allows rfl stereo_prepared rfl reached.reaches (by rw [tics]; decide) reached.completes).mpr
  constructor
  · rw [missed, Nat.zero_mul]
    exact Nat.dvd_zero _
  · rw [sac, frame, ring]

/-- A TIC between the preparation and the trigger. -/
theorem misaligned_after_gap : ∃ r, Reached r ∧ r.tics = 1 ∧ ¬ Aligned stereo r := by
  obtain ⟨c, opened, allows⟩ := stereo_capture_allowed
  obtain ⟨r, reached, tics, missed, -, frame, ring⟩ :=
    @reached_of_computed [quietTIC, .startInterrupts false] 1 1 512 512 1024 (by decide +kernel)
  refine ⟨r, reached, tics, ?_⟩
  intro aligned
  obtain ⟨g, kept⟩ := kept_of_prepared opened allows rfl stereo_prepared rfl reached.reaches
  have completes := reached.completes
  rw [kept.frame] at completes frame
  have turns := kept.turns_of_aligned g (by rw [tics]; decide) completes aligned
  rw [← kept.ring g, missed, ring, frame] at turns
  exact absurd turns (by decide)

end CaptureRun
end RavennaLkm
