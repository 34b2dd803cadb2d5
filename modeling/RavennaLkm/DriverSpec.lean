import RavennaLkm.Driver
import RavennaLkm.DMAGeometry
import RavennaLkm.CaptureStream

/-!
What each party of the driver does to the I/O. Whoever changes the configuration that
the interrupts go by has stopped the I/O before; an interrupt whose frames fit stays
inside the area and moves its own direction only.
-/
namespace RavennaLkm
open CheckedLoop Gather GuardedRun

namespace Manager

variable {m m' : Manager} {msg : MTALSAMsg} {reply : MTALSAReply} {alsa : AlsaBuffers}
  {polled : Nat → Nat → PTPLockStatus}

structure IOLive (m : Manager) : Prop where
  ioRunning : m.ioRunning = (m.isPlaybackIO || m.isRecordingIO)
  started : ∀ isPlayback, m.ioOn isPlayback = true → m.isStarted = true

/-- What starts no I/O, and leaves the configuration of what goes on. -/
structure Steady (m m' : Manager) : Prop where
  ioOn : ∀ isPlayback, m'.ioOn isPlayback = true → m.ioOn isPlayback = true
  ioConfig : ∀ isPlayback, m'.ioOn isPlayback = true → m'.ioConfig = m.ioConfig
  live : m'.IOLive

theorem Steady.refl (live : m.IOLive) : Steady m m where
  ioOn _ io := io
  ioConfig _ _ := rfl
  live := live

theorem Steady.of_idle (playback : m'.isPlaybackIO = false) (recording : m'.isRecordingIO = false)
    (ioRunning : m'.ioRunning = false) : Steady m m' := by
  have idle (isPlayback : Bool) : m'.ioOn isPlayback = false := by
    cases isPlayback with
    | true => exact playback
    | false => exact recording
  constructor
  case ioOn =>
    intro isPlayback io
    simp [idle] at io
  case ioConfig =>
    intro isPlayback io
    simp [idle] at io
  case live =>
    constructor
    · simp [ioRunning, playback, recording]
    · intro isPlayback io
      simp [idle] at io

theorem Quiet.ioOn (quiet : Quiet m m') (isPlayback : Bool) : m'.ioOn isPlayback = m.ioOn isPlayback := by
  cases isPlayback with
  | true => exact quiet.isPlaybackIO
  | false => exact quiet.isRecordingIO

theorem Quiet.ioConfig (quiet : Quiet m m') : m'.ioConfig = m.ioConfig := by
  simp [Manager.ioConfig, quiet.frameSize, quiet.numberOfInputs, quiet.numberOfOutputs]

theorem Quiet.live (quiet : Quiet m m') (live : m.IOLive) : m'.IOLive where
  ioRunning := by rw [quiet.ioRunning, quiet.isPlaybackIO, quiet.isRecordingIO, live.ioRunning]
  started := by
    intro isPlayback io
    rw [quiet.ioOn] at io
    rw [quiet.isStarted]
    exact live.started isPlayback io

theorem Quiet.steady (quiet : Quiet m m') (live : m.IOLive) : Steady m m' where
  ioOn isPlayback io := by rwa [quiet.ioOn] at io
  ioConfig _ _ := quiet.ioConfig
  live := quiet.live live

theorem stopIo_flags (m : Manager) (alsa : AlsaBuffers) (isPlayback : Bool) :
    (m.stopIo alsa isPlayback).ioOn isPlayback = false ∧
      (∀ other, other ≠ isPlayback → (m.stopIo alsa isPlayback).ioOn other = m.ioOn other) ∧
      (m.stopIo alsa isPlayback).isStarted = m.isStarted ∧
      (m.stopIo alsa isPlayback).ioConfig = m.ioConfig := by
  unfold stopIo
  cases isPlayback with
  | true =>
    cases playing : m.isPlaybackIO with
    | true => exact ⟨rfl, fun other apart => by cases other <;> simp_all [ioOn], rfl, rfl⟩
    | false => exact ⟨playing, fun other _ => rfl, rfl, rfl⟩
  | false =>
    cases recording : m.isRecordingIO with
    | true => exact ⟨rfl, fun other apart => by cases other <;> simp_all [ioOn, muteInputBuffer], rfl, rfl⟩
    | false => exact ⟨recording, fun other _ => rfl, rfl, rfl⟩

theorem stop_idle (live : m.IOLive) (alsa : AlsaBuffers) :
    isPlaybackIO (m.stop alsa) = false ∧ isRecordingIO (m.stop alsa) = false ∧
      (m.stop alsa).ioRunning = false := by
  have stopped : isPlaybackIO (m.stopRunningIO alsa) = false ∧ isRecordingIO (m.stopRunningIO alsa) = false ∧
      (m.stopRunningIO alsa).ioRunning = false := by
    have isRunning := live.ioRunning
    unfold stopRunningIO stopIo
    cases playing : m.isPlaybackIO <;> cases recording : m.isRecordingIO <;>
      simp_all [muteInputBuffer]
  exact stopped

theorem start_steady (live : m.IOLive) (done : m.start = .ok m') : Steady m m' := by
  obtain ⟨m1, started, rfl⟩ := start_started done
  rw [started.only]
  refine ⟨fun _ io => io, fun _ _ => rfl, live.ioRunning, fun _ _ => rfl⟩

theorem start_idle (idle : m.isPlaybackIO = false ∧ m.isRecordingIO = false ∧ m.ioRunning = false)
    (done : m.start = .ok m') :
    m'.isPlaybackIO = false ∧ m'.isRecordingIO = false ∧ m'.ioRunning = false := by
  obtain ⟨m1, started, rfl⟩ := start_started done
  rw [started.only]
  exact idle

theorem Change.apply_flags (c : Change) (m : Manager) :
    isPlaybackIO (c.apply m) = m.isPlaybackIO ∧ isRecordingIO (c.apply m) = m.isRecordingIO ∧
      (c.apply m).ioRunning = m.ioRunning := by
  cases c with
  | ticFrameSizeAt1FS | maxTICFrameSize | numberOfInputs | numberOfOutputs => exact ⟨rfl, rfl, rfl⟩

theorem IOLive.flags_of_not_running (live : m.IOLive) (idle : m.ioRunning = false) :
    m.isPlaybackIO = false ∧ m.isRecordingIO = false := by
  have isRunning := live.ioRunning
  rw [idle] at isRunning
  simpa using isRunning.symm

theorem IOLive.idle_of_stopped (live : m.IOLive) (stopped : m.isStarted = false) :
    m.isPlaybackIO = false ∧ m.isRecordingIO = false ∧ m.ioRunning = false := by
  have flag (isPlayback : Bool) : m.ioOn isPlayback = false := by
    by_contra running
    have := live.started isPlayback (Bool.eq_true_of_not_eq_false running)
    simp [stopped] at this
  have playback : m.isPlaybackIO = false := flag true
  have recording : m.isRecordingIO = false := flag false
  exact ⟨playback, recording, by rw [live.ioRunning, playback, recording]; rfl⟩

theorem restarting_steady {c : Change} (live : m.IOLive) (done : m.restarting alsa c.apply = .ok m') :
    Steady m m' := by
  unfold restarting at done
  have changed (before : Manager)
      (idle : before.isPlaybackIO = false ∧ before.isRecordingIO = false ∧ before.ioRunning = false) :
      isPlaybackIO (c.apply before) = false ∧ isRecordingIO (c.apply before) = false ∧
        (c.apply before).ioRunning = false := by
    obtain ⟨playback, recording, running⟩ := Change.apply_flags c before
    rw [playback, recording, running]
    exact idle
  split at done
  · obtain ⟨playback, recording, running⟩ := start_idle (changed _ (stop_idle live alsa)) done
    exact .of_idle playback recording running
  · rename_i stopped
    cases done
    obtain ⟨playback, recording, running⟩ := changed m (live.idle_of_stopped (Bool.eq_false_of_not_eq_true stopped))
    exact .of_idle playback recording running

theorem setSamplingRate_steady {samplingRate : UInt32} {result : Bool} (live : m.IOLive)
    (done : m.setSamplingRate samplingRate polled = .ok (m', result)) : Steady m m' := by
  rcases setSamplingRate_cases done with ⟨rfl, -⟩ | ⟨-, idle, ⟨-, started, -⟩ | ⟨-, rfl, -⟩⟩
  · exact .refl live
  · obtain ⟨playback, recording⟩ := live.flags_of_not_running idle
    rw [started.only]
    exact .of_idle playback recording idle
  · obtain ⟨playback, recording⟩ := live.flags_of_not_running idle
    exact .of_idle playback recording idle

theorem onNewMessage_steady (live : m.IOLive) (done : m.onNewMessage msg alsa polled = .ok (m', reply)) :
    Steady m m' := by
  have performs := onNewMessage_performs done
  rcases request : msg.request with _ | asked
  · rw [request] at performs
    exact Quiet.steady performs live
  · rw [request] at performs
    cases asked with
    | start => exact start_steady live performs
    | stop =>
      rw [show m' = m.stop alsa from performs]
      obtain ⟨playback, recording, running⟩ := stop_idle live alsa
      exact .of_idle playback recording running
    | rate samplingRate =>
      obtain ⟨result, done⟩ := performs
      exact setSamplingRate_steady live done
    | change c => exact restarting_steady live performs

theorem startIo_flags (m : Manager) (alsa : AlsaBuffers) (isPlayback : Bool) :
    ((m.startIo alsa isPlayback).1.ioOn isPlayback = true → m.ioOn isPlayback = true ∨ m.isStarted = true) ∧
      (m.startIo alsa isPlayback).1.ioOn (!isPlayback) = m.ioOn (!isPlayback) ∧
      (m.startIo alsa isPlayback).1.ioConfig = m.ioConfig := by
  unfold startIo
  split
  · exact ⟨.inl, rfl, rfl⟩
  · rename_i started
    have isStarted : m.isStarted = true := by simpa using started
    split
    · rename_i playing
      rw [playing]
      exact ⟨fun _ => .inr isStarted, rfl, rfl⟩
    · rename_i recording
      rw [Bool.eq_false_of_not_eq_true recording]
      exact ⟨fun _ => .inr isStarted, rfl, rfl⟩

theorem startIo_live (live : m.IOLive) (alsa : AlsaBuffers) (isPlayback : Bool) :
    (m.startIo alsa isPlayback).1.IOLive := by
  unfold startIo
  split
  · exact live
  · rename_i started
    have isStarted : m.isStarted = true := by simpa using started
    split
    · exact ⟨rfl, fun _ _ => isStarted⟩
    · exact ⟨(Bool.or_true _).symm, fun _ _ => isStarted⟩

theorem stopIo_live (live : m.IOLive) (alsa : AlsaBuffers) (isPlayback : Bool) :
    (m.stopIo alsa isPlayback).IOLive := by
  obtain ⟨here, elsewhere, isStarted, -⟩ := stopIo_flags m alsa isPlayback
  constructor
  case started =>
    intro other io
    rw [isStarted]
    by_cases same : other = isPlayback
    · rw [same, here] at io
      cases io
    · rw [elsewhere other same] at io
      exact live.started other io
  case ioRunning =>
    unfold stopIo
    split
    · split
      · rfl
      · exact live.ioRunning
    · split
      · exact (Bool.or_false _).symm
      · exact live.ioRunning

end Manager

namespace AudioChip

variable {sub : PCMSubstream} {chip chip' chip'' : AudioChip} {isPlayback : Bool} {F : UInt32}

def PreparedFor (sub : PCMSubstream) (isPlayback : Bool) (chip : AudioChip) : Prop :=
  match isPlayback with
  | true => Playing sub chip
  | false => Capturing sub chip

structure SameSide (isPlayback : Bool) (chip chip' : AudioChip) : Prop where
  stream : chip'.stream isPlayback = chip.stream isPlayback
  deinterleave : isPlayback = true → chip'.playbackDeinterleaveFn = chip.playbackDeinterleaveFn
  interleave : isPlayback = false → chip'.captureInterleaveFn = chip.captureInterleaveFn

theorem SameSide.refl (isPlayback : Bool) (chip : AudioChip) : SameSide isPlayback chip chip :=
  ⟨rfl, fun _ => rfl, fun _ => rfl⟩

theorem SameSide.trans (first : SameSide isPlayback chip chip') (then_ : SameSide isPlayback chip' chip'') :
    SameSide isPlayback chip chip'' where
  stream := then_.stream.trans first.stream
  deinterleave playing := (then_.deinterleave playing).trans (first.deinterleave playing)
  interleave capturing := (then_.interleave capturing).trans (first.interleave capturing)

theorem SameSide.preparedFor (same : SameSide isPlayback chip chip') (prepared : PreparedFor sub isPlayback chip) :
    PreparedFor sub isPlayback chip' := by
  cases isPlayback with
  | true =>
    obtain ⟨substream, stride, interrupts, size, deinterleave⟩ := prepared
    have stream : chip'.playback = chip.playback := same.stream
    have fn := same.deinterleave rfl
    constructor
    all_goals first | rw [stream] | rw [fn]
    all_goals assumption
  | false =>
    obtain ⟨substream, stride, size, interleave⟩ := prepared
    have stream : chip'.capture = chip.capture := same.stream
    have fn := same.interleave rfl
    constructor
    all_goals first | rw [stream] | rw [fn]
    all_goals assumption

theorem setStream_other (chip : AudioChip) (isPlayback : Bool) (p : PCMStream) :
    SameSide (!isPlayback) chip (chip.setStream isPlayback p) := by
  cases isPlayback with
  | true => exact ⟨rfl, fun _ => rfl, fun _ => rfl⟩
  | false => exact ⟨rfl, fun _ => rfl, fun _ => rfl⟩

theorem hwParamsStream_other (chip : AudioChip) (sub : PCMSubstream) (isPlayback : Bool) :
    SameSide (!isPlayback) chip (chip.hwParamsStream sub isPlayback) := by
  cases isPlayback with
  | true => exact ⟨rfl, fun _ => rfl, fun _ => rfl⟩
  | false => exact ⟨rfl, fun _ => rfl, fun _ => rfl⟩

theorem prepareStream_other {m : Manager} (done : chip.prepareStream m sub isPlayback = .ok chip') :
    SameSide (!isPlayback) chip chip' := by
  cases isPlayback with
  | true =>
    cases done
    exact ⟨rfl, (nomatch ·), fun _ => rfl⟩
  | false =>
    obtain ⟨offset, -, last⟩ := bind_eq_ok.mp done
    cases last
    exact ⟨rfl, fun _ => rfl, (nomatch ·)⟩

structure Reached (sub : PCMSubstream) (moved : Nat) (p : PCMStream) : Prop where
  interrupts : p.nbInterruptsPerPeriod = sub.nbInterrupts
  dmaOffset : p.dmaOffset.toNat = moved % sub.bufferSize * sub.frameBytes
  bufferPos : p.bufferPos.toNat < 2 ^ 25

theorem prepareStream_prepared {m : Manager} (sized : sub.Sized)
    (substream : (chip.stream isPlayback).substream = some sub)
    (done : chip.prepareStream m sub isPlayback = .ok chip') :
    PreparedFor sub isPlayback chip' ∧ Reached sub 0 (chip'.stream isPlayback) ∧
      (chip'.stream isPlayback).substream = some sub := by
  cases isPlayback with
  | true =>
    cases done
    refine ⟨⟨rfl, rfl, rfl, rfl, rfl⟩, ⟨rfl, ?_, ?_⟩, rfl⟩
    · simp [stream, preparedStream]
    · simp [stream, preparedStream]
  | false =>
    obtain ⟨offset, isOffset, last⟩ := bind_eq_ok.mp done
    cases last
    obtain ⟨same, again, at_⟩ := liveInOffset_eq sized substream m (m.callbacks chip.alsaBuffers).globalSAC
    cases isOffset.symm.trans again
    obtain ⟨positive, small⟩ := ringBufferFrames_bounds sized chip.currentDSD
    have below := Nat.mod_lt (m.callbacks chip.alsaBuffers).globalSAC.toNat positive
    refine ⟨⟨rfl, rfl, rfl, rfl⟩, ⟨rfl, ?_, ?_⟩, rfl⟩
    · simp [stream, preparedStream]
    · change offset.toNat < _
      omega

/-- The ring is no shorter than a frame, whatever mode the chip has read. -/
theorem frame_in_ring {m : Manager} {moved : Nat} (fits : Driver.FrameFits m sub moved) (sized : sub.Sized)
    (dsd : UInt32) :
    m.frameSize.toNat ≤ (ringBufferFrames dsd sub).toNat := by
  by_cases pcm : dsd = 0
  · rw [pcm, (toNat_ringFrames sized).1]
    exact fits.inRing.1
  · simp only [ringBufferFrames, if_pos pcm]
    exact fits.inRing.2

theorem frame_in_area {m : Manager} {moved : Nat} (fits : Driver.FrameFits m sub moved) (sized : sub.Sized) :
    moved % sub.bufferSize + m.frameSize.toNat ≤ sub.bufferSize := by
  have inside := RingCursor.fits_of_dvd sized.bufferSize.1 fits.whole fits.position 0
  simpa [RingCursor.after] using inside

theorem Reached.advance {m : Manager} {moved : Nat} {p : PCMStream} (reached : Reached sub moved p)
    (fits : Driver.FrameFits m sub moved) (sized : sub.Sized) (dsd : UInt32)
    (stride : p.currentAlsaStride = UInt32.ofNat sub.format.stride)
    (size : p.pcmBufferSize = UInt32.ofNat sub.bufferBytes) :
    Reached sub (moved + m.frameSize.toNat)
      (advance p m.frameSize (ringBufferFrames dsd sub) (sub.channels * p.currentAlsaStride)) where
  interrupts := reached.interrupts
  dmaOffset := by
    have positive := sized.bufferSize.1
    have short : m.frameSize.toNat ≤ sub.bufferSize := Nat.le_of_dvd positive fits.whole
    rw [← Nat.mod_add_mod, ← RingCursor.advance_eq_mod (Nat.mod_lt moved positive) short]
    apply advance_dmaOffset
    · rw [size, sized.toNat_bufferBytes]
      rfl
    · rw [stride, sized.toNat_frameBytes]
    · exact reached.dmaOffset
    · exact Nat.mod_lt moved positive
    · exact short
    · exact sized.frameBytes.1
    · exact sized.bufferBytes
  bufferPos := by
    have here := reached.bufferPos
    have short := frame_in_ring fits sized dsd
    have small := (ringBufferFrames_bounds sized dsd).2
    have next : (p.bufferPos + m.frameSize).toNat = p.bufferPos.toNat + m.frameSize.toNat := by
      rw [UInt32.toNat_add]
      exact Nat.mod_eq_of_lt (by omega)
    unfold AudioChip.advance
    dsimp only
    split
    · rename_i past
      rw [UInt32.toNat_sub_of_le _ _ past, next]
      omega
    · rename_i before
      rw [ge_iff_le, UInt32.le_iff_toNat_le, next] at before
      omega

/-- An interrupt of a running direction succeeds, and moves it on by a frame. -/
theorem playback_interrupt {m : Manager} {moved : Nat} (playing : Playing sub chip)
    (reached : Reached sub moved chip.playback) (fits : Driver.FrameFits m sub moved) (sized : sub.Sized)
    (dma : Nat → UInt8) :
    Succeeds (chip.pcmInterruptPlayback m.frameSize dma) ∧
      ∀ next, chip.pcmInterruptPlayback m.frameSize dma = .ok next →
        Playing sub next ∧ Reached sub (moved + m.frameSize.toNat) next.playback := by
  obtain ⟨succeeds, copies⟩ := playbackCopy_reads playing sized m.frameSize dma reached.dmaOffset
  have inside := (frameReadsAt_inside_iff fits.format sized fits.moves).mpr (frame_in_area fits sized)
  unfold pcmInterruptPlayback
  simp only [playing.substream]
  constructor
  · obtain ⟨copied, ran⟩ := succeeds inside
    exact succeeds_bind.mpr ⟨copied, ran, succeeds_ok _⟩
  · intro next done
    obtain ⟨copied, ran, same⟩ := bind_eq_ok.mp done
    obtain ⟨-, ring, sac, rfl⟩ := copies copied ran
    cases same
    refine ⟨⟨playing.substream, playing.stride, playing.interrupts, playing.size, playing.deinterleave⟩, ?_⟩
    exact reached.advance fits sized chip.currentDSD playing.stride playing.size

theorem capture_interrupt {m : Manager} {moved : Nat} (capturing : Capturing sub chip)
    (reached : Reached sub moved chip.capture) (fits : Driver.FrameFits m sub moved) (sized : sub.Sized)
    (rings : RingMemory) :
    Succeeds (chip.pcmInterruptCapture m.frameSize rings) ∧
      ∀ next, chip.pcmInterruptCapture m.frameSize rings = .ok next →
        Capturing sub next ∧ Reached sub (moved + m.frameSize.toNat) next.capture := by
  obtain ⟨fn, selected, width⟩ := selectInterleave_some fits.format
  have here := reached.bufferPos
  have short := frame_in_ring fits sized chip.currentDSD
  have small := (ringBufferFrames_bounds sized chip.currentDSD).2
  have length := length_capturedBytes width rings
    (show chip.capture.bufferPos.toNat + m.frameSize.toNat < 2 ^ 32 by omega)
  have room : chip.capture.dmaOffset.toNat +
      (capturedBytes fn rings sub.channels.toNat chip.capture.bufferPos m.frameSize).length ≤ sub.bufferBytes := by
    rw [length, reached.dmaOffset, ← Nat.add_mul]
    exact Nat.mul_le_mul_right _ (frame_in_area fits sized)
  unfold pcmInterruptCapture
  simp only [capturing.substream, captureCopy_eq capturing sized selected]
  unfold emit
  rw [if_pos (.inr room)]
  refine ⟨succeeds_ok _, ?_⟩
  intro next done
  cases done
  refine ⟨⟨capturing.substream, capturing.stride, capturing.size, capturing.interleave⟩, ?_⟩
  exact reached.advance fits sized chip.currentDSD capturing.stride capturing.size

theorem pcmInterruptPlayback_other {dma : Nat → UInt8} (done : chip.pcmInterruptPlayback F dma = .ok chip') :
    SameSide false chip chip' := by
  obtain ⟨capture, interleave, -⟩ := pcmInterruptPlayback_sameCapture done
  exact ⟨capture, (nomatch ·), fun _ => interleave⟩

theorem pcmInterruptCapture_other {rings : RingMemory} (done : chip.pcmInterruptCapture F rings = .ok chip') :
    SameSide true chip chip' := by
  unfold pcmInterruptCapture at done
  split at done
  · cases done
    exact .refl ..
  · obtain ⟨_, -, same⟩ := bind_eq_ok.mp done
    cases same
    exact ⟨rfl, fun _ => rfl, fun _ => rfl⟩

end AudioChip

namespace Manager
open AudioChip

theorem startInterrupts_same (m : Manager) (chip : AudioChip) (isPlayback direction : Bool) :
    SameSide direction chip (m.startInterrupts chip isPlayback).2 := by
  unfold startInterrupts
  dsimp only
  split
  · exact ⟨by cases direction <;> rfl, fun _ => rfl, fun _ => rfl⟩
  · exact .refl ..

theorem stopInterrupts_same (m : Manager) (chip : AudioChip) (isPlayback direction : Bool) :
    SameSide direction chip (m.stopInterrupts chip isPlayback).2 := by
  unfold stopInterrupts
  dsimp only
  split
  · exact ⟨by cases direction <;> rfl, fun _ => rfl, fun _ => rfl⟩
  · exact .refl ..

variable {m m' : Manager} {chip chip' : AudioChip} {tick : Tick} {dma : Nat → UInt8}
  {log : RTPStreamsManager.SendLog} {sub : PCMSubstream} {direction : Bool}

theorem audioFrameTICWithChip_quiet (done : m.audioFrameTICWithChip chip tick dma = .ok (m', chip', log)) :
    Quiet m m' := by
  obtain ⟨streams, prepared, rest⟩ := bind_eq_ok.mp done
  have kept : m.streams.Consistent → streams.Consistent := fun c =>
    (RTPStreamsManager.prepareBufferLivesAll_same c prepared).consistent c
  split at rest
  · obtain ⟨sent, sends, rest⟩ := bind_eq_ok.mp rest
    obtain ⟨captured, -, rest⟩ := bind_eq_ok.mp rest
    obtain ⟨played, -, last⟩ := bind_eq_ok.mp rest
    cases last
    apply quiet_setStreams
    intro c
    exact (RTPStreamsManager.sendOutgoingPackets_same (kept c) sends).consistent (kept c)
  · cases rest
    exact quiet_setStreams kept

theorem audioFrameTICWithChip_interrupts
    (done : m.audioFrameTICWithChip chip tick dma = .ok (m', chip', log)) :
    m.sendsOutgoing = false ∧ chip' = chip ∨
      m.sendsOutgoing = true ∧ ∃ livesIn captured, m.interruptCapture chip livesIn = .ok captured ∧
        m.interruptPlayback captured dma = .ok chip' := by
  obtain ⟨streams, -, rest⟩ := bind_eq_ok.mp done
  split at rest
  · rename_i sends
    obtain ⟨sent, -, rest⟩ := bind_eq_ok.mp rest
    obtain ⟨captured, captures, rest⟩ := bind_eq_ok.mp rest
    obtain ⟨played, plays, last⟩ := bind_eq_ok.mp rest
    cases last
    exact .inr ⟨sends, streams.livesIn, captured, captures, plays⟩
  · rename_i silent
    cases rest
    exact .inl ⟨Bool.eq_false_of_not_eq_true silent, rfl⟩

theorem interruptCapture_other {livesIn : RingMemory} (done : m.interruptCapture chip livesIn = .ok chip') :
    SameSide true chip chip' := by
  unfold interruptCapture at done
  split at done
  · exact pcmInterruptCapture_other done
  · cases done
    exact .refl ..

theorem interruptPlayback_other (done : m.interruptPlayback chip dma = .ok chip') : SameSide false chip chip' := by
  unfold interruptPlayback at done
  split at done
  · exact pcmInterruptPlayback_other done
  · cases done
    exact .refl ..

theorem audioFrameTICWithChip_idle (idle : m.ioOn direction = false)
    (done : m.audioFrameTICWithChip chip tick dma = .ok (m', chip', log)) : SameSide direction chip chip' := by
  rcases audioFrameTICWithChip_interrupts done with ⟨-, rfl⟩ | ⟨-, livesIn, captured, captures, plays⟩
  · exact .refl ..
  · cases direction with
    | true =>
      have idle : m.isPlaybackIO = false := idle
      simp only [interruptPlayback, idle, Bool.false_eq_true, if_false] at plays
      cases plays
      exact interruptCapture_other captures
    | false =>
      have idle : m.isRecordingIO = false := idle
      simp only [interruptCapture, idle, Bool.false_eq_true, if_false] at captures
      cases captures
      exact interruptPlayback_other plays

theorem audioFrameTICWithChip_going {moved : Nat} (io : m.ioOn direction = true)
    (prepared : PreparedFor sub direction chip) (reached : Reached sub moved (chip.stream direction))
    (fits : Driver.FrameFits m sub moved) (sized : sub.Sized)
    (done : m.audioFrameTICWithChip chip tick dma = .ok (m', chip', log)) :
    PreparedFor sub direction chip' ∧
      Reached sub (moved + Driver.movedBy m direction) (chip'.stream direction) := by
  unfold Driver.movedBy
  rcases audioFrameTICWithChip_interrupts done with ⟨silent, rfl⟩ | ⟨sends, livesIn, captured, captures, plays⟩
  · simp [silent, prepared, reached]
  · simp only [sends, io, Bool.and_self, if_true]
    cases direction with
    | true =>
      have playing : m.isPlaybackIO = true := io
      have same := interruptCapture_other captures
      simp only [interruptPlayback, playing, if_true] at plays
      have before : Reached sub moved captured.playback := by
        have stream : captured.playback = chip.playback := same.stream
        rw [stream]
        exact reached
      exact (playback_interrupt (same.preparedFor prepared) before fits sized dma).2 chip' plays
    | false =>
      have recording : m.isRecordingIO = true := io
      have same := interruptPlayback_other plays
      simp only [interruptCapture, recording, if_true] at captures
      obtain ⟨capturing, after⟩ := (capture_interrupt prepared reached fits sized livesIn).2 captured captures
      refine ⟨same.preparedFor capturing, ?_⟩
      rw [same.stream]
      exact after

end Manager

end RavennaLkm
