import RavennaLkm.DriverRuns
import RavennaLkm.FaultFree
import RavennaLkm.Lib.Simulation

/-!
The driver never faults. Each of its steps is a few calls of the manager, so that it has
what the manager keeps in its runs; the playback position that the manager is shown lies
in its ring as long as the rates are of PCM.
-/
namespace RavennaLkm
open CheckedLoop GuardedRun

def AudioChip.tickOf (self : AudioChip) (now : Manager.Tick) : Manager.Tick :=
  { now with alsa := self.alsaBuffers, livesOut := self.playbackBuffer }

def PCMTrigger.managerCalls (alsa : AlsaBuffers) (isPlayback : Bool) : PCMTrigger → List ManagerOp
  | .start | .pauseRelease | .resume => [.startIo alsa isPlayback]
  | .stop | .pausePush | .suspend => [.stopIo alsa isPlayback]
  | .other => []

/-- The chip is told of what the manager does in a TIC, and takes no part in it. -/
theorem Manager.audioFrameTICWithChip_framed {m m' : Manager} {chip chip' : AudioChip} {now : Tick}
    {dma : Nat → UInt8} {log : RTPStreamsManager.SendLog}
    (done : m.audioFrameTICWithChip chip now dma = .ok (m', chip', log)) :
    m.audioFrameTIC (chip.tickOf now) = .ok m' := by
  obtain ⟨streams, prepared, rest⟩ := bind_eq_ok.mp done
  have lives : m.streams.prepareBufferLivesAll (m.callbacks (chip.tickOf now).alsa) = .ok streams := prepared
  unfold audioFrameTIC
  simp only [lives, ok_bind]
  split at rest
  · rename_i sends
    obtain ⟨sent, sending, rest⟩ := bind_eq_ok.mp rest
    obtain ⟨captured, -, rest⟩ := bind_eq_ok.mp rest
    obtain ⟨played, -, last⟩ := bind_eq_ok.mp rest
    cases last
    have sends' : streams.sendOutgoingPackets (m.callbacks (chip.tickOf now).alsa) (chip.tickOf now).skb
        (chip.tickOf now).livesOut = .ok sent := sending
    rw [if_pos sends, sends']
    rfl
  · rename_i silent
    cases rest
    rw [if_neg silent]

namespace Driver

variable {d d' : Driver} {isPlayback : Bool} {sub : PCMSubstream}

def rateCalls (d : Driver) (sub : PCMSubstream) (isPlayback : Bool) : List ManagerOp :=
  if d.chip.asksForRate sub then [.stopIo d.chip.alsaBuffers isPlayback] else []

def managerCalls (d : Driver) : DriverOp → List ManagerOp
  | .message msg polled => [.message msg d.chip.alsaBuffers polled]
  | .packet bytes ifname macHeader clockTime counterTime =>
    [.packet d.chip.alsaBuffers bytes ifname macHeader clockTime counterTime]
  | .tick now _ => [.tick (d.chip.tickOf now)]
  | .pcmHwParams isPlayback sub => d.rateCalls sub isPlayback
  | .pcmPrepare isPlayback =>
    match (d.side isPlayback).state with
    | .setup sub | .prepared sub => { d with chip := d.chip.readRate d.manager }.rateCalls sub isPlayback
    | _ => []
  | .pcmTrigger isPlayback cmd _ => cmd.managerCalls d.chip.alsaBuffers isPlayback
  | .pcmOpen _ | .pcmHwParamsDone .. | .pcmHwFree _ | .pcmPrepareDone .. | .drop .. | .pcmClose _ => []

def isAlsa : DriverOp → Bool
  | .message .. | .packet .. | .tick .. => false
  | _ => true

theorem alsaCalls_io {op : DriverOp} (alsa : isAlsa op = true) : ∀ call ∈ d.managerCalls op,
    ∃ alsa isPlayback, call = .startIo alsa isPlayback ∨ call = .stopIo alsa isPlayback := by
  have stops {before : Driver} {sub : PCMSubstream} {isPlayback : Bool} : ∀ call ∈ before.rateCalls sub isPlayback,
      ∃ alsa isPlayback, call = ManagerOp.startIo alsa isPlayback ∨ call = .stopIo alsa isPlayback := by
    intro call made
    unfold rateCalls at made
    split at made
    · exact ⟨_, _, .inr (List.mem_singleton.mp made)⟩
    · cases made
  intro call made
  cases op with
  | message | packet | tick => cases alsa
  | pcmHwParams isPlayback sub => exact stops call made
  | pcmPrepare isPlayback =>
    unfold managerCalls at made
    dsimp only at made
    split at made
    · exact stops call made
    · exact stops call made
    · cases made
  | pcmTrigger isPlayback cmd state =>
    cases cmd with
    | start | pauseRelease | resume => exact ⟨_, _, .inl (List.mem_singleton.mp made)⟩
    | stop | pausePush | suspend => exact ⟨_, _, .inr (List.mem_singleton.mp made)⟩
    | other => cases made
  | pcmOpen | pcmHwParamsDone | pcmHwFree | pcmPrepareDone | drop | pcmClose => cases made

variable {guard : Manager → ManagerOp → Prop}

theorem stopForRate_calls (ok : ∀ call ∈ d.rateCalls sub isPlayback, guard d.manager call) :
    Run ManagerOp.step guard d.manager (d.rateCalls sub isPlayback) (d.stopForRate sub isPlayback).manager := by
  unfold stopForRate
  unfold rateCalls at ok ⊢
  split
  · rename_i asks
    exact .one (ok _ (by simp [asks])) rfl
  · exact .nil _

theorem beginPrepare_calls {wasPrepared : Bool}
    (ok : ∀ call ∈ { d with chip := d.chip.readRate d.manager }.rateCalls sub isPlayback, guard d.manager call) :
    Run ManagerOp.step guard d.manager ({ d with chip := d.chip.readRate d.manager }.rateCalls sub isPlayback)
      (d.beginPrepare isPlayback sub wasPrepared).manager := by
  unfold beginPrepare setState
  rw [manager_setSide]
  exact stopForRate_calls ok

theorem pcmHwParamsDone_manager (d : Driver) (isPlayback : Bool) (err : Int32) :
    (d.pcmHwParamsDone isPlayback err).manager = d.manager := by
  unfold pcmHwParamsDone
  split
  · dsimp only
    split
    · rw [manager_setSide]
    · unfold setState
      rw [manager_setSide]
      exact (allocBuffer_manager _ isPlayback _).1
  · rfl

theorem pcmPrepareDone_manager {err : Int32} (done : d.pcmPrepareDone isPlayback err = .ok d') :
    d'.manager = d.manager := by
  unfold pcmPrepareDone at done
  split at done
  · obtain ⟨prepared, -, last⟩ := bind_eq_ok.mp done
    split at last
    · cases last
      exact manager_setSide ..
    · cases last
      rw [manager_setSide]
  · cases done
    rfl

theorem tick_calls {now : Manager.Tick} {dma : Nat → UInt8} (ok : guard d.manager (.tick (d.chip.tickOf now)))
    (done : d.tick now dma = .ok d') :
    Run ManagerOp.step guard d.manager [.tick (d.chip.tickOf now)] d'.manager := by
  apply Run.one ok
  simp only [ManagerOp.step]
  unfold tick at done
  split at done
  · rename_i started
    obtain ⟨clocks, ran, rest⟩ := bind_eq_ok.mp done
    obtain ⟨⟨m, chip, log⟩, framed, last⟩ := bind_eq_ok.mp rest
    cases last
    have same : clocks.1.audioFrameTIC (d.chip.tickOf now) = .ok m := Manager.audioFrameTICWithChip_framed framed
    have processed : d.manager.processClocks (d.chip.tickOf now) = .ok clocks := ran
    rw [if_pos started, Manager.tClockTimer_eq, processed, ok_bind, same]
    rfl
  · rename_i stopped
    cases done
    rw [if_neg stopped]

theorem triggered_calls {cmd : PCMTrigger} {state : PCMState}
    (ok : ∀ call ∈ cmd.managerCalls d.chip.alsaBuffers isPlayback, guard d.manager call) :
    Run ManagerOp.step guard d.manager (cmd.managerCalls d.chip.alsaBuffers isPlayback)
      (d.triggered isPlayback cmd state).manager := by
  unfold triggered
  rw [manager_setSide]
  cases cmd with
  | start | pauseRelease | resume => exact .one (ok _ (List.mem_singleton_self _)) rfl
  | stop | pausePush | suspend => exact .one (ok _ (List.mem_singleton_self _)) rfl
  | other => exact .nil _

theorem step_calls {op : DriverOp} (done : d.step op = .ok d')
    (ok : ∀ call ∈ d.managerCalls op, guard d.manager call) :
    Run ManagerOp.step guard d.manager (d.managerCalls op) d'.manager := by
  cases op with
  | message msg polled =>
    obtain ⟨handled, answered, last⟩ := bind_eq_ok.mp done
    cases last
    exact .one (ok _ (List.mem_singleton_self _)) (map_eq_ok.mpr ⟨_, answered, rfl⟩)
  | packet bytes ifname macHeader clockTime counterTime =>
    obtain ⟨m, received, last⟩ := map_eq_ok.mp done
    cases last
    exact .one (ok _ (List.mem_singleton_self _)) received
  | tick now dma => exact tick_calls (ok _ (List.mem_singleton_self _)) (lift_eq_ok.mp done)
  | pcmHwParams isPlayback sub =>
    cases done
    unfold pcmHwParams setState
    rw [manager_setSide]
    exact stopForRate_calls ok
  | pcmPrepare isPlayback =>
    cases done
    unfold pcmPrepare
    unfold managerCalls at ok ⊢
    dsimp only at ok ⊢
    cases at_ : (d.side isPlayback).state with
    | setup sub | prepared sub =>
      simp only [at_] at ok ⊢
      exact beginPrepare_calls ok
    | closed | opened | configuring | preparing | running | paused => exact .nil _
  | pcmTrigger isPlayback cmd state =>
    cases done
    exact triggered_calls ok
  | pcmOpen isPlayback =>
    obtain ⟨constraints, -, last⟩ := bind_eq_ok.mp (lift_eq_ok.mp done)
    cases last
    rw [manager_setSide]
    exact .nil _
  | pcmHwParamsDone isPlayback err =>
    cases done
    rw [pcmHwParamsDone_manager]
    exact .nil _
  | pcmPrepareDone isPlayback err =>
    rw [pcmPrepareDone_manager (lift_eq_ok.mp done)]
    exact .nil _
  | pcmHwFree isPlayback | drop isPlayback sub | pcmClose isPlayback =>
    cases done
    cases isPlayback with
    | true | false => exact .nil _

end Driver

namespace AudioChip

variable {chip chip' : AudioChip} {sub : PCMSubstream} {isPlayback : Bool}

structure RingFits (sub : PCMSubstream) : Prop where
  sized : sub.Sized
  short : sub.ringFrames ≤ ringBufferSize.toNat

structure InRing (chip : AudioChip) : Prop where
  pcm : chip.currentDSD = 0
  fits : ∀ sub, chip.playback.substream = some sub → RingFits sub
  inside : chip.alsaBuffers.playbackBufferPos < chip.alsaBuffers.getPlaybackBufferSizeInFrames

theorem playbackLength_pcm (pcm : chip.currentDSD = 0) (sized : sub.Sized)
    (substream : chip.playback.substream = some sub) :
    chip.alsaBuffers.getPlaybackBufferSizeInFrames.toNat = sub.ringFrames := by
  rw [playbackLength sized substream, pcm, (toNat_ringFrames sized).1]

theorem InRing.of_none (pcm : chip.currentDSD = 0) (closed : chip.playback.substream = none)
    (position : chip.playback.bufferPos < ringBufferSize) : InRing chip where
  pcm := pcm
  fits := by simp [closed]
  inside := by
    simp only [alsaBuffers, AlsaBuffers.getPlaybackBufferSizeInFrames, closed, Option.map_none, bufferSizeInFrames]
    exact position

theorem InRing.of_some (pcm : chip.currentDSD = 0) (substream : chip.playback.substream = some sub)
    (fits : RingFits sub) (position : chip.playback.bufferPos.toNat < sub.ringFrames) : InRing chip where
  pcm := pcm
  fits other isOther := by
    cases substream.symm.trans isOther
    exact fits
  inside := by
    rw [UInt32.lt_iff_toNat_lt, playbackLength_pcm pcm fits.sized substream]
    exact position

theorem InRing.congr (inRing : InRing chip) (playback : chip'.playback = chip.playback)
    (mode : chip'.currentDSD = chip.currentDSD) : InRing chip' where
  pcm := mode.trans inRing.pcm
  fits := playback ▸ inRing.fits
  inside := by
    have inside := inRing.inside
    simp only [alsaBuffers, AlsaBuffers.getPlaybackBufferSizeInFrames, playback, mode] at inside ⊢
    exact inside

theorem InRing.below (inRing : InRing chip) (substream : chip.playback.substream = some sub) :
    chip.playback.bufferPos.toNat < sub.ringFrames := by
  have inside := UInt32.lt_iff_toNat_lt.mp inRing.inside
  rwa [playbackLength_pcm inRing.pcm (inRing.fits sub substream).sized substream] at inside

theorem InRing.position (inRing : InRing chip) : chip.playback.bufferPos < ringBufferSize := by
  cases substream : chip.playback.substream with
  | none =>
    have inside := inRing.inside
    simp only [alsaBuffers, AlsaBuffers.getPlaybackBufferSizeInFrames, substream, Option.map_none,
      bufferSizeInFrames] at inside
    exact inside
  | some sub =>
    have inside := inRing.below substream
    exact UInt32.lt_iff_toNat_lt.mpr (Nat.lt_of_lt_of_le inside (inRing.fits sub substream).short)

theorem InRing.openStream {m : Manager} (inRing : InRing chip) (pcm : getDSDMode m.sampleRate = 0)
    (isPlayback : Bool) : InRing (chip.openStream m isPlayback) := by
  cases isPlayback with
  | true => exact .of_none pcm rfl inRing.position
  | false => exact inRing.congr rfl (pcm.trans inRing.pcm.symm)

theorem InRing.closeStream (inRing : InRing chip) (isPlayback : Bool) : InRing (chip.closeStream isPlayback) := by
  cases isPlayback with
  | true => exact .of_none inRing.pcm rfl inRing.position
  | false => exact inRing.congr rfl rfl

theorem InRing.hwParamsStream (inRing : InRing chip) (sub : PCMSubstream) (isPlayback : Bool) :
    InRing (chip.hwParamsStream sub isPlayback) := by
  cases isPlayback with
  | true =>
    constructor
    case pcm => exact inRing.pcm
    case fits => exact inRing.fits
    case inside =>
      have inside := inRing.inside
      refine UInt32.lt_of_le_of_lt ?_ inside
      exact UInt32.le_iff_toNat_le.mpr (Nat.zero_le _)
  | false => exact inRing.congr rfl rfl

theorem InRing.setRuntime (inRing : InRing chip) (fits : isPlayback = true → RingFits sub)
    (atStart : isPlayback = true → chip.playback.bufferPos = 0) : InRing (chip.setRuntime sub isPlayback) := by
  cases isPlayback with
  | true =>
    have pcm : (chip.setRuntime sub true).currentDSD = 0 := inRing.pcm
    have start : (chip.setRuntime sub true).playback.bufferPos = 0 := atStart rfl
    apply InRing.of_some pcm rfl (fits rfl)
    rw [start]
    exact (fits rfl).sized.ringFrames.1
  | false => exact inRing.congr rfl rfl

theorem InRing.prepareStream {m : Manager} (inRing : InRing chip) (fits : isPlayback = true → RingFits sub)
    (done : chip.prepareStream m sub isPlayback = .ok chip') : InRing chip' := by
  cases isPlayback with
  | true =>
    cases done
    exact .of_some inRing.pcm rfl (fits rfl) (fits rfl).sized.ringFrames.1
  | false =>
    obtain ⟨offset, -, last⟩ := bind_eq_ok.mp done
    cases last
    exact inRing.congr rfl rfl

theorem InRing.playbackInterrupt {m : Manager} {moved : Nat} {dma : Nat → UInt8} (inRing : InRing chip)
    (playing : Playing sub chip) (reached : Reached sub moved chip.playback) (fits : Driver.FrameFits m sub moved)
    (done : chip.pcmInterruptPlayback m.frameSize dma = .ok chip') : InRing chip' := by
  have ringFits := inRing.fits sub playing.substream
  have length := (toNat_ringFrames ringFits.sized).1
  obtain ⟨-, copies⟩ := playbackCopy_reads playing ringFits.sized m.frameSize dma reached.dmaOffset
  unfold pcmInterruptPlayback at done
  simp only [playing.substream] at done
  obtain ⟨copied, ran, last⟩ := bind_eq_ok.mp done
  obtain ⟨-, ring, sac, rfl⟩ := copies copied ran
  cases last
  have inside := inRing.below playing.substream
  refine InRing.of_some ?_ ?_ ringFits ?_
  · exact inRing.pcm
  · exact playing.substream
  · have short := fits.inRing.1
    dsimp only
    rw [inRing.pcm, advance_bufferPos]
    all_goals rw [length]
    · rw [RingCursor.advance_eq_mod inside short]
      exact Nat.mod_lt _ ringFits.sized.ringFrames.1
    · exact inside
    · exact short
    · exact (toNat_ringFrames ringFits.sized).2

theorem InRing.captureInterrupt {F : UInt32} {rings : RingMemory} (inRing : InRing chip)
    (done : chip.pcmInterruptCapture F rings = .ok chip') : InRing chip' := by
  unfold pcmInterruptCapture at done
  split at done
  · cases done
    exact inRing
  · obtain ⟨_, -, last⟩ := bind_eq_ok.mp done
    cases last
    exact inRing.congr rfl rfl

end AudioChip

namespace Driver
open AudioChip

variable {d d' : Driver} {isPlayback : Bool} {sub : PCMSubstream}

section
variable {m : Manager} {captured : AudioChip} {livesIn : RingMemory} {dma : Nat → UInt8}

theorem Kept.captures (kept : d.Kept false) (quiet : Manager.Quiet d.manager m) (livesIn : RingMemory) :
    Succeeds (m.interruptCapture d.chip livesIn) := by
  apply succeeds_when
  intro recording
  have io : d.manager.ioOn false = true := (quiet.ioOn false).symm.trans recording
  obtain ⟨sub, state, fits, -⟩ := kept.going io
  have backed := kept.backed
  rw [state] at backed
  obtain ⟨setUp, ready⟩ := backed
  rw [quiet.frameSize]
  exact (capture_interrupt ready.prepared ready.reached fits setUp.sized livesIn).1

theorem Kept.plays (kept : d.Kept true) (quiet : Manager.Quiet d.manager m) (same : SameSide true d.chip captured)
    (dma : Nat → UInt8) :
    Succeeds (m.interruptPlayback captured dma) ∧
      ∀ played, InRing captured → m.interruptPlayback captured dma = .ok played → InRing played := by
  unfold Manager.interruptPlayback
  cases playing : m.isPlaybackIO with
  | false =>
    constructor
    · exact succeeds_ok _
    · intro played inRing done
      cases done
      exact inRing
  | true =>
    have io : d.manager.ioOn true = true := (quiet.ioOn true).symm.trans playing
    obtain ⟨sub, state, fits, -⟩ := kept.going io
    have backed := kept.backed
    rw [state] at backed
    obtain ⟨setUp, ready⟩ := backed
    have prepared : Playing sub captured := same.preparedFor ready.prepared
    have reached : Reached sub d.playback.moved captured.playback := by
      have stream : captured.playback = d.chip.playback := same.stream
      rw [stream]
      exact ready.reached
    simp only [if_true, quiet.frameSize]
    constructor
    · exact (playback_interrupt prepared reached fits setUp.sized dma).1
    · intro played inRing done
      exact inRing.playbackInterrupt prepared reached fits done

end

theorem audioFrameTICWithChip_succeeds {m : Manager} {chip : AudioChip} {now : Manager.Tick} {dma : Nat → UInt8}
    (framed : Succeeds (m.audioFrameTIC (chip.tickOf now)))
    (captures : ∀ livesIn, Succeeds (m.interruptCapture chip livesIn))
    (plays : ∀ livesIn captured, m.interruptCapture chip livesIn = .ok captured →
      Succeeds (m.interruptPlayback captured dma)) : Succeeds (m.audioFrameTICWithChip chip now dma) := by
  obtain ⟨m', done⟩ := framed
  obtain ⟨streams, prepared, rest⟩ := bind_eq_ok.mp done
  have lives : m.streams.prepareBufferLivesAll (m.callbacks chip.alsaBuffers) = .ok streams := prepared
  unfold Manager.audioFrameTICWithChip
  simp only [lives, ok_bind]
  apply succeeds_when
  intro sends
  rw [if_pos sends] at rest
  obtain ⟨sent, sending, -⟩ := bind_eq_ok.mp rest
  have sends' : streams.sendOutgoingPackets (m.callbacks chip.alsaBuffers) now.skb chip.playbackBuffer = .ok sent :=
    sending
  rw [sends', ok_bind]
  apply Succeeds.bind (captures streams.livesIn)
  intro captured ran
  apply Succeeds.bind (plays _ captured ran)
  intro played _
  exact succeeds_ok _

theorem audioFrameTICWithChip_inRing {m m' : Manager} {chip' : AudioChip} {now : Manager.Tick} {dma : Nat → UInt8}
    {log : RTPStreamsManager.SendLog} (kept : ∀ direction, d.Kept direction) (inRing : InRing d.chip)
    (quiet : Manager.Quiet d.manager m) (done : m.audioFrameTICWithChip d.chip now dma = .ok (m', chip', log)) :
    InRing chip' := by
  rcases Manager.audioFrameTICWithChip_interrupts done with ⟨-, rfl⟩ | ⟨-, livesIn, captured, captures, plays⟩
  · exact inRing
  · have between : InRing captured := by
      unfold Manager.interruptCapture at captures
      split at captures
      · exact inRing.captureInterrupt captures
      · cases captures
        exact inRing
    exact ((kept true).plays quiet (Manager.interruptCapture_other captures) dma).2 chip' between plays

/-- ALSA, the daemon and the network. To what the manager asks of messages and frames and to the order of
ALSA's calls comes what the chip does not check: the rate it reads is of PCM, the largest PTP frame is not
empty, and the rings of a playback are no longer than the memory of a channel. -/
def WellBehaved (d : Driver) : DriverOp → Prop
  | .message msg _ => d.manager.MessageSound msg d.chip.alsaBuffers
  | .packet bytes ifname macHeader clockTime counterTime =>
    d.manager.FrameSound ⟨bytes, ifname, macHeader, d.chip.alsaBuffers, clockTime, counterTime⟩
  | .pcmOpen isPlayback => d.Allowed (.pcmOpen isPlayback) ∧ getDSDMode d.manager.sampleRate = 0 ∧
    d.manager.getMaxInterruptsFrameSize ≠ 0
  | .pcmHwParams isPlayback sub => d.Allowed (.pcmHwParams isPlayback sub) ∧
    (isPlayback = true → sub.ringFrames ≤ ringBufferSize.toNat)
  | .pcmPrepare isPlayback => d.Allowed (.pcmPrepare isPlayback) ∧ getDSDMode d.manager.sampleRate = 0
  | op => d.Allowed op

theorem WellBehaved.allowed {op : DriverOp} (well : d.WellBehaved op) : d.Allowed op := by
  cases op with
  | message | packet => trivial
  | pcmOpen | pcmHwParams | pcmPrepare => exact well.1
  | tick | pcmHwParamsDone | pcmHwFree | pcmPrepareDone | pcmTrigger | drop | pcmClose => exact well

structure Sound (d : Driver) : Prop where
  kept : ∀ direction, d.Kept direction
  manager : d.manager.Sound
  inRing : d.chip.InRing
  configured : ∀ sub, d.playback.state = .configuring sub → sub.ringFrames ≤ ringBufferSize.toNat

theorem managerCalls_wellBehaved {op : DriverOp} (inRing : d.chip.InRing) (well : d.WellBehaved op) :
    ∀ call ∈ d.managerCalls op, call.WellBehaved d.manager := by
  intro call made
  cases op with
  | message | packet =>
    cases List.mem_singleton.mp made
    exact well
  | tick =>
    cases List.mem_singleton.mp made
    exact inRing.inside
  | pcmOpen | pcmHwParams | pcmHwParamsDone | pcmHwFree | pcmPrepare | pcmPrepareDone | pcmTrigger | drop | pcmClose =>
    obtain ⟨alsa, isPlayback, rfl | rfl⟩ := alsaCalls_io rfl call made
    · trivial
    · trivial

theorem startInterrupts_inRing (inRing : d.chip.InRing) (isPlayback : Bool) :
    (d.startInterrupts isPlayback).chip.InRing := by
  unfold startInterrupts Manager.startInterrupts
  dsimp only
  split
  · exact inRing.congr rfl rfl
  · exact inRing

theorem stopInterrupts_inRing (inRing : d.chip.InRing) (isPlayback : Bool) :
    (d.stopInterrupts isPlayback).chip.InRing := by
  unfold stopInterrupts Manager.stopInterrupts
  dsimp only
  split
  · exact inRing.congr rfl rfl
  · exact inRing

theorem stopForRate_inRing (inRing : d.chip.InRing) (sub : PCMSubstream) (isPlayback : Bool) :
    (d.stopForRate sub isPlayback).chip.InRing := by
  unfold stopForRate
  split
  · exact stopInterrupts_inRing inRing isPlayback
  · exact inRing

theorem Sound.ringFits {sub : PCMSubstream} (sound : d.Sound) (setUp : d.SetUp isPlayback sub) :
    isPlayback = true → RingFits sub := by
  intro playing
  subst playing
  exact sound.inRing.fits sub setUp.substream

theorem pcmHwParamsDone_inRing {err : Int32} (sound : d.Sound)
    (configuring : (d.side isPlayback).state = .configuring sub) : (d.pcmHwParamsDone isPlayback err).chip.InRing := by
  have fits : isPlayback = true → RingFits sub := by
    intro playing
    subst playing
    have sized := (sound.kept true).backed
    rw [configuring] at sized
    exact ⟨sized, sound.configured sub configuring⟩
  have written := sound.inRing.hwParamsStream sub isPlayback
  unfold pcmHwParamsDone
  simp only [configuring]
  split
  · rw [chip_setSide]
    exact written
  · unfold setState
    rw [chip_setSide, (allocBuffer_manager _ isPlayback _).2.1]
    apply written.setRuntime fits
    intro playing
    subst playing
    rfl

theorem step_inRing {op : DriverOp} (sound : d.Sound) (well : d.WellBehaved op) (done : d.step op = .ok d') :
    d'.chip.InRing := by
  have inRing := sound.inRing
  cases op with
  | message msg polled =>
    obtain ⟨handled, -, last⟩ := bind_eq_ok.mp done
    cases last
    dsimp only
    split
    · exact inRing.congr rfl rfl
    · exact inRing
  | packet bytes ifname macHeader clockTime counterTime =>
    obtain ⟨m, -, last⟩ := map_eq_ok.mp done
    cases last
    exact inRing
  | tick now dma =>
    have ticked := lift_eq_ok.mp done
    unfold tick at ticked
    split at ticked
    · obtain ⟨clocks, ran, rest⟩ := bind_eq_ok.mp ticked
      obtain ⟨⟨m, chip, log⟩, framed, last⟩ := bind_eq_ok.mp rest
      cases last
      exact audioFrameTICWithChip_inRing sound.kept inRing (Manager.processClocks_quiet ran) framed
    · cases ticked
      exact inRing
  | pcmOpen isPlayback =>
    obtain ⟨constraints, -, last⟩ := bind_eq_ok.mp (lift_eq_ok.mp done)
    cases last
    rw [chip_setSide]
    exact inRing.openStream well.2.1 isPlayback
  | pcmHwParams isPlayback sub =>
    cases done
    unfold pcmHwParams setState
    rw [chip_setSide]
    exact stopForRate_inRing inRing sub isPlayback
  | pcmHwParamsDone isPlayback err =>
    cases done
    obtain ⟨sub, configuring⟩ := well
    exact pcmHwParamsDone_inRing sound configuring
  | pcmPrepare isPlayback =>
    cases done
    have read : { d with chip := d.chip.readRate d.manager : Driver }.chip.InRing :=
      inRing.congr rfl (well.2.trans inRing.pcm.symm)
    unfold pcmPrepare
    split
    · unfold beginPrepare setState
      rw [chip_setSide]
      exact stopForRate_inRing read _ isPlayback
    · unfold beginPrepare setState
      rw [chip_setSide]
      exact stopForRate_inRing read _ isPlayback
    · exact inRing
  | pcmPrepareDone isPlayback err =>
    obtain ⟨sub, asks, wasPrepared, preparing⟩ := well
    have ran := lift_eq_ok.mp done
    have backed := (sound.kept isPlayback).backed
    rw [preparing] at backed
    unfold pcmPrepareDone at ran
    simp only [preparing] at ran
    obtain ⟨prepared, prepares, last⟩ := bind_eq_ok.mp ran
    split at last
    · cases last
      unfold setState
      rw [chip_setSide]
      exact inRing
    · cases last
      rw [chip_setSide]
      exact inRing.prepareStream (sound.ringFits backed.1) prepares
  | pcmTrigger isPlayback cmd state =>
    cases done
    unfold triggered
    rw [chip_setSide]
    cases cmd with
    | start | pauseRelease | resume => exact startInterrupts_inRing inRing isPlayback
    | stop | pausePush | suspend => exact stopInterrupts_inRing inRing isPlayback
    | other => exact inRing
  | pcmClose isPlayback =>
    cases done
    unfold pcmClose setState
    rw [chip_setSide]
    exact inRing.closeStream isPlayback
  | pcmHwFree isPlayback | drop isPlayback sub =>
    cases done
    cases isPlayback with
    | true | false => exact inRing

theorem step_configured {op : DriverOp} (sound : d.Sound) (well : d.WellBehaved op) (done : d.step op = .ok d') :
    ∀ sub, d'.playback.state = .configuring sub → sub.ringFrames ≤ ringBufferSize.toNat := by
  have configured := sound.configured
  cases op with
  | message msg polled =>
    obtain ⟨handled, -, last⟩ := bind_eq_ok.mp done
    cases last
    exact configured
  | packet bytes ifname macHeader clockTime counterTime =>
    obtain ⟨m, -, last⟩ := map_eq_ok.mp done
    cases last
    exact configured
  | tick now dma =>
    have ticked := lift_eq_ok.mp done
    unfold tick at ticked
    split at ticked
    · obtain ⟨clocks, -, rest⟩ := bind_eq_ok.mp ticked
      obtain ⟨framed, -, last⟩ := bind_eq_ok.mp rest
      cases last
      exact configured
    · cases ticked
      exact configured
  | pcmOpen isPlayback =>
    obtain ⟨constraints, -, last⟩ := bind_eq_ok.mp (lift_eq_ok.mp done)
    cases last
    cases isPlayback with
    | true => exact fun _ => nofun
    | false => exact configured
  | pcmHwParams isPlayback sub =>
    cases done
    cases isPlayback with
    | true =>
      intro other same
      cases same
      exact well.2 rfl
    | false =>
      have same : (d.stopForRate sub false).playback = d.playback :=
        (stopForRate_calm (sound.kept true).live sub false).side true
      change ∀ other, (d.stopForRate sub false).playback.state = .configuring other → _
      rw [same]
      exact configured
  | pcmHwParamsDone isPlayback err =>
    cases done
    obtain ⟨sub, configuring⟩ := well
    unfold pcmHwParamsDone
    simp only [configuring]
    cases isPlayback with
    | true =>
      split
      · exact fun _ => nofun
      · exact fun _ => nofun
    | false =>
      split
      · exact configured
      · let set := { d with chip := d.chip.hwParamsStream sub false }
        have same := (allocBuffer_manager set false sub.bufferBytes).2.2.1
        intro other configuring
        exact configured other ((congrArg PCMSide.state same).symm.trans configuring)
  | pcmPrepare isPlayback =>
    cases done
    have begun {sub : PCMSubstream} {wasPrepared : Bool} :
        ∀ other, (d.beginPrepare isPlayback sub wasPrepared).playback.state = .configuring other →
          other.ringFrames ≤ ringBufferSize.toNat := by
      cases isPlayback with
      | true => exact fun _ => nofun
      | false =>
        have read := readRate_calm (sound.kept true).live d.manager
        have same := (stopForRate_calm read.manager.live sub false).side true
        intro other configuring
        exact configured other ((congrArg PCMSide.state same).symm.trans configuring)
    unfold pcmPrepare
    split
    · exact begun
    · exact begun
    · exact configured
  | pcmPrepareDone isPlayback err =>
    obtain ⟨sub, asks, wasPrepared, preparing⟩ := well
    have ran := lift_eq_ok.mp done
    unfold pcmPrepareDone at ran
    simp only [preparing] at ran
    obtain ⟨prepared, -, last⟩ := bind_eq_ok.mp ran
    split at last
    · cases last
      cases isPlayback with
      | true =>
        cases wasPrepared with
        | true | false => exact fun _ => nofun
      | false => exact configured
    · cases last
      cases isPlayback with
      | true => exact fun _ => nofun
      | false => exact configured
  | pcmTrigger isPlayback cmd state =>
    cases done
    obtain ⟨moves, -⟩ := well
    cases isPlayback with
    | true =>
      intro sub configuring
      have entered : state = .configuring sub := configuring
      subst entered
      generalize at_ : (d.side true).state = before at moves
      cases moves with
      | other => exact configured sub at_
    | false =>
      cases cmd with
      | start | pauseRelease | resume | stop | pausePush | suspend | other => exact configured
  | pcmHwFree isPlayback | drop isPlayback sub | pcmClose isPlayback =>
    cases done
    cases isPlayback with
    | true => exact fun _ => nofun
    | false => exact configured

theorem step_sound {op : DriverOp} (sound : d.Sound) (well : d.WellBehaved op) (done : d.step op = .ok d') :
    d'.Sound where
  kept := step_kept sound.kept well.allowed done
  manager := by
    have run := step_calls done (managerCalls_wellBehaved sound.inRing well)
    exact run.invariant Manager.Sound sound.manager fun m call m' held well next => Manager.step_sound held well next
  inRing := step_inRing sound well done
  configured := step_configured sound well done

theorem tick_succeeds (sound : d.Sound) (now : Manager.Tick) (dma : Nat → UInt8) : Succeeds (d.tick now dma) := by
  apply succeeds_when
  intro _
  apply Succeeds.bind (Manager.processClocks_succeeds sound.manager.runnable now)
  intro clocks ran
  have quiet := Manager.processClocks_quiet ran
  have streams := Manager.processClocks_streams ran
  have framed : Succeeds (clocks.1.audioFrameTIC (d.chip.tickOf now)) := by
    apply Manager.audioFrameTIC_succeeds
    · rw [streams]
      exact sound.manager.ok.streams
    · rw [streams]
      exact sound.manager.voices
    · rw [quiet.frameSize]
      exact sound.manager.frames
    · exact sound.inRing.inside
  apply Succeeds.bind
  · apply audioFrameTICWithChip_succeeds framed
    · exact (sound.kept false).captures quiet
    · intro livesIn captured captures
      exact ((sound.kept true).plays quiet (Manager.interruptCapture_other captures) dma).1
  · intro done _
    exact succeeds_ok _

theorem prepareStream_succeeds (setUp : d.SetUp isPlayback sub) :
    Succeeds (d.chip.prepareStream d.manager sub isPlayback) := by
  cases isPlayback with
  | true => exact succeeds_ok _
  | false =>
    obtain ⟨offset, isOffset, -⟩ := liveInOffset_eq setUp.sized setUp.substream d.manager
      (d.manager.callbacks d.chip.alsaBuffers).globalSAC
    exact Succeeds.bind ⟨offset, isOffset⟩ fun _ _ => succeeds_ok _

theorem step_succeeds {op : DriverOp} (sound : d.Sound) (well : d.WellBehaved op) : Succeeds (d.step op) := by
  cases op with
  | message msg polled =>
    apply Succeeds.bind (Manager.onNewMessage_succeeds well)
    intro handled _
    exact succeeds_ok _
  | packet bytes ifname macHeader clockTime counterTime =>
    exact (Manager.lift_succeeds (Manager.etherTubeRxPacket_succeeds sound.manager well)).map _
  | tick now dma => exact Manager.lift_succeeds (tick_succeeds sound now dma)
  | pcmOpen isPlayback =>
    apply Manager.lift_succeeds
    apply Succeeds.bind
    · unfold RavennaLkm.pcmOpen
      dsimp only
      rw [if_neg well.2.2]
      exact succeeds_ok _
    · intro constraints _
      exact succeeds_ok _
  | pcmPrepareDone isPlayback err =>
    obtain ⟨sub, asks, wasPrepared, preparing⟩ := well
    have backed := (sound.kept isPlayback).backed
    rw [preparing] at backed
    apply Manager.lift_succeeds
    unfold pcmPrepareDone
    simp only [preparing]
    apply Succeeds.bind (prepareStream_succeeds backed.1)
    intro prepared _
    split
    · exact succeeds_ok _
    · exact succeeds_ok _
  | pcmHwParams | pcmHwParamsDone | pcmHwFree | pcmPrepare | pcmTrigger | drop | pcmClose => exact succeeds_ok _

theorem loaded_sound (macAddress : Nat → MACAddress) (livesIn : RingMemory) (streamAt : UInt64 → StreamHandle) :
    (loaded macAddress livesIn streamAt).Sound where
  kept := loaded_kept macAddress livesIn streamAt
  manager := Manager.init_sound macAddress livesIn streamAt
  inRing := by
    apply InRing.of_none rfl rfl
    change (0 : UInt32) < ringBufferSize
    decide
  configured _ := nofun

theorem run_sound {macAddress : Nat → MACAddress} {livesIn : RingMemory} {streamAt : UInt64 → StreamHandle}
    {ops : List DriverOp} (run : Run step WellBehaved (loaded macAddress livesIn streamAt) ops d) : d.Sound := by
  apply run.invariant Sound (loaded_sound macAddress livesIn streamAt)
  intro before op after sound well next
  exact step_sound sound well next

end Driver

end RavennaLkm
