import RavennaLkm.AudioDriver
import RavennaLkm.ChannelIsolation

/-!
The driver between ALSA, the daemon and the timer. ALSA calls a substream in the
order of its states. In `hw_params` and `prepare` the lock is given up until the
daemon has changed the rate, so that both are in two halves here. The DMA area is
ALSA's; the chip keeps the address that it had at the last `prepare`.
-/
namespace RavennaLkm
open CheckedLoop

inductive PCMState where
  | closed
  | opened
  /-- between the halves of `hw_params` -/
  | configuring (sub : PCMSubstream)
  | setup (sub : PCMSubstream)
  /-- between the halves of `prepare`, whether the daemon was asked, and whether an earlier one stands -/
  | preparing (sub : PCMSubstream) (asks wasPrepared : Bool)
  | prepared (sub : PCMSubstream)
  | running (sub : PCMSubstream)
  | paused (sub : PCMSubstream)

inductive PCMTrigger where
  | start | pauseRelease | resume
  | stop | pausePush | suspend
  | other
  deriving DecidableEq, Repr

namespace PCMTrigger

def starts : PCMTrigger → Bool
  | .start | .pauseRelease | .resume => true
  | .stop | .pausePush | .suspend | .other => false

inductive Moves : PCMTrigger → PCMState → PCMState → Prop where
  | start (sub : PCMSubstream) : Moves .start (.prepared sub) (.running sub)
  | pauseRelease (sub : PCMSubstream) : Moves .pauseRelease (.paused sub) (.running sub)
  | resume (sub : PCMSubstream) : Moves .resume (.paused sub) (.running sub)
  | stop (sub : PCMSubstream) : Moves .stop (.running sub) (.setup sub)
  | pausePush (sub : PCMSubstream) : Moves .pausePush (.running sub) (.paused sub)
  | suspend (sub : PCMSubstream) : Moves .suspend (.running sub) (.paused sub)
  | other (state : PCMState) : Moves .other state state

end PCMTrigger

structure DMAArea where
  serial : Nat
  bytes : Nat
  deriving DecidableEq, Repr

structure IOConfig where
  frameSize : UInt32
  numberOfInputs : UInt32
  numberOfOutputs : UInt32
  deriving DecidableEq, Repr

/-- One direction: the state and the area that ALSA keeps, the area whose address the chip has, and, as
a history, the frames since `prepare` and the configuration at the last start. -/
structure PCMSide where
  state : PCMState := .closed
  constraints : Option HwConstraints := none
  dmaArea : Option DMAArea := none
  dmaBuffer : Option DMAArea := none
  moved : Nat := 0
  startedWith : Option IOConfig := none

namespace AudioChip

def stream (self : AudioChip) (isPlayback : Bool) : PCMStream :=
  if isPlayback then self.playback else self.capture

def setStream (self : AudioChip) (isPlayback : Bool) (p : PCMStream) : AudioChip :=
  if isPlayback then { self with playback := p } else { self with capture := p }

def openStream (self : AudioChip) (manager : Manager) (isPlayback : Bool) : AudioChip :=
  (self.readRate manager).setStream isPlayback
    { self.stream isPlayback with substream := none, currentAlsaStride := UInt32.ofNat PCMFormat.s32LE.stride }

def hwParamsStream (self : AudioChip) (sub : PCMSubstream) (isPlayback : Bool) : AudioChip :=
  let p := { self.stream isPlayback with
    currentAlsaStride := UInt32.ofNat sub.format.stride
    currentInterruptIdx := 0
    nbInterruptsPerPeriod := sub.nbInterrupts }
  if isPlayback then
    { self with playback := { p with bufferPos := 0 }, playbackBufferAlsaSAC := 0, playbackBufferRavSAC := 0 }
  else { self with capture := p }

def setRuntime (self : AudioChip) (sub : PCMSubstream) (isPlayback : Bool) : AudioChip :=
  self.setStream isPlayback { self.stream isPlayback with substream := some sub }

def prepareStream (self : AudioChip) (manager : Manager) (sub : PCMSubstream) (isPlayback : Bool) :
    Except Fault AudioChip :=
  if isPlayback then
    .ok { self with
      playback := preparedStream sub 0
      playbackBufferAlsaSAC := 0
      playbackBufferRavSAC := 0
      playbackDeinterleaveFn := selectDeinterleave sub }
  else do
    let ops := manager.callbacks self.alsaBuffers
    let offset ← getLiveInJitterBufferOffset ops ops.globalSAC
    .ok { self with capture := preparedStream sub offset, captureInterleaveFn := selectInterleave sub }

def closeStream (self : AudioChip) (isPlayback : Bool) : AudioChip :=
  self.setStream isPlayback { self.stream isPlayback with substream := none }

/-- With nothing in between, the halves are the whole of `pcm_prepare`. -/
theorem preparePlayback_eq (chip : AudioChip) (sub : PCMSubstream) (before after : Manager) (err : Int32) :
    .ok (chip.preparePlayback sub before err) =
      (fun prepared => if (chip.readRate before).asksForRate sub ∧ err < 0 then none else some prepared) <$>
        (chip.readRate before).prepareStream after sub true := by
  simp only [preparePlayback, prepareStream, if_true, map_ok]

theorem prepareCapture_eq (chip : AudioChip) (sub : PCMSubstream) (before after : Manager) (err : Int32) :
    chip.prepareCapture sub before after err =
      (fun prepared => if (chip.readRate before).asksForRate sub ∧ err < 0 then none else some prepared) <$>
        (chip.readRate before).prepareStream after sub false := by
  unfold prepareCapture prepareStream
  simp only [Bool.false_eq_true, if_false]
  cases getLiveInJitterBufferOffset (after.callbacks (chip.readRate before).alsaBuffers)
      (after.callbacks (chip.readRate before).alsaBuffers).globalSAC with
  | error fault => rfl
  | ok offset =>
    simp only [ok_bind, map_ok]
    split
    · rfl
    · rfl

end AudioChip

namespace Manager

def ioOn (self : Manager) (isPlayback : Bool) : Bool :=
  if isPlayback then self.isPlaybackIO else self.isRecordingIO

def ioConfig (self : Manager) : IOConfig := ⟨self.frameSize, self.numberOfInputs, self.numberOfOutputs⟩

end Manager

structure Driver where
  manager : Manager
  chip : AudioChip := {}
  playback : PCMSide := {}
  capture : PCMSide := {}
  /-- how many areas were allocated -/
  areas : Nat := 0

namespace Driver

def side (self : Driver) (isPlayback : Bool) : PCMSide :=
  if isPlayback then self.playback else self.capture

def setSide (self : Driver) (isPlayback : Bool) (side : PCMSide) : Driver :=
  if isPlayback then { self with playback := side } else { self with capture := side }

def setState (self : Driver) (isPlayback : Bool) (state : PCMState) : Driver :=
  self.setSide isPlayback { self.side isPlayback with state := state }

def startInterrupts (self : Driver) (isPlayback : Bool) : Driver :=
  let started := self.manager.startInterrupts self.chip isPlayback
  { self with manager := started.1, chip := started.2 }

def stopInterrupts (self : Driver) (isPlayback : Bool) : Driver :=
  let stopped := self.manager.stopInterrupts self.chip isPlayback
  { self with manager := stopped.1, chip := stopped.2 }

def stopForRate (self : Driver) (sub : PCMSubstream) (isPlayback : Bool) : Driver :=
  if self.chip.asksForRate sub then self.stopInterrupts isPlayback else self

def formats (isPlayback : Bool) : List PCMFormat := if isPlayback then playbackFormats else captureFormats

def pcmOpen (self : Driver) (isPlayback : Bool) : Except Fault Driver := do
  let constraints ← RavennaLkm.pcmOpen (formats isPlayback) self.manager
  .ok ({ self with chip := self.chip.openStream self.manager isPlayback }.setSide isPlayback
    { self.side isPlayback with state := .opened, constraints := some constraints })

def pcmHwParams (self : Driver) (isPlayback : Bool) (sub : PCMSubstream) : Driver :=
  (self.stopForRate sub isPlayback).setState isPlayback (.configuring sub)

def newBuffer (self : Driver) (isPlayback : Bool) (bytes : Nat) : Driver :=
  { self with areas := self.areas + 1 }.setSide isPlayback
    { self.side isPlayback with dmaArea := some ⟨self.areas, bytes⟩ }

/-- `snd_pcm_lib_alloc_vmalloc_buffer`: an area that is long enough is kept. -/
def allocBuffer (self : Driver) (isPlayback : Bool) (bytes : Nat) : Driver :=
  match (self.side isPlayback).dmaArea with
  | some area => if bytes ≤ area.bytes then self else self.newBuffer isPlayback bytes
  | none => self.newBuffer isPlayback bytes

def pcmHwParamsDone (self : Driver) (isPlayback : Bool) (err : Int32) : Driver :=
  match (self.side isPlayback).state with
  | .configuring sub =>
    let self := { self with chip := self.chip.hwParamsStream sub isPlayback }
    if err < 0 then
      self.setSide isPlayback { self.side isPlayback with state := .opened, dmaArea := none }
    else
      let self := self.allocBuffer isPlayback sub.bufferBytes
      { self with chip := self.chip.setRuntime sub isPlayback }.setState isPlayback (.setup sub)
  | _ => self

/-- The address in the chip is left. -/
def pcmHwFree (self : Driver) (isPlayback : Bool) : Driver :=
  self.setSide isPlayback { self.side isPlayback with state := .opened, dmaArea := none }

def beginPrepare (self : Driver) (isPlayback : Bool) (sub : PCMSubstream) (wasPrepared : Bool) : Driver :=
  let self := { self with chip := self.chip.readRate self.manager }
  (self.stopForRate sub isPlayback).setState isPlayback (.preparing sub (self.chip.asksForRate sub) wasPrepared)

def pcmPrepare (self : Driver) (isPlayback : Bool) : Driver :=
  match (self.side isPlayback).state with
  | .setup sub => self.beginPrepare isPlayback sub false
  | .prepared sub => self.beginPrepare isPlayback sub true
  | _ => self

def pcmPrepareDone (self : Driver) (isPlayback : Bool) (err : Int32) : Except Fault Driver :=
  match (self.side isPlayback).state with
  | .preparing sub asks wasPrepared => do
    let prepared ← self.chip.prepareStream self.manager sub isPlayback
    if asks ∧ err < 0 then
      .ok (self.setState isPlayback (if wasPrepared then .prepared sub else .setup sub))
    else
      .ok ({ self with chip := prepared }.setSide isPlayback { self.side isPlayback with
        state := .prepared sub, dmaBuffer := (self.side isPlayback).dmaArea, moved := 0 })
  | _ => .ok self

def pcmTrigger (self : Driver) (isPlayback : Bool) : PCMTrigger → Driver × Int32
  | .start | .pauseRelease | .resume => (self.startInterrupts isPlayback, 0)
  | .stop | .pausePush | .suspend => (self.stopInterrupts isPlayback, 0)
  | .other => (self, -22)

def triggered (self : Driver) (isPlayback : Bool) (cmd : PCMTrigger) (state : PCMState) : Driver :=
  let self := (self.pcmTrigger isPlayback cmd).1
  self.setSide isPlayback { self.side isPlayback with
    state := state
    startedWith := if cmd.starts then some self.manager.ioConfig else (self.side isPlayback).startedWith }

def pcmClose (self : Driver) (isPlayback : Bool) : Driver :=
  { self with chip := self.chip.closeStream isPlayback }.setState isPlayback .closed

/-- A message that stops the playback mutes the rings of the chip. -/
def onNewMessage (self : Driver) (msg : MTALSAMsg) (polled : Nat → Nat → PTPLockStatus) :
    Except ManagerFault Driver := do
  let handled ← self.manager.onNewMessage msg self.chip.alsaBuffers polled
  .ok { self with
    manager := handled.1
    chip :=
      if self.manager.isPlaybackIO ∧ ¬ Manager.isPlaybackIO handled.1 then
        { self.chip with
          playbackBuffer := self.manager.muteOutputBuffer self.chip.alsaBuffers self.chip.playbackBuffer }
      else self.chip }

def movedBy (manager : Manager) (isPlayback : Bool) : Nat :=
  if manager.sendsOutgoing && manager.ioOn isPlayback then manager.frameSize.toNat else 0

/-- The timer runs from start to stop. -/
def tick (self : Driver) (now : Manager.Tick) (dma : Nat → UInt8) : Except Fault Driver :=
  if self.manager.isStarted then do
    let clocks ← self.manager.processClocks now
    let framed ← clocks.1.audioFrameTICWithChip self.chip now dma
    .ok { self with
      manager := framed.1
      chip := framed.2.1
      playback := { self.playback with moved := self.playback.moved + movedBy clocks.1 true }
      capture := { self.capture with moved := self.capture.moved + movedBy clocks.1 false } }
  else .ok self

end Driver

inductive DriverOp where
  | message (msg : MTALSAMsg) (polled : Nat → Nat → PTPLockStatus)
  | packet (bytes ifname : List UInt8) (macHeader : Bool) (clockTime counterTime : UInt64)
  | tick (now : Manager.Tick) (dma : Nat → UInt8)
  | pcmOpen (isPlayback : Bool)
  | pcmHwParams (isPlayback : Bool) (sub : PCMSubstream)
  | pcmHwParamsDone (isPlayback : Bool) (err : Int32)
  | pcmHwFree (isPlayback : Bool)
  | pcmPrepare (isPlayback : Bool)
  | pcmPrepareDone (isPlayback : Bool) (err : Int32)
  | pcmTrigger (isPlayback : Bool) (cmd : PCMTrigger) (state : PCMState)
  /-- ALSA stops a suspended substream without a command. -/
  | drop (isPlayback : Bool) (sub : PCMSubstream)
  | pcmClose (isPlayback : Bool)

namespace Driver

def step (d : Driver) : DriverOp → Except ManagerFault Driver
  | .message msg polled => d.onNewMessage msg polled
  | .packet bytes ifname macHeader clockTime counterTime =>
    (fun manager => { d with manager := manager }) <$>
      lift (d.manager.etherTubeRxPacket d.chip.alsaBuffers bytes ifname macHeader clockTime counterTime)
  | .tick now dma => lift (d.tick now dma)
  | .pcmOpen isPlayback => lift (d.pcmOpen isPlayback)
  | .pcmHwParams isPlayback sub => .ok (d.pcmHwParams isPlayback sub)
  | .pcmHwParamsDone isPlayback err => .ok (d.pcmHwParamsDone isPlayback err)
  | .pcmHwFree isPlayback => .ok (d.pcmHwFree isPlayback)
  | .pcmPrepare isPlayback => .ok (d.pcmPrepare isPlayback)
  | .pcmPrepareDone isPlayback err => lift (d.pcmPrepareDone isPlayback err)
  | .pcmTrigger isPlayback cmd state => .ok (d.triggered isPlayback cmd state)
  | .drop isPlayback sub => .ok (d.setState isPlayback (.setup sub))
  | .pcmClose isPlayback => .ok (d.pcmClose isPlayback)

/-- Where the frames of the manager fit a substream in PCM. -/
structure FrameFits (m : Manager) (sub : PCMSubstream) (moved : Nat) : Prop where
  format : sub.format ∈ captureFormats
  moves : 0 < m.frameSize.toNat
  inRing : m.frameSize.toNat ≤ sub.ringFrames ∧ m.frameSize.toNat ≤ ringBufferSize.toNat
  whole : m.frameSize.toNat ∣ sub.bufferSize
  position : m.frameSize.toNat ∣ moved

/-- ALSA calls in the order of its states, with sizes that `open` lets through. Nothing but the
geometry at a start is asked of anybody else. -/
def Allowed (d : Driver) : DriverOp → Prop
  | .message .. | .packet .. | .tick .. => True
  | .pcmOpen isPlayback => (d.side isPlayback).state = .closed
  | .pcmHwParams isPlayback sub =>
    ((d.side isPlayback).state = .opened ∨
      (∃ old, (d.side isPlayback).state = .setup old ∨ (d.side isPlayback).state = .prepared old)) ∧
    ∃ c, (d.side isPlayback).constraints = some c ∧ c.Allows sub
  | .pcmHwParamsDone isPlayback _ => ∃ sub, (d.side isPlayback).state = .configuring sub
  | .pcmHwFree isPlayback | .pcmPrepare isPlayback =>
    ∃ sub, (d.side isPlayback).state = .setup sub ∨ (d.side isPlayback).state = .prepared sub
  | .pcmPrepareDone isPlayback _ =>
    ∃ sub asks wasPrepared, (d.side isPlayback).state = .preparing sub asks wasPrepared
  | .pcmTrigger isPlayback cmd state => cmd.Moves (d.side isPlayback).state state ∧
    (cmd.starts = true → d.manager.isStarted = true → ∀ sub, state = .running sub →
      FrameFits d.manager sub (d.side isPlayback).moved)
  | .drop isPlayback sub => (d.side isPlayback).state = .paused sub
  | .pcmClose isPlayback => (d.side isPlayback).state = .opened

end Driver
end RavennaLkm
