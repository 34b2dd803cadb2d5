import RavennaLkm.Manager

/-!
audio_driver.c: the ALSA side of the driver. At each TIC the manager calls
`pcm_interrupt`, which moves one PTP frame between the DMA area of ALSA and the
rings of the chip: the playback rings are the chip's, the capture rings are those
the sinks write to. What the application puts into the playback area is an
argument of each interrupt.
-/
namespace RavennaLkm
open CheckedLoop

def ptpFrameRateForDSD : UInt32 := 352800

/-- The `snd_pcm_format_t` that the driver knows. -/
inductive PCMFormat where
  | s16LE | s24LE | s24_3LE | s32LE
  | dsdU8 | dsdU16LE | dsdU16BE | dsdU32LE | dsdU32BE
  deriving DecidableEq, Repr

namespace PCMFormat

def width : PCMFormat → Nat
  | .dsdU8 => 8
  | .s16LE | .dsdU16LE | .dsdU16BE => 16
  | .s24LE | .s24_3LE => 24
  | .s32LE | .dsdU32LE | .dsdU32BE => 32

def physicalWidth : PCMFormat → Nat
  | .dsdU8 => 8
  | .s16LE | .dsdU16LE | .dsdU16BE => 16
  | .s24_3LE => 24
  | .s24LE | .s32LE | .dsdU32LE | .dsdU32BE => 32

def stride (format : PCMFormat) : Nat := format.physicalWidth / 8

end PCMFormat

def getSamplerateFactor (rate : UInt32) : UInt32 :=
  if rate ≤ 48000 then 1
  else if rate ≤ 96000 then 2
  else if rate ≤ 192000 then 4
  else if rate ≤ 384000 then 8
  else if rate ≤ 768000 then 16
  else if rate ≤ 1536000 then 32
  else if rate ≤ 3072000 then 64
  else if rate ≤ 6144000 then 128
  else if rate ≤ 12288000 then 256
  else if rate ≤ 24576000 then 512
  else 0xFFFFFFFF

def getDSDSampleRate (format : PCMFormat) (rate : UInt32) : UInt32 :=
  let dsdRate :=
    match format with
    | .dsdU8 => rate * 8
    | .dsdU16LE | .dsdU16BE => rate * 16
    | .dsdU32LE | .dsdU32BE => rate * 32
    | _ => 0
  if dsdRate ≥ 2822400 then dsdRate else 0

def getDSDMode (dsdRate : UInt32) : UInt32 :=
  if dsdRate = 2822400 then 1
  else if dsdRate = 5644800 then 2
  else if dsdRate = 11289600 then 4
  else if dsdRate = 22579200 then 8
  else 0

/-- The `runtime` of a substream. The periods need not be whole, so that a buffer can be longer than
the product of the period size and the number of periods. -/
structure PCMSubstream extends PCMRuntime where
  format : PCMFormat
  rate : UInt32
  channels : UInt32
  bufferSize : Nat
  interleaved : Bool := true

namespace PCMSubstream

def dsdMode (sub : PCMSubstream) : UInt32 := getDSDMode (getDSDSampleRate sub.format sub.rate)

/-- How many interrupts ALSA is told of as one. -/
def nbInterrupts (sub : PCMSubstream) : UInt32 :=
  if sub.dsdMode ≠ 0 then ptpFrameRateForDSD / sub.rate else 1

def frameBytes (sub : PCMSubstream) : Nat := sub.channels.toNat * sub.format.stride

def bufferBytes (sub : PCMSubstream) : Nat := sub.bufferSize * sub.frameBytes

/-- The length of the ring in frames. -/
def ringFrames (sub : PCMSubstream) : Nat := sub.periodSize * sub.periods

end PCMSubstream

structure PCMStream where
  substream : Option PCMSubstream := none
  bufferPos : UInt32 := 0
  currentAlsaStride : UInt32 := 0
  nbInterruptsPerPeriod : UInt32 := 0
  currentInterruptIdx : UInt32 := 0
  dmaOffset : UInt32 := 0
  pcmBufferSize : UInt32 := 0

/-- The rings, and the bytes of the DMA area that were read, in the order of the reads. -/
structure PlaybackCopy where
  ring : RingMemory
  reads : List Nat

/-- One sample of the area becomes one word of a ring; the bytes read are at `offsets` from its address. -/
def copySample (size : Nat) (dma : Nat → UInt8) (offsets : List Nat) (decode : (Nat → UInt8) → Sample)
    (address cell : Nat) (c : PlaybackCopy) : Except Fault PlaybackCopy :=
  if ∀ k ∈ offsets, address + k < size then
    .ok ⟨Function.update c.ring cell (decode fun k => dma (address + k)), c.reads ++ offsets.map (address + ·)⟩
  else .error .readPast

/-- The words of a ring from `ravennaPos` on, with a wrap at the end of the ring; `src` is where the
first frame starts in the area. -/
def playbackDeinterleave (strideIn : Nat) (offsets : List Nat) (decode : (Nat → UInt8) → Sample)
    (size : Nat) (dma : Nat → UInt8) (src : Nat) (ringBufferFrames ravennaPos channels frames : UInt32) :
    PlaybackCopy → Except Fault PlaybackCopy :=
  let first := (min frames (ringBufferFrames - ravennaPos)).toNat
  let sample := fun ch f cell =>
    copySample size dma offsets decode (src + (f * channels.toNat + ch) * strideIn)
      (ch * ringBufferFrames.toNat + cell)
  forUp (fun ch c => do
      let c ← forUp (fun f => sample ch f (ravennaPos.toNat + f)) first c
      forUp (fun f => sample ch (first + f) f) (frames.toNat - first) c)
    channels.toNat

def playbackDeinterleaveS32LE := playbackDeinterleave 4 [0, 1, 2, 3] fun s => ⟨s 0, s 1, s 2, s 3⟩
def playbackDeinterleaveS24LE := playbackDeinterleave 4 [2, 1, 0] fun s => ⟨0, s 0, s 1, s 2⟩
def playbackDeinterleaveS24_3LE := playbackDeinterleave 3 [2, 1, 0] fun s => ⟨0, s 0, s 1, s 2⟩
def playbackDeinterleaveS16LE := playbackDeinterleave 2 [1, 0] fun s => ⟨0, 0, s 0, s 1⟩

inductive PlaybackDeinterleave where
  | s32LE | s24LE | s24_3LE | s16LE
  deriving DecidableEq, Repr

def PlaybackDeinterleave.call : PlaybackDeinterleave → Nat → (Nat → UInt8) → Nat → UInt32 → UInt32 →
    UInt32 → UInt32 → PlaybackCopy → Except Fault PlaybackCopy
  | .s32LE => playbackDeinterleaveS32LE
  | .s24LE => playbackDeinterleaveS24LE
  | .s24_3LE => playbackDeinterleaveS24_3LE
  | .s16LE => playbackDeinterleaveS16LE

inductive CaptureInterleave where
  | int32LE | int24LE | int24LE4Byte | int16LE
  deriving DecidableEq, Repr

def CaptureInterleave.call : CaptureInterleave → Nat → RingMemory → ChannelMap → UInt32 → UInt32 → UInt32 →
    OutCursor → Except Fault OutCursor
  | .int32LE => mtConvertMappedInt32ToInt32LEInterleave
  | .int24LE => mtConvertMappedInt32ToInt24LEInterleave
  | .int24LE4Byte => mtConvertMappedInt32ToInt24LE4ByteInterleave
  | .int16LE => mtConvertMappedInt32ToInt16LEInterleave

/-- `mr_alsa_audio_chip`, without the controls. The last two fields are what was done to the DMA areas. -/
structure AudioChip where
  playback : PCMStream := {}
  capture : PCMStream := {}
  playbackBuffer : RingMemory := fun _ => {}
  playbackBufferAlsaSAC : UInt64 := 0
  playbackBufferRavSAC : UInt64 := 0
  currentRate : UInt32 := 0
  currentDSD : UInt32 := 0
  playbackDeinterleaveFn : Option PlaybackDeinterleave := none
  captureInterleaveFn : Option CaptureInterleave := none
  dmaReads : List Nat := []
  dmaCaptured : PacketBuffer := fun _ => none

namespace AudioChip

def alsaBuffers (self : AudioChip) : AlsaBuffers where
  currentDSD := self.currentDSD != 0
  playback := self.playback.substream.map (·.toPCMRuntime)
  capture := self.capture.substream.map (·.toPCMRuntime)
  playbackBufferPos := self.playback.bufferPos

def captureBufferChannelsMap : ChannelMap := fun ch =>
  if ch < nbChannelsMax then some (ch * ringBufferSize.toNat) else none

def copyPCM (width size : Nat) (dma : Nat → UInt8) (address cell : Nat) (c : PlaybackCopy) :
    Except Fault PlaybackCopy :=
  if width = 16 then copySample size dma [1, 0] (fun s => ⟨0, 0, s 0, s 1⟩) address cell c
  else if width = 24 then copySample size dma [2, 1, 0] (fun s => ⟨0, s 0, s 1, s 2⟩) address cell c
  else if width = 32 then copySample size dma [0, 1, 2, 3] (fun s => ⟨s 0, s 1, s 2, s 3⟩) address cell c
  else .ok c

/-- One, two or four bytes of a DSD stream; the single byte is read with a load of four. -/
def copyDSD (dsdMode : UInt32) (size : Nat) (dma : Nat → UInt8) (address cell outCnt : Nat) (c : PlaybackCopy) :
    Except Fault PlaybackCopy :=
  if dsdMode = 1 then
    copySample size dma [0, 1, 2, 3] (fun s => ⟨s 0, 0, 0, 0⟩) (address + outCnt) (cell + outCnt) c
  else if dsdMode = 2 then
    copySample size dma [1, 0] (fun s => ⟨s 0, s 1, 0, 0⟩) (address + 2 * outCnt) (cell + outCnt) c
  else if dsdMode = 4 then
    copySample size dma [0, 1, 2, 3] (fun s => ⟨s 0, s 1, s 2, s 3⟩) address (cell + outCnt) c
  else .ok c

structure OutPos where
  copy : PlaybackCopy
  currentOutPos : UInt32

def copyPlaybackSample (sub : PCMSubstream) (nb : UInt32) (size : Nat) (dma : Nat → UInt8) (address cell : Nat)
    (copy : PlaybackCopy) : Except Fault PlaybackCopy :=
  if sub.dsdMode = 0 then copyPCM sub.format.width size dma address cell copy
  else forUp (copyDSD sub.dsdMode size dma address cell) nb.toNat copy

def playbackCopyFrame (sub : PCMSubstream) (nb : UInt32) (size : Nat) (dma : Nat → UInt8) (chn address : Nat)
    (st : OutPos) : Except Fault OutPos := do
  let cell := chn * ringBufferSize.toNat + st.currentOutPos.toNat / 4
  let copy ← copyPlaybackSample sub nb size dma address cell st.copy
  let next := st.currentOutPos + 4 * nb
  .ok ⟨copy, if next ≥ ringBufferSize * 4 then 0 else next⟩

def playbackCopyInternal (self : AudioChip) (sub : PCMSubstream) (dma : Nat → UInt8) (count : UInt32) :
    Except Fault AudioChip :=
  if sub.interleaved then do
    let p := self.playback
    let stepIn := (sub.channels * p.currentAlsaStride).toNat
    let copy ← forUp (fun chn copy => (·.copy) <$>
        forUp (fun frmCnt => playbackCopyFrame sub p.nbInterruptsPerPeriod p.pcmBufferSize.toNat dma chn
            (p.dmaOffset.toNat + chn * p.currentAlsaStride.toNat + frmCnt * stepIn))
          count.toNat ⟨copy, p.bufferPos * 4⟩)
      sub.channels.toNat ⟨self.playbackBuffer, self.dmaReads⟩
    .ok { self with
      playbackBuffer := copy.ring
      dmaReads := copy.reads
      playbackBufferAlsaSAC := self.playbackBufferAlsaSAC + count.toUInt64 }
  else .ok self

def captureCopyInternal (self : AudioChip) (sub : PCMSubstream) (captureBuffer : RingMemory) (c : OutCursor)
    (count : UInt32) : Except Fault OutCursor :=
  let call := fun (fn : CaptureInterleave) =>
    fn.call self.capture.pcmBufferSize.toNat captureBuffer captureBufferChannelsMap self.capture.bufferPos
      sub.channels count c
  if sub.interleaved then
    if sub.format.width = 16 then call .int16LE
    else if sub.format.width = 24 then
      if self.capture.currentAlsaStride = 3 then call .int24LE
      else if self.capture.currentAlsaStride = 4 then call .int24LE4Byte
      else .ok c
    else if sub.format.width = 32 then call .int32LE
    else .ok c
  else .ok c

def ringBufferFrames (currentDSD : UInt32) (sub : PCMSubstream) : UInt32 :=
  if currentDSD ≠ 0 then ringBufferSize else UInt32.ofNat sub.ringFrames

def elapses (p : PCMStream) : Bool := p.currentInterruptIdx + 1 ≥ p.nbInterruptsPerPeriod

def advance (p : PCMStream) (ptpFrameSize ringFrames bytesToFrameFactor : UInt32) : PCMStream :=
  let newOffset := (p.dmaOffset.toUInt64 + ptpFrameSize.toUInt64 * bytesToFrameFactor.toUInt64).toUInt32
  let pos := p.bufferPos + ptpFrameSize
  { p with
    dmaOffset := if newOffset ≥ p.pcmBufferSize then newOffset - p.pcmBufferSize else newOffset
    bufferPos := if pos ≥ ringFrames then pos - ringFrames else pos
    currentInterruptIdx := if elapses p then 0 else p.currentInterruptIdx + 1 }

def playbackCopy (self : AudioChip) (sub : PCMSubstream) (ptpFrameSize : UInt32) (dma : Nat → UInt8) :
    Except Fault AudioChip :=
  match self.playbackDeinterleaveFn with
  | some fn => do
    let copy ← fn.call self.playback.pcmBufferSize.toNat dma self.playback.dmaOffset.toNat ringBufferSize
      self.playback.bufferPos sub.channels ptpFrameSize ⟨self.playbackBuffer, self.dmaReads⟩
    .ok { self with
      playbackBuffer := copy.ring
      dmaReads := copy.reads
      playbackBufferAlsaSAC := self.playbackBufferAlsaSAC + ptpFrameSize.toUInt64 }
  | none => self.playbackCopyInternal sub dma ptpFrameSize

def pcmInterruptPlayback (self : AudioChip) (ptpFrameSize : UInt32) (dma : Nat → UInt8) :
    Except Fault AudioChip :=
  match self.playback.substream with
  | none => .ok self
  | some sub => do
    let copied ← self.playbackCopy sub ptpFrameSize dma
    .ok { copied with
      playback := advance self.playback ptpFrameSize (ringBufferFrames self.currentDSD sub)
        (sub.channels * self.playback.currentAlsaStride)
      playbackBufferRavSAC :=
        if elapses self.playback then self.playbackBufferRavSAC + ptpFrameSize.toUInt64
        else self.playbackBufferRavSAC }

def captureCopy (self : AudioChip) (sub : PCMSubstream) (ptpFrameSize : UInt32) (captureBuffer : RingMemory) :
    Except Fault OutCursor :=
  let c : OutCursor := ⟨self.capture.dmaOffset.toNat, self.dmaCaptured⟩
  match self.captureInterleaveFn with
  | some fn =>
    fn.call self.capture.pcmBufferSize.toNat captureBuffer captureBufferChannelsMap self.capture.bufferPos
      sub.channels ptpFrameSize c
  | none => self.captureCopyInternal sub captureBuffer c ptpFrameSize

/-- `pcm_interrupt` of the capture direction. -/
def pcmInterruptCapture (self : AudioChip) (ptpFrameSize : UInt32) (captureBuffer : RingMemory) :
    Except Fault AudioChip :=
  match self.capture.substream with
  | none => .ok self
  | some sub => do
    let c ← self.captureCopy sub ptpFrameSize captureBuffer
    .ok { self with
      dmaCaptured := c.packet
      capture := advance self.capture ptpFrameSize (ringBufferFrames self.currentDSD sub)
        (sub.channels * self.capture.currentAlsaStride) }

def pcmPointer (p : PCMStream) : UInt32 :=
  match p.substream with
  | none => 0
  | some sub =>
    let bytesToFrameFactor := sub.channels * p.currentAlsaStride
    if bytesToFrameFactor = 0 then 0
    else
      let offset := p.dmaOffset / bytesToFrameFactor
      if p.nbInterruptsPerPeriod = 2 then offset >>> 1
      else if p.nbInterruptsPerPeriod = 4 then offset >>> 2
      else if p.nbInterruptsPerPeriod = 8 then offset >>> 3
      else offset

def preparedStream (sub : PCMSubstream) (bufferPos : UInt32) : PCMStream where
  substream := some sub
  bufferPos := bufferPos
  currentAlsaStride := UInt32.ofNat sub.format.stride
  nbInterruptsPerPeriod := sub.nbInterrupts
  currentInterruptIdx := 0
  dmaOffset := 0
  pcmBufferSize := UInt32.ofNat sub.bufferBytes

def selectDeinterleave (sub : PCMSubstream) : Option PlaybackDeinterleave :=
  if getDSDSampleRate sub.format sub.rate = 0 then
    if sub.format.width = 32 then some .s32LE
    else if sub.format.width = 24 then if sub.format.stride = 3 then some .s24_3LE else some .s24LE
    else if sub.format.width = 16 then some .s16LE
    else none
  else none

def selectInterleave (sub : PCMSubstream) : Option CaptureInterleave :=
  if sub.format.width = 32 then some .int32LE
  else if sub.format.width = 24 then if sub.format.stride = 3 then some .int24LE else some .int24LE4Byte
  else if sub.format.width = 16 then some .int16LE
  else none

def readRate (self : AudioChip) (before : Manager) : AudioChip :=
  { self with currentRate := before.sampleRate, currentDSD := getDSDMode before.sampleRate }

def asksForRate (self : AudioChip) (sub : PCMSubstream) : Bool :=
  if sub.dsdMode ≠ 0 then sub.dsdMode ≠ self.currentDSD else self.currentRate ≠ sub.rate

/-- `err` is what `set_sample_rate` returns; `none` stands for `-EINVAL`. -/
def preparePlayback (self : AudioChip) (sub : PCMSubstream) (before : Manager) (err : Int32) : Option AudioChip :=
  let self := self.readRate before
  if self.asksForRate sub ∧ err < 0 then none
  else some { self with
    playback := preparedStream sub 0
    playbackBufferAlsaSAC := 0
    playbackBufferRavSAC := 0
    playbackDeinterleaveFn := selectDeinterleave sub }

/-- `after` is the manager when it is asked for the place of its current position in the rings. -/
def prepareCapture (self : AudioChip) (sub : PCMSubstream) (before after : Manager) (err : Int32) :
    Except Fault (Option AudioChip) := do
  let self := self.readRate before
  let ops := after.callbacks self.alsaBuffers
  let offset ← getLiveInJitterBufferOffset ops ops.globalSAC
  if self.asksForRate sub ∧ err < 0 then .ok none
  else .ok (some { self with
    capture := preparedStream sub offset, captureInterleaveFn := selectInterleave sub })

end AudioChip

namespace Manager

/-- `start_interrupts`: the playback rings that the start mutes are the chip's. -/
def startInterrupts (self : Manager) (chip : AudioChip) (isPlayback : Bool) : Manager × AudioChip :=
  ((self.startIo chip.alsaBuffers isPlayback).1,
    if self.isStarted ∧ isPlayback then
      { chip with playbackBuffer := self.muteOutputBuffer chip.alsaBuffers chip.playbackBuffer }
    else chip)

def stopInterrupts (self : Manager) (chip : AudioChip) (isPlayback : Bool) : Manager × AudioChip :=
  (self.stopIo chip.alsaBuffers isPlayback,
    if isPlayback ∧ self.isPlaybackIO then
      { chip with playbackBuffer := self.muteOutputBuffer chip.alsaBuffers chip.playbackBuffer }
    else chip)

def getMinInterruptsFrameSize (self : Manager) : UInt32 := self.ticFrameSizeAt1FS.toUInt32

def getMaxInterruptsFrameSize (self : Manager) : UInt32 :=
  min self.maxFrameSize (self.getMinInterruptsFrameSize * 8)

def interruptCapture (self : Manager) (chip : AudioChip) (livesIn : RingMemory) : Except Fault AudioChip :=
  if self.isRecordingIO then chip.pcmInterruptCapture self.frameSize livesIn else .ok chip

def interruptPlayback (self : Manager) (chip : AudioChip) (dma : Nat → UInt8) : Except Fault AudioChip :=
  if self.isPlaybackIO then chip.pcmInterruptPlayback self.frameSize dma else .ok chip

/-- `AudioFrameTIC` with the interrupts of the chip between the begin and the end of the frame. -/
def audioFrameTICWithChip (self : Manager) (chip : AudioChip) (tick : Tick) (dma : Nat → UInt8) :
    Except Fault (Manager × AudioChip × RTPStreamsManager.SendLog) := do
  let ops := self.callbacks chip.alsaBuffers
  let streams ← self.streams.prepareBufferLivesAll ops
  if self.sendsOutgoing then do
    let sent ← streams.sendOutgoingPackets ops tick.skb chip.playbackBuffer
    let captured ← self.interruptCapture chip streams.livesIn
    let played ← self.interruptPlayback captured dma
    .ok (self.setStreams sent.1, played, sent.2)
  else .ok (self.setStreams streams, chip, [])

end Manager

def playbackFormats : List PCMFormat := [.dsdU8, .dsdU16BE, .dsdU32BE, .s16LE, .s24LE, .s24_3LE, .s32LE]
def captureFormats : List PCMFormat := [.s16LE, .s24LE, .s24_3LE, .s32LE]
def supportedRates : List UInt32 := [44100, 48000, 88200, 96000, 176400, 192000, 352800, 384000]
def aes67BaseSizes : List UInt32 := [6, 12, 16, 48, 64, 128, 192, 384, 512]

structure HwConstraints where
  formats : List PCMFormat
  minPTPFrameSize : UInt32
  maxPTPFrameSize : UInt32
  periodSizes : List UInt32
  periodBytesMin : UInt32
  periodBytesMax : UInt32
  periodsMax : UInt32

def supportedPeriodSizes (minPTPFrameSize maxPTPFrameSize srFactor : UInt32) : List UInt32 :=
  let scaled := (aes67BaseSizes.map (· * srFactor)).filter fun size =>
    minPTPFrameSize ≤ size ∧ size ≤ maxPTPFrameSize
  if scaled = [] then [minPTPFrameSize * srFactor] else scaled

def pcmOpen (formats : List PCMFormat) (self : Manager) : Except Fault HwConstraints :=
  let minPTPFrameSize := self.getMinInterruptsFrameSize
  let maxPTPFrameSize := self.getMaxInterruptsFrameSize
  let widths := formats.map (UInt32.ofNat ·.stride)
  if maxPTPFrameSize = 0 then .error .divideByZero
  else .ok {
    formats := formats
    minPTPFrameSize := minPTPFrameSize
    maxPTPFrameSize := maxPTPFrameSize
    periodSizes := supportedPeriodSizes minPTPFrameSize maxPTPFrameSize (getSamplerateFactor self.sampleRate)
    periodBytesMin := minPTPFrameSize * 1 * widths.foldl min 0xFFFFFFFF
    periodBytesMax := maxPTPFrameSize * UInt32.ofNat nbChannelsMax * widths.foldl max 0
    periodsMax := ringBufferSize / maxPTPFrameSize }

def ratesByFormat : PCMFormat → List UInt32
  | .dsdU8 => [352800]
  | .dsdU16LE | .dsdU16BE => [176400, 352800]
  | .dsdU32LE | .dsdU32BE => [88200, 176400, 352800]
  | _ => supportedRates

def periodFactor (rate : UInt32) : UInt32 :=
  if rate > 192000 ∧ rate ≤ 384000 then 8
  else if rate > 96000 ∧ rate ≤ 192000 then 4
  else if rate > 48000 ∧ rate ≤ 96000 then 2
  else 1

/-- The geometry that ALSA lets through. -/
structure HwConstraints.Allows (c : HwConstraints) (sub : PCMSubstream) : Prop where
  access : sub.interleaved = true
  format : sub.format ∈ c.formats
  rate : sub.rate ∈ supportedRates
  rateByFormat : sub.rate ∈ ratesByFormat sub.format
  channels : 1 ≤ sub.channels.toNat ∧ sub.channels.toNat ≤ nbChannelsMax
  periodSize : UInt32.ofNat sub.periodSize ∈ c.periodSizes ∧ sub.periodSize < 2 ^ 32
  periodSizeByRate : (c.minPTPFrameSize * periodFactor sub.rate).toNat ≤ sub.periodSize ∧
    sub.periodSize ≤ (c.maxPTPFrameSize * periodFactor sub.rate).toNat
  periodBytes : c.periodBytesMin.toNat ≤ sub.periodSize * sub.frameBytes ∧
    sub.periodSize * sub.frameBytes ≤ c.periodBytesMax.toNat
  periods : 2 ≤ sub.periods ∧ sub.periods ≤ c.periodsMax.toNat
  bufferSize : sub.periodSize * sub.periods ≤ sub.bufferSize ∧
    sub.bufferSize < sub.periodSize * (sub.periods + 1)
  bufferStep : c.minPTPFrameSize.toNat ∣ sub.bufferSize
  bufferBytes : sub.bufferBytes ≤ bufferBytesMax

end RavennaLkm
