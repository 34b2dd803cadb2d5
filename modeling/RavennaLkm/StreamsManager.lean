import RavennaLkm.Receive
import RavennaLkm.Transmit

/-!
RTP_streams_manager.c: two arrays of stream slots, the ordered list of sources,
one ordered list of sinks for each NIC, and the ST 2022-7 attachment of a stream
to the one with the same id. The second array index of the source is folded
into `StreamHandle`; a handle that is no slot stands for any other value of
`hRTPStream`.
-/
namespace RavennaLkm
open CheckedLoop

structure RTPStreamsManager where
  handlers : StreamHandle → RTPAudioStreamHandler
  ethNetfilter : Nat → EtherTubeNetfilter
  sourceOrdered : List StreamHandle := []
  sinkOrdered : Nat → List StreamHandle := fun _ => []
  livesIn : RingMemory

def sourceSlots : List StreamHandle := (List.range (maxSourceStreams * maxNics * 2)).map .source
def sinkSlots : List StreamHandle := (List.range (maxSinkStreams * maxNics * 2)).map .sink

/-- The NIC that `init_` gives to a slot. -/
def slotNic : StreamHandle → Nat
  | .source slot => slot / (maxSourceStreams * 2)
  | .sink slot => slot / (maxSinkStreams * 2)

namespace RTPStreamsManager

def init (macAddress : Nat → MACAddress) (livesIn : RingMemory) : RTPStreamsManager :=
  let ethNetfilter := fun n => ⟨UInt8.ofNat n, macAddress n⟩
  { handlers := fun h => .init (ethNetfilter (slotNic h)), ethNetfilter := ethNetfilter
    livesIn := livesIn }

def stream (self : RTPStreamsManager) (h : StreamHandle) : RTPAudioStream :=
  (self.handlers h).rtpAudioStream

def setHandler (self : RTPStreamsManager) (h : StreamHandle) (x : RTPAudioStreamHandler) :
    RTPStreamsManager :=
  { self with handlers := Function.update self.handlers h x }

def setStream (self : RTPStreamsManager) (h : StreamHandle) (s : RTPAudioStream) : RTPStreamsManager :=
  self.setHandler h { self.handlers h with rtpAudioStream := s }

def storeStream (self : RTPStreamsManager) (h : StreamHandle) (s : RTPAudioStream) (mem : RingMemory) :
    RTPStreamsManager :=
  { self.setStream h s with livesIn := mem }

def setAttached (self : RTPStreamsManager) (h : StreamHandle) (p : Option StreamHandle) :
    RTPStreamsManager :=
  self.setStream h { self.stream h with attachedStream := p }

def id (self : RTPStreamsManager) (h : StreamHandle) : UInt32 := (self.stream h).rtpStreamInfo.id

def isSource (self : RTPStreamsManager) (h : StreamHandle) : Bool :=
  (self.stream h).rtpStreamInfo.source

def nicId (self : RTPStreamsManager) (h : StreamHandle) : UInt8 := (self.stream h).ethNetfilter.nicId

def attached (self : RTPStreamsManager) (h : StreamHandle) : Option StreamHandle :=
  (self.stream h).attachedStream

def searchedList (self : RTPStreamsManager) (h : StreamHandle) : List StreamHandle :=
  if self.isSource h then self.sourceOrdered
  else self.sinkOrdered (if self.nicId h = 0 then 1 else 0)

def matching (self : RTPStreamsManager) (h : StreamHandle) : Option StreamHandle :=
  (self.searchedList h).find? fun p => self.id h == self.id p

def attachedStream (self : RTPStreamsManager) (h : StreamHandle) : RTPStreamsManager :=
  match self.matching h with
  | none => self
  | some p => (self.setAttached h (some p)).setAttached p (some h)

def detachedStream (self : RTPStreamsManager) (h : StreamHandle) : RTPStreamsManager :=
  match self.matching h with
  | none => self
  | some p => (self.setAttached h none).setAttached p none

def slots (source : Bool) : List StreamHandle := if source then sourceSlots else sinkSlots

/-- The first free slot of the NIC. -/
def usableHandler (self : RTPStreamsManager) (info : RTPStreamInfo) : Option StreamHandle :=
  (slots info.source).find? fun h =>
    (self.handlers h).isFree && (self.handlers h).nicId.toUInt32 == info.ifPortId

def acquire (self : RTPStreamsManager) (h : StreamHandle) : RTPStreamsManager :=
  self.setHandler h (self.handlers h).acquire

def listFull (self : RTPStreamsManager) (info : RTPStreamInfo) : Bool :=
  if info.source then self.sourceOrdered.length == maxSourceStreams
  else (self.sinkOrdered info.ifPortId.toUInt8.toNat).length == maxSinkStreams

def insertSource (self : RTPStreamsManager) (h : StreamHandle) : List StreamHandle → List StreamHandle
  | [] => [h]
  | p :: rest =>
    if getNbOfLivesOut (self.stream h) > getNbOfLivesOut (self.stream p) then h :: p :: rest
    else p :: self.insertSource h rest

def insertStream (self : RTPStreamsManager) (info : RTPStreamInfo) (h : StreamHandle) :
    RTPStreamsManager :=
  if info.source then { self with sourceOrdered := self.insertSource h self.sourceOrdered }
  else
    let nic := info.ifPortId.toUInt8.toNat
    { self with sinkOrdered := Function.update self.sinkOrdered nic (self.sinkOrdered nic ++ [h]) }

/-- The checks before a slot is searched. -/
def addable (info : RTPStreamInfo) : Bool :=
  checkStructVersion info && isValid info && info.ifPortId.toUInt8.toNat < maxNics

def createIn (self : RTPStreamsManager) (info : RTPStreamInfo) (ops : RTPAudioStreamOps)
    (h : StreamHandle) : RTPStreamsManager × Bool :=
  let self := self.acquire h
  let created := create (self.stream h) info ops (self.ethNetfilter info.ifPortId.toNat) self.livesIn
  (self.storeStream h created.1 created.2.1, created.2.2)

/-- `none` is the result 0. -/
def addRTPStream (self : RTPStreamsManager) (info : RTPStreamInfo) (ops : RTPAudioStreamOps) :
    RTPStreamsManager × Option StreamHandle :=
  if addable info then
    match self.usableHandler info with
    | none => (self, none)
    | some h =>
      let made := self.createIn info ops h
      if made.2 then
        let self := made.1.attachedStream h
        if self.listFull info then (self, none) else (self.insertStream info h, some h)
      else (made.1, none)
  else (self, none)

def release (self : RTPStreamsManager) (ops : RTPAudioStreamOps) (h : StreamHandle) : RTPStreamsManager :=
  let released := (self.handlers h).release ops self.livesIn
  { self.setHandler h released.1 with livesIn := released.2 }

def releaseIfActive (self : RTPStreamsManager) (ops : RTPAudioStreamOps) (h : StreamHandle) :
    RTPStreamsManager × Bool :=
  if (self.handlers h).active then (self.release ops h, true) else (self, false)

def removeSource (self : RTPStreamsManager) (ops : RTPAudioStreamOps) (h : StreamHandle) :
    RTPStreamsManager × Bool :=
  if h ∈ self.sourceOrdered then
    { self with sourceOrdered := self.sourceOrdered.erase h }.releaseIfActive ops h
  else (self, false)

def removeSink (self : RTPStreamsManager) (ops : RTPAudioStreamOps) (h : StreamHandle) (nic : Nat) :
    RTPStreamsManager × Bool :=
  if h ∈ self.sinkOrdered nic then
    let self := { self with
      sinkOrdered := Function.update self.sinkOrdered nic ((self.sinkOrdered nic).erase h) }
    (self.detachedStream h).releaseIfActive ops h
  else (self, false)

def removeRTPStream (self : RTPStreamsManager) (ops : RTPAudioStreamOps) (h : StreamHandle) :
    RTPStreamsManager × Bool :=
  let asSource := self.removeSource ops h
  if asSource.2 then asSource
  else
    let onNic0 := asSource.1.removeSink ops h 0
    let onNic1 := onNic0.1.removeSink ops h 1
    (onNic1.1, onNic0.2 || onNic1.2)

def removeAllRTPStreams (self : RTPStreamsManager) (ops : RTPAudioStreamOps) : RTPStreamsManager :=
  let self := sourceSlots.foldl (release · ops ·) { self with sourceOrdered := [] }
  sinkSlots.foldl (release · ops ·) { self with sinkOrdered := fun _ => [] }

def readerEnter (self : RTPStreamsManager) (h : StreamHandle) : RTPStreamsManager :=
  self.setHandler h (self.handlers h).readerEnter

def readerLeave (self : RTPStreamsManager) (ops : RTPAudioStreamOps) (h : StreamHandle) :
    RTPStreamsManager :=
  let left := (self.handlers h).readerLeave ops self.livesIn
  { self.setHandler h left.1 with livesIn := left.2 }

abbrev SendLog := List (StreamHandle × Option TransmittedPacket)

def sentBy (log : SendLog) (h : StreamHandle) : List (Option TransmittedPacket) :=
  (log.filter (·.1 = h)).map (·.2)

def sendFrom (self : RTPStreamsManager) (ops : RTPAudioStreamOps) (skb : Bool) (livesOut : RingMemory)
    (h : StreamHandle) : Except Fault (RTPStreamsManager × SendLog) := do
  let done ← sendRTPAudioPackets (self.stream h) ((self.attached h).map self.stream) ops skb livesOut
  let sent := done.sent.map (h, ·)
  match self.attached h, done.partner with
  | some p, some partner =>
    .ok ((self.setStream h done.stream).setStream p partner, sent ++ done.partnerSent.map (p, ·))
  | _, _ => .ok (self.setStream h done.stream, sent)

def sendEach (ops : RTPAudioStreamOps) (skb : Bool) (livesOut : RingMemory) :
    List StreamHandle → RTPStreamsManager → Except Fault (RTPStreamsManager × SendLog)
  | [], self => .ok (self, [])
  | h :: rest, self => do
    let first ← self.sendFrom ops skb livesOut h
    let later ← sendEach ops skb livesOut rest first.1
    .ok (later.1, first.2 ++ later.2)

def sendOutgoingPackets (self : RTPStreamsManager) (ops : RTPAudioStreamOps) (skb : Bool)
    (livesOut : RingMemory) : Except Fault (RTPStreamsManager × SendLog) := do
  let rtpSourceStreams := self.sourceOrdered
  let done ← sendEach ops skb livesOut rtpSourceStreams (rtpSourceStreams.foldl readerEnter self)
  .ok (rtpSourceStreams.foldl (readerLeave · ops ·) done.1, done.2)

def partnerOf (self : RTPStreamsManager) (h : StreamHandle) : Option RTPStream :=
  (self.attached h).map fun p => (self.stream p).toRTPStream

def processOne (self : RTPStreamsManager) (ops : RTPAudioStreamOps) (frame : RTPFrame)
    (h : StreamHandle) : Except Fault (RTPStreamsManager × Bool) := do
  let done ← processRTPAudioPacket (self.stream h) (self.partnerOf h) ops frame self.livesIn
  .ok (self.storeStream h done.1 done.2.1, done.2.2)

def processEach (ops : RTPAudioStreamOps) (frame : RTPFrame) (key : UInt64) :
    List StreamHandle → RTPStreamsManager → Except Fault (RTPStreamsManager × Bool)
  | [], self => .ok (self, false)
  | h :: rest, self =>
    if key = getKey (self.stream h).rtpStreamInfo then do
      let done ← self.processOne ops frame h
      let later ← processEach ops frame key rest done.1
      .ok (later.1, done.2 || later.2)
    else processEach ops frame key rest self

def isFragment (ip : IPV4Header) : Bool :=
  mtalSwap16 ip.offset &&& 0x0FFF ≠ 0 || mtalSwap16 ip.offset &&& 0x2000 ≠ 0

def packetKey (nicId : UInt8) (p : UDPPacketBase) : UInt64 :=
  makeKey nicId p.ipv4Header.destIP p.udpHeader.destPort

def processUDPPacket (self : RTPStreamsManager) (ops : RTPAudioStreamOps) (nicId : UInt8)
    (packet : List UInt8) : Except Fault (RTPStreamsManager × Bool) :=
  if nicId.toNat ≥ maxNics then .ok (self, false)
  else if headers : sizeofRTPPacketBase ≤ packet.length then
    let frame : RTPFrame := ⟨packet, headers⟩
    if isFragment frame.packetBase.ipv4Header then .ok (self, false)
    else
      processEach ops frame (packetKey nicId frame.packetBase.toUDPPacketBase)
        (self.sinkOrdered nicId.toNat) self
  else .ok (self, false)

def prepareEach (ops : RTPAudioStreamOps) :
    List StreamHandle → RTPStreamsManager → Except Fault RTPStreamsManager
  | [], self => .ok self
  | h :: rest, self => do
    let done ← prepareBufferLives (self.stream h) (self.partnerOf h) ops self.livesIn
    prepareEach ops rest (self.storeStream h done.1 done.2)

def prepareBufferLivesAll (self : RTPStreamsManager) (ops : RTPAudioStreamOps) :
    Except Fault RTPStreamsManager := do
  let rtpSourceStreams := self.sourceOrdered
  let done ← prepareEach ops rtpSourceStreams (rtpSourceStreams.foldl readerEnter self)
  let self := rtpSourceStreams.foldl (readerLeave · ops ·) done
  let self ← prepareEach ops (self.sinkOrdered 0) self
  prepareEach ops (self.sinkOrdered 1) self

end RTPStreamsManager

inductive StreamsOp where
  | add (info : RTPStreamInfo) (ops : RTPAudioStreamOps)
  | remove (h : StreamHandle) (ops : RTPAudioStreamOps)
  | removeAll (ops : RTPAudioStreamOps)
  | sendOutgoing (ops : RTPAudioStreamOps) (skb : Bool) (livesOut : RingMemory)
  | processUDP (ops : RTPAudioStreamOps) (nicId : UInt8) (packet : List UInt8)
  | prepareLives (ops : RTPAudioStreamOps)

def StreamsOp.step (m : RTPStreamsManager) : StreamsOp → Except Fault RTPStreamsManager
  | .add info ops => .ok (m.addRTPStream info ops).1
  | .remove h ops => .ok (m.removeRTPStream ops h).1
  | .removeAll ops => .ok (m.removeAllRTPStreams ops)
  | .sendOutgoing ops skb livesOut => (·.1) <$> m.sendOutgoingPackets ops skb livesOut
  | .processUDP ops nicId packet => (·.1) <$> m.processUDPPacket ops nicId packet
  | .prepareLives ops => m.prepareBufferLivesAll ops

end RavennaLkm
