import RavennaLkm.StreamsManager
import RavennaLkm.Lib.GuardedRun

/-!
The calls of RTP_streams_manager.c that ask: the status of a sink, the
statistics, and the new name of a stream, which nothing in the module calls.
-/
namespace RavennaLkm
open CheckedLoop

/-- `strncpy` to the first 63 bytes of the name. -/
def setStreamName (info : RTPStreamInfo) (cName : List UInt8) : RTPStreamInfo :=
  let copied := (cName.take 63).takeWhile (· ≠ 0)
  { info with cName := copied ++ List.replicate (63 - copied.length) 0 ++ info.cName.drop 63 }

/-- A reading of the status clears it at the next packet or tick. -/
def getRTPStreamStatus (s : RTPAudioStream) : RTPAudioStream × Option RTPStreamStatus :=
  if s.rtpStreamInfo.source then (s, none)
  else ({ s with streamStatusResetCounter := s.streamStatusResetCounter + 1 }, some s.streamStatus)

def getStatsSinkAheadTime (s : RTPAudioStream) : RTPAudioStream × UInt32 :=
  ({ s with sinkAheadTimeResetCounter := s.sinkAheadTimeResetCounter + 1 }, s.minSinkAheadTime / 10)

def getStatsSinkJitter (_ : RTPAudioStream) : UInt32 := 0

namespace RTPStreamsManager

def setName (self : RTPStreamsManager) (h : StreamHandle) (cName : List UInt8) : RTPStreamsManager :=
  self.setStream h
    { self.stream h with rtpStreamInfo := setStreamName (self.stream h).rtpStreamInfo cName }

def updateRTPStreamName (self : RTPStreamsManager) (h : StreamHandle) (cName : List UInt8) :
    RTPStreamsManager × Bool :=
  if h ∈ self.sourceOrdered ∨ h ∈ self.sinkOrdered 0 ∨ h ∈ self.sinkOrdered 1 then (self.setName h cName, true)
  else (self, false)

def statusIn (self : RTPStreamsManager) (h : StreamHandle) (l : List StreamHandle) :
    RTPStreamsManager × Option RTPStreamStatus :=
  if h ∈ l then
    let done := RavennaLkm.getRTPStreamStatus (self.stream h)
    (self.setStream h done.1, done.2)
  else (self, none)

def sinkStatus (self : RTPStreamsManager) (h : StreamHandle) : RTPStreamsManager × Option RTPStreamStatus :=
  let onNic0 := self.statusIn h (self.sinkOrdered 0)
  let onNic1 := onNic0.1.statusIn h (onNic0.1.sinkOrdered 1)
  (onNic1.1, onNic1.2 <|> onNic0.2)

/-- `get_RTPStream_status_`; `none` is the result 0. -/
def getRTPStreamStatus (self : RTPStreamsManager) (h : StreamHandle) :
    RTPStreamsManager × Option RTPStreamStatus :=
  let asSource := self.statusIn h self.sourceOrdered
  if asSource.2.isSome then asSource else asSource.1.sinkStatus h

def sinkAheadTimes : List StreamHandle → Bool → RTPStreamsManager × UInt32 → RTPStreamsManager × UInt32
  | [], _, acc => acc
  | h :: rest, first, (self, least) =>
    let stats := getStatsSinkAheadTime (self.stream h)
    sinkAheadTimes rest false (self.setStream h stats.1, if first then stats.2 else min least stats.2)

def getMinSinkAheadTime (self : RTPStreamsManager) : RTPStreamsManager × UInt32 :=
  let onNic0 := sinkAheadTimes (self.sinkOrdered 0) true (self, 0)
  sinkAheadTimes (onNic0.1.sinkOrdered 1) true onNic0

def sinkJitters (self : RTPStreamsManager) : List StreamHandle → Bool → UInt32 × UInt32 → UInt32 × UInt32
  | [], _, acc => acc
  | h :: rest, first, (least, most) =>
    let jitter := getStatsSinkJitter (self.stream h)
    self.sinkJitters rest false (if first then (jitter, jitter) else (min least jitter, max most jitter))

def getMinMaxSinksJitter (self : RTPStreamsManager) : UInt32 × UInt32 :=
  self.sinkJitters (self.sinkOrdered 1) true (self.sinkJitters (self.sinkOrdered 0) true (0, 0))

end RTPStreamsManager

inductive StreamsCall where
  | manage (op : StreamsOp)
  | updateName (h : StreamHandle) (cName : List UInt8)
  | status (h : StreamHandle)
  | numberOfSources
  | numberOfSinks
  | sinkStatsFromTIC (streamIdx : UInt8) (result : Bool)
  | minSinkAheadTime (result : Bool)
  | minMaxSinksJitter (result : Bool)

def StreamsCall.step (m : RTPStreamsManager) : StreamsCall → Except Fault RTPStreamsManager
  | .manage op => op.step m
  | .updateName h cName => .ok (m.updateRTPStreamName h cName).1
  | .status h => .ok (m.getRTPStreamStatus h).1
  | .minSinkAheadTime result => .ok (if result then m.getMinSinkAheadTime.1 else m)
  | .numberOfSources | .numberOfSinks | .sinkStatsFromTIC _ _ | .minMaxSinksJitter _ => .ok m

end RavennaLkm
