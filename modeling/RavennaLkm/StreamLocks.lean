import RavennaLkm.StreamsCalls
import RavennaLkm.ManagerInvariant
import RavennaLkm.Lib.LockedProgram

/-!
The calls of RTP_streams_manager.c with their spinlocks. Each call is the plain
one plus the locks it takes and gives back on its way, and its changes of the
lists and of the handlers' flags and counts.
-/
namespace RavennaLkm
open CheckedLoop LockedProgram LockedProgram.Program GuardedRun

/-- `m_csSourceRTPStreams` and `m_csSinkRTPStreams`. -/
inductive StreamLock where
  | source
  | sink
  deriving DecidableEq, Repr

def StreamHandle.lock : StreamHandle → StreamLock
  | .source _ => .source
  | .sink _ => .sink

def RTPStreamInfo.lock (info : RTPStreamInfo) : StreamLock := if info.source then .source else .sink

abbrev Locking (α : Type) : Type := Program StreamLock Fault RTPStreamsManager α

namespace Locking
open RTPStreamsManager (addable isFragment packetKey)

/-- Work that cannot fail. -/
def run {α : Type} (f : RTPStreamsManager → RTPStreamsManager × α) : Locking α :=
  work fun m => .ok ((f m).2, (f m).1)

def call {α : Type} (f : RTPStreamsManager → Except Fault (RTPStreamsManager × α)) : Locking α :=
  work fun m => (fun done => (done.2, done.1)) <$> f m

def createHere (info : RTPStreamInfo) (ops : RTPAudioStreamOps) (h : StreamHandle)
    (self : RTPStreamsManager) : RTPStreamsManager × Bool :=
  let created := create (self.stream h) info ops (self.ethNetfilter info.ifPortId.toNat) self.livesIn
  (self.storeStream h created.1 created.2.1, created.2.2)

def addHere (info : RTPStreamInfo) (ops : RTPAudioStreamOps) : Locking (Option StreamHandle) := do
  match (← read).usableHandler info with
  | none => return none
  | some h =>
    touching h.lock (·.acquire h)
    if ← run (createHere info ops h) then
      run fun m => (m.attachedStream h, ())
      if (← read).listFull info then return none
      else
        touching info.lock (·.insertStream info h)
        return some h
    else return none

def addRTPStream (info : RTPStreamInfo) (ops : RTPAudioStreamOps) : Locking (Option StreamHandle) :=
  if addable info then do
    lock info.lock
    let added ← addHere info ops
    unlock info.lock
    return added
  else return none

def releaseIfActive (l : StreamLock) (ops : RTPAudioStreamOps) (h : StreamHandle) : Locking Bool := do
  if ((← read).handlers h).active then
    touching l (·.release ops h)
    return true
  else return false

def removeSource (ops : RTPAudioStreamOps) (h : StreamHandle) : Locking Bool := do
  if h ∈ (← read).sourceOrdered then
    touching .source fun m => { m with sourceOrdered := m.sourceOrdered.erase h }
    releaseIfActive .source ops h
  else return false

def removeSink (ops : RTPAudioStreamOps) (h : StreamHandle) (nic : Nat) : Locking Bool := do
  if h ∈ (← read).sinkOrdered nic then
    touching .sink fun m =>
      { m with sinkOrdered := Function.update m.sinkOrdered nic ((m.sinkOrdered nic).erase h) }
    run fun m => (m.detachedStream h, ())
    releaseIfActive .sink ops h
  else return false

def removeRTPStream (ops : RTPAudioStreamOps) (h : StreamHandle) : Locking Bool := do
  lock .source
  let asSource ← removeSource ops h
  unlock .source
  if asSource then return true
  else
    lock .sink
    let onNic0 ← removeSink ops h 0
    let onNic1 ← removeSink ops h 1
    unlock .sink
    return onNic0 || onNic1

def removeAllRTPStreams (ops : RTPAudioStreamOps) : Locking Unit := do
  lock .source
  touching .source fun m => { m with sourceOrdered := [] }
  forEach (fun h : StreamHandle => touching h.lock (·.release ops h)) sourceSlots
  unlock .source
  lock .sink
  touching .sink fun m => { m with sinkOrdered := fun _ => [] }
  forEach (fun h : StreamHandle => touching h.lock (·.release ops h)) sinkSlots
  unlock .sink

/-- Both returns from inside a loop keep its lock. -/
def updateRTPStreamName (h : StreamHandle) (cName : List UInt8) : Locking Bool := do
  lock .source
  if h ∈ (← read).sourceOrdered then
    run fun m => (m.setName h cName, true)
  else
    unlock .source
    lock .sink
    let m ← read
    if h ∈ m.sinkOrdered 0 ∨ h ∈ m.sinkOrdered 1 then
      run fun m => (m.setName h cName, true)
    else
      unlock .sink
      return false

def getRTPStreamStatus (h : StreamHandle) : Locking (Option RTPStreamStatus) := do
  lock .source
  let asSource ← run fun m => m.statusIn h m.sourceOrdered
  unlock .source
  if asSource.isSome then return asSource
  else
    lock .sink
    let asSink ← run (·.sinkStatus h)
    unlock .sink
    return asSink

def getSinkStatsFromTIC (streamIdx : UInt8) (result : Bool) : Locking Bool :=
  if result then do
    lock .sink
    if streamIdx.toNat < ((← read).sinkOrdered 0).length then
      unlock .sink
      return true
    else
      unlock .sink
      return false
  else return false

def getMinSinkAheadTime (result : Bool) : Locking (Option UInt32) :=
  if result then do
    lock .sink
    let least ← run (·.getMinSinkAheadTime)
    unlock .sink
    return some least
  else return none

def getMinMaxSinksJitter (result : Bool) : Locking (Option (UInt32 × UInt32)) :=
  if result then do
    lock .sink
    let jitter := (← read).getMinMaxSinksJitter
    unlock .sink
    return some jitter
  else return none

def processUDPPacket (ops : RTPAudioStreamOps) (nicId : UInt8) (packet : List UInt8) : Locking Bool :=
  if nicId.toNat ≥ maxNics then return false
  else if headers : sizeofRTPPacketBase ≤ packet.length then
    let frame : RTPFrame := ⟨packet, headers⟩
    if isFragment frame.packetBase.ipv4Header then return false
    else do
      lock .sink
      let proceeded ← call fun m =>
        RTPStreamsManager.processEach ops frame (packetKey nicId frame.packetBase.toUDPPacketBase)
          (m.sinkOrdered nicId.toNat) m
      unlock .sink
      return proceeded
  else return false

/-- The sources are left under the lock of the sinks. -/
def prepareBufferLives (ops : RTPAudioStreamOps) : Locking Unit := do
  lock .source
  let rtpSourceStreams := (← read).sourceOrdered
  forEach (fun h : StreamHandle => touching h.lock (·.readerEnter h)) rtpSourceStreams
  unlock .source
  call fun m => (·, ()) <$> RTPStreamsManager.prepareEach ops rtpSourceStreams m
  lock .sink
  forEach (fun h : StreamHandle => touching h.lock (·.readerLeave ops h)) rtpSourceStreams
  unlock .sink
  lock .sink
  call fun m => (·, ()) <$> RTPStreamsManager.prepareEach ops (m.sinkOrdered 0) m
  call fun m => (·, ()) <$> RTPStreamsManager.prepareEach ops (m.sinkOrdered 1) m
  unlock .sink

def sendOutgoingPackets (ops : RTPAudioStreamOps) (skb : Bool) (livesOut : RingMemory) :
    Locking RTPStreamsManager.SendLog := do
  lock .source
  let rtpSourceStreams := (← read).sourceOrdered
  forEach (fun h : StreamHandle => touching h.lock (·.readerEnter h)) rtpSourceStreams
  unlock .source
  let sent ← call (RTPStreamsManager.sendEach ops skb livesOut rtpSourceStreams)
  lock .source
  forEach (fun h : StreamHandle => touching h.lock (·.readerLeave ops h)) rtpSourceStreams
  unlock .source
  -- the RTCP receiver reports, none of which is sent
  lock .sink
  unlock .sink
  return sent

end Locking

/-- A call with its locks; what it returns is left out. -/
def StreamsCall.locked : StreamsCall → Locking Unit
  | .manage (.add info ops) => do let _ ← Locking.addRTPStream info ops
  | .manage (.remove h ops) => do let _ ← Locking.removeRTPStream ops h
  | .manage (.removeAll ops) => Locking.removeAllRTPStreams ops
  | .manage (.sendOutgoing ops skb livesOut) => do let _ ← Locking.sendOutgoingPackets ops skb livesOut
  | .manage (.processUDP ops nicId packet) => do let _ ← Locking.processUDPPacket ops nicId packet
  | .manage (.prepareLives ops) => Locking.prepareBufferLives ops
  | .updateName h cName => do let _ ← Locking.updateRTPStreamName h cName
  | .status h => do let _ ← Locking.getRTPStreamStatus h
  | .sinkStatsFromTIC streamIdx result => do let _ ← Locking.getSinkStatsFromTIC streamIdx result
  | .minSinkAheadTime result => do let _ ← Locking.getMinSinkAheadTime result
  | .minMaxSinksJitter result => do let _ ← Locking.getMinMaxSinksJitter result
  -- read without a lock
  | .numberOfSources | .numberOfSinks => pure ()

namespace Locking

variable {m : RTPStreamsManager} {ops : RTPAudioStreamOps} {h : StreamHandle}

@[simp] theorem erase_run {α : Type} (f : RTPStreamsManager → RTPStreamsManager × α) :
    (run f).erase m = .ok ((f m).2, (f m).1) := erase_work _ m

@[simp] theorem erase_call {α : Type} (f : RTPStreamsManager → Except Fault (RTPStreamsManager × α)) :
    (call f).erase m = (fun done => (done.2, done.1)) <$> f m := erase_work _ m

theorem createHere_acquire (m : RTPStreamsManager) (info : RTPStreamInfo) (ops : RTPAudioStreamOps)
    (h : StreamHandle) : createHere info ops h (m.acquire h) = m.createIn info ops h := rfl

theorem erase_addRTPStream (m : RTPStreamsManager) (info : RTPStreamInfo) (ops : RTPAudioStreamOps) :
    (addRTPStream info ops).erase m = .ok ((m.addRTPStream info ops).2, (m.addRTPStream info ops).1) := by
  rw [addRTPStream, RTPStreamsManager.addRTPStream]
  split
  · simp only [erase_bind, erase_lock, ok_bind, addHere, erase_read]
    cases m.usableHandler info with
    | none => rfl
    | some h =>
      simp only [erase_bind, erase_touching, ok_bind, erase_run, createHere_acquire]
      by_cases created : (m.createIn info ops h).2 = true
      · simp only [created, if_true, erase_bind, erase_run, erase_read, ok_bind]
        split <;> rfl
      · simp only [created]
        rfl
  · rfl

theorem erase_releaseIfActive (m : RTPStreamsManager) (l : StreamLock) (ops : RTPAudioStreamOps)
    (h : StreamHandle) : (releaseIfActive l ops h).erase m =
      .ok ((m.releaseIfActive ops h).2, (m.releaseIfActive ops h).1) := by
  rw [releaseIfActive, RTPStreamsManager.releaseIfActive, erase_bind, erase_read, ok_bind]
  split <;> rfl

theorem erase_removeSource (m : RTPStreamsManager) (ops : RTPAudioStreamOps) (h : StreamHandle) :
    (removeSource ops h).erase m = .ok ((m.removeSource ops h).2, (m.removeSource ops h).1) := by
  rw [removeSource, RTPStreamsManager.removeSource, erase_bind, erase_read, ok_bind]
  split
  · rw [erase_bind, erase_touching, ok_bind, erase_releaseIfActive]
  · rfl

theorem erase_removeSink (m : RTPStreamsManager) (ops : RTPAudioStreamOps) (h : StreamHandle) (nic : Nat) :
    (removeSink ops h nic).erase m = .ok ((m.removeSink ops h nic).2, (m.removeSink ops h nic).1) := by
  rw [removeSink, RTPStreamsManager.removeSink, erase_bind, erase_read, ok_bind]
  split
  · simp only [erase_bind, erase_touching, erase_run, ok_bind, erase_releaseIfActive]
  · rfl

theorem erase_removeRTPStream (m : RTPStreamsManager) (ops : RTPAudioStreamOps) (h : StreamHandle) :
    (removeRTPStream ops h).erase m =
      .ok ((m.removeRTPStream ops h).2, (m.removeRTPStream ops h).1) := by
  rw [removeRTPStream, RTPStreamsManager.removeRTPStream]
  simp only [erase_bind, erase_lock, erase_unlock, ok_bind, erase_removeSource]
  obtain ⟨removed, asSource⟩ := m.removeSource ops h
  cases asSource with
  | true => rfl
  | false => simp [erase_removeSink]

theorem erase_removeAllRTPStreams (m : RTPStreamsManager) (ops : RTPAudioStreamOps) :
    (removeAllRTPStreams ops).erase m = .ok ((), m.removeAllRTPStreams ops) := by
  simp only [removeAllRTPStreams, erase_bind, erase_lock, erase_unlock, erase_touching, ok_bind,
    erase_forEach_touching]
  rfl

theorem erase_updateRTPStreamName (m : RTPStreamsManager) (h : StreamHandle) (cName : List UInt8) :
    (updateRTPStreamName h cName).erase m =
      .ok ((m.updateRTPStreamName h cName).2, (m.updateRTPStreamName h cName).1) := by
  simp only [updateRTPStreamName, RTPStreamsManager.updateRTPStreamName, erase_bind, erase_lock,
    erase_read, ok_bind]
  by_cases source : h ∈ m.sourceOrdered
  · simp [source]
  · simp only [source, if_false, erase_bind, erase_unlock, erase_lock, erase_read, ok_bind, false_or]
    split <;> rfl

theorem erase_getRTPStreamStatus (m : RTPStreamsManager) (h : StreamHandle) :
    (getRTPStreamStatus h).erase m = .ok ((m.getRTPStreamStatus h).2, (m.getRTPStreamStatus h).1) := by
  simp only [getRTPStreamStatus, RTPStreamsManager.getRTPStreamStatus, erase_bind, erase_lock,
    erase_unlock, erase_run, ok_bind]
  split <;> rfl

theorem erase_processUDPPacket (m : RTPStreamsManager) (ops : RTPAudioStreamOps) (nicId : UInt8)
    (packet : List UInt8) : (processUDPPacket ops nicId packet).erase m =
      (fun done => (done.2, done.1)) <$> m.processUDPPacket ops nicId packet := by
  rw [processUDPPacket, RTPStreamsManager.processUDPPacket]
  split
  · rfl
  · split
    · simp only
      split
      · rfl
      · simp only [erase_bind, erase_lock, erase_unlock, erase_call, ok_bind]
        cases RTPStreamsManager.processEach ops _ _ _ m <;> rfl
    · rfl

theorem erase_prepareBufferLives (m : RTPStreamsManager) (ops : RTPAudioStreamOps) :
    (prepareBufferLives ops).erase m = ((), ·) <$> m.prepareBufferLivesAll ops := by
  simp only [prepareBufferLives, RTPStreamsManager.prepareBufferLivesAll, erase_bind, erase_lock,
    erase_unlock, erase_read, erase_call, ok_bind, erase_forEach_touching]
  cases RTPStreamsManager.prepareEach ops m.sourceOrdered _ with
  | error e => rfl
  | ok sources =>
    simp only [ok_bind, Functor.map, Except.map]
    cases RTPStreamsManager.prepareEach ops _ _ with
    | error e => rfl
    | ok onNic0 =>
      simp only [ok_bind]
      cases RTPStreamsManager.prepareEach ops _ _ <;> rfl

theorem erase_sendOutgoingPackets (m : RTPStreamsManager) (ops : RTPAudioStreamOps) (skb : Bool)
    (livesOut : RingMemory) : (sendOutgoingPackets ops skb livesOut).erase m =
      (fun done => (done.2, done.1)) <$> m.sendOutgoingPackets ops skb livesOut := by
  simp only [sendOutgoingPackets, RTPStreamsManager.sendOutgoingPackets, erase_bind, erase_lock,
    erase_unlock, erase_read, erase_call, ok_bind, erase_forEach_touching]
  cases RTPStreamsManager.sendEach ops skb livesOut m.sourceOrdered _ <;> rfl

end Locking

theorem StreamsCall.locked_erase (m : RTPStreamsManager) (call : StreamsCall) :
    (·.2) <$> call.locked.erase m = call.step m := by
  cases call with
  | manage op =>
    cases op with
    | add info ops => simp only [locked, erase_bind, Locking.erase_addRTPStream]; rfl
    | remove h ops => simp only [locked, erase_bind, Locking.erase_removeRTPStream]; rfl
    | removeAll ops => simp only [locked, Locking.erase_removeAllRTPStreams, step, StreamsOp.step, map_ok]
    | sendOutgoing ops skb livesOut =>
      simp only [locked, erase_bind, Locking.erase_sendOutgoingPackets, step, StreamsOp.step]
      cases m.sendOutgoingPackets ops skb livesOut <;> rfl
    | processUDP ops nicId packet =>
      simp only [locked, erase_bind, Locking.erase_processUDPPacket, step, StreamsOp.step]
      cases m.processUDPPacket ops nicId packet <;> rfl
    | prepareLives ops =>
      simp only [locked, Locking.erase_prepareBufferLives, step, StreamsOp.step]
      cases m.prepareBufferLivesAll ops <;> rfl
  | updateName h cName => simp only [locked, erase_bind, Locking.erase_updateRTPStreamName]; rfl
  | status h => simp only [locked, erase_bind, Locking.erase_getRTPStreamStatus]; rfl
  | numberOfSources => rfl
  | numberOfSinks => rfl
  | sinkStatsFromTIC streamIdx result =>
    cases result with
    | false => rfl
    | true =>
      simp only [locked, Locking.getSinkStatsFromTIC, erase_bind, erase_lock, erase_read, ok_bind, if_true]
      split <;> rfl
  | minSinkAheadTime result => cases result <;> rfl
  | minMaxSinksJitter result => cases result <;> rfl

namespace RTPStreamsManager

def Sorted (m : RTPStreamsManager) : Prop := ∀ h ∈ m.sourceOrdered, h.lock = .source

variable {m m' : RTPStreamsManager} {h : StreamHandle} {ops : RTPAudioStreamOps}

theorem Sorted.mono (sorted : m.Sorted) (fewer : m'.sourceOrdered ⊆ m.sourceOrdered) : m'.Sorted :=
  fun h listed => sorted h (fewer listed)

theorem Sorted.congr (sorted : m.Sorted) (same : m'.sourceOrdered = m.sourceOrdered) : m'.Sorted :=
  sorted.mono (by rw [same]; exact List.Subset.refl _)

theorem usable_lock {info : RTPStreamInfo} (usable : m.usableHandler info = some h) :
    h.lock = info.lock := by
  have slot := (usableHandler_free usable).1
  rw [slots] at slot
  rw [RTPStreamInfo.lock]
  split at slot
  · obtain ⟨i, -, rfl⟩ := List.mem_map.mp slot
    rename_i source
    rw [if_pos source]
    rfl
  · obtain ⟨i, -, rfl⟩ := List.mem_map.mp slot
    rename_i sink
    rw [if_neg sink]
    rfl

theorem Sorted.add (sorted : m.Sorted) (info : RTPStreamInfo) (ops : RTPAudioStreamOps) :
    (m.addRTPStream info ops).1.Sorted := by
  rcases m.addRTPStream_cases info ops with ⟨same, -⟩ | ⟨h, -, usable, ends⟩
  · rw [same]
    exact sorted
  · have made : (m.createIn info ops h).1.Sorted := sorted
    have linked : ((m.createIn info ops h).1.attachedStream h).Sorted :=
      made.congr (attachedStream_lists _ h).1
    rcases ends with ⟨-, same⟩ | ⟨-, ⟨-, same⟩ | ⟨-, same⟩⟩
    · rw [same]
      exact made
    · rw [same]
      exact linked
    · rw [same, insertStream]
      split
      · rename_i source
        intro p listed
        rcases List.mem_cons.mp ((insertSource_perm _ h _).mem_iff.mp listed) with rfl | earlier
        · rw [usable_lock usable, RTPStreamInfo.lock, if_pos source]
        · exact linked p earlier
      · exact linked

theorem releaseIfActive_sourceOrdered (m : RTPStreamsManager) (ops : RTPAudioStreamOps) (h : StreamHandle) :
    (m.releaseIfActive ops h).1.sourceOrdered = m.sourceOrdered := by
  rw [releaseIfActive]
  split <;> rfl

theorem removeSink_sourceOrdered (m : RTPStreamsManager) (ops : RTPAudioStreamOps) (h : StreamHandle)
    (nic : Nat) : (m.removeSink ops h nic).1.sourceOrdered = m.sourceOrdered := by
  rw [removeSink]
  split
  · rw [releaseIfActive_sourceOrdered, (detachedStream_lists _ h).1]
  · rfl

theorem Sorted.remove (sorted : m.Sorted) (ops : RTPAudioStreamOps) (h : StreamHandle) :
    (m.removeRTPStream ops h).1.Sorted := by
  have asSource : (m.removeSource ops h).1.Sorted := by
    rw [removeSource]
    split
    · apply sorted.mono
      rw [releaseIfActive_sourceOrdered]
      exact List.erase_subset
    · exact sorted
  rw [removeRTPStream]
  simp only
  split
  · exact asSource
  · exact asSource.congr (by rw [removeSink_sourceOrdered, removeSink_sourceOrdered])

theorem foldl_sourceOrdered {f : RTPStreamsManager → StreamHandle → RTPStreamsManager}
    (keeps : ∀ m h, (f m h).sourceOrdered = m.sourceOrdered) (l : List StreamHandle) (m : RTPStreamsManager) :
    (l.foldl f m).sourceOrdered = m.sourceOrdered := by
  induction l generalizing m with
  | nil => rfl
  | cons h rest ih => rw [List.foldl_cons, ih, keeps]

theorem removeAll_sourceOrdered (m : RTPStreamsManager) (ops : RTPAudioStreamOps) :
    (m.removeAllRTPStreams ops).sourceOrdered = [] := by
  have released (l : List StreamHandle) (m : RTPStreamsManager) :
      (l.foldl (release · ops ·) m).sourceOrdered = m.sourceOrdered :=
    foldl_sourceOrdered (f := (release · ops ·)) (fun _ _ => rfl) l m
  rw [removeAllRTPStreams, released]
  dsimp only
  rw [released]

theorem sendEach_sourceOrdered {skb : Bool} {livesOut : RingMemory} {done : RTPStreamsManager × SendLog}
    (l : List StreamHandle) (sent : sendEach ops skb livesOut l m = .ok done) :
    done.1.sourceOrdered = m.sourceOrdered := by
  induction l generalizing m done with
  | nil =>
    cases sent
    rfl
  | cons h rest ih =>
    obtain ⟨first, run, others⟩ := bind_eq_ok.mp sent
    obtain ⟨later, run', last⟩ := bind_eq_ok.mp others
    cases last
    obtain ⟨st, -, ends⟩ := bind_eq_ok.mp run
    have here : first.1.sourceOrdered = m.sourceOrdered := by
      simp only at ends
      split at ends <;> cases ends <;> rfl
    exact (ih run').trans here

theorem Sorted.send {skb : Bool} {livesOut : RingMemory} {done : RTPStreamsManager × SendLog}
    (sorted : m.Sorted) (sent : m.sendOutgoingPackets ops skb livesOut = .ok done) : done.1.Sorted := by
  obtain ⟨pass, run, last⟩ := bind_eq_ok.mp sent
  cases last
  apply sorted.congr
  rw [foldl_sourceOrdered (f := (readerLeave · ops ·)) (fun _ _ => rfl), sendEach_sourceOrdered _ run]
  exact foldl_sourceOrdered (f := readerEnter) (fun _ _ => rfl) _ _

theorem Sorted.prepare (sorted : m.Sorted) (prepared : m.prepareBufferLivesAll ops = .ok m') : m'.Sorted := by
  obtain ⟨pass, run, later⟩ := bind_eq_ok.mp prepared
  obtain ⟨onNic0, run0, run1⟩ := bind_eq_ok.mp later
  apply sorted.congr
  rw [(prepareEach_same _ run1).sourceOrdered, (prepareEach_same _ run0).sourceOrdered,
    foldl_sourceOrdered (f := (readerLeave · ops ·)) (fun _ _ => rfl),
    (prepareEach_same _ run).sourceOrdered]
  exact foldl_sourceOrdered (f := readerEnter) (fun _ _ => rfl) _ _

theorem statusIn_sourceOrdered (m : RTPStreamsManager) (h : StreamHandle) (l : List StreamHandle) :
    (m.statusIn h l).1.sourceOrdered = m.sourceOrdered := by
  rw [statusIn]
  split <;> rfl

theorem sinkAheadTimes_sourceOrdered (l : List StreamHandle) (first : Bool) (m : RTPStreamsManager)
    (least : UInt32) : (sinkAheadTimes l first (m, least)).1.sourceOrdered = m.sourceOrdered := by
  induction l generalizing first m least with
  | nil => rfl
  | cons h rest ih => rw [sinkAheadTimes, ih]; rfl

theorem Sorted.step {call : StreamsCall} (sorted : m.Sorted) (next : call.step m = .ok m') : m'.Sorted := by
  cases call with
  | manage op =>
    cases op with
    | add info ops =>
      cases next
      exact sorted.add info ops
    | remove h ops =>
      cases next
      exact sorted.remove ops h
    | removeAll ops =>
      cases next
      exact sorted.mono (by simp [removeAll_sourceOrdered])
    | sendOutgoing ops skb livesOut =>
      obtain ⟨done, sent, last⟩ := map_eq_ok.mp next
      cases last
      exact sorted.send sent
    | processUDP ops nic packet =>
      obtain ⟨done, processed, last⟩ := map_eq_ok.mp next
      cases last
      exact sorted.congr (processUDPPacket_same processed).sourceOrdered
    | prepareLives ops => exact sorted.prepare next
  | updateName h cName =>
    cases next
    rw [updateRTPStreamName]
    split <;> exact sorted
  | status h =>
    cases next
    rw [getRTPStreamStatus]
    split
    · exact sorted.congr (statusIn_sourceOrdered m h _)
    · apply sorted.congr
      rw [sinkStatus, statusIn_sourceOrdered, statusIn_sourceOrdered, statusIn_sourceOrdered]
  | minSinkAheadTime result =>
    cases next
    cases result with
    | false => exact sorted
    | true => exact sorted.congr (by
        rw [if_pos rfl, getMinSinkAheadTime, sinkAheadTimes_sourceOrdered, sinkAheadTimes_sourceOrdered])
  | numberOfSources | numberOfSinks | sinkStatsFromTIC _ _ | minMaxSinksJitter _ =>
    cases next
    exact sorted

/-- States that some history of calls reaches, the asking ones included. -/
def Called (m : RTPStreamsManager) : Prop :=
  ∃ macAddress livesIn calls, Run StreamsCall.step (fun _ _ => True) (init macAddress livesIn) calls m

theorem Reachable.called (reached : m.Reachable) : m.Called := by
  obtain ⟨macAddress, livesIn, ops, run⟩ := reached
  refine ⟨macAddress, livesIn, ops.map .manage, ?_⟩
  induction run with
  | nil => exact .nil _
  | snoc front ok next ih =>
    rw [List.map_append]
    exact ih.snoc trivial next

theorem Called.sorted (called : m.Called) : m.Sorted := by
  obtain ⟨macAddress, livesIn, calls, run⟩ := called
  exact run.invariant Sorted (by simp [Sorted, init]) fun _ _ _ sorted _ next => sorted.step next

end RTPStreamsManager

end RavennaLkm
