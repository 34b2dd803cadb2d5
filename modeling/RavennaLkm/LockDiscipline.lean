import RavennaLkm.StreamLocks
import RavennaLkm.Dispatch
import RavennaLkm.Attachment

/-!
The lock discipline of the streams manager: which calls give back the locks
they take and change the lists and handlers only under the right one.
-/
namespace RavennaLkm
open CheckedLoop LockedProgram LockedProgram.Program GuardedRun

namespace Locking

variable {m : RTPStreamsManager} {ops : RTPAudioStreamOps} {h : StreamHandle} {held : List StreamLock}

theorem run_balanced {α : Type} (f : RTPStreamsManager → RTPStreamsManager × α) : Balanced held (run f) :=
  .work _

theorem call_balanced {α : Type} (f : RTPStreamsManager → Except Fault (RTPStreamsManager × α)) :
    Balanced held (call f) := .work _

theorem addHere_keeps (info : RTPStreamInfo) (ops : RTPAudioStreamOps) : Balanced [info.lock] (addHere info ops) := by
  apply Keeps.bind .read
  intro m
  cases usable : m.usableHandler info with
  | none => exact .pure fun _ _ => trivial
  | some h =>
    have mine : h.lock ∈ [info.lock] := by
      rw [RTPStreamsManager.usable_lock usable]
      exact List.mem_singleton_self _
    refine Keeps.bind (.touching mine fun _ _ => trivial) fun _ => Keeps.bind (run_balanced _) fun created => ?_
    apply Balanced.ite
    · refine (run_balanced _).bind fun _ => Balanced.read.bind fun m => ?_
      apply Balanced.ite (.pure _)
      exact (Balanced.touching _ (List.mem_singleton_self _)).bind fun _ => .pure _
    · exact .pure _

theorem addRTPStream_balanced (info : RTPStreamInfo) (ops : RTPAudioStreamOps) :
    Balanced [] (addRTPStream info ops) := by
  rw [addRTPStream]
  apply Balanced.ite
  · exact .region List.not_mem_nil (addHere_keeps info ops) fun _ => .pure _
  · exact .pure _

theorem releaseIfActive_balanced (l : StreamLock) (ops : RTPAudioStreamOps) (h : StreamHandle) :
    Balanced [l] (releaseIfActive l ops h) := by
  apply Balanced.bind .read
  intro m
  apply Balanced.ite
  · exact (Balanced.touching _ (List.mem_singleton_self l)).bind fun _ => .pure _
  · exact .pure _

theorem removeSource_balanced (ops : RTPAudioStreamOps) (h : StreamHandle) :
    Balanced [.source] (removeSource ops h) := by
  apply Balanced.bind .read
  intro m
  apply Balanced.ite
  · exact (Balanced.touching _ (List.mem_singleton_self _)).bind fun _ => releaseIfActive_balanced _ ops h
  · exact .pure _

theorem removeSink_balanced (ops : RTPAudioStreamOps) (h : StreamHandle) (nic : Nat) :
    Balanced [.sink] (removeSink ops h nic) := by
  apply Balanced.bind .read
  intro m
  apply Balanced.ite
  · refine (Balanced.touching _ (List.mem_singleton_self _)).bind fun _ => ?_
    exact (run_balanced _).bind fun _ => releaseIfActive_balanced _ ops h
  · exact .pure _

theorem removeRTPStream_balanced (ops : RTPAudioStreamOps) (h : StreamHandle) :
    Balanced [] (removeRTPStream ops h) := by
  apply Balanced.region List.not_mem_nil (removeSource_balanced ops h)
  intro asSource
  apply Balanced.ite (.pure _)
  apply Keeps.bind (.lock List.not_mem_nil)
  intro _
  refine Keeps.bind (removeSink_balanced ops h 0) fun onNic0 => ?_
  refine Keeps.bind (removeSink_balanced ops h 1) fun onNic1 => ?_
  exact Keeps.bind .unlock fun _ => .pure fun _ _ => trivial

theorem releaseEach_balanced (l : StreamLock) (ops : RTPAudioStreamOps) {slots : List StreamHandle}
    (sorted : ∀ h ∈ slots, h.lock = l) :
    Balanced [l] (forEach (fun h : StreamHandle => touching h.lock (·.release ops h)) slots : Locking Unit) :=
  .forEach slots fun h slot => .touching _ (by rw [sorted h slot]; exact List.mem_singleton_self l)

theorem sourceSlots_lock : ∀ h ∈ sourceSlots, h.lock = .source := by
  intro h slot
  obtain ⟨i, -, rfl⟩ := List.mem_map.mp slot
  rfl

theorem sinkSlots_lock : ∀ h ∈ sinkSlots, h.lock = .sink := by
  intro h slot
  obtain ⟨i, -, rfl⟩ := List.mem_map.mp slot
  rfl

theorem removeAllRTPStreams_balanced (ops : RTPAudioStreamOps) : Balanced [] (removeAllRTPStreams ops) := by
  apply Keeps.bind (.lock List.not_mem_nil)
  intro _
  refine Keeps.bind (Balanced.touching _ (List.mem_singleton_self _)) fun _ => ?_
  refine Keeps.bind (releaseEach_balanced _ ops sourceSlots_lock) fun _ => Keeps.bind .unlock fun _ => ?_
  apply Keeps.bind (.lock List.not_mem_nil)
  intro _
  refine Keeps.bind (Balanced.touching _ (List.mem_singleton_self _)) fun _ => ?_
  exact Keeps.bind (releaseEach_balanced _ ops sinkSlots_lock) fun _ => .unlock

theorem getRTPStreamStatus_balanced (h : StreamHandle) : Balanced [] (getRTPStreamStatus h) := by
  apply Balanced.region List.not_mem_nil (run_balanced _)
  intro asSource
  apply Balanced.ite (.pure _)
  exact .region List.not_mem_nil (run_balanced _) fun _ => .pure _

theorem getSinkStatsFromTIC_balanced (streamIdx : UInt8) (result : Bool) :
    Balanced [] (getSinkStatsFromTIC streamIdx result) := by
  rw [getSinkStatsFromTIC]
  apply Balanced.ite
  · refine Keeps.bind (.lock List.not_mem_nil) fun _ => Keeps.bind Balanced.read fun m => ?_
    apply Keeps.ite
    · exact fun _ => Keeps.bind .unlock fun _ => .pure fun _ _ => trivial
    · exact fun _ => Keeps.bind .unlock fun _ => .pure fun _ _ => trivial
  · exact .pure _

theorem getMinSinkAheadTime_balanced (result : Bool) : Balanced [] (getMinSinkAheadTime result) := by
  rw [getMinSinkAheadTime]
  apply Balanced.ite
  · exact .region List.not_mem_nil (run_balanced _) fun _ => .pure _
  · exact .pure _

theorem getMinMaxSinksJitter_balanced (result : Bool) : Balanced [] (getMinMaxSinksJitter result) := by
  rw [getMinMaxSinksJitter]
  apply Balanced.ite
  · exact .region List.not_mem_nil .read fun _ => .pure _
  · exact .pure _

theorem processUDPPacket_balanced (ops : RTPAudioStreamOps) (nicId : UInt8) (packet : List UInt8) :
    Balanced [] (processUDPPacket ops nicId packet) := by
  rw [processUDPPacket]
  apply Balanced.ite (.pure _)
  split
  · apply Balanced.ite (.pure _)
    exact .region List.not_mem_nil (call_balanced _) fun _ => .pure _
  · exact .pure _

theorem readers_balanced (f : StreamHandle → RTPStreamsManager → RTPStreamsManager) {l : List StreamHandle}
    (sorted : ∀ h ∈ l, h.lock = .source) :
    Balanced [.source] (forEach (fun h : StreamHandle => touching h.lock (f h)) l : Locking Unit) :=
  .forEach l fun h listed => .touching _ (by rw [sorted h listed]; exact List.mem_singleton_self _)

theorem readers_break (f : StreamHandle → RTPStreamsManager → RTPStreamsManager) {l : List StreamHandle}
    (sorted : ∀ h ∈ l, h.lock = .source) (some_ : l ≠ []) {P : RTPStreamsManager → Prop} :
    Breaks P [.sink] (forEach (fun h : StreamHandle => touching h.lock (f h)) l : Locking Unit) := by
  cases l with
  | nil => exact absurd rfl some_
  | cons h rest =>
    apply Breaks.first
    apply Breaks.touching
    rw [sorted h (List.mem_cons_self ..)]
    decide

theorem sendOutgoingPackets_keeps (ops : RTPAudioStreamOps) (skb : Bool) (livesOut : RingMemory) :
    Keeps RTPStreamsManager.Sorted [] (sendOutgoingPackets ops skb livesOut) [] fun _ _ => True := by
  refine Keeps.bind (.lock List.not_mem_nil) fun _ => Keeps.bind .read fun m => ?_
  apply Keeps.given (m.Sorted) (by rintro s ⟨rfl, sorted⟩; exact sorted)
  intro sorted
  apply Keeps.forget
  refine Keeps.bind (readers_balanced _ sorted) fun _ => Keeps.bind .unlock fun _ => ?_
  refine Keeps.bind (call_balanced _) fun sent => Keeps.bind (.lock List.not_mem_nil) fun _ => ?_
  refine Keeps.bind (readers_balanced _ sorted) fun _ => Keeps.bind .unlock fun _ => ?_
  refine Keeps.bind (.lock List.not_mem_nil) fun _ => Keeps.bind .unlock fun _ => ?_
  exact .pure fun _ _ => trivial

theorem prepareBufferLives_keeps (ops : RTPAudioStreamOps) :
    Keeps (fun m => m.sourceOrdered = []) [] (prepareBufferLives ops) [] fun _ _ => True := by
  refine Keeps.bind (.lock List.not_mem_nil) fun _ => Keeps.bind .read fun m => ?_
  apply Keeps.given (m.sourceOrdered = []) (by rintro s ⟨rfl, none_⟩; exact none_)
  intro none_
  rw [none_]
  apply Keeps.forget
  refine Keeps.bind (Balanced.pure ()) fun _ => Keeps.bind .unlock fun _ => ?_
  refine Keeps.bind (call_balanced _) fun _ => Keeps.bind (.lock List.not_mem_nil) fun _ => ?_
  refine Keeps.bind (Balanced.pure ()) fun _ => Keeps.bind .unlock fun _ => ?_
  refine Keeps.bind (.lock List.not_mem_nil) fun _ => Keeps.bind (call_balanced _) fun _ => ?_
  exact Keeps.bind (call_balanced _) fun _ => .unlock

theorem prepareBufferLives_breaks (ops : RTPAudioStreamOps) :
    Breaks (fun m => m.Sorted ∧ m.sourceOrdered ≠ []) [] (prepareBufferLives ops) := by
  refine Breaks.after (.lock List.not_mem_nil) fun _ => Breaks.after .read fun m => ?_
  apply Breaks.given (m.Sorted ∧ m.sourceOrdered ≠ []) (by rintro s ⟨rfl, both⟩; exact both)
  rintro ⟨sorted, some_⟩
  refine Breaks.after (readers_balanced _ sorted).forget fun _ => Breaks.after .unlock fun _ => ?_
  refine Breaks.after (call_balanced _) fun _ => Breaks.after (.lock List.not_mem_nil) fun _ => ?_
  exact (readers_break _ sorted some_).first _

/-- A name found in a list is updated with the list's lock held for good. -/
theorem updateRTPStreamName_keeps (h : StreamHandle) (cName : List UInt8) :
    Keeps (fun m => h ∉ m.sourceOrdered ∧ h ∉ m.sinkOrdered 0 ∧ h ∉ m.sinkOrdered 1) []
      (updateRTPStreamName h cName) [] fun _ _ => True := by
  refine Keeps.bind (.lock List.not_mem_nil) fun _ => Keeps.bind .read fun m => ?_
  apply Keeps.given (h ∉ m.sourceOrdered) (by rintro s ⟨rfl, unlisted, -⟩; exact unlisted)
  intro unlisted
  rw [if_neg unlisted]
  refine Keeps.bind .unlock fun _ => Keeps.bind (.lock List.not_mem_nil) fun _ => Keeps.bind .read fun m' => ?_
  apply Keeps.given (¬ (h ∈ m'.sinkOrdered 0 ∨ h ∈ m'.sinkOrdered 1)) (by
    rintro s ⟨rfl, -, -, unlisted⟩
    exact not_or.mpr unlisted)
  intro unlisted'
  rw [if_neg unlisted']
  exact Keeps.bind .unlock fun _ => .pure fun _ _ => trivial

theorem updateRTPStreamName_source (h : StreamHandle) (cName : List UInt8) :
    Keeps (fun m => h ∈ m.sourceOrdered) [] (updateRTPStreamName h cName) [.source] fun _ _ => True := by
  refine Keeps.bind (.lock List.not_mem_nil) fun _ => Keeps.bind .read fun m => ?_
  apply Keeps.given (h ∈ m.sourceOrdered) (by rintro s ⟨rfl, listed⟩; exact listed)
  intro listed
  rw [if_pos listed]
  exact (run_balanced _).forget

theorem updateRTPStreamName_sink (h : StreamHandle) (cName : List UInt8) :
    Keeps (fun m => h ∉ m.sourceOrdered ∧ (h ∈ m.sinkOrdered 0 ∨ h ∈ m.sinkOrdered 1)) []
      (updateRTPStreamName h cName) [.sink] fun _ _ => True := by
  refine Keeps.bind (.lock List.not_mem_nil) fun _ => Keeps.bind .read fun m => ?_
  apply Keeps.given (h ∉ m.sourceOrdered) (by rintro s ⟨rfl, unlisted, -⟩; exact unlisted)
  intro unlisted
  rw [if_neg unlisted]
  refine Keeps.bind .unlock fun _ => Keeps.bind (.lock List.not_mem_nil) fun _ => Keeps.bind .read fun m' => ?_
  apply Keeps.given (h ∈ m'.sinkOrdered 0 ∨ h ∈ m'.sinkOrdered 1) (by
    rintro s ⟨rfl, -, -, listed⟩
    exact listed)
  intro listed
  rw [if_pos listed]
  exact (run_balanced _).forget

end Locking

namespace StreamsCall

/-- No name of a listed stream is updated, and no source is listed when the lives are prepared. -/
def LockSafe (m : RTPStreamsManager) : StreamsCall → Prop
  | .updateName h _ => h ∉ m.sourceOrdered ∧ h ∉ m.sinkOrdered 0 ∧ h ∉ m.sinkOrdered 1
  | .manage (.prepareLives _) => m.sourceOrdered = []
  | _ => True

variable {m : RTPStreamsManager} {call : StreamsCall}

theorem locked_keeps (sorted : m.Sorted) (safe : call.LockSafe m) {out} (done : call.locked m = .ok out) :
    Disciplined out.trace := by
  cases call with
  | manage op =>
    cases op with
    | add info ops =>
      exact ((Locking.addRTPStream_balanced info ops).bind fun _ => .pure _) m out trivial done |>.1
    | remove h ops =>
      exact ((Locking.removeRTPStream_balanced ops h).bind fun _ => .pure _) m out trivial done |>.1
    | removeAll ops => exact (Locking.removeAllRTPStreams_balanced ops m out trivial done).1
    | sendOutgoing ops skb livesOut =>
      exact (Keeps.bind (Locking.sendOutgoingPackets_keeps ops skb livesOut) fun _ =>
        Balanced.pure _) m out sorted done |>.1
    | processUDP ops nicId packet =>
      exact ((Locking.processUDPPacket_balanced ops nicId packet).bind fun _ => .pure _) m out trivial done |>.1
    | prepareLives ops => exact (Locking.prepareBufferLives_keeps ops m out safe done).1
  | updateName h cName =>
    exact (Keeps.bind (Locking.updateRTPStreamName_keeps h cName) fun _ => Balanced.pure _) m out safe done |>.1
  | status h => exact ((Locking.getRTPStreamStatus_balanced h).bind fun _ => .pure _) m out trivial done |>.1
  | numberOfSources | numberOfSinks =>
    cases done
    rfl
  | sinkStatsFromTIC streamIdx result =>
    exact ((Locking.getSinkStatsFromTIC_balanced streamIdx result).bind fun _ => .pure _) m out trivial done |>.1
  | minSinkAheadTime result =>
    exact ((Locking.getMinSinkAheadTime_balanced result).bind fun _ => .pure _) m out trivial done |>.1
  | minMaxSinksJitter result =>
    exact ((Locking.getMinMaxSinksJitter_balanced result).bind fun _ => .pure _) m out trivial done |>.1

theorem updateName_leaks {h : StreamHandle} {cName : List UInt8}
    (unsafe_ : ¬ LockSafe m (.updateName h cName)) {out}
    (done : (StreamsCall.updateName h cName).locked m = .ok out) : ¬ Disciplined out.trace := by
  intro disciplined
  rw [Disciplined] at disciplined
  by_cases source : h ∈ m.sourceOrdered
  · have leaked := (Keeps.bind (Locking.updateRTPStreamName_source h cName) fun _ =>
      Balanced.pure _) m out source done |>.1
    rw [leaked] at disciplined
    cases disciplined
  · have sink : h ∈ m.sinkOrdered 0 ∨ h ∈ m.sinkOrdered 1 := by
      rw [LockSafe, and_iff_right source, ← not_or, not_not] at unsafe_
      exact unsafe_
    have leaked := (Keeps.bind (Locking.updateRTPStreamName_sink h cName) fun _ =>
      Balanced.pure _) m out ⟨source, sink⟩ done |>.1
    rw [leaked] at disciplined
    cases disciplined

/-- A call gives both locks back and changes nothing without the lock that protects it, exactly when
it is no update of the name of a listed stream, and no preparation with a source in the list. -/
theorem locks_disciplined_iff (called : m.Called) {out} (done : call.locked m = .ok out) :
    Disciplined out.trace ↔ call.LockSafe m := by
  constructor
  · intro disciplined
    by_contra unsafe_
    cases call with
    | updateName h cName => exact updateName_leaks unsafe_ done disciplined
    | manage op =>
      cases op with
      | prepareLives ops =>
        have broken := Locking.prepareBufferLives_breaks ops m out ⟨called.sorted, unsafe_⟩ done
        rw [Disciplined, broken] at disciplined
        cases disciplined
      | _ => exact unsafe_ trivial
    | _ => exact unsafe_ trivial
  · intro safe
    exact locked_keeps called.sorted safe done

open RTPStreamsManager in
theorem locks_disciplined_iff_removed : ∃ out,
    (StreamsCall.manage (.remove (.sink 0) oneLiveInOps)).locked (withSinks [0]) = .ok out ∧
      (Disciplined out.trace ↔
        (StreamsCall.manage (.remove (.sink 0) oneLiveInOps)).LockSafe (withSinks [0])) :=
  ⟨_, rfl, locks_disciplined_iff (withSinks_reachable [0]).called rfl⟩

open RTPStreamsManager in
/-- The new name of a sink leaves the lock of the sinks taken; a tick with one source counts its reader
out under the wrong lock. -/
theorem locks_undisciplined :
    ((withSinks [0]).Called ∧ ∃ out, (StreamsCall.updateName (.sink 0) [65]).locked (withSinks [0]) = .ok out ∧
      out.trace = [.lock .source, .unlock .source, .lock .sink] ∧ ¬ Disciplined out.trace) ∧
    (withSources [0]).Called ∧ ∃ out,
      (StreamsCall.manage (.prepareLives oneLiveOutOps)).locked (withSources [0]) = .ok out ∧
      out.trace = [.lock .source, .touch .source, .unlock .source, .lock .sink, .touch .source,
        .unlock .sink, .lock .sink, .unlock .sink] ∧ ¬ Disciplined out.trace := by
  constructor
  · exact ⟨(withSinks_reachable [0]).called, _, rfl, rfl, by decide⟩
  · exact ⟨(withSources_reachable [0]).called, _, rfl, rfl, by decide⟩

end StreamsCall

end RavennaLkm
