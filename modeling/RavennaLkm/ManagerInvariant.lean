import RavennaLkm.StreamsManager
import RavennaLkm.TransmitSpec
import RavennaLkm.ReceiveSpec
import RavennaLkm.Lib.GuardedRun

/-!
What every history of the stream manager keeps: a listed stream is active and
was accepted, a free slot is ready for `Create`, and the pointer of a stream
never leaves the slots it could be attached to. Nothing here says that the
pointers are right.
-/
namespace RavennaLkm
open CheckedLoop GuardedRun

/-- The slots that attachment can join: sources with sources, sinks with sinks of the other NIC. -/
def MayPair : StreamHandle → StreamHandle → Prop
  | .source i, .source j => i ≠ j
  | .sink i, .sink j => slotNic (.sink i) ≠ slotNic (.sink j)
  | _, _ => False

theorem MayPair.ne {h p : StreamHandle} (pair : MayPair h p) : p ≠ h := by
  intro same
  subst same
  cases p <;> exact pair rfl

theorem MayPair.symm {h p : StreamHandle} (pair : MayPair h p) : MayPair p h := by
  cases h <;> cases p <;> first | exact pair.elim | exact Ne.symm pair

structure HandlerOk (h : StreamHandle) (x : RTPAudioStreamHandler) : Prop where
  noReader : x.readerCount = 0
  idle : x.active = false → x.rtpAudioStream.livesInitialized = false
  nic : x.nicId = UInt8.ofNat (slotNic h)
  streamNic : x.rtpAudioStream.ethNetfilter.nicId = UInt8.ofNat (slotNic h)
  partner : ∀ p, x.rtpAudioStream.attachedStream = some p → MayPair h p
  slot : x.active = true → h ∈ sourceSlots ∨ h ∈ sinkSlots

namespace RTPStreamsManager

def Listed (m : RTPStreamsManager) (h : StreamHandle) : Prop :=
  h ∈ m.sourceOrdered ∨ ∃ nic, h ∈ m.sinkOrdered nic

structure Consistent (m : RTPStreamsManager) : Prop where
  handler : ∀ h, HandlerOk h (m.handlers h)
  netfilter : ∀ nic < maxNics, (m.ethNetfilter nic).nicId = UInt8.ofNat nic
  source : ∀ h ∈ m.sourceOrdered,
    h ∈ sourceSlots ∧ (m.handlers h).active = true ∧ AcceptedSource (m.stream h)
  sourceOnce : m.sourceOrdered.Nodup
  sink : ∀ nic, ∀ h ∈ m.sinkOrdered nic,
    h ∈ sinkSlots ∧ slotNic h = nic ∧ (m.handlers h).active = true ∧ AcceptedSink (m.stream h)
  sinkOnce : ∀ nic, (m.sinkOrdered nic).Nodup

variable {m m' m'' : RTPStreamsManager} {h p : StreamHandle} {ops : RTPAudioStreamOps}

@[simp] theorem setHandler_same (m : RTPStreamsManager) (h : StreamHandle) (x : RTPAudioStreamHandler) :
    (m.setHandler h x).handlers h = x := Function.update_self ..

theorem setHandler_other (x : RTPAudioStreamHandler) (other : p ≠ h) :
    (m.setHandler h x).handlers p = m.handlers p := Function.update_of_ne other ..

@[simp] theorem setStream_same (m : RTPStreamsManager) (h : StreamHandle) (s : RTPAudioStream) :
    (m.setStream h s).stream h = s := by
  rw [stream, setStream, setHandler_same]

theorem setStream_other (s : RTPAudioStream) (other : p ≠ h) :
    (m.setStream h s).stream p = m.stream p := by
  rw [stream, setStream, setHandler_other _ other, stream]

theorem Consistent.active (c : m.Consistent) (listed : m.Listed h) : (m.handlers h).active = true := by
  rcases listed with source | ⟨nic, sink⟩
  · exact (c.source h source).2.1
  · exact (c.sink nic h sink).2.2.1

theorem Consistent.nicId (c : m.Consistent) (h : StreamHandle) : m.nicId h = UInt8.ofNat (slotNic h) :=
  (c.handler h).streamNic

structure OneSlot (h : StreamHandle) (m m' : RTPStreamsManager) : Prop where
  ethNetfilter : m'.ethNetfilter = m.ethNetfilter
  sourceOrdered : m'.sourceOrdered = m.sourceOrdered
  sinkOrdered : m'.sinkOrdered = m.sinkOrdered
  others : ∀ p, p ≠ h → m'.handlers p = m.handlers p

/-- One slot may change as long as a listed stream stays active and accepted. -/
theorem Consistent.oneSlot (c : m.Consistent) (one : OneSlot h m m') (ok : HandlerOk h (m'.handlers h))
    (keeps : m.Listed h → (m'.handlers h).active = true ∧
      (AcceptedSource (m.stream h) → AcceptedSource (m'.stream h)) ∧
      (AcceptedSink (m.stream h) → AcceptedSink (m'.stream h))) : m'.Consistent := by
  refine ⟨?_, ?_, ?_, ?_, ?_, ?_⟩
  · intro p
    by_cases same : p = h
    · rw [same]
      exact ok
    · rw [one.others p same]
      exact c.handler p
  · rw [one.ethNetfilter]
    exact c.netfilter
  · intro p listed
    rw [one.sourceOrdered] at listed
    obtain ⟨slot, active, accepted⟩ := c.source p listed
    by_cases same : p = h
    · subst same
      obtain ⟨active', accepted', -⟩ := keeps (.inl listed)
      exact ⟨slot, active', accepted' accepted⟩
    · rw [stream, one.others p same]
      exact ⟨slot, active, accepted⟩
  · rw [one.sourceOrdered]
    exact c.sourceOnce
  · intro nic p listed
    rw [one.sinkOrdered] at listed
    obtain ⟨slot, onNic, active, accepted⟩ := c.sink nic p listed
    by_cases same : p = h
    · subst same
      obtain ⟨active', -, accepted'⟩ := keeps (.inr ⟨nic, listed⟩)
      exact ⟨slot, onNic, active', accepted' accepted⟩
    · rw [stream, one.others p same]
      exact ⟨slot, onNic, active, accepted⟩
  · rw [one.sinkOrdered]
    exact c.sinkOnce

theorem oneSlot_setHandler (m : RTPStreamsManager) (h : StreamHandle) (x : RTPAudioStreamHandler) :
    OneSlot h m (m.setHandler h x) :=
  ⟨rfl, rfl, rfl, fun _ other => setHandler_other x other⟩

theorem setAttached_handlers (m : RTPStreamsManager) (h : StreamHandle) (p : Option StreamHandle)
    (q : StreamHandle) : (m.setAttached h p).handlers q =
      if q = h then { m.handlers h with rtpAudioStream := { m.stream h with attachedStream := p } }
      else m.handlers q := by
  split
  · subst q; exact setHandler_same ..
  · rename_i other; exact setHandler_other _ other

theorem setAttached_stream (m : RTPStreamsManager) (h : StreamHandle) (p : Option StreamHandle)
    (q : StreamHandle) : (m.setAttached h p).stream q =
      if q = h then { m.stream h with attachedStream := p } else m.stream q := by
  split
  · subst q; exact setStream_same ..
  · rename_i other; exact setStream_other _ other

theorem oneSlot_setAttached (m : RTPStreamsManager) (h : StreamHandle) (p : Option StreamHandle) :
    OneSlot h m (m.setAttached h p) :=
  oneSlot_setHandler m h _

theorem Consistent.setAttached (c : m.Consistent) {p : Option StreamHandle}
    (may : ∀ q, p = some q → MayPair h q) : (m.setAttached h p).Consistent := by
  have here := setAttached_handlers m h p h
  rw [if_pos rfl] at here
  apply c.oneSlot (oneSlot_setAttached m h p)
  · obtain ⟨noReader, idle, nic, streamNic, -, slot⟩ := c.handler h
    rw [here]
    exact ⟨noReader, idle, nic, streamNic, may, slot⟩
  · intro listed
    rw [here, setAttached_stream, if_pos rfl]
    exact ⟨c.active listed, fun a => ⟨a.valid, a.source, a.convert, a.converts, a.rings⟩,
      fun a => ⟨a.valid, a.sink, a.convert, a.converts⟩⟩

structure SameManager (m m' : RTPStreamsManager) : Prop where
  ethNetfilter : m'.ethNetfilter = m.ethNetfilter
  sourceOrdered : m'.sourceOrdered = m.sourceOrdered
  sinkOrdered : m'.sinkOrdered = m.sinkOrdered
  active : ∀ h, (m'.handlers h).active = (m.handlers h).active
  readerCount : ∀ h, (m'.handlers h).readerCount = (m.handlers h).readerCount
  nicId : ∀ h, (m'.handlers h).nicId = (m.handlers h).nicId
  stream : ∀ h, SameStream (m.stream h) (m'.stream h)

theorem SameManager.refl (m : RTPStreamsManager) : m.SameManager m :=
  ⟨rfl, rfl, rfl, fun _ => rfl, fun _ => rfl, fun _ => rfl, fun _ => .refl _⟩

theorem SameManager.trans (first : m.SameManager m') (then_ : m'.SameManager m'') :
    m.SameManager m'' where
  ethNetfilter := then_.ethNetfilter.trans first.ethNetfilter
  sourceOrdered := then_.sourceOrdered.trans first.sourceOrdered
  sinkOrdered := then_.sinkOrdered.trans first.sinkOrdered
  active h := (then_.active h).trans (first.active h)
  readerCount h := (then_.readerCount h).trans (first.readerCount h)
  nicId h := (then_.nicId h).trans (first.nicId h)
  stream h := (first.stream h).trans (then_.stream h)

theorem SameManager.consistent (same : m.SameManager m') (c : m.Consistent) : m'.Consistent := by
  refine ⟨?_, ?_, ?_, ?_, ?_, ?_⟩
  · intro h
    obtain ⟨noReader, idle, nic, streamNic, partner, slot⟩ := c.handler h
    have stream := same.stream h
    refine ⟨by rw [same.readerCount, noReader], ?_, by rw [same.nicId, nic], ?_, ?_,
      by rw [same.active]; exact slot⟩
    · intro inactive
      rw [same.active] at inactive
      exact stream.initialized.trans (idle inactive)
    · exact (congrArg EtherTubeNetfilter.nicId stream.nic).trans streamNic
    · intro p isPartner
      exact partner p (stream.attached.symm.trans isPartner)
  · rw [same.ethNetfilter]
    exact c.netfilter
  · intro h listed
    rw [same.sourceOrdered] at listed
    obtain ⟨slot, active, accepted⟩ := c.source h listed
    exact ⟨slot, (same.active h).trans active, accepted.sameStream (same.stream h)⟩
  · rw [same.sourceOrdered]
    exact c.sourceOnce
  · intro nic h listed
    rw [same.sinkOrdered] at listed
    obtain ⟨slot, onNic, active, accepted⟩ := c.sink nic h listed
    exact ⟨slot, onNic, (same.active h).trans active, accepted.same (same.stream h)⟩
  · rw [same.sinkOrdered]
    exact c.sinkOnce

theorem storeStream_handlers (m : RTPStreamsManager) (h : StreamHandle) (s : RTPAudioStream)
    (mem : RingMemory) (p : StreamHandle) : (m.storeStream h s mem).handlers p =
      if p = h then { m.handlers h with rtpAudioStream := s } else m.handlers p := by
  split
  · subst p; exact setHandler_same ..
  · rename_i other; exact setHandler_other _ other

theorem sameManager_store {s : RTPAudioStream} (same : SameStream (m.stream h) s) (mem : RingMemory) :
    m.SameManager (m.storeStream h s mem) := by
  refine ⟨rfl, rfl, rfl, ?_, ?_, ?_, ?_⟩
  · intro p; rw [storeStream_handlers]; split <;> simp_all
  · intro p; rw [storeStream_handlers]; split <;> simp_all
  · intro p; rw [storeStream_handlers]; split <;> simp_all
  · intro p
    rw [stream, stream, storeStream_handlers]
    split
    · subst p; exact same
    · exact .refl _

theorem sendFrom_same {skb : Bool} {livesOut : RingMemory} {done : RTPStreamsManager × SendLog}
    (noSelf : m.attached h ≠ some h) (sent : m.sendFrom ops skb livesOut h = .ok done) :
    m.SameManager done.1 := by
  obtain ⟨st, run, rest⟩ := bind_eq_ok.mp sent
  obtain ⟨self, partner⟩ := sendRTPAudioPackets_same run
  have first := sameManager_store self.sameStream m.livesIn
  simp only at rest
  split at rest
  · rename_i p t isPartner isT
    cases rest
    have other : p ≠ h := fun same => noSelf (by rw [isPartner, same])
    rw [isPartner, isT] at partner
    have kept : SameStream ((m.setStream h st.stream).stream p) t := by
      rw [setStream_other _ other]
      exact SameSource.sameStream partner
    exact first.trans (sameManager_store kept m.livesIn)
  · cases rest
    exact first

theorem sendEach_same {skb : Bool} {livesOut : RingMemory} {done : RTPStreamsManager × SendLog}
    (l : List StreamHandle) (noSelf : ∀ h, m.attached h ≠ some h)
    (sent : sendEach ops skb livesOut l m = .ok done) : m.SameManager done.1 := by
  induction l generalizing m done with
  | nil =>
    cases sent
    exact .refl m
  | cons h rest ih =>
    obtain ⟨first, run, others⟩ := bind_eq_ok.mp sent
    obtain ⟨later, run', last⟩ := bind_eq_ok.mp others
    cases last
    have same := sendFrom_same (noSelf h) run
    have noSelf' : ∀ q, first.1.attached q ≠ some q := by
      intro q
      rw [attached, (same.stream q).attached]
      exact noSelf q
    have others := ih noSelf' run'
    exact same.trans others

theorem processOne_same {frame : RTPFrame} {done : RTPStreamsManager × Bool}
    (processed : m.processOne ops frame h = .ok done) : m.SameManager done.1 := by
  obtain ⟨⟨s, mem, used⟩, run, last⟩ := bind_eq_ok.mp processed
  cases last
  exact sameManager_store (processRTPAudioPacket_same run) mem

theorem processEach_same {frame : RTPFrame} {key : UInt64} {done : RTPStreamsManager × Bool}
    (l : List StreamHandle) (processed : processEach ops frame key l m = .ok done) :
    m.SameManager done.1 := by
  induction l generalizing m done with
  | nil =>
    cases processed
    exact .refl m
  | cons h rest ih =>
    rw [processEach] at processed
    split at processed
    · obtain ⟨first, run, others⟩ := bind_eq_ok.mp processed
      obtain ⟨later, run', last⟩ := bind_eq_ok.mp others
      cases last
      have others := ih run'
      exact (processOne_same run).trans others
    · exact ih processed

theorem prepareEach_same {m m' : RTPStreamsManager} (l : List StreamHandle) (prepared : prepareEach ops l m = .ok m') :
    m.SameManager m' := by
  induction l generalizing m with
  | nil =>
    cases prepared
    exact .refl _
  | cons h rest ih =>
    obtain ⟨⟨s, mem⟩, run, others⟩ := bind_eq_ok.mp prepared
    exact (sameManager_store (prepareBufferLives_same run) mem).trans (ih others)

theorem processUDPPacket_same {nic : UInt8} {packet : List UInt8} {done : RTPStreamsManager × Bool}
    (processed : m.processUDPPacket ops nic packet = .ok done) : m.SameManager done.1 := by
  unfold processUDPPacket at processed
  split at processed
  · cases processed
    exact .refl m
  split at processed
  · simp only at processed
    split at processed
    · cases processed
      exact .refl m
    · exact processEach_same _ processed
  · cases processed
    exact .refl m

structure MoreReaders (readers : StreamHandle → Int) (m m' : RTPStreamsManager) : Prop where
  ethNetfilter : m'.ethNetfilter = m.ethNetfilter
  sourceOrdered : m'.sourceOrdered = m.sourceOrdered
  sinkOrdered : m'.sinkOrdered = m.sinkOrdered
  handler : ∀ h, m'.handlers h =
    { m.handlers h with readerCount := (m.handlers h).readerCount + readers h }

theorem enterAll (l : List StreamHandle) (m : RTPStreamsManager) :
    MoreReaders (fun h => l.count h) m (l.foldl readerEnter m) := by
  induction l generalizing m with
  | nil => exact ⟨rfl, rfl, rfl, fun h => by simp⟩
  | cons q rest ih =>
    obtain ⟨net, sources, sinks, handler⟩ := ih (m.readerEnter q)
    refine ⟨net, sources, sinks, fun h => ?_⟩
    rw [List.foldl_cons, handler]
    by_cases here : h = q
    · subst here
      rw [readerEnter, setHandler_same, List.count_cons_self, RTPAudioStreamHandler.readerEnter]
      simp only [Nat.cast_add, Nat.cast_one]
      congr 1
      omega
    · rw [readerEnter, setHandler_other _ here, List.count_cons_of_ne (Ne.symm here)]

theorem readerLeave_active (x : RTPAudioStreamHandler) (mem : RingMemory) (active : x.active = true) :
    x.readerLeave ops mem = ({ x with readerCount := x.readerCount - 1 }, mem) := by
  simp [RTPAudioStreamHandler.readerLeave, RTPAudioStreamHandler.cleanup, RTPAudioStreamHandler.isFree,
    active]

theorem leaveAll (ops : RTPAudioStreamOps) (l : List StreamHandle) (m : RTPStreamsManager)
    (active : ∀ h ∈ l, (m.handlers h).active = true) :
    MoreReaders (fun h => -l.count h) m (l.foldl (readerLeave · ops ·) m) := by
  induction l generalizing m with
  | nil => exact ⟨rfl, rfl, rfl, fun h => by simp⟩
  | cons q rest ih =>
    have left : ∀ h, (m.readerLeave ops q).handlers h =
        if h = q then { m.handlers q with readerCount := (m.handlers q).readerCount - 1 }
        else m.handlers h := by
      intro h
      rw [readerLeave, readerLeave_active _ _ (active q (List.mem_cons_self ..))]
      split
      · subst h; exact setHandler_same ..
      · rename_i other; exact setHandler_other _ other
    obtain ⟨net, sources, sinks, handler⟩ := ih (m.readerLeave ops q) (by
      intro h listed
      rw [left]
      split
      · exact active q (List.mem_cons_self ..)
      · exact active h (List.mem_cons_of_mem _ listed))
    refine ⟨net, sources, sinks, fun h => ?_⟩
    rw [List.foldl_cons, handler, left]
    by_cases here : h = q
    · subst here
      rw [if_pos rfl, List.count_cons_self]
      simp only [Nat.cast_add, Nat.cast_one]
      congr 1
      omega
    · rw [if_neg here, List.count_cons_of_ne (Ne.symm here)]

theorem sameManager_of_pass {done : RTPStreamsManager} (l : List StreamHandle)
    (active : ∀ h ∈ l, (m.handlers h).active = true)
    (pass : (l.foldl readerEnter m).SameManager done) :
    m.SameManager (l.foldl (readerLeave · ops ·) done) := by
  have entered := enterAll l m
  have kept : ∀ h, ((l.foldl readerEnter m).handlers h).active = (m.handlers h).active ∧
      (l.foldl readerEnter m).stream h = m.stream h := by
    intro h
    rw [stream, entered.handler]
    exact ⟨rfl, rfl⟩
  have left := leaveAll ops l done fun h listed =>
    (pass.active h).trans ((kept h).1.trans (active h listed))
  constructor
  · rw [left.ethNetfilter, pass.ethNetfilter, entered.ethNetfilter]
  · rw [left.sourceOrdered, pass.sourceOrdered, entered.sourceOrdered]
  · rw [left.sinkOrdered, pass.sinkOrdered, entered.sinkOrdered]
  · intro h
    rw [left.handler]
    exact (pass.active h).trans (kept h).1
  · intro h
    rw [left.handler]
    simp only [pass.readerCount, entered.handler]
    omega
  · intro h
    rw [left.handler]
    simp only [pass.nicId, entered.handler]
  · intro h
    have same := pass.stream h
    rw [(kept h).2] at same
    have after : (l.foldl (readerLeave · ops ·) done).stream h = done.stream h := by
      rw [stream, left.handler, stream]
    rw [after]
    exact same

theorem Consistent.noSelf (c : m.Consistent) (h : StreamHandle) : m.attached h ≠ some h :=
  fun self => ((c.handler h).partner h self).ne rfl

theorem sendOutgoingPackets_same {skb : Bool} {livesOut : RingMemory}
    {done : RTPStreamsManager × SendLog} (c : m.Consistent)
    (sent : m.sendOutgoingPackets ops skb livesOut = .ok done) : m.SameManager done.1 := by
  obtain ⟨pass, run, last⟩ := bind_eq_ok.mp sent
  cases last
  apply sameManager_of_pass m.sourceOrdered fun h listed => c.active (.inl listed)
  apply sendEach_same _ ?_ run
  intro h
  rw [attached, stream, (enterAll _ _).handler]
  exact c.noSelf h

theorem prepareBufferLivesAll_same (c : m.Consistent) (prepared : m.prepareBufferLivesAll ops = .ok m') :
    m.SameManager m' := by
  obtain ⟨pass, run, rest⟩ := bind_eq_ok.mp prepared
  obtain ⟨nic0, run0, run1⟩ := bind_eq_ok.mp rest
  have sources : m.SameManager (m.sourceOrdered.foldl (readerLeave · ops ·) pass) :=
    sameManager_of_pass m.sourceOrdered (fun h listed => c.active (.inl listed))
      (prepareEach_same _ run)
  exact sources.trans ((prepareEach_same _ run0).trans (prepareEach_same _ run1))

theorem init_consistent (macAddress : Nat → MACAddress) (livesIn : RingMemory) :
    (init macAddress livesIn).Consistent where
  handler h := ⟨rfl, fun _ => rfl, rfl, rfl, by rintro p ⟨⟩, by rintro ⟨⟩⟩
  netfilter _ _ := rfl
  source := by simp [init]
  sourceOnce := List.nodup_nil
  sink := by simp [init]
  sinkOnce _ := List.nodup_nil

theorem usableHandler_free {info : RTPStreamInfo} (usable : m.usableHandler info = some h) :
    h ∈ slots info.source ∧ (m.handlers h).active = false ∧ (m.handlers h).readerCount = 0 ∧
      (m.handlers h).nicId.toUInt32 = info.ifPortId := by
  have found := List.find?_some usable
  simp only [RTPAudioStreamHandler.isFree, Bool.and_eq_true, Bool.not_eq_true', beq_iff_eq] at found
  exact ⟨List.mem_of_find?_eq_some usable, found.1.1, found.1.2, found.2⟩

theorem sourceSlots_nic (slot : h ∈ sourceSlots) : slotNic h < maxNics := by
  obtain ⟨i, below, rfl⟩ := List.mem_map.mp slot
  rw [List.mem_range] at below
  simp only [slotNic, maxSourceStreams, maxNics] at below ⊢
  omega

theorem sinkSlots_nic (slot : h ∈ sinkSlots) : slotNic h < maxNics := by
  obtain ⟨i, below, rfl⟩ := List.mem_map.mp slot
  rw [List.mem_range] at below
  simp only [slotNic, maxSinkStreams, maxNics] at below ⊢
  omega

theorem slots_cases {source : Bool} (slot : h ∈ slots source) : h ∈ sourceSlots ∨ h ∈ sinkSlots := by
  cases source
  · exact .inr slot
  · exact .inl slot

theorem slots_nic {source : Bool} (slot : h ∈ slots source) : slotNic h < maxNics := by
  cases source
  · exact sinkSlots_nic slot
  · exact sourceSlots_nic slot

theorem usable_nic (c : m.Consistent) {info : RTPStreamInfo} (usable : m.usableHandler info = some h) :
    slotNic h = info.ifPortId.toNat ∧ slotNic h < maxNics := by
  obtain ⟨slot, -, -, port⟩ := usableHandler_free usable
  have below := slots_nic slot
  refine ⟨?_, below⟩
  rw [← port, (c.handler h).nic, UInt8.toNat_toUInt32, UInt8.toNat_ofNat']
  simp only [maxNics] at below
  omega

theorem acquire_stream (m : RTPStreamsManager) (h : StreamHandle) : (m.acquire h).stream h = m.stream h := by
  rw [acquire, stream, setHandler_same]
  rfl

theorem createIn_handlers (m : RTPStreamsManager) (info : RTPStreamInfo) (ops : RTPAudioStreamOps)
    (h p : StreamHandle) : (m.createIn info ops h).1.handlers p =
      if p = h then { m.handlers h with
        active := true
        rtpAudioStream :=
          (create (m.stream h) info ops (m.ethNetfilter info.ifPortId.toNat) m.livesIn).1 }
      else m.handlers p := by
  rw [createIn, storeStream_handlers, acquire, setHandler_same]
  split
  · rw [stream, setHandler_same]; rfl
  · rename_i other; exact setHandler_other _ other

theorem oneSlot_createIn (m : RTPStreamsManager) (info : RTPStreamInfo) (ops : RTPAudioStreamOps)
    (h : StreamHandle) : OneSlot h m (m.createIn info ops h).1 :=
  ⟨rfl, rfl, rfl, fun p other => by rw [createIn_handlers, if_neg other]⟩

theorem createIn_consistent (c : m.Consistent) {info : RTPStreamInfo}
    (usable : m.usableHandler info = some h) (ops : RTPAudioStreamOps) : (m.createIn info ops h).1.Consistent := by
  obtain ⟨slot, inactive, noReader, -⟩ := usableHandler_free usable
  obtain ⟨port, below⟩ := usable_nic c usable
  obtain ⟨-, nf, attachment⟩ := create_idle info ops (m.ethNetfilter info.ifPortId.toNat) m.livesIn
    (show (m.stream h).livesInitialized = false from (c.handler h).idle inactive)
  apply c.oneSlot (oneSlot_createIn m info ops h)
  · rw [createIn_handlers, if_pos rfl]
    refine ⟨noReader, by simp, (c.handler h).nic, ?_, ?_, fun _ => slots_cases slot⟩
    · rw [nf, ← port]
      exact c.netfilter _ below
    · rw [attachment]
      exact (c.handler h).partner
  · intro listed
    exact absurd (c.active listed) (by rw [inactive]; decide)

theorem matching_listed (found : m.matching h = some p) :
    p ∈ m.searchedList h ∧ m.id h = m.id p :=
  ⟨List.mem_of_find?_eq_some found, by simpa using List.find?_some found⟩

theorem searchedList_listed (found : p ∈ m.searchedList h) : m.Listed p := by
  unfold searchedList at found
  split at found
  · exact .inl found
  · exact .inr ⟨_, found⟩

theorem matching_mayPair (c : m.Consistent) (slot : h ∈ slots (m.isSource h)) (unlisted : ¬ m.Listed h)
    (found : m.matching h = some p) : MayPair h p := by
  have listed := (matching_listed found).1
  have differ : p ≠ h := by
    intro same
    subst same
    exact unlisted (searchedList_listed listed)
  unfold searchedList at listed
  cases kind : m.isSource h with
  | true =>
    rw [kind] at slot
    rw [kind, if_pos rfl] at listed
    obtain ⟨i, -, rfl⟩ := List.mem_map.mp slot
    obtain ⟨j, -, rfl⟩ := List.mem_map.mp (c.source p listed).1
    intro same
    subst same
    exact differ rfl
  | false =>
    rw [kind] at slot
    rw [kind, if_neg Bool.false_ne_true] at listed
    obtain ⟨slot', onNic, -, -⟩ := c.sink _ p listed
    have below := sinkSlots_nic slot
    obtain ⟨i, -, rfl⟩ := List.mem_map.mp slot
    obtain ⟨j, -, rfl⟩ := List.mem_map.mp slot'
    intro same
    rw [← same, c.nicId] at onNic
    generalize slotNic (StreamHandle.sink i) = nic at *
    simp only [maxNics] at below
    obtain rfl | rfl : nic = 0 ∨ nic = 1 := by omega
    · exact absurd onNic (by decide)
    · exact absurd onNic (by decide)

theorem attachedStream_consistent (c : m.Consistent) (may : ∀ p, m.matching h = some p → MayPair h p) :
    (m.attachedStream h).Consistent := by
  unfold attachedStream
  cases found : m.matching h with
  | none => exact c
  | some p =>
    have pair := may p found
    apply Consistent.setAttached
    · apply c.setAttached
      rintro q ⟨⟩
      exact pair
    · rintro q ⟨⟩
      exact pair.symm

theorem detachedStream_consistent (c : m.Consistent) : (m.detachedStream h).Consistent := by
  unfold detachedStream
  cases m.matching h with
  | none => exact c
  | some p => exact (c.setAttached (by simp)).setAttached (by simp)

theorem insertSource_perm (m : RTPStreamsManager) (h : StreamHandle) (l : List StreamHandle) :
    (m.insertSource h l).Perm (h :: l) := by
  induction l with
  | nil => exact .refl _
  | cons p rest ih =>
    rw [insertSource]
    split
    · exact .refl _
    · exact (ih.cons p).trans (.swap h p rest)

theorem insertStream_consistent (c : m.Consistent) {info : RTPStreamInfo} (slot : h ∈ slots info.source)
    (nic : slotNic h = info.ifPortId.toUInt8.toNat) (active : (m.handlers h).active = true)
    (unlisted : ¬ m.Listed h) (source : info.source = true → AcceptedSource (m.stream h))
    (sink : info.source = false → AcceptedSink (m.stream h)) : (m.insertStream info h).Consistent := by
  unfold insertStream
  cases kind : info.source with
  | true =>
    rw [kind] at slot
    refine ⟨c.handler, c.netfilter, ?_, ?_, c.sink, c.sinkOnce⟩
    · intro p listed
      have here : p = h ∨ p ∈ m.sourceOrdered := by
        simpa using (m.insertSource_perm h m.sourceOrdered).mem_iff.mp listed
      rcases here with rfl | earlier
      · exact ⟨slot, active, source kind⟩
      · exact c.source p earlier
    · apply (m.insertSource_perm h m.sourceOrdered).nodup_iff.mpr
      exact List.nodup_cons.mpr ⟨fun listed => unlisted (.inl listed), c.sourceOnce⟩
  | false =>
    rw [kind] at slot
    refine ⟨c.handler, c.netfilter, c.source, c.sourceOnce, ?_, ?_⟩
    · intro q p listed
      by_cases here : q = info.ifPortId.toUInt8.toNat
      · subst here
        simp only [Bool.false_eq_true, if_false, Function.update_self, List.mem_append,
          List.mem_singleton] at listed
        rcases listed with earlier | rfl
        · exact c.sink _ p earlier
        · exact ⟨slot, nic, active, sink kind⟩
      · simp only [Bool.false_eq_true, if_false, Function.update_of_ne here] at listed
        exact c.sink q p listed
    · intro q
      by_cases here : q = info.ifPortId.toUInt8.toNat
      · subst here
        simp only [Bool.false_eq_true, if_false, Function.update_self]
        refine List.nodup_append.mpr ⟨c.sinkOnce _, by simp, ?_⟩
        intro p listed q new same
        rw [same, List.mem_singleton.mp new] at listed
        exact unlisted (.inr ⟨_, listed⟩)
      · simp only [Bool.false_eq_true, if_false, Function.update_of_ne here]
        exact c.sinkOnce q

theorem addRTPStream_cases (m : RTPStreamsManager) (info : RTPStreamInfo) (ops : RTPAudioStreamOps) :
    (m.addRTPStream info ops = (m, none) ∧ (addable info = false ∨ m.usableHandler info = none)) ∨
    ∃ h, addable info = true ∧ m.usableHandler info = some h ∧
      (((m.createIn info ops h).2 = false ∧ m.addRTPStream info ops = ((m.createIn info ops h).1, none)) ∨
      ((m.createIn info ops h).2 = true ∧
        ((((m.createIn info ops h).1.attachedStream h).listFull info = true ∧
          m.addRTPStream info ops = ((m.createIn info ops h).1.attachedStream h, none)) ∨
        (((m.createIn info ops h).1.attachedStream h).listFull info = false ∧
          m.addRTPStream info ops =
            (((m.createIn info ops h).1.attachedStream h).insertStream info h, some h))))) := by
  unfold addRTPStream
  cases ok : addable info with
  | false => exact .inl ⟨rfl, .inl rfl⟩
  | true =>
    cases usable : m.usableHandler info with
    | none => exact .inl ⟨rfl, .inr rfl⟩
    | some h =>
      refine .inr ⟨h, rfl, rfl, ?_⟩
      simp only [if_true]
      cases (m.createIn info ops h).2 with
      | false => exact .inl ⟨rfl, rfl⟩
      | true =>
        refine .inr ⟨rfl, ?_⟩
        cases full : ((m.createIn info ops h).1.attachedStream h).listFull info with
        | true => exact .inl ⟨rfl, by simp⟩
        | false => exact .inr ⟨rfl, by simp⟩

theorem createIn_unlisted (c : m.Consistent) {info : RTPStreamInfo}
    (usable : m.usableHandler info = some h) (ops : RTPAudioStreamOps) : ¬ (m.createIn info ops h).1.Listed h := by
  intro listed
  have active : (m.handlers h).active = true := c.active listed
  rw [(usableHandler_free usable).2.1] at active
  cases active

theorem createIn_info (c : m.Consistent) {info : RTPStreamInfo}
    (usable : m.usableHandler info = some h) (ops : RTPAudioStreamOps) :
    ((m.createIn info ops h).1.stream h).rtpStreamInfo = info ∧
      (m.createIn info ops h).1.attached h = m.attached h := by
  have idle : (m.stream h).livesInitialized = false :=
    (c.handler h).idle (usableHandler_free usable).2.1
  obtain ⟨isInfo, -, attachment⟩ :=
    create_idle info ops (m.ethNetfilter info.ifPortId.toNat) m.livesIn idle
  rw [attached, stream, createIn_handlers, if_pos rfl]
  exact ⟨isInfo, attachment⟩

theorem createIn_attachable (c : m.Consistent) {info : RTPStreamInfo}
    (usable : m.usableHandler info = some h) :
    ∀ p, (m.createIn info ops h).1.matching h = some p → MayPair h p := by
  intro p found
  apply matching_mayPair (createIn_consistent c usable _) ?_ (createIn_unlisted c usable _) found
  rw [isSource, (createIn_info c usable _).1]
  exact (usableHandler_free usable).1

theorem createIn_stream (m : RTPStreamsManager) (info : RTPStreamInfo) (ops : RTPAudioStreamOps)
    (h : StreamHandle) : (m.createIn info ops h).1.stream h =
      (create (m.stream h) info ops (m.ethNetfilter info.ifPortId.toNat) m.livesIn).1 := by
  rw [stream, createIn_handlers, if_pos rfl]

theorem createIn_snd (m : RTPStreamsManager) (info : RTPStreamInfo) (ops : RTPAudioStreamOps)
    (h : StreamHandle) : (m.createIn info ops h).2 =
      (create (m.stream h) info ops (m.ethNetfilter info.ifPortId.toNat) m.livesIn).2.2 := by
  rw [createIn, acquire_stream]
  rfl

theorem createIn_accepted {info : RTPStreamInfo} (ok : addable info = true)
    (created : (m.createIn info ops h).2 = true) :
    (info.source = true → AcceptedSource ((m.createIn info ops h).1.stream h)) ∧
      (info.source = false → AcceptedSink ((m.createIn info ops h).1.stream h)) := by
  have valid : isValid info = true := by
    simp only [addable, Bool.and_eq_true] at ok
    exact ok.1.2
  rw [createIn_stream]
  rw [createIn_snd] at created
  exact ⟨fun source => create_source valid source created,
    fun sink => create_sink_valid valid sink created⟩

theorem attachedStream_stream (m : RTPStreamsManager) (h q : StreamHandle) :
    ∃ p, (m.attachedStream h).stream q = { m.stream q with attachedStream := p } := by
  unfold attachedStream
  cases m.matching h with
  | none => exact ⟨_, rfl⟩
  | some p =>
    simp only [setAttached_stream]
    split_ifs
    all_goals subst_vars
    all_goals exact ⟨_, rfl⟩

theorem attachedStream_lists (m : RTPStreamsManager) (h : StreamHandle) :
    (m.attachedStream h).sourceOrdered = m.sourceOrdered ∧
      (m.attachedStream h).sinkOrdered = m.sinkOrdered ∧
      ∀ q, ((m.attachedStream h).handlers q).active = (m.handlers q).active ∧
        ((m.attachedStream h).handlers q).readerCount = (m.handlers q).readerCount := by
  unfold attachedStream
  cases m.matching h with
  | none => exact ⟨rfl, rfl, fun _ => ⟨rfl, rfl⟩⟩
  | some p =>
    refine ⟨rfl, rfl, fun q => ?_⟩
    simp only [setAttached_handlers]
    split_ifs
    all_goals subst_vars
    all_goals exact ⟨rfl, rfl⟩

theorem createIn_accepts (c : m.Consistent) {info : RTPStreamInfo} (ops : RTPAudioStreamOps)
    (usable : m.usableHandler info = some h) :
    (m.createIn info ops h).2 = true ↔ CreateAccepts ops info := by
  have idle : (m.stream h).livesInitialized = false :=
    (c.handler h).idle (usableHandler_free usable).2.1
  rw [createIn_snd, create_succeeds_iff, and_iff_right idle]

theorem listFull_createIn (m : RTPStreamsManager) (info : RTPStreamInfo) (ops : RTPAudioStreamOps)
    (h : StreamHandle) :
    ((m.createIn info ops h).1.attachedStream h).listFull info = m.listFull info := by
  obtain ⟨sources, sinks, -⟩ := (m.createIn info ops h).1.attachedStream_lists h
  rw [listFull, sources, sinks]
  rfl

theorem addRTPStream_consistent (c : m.Consistent) (info : RTPStreamInfo) (ops : RTPAudioStreamOps) :
    (m.addRTPStream info ops).1.Consistent := by
  rcases m.addRTPStream_cases info ops with ⟨same, -⟩ | ⟨h, ok, usable, ends⟩
  · rw [same]
    exact c
  have made := createIn_consistent c usable ops
  have linked := attachedStream_consistent made (createIn_attachable c usable)
  rcases ends with ⟨-, same⟩ | ⟨created, ⟨-, same⟩ | ⟨-, same⟩⟩
  · rw [same]
    exact made
  · rw [same]
    exact linked
  · rw [same]
    obtain ⟨port, below⟩ := usable_nic c usable
    obtain ⟨sources, sinks, handlers⟩ := (m.createIn info ops h).1.attachedStream_lists h
    obtain ⟨p, isStream⟩ := (m.createIn info ops h).1.attachedStream_stream h h
    obtain ⟨source, sink⟩ := createIn_accepted ok created
    apply insertStream_consistent linked (usableHandler_free usable).1
    · rw [port, UInt32.toNat_toUInt8]
      simp only [maxNics] at below
      omega
    · rw [(handlers h).1, createIn_handlers, if_pos rfl]
    · rw [Listed, sources, sinks]
      exact createIn_unlisted c usable ops
    · intro kind
      obtain ⟨valid, isSource, convert, converts, rings⟩ := source kind
      rw [isStream]
      exact ⟨valid, isSource, convert, converts, rings⟩
    · intro kind
      obtain ⟨valid, isSink, convert, converts⟩ := sink kind
      rw [isStream]
      exact ⟨valid, isSink, convert, converts⟩

theorem release_handlers (m : RTPStreamsManager) (ops : RTPAudioStreamOps) (h p : StreamHandle)
    (noReader : (m.handlers h).readerCount = 0) : (m.release ops h).handlers p =
      if p = h then { m.handlers h with
        active := false, rtpAudioStream := (destroy (m.stream h) ops m.livesIn).1 }
      else m.handlers p := by
  have released : (m.handlers h).release ops m.livesIn =
      ({ m.handlers h with
        active := false, rtpAudioStream := (destroy (m.stream h) ops m.livesIn).1 },
        (destroy (m.stream h) ops m.livesIn).2) := by
    simp [RTPAudioStreamHandler.release, RTPAudioStreamHandler.cleanup, RTPAudioStreamHandler.isFree,
      noReader, stream]
  rw [release, released]
  split
  · subst p; exact setHandler_same ..
  · rename_i other; exact setHandler_other _ other

theorem oneSlot_release (m : RTPStreamsManager) (ops : RTPAudioStreamOps) (h : StreamHandle) :
    OneSlot h m (m.release ops h) :=
  ⟨rfl, rfl, rfl, fun _ other => setHandler_other _ other⟩

theorem release_attached (m : RTPStreamsManager) (ops : RTPAudioStreamOps) (h p : StreamHandle)
    (noReader : (m.handlers h).readerCount = 0) : (m.release ops h).attached p = m.attached p := by
  rw [attached, stream, release_handlers _ _ _ _ noReader, attached]
  split
  · subst p
    exact (destroy_idle _ ops m.livesIn).2.2
  · rfl

theorem release_consistent (c : m.Consistent) (ops : RTPAudioStreamOps) (unlisted : ¬ m.Listed h) :
    (m.release ops h).Consistent := by
  obtain ⟨noReader, idle, nic, streamNic, partner, slot⟩ := c.handler h
  obtain ⟨uninitialized, net, attachment⟩ := destroy_idle (m.stream h) ops m.livesIn
  apply c.oneSlot (oneSlot_release m ops h)
  · rw [release_handlers _ _ _ _ noReader, if_pos rfl]
    refine ⟨noReader, fun _ => uninitialized, nic, ?_, ?_, by simp⟩
    · rw [net]
      exact streamNic
    · rw [attachment]
      exact partner
  · intro listed
    exact absurd listed unlisted

theorem withoutSource_consistent (c : m.Consistent) (h : StreamHandle) :
    { m with sourceOrdered := m.sourceOrdered.erase h }.Consistent :=
  ⟨c.handler, c.netfilter, fun p listed => c.source p (List.mem_of_mem_erase listed),
    c.sourceOnce.erase h, c.sink, c.sinkOnce⟩

theorem withoutSink_consistent (c : m.Consistent) (h : StreamHandle) (nic : Nat) :
    { m with sinkOrdered := Function.update m.sinkOrdered nic ((m.sinkOrdered nic).erase h) }.Consistent := by
  refine ⟨c.handler, c.netfilter, c.source, c.sourceOnce, ?_, ?_⟩
  · intro q p listed
    by_cases here : q = nic
    · subst here
      simp only [Function.update_self] at listed
      exact c.sink q p (List.mem_of_mem_erase listed)
    · simp only [Function.update_of_ne here] at listed
      exact c.sink q p listed
  · intro q
    by_cases here : q = nic
    · subst here
      simp only [Function.update_self]
      exact (c.sinkOnce q).erase h
    · simp only [Function.update_of_ne here]
      exact c.sinkOnce q

theorem sourceSlots_sinkSlots (source : h ∈ sourceSlots) : h ∉ sinkSlots := by
  obtain ⟨i, -, rfl⟩ := List.mem_map.mp source
  intro sink
  obtain ⟨j, -, eq⟩ := List.mem_map.mp sink
  cases eq

theorem Consistent.source_only (c : m.Consistent) (listed : h ∈ m.sourceOrdered) (nic : Nat) :
    h ∉ m.sinkOrdered nic := fun sink =>
  sourceSlots_sinkSlots (c.source h listed).1 (c.sink nic h sink).1

theorem Consistent.sink_only (c : m.Consistent) {nic other : Nat} (listed : h ∈ m.sinkOrdered nic)
    (differ : other ≠ nic) : h ∉ m.sinkOrdered other := fun again =>
  differ ((c.sink other h again).2.1.symm.trans (c.sink nic h listed).2.1)

theorem detachedStream_stream (m : RTPStreamsManager) (h q : StreamHandle) :
    ∃ p, (m.detachedStream h).stream q = { m.stream q with attachedStream := p } := by
  unfold detachedStream
  cases m.matching h with
  | none => exact ⟨_, rfl⟩
  | some p =>
    simp only [setAttached_stream]
    split_ifs
    all_goals subst_vars
    all_goals exact ⟨_, rfl⟩

theorem detachedStream_lists (m : RTPStreamsManager) (h : StreamHandle) :
    (m.detachedStream h).sourceOrdered = m.sourceOrdered ∧
      (m.detachedStream h).sinkOrdered = m.sinkOrdered ∧
      ∀ q, ((m.detachedStream h).handlers q).active = (m.handlers q).active := by
  unfold detachedStream
  cases m.matching h with
  | none => exact ⟨rfl, rfl, fun _ => rfl⟩
  | some p =>
    refine ⟨rfl, rfl, fun q => ?_⟩
    simp only [setAttached_handlers]
    split_ifs
    all_goals subst_vars
    all_goals rfl

def takeSink (m : RTPStreamsManager) (h : StreamHandle) (nic : Nat) : RTPStreamsManager :=
  { m with sinkOrdered := Function.update m.sinkOrdered nic ((m.sinkOrdered nic).erase h) }.detachedStream h

theorem takeSink_sinkOrdered (m : RTPStreamsManager) (h : StreamHandle) (nic : Nat) :
    (m.takeSink h nic).sinkOrdered =
      Function.update m.sinkOrdered nic ((m.sinkOrdered nic).erase h) :=
  (detachedStream_lists _ h).2.1

theorem takeSink_sourceOrdered (m : RTPStreamsManager) (h : StreamHandle) (nic : Nat) :
    (m.takeSink h nic).sourceOrdered = m.sourceOrdered :=
  (detachedStream_lists _ h).1

theorem takeSink_unlisted (c : m.Consistent) {nic : Nat} (listed : h ∈ m.sinkOrdered nic) :
    ¬ (m.takeSink h nic).Listed h := by
  rintro (source | ⟨other, sink⟩)
  · rw [takeSink_sourceOrdered] at source
    exact c.source_only source nic listed
  · rw [takeSink_sinkOrdered] at sink
    by_cases here : other = nic
    · rw [here, Function.update_self] at sink
      exact (c.sinkOnce nic).not_mem_erase sink
    · rw [Function.update_of_ne here] at sink
      exact c.sink_only listed here sink

theorem removeSink_listed (c : m.Consistent) (ops : RTPAudioStreamOps) {nic : Nat}
    (listed : h ∈ m.sinkOrdered nic) :
    m.removeSink ops h nic = ((m.takeSink h nic).release ops h, true) := by
  have active : ((m.takeSink h nic).handlers h).active = true :=
    ((detachedStream_lists _ h).2.2 h).trans (c.sink nic h listed).2.2.1
  rw [removeSink, if_pos listed]
  exact if_pos active

theorem removeRTPStream_cases (c : m.Consistent) (ops : RTPAudioStreamOps) (h : StreamHandle) :
    (h ∈ m.sourceOrdered ∧ m.removeRTPStream ops h =
        ({ m with sourceOrdered := m.sourceOrdered.erase h }.release ops h, true)) ∨
    (∃ nic, h ∈ m.sinkOrdered nic ∧ m.removeRTPStream ops h =
        ((m.takeSink h nic).release ops h, true)) ∨
    (¬ m.Listed h ∧ m.removeRTPStream ops h = (m, false)) := by
  by_cases source : h ∈ m.sourceOrdered
  · have removed : m.removeSource ops h =
        ({ m with sourceOrdered := m.sourceOrdered.erase h }.release ops h, true) := by
      rw [removeSource, if_pos source]
      exact if_pos (c.source h source).2.1
    exact .inl ⟨source, by rw [removeRTPStream, removed]; rfl⟩
  have kept : m.removeSource ops h = (m, false) := by rw [removeSource, if_neg source]
  have unfolded : m.removeRTPStream ops h =
      (((m.removeSink ops h 0).1.removeSink ops h 1).1,
        (m.removeSink ops h 0).2 || ((m.removeSink ops h 0).1.removeSink ops h 1).2) := by
    rw [removeRTPStream, kept]
    rfl
  by_cases nic0 : h ∈ m.sinkOrdered 0
  · have first := removeSink_listed c ops nic0
    have gone : h ∉ ((m.takeSink h 0).release ops h).sinkOrdered 1 := by
      change h ∉ (m.takeSink h 0).sinkOrdered 1
      rw [takeSink_sinkOrdered, Function.update_of_ne Nat.one_ne_zero]
      exact c.sink_only nic0 Nat.one_ne_zero
    refine .inr (.inl ⟨0, nic0, ?_⟩)
    rw [unfolded, first, removeSink, if_neg gone]
    rfl
  have first : m.removeSink ops h 0 = (m, false) := by rw [removeSink, if_neg nic0]
  by_cases nic1 : h ∈ m.sinkOrdered 1
  · refine .inr (.inl ⟨1, nic1, ?_⟩)
    rw [unfolded, first, removeSink_listed c ops nic1]
    rfl
  · refine .inr (.inr ⟨?_, ?_⟩)
    · rintro (listed | ⟨nic, listed⟩)
      · exact source listed
      · obtain ⟨slot, onNic, -, -⟩ := c.sink nic h listed
        have below := sinkSlots_nic slot
        simp only [maxNics] at below
        obtain rfl | rfl : nic = 0 ∨ nic = 1 := by omega
        · exact nic0 listed
        · exact nic1 listed
    · rw [unfolded, first, removeSink, if_neg nic1]
      rfl

theorem removeRTPStream_consistent (c : m.Consistent) (ops : RTPAudioStreamOps) (h : StreamHandle) :
    (m.removeRTPStream ops h).1.Consistent := by
  rcases removeRTPStream_cases c ops h with ⟨listed, ends⟩ | ⟨nic, listed, ends⟩ | ⟨-, ends⟩
  · rw [ends]
    apply release_consistent (withoutSource_consistent c h) ops
    rintro (again | ⟨nic, sink⟩)
    · exact c.sourceOnce.not_mem_erase again
    · exact c.source_only listed nic sink
  · rw [ends]
    have taken := detachedStream_consistent (h := h) (withoutSink_consistent c h nic)
    exact release_consistent taken ops (takeSink_unlisted c listed)
  · rw [ends]
    exact c

theorem releaseAll (ops : RTPAudioStreamOps) (l : List StreamHandle) (c : m.Consistent)
    (unlisted : ∀ h ∈ l, ¬ m.Listed h) :
    let done := l.foldl (release · ops ·) m
    done.Consistent ∧ done.sourceOrdered = m.sourceOrdered ∧ done.sinkOrdered = m.sinkOrdered ∧
      (∀ p, (done.handlers p).active = true ↔ (m.handlers p).active = true ∧ p ∉ l) ∧
      ∀ p, done.attached p = m.attached p := by
  induction l generalizing m with
  | nil => exact ⟨c, rfl, rfl, by simp, fun _ => rfl⟩
  | cons q rest ih =>
    have noReader := (c.handler q).noReader
    have released := release_consistent c ops (unlisted q (List.mem_cons_self ..))
    obtain ⟨consistent, sources, sinks, active, attachment⟩ := ih released fun h listed =>
      unlisted h (List.mem_cons_of_mem _ listed)
    refine ⟨consistent, sources, sinks, fun p => ?_, fun p => ?_⟩
    · rw [List.foldl_cons, active p, release_handlers _ _ _ _ noReader]
      by_cases here : p = q
      · simp [here]
      · simp [here]
    · rw [List.foldl_cons, attachment p, release_attached _ _ _ _ noReader]

theorem removeAllRTPStreams_spec (c : m.Consistent) (ops : RTPAudioStreamOps) :
    (m.removeAllRTPStreams ops).Consistent ∧ ∀ p, ((m.removeAllRTPStreams ops).handlers p).active = false := by
  have start : { m with sourceOrdered := [] }.Consistent :=
    ⟨c.handler, c.netfilter, by simp, List.nodup_nil, c.sink, c.sinkOnce⟩
  have unlistedSource : ∀ h ∈ sourceSlots, ¬ { m with sourceOrdered := [] }.Listed h := by
    rintro h slot (listed | ⟨nic, listed⟩)
    · cases listed
    · exact sourceSlots_sinkSlots slot (c.sink nic h listed).1
  obtain ⟨c1, sources, -, active1, -⟩ := releaseAll ops sourceSlots start unlistedSource
  unfold removeAllRTPStreams
  generalize sourceSlots.foldl (release · ops ·) { m with sourceOrdered := [] } = m1 at *
  have middle : { m1 with sinkOrdered := fun _ => [] }.Consistent :=
    ⟨c1.handler, c1.netfilter, c1.source, c1.sourceOnce, by simp, fun _ => List.nodup_nil⟩
  have unlistedSink : ∀ h ∈ sinkSlots, ¬ { m1 with sinkOrdered := fun _ => [] }.Listed h := by
    rintro h slot (listed | ⟨nic, listed⟩)
    · exact absurd (sources ▸ listed) List.not_mem_nil
    · cases listed
  obtain ⟨c2, -, -, active2, -⟩ := releaseAll ops sinkSlots middle unlistedSink
  refine ⟨c2, fun p => ?_⟩
  rw [← Bool.not_eq_true, active2 p]
  rintro ⟨active, notSink⟩
  obtain ⟨active, notSource⟩ := (active1 p).mp active
  exact ((c.handler p).slot active).elim notSource notSink

theorem step_consistent {op : StreamsOp} (c : m.Consistent) (next : op.step m = .ok m') :
    m'.Consistent := by
  cases op with
  | add info ops =>
    cases next
    exact addRTPStream_consistent c info ops
  | remove h ops =>
    cases next
    exact removeRTPStream_consistent c ops h
  | removeAll ops =>
    cases next
    exact (removeAllRTPStreams_spec c ops).1
  | sendOutgoing ops skb livesOut =>
    obtain ⟨done, sent, last⟩ := map_eq_ok.mp next
    cases last
    exact (sendOutgoingPackets_same c sent).consistent c
  | processUDP ops nic packet =>
    obtain ⟨done, processed, last⟩ := map_eq_ok.mp next
    cases last
    exact (processUDPPacket_same processed).consistent c
  | prepareLives ops => exact (prepareBufferLivesAll_same c next).consistent c

/-- States that some history of calls reaches. -/
def Reachable (m : RTPStreamsManager) : Prop :=
  ∃ macAddress livesIn ops, Run (fun m op => StreamsOp.step m op) (fun _ _ => True)
    (init macAddress livesIn) ops m

theorem init_reachable (macAddress : Nat → MACAddress) (livesIn : RingMemory) :
    (init macAddress livesIn).Reachable :=
  ⟨macAddress, livesIn, [], .nil _⟩

theorem Reachable.step (reached : m.Reachable) (op : StreamsOp) (next : op.step m = .ok m') :
    m'.Reachable := by
  obtain ⟨macAddress, livesIn, ops, run⟩ := reached
  exact ⟨macAddress, livesIn, ops ++ [op], .snoc run trivial next⟩

theorem Reachable.consistent (reached : m.Reachable) : m.Consistent := by
  obtain ⟨macAddress, livesIn, ops, run⟩ := reached
  exact run.invariant _ (init_consistent macAddress livesIn) fun _ _ _ c _ next => step_consistent c next

end RTPStreamsManager

end RavennaLkm
