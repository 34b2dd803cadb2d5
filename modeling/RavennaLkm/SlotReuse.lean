import RavennaLkm.AlikeSinks
import RavennaLkm.Attachment
import RavennaLkm.Dispatch

/-!
A slot is used again. `Init` clears a whole stream, `Destroy` and `Create` only
a part of it. A sink in a used slot is compared with the same sink in a slot
that is as `init_` left it, over everything that may follow; sources never touch
what a sink shows.
-/
namespace RavennaLkm
open CheckedLoop GuardedRun PairedRuns

def StreamsCall.Renames : StreamsCall → Prop
  | .updateName _ _ => True
  | _ => False

/-- Packets, ticks and readings. -/
def StreamsCall.Uses : StreamsCall → Prop
  | .manage (.add _ _) | .manage (.remove _ _) | .manage (.removeAll _) | .updateName _ _ => False
  | _ => True

namespace RTPStreamsManager

variable {m m' : RTPStreamsManager} {h : StreamHandle} {info : RTPStreamInfo} {ops : RTPAudioStreamOps}

/-- The slot as `init_` left it. -/
def withNewHandler (m : RTPStreamsManager) (h : StreamHandle) : RTPStreamsManager :=
  m.setHandler h (.init (m.ethNetfilter (slotNic h)))

structure SameOutput (m m' : RTPStreamsManager) : Prop where
  livesIn : m'.livesIn = m.livesIn
  muted : ∀ ops n, RavennaLkm.livesInMuted (m'.stream (.sink n)) (m'.partnerOf (.sink n)) ops =
    RavennaLkm.livesInMuted (m.stream (.sink n)) (m.partnerOf (.sink n)) ops
  mutes : ∀ ops n, RavennaLkm.mutesFrame (m'.stream (.sink n)) (m'.partnerOf (.sink n)) ops =
    RavennaLkm.mutesFrame (m.stream (.sink n)) (m.partnerOf (.sink n)) ops
  status : ∀ h, (m'.getRTPStreamStatus h).2 = (m.getRTPStreamStatus h).2

structure SinksAlike (m m' : RTPStreamsManager) : Prop where
  left : m.Consistent
  right : m'.Consistent
  sinkOrdered : m'.sinkOrdered = m.sinkOrdered
  livesIn : m'.livesIn = m.livesIn
  stream : ∀ n, Alike (m.stream (.sink n)) (m'.stream (.sink n))

structure SinksKept (m m' : RTPStreamsManager) : Prop where
  sinkOrdered : m'.sinkOrdered = m.sinkOrdered
  livesIn : m'.livesIn = m.livesIn
  stream : ∀ n, m'.stream (.sink n) = m.stream (.sink n)

theorem SinksKept.refl (m : RTPStreamsManager) : SinksKept m m := ⟨rfl, rfl, fun _ => rfl⟩

theorem SinksKept.trans {m'' : RTPStreamsManager} (first : SinksKept m m') (then_ : SinksKept m' m'') :
    SinksKept m m'' where
  sinkOrdered := then_.sinkOrdered.trans first.sinkOrdered
  livesIn := then_.livesIn.trans first.livesIn
  stream n := (then_.stream n).trans (first.stream n)

theorem SinksAlike.kept {n n' : RTPStreamsManager} (alike : SinksAlike m m') (first : SinksKept m n)
    (second : SinksKept m' n') (c : n.Consistent) (c' : n'.Consistent) : SinksAlike n n' := by
  constructor
  · exact c
  · exact c'
  · rw [second.sinkOrdered, alike.sinkOrdered, first.sinkOrdered]
  · rw [second.livesIn, alike.livesIn, first.livesIn]
  · intro k
    rw [second.stream, first.stream]
    exact alike.stream k

theorem sink_of_slot (slot : h ∈ sinkSlots) : ∃ n, h = .sink n := by
  obtain ⟨n, -, isSink⟩ := List.mem_map.mp slot
  exact ⟨n, isSink.symm⟩

theorem source_of_slot (slot : h ∈ sourceSlots) : ∃ n, h = .source n := by
  obtain ⟨n, -, isSource⟩ := List.mem_map.mp slot
  exact ⟨n, isSource.symm⟩

theorem SinksAlike.partners (alike : SinksAlike m m') (n : Nat) :
    PartnersAlike (m.partnerOf (.sink n)) (m'.partnerOf (.sink n)) := by
  have same : m'.attached (.sink n) = m.attached (.sink n) := (alike.stream n).attached
  rw [partnerOf, partnerOf, same, PartnersAlike]
  cases isPartner : m.attached (.sink n) with
  | none => rfl
  | some p =>
    have pair := (alike.left.handler (.sink n)).partner p isPartner
    cases p with
    | source k => exact pair.elim
    | sink k => simp only [Option.map_some, (alike.stream k).lastSAC]

theorem SinksAlike.store {s t : RTPAudioStream} (alike : SinksAlike m m') (n : Nat) (streams : Alike s t)
    (mem : RingMemory) (first : SameStream (m.stream (.sink n)) s)
    (second : SameStream (m'.stream (.sink n)) t) :
    SinksAlike (m.storeStream (.sink n) s mem) (m'.storeStream (.sink n) t mem) := by
  constructor
  · exact (sameManager_store first mem).consistent alike.left
  · exact (sameManager_store second mem).consistent alike.right
  · exact alike.sinkOrdered
  · rfl
  · intro k
    rw [RTPStreamsManager.stream, RTPStreamsManager.stream, storeStream_handlers, storeStream_handlers]
    split
    · exact streams
    · exact alike.stream k

theorem SinksAlike.setStream {s t : RTPAudioStream} (alike : SinksAlike m m') (n : Nat) (streams : Alike s t)
    (first : SameStream (m.stream (.sink n)) s) (second : SameStream (m'.stream (.sink n)) t) :
    SinksAlike (m.setStream (.sink n) s) (m'.setStream (.sink n) t) := by
  have stored := alike.store n streams m.livesIn first second
  have here : m'.storeStream (.sink n) t m.livesIn = m'.setStream (.sink n) t := by
    rw [← alike.livesIn]
    rfl
  rw [here] at stored
  exact stored

theorem SinksAlike.processOne (alike : SinksAlike m m') (frame : RTPFrame) (n : Nat) :
    Agree (fun a b => SinksAlike a.1 b.1 ∧ b.2 = a.2) (m.processOne ops frame (.sink n))
      (m'.processOne ops frame (.sink n)) := by
  constructor
  intro a b first second
  obtain ⟨⟨s, mem, used⟩, run, last⟩ := bind_eq_ok.mp first
  obtain ⟨⟨t, mem', used'⟩, run', last'⟩ := bind_eq_ok.mp second
  cases last
  cases last'
  rw [alike.livesIn] at run'
  obtain ⟨streams, same⟩ :=
    ((alike.stream n).processRTPAudioPacket (alike.partners n) frame m.livesIn).both _ _ run run'
  cases same
  exact ⟨alike.store n streams mem (processRTPAudioPacket_same run) (processRTPAudioPacket_same run'), rfl⟩

theorem SinksAlike.processEach (frame : RTPFrame) (key : UInt64) (l : List StreamHandle)
    (sinks : ∀ h ∈ l, ∃ n, h = .sink n) (alike : SinksAlike m m') :
    Agree (fun a b => SinksAlike a.1 b.1) (processEach ops frame key l m) (processEach ops frame key l m') := by
  induction l generalizing m m' with
  | nil => exact agree_ok alike
  | cons h rest ih =>
    obtain ⟨n, rfl⟩ := sinks h (List.mem_cons_self ..)
    have others := fun h listed => sinks h (List.mem_cons_of_mem _ listed)
    unfold RTPStreamsManager.processEach
    apply agree_ite (by rw [(alike.stream n).info])
    · intro _
      refine Agree.bind (alike.processOne frame n) ?_
      intro a b processed
      refine Agree.bind (ih others processed.1) ?_
      intro c d alike
      exact agree_ok alike
    · intro _
      exact ih others alike

theorem SinksAlike.sinks (alike : SinksAlike m m') (nic : Nat) : ∀ h ∈ m.sinkOrdered nic, ∃ n, h = .sink n :=
  fun h listed => sink_of_slot (alike.left.sink nic h listed).1

theorem SinksAlike.processUDPPacket (alike : SinksAlike m m') (nicId : UInt8) (packet : List UInt8) :
    Agree (fun a b => SinksAlike a.1 b.1) (m.processUDPPacket ops nicId packet)
      (m'.processUDPPacket ops nicId packet) := by
  unfold RTPStreamsManager.processUDPPacket
  apply agree_ite Iff.rfl
  · intro _
    exact agree_ok alike
  · intro _
    split
    · apply agree_ite Iff.rfl
      · intro _
        exact agree_ok alike
      · intro _
        rw [alike.sinkOrdered]
        exact alike.processEach _ _ _ (alike.sinks nicId.toNat)
    · exact agree_ok alike

theorem SinksAlike.prepareEach (l : List StreamHandle) (sinks : ∀ h ∈ l, ∃ n, h = .sink n)
    (alike : SinksAlike m m') : Agree SinksAlike (prepareEach ops l m) (prepareEach ops l m') := by
  induction l generalizing m m' with
  | nil => exact agree_ok alike
  | cons h rest ih =>
    obtain ⟨n, rfl⟩ := sinks h (List.mem_cons_self ..)
    have others := fun h listed => sinks h (List.mem_cons_of_mem _ listed)
    constructor
    intro a b first second
    obtain ⟨⟨s, mem⟩, run, later⟩ := bind_eq_ok.mp first
    obtain ⟨⟨t, mem'⟩, run', later'⟩ := bind_eq_ok.mp second
    rw [alike.livesIn] at run'
    obtain ⟨streams, same⟩ :=
      ((alike.stream n).prepareBufferLives (alike.partners n) m.livesIn).both _ _ run run'
    cases same
    have stored := alike.store n streams mem (prepareBufferLives_same run) (prepareBufferLives_same run')
    exact (ih others stored).both a b later later'

theorem storeSource_kept (m : RTPStreamsManager) (n : Nat) (s : RTPAudioStream) :
    SinksKept m (m.setStream (.source n) s) :=
  ⟨rfl, rfl, fun _ => setStream_other s (by simp)⟩

theorem readerEnter_kept (l : List StreamHandle) (m : RTPStreamsManager) :
    SinksKept m (l.foldl readerEnter m) := by
  constructor
  · exact (enterAll l m).sinkOrdered
  · induction l generalizing m with
    | nil => rfl
    | cons h rest ih => exact (ih (m.readerEnter h)).trans rfl
  · intro n
    rw [stream, (enterAll l m).handler, stream]

theorem readerLeave_kept (l : List StreamHandle) (m : RTPStreamsManager)
    (active : ∀ h ∈ l, (m.handlers h).active = true) : SinksKept m (l.foldl (readerLeave · ops ·) m) := by
  constructor
  · exact (leaveAll ops l m active).sinkOrdered
  · induction l generalizing m with
    | nil => rfl
    | cons h rest ih =>
      have left : (m.handlers h).readerLeave ops m.livesIn = _ :=
        readerLeave_active _ m.livesIn (active h (List.mem_cons_self ..))
      rw [List.foldl_cons, ih, readerLeave, left]
      intro q listed
      rw [readerLeave, left]
      by_cases same : q = h
      · subst same
        rw [setHandler_same]
        exact active q (List.mem_cons_self ..)
      · exact (congrArg RTPAudioStreamHandler.active (setHandler_other _ same)).trans
          (active q (List.mem_cons_of_mem _ listed))
  · intro n
    rw [stream, (leaveAll ops l m active).handler, stream]

theorem prepareSources_kept (l : List StreamHandle) (prepared : prepareEach ops l m = .ok m')
    (sources : ∀ h ∈ l, ∃ n, h = .source n ∧ (m.stream h).rtpStreamInfo.source = true) : SinksKept m m' := by
  induction l generalizing m with
  | nil =>
    cases prepared
    exact .refl _
  | cons h rest ih =>
    obtain ⟨n, rfl, source⟩ := sources h (List.mem_cons_self ..)
    obtain ⟨⟨s, mem⟩, run, later⟩ := bind_eq_ok.mp prepared
    rw [prepareBufferLives_eq, if_pos source] at run
    cases run
    apply (storeSource_kept m n (m.stream (.source n))).trans
    apply ih later
    intro q listed
    obtain ⟨k, isK, source'⟩ := sources q (List.mem_cons_of_mem _ listed)
    refine ⟨k, isK, ?_⟩
    by_cases here : q = .source n
    · subst here
      exact (congrArg (·.rtpStreamInfo.source) (setStream_same ..)).trans source'
    · exact (congrArg (·.rtpStreamInfo.source) (setStream_other _ here)).trans source'

theorem sendFrom_kept {skb : Bool} {livesOut : RingMemory} {done : RTPStreamsManager × SendLog} {n : Nat}
    (pairs : ∀ p, m.attached (.source n) = some p → MayPair (.source n) p)
    (sent : m.sendFrom ops skb livesOut (.source n) = .ok done) : SinksKept m done.1 := by
  obtain ⟨st, run, rest⟩ := bind_eq_ok.mp sent
  simp only at rest
  split at rest
  · rename_i p t isPartner isT
    cases rest
    cases p with
    | sink k => exact (pairs _ isPartner).elim
    | source k => exact (storeSource_kept m n _).trans (storeSource_kept _ k _)
  · cases rest
    exact storeSource_kept m n _

theorem sendEach_kept {skb : Bool} {livesOut : RingMemory} {done : RTPStreamsManager × SendLog}
    (l : List StreamHandle) (sources : ∀ h ∈ l, ∃ n, h = .source n)
    (pairs : ∀ h p, m.attached h = some p → MayPair h p)
    (sent : sendEach ops skb livesOut l m = .ok done) : SinksKept m done.1 := by
  induction l generalizing m done with
  | nil =>
    cases sent
    exact .refl m
  | cons h rest ih =>
    obtain ⟨n, rfl⟩ := sources h (List.mem_cons_self ..)
    obtain ⟨first, run, others⟩ := bind_eq_ok.mp sent
    obtain ⟨later, run', last⟩ := bind_eq_ok.mp others
    cases last
    have same := sendFrom_same (fun self => (pairs _ _ self).ne rfl) run
    apply (sendFrom_kept (pairs _) run).trans
    apply ih (fun h listed => sources h (List.mem_cons_of_mem _ listed)) _ run'
    intro q p isPartner
    apply pairs q p
    rw [← isPartner, attached, attached, (same.stream q).attached]

theorem sendOutgoingPackets_kept {skb : Bool} {livesOut : RingMemory}
    {done : RTPStreamsManager × SendLog} (c : m.Consistent)
    (sent : m.sendOutgoingPackets ops skb livesOut = .ok done) : SinksKept m done.1 := by
  obtain ⟨pass, run, last⟩ := bind_eq_ok.mp sent
  cases last
  have entered := enterAll m.sourceOrdered m
  have pairs : ∀ h p, (m.sourceOrdered.foldl readerEnter m).attached h = some p → MayPair h p := by
    intro h p isPartner
    rw [attached, stream, entered.handler] at isPartner
    exact (c.handler h).partner p isPartner
  have same := sendEach_same _ (fun h self => (pairs h h self).ne rfl) run
  apply (readerEnter_kept m.sourceOrdered m).trans
  apply (sendEach_kept _ (fun h listed => source_of_slot (c.source h listed).1) pairs run).trans
  apply readerLeave_kept
  intro h listed
  rw [same.active, entered.handler]
  exact c.active (.inl listed)

theorem prepareSources_sinks {pass : RTPStreamsManager} (c : m.Consistent)
    (run : RTPStreamsManager.prepareEach ops m.sourceOrdered (m.sourceOrdered.foldl readerEnter m) = .ok pass) :
    (m.sourceOrdered.foldl (readerLeave · ops ·) pass).Consistent ∧
      SinksKept m (m.sourceOrdered.foldl (readerLeave · ops ·) pass) := by
  have entered := enterAll m.sourceOrdered m
  have same := prepareEach_same _ run
  refine ⟨(sameManager_of_pass m.sourceOrdered (fun h listed => c.active (.inl listed)) same).consistent c, ?_⟩
  apply (readerEnter_kept m.sourceOrdered m).trans
  apply (prepareSources_kept _ run _).trans
  · apply readerLeave_kept
    intro h listed
    rw [same.active, entered.handler]
    exact c.active (.inl listed)
  · intro h listed
    obtain ⟨slot, -, accepted⟩ := c.source h listed
    obtain ⟨n, isSource⟩ := source_of_slot slot
    rw [RTPStreamsManager.stream, entered.handler]
    exact ⟨n, isSource, accepted.source⟩

theorem SinksAlike.prepareBufferLivesAll (alike : SinksAlike m m') :
    Agree SinksAlike (m.prepareBufferLivesAll ops) (m'.prepareBufferLivesAll ops) := by
  constructor
  intro a b first second
  obtain ⟨pass, run, rest⟩ := bind_eq_ok.mp first
  obtain ⟨pass', run', rest'⟩ := bind_eq_ok.mp second
  obtain ⟨c, kept⟩ := prepareSources_sinks alike.left run
  obtain ⟨c', kept'⟩ := prepareSources_sinks alike.right run'
  have between := alike.kept kept kept' c c'
  obtain ⟨nic0, run0, run1⟩ := bind_eq_ok.mp rest
  obtain ⟨nic0', run0', run1'⟩ := bind_eq_ok.mp rest'
  rw [between.sinkOrdered] at run0'
  have after := (between.prepareEach _ (between.sinks 0)).both nic0 nic0' run0 run0'
  rw [after.sinkOrdered] at run1'
  exact (after.prepareEach _ (after.sinks 1)).both a b run1 run1'

theorem statusIn_same (m : RTPStreamsManager) (h : StreamHandle) (l : List StreamHandle) :
    m.SameManager (m.statusIn h l).1 := by
  unfold statusIn
  split
  · exact sameManager_store (getRTPStreamStatus_same _) m.livesIn
  · exact .refl m

theorem statusIn_sources (c : m.Consistent) (h : StreamHandle) : m.statusIn h m.sourceOrdered = (m, none) := by
  unfold statusIn
  split
  · rename_i listed
    have source := (c.source h listed).2.2.source
    rw [RavennaLkm.getRTPStreamStatus, if_pos source]
    exact congrArg (·, none) (congrArg (fun x => { m with handlers := x }) (Function.update_eq_self h m.handlers))
  · rfl

theorem getRTPStreamStatus_eq (c : m.Consistent) (h : StreamHandle) :
    m.getRTPStreamStatus h = m.sinkStatus h := by
  unfold getRTPStreamStatus
  rw [statusIn_sources c]
  rfl

theorem SinksAlike.statusIn (alike : SinksAlike m m') (h : StreamHandle) (nic : Nat) :
    SinksAlike (m.statusIn h (m.sinkOrdered nic)).1 (m'.statusIn h (m'.sinkOrdered nic)).1 ∧
      (m'.statusIn h (m'.sinkOrdered nic)).2 = (m.statusIn h (m.sinkOrdered nic)).2 := by
  rw [alike.sinkOrdered, RTPStreamsManager.statusIn, RTPStreamsManager.statusIn]
  split
  · rename_i listed
    obtain ⟨n, rfl⟩ := alike.sinks nic h listed
    obtain ⟨streams, same⟩ := (alike.stream n).getRTPStreamStatus
    exact ⟨alike.setStream n streams (getRTPStreamStatus_same _) (getRTPStreamStatus_same _), same⟩
  · exact ⟨alike, rfl⟩

theorem SinksAlike.getRTPStreamStatus (alike : SinksAlike m m') (h : StreamHandle) :
    SinksAlike (m.getRTPStreamStatus h).1 (m'.getRTPStreamStatus h).1 ∧
      (m'.getRTPStreamStatus h).2 = (m.getRTPStreamStatus h).2 := by
  obtain ⟨first, same⟩ := alike.statusIn h 0
  obtain ⟨second, same'⟩ := first.statusIn h 1
  rw [getRTPStreamStatus_eq alike.left, getRTPStreamStatus_eq alike.right]
  exact ⟨second, congrArg₂ (· <|> ·) same' same⟩

theorem sinkAheadTimes_same (l : List StreamHandle) (first : Bool) (m : RTPStreamsManager) (least : UInt32) :
    m.SameManager (sinkAheadTimes l first (m, least)).1 := by
  induction l generalizing first m least with
  | nil => exact .refl m
  | cons h rest ih =>
    have here : m.SameManager (m.setStream h (getStatsSinkAheadTime (m.stream h)).1) :=
      sameManager_store (getStatsSinkAheadTime_same _) m.livesIn
    exact here.trans (ih _ _ _)

theorem SinksAlike.sinkAheadTimes (l : List StreamHandle) (sinks : ∀ h ∈ l, ∃ n, h = .sink n) (first : Bool)
    (least least' : UInt32) (alike : SinksAlike m m') :
    SinksAlike (sinkAheadTimes l first (m, least)).1 (sinkAheadTimes l first (m', least')).1 := by
  induction l generalizing first m m' least least' with
  | nil => exact alike
  | cons h rest ih =>
    obtain ⟨n, rfl⟩ := sinks h (List.mem_cons_self ..)
    apply ih fun h listed => sinks h (List.mem_cons_of_mem _ listed)
    exact alike.setStream n (alike.stream n).getStatsSinkAheadTime (getStatsSinkAheadTime_same _)
      (getStatsSinkAheadTime_same _)

theorem SinksAlike.getMinSinkAheadTime (alike : SinksAlike m m') :
    SinksAlike m.getMinSinkAheadTime.1 m'.getMinSinkAheadTime.1 := by
  have nic0 : SinksAlike (RTPStreamsManager.sinkAheadTimes (m.sinkOrdered 0) true (m, 0)).1
      (RTPStreamsManager.sinkAheadTimes (m'.sinkOrdered 0) true (m', 0)).1 := by
    rw [alike.sinkOrdered]
    exact alike.sinkAheadTimes _ (alike.sinks 0) true 0 0
  simp only [RTPStreamsManager.getMinSinkAheadTime, nic0.sinkOrdered]
  exact nic0.sinkAheadTimes _ (nic0.sinks 1) true _ _

theorem SinksAlike.sameOutput (alike : SinksAlike m m') : SameOutput m m' where
  livesIn := alike.livesIn
  muted _ n := (alike.stream n).livesInMuted (alike.partners n)
  mutes _ n := (alike.stream n).mutesFrame (alike.partners n)
  status h := (alike.getRTPStreamStatus h).2

theorem call_consistent {call : StreamsCall} (c : m.Consistent) (named : ¬ call.Renames)
    (next : call.step m = .ok m') : m'.Consistent := by
  cases call with
  | manage op => exact RTPStreamsManager.step_consistent c next
  | updateName h cName => exact absurd trivial named
  | status h =>
    cases next
    rw [getRTPStreamStatus_eq c]
    exact ((statusIn_same m h _).trans (statusIn_same _ h _)).consistent c
  | minSinkAheadTime result =>
    cases next
    cases result with
    | false => exact c
    | true =>
      have nic0 := sinkAheadTimes_same (m.sinkOrdered 0) true m 0
      exact (nic0.trans (sinkAheadTimes_same _ true _ _)).consistent c
  | numberOfSources | numberOfSinks | sinkStatsFromTIC _ _ | minMaxSinksJitter _ =>
    cases next
    exact c

theorem SinksAlike.step {call : StreamsCall} (alike : SinksAlike m m') (uses : call.Uses) :
    Agree SinksAlike (call.step m) (call.step m') := by
  cases call with
  | manage op =>
    cases op with
    | add info ops => exact uses.elim
    | remove h ops => exact uses.elim
    | removeAll ops => exact uses.elim
    | sendOutgoing ops skb livesOut =>
      constructor
      intro a b first second
      obtain ⟨done, sent, rfl⟩ := map_eq_ok.mp first
      obtain ⟨done', sent', rfl⟩ := map_eq_ok.mp second
      exact alike.kept (sendOutgoingPackets_kept alike.left sent) (sendOutgoingPackets_kept alike.right sent')
        ((sendOutgoingPackets_same alike.left sent).consistent alike.left)
        ((sendOutgoingPackets_same alike.right sent').consistent alike.right)
    | processUDP ops nicId packet =>
      exact (alike.processUDPPacket nicId packet).map fun _ _ alike => alike
    | prepareLives ops => exact alike.prepareBufferLivesAll
  | updateName h cName => exact uses.elim
  | status h => exact agree_ok (alike.getRTPStreamStatus h).1
  | minSinkAheadTime result =>
    cases result with
    | false => exact agree_ok alike
    | true => exact agree_ok alike.getMinSinkAheadTime
  | numberOfSources | numberOfSinks | sinkStatsFromTIC _ _ | minMaxSinksJitter _ => exact agree_ok alike

theorem withNewHandler_oneSlot (m : RTPStreamsManager) (h : StreamHandle) : OneSlot h m (m.withNewHandler h) :=
  oneSlot_setHandler m h _

theorem withNewHandler_consistent (c : m.Consistent) (usable : m.usableHandler info = some h) :
    (m.withNewHandler h).Consistent := by
  have nic := c.netfilter _ (usable_nic c usable).2
  apply c.oneSlot (withNewHandler_oneSlot m h)
  · rw [withNewHandler, setHandler_same]
    constructor
    · rfl
    · intro _
      rfl
    · exact nic
    · exact nic
    · intro p isPartner
      cases isPartner
    · intro active
      cases active
  · intro listed
    have active := c.active listed
    rw [(usableHandler_free usable).2.1] at active
    cases active

theorem withNewHandler_usable (c : m.Consistent) (usable : m.usableHandler info = some h) :
    (m.withNewHandler h).usableHandler info = some h := by
  obtain ⟨-, inactive, noReader, -⟩ := usableHandler_free usable
  rw [← usable, usableHandler, usableHandler]
  apply List.find?_congr
  intro q _
  by_cases here : q = h
  · subst here
    have nic : (m.ethNetfilter (slotNic q)).nicId = (m.handlers q).nicId := by
      rw [c.netfilter _ (usable_nic c usable).2, (c.handler q).nic]
    rw [withNewHandler, setHandler_same, RTPAudioStreamHandler.init, nic]
    simp [RTPAudioStreamHandler.isFree, inactive, noReader]
  · rw [withNewHandler, setHandler_other _ here]

theorem withNewHandler_matching (c : m.Consistent) (usable : m.usableHandler info = some h) :
    (m.withNewHandler h).matchingInfo info = m.matchingInfo info := by
  rw [matchingInfo, matchingInfo]
  apply List.find?_congr
  intro p listed
  have other : p ≠ h := by
    intro same
    subst same
    have isListed : m.Listed p := by
      split at listed
      · exact .inl listed
      · exact .inr ⟨_, listed⟩
    have active := c.active isListed
    rw [(usableHandler_free usable).2.1] at active
    cases active
  rw [RTPStreamsManager.id, RTPStreamsManager.id, withNewHandler, stream, setHandler_other _ other, stream]

theorem withNewHandler_stream (m : RTPStreamsManager) (h : StreamHandle) :
    (m.withNewHandler h).stream h = { ethNetfilter := m.ethNetfilter (slotNic h) } := by
  rw [withNewHandler, stream, setHandler_same]
  rfl

end RTPStreamsManager

structure NothingLeft (s : RTPAudioStream) : Prop where
  lastSAC : s.lastAudioSampleReceivedSAC = 0
  seqNum : s.incomingSeqNum = 0
  nextSAC : s.lastRTPSAC + s.lastRTPLengthInSamples = 0
  mutedFrames : s.livesInDMCounter = 0
  seqIdErrors : s.wrongRTPSeqIdCounter = s.wrongRTPSeqIdLastCounter
  ssrcErrors : s.wrongRTPSSRCCounter = s.wrongRTPSSRCLastCounter
  payloadTypeErrors : s.wrongRTPPayloadTypeCounter = s.wrongRTPPayloadTypeLastCounter
  sacErrors : s.wrongRTPSACCounter = s.wrongRTPSACLastCounter
  packets : s.rtpPacketCounter = s.rtpPacketLastCounter
  status : s.streamStatus = {}

theorem create_sink_eq {s : RTPAudioStream} {info : RTPStreamInfo} {ops : RTPAudioStreamOps}
    {nf : EtherTubeNetfilter} {mem : RingMemory} (sink : info.source = false)
    (created : (create s info ops nf mem).2.2 = true) :
    ∃ lives convert, (create s info ops nf mem).1 = { s with
        toRTPStream := rtpStreamInit s.toRTPStream nf info
        audioEngineSampleWordLength := 4
        livesInCircularBuffer := lives
        mtConvertInterleaveToMapped := convert
        livesInitialized := true } ∧
      (create s info ops nf mem).2.1 =
        muteLivesIn (create s info ops nf mem).1 ops 0 ops.liveInJitterBufferLength mem := by
  have idle := ((create_succeeds_iff s info ops nf mem).mp created).1
  simp only [create, idle, sink] at created ⊢
  obtain ⟨routed, converts⟩ := (createSink_succeeds_iff _ _ _ _).mp created
  have rings := (routeLivesIn_snd ops info s.livesInCircularBuffer info.nbOfChannels.toNat).mpr routed
  obtain ⟨f, isF⟩ := Option.isSome_iff_exists.mp converts
  simp only [createSink, rings, isF, if_true, Bool.false_eq_true, if_false]
  exact ⟨_, _, rfl, rfl⟩

/-- A created sink is alike in both slots, once both are attached to the same stream. -/
theorem create_alike {s : RTPAudioStream} {info : RTPStreamInfo} {ops : RTPAudioStreamOps}
    {nf : EtherTubeNetfilter} {mem : RingMemory} (nf₀ : EtherTubeNetfilter) (left : NothingLeft s)
    (sink : info.source = false)
    (created : (create s info ops nf mem).2.2 = true) (p : Option StreamHandle) :
    (create { ethNetfilter := nf₀ } info ops nf mem).2.2 = true ∧
      Alike { (create { ethNetfilter := nf₀ } info ops nf mem).1 with attachedStream := p }
        { (create s info ops nf mem).1 with attachedStream := p } ∧
      (create s info ops nf mem).2.1 = (create { ethNetfilter := nf₀ } info ops nf mem).2.1 := by
  have accepts := ((create_succeeds_iff s info ops nf mem).mp created).2
  have created₀ : (create { ethNetfilter := nf₀ } info ops nf mem).2.2 = true :=
    (create_succeeds_iff _ info ops nf mem).mpr ⟨rfl, accepts⟩
  have made := create_sink sink created
  have made₀ := create_sink sink created₀
  obtain ⟨lives, convert, isStream, muted⟩ := create_sink_eq sink created
  obtain ⟨lives₀, convert₀, isStream₀, muted₀⟩ := create_sink_eq sink created₀
  have alike : Alike { (create { ethNetfilter := nf₀ } info ops nf mem).1 with attachedStream := p }
      { (create s info ops nf mem).1 with attachedStream := p } := by
    constructor
    case info => exact made.info_eq.trans made₀.info_eq.symm
    case rings =>
      intro us below
      have bound : us < info.nbOfChannels.toNat := by rwa [← made₀.info_eq]
      exact (made.rings us bound).trans (made₀.rings us bound).symm
    case wordLength => exact made.wordLength.trans made₀.wordLength.symm
    case convert => exact made.convert.trans made₀.convert.symm
    case attached => rfl
    all_goals simp only [isStream, isStream₀, rtpStreamInit]
    case lastSAC => exact left.lastSAC
    case seqNum => exact left.seqNum
    case nextSAC => exact left.nextSAC
    case mutedFrames => exact left.mutedFrames
    case seqIdErrors => simp [left.seqIdErrors]
    case ssrcErrors => simp [left.ssrcErrors]
    case payloadTypeErrors => simp [left.payloadTypeErrors]
    case sacErrors => simp [left.sacErrors]
    case packets => simp [left.packets]
    case status => exact left.status
    case reset => simp
  refine ⟨created₀, alike, ?_⟩
  rw [muted, muted₀]
  exact alike.muteLivesIn 0 ops.liveInJitterBufferLength mem

namespace RTPStreamsManager

variable {m m' : RTPStreamsManager} {h : StreamHandle} {info : RTPStreamInfo} {ops : RTPAudioStreamOps}

/-- A stream in the slot `h` shows nothing of what was there before. -/
def ShowsNothingLeft (m : RTPStreamsManager) (info : RTPStreamInfo) (h : StreamHandle) : Prop :=
  info.source = true ∨
    (NothingLeft (m.stream h) ∧ (m.attached h = none ∨ (m.matchingInfo info).isSome = true))

theorem addRTPStream_accepted (accepted : (m.addRTPStream info ops).2 = some h) :
    addable info = true ∧ m.usableHandler info = some h ∧ (m.createIn info ops h).2 = true ∧
      m.listFull info = false ∧
      (m.addRTPStream info ops).1 = ((m.createIn info ops h).1.attachedStream h).insertStream info h := by
  rcases m.addRTPStream_cases info ops with ⟨ends, -⟩ | ⟨h', ok, usable, ends⟩
  · rw [ends] at accepted
    cases accepted
  rcases ends with ⟨-, ends⟩ | ⟨created, ⟨-, ends⟩ | ⟨room, ends⟩⟩
  · rw [ends] at accepted
    cases accepted
  · rw [ends] at accepted
    cases accepted
  · rw [ends] at accepted ⊢
    cases accepted
    rw [listFull_createIn] at room
    exact ⟨ok, usable, created, room, rfl⟩

theorem addRTPStream_eq (ok : addable info = true) (usable : m.usableHandler info = some h)
    (created : (m.createIn info ops h).2 = true) (room : m.listFull info = false) :
    m.addRTPStream info ops =
      (((m.createIn info ops h).1.attachedStream h).insertStream info h, some h) := by
  simp only [addRTPStream, ok, if_true, usable, created, listFull_createIn, room, Bool.false_eq_true, if_false]

theorem attachedStream_livesIn (m : RTPStreamsManager) (h : StreamHandle) :
    (m.attachedStream h).livesIn = m.livesIn := by
  unfold attachedStream
  cases m.matching h with
  | none => rfl
  | some p => rfl

theorem insertStream_livesIn (m : RTPStreamsManager) (info : RTPStreamInfo) (h : StreamHandle) :
    (m.insertStream info h).livesIn = m.livesIn := by
  rw [insertStream]
  split <;> rfl

theorem insertStream_sinkOrdered (m : RTPStreamsManager) (info : RTPStreamInfo) (h : StreamHandle) :
    (m.insertStream info h).sinkOrdered =
      if info.source then m.sinkOrdered
      else Function.update m.sinkOrdered info.ifPortId.toUInt8.toNat
        (m.sinkOrdered info.ifPortId.toUInt8.toNat ++ [h]) := by
  rw [insertStream]
  split <;> rfl

theorem withNewHandler_accepted (c : m.Consistent) (accepted : (m.addRTPStream info ops).2 = some h) :
    (m.withNewHandler h).addRTPStream info ops =
      ((((m.withNewHandler h).createIn info ops h).1.attachedStream h).insertStream info h, some h) := by
  obtain ⟨ok, usable, created, room, -⟩ := addRTPStream_accepted accepted
  have usable' := withNewHandler_usable c usable
  apply addRTPStream_eq ok usable' _ room
  rw [createIn_accepts (withNewHandler_consistent c usable) ops usable']
  exact (createIn_accepts c ops usable).mp created

theorem addSource_kept (c : m.Consistent) (source : info.source = true)
    (accepted : (m.addRTPStream info ops).2 = some h) : SinksKept m (m.addRTPStream info ops).1 := by
  obtain ⟨-, usable, -, -, added⟩ := addRTPStream_accepted accepted
  have slot := (usableHandler_free usable).1
  rw [source] at slot
  obtain ⟨n, rfl⟩ := source_of_slot slot
  have idle := (c.handler (.source n)).idle (usableHandler_free usable).2.1
  rw [added]
  constructor
  · rw [insertStream, if_pos source]
    exact ((m.createIn info ops (.source n)).1.attachedStream_lists _).2.1
  · have rings : (create (m.stream (.source n)) info ops (m.ethNetfilter info.ifPortId.toNat) m.livesIn).2.1 =
        m.livesIn := by
      simp only [create, source, if_true]
      split <;> rfl
    rw [insertStream, if_pos source]
    refine (attachedStream_livesIn _ _).trans ?_
    rw [createIn, acquire_stream]
    exact rings
  · intro k
    have notHere : StreamHandle.sink k ≠ .source n := by simp
    rw [insertStream_stream, attachedStream]
    cases found : (m.createIn info ops (.source n)).1.matching (.source n) with
    | none => exact createIn_other m info ops notHere
    | some p =>
      have pair := createIn_attachable c usable p found
      cases p with
      | sink j => exact pair.elim
      | source j =>
        simp only [setAttached_stream]
        exact createIn_other m info ops notHere

theorem addSink_alike (c : m.Consistent) (sink : info.source = false)
    (accepted : (m.addRTPStream info ops).2 = some h) (left : NothingLeft (m.stream h))
    (free : m.attached h = none ∨ (m.matchingInfo info).isSome = true) :
    SinksAlike ((m.withNewHandler h).addRTPStream info ops).1 (m.addRTPStream info ops).1 := by
  obtain ⟨ok, usable, created, room, added⟩ := addRTPStream_accepted accepted
  have c₀ := withNewHandler_consistent c usable
  have usable₀ := withNewHandler_usable c usable
  have slot := (usableHandler_free usable).1
  rw [sink] at slot
  obtain ⟨n, rfl⟩ := sink_of_slot slot
  have partner := matching_createIn c ops usable
  have partner₀ := matching_createIn c₀ ops usable₀
  rw [withNewHandler_matching c usable] at partner₀
  rw [createIn_snd] at created
  have streams := fun p => create_alike (m.ethNetfilter (slotNic (.sink n))) left sink created p
  have mem : (m.createIn info ops (.sink n)).1.livesIn =
      ((m.withNewHandler (.sink n)).createIn info ops (.sink n)).1.livesIn := by
    rw [createIn, createIn, acquire_stream, acquire_stream, withNewHandler_stream]
    exact (streams none).2.2
  have others : ∀ k, k ≠ n → (m.createIn info ops (.sink n)).1.stream (.sink k) =
      ((m.withNewHandler (.sink n)).createIn info ops (.sink n)).1.stream (.sink k) := by
    intro k other
    have notHere : StreamHandle.sink k ≠ .sink n := by simpa using other
    rw [createIn_other m info ops notHere, createIn_other _ info ops notHere, withNewHandler, stream, stream,
      setHandler_other _ notHere]
  have here : ∀ p, Alike
      { ((m.withNewHandler (.sink n)).createIn info ops (.sink n)).1.stream (.sink n) with attachedStream := p }
      { (m.createIn info ops (.sink n)).1.stream (.sink n) with attachedStream := p } := by
    intro p
    rw [createIn_stream, createIn_stream, withNewHandler_stream]
    exact (streams p).2.1
  constructor
  · exact addRTPStream_consistent c₀ info ops
  · exact addRTPStream_consistent c info ops
  · rw [added, withNewHandler_accepted c accepted, insertStream_sinkOrdered, insertStream_sinkOrdered,
      (attachedStream_lists _ _).2.1, (attachedStream_lists _ _).2.1]
    rfl
  · rw [added, withNewHandler_accepted c accepted, insertStream_livesIn, insertStream_livesIn,
      attachedStream_livesIn, attachedStream_livesIn]
    exact mem
  · intro k
    rw [added, withNewHandler_accepted c accepted, insertStream_stream, insertStream_stream, attachedStream,
      attachedStream, partner, partner₀]
    cases found : m.matchingInfo info with
    | none =>
      have unattached : m.attached (.sink n) = none := by simpa [found] using free
      by_cases same : k = n
      · subst same
        have isAttached := (createIn_info c usable ops).2
        have isAttached₀ := (createIn_info c₀ usable₀ ops).2
        rw [unattached] at isAttached
        rw [attached, attached, withNewHandler_stream] at isAttached₀
        exact { here none with attached := isAttached.trans isAttached₀.symm }
      · rw [others k same]
        exact .refl _
    | some p =>
      have notHere : p ≠ .sink n := (createIn_attachable c usable p (partner.trans found)).ne
      simp only [setAttached_stream, if_neg notHere]
      by_cases isPartner : StreamHandle.sink k = p
      · subst isPartner
        rw [if_pos rfl, if_pos rfl, others k (by simpa using notHere)]
        exact .refl _
      · rw [if_neg isPartner, if_neg isPartner]
        by_cases same : k = n
        · subst same
          rw [if_pos rfl, if_pos rfl]
          exact here (some p)
        · have other : StreamHandle.sink k ≠ .sink n := by simpa using same
          rw [if_neg other, if_neg other, others k same]
          exact .refl _

theorem addSource_alike (c : m.Consistent) (source : info.source = true)
    (accepted : (m.addRTPStream info ops).2 = some h) :
    SinksAlike ((m.withNewHandler h).addRTPStream info ops).1 (m.addRTPStream info ops).1 := by
  obtain ⟨-, usable, -, -, -⟩ := addRTPStream_accepted accepted
  have c₀ := withNewHandler_consistent c usable
  have accepted₀ : ((m.withNewHandler h).addRTPStream info ops).2 = some h := by
    rw [withNewHandler_accepted c accepted]
  have slot := (usableHandler_free usable).1
  rw [source] at slot
  obtain ⟨n, rfl⟩ := source_of_slot slot
  have same : SinksAlike (m.withNewHandler (.source n)) m := by
    constructor
    · exact c₀
    · exact c
    · rfl
    · rfl
    · intro k
      rw [withNewHandler, stream, stream, setHandler_other _ (by simp)]
      exact .refl _
  exact same.kept (addSource_kept c₀ source accepted₀) (addSource_kept c source accepted)
    (addRTPStream_consistent c₀ info ops) (addRTPStream_consistent c info ops)

/-- A stream in a used slot and the same stream in a new slot show the same, whatever follows, if
nothing is left in the slot that a sink would show. -/
theorem slot_reuse_unseen {macAddress : Nat → MACAddress} {livesIn : RingMemory}
    {history events : List StreamsCall} {used fresh : RTPStreamsManager}
    (reached : Run StreamsCall.step (fun _ call => ¬ call.Renames) (init macAddress livesIn) history m)
    (accepted : (m.addRTPStream info ops).2 = some h) (left : m.ShowsNothingLeft info h)
    (inUsed : Run StreamsCall.step (fun _ call => call.Uses) (m.addRTPStream info ops).1 events used)
    (inNew : Run StreamsCall.step (fun _ call => call.Uses) ((m.withNewHandler h).addRTPStream info ops).1
      events fresh) : SameOutput fresh used := by
  have c : m.Consistent := reached.invariant Consistent (init_consistent macAddress livesIn)
    fun _ _ _ c named next => call_consistent c named next
  have start : SinksAlike ((m.withNewHandler h).addRTPStream info ops).1 (m.addRTPStream info ops).1 := by
    cases kind : info.source with
    | true => exact addSource_alike c kind accepted
    | false =>
      rcases left with source | ⟨nothing, free⟩
      · rw [kind] at source
        cases source
      · exact addSink_alike c kind accepted nothing free
  exact (run_related inNew inUsed start fun _ _ _ alike uses => alike.step uses).sameOutput

def sinkCameAndWent (meanwhile : List StreamsCall) : List StreamsCall :=
  [.manage (.add (monoSink 0) oneLiveInOps)] ++ meanwhile ++ [.manage (.remove (.sink 0) oneLiveInOps)]

theorem slot_reuse_unseen_unused :
    ∃ m used fresh, Run StreamsCall.step (fun _ call => ¬ call.Renames) (init (fun _ => {}) fun _ => {})
        (sinkCameAndWent []) m ∧
      Run StreamsCall.step (fun _ call => call.Uses) (m.addRTPStream (monoSink 0) oneLiveInOps).1
        [.manage (.prepareLives oneLiveInOps), .status (.sink 0)] used ∧
      Run StreamsCall.step (fun _ call => call.Uses)
        ((m.withNewHandler (.sink 0)).addRTPStream (monoSink 0) oneLiveInOps).1
        [.manage (.prepareLives oneLiveInOps), .status (.sink 0)] fresh ∧ SameOutput fresh used := by
  have reached : ∃ m, Run StreamsCall.step (fun _ call => ¬ call.Renames) (init (fun _ => {}) fun _ => {})
      (sinkCameAndWent []) m ∧ (m.addRTPStream (monoSink 0) oneLiveInOps).2 = some (.sink 0) ∧
      m.ShowsNothingLeft (monoSink 0) (.sink 0) ∧
      (∃ used, Run StreamsCall.step (fun _ call => call.Uses) (m.addRTPStream (monoSink 0) oneLiveInOps).1
        [.manage (.prepareLives oneLiveInOps), .status (.sink 0)] used) ∧
      ∃ fresh, Run StreamsCall.step (fun _ call => call.Uses)
        ((m.withNewHandler (.sink 0)).addRTPStream (monoSink 0) oneLiveInOps).1
        [.manage (.prepareLives oneLiveInOps), .status (.sink 0)] fresh := by
    refine ⟨_, .snoc (.snoc (.nil _) ?_ rfl) ?_ rfl, rfl, .inr ⟨?_, .inl rfl⟩, ?_, ?_⟩
    · exact fun no => no
    · exact fun no => no
    · exact ⟨rfl, rfl, rfl, rfl, rfl, rfl, rfl, rfl, rfl, rfl⟩
    · refine ⟨_, .snoc (.snoc (.nil _) ?_ rfl) ?_ rfl⟩
      · exact trivial
      · exact trivial
    · refine ⟨_, .snoc (.snoc (.nil _) ?_ rfl) ?_ rfl⟩
      · exact trivial
      · exact trivial
  obtain ⟨m, history, accepted, left, ⟨used, inUsed⟩, fresh, inNew⟩ := reached
  exact ⟨m, used, fresh, history, inUsed, inNew, slot_reuse_unseen history accepted left inUsed inNew⟩

/-- The new sink shows that the old one was muted. -/
theorem old_status_shown :
    ∃ m, Run StreamsCall.step (fun _ call => ¬ call.Renames) (init (fun _ => {}) fun _ => {})
        (sinkCameAndWent [.manage (.prepareLives oneLiveInOps)]) m ∧
      (m.addRTPStream (monoSink 0) oneLiveInOps).2 = some (.sink 0) ∧
      ¬ SameOutput ((m.withNewHandler (.sink 0)).addRTPStream (monoSink 0) oneLiveInOps).1
        (m.addRTPStream (monoSink 0) oneLiveInOps).1 := by
  refine ⟨_, .snoc (.snoc (.snoc (.nil _) ?_ rfl) ?_ rfl) ?_ rfl, rfl, ?_⟩
  · exact fun no => no
  · exact fun no => no
  · exact fun no => no
  intro same
  have shown := same.status (.sink 0)
  exact absurd (congrArg (·.map (·.sinkAllMuted)) shown) (by decide)

end RTPStreamsManager

end RavennaLkm
