import RavennaLkm.SlotReuse
import RavennaLkm.TruthfulReplies

/-!
Which sinks a received packet is given to. The code compares one packed key; a
sink is addressed by three fields, which the packet has in network order, and
so has it the two fields that tell a fragment.
-/
namespace RavennaLkm
open CheckedLoop LittleEndian GuardedRun BitFields

def networkOrder16 (b : Nat → UInt8) (pos : Nat) : Nat := (b pos).toNat * 2 ^ 8 + (b (pos + 1)).toNat

def networkOrder32 (b : Nat → UInt8) (pos : Nat) : Nat :=
  networkOrder16 b pos * 2 ^ 16 + networkOrder16 b (pos + 2)

theorem toNat_swap16_load (b : Nat → UInt8) (pos : Nat) :
    (mtalSwap16 (load16 b pos)).toNat = networkOrder16 b pos := by
  have first := (b pos).toNat_lt
  have second := (b (pos + 1)).toNat_lt
  unfold load16 networkOrder16
  rw [toNat_mtalSwap16, UInt16.toNat_ofNat']
  omega

theorem toNat_swap32_load (b : Nat → UInt8) (pos : Nat) :
    (mtalSwap32 (load32 b pos)).toNat = networkOrder32 b pos := by
  have first := (b pos).toNat_lt
  have second := (b (pos + 1)).toNat_lt
  have third := (b (pos + 2)).toNat_lt
  have fourth := (b (pos + 3)).toNat_lt
  have last : pos + 2 + 1 = pos + 3 := rfl
  unfold load32 networkOrder32 networkOrder16
  rw [toNat_mtalSwap32, UInt32.toNat_ofNat', last]
  omega

theorem toNat_makeKey (nicId : UInt8) (destIP : UInt32) (destPort : UInt16) :
    (makeKey nicId destIP destPort).toNat = nicId.toNat * 2 ^ 48 + destIP.toNat * 2 ^ 16 + destPort.toNat := by
  have nic := nicId.toNat_lt
  have ip := destIP.toNat_lt
  have port := destPort.toNat_lt
  have nicField : nicId.toNat <<< 48 % 2 ^ 64 = nicId.toNat * 2 ^ 48 := by
    rw [Nat.shiftLeft_eq]
    omega
  have ipField : destIP.toNat <<< 16 % 2 ^ 64 = destIP.toNat * 2 ^ 16 := by
    rw [Nat.shiftLeft_eq]
    omega
  unfold makeKey
  simp only [UInt64.toNat_or, UInt64.toNat_shiftLeft, UInt8.toNat_toUInt64, UInt32.toNat_toUInt64,
    UInt16.toNat_toUInt64]
  change nicId.toNat <<< 48 % 2 ^ 64 ||| destIP.toNat <<< 16 % 2 ^ 64 ||| destPort.toNat = _
  rw [nicField, ipField, Nat.or_assoc, or_fields _ 16 port, or_fields _ 48 (by omega)]
  omega

theorem makeKey_eq_iff {nicId nicId' : UInt8} {destIP destIP' : UInt32} {destPort destPort' : UInt16} :
    makeKey nicId destIP destPort = makeKey nicId' destIP' destPort' ↔
      nicId = nicId' ∧ destIP = destIP' ∧ destPort = destPort' := by
  constructor
  · intro same
    have value := congrArg UInt64.toNat same
    rw [toNat_makeKey, toNat_makeKey] at value
    have ip := destIP.toNat_lt
    have ip' := destIP'.toNat_lt
    have port := destPort.toNat_lt
    have port' := destPort'.toNat_lt
    constructor
    · apply UInt8.toNat_inj.mp
      omega
    · constructor
      · apply UInt32.toNat_inj.mp
        omega
      · apply UInt16.toNat_inj.mp
        omega
  · intro ⟨nic, ip, port⟩
    rw [nic, ip, port]

def fragmentField (packet : List UInt8) : Nat := networkOrder16 (fun k => packet.getD k 0) 20

def IsFragment (packet : List UInt8) : Prop :=
  fragmentField packet / 2 ^ 13 % 2 = 1 ∨ fragmentField packet % 2 ^ 13 ≠ 0

instance (packet : List UInt8) : Decidable (IsFragment packet) := inferInstanceAs (Decidable (_ ∨ _))

theorem isFragment_iff (frame : RTPFrame) :
    RTPStreamsManager.isFragment frame.packetBase.ipv4Header = true ↔
      fragmentField frame.bytes / 2 ^ 13 % 2 = 1 ∨ fragmentField frame.bytes % 2 ^ 12 ≠ 0 := by
  let offset := mtalSwap16 frame.packetBase.ipv4Header.offset
  have value : offset.toNat = fragmentField frame.bytes := toNat_swap16_load frame.byte 20
  have position : (offset &&& 0x0FFF).toNat = fragmentField frame.bytes % 2 ^ 12 := by
    rw [UInt16.toNat_and, value]
    exact and_low _ 12
  have more : (offset &&& 0x2000).toNat = fragmentField frame.bytes / 2 ^ 13 % 2 * 2 ^ 13 := by
    rw [UInt16.toNat_and, value]
    exact and_field _ 1 13
  change (decide (offset &&& 0x0FFF ≠ 0) || decide (offset &&& 0x2000 ≠ 0)) = true ↔ _
  rw [Bool.or_eq_true, decide_eq_true_eq, decide_eq_true_eq, ne_eq, ne_eq, ← UInt16.toNat_inj,
    ← UInt16.toNat_inj, position, more, UInt16.toNat_zero]
  omega

namespace RTPStreamsManager

variable {m m' : RTPStreamsManager} {h : StreamHandle} {ops : RTPAudioStreamOps} {nicId : UInt8}
  {packet : List UInt8}

def runEach (ops : RTPAudioStreamOps) (frame : RTPFrame) (key : UInt64) :
    List StreamHandle → RTPStreamsManager → List StreamHandle × Except Fault (RTPStreamsManager × Bool)
  | [], self => ([], .ok (self, false))
  | h :: rest, self =>
    if key = getKey (self.stream h).rtpStreamInfo then
      match self.processOne ops frame h with
      | .error fault => ([h], .error fault)
      | .ok done =>
        let later := runEach ops frame key rest done.1
        (h :: later.1, (fun after => (after.1, done.2 || after.2)) <$> later.2)
    else runEach ops frame key rest self

def runUDPPacket (self : RTPStreamsManager) (ops : RTPAudioStreamOps) (nicId : UInt8) (packet : List UInt8) :
    List StreamHandle × Except Fault (RTPStreamsManager × Bool) :=
  if nicId.toNat ≥ maxNics then ([], .ok (self, false))
  else if headers : sizeofRTPPacketBase ≤ packet.length then
    let frame : RTPFrame := ⟨packet, headers⟩
    if isFragment frame.packetBase.ipv4Header then ([], .ok (self, false))
    else
      runEach ops frame (packetKey nicId frame.packetBase.toUDPPacketBase) (self.sinkOrdered nicId.toNat) self
  else ([], .ok (self, false))

theorem runEach_snd (frame : RTPFrame) (key : UInt64) (l : List StreamHandle) (m : RTPStreamsManager) :
    (runEach ops frame key l m).2 = processEach ops frame key l m := by
  induction l generalizing m with
  | nil => rfl
  | cons h rest ih =>
    rw [runEach, processEach]
    split
    · cases run : m.processOne ops frame h with
      | error fault => rfl
      | ok done =>
        rw [ok_bind]
        dsimp only
        rw [ih]
        cases processEach ops frame key rest done.1 with
        | error fault => rfl
        | ok after => rfl
    · exact ih m

theorem runUDPPacket_snd (m : RTPStreamsManager) (ops : RTPAudioStreamOps) (nicId : UInt8)
    (packet : List UInt8) : (m.runUDPPacket ops nicId packet).2 = m.processUDPPacket ops nicId packet := by
  unfold runUDPPacket processUDPPacket
  split
  · rfl
  · split
    · dsimp only
      split
      · rfl
      · exact runEach_snd _ _ _ m
    · rfl

/-- A run calls exactly the sinks `expected`, up to a fault if there is one. -/
structure Calls (expected : List StreamHandle)
    (run : List StreamHandle × Except Fault (RTPStreamsManager × Bool)) : Prop where
  inOrder : run.1 <+: expected
  begins : run.1 = [] → expected = []
  all : Succeeds run.2 → run.1 = expected

theorem SameManager.getKey (same : m.SameManager m') (h : StreamHandle) :
    RavennaLkm.getKey (m'.stream h).rtpStreamInfo = RavennaLkm.getKey (m.stream h).rtpStreamInfo := by
  obtain ⟨_, _, info⟩ := (same.stream h).info
  rw [info]
  rfl

theorem runEach_calls (frame : RTPFrame) (key : UInt64) (l : List StreamHandle) (m : RTPStreamsManager) :
    Calls (l.filter fun h => key = RavennaLkm.getKey (m.stream h).rtpStreamInfo) (runEach ops frame key l m) := by
  induction l generalizing m with
  | nil => exact ⟨List.nil_prefix, fun _ => rfl, fun _ => rfl⟩
  | cons h rest ih =>
    rw [runEach]
    split
    · rename_i isKey
      rw [List.filter_cons_of_pos (by simpa using isKey)]
      cases run : m.processOne ops frame h with
      | error fault =>
        constructor
        · exact ⟨_, rfl⟩
        · simp
        · intro success
          exact absurd success (not_succeeds_error _)
      | ok done =>
        have later := ih done.1
        simp only [SameManager.getKey (processOne_same run)] at later
        constructor
        · exact (List.cons_prefix_cons).mpr ⟨rfl, later.inOrder⟩
        · simp
        · intro success
          obtain ⟨after, ends⟩ := success
          obtain ⟨last, run', -⟩ := map_eq_ok.mp ends
          exact congrArg (h :: ·) (later.all ⟨last, run'⟩)
    · rename_i other
      rw [List.filter_cons_of_neg (by simpa using other)]
      exact ih m

def Addressed (m : RTPStreamsManager) (nicId : UInt8) (packet : List UInt8) (h : StreamHandle) : Prop :=
  let info := (m.stream h).rtpStreamInfo
  let b := fun k => packet.getD k 0
  info.ifPortId.toNat = nicId.toNat ∧ info.destIP.toNat = networkOrder32 b 30 ∧
    info.destPort.toNat = networkOrder16 b 36

instance (m : RTPStreamsManager) (nicId : UInt8) (packet : List UInt8) : DecidablePred (m.Addressed nicId packet) :=
  fun _ => inferInstanceAs (Decidable (_ ∧ _ ∧ _))

def addressed (m : RTPStreamsManager) (nicId : UInt8) (packet : List UInt8) : List StreamHandle :=
  (m.sinkOrdered 0 ++ m.sinkOrdered 1).filter (m.Addressed nicId packet ·)

/-- A fragment is for no sink, nor is a packet that has no RTP header. -/
def wantedFor (m : RTPStreamsManager) (nicId : UInt8) (packet : List UInt8) : List StreamHandle :=
  if sizeofRTPPacketBase ≤ packet.length ∧ ¬ IsFragment packet then m.addressed nicId packet else []

def EachSink (P : Nat → RTPAudioStream → Prop) (m : RTPStreamsManager) : Prop :=
  ∀ nic, ∀ h ∈ m.sinkOrdered nic, P nic (m.stream h)

variable {P : Nat → RTPAudioStream → Prop}

theorem EachSink.congr (each : m.EachSink P) (sinks : ∀ nic, m'.sinkOrdered nic ⊆ m.sinkOrdered nic)
    (keeps : ∀ nic, ∀ h ∈ m'.sinkOrdered nic, P nic (m.stream h) → P nic (m'.stream h)) : m'.EachSink P := by
  intro nic h listed
  exact keeps nic h listed (each nic h (sinks nic listed))

theorem EachSink.add (each : m.EachSink P) (c : m.Consistent) (info : RTPStreamInfo) (ops : RTPAudioStreamOps)
    (linking : ∀ nic s partner, P nic s → P nic { s with attachedStream := partner })
    (creates : ∀ h, m.usableHandler info = some h → (m.createIn info ops h).2 = true → info.source = false →
      P info.ifPortId.toUInt8.toNat ((m.createIn info ops h).1.stream h)) :
    (m.addRTPStream info ops).1.EachSink P := by
  rcases m.addRTPStream_cases info ops with ⟨same, -⟩ | ⟨h, -, usable, ends⟩
  · rw [same]
    exact each
  · have unlisted : ¬ (m.createIn info ops h).1.Listed h := createIn_unlisted c usable ops
    have made : (m.createIn info ops h).1.EachSink P := by
      intro nic p listed
      have other : p ≠ h := by
        intro same
        rw [same] at listed
        exact unlisted (.inr ⟨nic, listed⟩)
      rw [createIn_other m info ops other]
      exact each nic p listed
    have linked : ((m.createIn info ops h).1.attachedStream h).EachSink P := by
      apply made.congr
      · intro nic
        rw [(attachedStream_lists _ h).2.1]
        exact List.Subset.refl _
      · intro nic p _ holds
        obtain ⟨partner, stream⟩ := attachedStream_stream (m.createIn info ops h).1 h p
        rw [stream]
        exact linking nic _ partner holds
    rcases ends with ⟨-, ends⟩ | ⟨created, ⟨-, ends⟩ | ⟨-, ends⟩⟩
    · rw [ends]
      exact made
    · rw [ends]
      exact linked
    · rw [ends]
      intro nic p listed
      rw [insertStream_stream]
      unfold insertStream at listed
      split at listed
      · exact linked nic p listed
      · rename_i isSink
        dsimp only at listed
        by_cases here : nic = info.ifPortId.toUInt8.toNat
        · rw [here, Function.update_self, List.mem_append, List.mem_singleton] at listed
          rcases listed with earlier | isNew
          · rw [here]
            exact linked _ p earlier
          · obtain ⟨partner, stream⟩ := attachedStream_stream (m.createIn info ops h).1 h h
            rw [isNew, stream, here]
            exact linking _ _ partner (creates h usable created (Bool.not_eq_true _ ▸ isSink))
        · rw [Function.update_of_ne here] at listed
          exact linked nic p listed

theorem EachSink.remove (each : m.EachSink P) (c : m.Consistent) (ops : RTPAudioStreamOps) (h : StreamHandle)
    (linking : ∀ nic s partner, P nic s → P nic { s with attachedStream := partner }) :
    (m.removeRTPStream ops h).1.EachSink P := by
  rcases removeRTPStream_cases c ops h with ⟨listed, ends⟩ | ⟨nic, listed, ends⟩ | ⟨-, ends⟩
  · rw [ends]
    apply each.congr
    · intro nic
      exact List.Subset.refl _
    · intro nic p sink holds
      have other : p ≠ h := by
        intro same
        rw [same] at sink
        exact c.source_only listed nic sink
      rw [release_other _ ops other]
      exact holds
  · rw [ends]
    have lists : ((m.takeSink h nic).release ops h).sinkOrdered = (m.takeSink h nic).sinkOrdered := rfl
    apply each.congr
    · intro q
      rw [lists, takeSink_sinkOrdered]
      by_cases here : q = nic
      · rw [here, Function.update_self]
        exact List.erase_subset
      · rw [Function.update_of_ne here]
        exact List.Subset.refl _
    · intro q p sink holds
      have other : p ≠ h := by
        intro same
        rw [same, lists] at sink
        exact takeSink_unlisted c listed (.inr ⟨q, sink⟩)
      obtain ⟨partner, stream⟩ := detachedStream_stream
        { m with sinkOrdered := Function.update m.sinkOrdered nic ((m.sinkOrdered nic).erase h) } h p
      rw [release_other _ ops other, takeSink, stream]
      exact linking q _ partner holds
  · rw [ends]
    exact each

def Placed (m : RTPStreamsManager) : Prop :=
  ∀ nic, ∀ h ∈ m.sinkOrdered nic, (m.stream h).rtpStreamInfo.ifPortId.toNat = nic

theorem Placed.eachSink (placed : m.Placed) : m.EachSink fun nic s => s.rtpStreamInfo.ifPortId.toNat = nic := placed

theorem Placed.same (placed : m.Placed) (same : m.SameManager m') : m'.Placed := by
  refine placed.eachSink.congr ?_ ?_
  · intro nic
    rw [same.sinkOrdered]
    exact List.Subset.refl _
  · intro nic h _ holds
    obtain ⟨_, _, info⟩ := (same.stream h).info
    rw [info]
    exact holds

theorem Placed.add (placed : m.Placed) (c : m.Consistent) (info : RTPStreamInfo) (ops : RTPAudioStreamOps) :
    (m.addRTPStream info ops).1.Placed := by
  refine placed.eachSink.add c info ops ?_ ?_
  · intro nic s partner holds
    exact holds
  · intro h usable _ _
    obtain ⟨port, below⟩ := usable_nic c usable
    rw [(createIn_info c usable ops).1, UInt32.toNat_toUInt8]
    unfold maxNics at below
    omega

theorem Placed.remove (placed : m.Placed) (c : m.Consistent) (ops : RTPAudioStreamOps) (h : StreamHandle) :
    (m.removeRTPStream ops h).1.Placed :=
  placed.eachSink.remove c ops h fun _ _ _ holds => holds

theorem Placed.step {call : StreamsCall} (placed : m.Placed) (c : m.Consistent) (named : ¬ call.Renames)
    (next : call.step m = .ok m') : m'.Placed := by
  cases call with
  | manage op =>
    cases op with
    | add info ops =>
      cases next
      exact placed.add c info ops
    | remove h ops =>
      cases next
      exact placed.remove c ops h
    | removeAll ops =>
      cases next
      intro nic h listed
      exact absurd (.inr ⟨nic, listed⟩) (removeAllRTPStreams_lists c ops h)
    | sendOutgoing ops skb livesOut =>
      obtain ⟨done, sent, last⟩ := map_eq_ok.mp next
      cases last
      exact placed.same (sendOutgoingPackets_same c sent)
    | processUDP ops nicId packet =>
      obtain ⟨done, processed, last⟩ := map_eq_ok.mp next
      cases last
      exact placed.same (processUDPPacket_same processed)
    | prepareLives ops => exact placed.same (prepareBufferLivesAll_same c next)
  | updateName h cName => exact absurd trivial named
  | status h =>
    cases next
    rw [getRTPStreamStatus_eq c]
    exact placed.same ((statusIn_same m h _).trans (statusIn_same _ h _))
  | minSinkAheadTime result =>
    cases next
    cases result with
    | false => exact placed
    | true =>
      have nic0 := sinkAheadTimes_same (m.sinkOrdered 0) true m 0
      exact placed.same (nic0.trans (sinkAheadTimes_same _ true _ _))
  | numberOfSources | numberOfSinks | sinkStatsFromTIC _ _ | minMaxSinksJitter _ =>
    cases next
    exact placed

theorem placed_of_run {macAddress : Nat → MACAddress} {livesIn : RingMemory} {calls : List StreamsCall}
    (run : Run StreamsCall.step (fun _ call => ¬ call.Renames) (init macAddress livesIn) calls m) : m.Placed := by
  have both : m.Consistent ∧ m.Placed := by
    apply run.invariant fun m => m.Consistent ∧ m.Placed
    · constructor
      · exact init_consistent macAddress livesIn
      · intro nic h listed
        cases listed
    · intro before after call ⟨c, placed⟩ named next
      exact ⟨call_consistent c named next, placed.step c named next⟩
  exact both.2

theorem packetKey_eq_iff {frame : RTPFrame} {info : RTPStreamInfo} {nic : Nat} (isNic : nic < maxNics)
    (placed : info.ifPortId.toNat = nic) :
    packetKey nicId frame.packetBase.toUDPPacketBase = getKey info ↔
      info.ifPortId.toNat = nicId.toNat ∧ info.destIP.toNat = networkOrder32 frame.byte 30 ∧
        info.destPort.toNat = networkOrder16 frame.byte 36 := by
  have small : info.ifPortId.toNat < 2 ^ 8 := by
    unfold maxNics at isNic
    omega
  have port : nicId = info.ifPortId.toUInt8 ↔ info.ifPortId.toNat = nicId.toNat := by
    rw [← UInt8.toNat_inj, UInt32.toNat_toUInt8, Nat.mod_eq_of_lt small, eq_comm]
  have ip : load32 frame.byte 30 = mtalSwap32 info.destIP ↔ info.destIP.toNat = networkOrder32 frame.byte 30 := by
    rw [← toNat_swap32_load, UInt32.toNat_inj]
    constructor
    · intro same
      rw [same, mtalSwap32_swap32]
    · intro same
      rw [same, mtalSwap32_swap32]
  have destPort : load16 frame.byte 36 = mtalSwap16 info.destPort ↔
      info.destPort.toNat = networkOrder16 frame.byte 36 := by
    rw [← toNat_swap16_load, UInt16.toNat_inj]
    constructor
    · intro same
      rw [same, mtalSwap16_swap16]
    · intro same
      rw [same, mtalSwap16_swap16]
  rw [← port, ← ip, ← destPort]
  exact makeKey_eq_iff

theorem Placed.addressed_eq (placed : m.Placed) (nicId : UInt8) (packet : List UInt8) :
    m.addressed nicId packet =
      if nicId.toNat < maxNics then (m.sinkOrdered nicId.toNat).filter (m.Addressed nicId packet ·) else [] := by
  have other (nic : Nat) (differs : nic ≠ nicId.toNat) :
      (m.sinkOrdered nic).filter (m.Addressed nicId packet ·) = [] := by
    rw [List.filter_eq_nil_iff]
    intro h listed addressed
    have toThis := (of_decide_eq_true addressed).1
    rw [placed nic h listed] at toThis
    exact differs toThis
  unfold addressed
  rw [List.filter_append]
  split
  · rename_i isNic
    obtain zero | one : nicId.toNat = 0 ∨ nicId.toNat = 1 := by
      unfold maxNics at isNic
      omega
    · rw [other 1 (by omega), List.append_nil, zero]
    · rw [other 0 (by omega), List.nil_append, one]
  · rename_i outside
    unfold maxNics at outside
    rw [other 0 (by omega), other 1 (by omega)]
    rfl

theorem Placed.runUDPPacket_calls (placed : m.Placed) {frame : RTPFrame} (isNic : nicId.toNat < maxNics)
    (whole : isFragment frame.packetBase.ipv4Header = false) :
    Calls (m.addressed nicId frame.bytes) (m.runUDPPacket ops nicId frame.bytes) := by
  have runs : m.runUDPPacket ops nicId frame.bytes =
      runEach ops frame (packetKey nicId frame.packetBase.toUDPPacketBase) (m.sinkOrdered nicId.toNat) m := by
    unfold runUDPPacket
    rw [if_neg (by omega), dif_pos frame.headers]
    exact if_neg (by simpa using whole)
  have sinks : m.addressed nicId frame.bytes = (m.sinkOrdered nicId.toNat).filter fun h =>
      packetKey nicId frame.packetBase.toUDPPacketBase = RavennaLkm.getKey (m.stream h).rtpStreamInfo := by
    rw [placed.addressed_eq, if_pos isNic]
    apply List.filter_congr
    intro h listed
    exact decide_eq_decide.mpr (packetKey_eq_iff isNic (placed _ h listed)).symm
  rw [runs, sinks]
  exact runEach_calls frame _ _ m

theorem calls_nothing {expected : List StreamHandle} {self : RTPStreamsManager} :
    Calls expected ([], .ok (self, false)) ↔ expected = [] := by
  constructor
  · intro calls
    exact calls.begins rfl
  · intro none
    rw [none]
    exact ⟨List.nil_prefix, fun _ => rfl, fun _ => rfl⟩

/-- The last fragment of a datagram, 32768 bytes from its start: the bit that the test leaves out. -/
def IsMissedFragment (packet : List UInt8) : Prop :=
  sizeofRTPPacketBase ≤ packet.length ∧ fragmentField packet % 2 ^ 14 = 2 ^ 12

theorem dispatch_exact_iff {macAddress : Nat → MACAddress} {livesIn : RingMemory} {calls : List StreamsCall}
    (reached : Run StreamsCall.step (fun _ call => ¬ call.Renames) (init macAddress livesIn) calls m)
    (ops : RTPAudioStreamOps) (nicId : UInt8) (packet : List UInt8) :
    Calls (m.wantedFor nicId packet) (m.runUDPPacket ops nicId packet) ↔
      (IsMissedFragment packet → m.addressed nicId packet = []) := by
  have placed := placed_of_run reached
  by_cases isNic : nicId.toNat < maxNics
  · by_cases headers : sizeofRTPPacketBase ≤ packet.length
    · let frame : RTPFrame := ⟨packet, headers⟩
      have test := isFragment_iff frame
      unfold wantedFor IsMissedFragment IsFragment
      simp only [headers, true_and]
      cases seen : isFragment frame.packetBase.ipv4Header with
      | true =>
        have nothing : m.runUDPPacket ops nicId packet = ([], .ok (m, false)) := by
          unfold runUDPPacket
          rw [if_neg (by omega), dif_pos headers]
          exact if_pos seen
        have field := test.mp seen
        change fragmentField packet / 2 ^ 13 % 2 = 1 ∨ fragmentField packet % 2 ^ 12 ≠ 0 at field
        rw [nothing, if_neg (by omega), calls_nothing]
        constructor
        · intro _ missed
          omega
        · intro _
          rfl
      | false =>
        have calls : Calls (m.addressed nicId frame.bytes) (m.runUDPPacket ops nicId frame.bytes) :=
          placed.runUDPPacket_calls isNic seen
        have field := mt test.mpr (by simp [seen])
        change ¬ (fragmentField packet / 2 ^ 13 % 2 = 1 ∨ fragmentField packet % 2 ^ 12 ≠ 0) at field
        change Calls (m.addressed nicId packet) (m.runUDPPacket ops nicId packet) at calls
        by_cases missed : fragmentField packet % 2 ^ 14 = 2 ^ 12
        · rw [if_neg (by omega), forall_prop_of_true missed]
          constructor
          · intro none
            exact calls.begins (List.prefix_nil.mp none.inOrder)
          · intro none
            rw [none] at calls
            exact calls
        · rw [if_pos (by omega)]
          exact iff_of_true calls fun isMissed => absurd isMissed missed
    · have nothing : m.runUDPPacket ops nicId packet = ([], .ok (m, false)) := by
        unfold runUDPPacket
        rw [if_neg (by omega), dif_neg headers]
      unfold wantedFor IsMissedFragment
      simp only [headers, false_and, if_false, false_implies, iff_true]
      rw [nothing, calls_nothing]
  · have nothing : m.runUDPPacket ops nicId packet = ([], .ok (m, false)) := by
      unfold runUDPPacket
      exact if_pos (by omega)
    have none : m.addressed nicId packet = [] := by
      rw [placed.addressed_eq, if_neg isNic]
    unfold wantedFor
    rw [nothing, calls_nothing, none, ite_self]
    simp

theorem withSink_run : Run StreamsCall.step (fun _ call => ¬ call.Renames) (init (fun _ => {}) fun _ => {})
    [.manage (.add (monoSink 0) oneLiveInOps)] (withSinks [0]) :=
  .snoc (.nil _) (fun renames => renames) rfl

theorem dispatch_exact_iff_mono :
    Calls ((withSinks [0]).wantedFor 0 (announcedFrame 1 0 4800 [1, 2, 3]))
        ((withSinks [0]).runUDPPacket oneLiveInOps 0 (announcedFrame 1 0 4800 [1, 2, 3])) ↔
      (IsMissedFragment (announcedFrame 1 0 4800 [1, 2, 3]) →
        (withSinks [0]).addressed 0 (announcedFrame 1 0 4800 [1, 2, 3]) = []) :=
  dispatch_exact_iff withSink_run oneLiveInOps 0 _

def lastFragment : List UInt8 :=
  RTPPacketBase.bytes {
    ethernetHeader := { usType := mtalSwap16 mtalEthProtoIPV4 }
    ipv4Header := {
      versionHeaderLen := 0x45, offset := mtalSwap16 0x1000, protocol := ipProtoUDP
      destIP := mtalSwap32 0xEF010001 }
    udpHeader := { destPort := mtalSwap16 5004, len := mtalSwap16 23 }
    rtpHeader := { version := 0x80, payloadType := 98, timestamp := mtalSwap32 4800 } } ++ [1, 2, 3]

theorem fragment_dispatched :
    Run StreamsCall.step (fun _ call => ¬ call.Renames) (init (fun _ => {}) fun _ => {})
        [.manage (.add (monoSink 0) oneLiveInOps)] (withSinks [0]) ∧
      IsFragment lastFragment ∧
      ((withSinks [0]).runUDPPacket oneLiveInOps 0 lastFragment).1 = [.sink 0] ∧
      ¬ Calls ((withSinks [0]).wantedFor 0 lastFragment)
        ((withSinks [0]).runUDPPacket oneLiveInOps 0 lastFragment) := by
  have fragment : IsFragment lastFragment := by decide
  have called : ((withSinks [0]).runUDPPacket oneLiveInOps 0 lastFragment).1 = [.sink 0] := by rfl
  constructor
  · exact withSink_run
  · constructor
    · exact fragment
    · constructor
      · exact called
      · intro calls
        have inOrder := calls.inOrder
        unfold wantedFor at inOrder
        rw [if_neg (fun both => both.2 fragment), called] at inOrder
        exact absurd (List.prefix_nil.mp inOrder) (by simp)

end RTPStreamsManager

end RavennaLkm
