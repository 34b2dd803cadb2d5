import RavennaLkm.FrameVerdict
import RavennaLkm.MuteAction
import RavennaLkm.Lib.Footprint

/-!
The capture rings that nobody asked for. A packet, a tick or the end of a stream
writes rings that a sink was routed to when it was added; the ring of any other
channel keeps its cells, whatever arrives.
-/
namespace RavennaLkm
open CheckedLoop GuardedRun Footprint

/-- What a muted cell holds, in the PCM and in the DSD modes. -/
def IsMuted (cell : Sample) : Prop := cell = mutedCell 0 ∨ cell = mutedCell 0x55

theorem isMuted_mutedCell (sampleRate : UInt32) : IsMuted (mutedCell (Manager.muteChannels sampleRate)) := by
  unfold Manager.muteChannels
  cases getAudioModeFromRate sampleRate with
  | pcm => exact .inl rfl
  | dsd64 | dsd128 | dsd256 => exact .inr rfl

def InRings (rings : Nat → Prop) (a : Nat) : Prop := ∃ base, rings base ∧ base ≤ a ∧ a < base + ringBufferSize.toNat

section
variable {rings : Nat → Prop} {s t : RTPAudioStream} {h : StreamHandle} {partner : Option RTPStream}
  {ops : RTPAudioStreamOps} {mem mem' : RingMemory}

def RTPAudioStream.MapsTo (s : RTPAudioStream) (h : StreamHandle) (rings : Nat → Prop) : Prop :=
  ∀ us base, s.livesInCircularBuffer us = some base →
    rings base ∧ ∃ n, h = .sink n

theorem RTPAudioStream.MapsTo.congr (maps : s.MapsTo h rings)
    (livesIn : t.livesInCircularBuffer = s.livesInCircularBuffer) : t.MapsTo h rings := by
  intro us base isRing
  rw [livesIn] at isRing
  exact maps us base isRing

theorem muteLivesIn_within (silent : IsMuted (mutedCell ops.mutePattern)) (offset n : UInt32) (mem : RingMemory) :
    Within (InRings rings) IsMuted mem (muteLivesIn s ops offset n mem) := by
  apply Within.iterUp
  intro us _ mem
  cases s.livesInCircularBuffer us with
  | none => exact .refl _ _ _
  | some base => exact .fill silent _ mem

theorem storeMapped_within {load : PacketReader → Nat → Except Fault Sample} {input : PacketReader}
    {inPos outPos : Nat} {out : Option Nat} (ring : ∀ base, out = some base → rings base)
    (below : outPos < ringBufferSize.toNat)
    (stored : storeMapped load input inPos out outPos mem = .ok mem') : Within (InRings rings) IsMuted mem mem' := by
  unfold storeMapped at stored
  cases out with
  | none => cases stored
  | some base =>
    obtain ⟨sample, -, last⟩ := bind_eq_ok.mp stored
    cases last
    exact .update ⟨base, ring base rfl, by omega, by omega⟩ mem sample

theorem convertToLivesIn_within (maps : s.MapsTo h rings) {input : PacketReader} {offset n : UInt32}
    (inside : outPos offset + n.toNat ≤ ringBufferSize.toNat)
    (converted : convertToLivesIn s input s.livesInCircularBuffer offset n mem = .ok mem') :
    Within (InRings rings) IsMuted mem mem' := by
  unfold convertToLivesIn at converted
  split at converted
  · cases converted
  · rename_i f _
    rw [f.call_eq] at converted
    refine Within.forUp ?_ converted
    intro ch _ before after channel
    refine Within.forUp ?_ channel
    intro i below before after stored
    refine storeMapped_within ?_ (by omega) stored
    intro base isRing
    exact (maps ch base isRing).1

theorem writeLivesIn_within (maps : s.MapsTo h rings) {input : PacketReader} {offset n : UInt32}
    (length : ops.liveInJitterBufferLength.toNat ≤ ringBufferSize.toNat)
    (written : writeLivesIn s ops input offset n mem = .ok mem') :
    Within (InRings rings) IsMuted mem mem' := by
  unfold writeLivesIn at written
  split at written
  · split at written
    · rename_i inside
      exact convertToLivesIn_within maps (inside.trans length) written
    · cases written
  · cases written
    exact .refl _ _ _

theorem copyAudio_within (maps : s.MapsTo h rings) {frame : RTPFrame} {payload : Nat} {rtpSAC : UInt64}
    {n : UInt32} (length : ops.liveInJitterBufferLength.toNat ≤ ringBufferSize.toNat)
    (copied : copyAudio s partner ops frame payload rtpSAC n mem = .ok mem') :
    Within (InRings rings) IsMuted mem mem' := by
  unfold copyAudio at copied
  split at copied
  · cases copied
    exact .refl _ _ _
  · obtain ⟨offset, -, rest⟩ := bind_eq_ok.mp copied
    obtain ⟨between, first, second⟩ := bind_eq_ok.mp rest
    exact (writeLivesIn_within maps length first).trans (writeLivesIn_within maps length second)

theorem checkRTPHeader_mapsTo (maps : s.MapsTo h rings) (header : RTPHeader) :
    (checkRTPHeader s header).1.MapsTo h rings := maps.congr (checkRTPHeader_same s header).livesIn

theorem processRTPAudioPacket_within (maps : s.MapsTo h rings) {frame : RTPFrame} {used : Bool}
    (length : ops.liveInJitterBufferLength.toNat ≤ ringBufferSize.toNat)
    (processed : processRTPAudioPacket s partner ops frame mem = .ok (t, mem', used)) :
    Within (InRings rings) IsMuted mem mem' := by
  have checked := checkRTPHeader_mapsTo maps frame.packetBase.rtpHeader
  unfold processRTPAudioPacket at processed
  simp only at processed
  split at processed
  · obtain ⟨skip, -, rest⟩ := bind_eq_ok.mp processed
    obtain ⟨n, -, rest⟩ := bind_eq_ok.mp rest
    split at rest
    · cases rest
      exact .refl _ _ _
    · obtain ⟨⟨_, _⟩, received, last⟩ := bind_eq_ok.mp rest
      cases last
      obtain ⟨copied, copy, rest⟩ := bind_eq_ok.mp received
      obtain ⟨_, -, last⟩ := bind_eq_ok.mp rest
      cases last
      -- the counters of the sequence number and of the timestamp are no rings
      refine copyAudio_within (h := h) ?_ length copy
      exact checked.congr rfl
  · cases processed
    exact .refl _ _ _

theorem muteFrame_within (silent : IsMuted (mutedCell ops.mutePattern)) (muted : muteFrame s ops mem = .ok (t, mem')) :
    Within (InRings rings) IsMuted mem mem' := by
  unfold muteFrame at muted
  split at muted
  · obtain ⟨offset, -, rest⟩ := bind_eq_ok.mp muted
    split at rest
    · cases rest
    · split at rest
      · cases rest
        exact muteLivesIn_within silent _ _ mem
      · cases rest
        exact .refl _ _ _
  · cases muted
    exact .refl _ _ _

theorem prepareBufferLives_within (silent : IsMuted (mutedCell ops.mutePattern))
    (prepared : prepareBufferLives s partner ops mem = .ok (t, mem')) :
    Within (InRings rings) IsMuted mem mem' := by
  unfold prepareBufferLives at prepared
  split at prepared
  · cases prepared
    exact .refl _ _ _
  · simp only at prepared
    split at prepared
    · obtain ⟨⟨_, _⟩, muted, last⟩ := bind_eq_ok.mp prepared
      cases last
      exact muteFrame_within silent muted
    · cases prepared
      exact .refl _ _ _

def AsksFor (ops : RTPAudioStreamOps) (info : RTPStreamInfo) (rings : Nat → Prop) : Prop :=
  info.source = false → ∀ us < info.nbOfChannels.toNat, ∀ base, liveInRing ops info us = some base → rings base

theorem routeLivesIn_rings {info : RTPStreamInfo} {lives : ChannelMap} {n : Nat}
    (asks : ∀ us < n, ∀ base, liveInRing ops info us = some base → rings base)
    (before : ∀ us base, lives us = some base → rings base) :
    ∀ us base, (routeLivesIn ops info lives n).1 us = some base → rings base := by
  induction n with
  | zero => exact before
  | succ n ih =>
    have earlier := ih fun us below => asks us (by omega)
    have new := asks n (by omega)
    unfold liveInRing at new
    intro us base isRing
    rw [routeLivesIn] at isRing
    by_cases here : us = n
    · subst here
      split at isRing
      · split at isRing
        · simp at isRing
        · rename_i unused
          rw [if_neg unused] at new
          simp only [Function.update_self] at isRing
          exact new base isRing
      · exact earlier us base isRing
    · split at isRing
      · split at isRing
        all_goals
          simp only [Function.update_of_ne here] at isRing
          exact earlier us base isRing
      · exact earlier us base isRing

theorem createSource_livesIn (s : RTPAudioStream) (info : RTPStreamInfo) (ops : RTPAudioStreamOps) :
    (createSource s info ops).1.livesInCircularBuffer = s.livesInCircularBuffer := by
  unfold createSource
  dsimp only
  split
  · split <;> rfl
  · rfl

theorem createSink_within (n : Nat) {info : RTPStreamInfo} (silent : IsMuted (mutedCell ops.mutePattern))
    (asks : ∀ us < info.nbOfChannels.toNat, ∀ base, liveInRing ops info us = some base → rings base)
    (before : ∀ us base, s.livesInCircularBuffer us = some base → rings base) :
    (createSink s info ops mem).1.MapsTo (.sink n) rings ∧
      Within (InRings rings) IsMuted mem (createSink s info ops mem).2.1 := by
  have routed := routeLivesIn_rings asks before
  have maps (u : RTPAudioStream) (livesIn : u.livesInCircularBuffer =
      (routeLivesIn ops info s.livesInCircularBuffer info.nbOfChannels.toNat).1) : u.MapsTo (.sink n) rings := by
    intro us base isRing
    rw [livesIn] at isRing
    exact ⟨routed us base isRing, n, rfl⟩
  unfold createSink
  dsimp only
  split
  · split
    · exact ⟨maps _ rfl, .refl _ _ _⟩
    · exact ⟨maps _ rfl, muteLivesIn_within silent _ _ _⟩
  · exact ⟨maps _ rfl, .refl _ _ _⟩

theorem create_within (maps : s.MapsTo h rings) {info : RTPStreamInfo} {nf : EtherTubeNetfilter}
    (idle : s.livesInitialized = false) (slot : h ∈ RTPStreamsManager.slots info.source)
    (asks : AsksFor ops info rings) (silent : IsMuted (mutedCell ops.mutePattern)) :
    (create s info ops nf mem).1.MapsTo h rings ∧
      Within (InRings rings) IsMuted mem (create s info ops nf mem).2.1 := by
  unfold create
  rw [idle]
  simp only [Bool.false_eq_true, if_false]
  cases isSource : info.source with
  | true =>
    rw [isSource] at slot
    obtain ⟨k, rfl⟩ := RTPStreamsManager.source_of_slot slot
    constructor
    · intro us base isRing
      simp only [if_true, createSource_livesIn] at isRing
      obtain ⟨-, n, isSink⟩ := maps us base isRing
      cases isSink
    · exact .refl _ _ _
  | false =>
    rw [isSource] at slot
    obtain ⟨n, rfl⟩ := RTPStreamsManager.sink_of_slot slot
    simp only [Bool.false_eq_true, if_false]
    exact createSink_within n silent (asks isSource) fun us base isRing => (maps us base isRing).1

theorem destroy_within (maps : s.MapsTo h rings) (silent : IsMuted (mutedCell ops.mutePattern)) :
    (destroy s ops mem).1.MapsTo h rings ∧ Within (InRings rings) IsMuted mem (destroy s ops mem).2 := by
  unfold destroy
  split
  · constructor
    · intro us base isRing
      cases isRing
    · split
      · exact .refl _ _ _
      · exact muteLivesIn_within silent _ _ mem
  · exact ⟨maps, .refl _ _ _⟩

theorem cleanup_within {x : RTPAudioStreamHandler} (maps : x.rtpAudioStream.MapsTo h rings)
    (silent : IsMuted (mutedCell ops.mutePattern)) :
    (x.cleanup ops mem).1.rtpAudioStream.MapsTo h rings ∧
      Within (InRings rings) IsMuted mem (x.cleanup ops mem).2 := by
  unfold RTPAudioStreamHandler.cleanup
  split
  · exact destroy_within maps silent
  · exact ⟨maps, .refl _ _ _⟩

end

namespace RTPStreamsManager

variable {m m' m'' : RTPStreamsManager} {rings : Nat → Prop} {ops : RTPAudioStreamOps}
  {h : StreamHandle} {info : RTPStreamInfo}

def Confined (m : RTPStreamsManager) (rings : Nat → Prop) : Prop := ∀ h, (m.stream h).MapsTo h rings

/-- A step to a manager that is confined too, in which no other ring is written. -/
structure Spares (rings : Nat → Prop) (m m' : RTPStreamsManager) : Prop where
  confined : m'.Confined rings
  cells : Within (InRings rings) IsMuted m.livesIn m'.livesIn

theorem Spares.trans (first : Spares rings m m') (later : Spares rings m' m'') :
    Spares rings m m'' := ⟨later.confined, first.cells.trans later.cells⟩

theorem Confined.spares (confined : m.Confined rings) : Spares rings m m := ⟨confined, .refl _ _ _⟩

theorem Confined.congr (confined : m.Confined rings) (mem : m'.livesIn = m.livesIn)
    (same : ∀ h, (m'.stream h).livesInCircularBuffer = (m.stream h).livesInCircularBuffer) :
    Spares rings m m' := by
  constructor
  · intro h
    exact (confined h).congr (same h)
  · rw [mem]
    exact .refl _ _ _

theorem Confined.slot (confined : m.Confined rings) {x : RTPAudioStreamHandler} {mem : RingMemory}
    (done : x.rtpAudioStream.MapsTo h rings ∧ Within (InRings rings) IsMuted m.livesIn mem) :
    Spares rings m { m.setHandler h x with livesIn := mem } := by
  constructor
  · intro q
    unfold stream
    by_cases here : q = h
    · subst here
      exact (congrArg (fun y => y.rtpAudioStream.MapsTo q rings) (setHandler_same m q x)).mpr done.1
    · exact (congrArg (fun y => y.rtpAudioStream.MapsTo q rings) (setHandler_other x here)).mpr (confined q)
  · exact done.2

theorem processEach_spares {frame : RTPFrame} {key : UInt64} {used : Bool} (l : List StreamHandle)
    (length : ops.liveInJitterBufferLength.toNat ≤ ringBufferSize.toNat) (confined : m.Confined rings)
    (processed : processEach ops frame key l m = .ok (m', used)) : Spares rings m m' := by
  induction l generalizing m used with
  | nil =>
    cases processed
    exact confined.spares
  | cons h rest ih =>
    rw [processEach] at processed
    split at processed
    · obtain ⟨⟨between, first⟩, one, run⟩ := bind_eq_ok.mp processed
      obtain ⟨⟨last, more⟩, later, done⟩ := bind_eq_ok.mp run
      obtain ⟨⟨s, mem, result⟩, packet, stored⟩ := bind_eq_ok.mp one
      cases done
      cases stored
      have maps := (confined h).congr (processRTPAudioPacket_same packet).livesIn
      have here : Spares rings m (m.storeStream h s mem) :=
        confined.slot ⟨maps, processRTPAudioPacket_within (confined h) length packet⟩
      exact here.trans (ih here.confined later)
    · exact ih confined processed

theorem processUDPPacket_spares {nicId : UInt8} {packet : List UInt8} {used : Bool}
    (length : ops.liveInJitterBufferLength.toNat ≤ ringBufferSize.toNat) (confined : m.Confined rings)
    (processed : m.processUDPPacket ops nicId packet = .ok (m', used)) : Spares rings m m' := by
  unfold processUDPPacket at processed
  split at processed
  · cases processed
    exact confined.spares
  · split at processed
    · dsimp only at processed
      split at processed
      · cases processed
        exact confined.spares
      · exact processEach_spares _ length confined processed
    · cases processed
      exact confined.spares

theorem prepareEach_spares (l : List StreamHandle) (silent : IsMuted (mutedCell ops.mutePattern))
    (confined : m.Confined rings) (prepared : prepareEach ops l m = .ok m') :
    Spares rings m m' := by
  induction l generalizing m with
  | nil =>
    cases prepared
    exact confined.spares
  | cons h rest ih =>
    obtain ⟨⟨s, mem⟩, run, later⟩ := bind_eq_ok.mp prepared
    have held := prepareBufferLives_held run
    have maps := (confined h).congr held.rings
    have here : Spares rings m (m.storeStream h s mem) :=
      confined.slot ⟨maps, prepareBufferLives_within silent run⟩
    exact here.trans (ih here.confined later)

theorem readerEnterAll_spares (l : List StreamHandle) (confined : m.Confined rings) :
    Spares rings m (l.foldl readerEnter m) := by
  induction l generalizing m with
  | nil => exact confined.spares
  | cons h rest ih =>
    have here : Spares rings m (m.readerEnter h) := confined.slot ⟨confined h, .refl _ _ _⟩
    exact here.trans (ih here.confined)

theorem readerLeaveAll_spares (l : List StreamHandle) (silent : IsMuted (mutedCell ops.mutePattern))
    (confined : m.Confined rings) : Spares rings m (l.foldl (readerLeave · ops ·) m) := by
  induction l generalizing m with
  | nil => exact confined.spares
  | cons h rest ih =>
    have here : Spares rings m (m.readerLeave ops h) := confined.slot (cleanup_within (confined h) silent)
    exact here.trans (ih here.confined)

theorem prepareBufferLivesAll_spares (silent : IsMuted (mutedCell ops.mutePattern))
    (confined : m.Confined rings) (prepared : m.prepareBufferLivesAll ops = .ok m') :
    Spares rings m m' := by
  obtain ⟨pass, sources, rest⟩ := bind_eq_ok.mp prepared
  obtain ⟨nic0, run0, run1⟩ := bind_eq_ok.mp rest
  have entered : Spares rings m _ := readerEnterAll_spares m.sourceOrdered confined
  have passed := prepareEach_spares _ silent entered.confined sources
  have left := readerLeaveAll_spares m.sourceOrdered silent passed.confined
  have first := prepareEach_spares _ silent left.confined run0
  have second := prepareEach_spares _ silent first.confined run1
  exact entered.trans (passed.trans (left.trans (first.trans second)))

theorem sendOutgoingPackets_spares {skb : Bool} {livesOut : RingMemory} {done : RTPStreamsManager × SendLog}
    (c : m.Consistent) (confined : m.Confined rings)
    (sent : m.sendOutgoingPackets ops skb livesOut = .ok done) : Spares rings m done.1 := by
  have kept := sendOutgoingPackets_kept c sent
  have same := sendOutgoingPackets_same c sent
  constructor
  · intro h
    cases h with
    | sink n =>
      rw [kept.stream]
      exact confined (.sink n)
    | source n =>
      intro us base isRing
      rw [(same.stream _).livesIn] at isRing
      obtain ⟨-, k, isSink⟩ := confined (.source n) us base isRing
      cases isSink
  · rw [kept.livesIn]
    exact .refl _ _ _

theorem setAttached_spares (confined : m.Confined rings) (h : StreamHandle) (p : Option StreamHandle) :
    Spares rings m (m.setAttached h p) :=
  confined.slot ⟨(confined h).congr rfl, .refl _ _ _⟩

theorem attachedStream_spares (confined : m.Confined rings) (h : StreamHandle) :
    Spares rings m (m.attachedStream h) := by
  unfold attachedStream
  split
  · exact confined.spares
  · rename_i p _
    have first : Spares rings m _ := setAttached_spares confined h (some p)
    exact first.trans (setAttached_spares first.confined _ _)

theorem detachedStream_spares (confined : m.Confined rings) (h : StreamHandle) :
    Spares rings m (m.detachedStream h) := by
  unfold detachedStream
  split
  · exact confined.spares
  · have first : Spares rings m _ := setAttached_spares confined h none
    exact first.trans (setAttached_spares first.confined _ _)

theorem createIn_spares (confined : m.Confined rings) (c : m.Consistent) (usable : m.usableHandler info = some h)
    (asks : AsksFor ops info rings) (silent : IsMuted (mutedCell ops.mutePattern)) :
    Spares rings m (m.createIn info ops h).1 := by
  obtain ⟨slot, inactive, -, -⟩ := usableHandler_free usable
  have acquired : Spares rings m (m.acquire h) := confined.slot ⟨confined h, .refl _ _ _⟩
  have idle : ((m.acquire h).stream h).livesInitialized = false := by
    rw [acquire_stream]
    exact (c.handler h).idle inactive
  exact acquired.trans (acquired.confined.slot
    (create_within (acquired.confined h) idle slot asks silent))

theorem addRTPStream_spares (confined : m.Confined rings) (c : m.Consistent) (asks : AsksFor ops info rings)
    (silent : IsMuted (mutedCell ops.mutePattern)) : Spares rings m (m.addRTPStream info ops).1 := by
  rcases m.addRTPStream_cases info ops with ⟨same, -⟩ | ⟨h, -, usable, ends⟩
  · rw [same]
    exact confined.spares
  · have made := createIn_spares confined c usable asks silent
    have linked := made.trans (attachedStream_spares made.confined h)
    rcases ends with ⟨-, did⟩ | ⟨-, ⟨-, did⟩ | ⟨-, did⟩⟩
    · rw [did]
      exact made
    · rw [did]
      exact linked
    · rw [did]
      apply linked.trans
      apply linked.confined.congr
      · unfold insertStream
        split <;> rfl
      · intro q
        rw [insertStream_stream]

theorem release_spares (confined : m.Confined rings) (silent : IsMuted (mutedCell ops.mutePattern))
    (h : StreamHandle) : Spares rings m (m.release ops h) :=
  confined.slot (cleanup_within (confined h) silent)

theorem releaseIfActive_spares (confined : m.Confined rings) (silent : IsMuted (mutedCell ops.mutePattern))
    (h : StreamHandle) : Spares rings m (m.releaseIfActive ops h).1 := by
  unfold releaseIfActive
  split
  · exact release_spares confined silent h
  · exact confined.spares

theorem removeSink_spares (confined : m.Confined rings) (silent : IsMuted (mutedCell ops.mutePattern))
    (h : StreamHandle) (nic : Nat) : Spares rings m (m.removeSink ops h nic).1 := by
  unfold removeSink
  split
  · have unlisted : Spares rings m
        { m with sinkOrdered := Function.update m.sinkOrdered nic ((m.sinkOrdered nic).erase h) } :=
      ⟨confined, .refl _ _ _⟩
    have detached := unlisted.trans (detachedStream_spares unlisted.confined h)
    exact detached.trans (releaseIfActive_spares detached.confined silent h)
  · exact confined.spares

theorem removeRTPStream_spares (confined : m.Confined rings) (silent : IsMuted (mutedCell ops.mutePattern))
    (h : StreamHandle) : Spares rings m (m.removeRTPStream ops h).1 := by
  have asSource : Spares rings m (m.removeSource ops h).1 := by
    unfold removeSource
    split
    · have unlisted : Spares rings m { m with sourceOrdered := m.sourceOrdered.erase h } :=
        ⟨confined, .refl _ _ _⟩
      exact unlisted.trans (releaseIfActive_spares unlisted.confined silent h)
    · exact confined.spares
  unfold removeRTPStream
  dsimp only
  split
  · exact asSource
  · have onNic0 := asSource.trans (removeSink_spares asSource.confined silent h 0)
    exact onNic0.trans (removeSink_spares onNic0.confined silent h 1)

theorem releaseAll_spares (confined : m.Confined rings) (silent : IsMuted (mutedCell ops.mutePattern))
    (l : List StreamHandle) : Spares rings m (l.foldl (release · ops ·) m) := by
  induction l generalizing m with
  | nil => exact confined.spares
  | cons h rest ih =>
    have here := release_spares confined silent h
    exact here.trans (ih here.confined)

theorem releaseBoth_spares (confined : m.Confined rings) (silent : IsMuted (mutedCell ops.mutePattern))
    (sources sinks : List StreamHandle) : Spares rings m
      (sinks.foldl (release · ops ·)
        { sources.foldl (release · ops ·) { m with sourceOrdered := [] } with sinkOrdered := fun _ => [] }) := by
  have unlisted : Spares rings m { m with sourceOrdered := [] } := ⟨confined, .refl _ _ _⟩
  have first := unlisted.trans (releaseAll_spares unlisted.confined silent sources)
  have between : Spares rings m { sources.foldl (release · ops ·) { m with sourceOrdered := [] } with
      sinkOrdered := fun _ => [] } := ⟨first.confined, first.cells⟩
  exact between.trans (releaseAll_spares between.confined silent sinks)

theorem removeAllRTPStreams_spares (confined : m.Confined rings)
    (silent : IsMuted (mutedCell ops.mutePattern)) : Spares rings m (m.removeAllRTPStreams ops) := by
  unfold removeAllRTPStreams
  exact releaseBoth_spares confined silent sourceSlots sinkSlots

theorem getRTPStreamStatus_mapsTo {s : RTPAudioStream} (maps : s.MapsTo h rings) :
    (RavennaLkm.getRTPStreamStatus s).1.MapsTo h rings := by
  unfold RavennaLkm.getRTPStreamStatus
  split
  · exact maps
  · exact maps.congr rfl

theorem statusIn_spares (confined : m.Confined rings) (h : StreamHandle) (l : List StreamHandle) :
    Spares rings m (m.statusIn h l).1 := by
  unfold statusIn
  split
  · exact confined.slot ⟨getRTPStreamStatus_mapsTo (confined h), .refl _ _ _⟩
  · exact confined.spares

theorem getRTPStreamStatus_spares (confined : m.Confined rings) (h : StreamHandle) :
    Spares rings m (m.getRTPStreamStatus h).1 := by
  have asSource : Spares rings m _ := statusIn_spares confined h m.sourceOrdered
  have asSink {between : RTPStreamsManager} (confined : between.Confined rings) :
      Spares rings between (between.sinkStatus h).1 := by
    have onNic0 : Spares rings between _ := statusIn_spares confined h (between.sinkOrdered 0)
    exact onNic0.trans (statusIn_spares onNic0.confined h _)
  unfold getRTPStreamStatus
  dsimp only
  split
  · exact asSource
  · exact asSource.trans (asSink asSource.confined)

end RTPStreamsManager

namespace Manager
open RTPStreamsManager

variable {m m' m'' : Manager} {rings : Nat → Prop} {livesIn : RingMemory} {alsa : AlsaBuffers} {msg : MTALSAMsg}
  {reply : MTALSAReply} {polled : Nat → Nat → PTPLockStatus} {channel : Nat}

structure Hushed (m m' : Manager) : Prop where
  stream : m'.streams.stream = m.streams.stream
  cells : Within (fun _ => False) IsMuted m.streams.livesIn m'.streams.livesIn

theorem Hushed.of_eq (same : m'.streams = m.streams) : Hushed m m' := by
  constructor
  · rw [same]
  · rw [same]
    exact .refl _ _ _

theorem Hushed.trans (first : Hushed m m') (later : Hushed m' m'') : Hushed m m'' :=
  ⟨later.stream.trans first.stream, first.cells.trans later.cells⟩

theorem muteInputBuffer_hushed (m : Manager) (alsa : AlsaBuffers) : Hushed m (m.muteInputBuffer alsa) := by
  constructor
  · rfl
  · exact .fill (isMuted_mutedCell m.sampleRate) _ _

theorem startIo_hushed (m : Manager) (alsa : AlsaBuffers) (isPlayback : Bool) :
    Hushed m (m.startIo alsa isPlayback).1 := by
  unfold startIo
  split
  · exact .of_eq rfl
  · split
    · exact .of_eq rfl
    · exact (muteInputBuffer_hushed m alsa).trans (.of_eq rfl)

theorem stopIo_hushed (m : Manager) (alsa : AlsaBuffers) (isPlayback : Bool) :
    Hushed m (m.stopIo alsa isPlayback) := by
  unfold stopIo
  split
  · split
    · exact .of_eq rfl
    · exact .of_eq rfl
  · split
    · exact (muteInputBuffer_hushed m alsa).trans (.of_eq rfl)
    · exact .of_eq rfl

theorem start_hushed (done : m.start = .ok m') : Hushed m m' := by
  obtain ⟨m1, started, rfl⟩ := start_started done
  rw [started.only]
  exact .of_eq rfl

theorem stop_hushed (m : Manager) (alsa : AlsaBuffers) : Hushed m (m.stop alsa) := by
  have running : Hushed m (m.stopRunningIO alsa) := by
    unfold stopRunningIO
    split
    · exact (stopIo_hushed m alsa false).trans (stopIo_hushed _ alsa true)
    · exact .of_eq rfl
  exact running.trans (.of_eq rfl)

theorem restarting_hushed {c : Change} (done : m.restarting alsa c.apply = .ok m') : Hushed m m' := by
  have change (before : Manager) : Hushed before (c.apply before) := by
    cases c
    all_goals exact .of_eq rfl
  unfold restarting at done
  split at done
  · exact ((stop_hushed m alsa).trans (change _)).trans (start_hushed done)
  · cases done
    exact change m

theorem setSamplingRate_hushed {samplingRate : UInt32} {result : Bool}
    (done : m.setSamplingRate samplingRate polled = .ok (m', result)) : Hushed m m' := by
  rcases setSamplingRate_cases done with ⟨rfl, -⟩ | ⟨-, -, ⟨-, started, -⟩ | ⟨-, rfl, -⟩⟩
  · exact .of_eq rfl
  · rw [started.only]
    exact .of_eq rfl
  · exact .of_eq rfl

structure Secluded (rings : Nat → Prop) (livesIn : RingMemory) (m : Manager) : Prop where
  confined : m.streams.Confined rings
  cells : Within (InRings rings) IsMuted livesIn m.streams.livesIn

theorem Secluded.hushed (secluded : m.Secluded rings livesIn) (hushed : Hushed m m') :
    m'.Secluded rings livesIn := by
  constructor
  · intro h
    rw [hushed.stream]
    exact secluded.confined h
  · exact secluded.cells.trans (hushed.cells.mono fun _ => False.elim)

theorem Secluded.spares (secluded : m.Secluded rings livesIn) (spares : Spares rings m.streams m'.streams) :
    m'.Secluded rings livesIn := ⟨spares.confined, secluded.cells.trans spares.cells⟩

theorem Secluded.setStreams {streams : RTPStreamsManager} (secluded : m.Secluded rings livesIn)
    (spares : Spares rings m.streams streams) : (m.setStreams streams).Secluded rings livesIn :=
  secluded.spares spares

def OtherRings (channel base : Nat) : Prop := ∃ other, other ≠ channel ∧ base = other * ringBufferSize.toNat

theorem not_inOtherRings {a : Nat} (low : channel * ringBufferSize.toNat ≤ a)
    (high : a < (channel + 1) * ringBufferSize.toNat) :
    ¬ InRings (OtherRings channel) a := by
  have size := toNat_ringBufferSize
  rw [size] at low high
  rintro ⟨base, ⟨other, apart, rfl⟩, above, below⟩
  rw [size] at above below
  omega

def RoutesAway (channel : Nat) (info : RTPStreamInfo) : Prop :=
  info.source = false → ∀ us < info.nbOfChannels.toNat, (getRouting info us).toNat ≠ channel

theorem RoutesAway.asksFor {info : RTPStreamInfo} (away : RoutesAway channel info) (few : m.FewChannels)
    (alsa : AlsaBuffers) : AsksFor (m.callbacks alsa) info (OtherRings channel) := by
  intro sink us below base isRing
  unfold liveInRing at isRing
  split at isRing
  · cases isRing
  · obtain ⟨known, rfl⟩ := jitterBuffer_eq_some.mp isRing
    have inputs := few.1
    have size := toNat_ringBufferSize
    refine ⟨_, away sink us below, ?_⟩
    rw [size]
    omega

def FitsRing (alsa : AlsaBuffers) : Prop := alsa.getCaptureBufferSizeInFrames.toNat ≤ ringBufferSize.toNat

theorem FitsRing.length (fits : FitsRing alsa) (m : Manager) (counterTime : UInt64) :
    (m.callbacks alsa counterTime).liveInJitterBufferLength.toNat ≤ ringBufferSize.toNat := fits

def processClocks (self : Manager) (tick : Tick) : Except Fault (Manager × UInt64) := do
  let selected := self.selectPTPNIC.activePTPNICIdx
  let on0 ← self.selectPTPNIC.timerProcess tick 0
  let on1 ← on0.1.timerProcess tick 1
  let next := if selected = 1 then on1.2 else on0.2
  .ok (on1.1.setNextAbsoluteTime (if selected = 1 then 0 else 1) next, next)

theorem tClockTimer_eq (m : Manager) (tick : Tick) : m.tClockTimer tick =
    m.processClocks tick >>= fun clocks => clocks.1.audioFrameTIC tick >>= fun framed => .ok (framed, clocks.2) := by
  unfold tClockTimer processClocks
  cases m.selectPTPNIC.timerProcess tick 0 with
  | error fault => rfl
  | ok on0 =>
    simp only [ok_bind]
    cases on0.1.timerProcess tick 1 with
    | error fault => rfl
    | ok on1 => rfl

theorem processClocks_streams {tick : Tick} {next : UInt64} (done : m.processClocks tick = .ok (m', next)) :
    m'.streams = m.streams := by
  have timer {before after : Manager} {nic : Nat} {next : UInt64}
      (ran : before.timerProcess tick nic = .ok (after, next)) : after.streams = before.streams := by
    obtain ⟨_, -, last⟩ := bind_eq_ok.mp ran
    cases last
    rfl
  obtain ⟨⟨m0, next0⟩, on0, rest⟩ := bind_eq_ok.mp done
  obtain ⟨⟨m1, next1⟩, on1, last⟩ := bind_eq_ok.mp rest
  cases last
  exact (timer on1).trans ((timer on0).trans rfl)

theorem processClocks_quiet {tick : Tick} {next : UInt64} (done : m.processClocks tick = .ok (m', next)) :
    Quiet m m' := by
  obtain ⟨⟨m0, next0⟩, on0, rest⟩ := bind_eq_ok.mp done
  obtain ⟨⟨m1, next1⟩, on1, last⟩ := bind_eq_ok.mp rest
  cases last
  have timers := ((selectPTPNIC_quiet m).trans (timerProcess_quiet on0)).trans (timerProcess_quiet on1)
  exact timers.trans (setNextAbsoluteTime_quiet ..)

/-- Messages that ask for no ring of the channel and for no more rings than there are, and packets that find a
capture buffer inside of the rings. -/
def Unrouted (channel : Nat) (_ : Manager) : ManagerOp → Prop
  | .message msg _ _ => (∀ c, msg.request = some (.change c) → c.FitsAllocation) ∧
      (MTALSAMsgId.ofValue msg.id = some .addRTPStream → RoutesAway channel (.ofBytes msg.byte))
  | .packet alsa _ _ _ _ _ => FitsRing alsa
  | .tick _ | .startIo _ _ | .stopIo _ _ => True

theorem isMuted_callbacks (m : Manager) (alsa : AlsaBuffers) :
    IsMuted (mutedCell (m.callbacks alsa).mutePattern) := isMuted_mutedCell m.sampleRate

theorem audioFrameTIC_spares {tick : Tick} (c : m.streams.Consistent) (confined : m.streams.Confined rings)
    (done : m.audioFrameTIC tick = .ok m') : Spares rings m.streams m'.streams := by
  obtain ⟨streams, prepared, rest⟩ := bind_eq_ok.mp done
  have first : Spares rings m.streams streams :=
    prepareBufferLivesAll_spares (isMuted_callbacks m tick.alsa) confined prepared
  have kept := (prepareBufferLivesAll_same c prepared).consistent c
  split at rest
  · obtain ⟨sent, run, last⟩ := bind_eq_ok.mp rest
    cases last
    exact first.trans (sendOutgoingPackets_spares kept first.confined run)
  · cases rest
    exact first

theorem dispatchPacket_spares {counterTime clockTime : UInt64} {packet : List UInt8} {macHeader : Bool}
    {nic : Nat} {result : DispatchResult} {before : Manager} (fits : FitsRing alsa)
    (confined : m.streams.Confined rings)
    (done : m.dispatchPacket (before.callbacks alsa counterTime) packet macHeader nic clockTime = .ok (m', result)) :
    Spares rings m.streams m'.streams := by
  obtain ⟨⟨m1, answer⟩, answered, rest⟩ := bind_eq_ok.mp done
  obtain ⟨⟨streams, used⟩, dispatched, last⟩ := bind_eq_ok.mp rest
  cases last
  have clock : m1.streams = m.streams := by
    unfold processPTP at answered
    split at answered
    · obtain ⟨_, -, last⟩ := bind_eq_ok.mp answered
      cases last
      rfl
    · cases answered
      rfl
  rw [clock] at dispatched
  unfold RTPStreamsManager.dispatchPacket at dispatched
  split at dispatched
  · split at dispatched
    · split at dispatched
      · obtain ⟨_, processed, last⟩ := bind_eq_ok.mp dispatched
        cases last
        exact processUDPPacket_spares (fits.length before counterTime) confined processed
      · cases dispatched
        exact confined.spares
    · cases dispatched
      exact confined.spares
  · split at dispatched
    · obtain ⟨_, -, last⟩ := map_eq_ok.mp dispatched
      cases last
      exact confined.spares
    · cases dispatched
      exact confined.spares

theorem setInterfaceNames_streams {names : List (List UInt8)} {index : Nat} {first : MTALSAReply}
    (done : setInterfaceNames msg names index (m, first) = .ok (m', reply)) : m'.streams = m.streams := by
  induction names generalizing m index first with
  | nil =>
    cases done
    rfl
  | cons name rest ih =>
    obtain ⟨⟨m1, result⟩, named, others⟩ := bind_eq_ok.mp done
    have here : m1.streams = m.streams := by
      rcases setInterfaceName_cases m name index with ⟨-, did⟩ | ⟨-, -, did⟩ | ⟨-, -, did⟩ | ⟨-, did⟩
      all_goals cases did.symm.trans named
      all_goals rfl
    exact (ih others).trans here

theorem sized_hushed {size : Nat} {handle : (Nat → UInt8) → Except ManagerFault (Manager × MTALSAReply)}
    (hushed : ∀ m' reply, handle msg.byte = .ok (m', reply) → Hushed m m')
    (done : m.sized msg size handle = .ok (m', reply)) : Hushed m m' := by
  rcases sized_eq_ok.mp done with ⟨-, rfl, -⟩ | ⟨-, -, handled⟩
  · exact .of_eq rfl
  · exact hushed m' reply handled

theorem onSet_hushed {size : Nat} {set : (Nat → UInt8) → Except Fault Manager} {c : Change}
    (sets : set msg.byte = m.restarting alsa c.apply) (done : m.onSet msg size set = .ok (m', reply)) :
    Hushed m m' := by
  apply sized_hushed _ done
  intro m' reply handled
  obtain ⟨m1, lifted, last⟩ := bind_eq_ok.mp handled
  cases last
  exact restarting_hushed (sets.symm.trans (lift_eq_ok.mp lifted))

theorem onAddRTPStream_spares (confined : m.streams.Confined (OtherRings channel)) (c : m.streams.Consistent)
    (few : m.FewChannels) (away : RoutesAway channel (.ofBytes msg.byte))
    (done : m.onAddRTPStream msg alsa = .ok (m', reply)) :
    Spares (OtherRings channel) m.streams m'.streams := by
  unfold onAddRTPStream at done
  split at done
  · cases done
    exact confined.spares
  · obtain ⟨b, read, last⟩ := bind_eq_ok.mp done
    cases last
    unfold MTALSAMsg.load at read
    split at read
    · cases read
      exact addRTPStream_spares confined c (away.asksFor few alsa) (isMuted_callbacks m alsa)
    · cases read

theorem onNewMessage_secluded (secluded : m.Secluded (OtherRings channel) livesIn) (c : m.streams.Consistent)
    (few : m.FewChannels)
    (away : MTALSAMsgId.ofValue msg.id = some .addRTPStream → RoutesAway channel (.ofBytes msg.byte))
    (done : m.onNewMessage msg alsa polled = .ok (m', reply)) : m'.Secluded (OtherRings channel) livesIn := by
  have silent := isMuted_callbacks m alsa
  unfold onNewMessage at done
  generalize MTALSAMsgId.ofValue msg.id = id at done away
  rcases id with _ | id
  · cases done
    exact secluded
  · cases id with
    | start =>
      obtain ⟨m1, lifted, last⟩ := bind_eq_ok.mp done
      cases last
      exact secluded.hushed (start_hushed (lift_eq_ok.mp lifted))
    | stop =>
      cases done
      exact secluded.hushed (stop_hushed m alsa)
    | reset =>
      have same : m' = m.setStreams (m.streams.removeAllRTPStreams (m.callbacks alsa)) :=
        (congrArg Prod.fst (Except.ok.inj done)).symm
      rw [same]
      exact secluded.setStreams (removeAllRTPStreams_spares secluded.confined silent)
    | setSampleRate =>
      apply secluded.hushed
      apply sized_hushed _ done
      intro m' reply handled
      obtain ⟨⟨m1, result⟩, lifted, last⟩ := bind_eq_ok.mp handled
      cases last
      exact setSamplingRate_hushed (lift_eq_ok.mp lifted)
    | setDSDAudioMode =>
      apply secluded.hushed
      apply sized_hushed _ done
      intro m' reply handled
      split at handled
      · cases handled
        exact .of_eq rfl
      · obtain ⟨⟨m1, result⟩, lifted, last⟩ := bind_eq_ok.mp handled
        cases last
        exact setSamplingRate_hushed (lift_eq_ok.mp lifted)
    | setTICFrameSizeAt1FS => exact secluded.hushed (onSet_hushed (c := .ticFrameSizeAt1FS _) rfl done)
    | setMaxTICFrameSize => exact secluded.hushed (onSet_hushed (c := .maxTICFrameSize _) rfl done)
    | setNumberOfInputs => exact secluded.hushed (onSet_hushed (c := .numberOfInputs _) rfl done)
    | setNumberOfOutputs => exact secluded.hushed (onSet_hushed (c := .numberOfOutputs _) rfl done)
    | setInterfaceName =>
      apply secluded.hushed
      simp only [onSetInterfaceName] at done
      split at done
      · cases done
        exact .of_eq rfl
      · obtain ⟨names, -, rest⟩ := bind_eq_ok.mp done
        have inactive : Hushed m { m with isNICActive := fun _ => false } := .of_eq rfl
        exact inactive.trans (.of_eq (setInterfaceNames_streams rest))
    | addRTPStream => exact secluded.spares (onAddRTPStream_spares secluded.confined c few (away rfl) done)
    | removeRTPStream =>
      rcases sized_eq_ok.mp done with ⟨-, rfl, -⟩ | ⟨-, -, handled⟩
      · exact secluded
      · cases handled
        exact secluded.spares (removeRTPStream_spares secluded.confined silent _)
    | getRTPStreamStatus =>
      rcases sized_eq_ok.mp done with ⟨-, rfl, -⟩ | ⟨-, -, handled⟩
      · exact secluded
      · cases handled
        exact secluded.spares (getRTPStreamStatus_spares secluded.confined _)
    | setPTPConfig | setMasterOutputVolume | setMasterOutputSwitch | setPlayoutDelay | setCaptureDelay =>
      apply secluded.hushed
      apply sized_hushed _ done
      intro m' reply handled
      cases handled
      exact .of_eq rfl
    | getPTPStatus =>
      cases done
      exact secluded.hushed (.of_eq rfl)
    | startIo | stopIo | getSampleRate | getAudioMode | getNumberOfInputs | getNumberOfOutputs
    | updateRTPStreamName | getPTPInfo | hello | bye | ping | getMasterOutputVolume | getMasterOutputSwitch
    | getPTPConfig =>
      cases done
      exact secluded

theorem step_secluded {op : ManagerOp} (secluded : m.Secluded (OtherRings channel) livesIn) (ok : m.Ok)
    (few : m.FewChannels) (unrouted : Unrouted channel m op) (done : op.step m = .ok m') :
    m'.Secluded (OtherRings channel) livesIn := by
  cases op with
  | message msg alsa polled =>
    obtain ⟨⟨m1, reply⟩, handled, last⟩ := map_eq_ok.mp done
    cases last
    exact onNewMessage_secluded secluded ok.streams few unrouted.2 handled
  | packet alsa bytes ifname macHeader clockTime counterTime =>
    refine forUp_kept (fun _ m => m.Secluded (OtherRings channel) livesIn) secluded ?_ (lift_eq_ok.mp done)
    intro nic before after _ secluded step
    split at step
    · obtain ⟨⟨_, _⟩, dispatched, last⟩ := map_eq_ok.mp step
      cases last
      exact secluded.spares (dispatchPacket_spares unrouted secluded.confined dispatched)
    · cases step
      exact secluded
  | tick now =>
    rcases tick_cases done with ⟨-, rfl⟩ | ⟨-, next, ticked⟩
    · exact secluded
    · rw [tClockTimer_eq] at ticked
      obtain ⟨⟨m1, wakeUp⟩, clocks, rest⟩ := bind_eq_ok.mp ticked
      obtain ⟨framed, tic, last⟩ := bind_eq_ok.mp rest
      cases last
      have same := processClocks_streams clocks
      have before : m1.Secluded (OtherRings channel) livesIn := secluded.hushed (.of_eq same)
      have consistent := ok.streams
      rw [← same] at consistent
      exact before.spares (audioFrameTIC_spares consistent before.confined tic)
  | startIo alsa isPlayback =>
    cases done
    exact secluded.hushed (startIo_hushed m alsa isPlayback)
  | stopIo alsa isPlayback =>
    cases done
    exact secluded.hushed (stopIo_hushed m alsa isPlayback)

/-- The ring of a channel that no sink was ever routed to holds what it held at first, or silence, whatever
packets arrived. -/
theorem unrouted_channel_silent {macAddress : Nat → MACAddress} {livesIn : RingMemory}
    {streamAt : UInt64 → StreamHandle} {ops : List ManagerOp} {channel : Nat}
    (run : Run ManagerOp.step (Unrouted channel) (init macAddress livesIn streamAt) ops m) :
    ∀ k < ringBufferSize.toNat,
      m.streams.livesIn (channel * ringBufferSize.toNat + k) = livesIn (channel * ringBufferSize.toNat + k) ∨
        IsMuted (m.streams.livesIn (channel * ringBufferSize.toNat + k)) := by
  have start : (init macAddress livesIn streamAt).Secluded (OtherRings channel) livesIn := by
    constructor
    · intro h us base isRing
      cases isRing
    · intro a _
      exact .inl rfl
  have few : FewChannels (init macAddress livesIn streamAt) :=
    ⟨show defaultNumberOfInputs.toNat ≤ 512 by decide, show defaultNumberOfOutputs.toNat ≤ 512 by decide⟩
  have kept : m.Secluded (OtherRings channel) livesIn ∧ m.Ok ∧ m.FewChannels := by
    apply run.invariant fun m => m.Secluded (OtherRings channel) livesIn ∧ m.Ok ∧ m.FewChannels
    · exact ⟨start, init_ok macAddress livesIn streamAt, few⟩
    · intro before op after ⟨secluded, ok, few⟩ unrouted next
      refine ⟨step_secluded secluded ok few unrouted next, step_ok ok next, step_few few ?_ next⟩
      cases op with
      | message msg alsa polled => exact unrouted.1
      | packet | tick | startIo | stopIo => trivial
  intro k inside
  apply kept.1.cells
  apply not_inOtherRings
  · omega
  · rw [Nat.succ_mul]
    omega

/-- The description of a mono sink that is routed to channel 0, as a message has it. -/
def monoSinkBytes : List UInt8 :=
  [(0, [0x93, 1]), (11, [83]), (75, [64]), (79, [48]), (94, [1, 0, 168, 192]), (102, [1, 0, 1, 239]),
    (109, [0x8C, 0x13]), (115, [98]), (125, [0x80, 0xBB]), (129, [76, 50, 52]), (139, [3, 1]), (142, [7])].foldl
      (fun bytes (offset, field) => bytes.take offset ++ field ++ bytes.drop (offset + field.length))
      (List.replicate sizeofRTPStreamInfo.toNat 0)

/-- A started driver records, the sink is added, and a packet for it arrives. -/
def recordingMono : List ManagerOp :=
  startOnEth0 ++ [.startIo {} false, .message ⟨16, 403, monoSinkBytes⟩ {} fun _ _ => .unlocked,
    .packet {} (announcedFrame 1 1 4800 [1, 2, 3]) [101, 116, 104, 48] true 0 0]

theorem recordingMono_unrouted : ∀ op ∈ recordingMono, ∀ m, Unrouted 5 m op := by
  intro op member m
  simp only [recordingMono, startOnEth0, List.cons_append, List.nil_append, List.mem_cons, List.not_mem_nil,
    or_false] at member
  rcases member with rfl | rfl | rfl | rfl | rfl
  · exact ⟨fun c asked => (by cases asked), fun isAdd => (by cases isAdd)⟩
  · exact ⟨fun c asked => (by cases asked), fun isAdd => (by cases isAdd)⟩
  · trivial
  · refine ⟨fun c asked => (by cases asked), fun _ _ => ?_⟩
    decide +kernel
  · exact Nat.le_refl _

/-- The audio of the packet is in the ring of channel 0, and none of it in that of channel 5. -/
theorem unrouted_channel_silent_recording : ∃ m, Run ManagerOp.step (Unrouted 5) loaded recordingMono m ∧
    m.streams.livesIn 4864 = ⟨0, 3, 2, 1⟩ ∧
    ∀ k < ringBufferSize.toNat,
      m.streams.livesIn (5 * ringBufferSize.toNat + k) = {} ∨
        IsMuted (m.streams.livesIn (5 * ringBufferSize.toNat + k)) := by
  obtain ⟨m, run, heard⟩ := exists_run .interfaceOverrun ManagerOp.step (fun _ _ => True) loaded recordingMono
    (fun m => m.streams.livesIn 4864) ⟨0, 3, 2, 1⟩ (by decide +kernel)
  have unrouted := run.of_all recordingMono_unrouted
  exact ⟨m, unrouted, heard, unrouted_channel_silent unrouted⟩

end Manager

end RavennaLkm
