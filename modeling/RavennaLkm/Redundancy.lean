import RavennaLkm.Dispatch
import RavennaLkm.Lib.RedundantLegs

/-!
ST 2022-7 reception: two attached sinks, one on each NIC, are fed the packets of
one RTP sequence. A sink leaves a packet out when the other one has received up
to its end, whether or not the other one has received this packet.
-/
namespace RavennaLkm
open CheckedLoop RedundantLegs

/-- A packet, numbered in its sequence, on one of the two legs. -/
structure Arrival where
  leg : Bool
  index : Nat
  ops : RTPAudioStreamOps
  frame : RTPFrame

/-- An arrival with the manager before and after its call of `ProcessRTPAudioPacket`. -/
structure Received where
  arrival : Arrival
  before : RTPStreamsManager
  after : RTPStreamsManager

namespace RTPStreamsManager

variable {m m' : RTPStreamsManager} {legs : Bool → StreamHandle} {ssrc : UInt32} {a : Arrival}

def receiveAll (legs : Bool → StreamHandle) :
    List Arrival → RTPStreamsManager → Except Fault (List Received)
  | [], _ => .ok []
  | a :: rest, m => do
    let done ← m.processOne a.ops a.frame (legs a.leg)
    let later ← receiveAll legs rest done.1
    .ok (⟨a, m, done.1⟩ :: later)

def packetEnd (m : RTPStreamsManager) (legs : Bool → StreamHandle) (a : Arrival) : UInt64 :=
  endSAC (m.stream (legs a.leg)) a.ops a.frame

def Wrote (legs : Bool → StreamHandle) (r : Received) : Prop :=
  let h := legs r.arrival.leg
  let s := r.before.stream h
  alreadyCopied (r.before.partnerOf h) (r.before.packetEnd legs r.arrival) = false ∧
    copyToLivesIn s r.arrival.ops r.arrival.frame
      (sizeofRTPPacketBase + (claimedSkip r.arrival.frame).toNat)
      (arrivalSAC s r.arrival.ops r.arrival.frame) (claimedSamples s r.arrival.frame)
      r.before.livesIn = .ok r.after.livesIn

/-- Two listed sinks, attached to each other. -/
structure SinkPair (m : RTPStreamsManager) (legs : Bool → StreamHandle) : Prop where
  listed : ∀ leg : Bool, legs leg ∈ m.sinkOrdered leg.toNat
  attached : ∀ leg, m.attached (legs leg) = some (legs !leg)

/-- Copies of the packets of one sequence, each leg in order. -/
structure Fed (m : RTPStreamsManager) (legs : Bool → StreamHandle) (ssrc : UInt32)
    (arrivals : List Arrival) : Prop where
  header : ∀ a ∈ arrivals, OfSequence ssrc (m.stream (legs a.leg)) a.frame.packetBase.rtpHeader
  follows : ∀ leg, Follows ssrc (m.stream (legs leg))
  someSample : ∀ a ∈ arrivals, claimedSamples (m.stream (legs a.leg)) a.frame ≠ 0
  inOrder : arrivals.Pairwise fun a b => a.leg = b.leg → a.index < b.index

def lastReceived (m : RTPStreamsManager) (legs : Bool → StreamHandle) (before : List Arrival)
    (leg : Bool) : UInt64 :=
  before.foldl (fun last a => if a.leg = leg then m.packetEnd legs a else last)
    (m.stream (legs leg)).lastAudioSampleReceivedSAC

/-- No packet arrives on a leg after the other leg lost it and received a later one. -/
def NoneOvertaken (m : RTPStreamsManager) (legs : Bool → StreamHandle) (arrivals : List Arrival) :
    Prop :=
  ∀ before a after, arrivals = before ++ a :: after →
    m.packetEnd legs a ≤ m.lastReceived legs before (!a.leg) →
      ∃ b ∈ before, b.leg ≠ a.leg ∧ b.index = a.index

/-- Every packet that arrives is written on arrival, or was written before. -/
def Reconstructed (legs : Bool → StreamHandle) (trace : List Received) : Prop :=
  ∀ before r after, trace = before ++ r :: after → Wrote legs r ∨
    ∃ b ∈ before, b.arrival.index = r.arrival.index ∧ Wrote legs b

structure During (m : RTPStreamsManager) (legs : Bool → StreamHandle) (ssrc : UInt32)
    (before : List Arrival) (m' : RTPStreamsManager) : Prop where
  same : m.SameManager m'
  last : ∀ leg, (m'.stream (legs leg)).lastAudioSampleReceivedSAC = m.lastReceived legs before leg
  follows : ∀ leg, Follows ssrc (m'.stream (legs leg))

theorem lastReceived_snoc (m : RTPStreamsManager) (legs : Bool → StreamHandle) (before : List Arrival)
    (a : Arrival) (leg : Bool) : m.lastReceived legs (before ++ [a]) leg =
      if a.leg = leg then m.packetEnd legs a else m.lastReceived legs before leg := by
  rw [lastReceived, List.foldl_append]
  rfl

theorem SameManager.packetEnd (same : m.SameManager m') (legs : Bool → StreamHandle) (a : Arrival) :
    m'.packetEnd legs a = m.packetEnd legs a := by
  rw [RTPStreamsManager.packetEnd, endSAC, (same.stream _).arrivalSAC, (same.stream _).claimedSamples]
  rfl

theorem SinkPair.accepted (pair : m.SinkPair legs) (c : m.Consistent) (leg : Bool) :
    AcceptedSink (m.stream (legs leg)) :=
  (c.sink _ _ (pair.listed leg)).2.2.2

theorem SinkPair.injective (pair : m.SinkPair legs) (c : m.Consistent) (leg leg' : Bool) :
    legs leg = legs leg' ↔ leg = leg' := by
  constructor
  · intro same
    have nic := (c.sink _ _ (pair.listed leg)).2.1
    rw [same, (c.sink _ _ (pair.listed leg')).2.1] at nic
    cases leg <;> cases leg' <;> first | rfl | exact absurd nic (by decide)
  · intro same
    subst same
    rfl

theorem During.step {before : List Arrival} {done : RTPStreamsManager × Bool} (c : m.Consistent)
    (pair : m.SinkPair legs) (during : During m legs ssrc before m')
    (ofSequence : OfSequence ssrc (m.stream (legs a.leg)) a.frame.packetBase.rtpHeader)
    (someSample : claimedSamples (m.stream (legs a.leg)) a.frame ≠ 0)
    (processed : m'.processOne a.ops a.frame (legs a.leg) = .ok done) :
    During m legs ssrc (before ++ [a]) done.1 ∧ (Wrote legs ⟨a, m', done.1⟩ ↔
      ¬ m.packetEnd legs a ≤ m.lastReceived legs before (!a.leg)) := by
  obtain ⟨⟨t, mem, used⟩, run, last⟩ := bind_eq_ok.mp processed
  cases last
  have same := during.same.stream (legs a.leg)
  have here : OfSequence ssrc (m'.stream (legs a.leg)) a.frame.packetBase.rtpHeader := by
    obtain ⟨_, _, info⟩ := same.info
    obtain ⟨noPadding, version, payloadType, isSSRC⟩ := ofSequence
    exact ⟨noPadding, version, by rw [info]; exact payloadType, isSSRC⟩
  obtain ⟨isLast, follows, copied⟩ := ((pair.accepted c a.leg).same same).received here
    (during.follows a.leg) (by rw [same.claimedSamples]; exact someSample) run
  have isEnd : endSAC (m'.stream (legs a.leg)) a.ops a.frame = m.packetEnd legs a :=
    during.same.packetEnd legs a
  have streams : ∀ leg, (m'.storeStream (legs a.leg) t mem).stream (legs leg) =
      if a.leg = leg then t else m'.stream (legs leg) := by
    intro leg
    rw [storeStream_stream, if_congr ((pair.injective c leg a.leg).trans eq_comm) rfl rfl]
  have partner : m'.partnerOf (legs a.leg) = some (m'.stream (legs !a.leg)).toRTPStream := by
    have attached : m'.attached (legs a.leg) = some (legs !a.leg) :=
      same.attached.trans (pair.attached a.leg)
    rw [partnerOf, attached, Option.map_some]
  have skips : alreadyCopied (m'.partnerOf (legs a.leg)) (m'.packetEnd legs a) = true ↔
      m.packetEnd legs a ≤ m.lastReceived legs before (!a.leg) := by
    rw [partner, during.same.packetEnd, ← during.last]
    exact decide_eq_true_iff
  refine ⟨⟨during.same.trans (sameManager_store (processRTPAudioPacket_same run) mem), ?_, ?_⟩, ?_⟩
  · intro leg
    rw [streams, lastReceived_snoc]
    split
    · exact isLast.trans isEnd
    · exact during.last leg
  · intro leg
    rw [streams]
    split
    · exact follows
    · exact during.follows leg
  · rw [← skips, Bool.not_eq_true]
    constructor
    · intro wrote
      exact wrote.1
    · intro writes
      refine ⟨writes, ?_⟩
      have copies : ¬ alreadyCopied (m'.partnerOf (legs a.leg))
          (arrivalSAC (m'.stream (legs a.leg)) a.ops a.frame +
            (claimedSamples (m'.stream (legs a.leg)) a.frame).toUInt64) = true := by
        rw [Bool.not_eq_true]
        exact writes
      rw [copyAudio, if_neg copies] at copied
      exact copied

theorem During.run {arrivals before : List Arrival} {trace : List Received} (c : m.Consistent)
    (pair : m.SinkPair legs) (during : During m legs ssrc before m')
    (ofSequence : ∀ a ∈ arrivals,
      OfSequence ssrc (m.stream (legs a.leg)) a.frame.packetBase.rtpHeader)
    (someSample : ∀ a ∈ arrivals, claimedSamples (m.stream (legs a.leg)) a.frame ≠ 0)
    (run : receiveAll legs arrivals m' = .ok trace) :
    trace.map (·.arrival) = arrivals ∧ ∀ front r rear, trace = front ++ r :: rear →
      (Wrote legs r ↔ ¬ m.packetEnd legs r.arrival ≤
        m.lastReceived legs (before ++ front.map (·.arrival)) (!r.arrival.leg)) := by
  induction arrivals generalizing before m' trace with
  | nil =>
    cases run
    exact ⟨rfl, by simp⟩
  | cons a rest ih =>
    obtain ⟨done, processed, others⟩ := bind_eq_ok.mp run
    obtain ⟨later, ran, last⟩ := bind_eq_ok.mp others
    cases last
    have isFirst := List.mem_cons_self (a := a) (l := rest)
    obtain ⟨next, writes⟩ := during.step c pair (ofSequence a isFirst) (someSample a isFirst) processed
    obtain ⟨same, entries⟩ := ih next (fun b isRest => ofSequence b (List.mem_cons_of_mem _ isRest))
      (fun b isRest => someSample b (List.mem_cons_of_mem _ isRest)) ran
    refine ⟨by rw [List.map_cons, same], ?_⟩
    intro front r rear split
    cases front with
    | nil =>
      rw [List.nil_append] at split
      cases split
      rw [List.map_nil, List.append_nil]
      exact writes
    | cons first front =>
      rw [List.cons_append] at split
      cases split
      have entry := entries front r rear rfl
      rwa [List.append_assoc, List.singleton_append] at entry

/-- Every packet that arrives is written exactly if none is overtaken on the other leg. -/
theorem reconstructed_iff {arrivals : List Arrival} {trace : List Received} (reached : m.Reachable)
    (pair : m.SinkPair legs) (fed : m.Fed legs ssrc arrivals)
    (run : receiveAll legs arrivals m = .ok trace) :
    Reconstructed legs trace ↔ m.NoneOvertaken legs arrivals := by
  have start : During m legs ssrc [] m := ⟨.refl m, fun _ => rfl, fed.follows⟩
  obtain ⟨same, entries⟩ := start.run reached.consistent pair fed.header fed.someSample run
  have once : trace.Pairwise fun a b =>
      a.arrival.leg = b.arrival.leg → a.arrival.index ≠ b.arrival.index := by
    have inOrder := fed.inOrder
    rw [← same, List.pairwise_map] at inOrder
    exact inOrder.imp fun ordered sameLeg => (ordered sameLeg).ne
  refine (covered_iff_excused (·.arrival.leg) (·.arrival.index) (Wrote legs) once).trans ?_
  constructor
  · intro excused before a after split late
    rw [← same] at split
    obtain ⟨front, back, rfl, rfl, isBack⟩ := List.map_eq_append_iff.mp split
    obtain ⟨r, rear, rfl, rfl, rfl⟩ := List.map_eq_cons_iff.mp isBack
    obtain ⟨b, isFront, delivered⟩ := excused front r rear rfl fun wrote =>
      (entries front r rear rfl).mp wrote late
    exact ⟨b.arrival, List.mem_map_of_mem isFront, delivered⟩
  · intro noneOvertaken front r rear split skipped
    have late := not_not.mp (mt (entries front r rear split).mpr skipped)
    rw [List.nil_append] at late
    obtain ⟨b, isBefore, delivered⟩ := noneOvertaken (front.map (·.arrival)) r.arrival
      (rear.map (·.arrival)) (by rw [← same, split, List.map_append, List.map_cons]) late
    obtain ⟨received, isFront, rfl⟩ := List.mem_map.mp isBefore
    exact ⟨received, isFront, delivered⟩

def twoLegs (leg : Bool) : StreamHandle := if leg then .sink 128 else .sink 0

def arrivalOf (leg : Bool) (index : Nat) : Arrival where
  leg := leg
  index := index
  ops := oneLiveInOps
  frame := ⟨announcedFrame 1 index (4800 + index) [1, 2, 3], by simp [announcedFrame]⟩

theorem withSinks_pair : (withSinks [0, 1]).SinkPair twoLegs := by
  constructor
  · intro leg
    cases leg <;> decide
  · intro leg
    cases leg <;> rfl

theorem arrivalOf_sequence (leg : Bool) (index : Nat) :
    OfSequence 0 ((withSinks [0, 1]).stream (twoLegs leg))
        (arrivalOf leg index).frame.packetBase.rtpHeader ∧
      claimedSamples ((withSinks [0, 1]).stream (twoLegs leg)) (arrivalOf leg index).frame ≠ 0 := by
  have header := RTPFrame.packetBase_of_bytes (arrivalOf leg index).frame rfl
  have plain := claimedSkip_of_plain (arrivalOf leg index).frame (by rw [header])
  rw [claimedSamples, plain, payloadLength, header]
  constructor
  · cases leg <;> exact ⟨by dsimp only; decide, by dsimp only; decide, rfl, by dsimp only; decide⟩
  · dsimp only
    cases leg <;> decide

theorem arrivalOf_fed {arrivals : List Arrival}
    (inOrder : arrivals.Pairwise fun a b => a.leg = b.leg → a.index < b.index)
    (copies : ∀ a ∈ arrivals, a = arrivalOf a.leg a.index) : (withSinks [0, 1]).Fed twoLegs 0 arrivals := by
  refine ⟨?_, ?_, ?_, inOrder⟩
  · intro a arrived
    rw [copies a arrived]
    exact (arrivalOf_sequence _ _).1
  · intro leg learned
    cases leg <;> cases learned
  · intro a arrived
    rw [copies a arrived]
    exact (arrivalOf_sequence _ _).2

def bothThenSecond : List Arrival := [arrivalOf false 1, arrivalOf true 1, arrivalOf true 2]

theorem reconstructed_iff_bothThenSecond :
    ∃ trace, receiveAll twoLegs bothThenSecond (withSinks [0, 1]) = .ok trace ∧
      (Reconstructed twoLegs trace ↔ (withSinks [0, 1]).NoneOvertaken twoLegs bothThenSecond) := by
  have fed : (withSinks [0, 1]).Fed twoLegs 0 bothThenSecond := by
    apply arrivalOf_fed
    · simp [bothThenSecond, arrivalOf]
    · simp [bothThenSecond, arrivalOf]
  exact ⟨_, rfl, reconstructed_iff (withSinks_reachable [0, 1]) withSinks_pair fed rfl⟩

def lateSecond : List Arrival := [arrivalOf false 1, arrivalOf false 3, arrivalOf true 2]

theorem lateSecond_fed : (withSinks [0, 1]).Fed twoLegs 0 lateSecond := by
  apply arrivalOf_fed
  · simp [lateSecond, arrivalOf]
  · simp [lateSecond, arrivalOf]

/-- The packet 2 arrives and is written by no one. -/
theorem lateSecond_lost : (withSinks [0, 1]).Reachable ∧ (withSinks [0, 1]).SinkPair twoLegs ∧
    (withSinks [0, 1]).Fed twoLegs 0 lateSecond ∧
    ∃ trace, receiveAll twoLegs lateSecond (withSinks [0, 1]) = .ok trace ∧
      ¬ Reconstructed twoLegs trace := by
  refine ⟨withSinks_reachable [0, 1], withSinks_pair, lateSecond_fed, ?_⟩
  refine ⟨_, rfl, fun reconstructed => ?_⟩
  rcases reconstructed [_, _] _ [] rfl with ⟨writes, -⟩ | ⟨b, isBefore, samePacket, -⟩
  · exact absurd writes (by decide)
  · simp only [List.mem_cons, List.not_mem_nil, or_false] at isBefore
    rcases isBefore with rfl | rfl
    · exact absurd samePacket (by decide)
    · exact absurd samePacket (by decide)

end RTPStreamsManager

end RavennaLkm
