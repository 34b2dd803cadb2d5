import RavennaLkm.Attachment
import RavennaLkm.PacketFit

/-!
Who transmits a frame. The pass over the ordered sources visits both legs of a
pair; the leg on NIC 1 leaves the work to the leg it is attached to.
-/
namespace RavennaLkm
open CheckedLoop GuardedRun

def Covers (sampleBytes : Nat) : UInt32 → Nat → List TransmittedPacket → Prop
  | _, left, [] => left = 0
  | t, left, p :: rest =>
    mtalSwap32 p.header.rtpHeader.timestamp = t ∧
      ∃ n, 0 < n ∧ n ≤ left ∧ p.size.toNat = sizeofRTPPacketBase + n * sampleBytes ∧
        Covers sampleBytes (t + UInt32.ofNat n) (left - n) rest

def CarriesFrame (s : RTPAudioStream) (ops : RTPAudioStreamOps) (out : List (Option TransmittedPacket)) :
    Prop :=
  ∃ packets, out = packets.map some ∧ (∀ p ∈ packets, p.nicId = s.ethNetfilter.nicId) ∧
    Covers (sampleBytes s s.rtpStreamInfo.wordLength.toNat)
      (ops.globalSAC - ops.frameSize.toUInt64 + s.rtpStreamInfo.rtpTimestampOffset.toUInt64).toUInt32
      ops.frameSize.toNat packets

def rtpFields (out : Option TransmittedPacket) : Option (UInt16 × UInt32) :=
  out.map fun p => (p.header.rtpHeader.seqNum, p.header.rtpHeader.timestamp)

theorem CarriesFrame.same {s t : RTPAudioStream} {ops : RTPAudioStreamOps}
    {out : List (Option TransmittedPacket)} (carries : CarriesFrame s ops out) (same : SameStream s t) :
    CarriesFrame t ops out := by
  obtain ⟨packets, isOut, nic, covers⟩ := carries
  obtain ⟨_, _, info⟩ := same.info
  refine ⟨packets, isOut, ?_, ?_⟩
  · rw [same.nic]
    exact nic
  · rw [sampleBytes, info]
    exact covers

theorem nextTimestamp (sac : UInt64) (n offset : UInt32) :
    (sac + n.toUInt64 + offset.toUInt64).toUInt32 =
      (sac + offset.toUInt64).toUInt32 + UInt32.ofNat n.toNat := by
  have swapped : sac + n.toUInt64 + offset.toUInt64 = sac + offset.toUInt64 + n.toUInt64 := by
    rw [UInt64.add_assoc, UInt64.add_comm n.toUInt64, UInt64.add_assoc]
  rw [swapped, UInt64.toUInt32_add, UInt32.toUInt32_toUInt64, UInt32.ofNat_toNat]

theorem Rounds.covers {s : RTPAudioStream} {ops : RTPAudioStreamOps} {livesOut : RingMemory}
    {maxSamples largest : UInt32} {remaining : Nat} {sac : UInt64} {offset : UInt32} {seqNum : UInt16}
    {pieces : List Piece} (rounds : Rounds ops maxSamples remaining sac offset seqNum pieces)
    (ready : ReadyLeg largest s) (atMost : min maxSamples.toNat remaining ≤ largest.toNat) :
    Covers (sampleBytes s s.rtpStreamInfo.wordLength.toNat)
      (sac + s.rtpStreamInfo.rtpTimestampOffset.toUInt64).toUInt32 remaining
      (pieces.map (piecePacket s ops livesOut)) := by
  induction rounds with
  | done => rfl
  | @round left sac offset seqNum rest n positive few later ih =>
    have fewer : n.toNat ≤ largest.toNat := by omega
    obtain ⟨-, room⟩ := ready.fits.mono fewer
    rw [show rtpMaxPayloadSize.toNat = 1460 from rfl] at room
    rw [List.map_cons]
    refine ⟨?_, n.toNat, positive, by omega, ?_, ?_⟩
    · rw [piecePacket_header, packetHeader, mtalSwap32_swap32]
    · exact ready.accepted.packetSize_toNat (n := n) (by omega)
    · rw [← nextTimestamp, Nat.add_sub_cancel_left]
      exact ih (by omega)

theorem legPackets_carry {self s : RTPAudioStream} {ops : RTPAudioStreamOps} {livesOut : RingMemory}
    (someSamples : self.rtpStreamInfo.maxSamplesPerPacket ≠ 0)
    (ready : ReadyLeg (min self.rtpStreamInfo.maxSamplesPerPacket ops.frameSize) s) (seqNum : UInt16) :
    CarriesFrame s ops (legPackets (some s) ops livesOut (outgoingPieces self ops seqNum)) := by
  refine ⟨_, (List.map_map ..).symm, ?_, ?_⟩
  · intro p isPacket
    obtain ⟨_, -, rfl⟩ := List.mem_map.mp isPacket
    rfl
  · exact (outgoingPieces_rounds ops seqNum someSamples).covers ready (toNat_min .. ▸ Nat.le_refl _)

namespace RTPStreamsManager

variable {m m' m'' : RTPStreamsManager} {h p q : StreamHandle} {ops : RTPAudioStreamOps}

def sendingLeg (m : RTPStreamsManager) (h : StreamHandle) : StreamHandle :=
  if m.nicId h = 1 then (m.attached h).getD h else h

structure Sendable (m : RTPStreamsManager) (ops : RTPAudioStreamOps) : Prop where
  pairs : ∀ h ∈ m.sourceOrdered, ∀ p, m.attached h = some p →
    p ∈ m.sourceOrdered ∧ m.attached p = some h ∧ m.nicId p ≠ m.nicId h ∧
      (m.stream p).rtpStreamInfo.rtpTimestampOffset = (m.stream h).rtpStreamInfo.rtpTimestampOffset
  fits : ∀ h ∈ m.sourceOrdered,
    LegFits (min (m.stream (m.sendingLeg h)).rtpStreamInfo.maxSamplesPerPacket ops.frameSize)
      (m.stream h)

structure SameSources (m m' : RTPStreamsManager) : Prop where
  sourceOrdered : m'.sourceOrdered = m.sourceOrdered
  stream : ∀ h, SameSource (m.stream h) (m'.stream h)

theorem SameSources.trans (first : m.SameSources m') (then_ : m'.SameSources m'') :
    m.SameSources m'' :=
  ⟨then_.sourceOrdered.trans first.sourceOrdered, fun h => (first.stream h).trans (then_.stream h)⟩

namespace SameSources

variable (same : m.SameSources m')

include same

theorem attached (h : StreamHandle) : m'.attached h = m.attached h := (same.stream h).attached

theorem nicId (h : StreamHandle) : m'.nicId h = m.nicId h :=
  congrArg EtherTubeNetfilter.nicId (same.stream h).nic

theorem sendingLeg (h : StreamHandle) : m'.sendingLeg h = m.sendingLeg h := by
  rw [RTPStreamsManager.sendingLeg, same.nicId, same.attached]
  rfl

theorem sendable (can : m.Sendable ops) : m'.Sendable ops := by
  constructor
  · intro h listed p isPartner
    rw [same.sourceOrdered] at listed ⊢
    rw [same.attached] at isPartner ⊢
    rw [same.nicId, same.nicId, (same.stream p).info, (same.stream h).info]
    exact can.pairs h listed p isPartner
  · intro h listed
    rw [same.sourceOrdered] at listed
    rw [same.sendingLeg, (same.stream _).info]
    exact (can.fits h listed).same (same.stream h)

end SameSources

structure Ready (m : RTPStreamsManager) (ops : RTPAudioStreamOps) : Prop where
  accepted : ∀ h ∈ m.sourceOrdered, AcceptedSource (m.stream h)
  nic : ∀ h ∈ m.sourceOrdered, m.nicId h = 0 ∨ m.nicId h = 1
  sendable : m.Sendable ops

theorem Ready.same (ready : m.Ready ops) (same : m.SameSources m') : m'.Ready ops := by
  refine ⟨?_, ?_, same.sendable ready.sendable⟩
  · intro h listed
    exact (ready.accepted h (same.sourceOrdered ▸ listed)).same (same.stream h)
  · intro h listed
    rw [same.nicId]
    exact ready.nic h (same.sourceOrdered ▸ listed)

theorem Ready.leg (ready : m.Ready ops) (listed : h ∈ m.sourceOrdered) :
    ReadyLeg (min (m.stream (m.sendingLeg h)).rtpStreamInfo.maxSamplesPerPacket ops.frameSize)
      (m.stream h) :=
  ⟨ready.accepted h listed, ready.sendable.fits h listed⟩

theorem Ready.silent (ready : m.Ready ops) (nic1 : m.nicId h = 1)
    (paired : (m.attached h).isSome = true) (listed : q ∈ m.sourceOrdered) : m.sendingLeg q ≠ h := by
  intro sends
  obtain ⟨p, isPartner⟩ := Option.isSome_iff_exists.mp paired
  rw [sendingLeg] at sends
  by_cases onNic1 : m.nicId q = 1
  · rw [if_pos onNic1] at sends
    cases attachedTo : m.attached q with
    | none =>
      rw [attachedTo, Option.getD_none] at sends
      rw [← sends, attachedTo] at isPartner
      cases isPartner
    | some r =>
      rw [attachedTo, Option.getD_some] at sends
      obtain ⟨-, -, differ, -⟩ := ready.sendable.pairs q listed r attachedTo
      exact differ (by rw [sends, nic1, onNic1])
  · rw [if_neg onNic1] at sends
    exact onNic1 (sends ▸ nic1)

/-- Any other stream sends for itself and for the stream it is attached to. -/
theorem Ready.sends (ready : m.Ready ops) (isListed : h ∈ m.sourceOrdered)
    (speaks : ¬ (m.nicId h = 1 ∧ (m.attached h).isSome = true)) (listed : q ∈ m.sourceOrdered) :
    m.sendingLeg q = h ↔ q = h ∨ m.attached h = some q := by
  have own : m.sendingLeg h = h := by
    rw [sendingLeg]
    split
    · rename_i nic1
      cases attachedTo : m.attached h with
      | none => rfl
      | some p => exact absurd ⟨nic1, by rw [attachedTo]; rfl⟩ speaks
    · rfl
  constructor
  · intro sends
    rw [sendingLeg] at sends
    split at sends
    · cases attachedTo : m.attached q with
      | none =>
        rw [attachedTo, Option.getD_none] at sends
        exact .inl sends
      | some r =>
        rw [attachedTo, Option.getD_some] at sends
        obtain ⟨-, back, -, -⟩ := ready.sendable.pairs q listed r attachedTo
        exact .inr (sends ▸ back)
    · exact .inl sends
  · rintro (rfl | isPartner)
    · exact own
    · obtain ⟨-, back, differ, -⟩ := ready.sendable.pairs h isListed q isPartner
      have nic0 : m.nicId h = 0 := (ready.nic h isListed).resolve_right fun nic1 =>
        speaks ⟨nic1, by rw [isPartner]; rfl⟩
      have nic1 : m.nicId q = 1 := (ready.nic q listed).resolve_left fun zero =>
        differ (by rw [zero, nic0])
      rw [sendingLeg, if_pos nic1, back, Option.getD_some]

theorem SameSources.outgoingPieces (same : m.SameSources m') (ops : RTPAudioStreamOps)
    (h : StreamHandle) (seqNum : UInt16) :
    outgoingPieces (m'.stream h) ops seqNum = outgoingPieces (m.stream h) ops seqNum := by
  rw [RavennaLkm.outgoingPieces, (same.stream h).info]
  rfl

theorem SameSources.legPackets (same : m.SameSources m') (ops : RTPAudioStreamOps)
    (livesOut : RingMemory) (h : StreamHandle) (pieces : List Piece) :
    legPackets (some (m'.stream h)) ops livesOut pieces =
      legPackets (some (m.stream h)) ops livesOut pieces :=
  legPackets_same (show SamePartner (some (m.stream h)) (some (m'.stream h)) from same.stream h) ops
    livesOut pieces

theorem sameSources_setStream {s : RTPAudioStream} (same : SameSource (m.stream h) s) :
    m.SameSources (m.setStream h s) := by
  refine ⟨rfl, fun q => ?_⟩
  by_cases here : q = h
  · rw [here, setStream_same]
    exact same
  · rw [setStream_other _ here]
    exact .refl _

theorem sentBy_append (log log' : SendLog) (h : StreamHandle) :
    sentBy (log ++ log') h = sentBy log h ++ sentBy log' h := by
  rw [sentBy, List.filter_append, List.map_append]
  rfl

theorem sentBy_leg (out : List (Option TransmittedPacket)) (h q : StreamHandle) :
    sentBy (out.map (h, ·)) q = if q = h then out else [] := by
  rw [sentBy, List.filter_map]
  split
  · subst q
    simp [Function.comp_def]
  · rename_i other
    simp [Function.comp_def, Ne.symm other]

theorem sendFrom_of_sent {skb : Bool} {livesOut : RingMemory} {done : SendState}
    (noSelf : m.attached h ≠ some h)
    (sent : sendRTPAudioPackets (m.stream h) ((m.attached h).map m.stream) ops skb livesOut = .ok done) :
    ∃ m' log, m.SameSources m' ∧ m.sendFrom ops skb livesOut h = .ok (m', log) ∧
      ∀ q, sentBy log q =
        (if q = h then done.sent else []) ++ if m.attached h = some q then done.partnerSent else [] := by
  obtain ⟨self, partner⟩ := sendRTPAudioPackets_same sent
  have first := sameSources_setStream self
  rw [sendFrom, sent, ok_bind]
  cases isPartner : m.attached h with
  | none => exact ⟨_, _, first, rfl, fun q => by simp [sentBy_leg]⟩
  | some p =>
    rw [isPartner, Option.map_some] at partner
    cases isT : done.partner with
    | none =>
      rw [isT] at partner
      exact partner.elim
    | some t =>
      rw [isT] at partner
      have other : p ≠ h := fun same => noSelf (by rw [isPartner, same])
      have kept : SameSource ((m.setStream h done.stream).stream p) t := by
        rw [setStream_other _ other]
        exact partner
      refine ⟨_, _, first.trans (sameSources_setStream kept), rfl, ?_⟩
      intro q
      simp only [sentBy_append, sentBy_leg, Option.some.injEq, eq_comm]

theorem Ready.noSelf (ready : m.Ready ops) (listed : h ∈ m.sourceOrdered) : m.attached h ≠ some h :=
  fun self => (ready.sendable.pairs h listed h self).2.2.1 rfl

theorem Ready.sendFrom (ready : m.Ready ops) (livesOut : RingMemory) (isListed : h ∈ m.sourceOrdered)
    (position : RingPosition ops ops.playbackBufferOffset ops.frameSize) :
    ∃ m' log, m.sendFrom ops true livesOut h = .ok (m', log) ∧ m.SameSources m' ∧
      ∀ q ∈ m.sourceOrdered, sentBy log q =
        if m.sendingLeg q = h then
          legPackets (some (m.stream q)) ops livesOut
            (outgoingPieces (m.stream h) ops (m.stream h).outgoingSeqNum)
        else [] := by
  have noSelf := ready.noSelf isListed
  by_cases silent : m.nicId h = 1 ∧ (m.attached h).isSome = true
  · have run : sendRTPAudioPackets (m.stream h) ((m.attached h).map m.stream) ops true livesOut =
        .ok _ := if_pos ⟨silent.1, by rw [Option.isSome_map]; exact silent.2⟩
    obtain ⟨m', log, same, sent, legs⟩ := sendFrom_of_sent noSelf run
    refine ⟨m', log, sent, same, ?_⟩
    intro q listed
    rw [if_neg (ready.silent silent.1 silent.2 listed)]
    refine (legs q).trans ?_
    simp [sendStart]
  · have sends : ∀ q ∈ m.sourceOrdered, m.sendingLeg q = h ↔ q = h ∨ m.attached h = some q :=
      fun q listed => ready.sends isListed silent listed
    have leg : ∀ q ∈ m.sourceOrdered, q = h ∨ m.attached h = some q →
        ReadyLeg (min (m.stream h).rtpStreamInfo.maxSamplesPerPacket ops.frameSize) (m.stream q) := by
      intro q listed legOf
      have ready := ready.leg listed
      rwa [(sends q listed).mpr legOf] at ready
    obtain ⟨done, run, sent, partnerSent⟩ := sendRTPAudioPackets_of_ready (m.stream h)
      ((m.attached h).map m.stream) ops livesOut (by rw [Option.isSome_map]; exact silent) position
      (leg h isListed (.inl rfl)) (by
        intro s isPartner
        obtain ⟨p, attachedTo, rfl⟩ := Option.map_eq_some_iff.mp isPartner
        exact leg p (ready.sendable.pairs h isListed p attachedTo).1 (.inr attachedTo))
    obtain ⟨m', log, same, isSent, legs⟩ := sendFrom_of_sent noSelf run
    refine ⟨m', log, isSent, same, ?_⟩
    intro q listed
    rw [if_congr (sends q listed) rfl rfl, legs, sent, partnerSent]
    by_cases self : q = h
    · subst q
      simp [noSelf]
    · by_cases isPartner : m.attached h = some q
      · simp [self, isPartner]
      · simp [self, isPartner]

theorem sendEach_ready (ready : m.Ready ops) (livesOut : RingMemory) (l : List StreamHandle)
    (once : l.Nodup) (sources : ∀ h ∈ l, h ∈ m.sourceOrdered)
    (position : RingPosition ops ops.playbackBufferOffset ops.frameSize) :
    ∃ m' log, sendEach ops true livesOut l m = .ok (m', log) ∧ m.SameSources m' ∧
      ∃ seqNum : StreamHandle → UInt16, ∀ q ∈ m.sourceOrdered, sentBy log q =
        if m.sendingLeg q ∈ l then
          legPackets (some (m.stream q)) ops livesOut
            (outgoingPieces (m.stream (m.sendingLeg q)) ops (seqNum (m.sendingLeg q)))
        else [] := by
  induction l generalizing m with
  | nil => exact ⟨m, [], rfl, ⟨rfl, fun _ => .refl _⟩, fun _ => 0, fun _ _ => rfl⟩
  | cons h rest ih =>
    obtain ⟨fresh, once⟩ := List.nodup_cons.mp once
    obtain ⟨m1, log, sent, same, own⟩ :=
      ready.sendFrom livesOut (sources h (List.mem_cons_self ..)) position
    obtain ⟨m2, later, sentLater, sameLater, seqNum, others⟩ := ih (ready.same same) once (by
      intro q isRest
      rw [same.sourceOrdered]
      exact sources q (List.mem_cons_of_mem _ isRest))
    refine ⟨m2, log ++ later, ?_, same.trans sameLater,
      Function.update seqNum h (m.stream h).outgoingSeqNum, ?_⟩
    · rw [sendEach, sent, ok_bind, sentLater]
      rfl
    · intro q listed
      have here := own q listed
      have there := others q (by rw [same.sourceOrdered]; exact listed)
      rw [same.sendingLeg, same.legPackets, same.outgoingPieces] at there
      rw [sentBy_append, here, there]
      by_cases sends : m.sendingLeg q = h
      · rw [if_pos sends, sends, if_neg fresh, if_pos (List.mem_cons_self ..), Function.update_self,
          List.append_nil]
      · have inRest : m.sendingLeg q ∈ h :: rest ↔ m.sendingLeg q ∈ rest := by
          rw [List.mem_cons, or_iff_right sends]
        rw [if_neg sends, List.nil_append, if_congr inRest rfl rfl, Function.update_of_ne sends]

theorem Ready.sendingLeg_listed (ready : m.Ready ops) (listed : h ∈ m.sourceOrdered) :
    m.sendingLeg h ∈ m.sourceOrdered := by
  rw [sendingLeg]
  split
  · cases attachedTo : m.attached h with
    | none => exact listed
    | some p => exact (ready.sendable.pairs h listed p attachedTo).1
  · exact listed

theorem sameSources_of_readers {readers : StreamHandle → Int} (more : MoreReaders readers m m') :
    m.SameSources m' := by
  refine ⟨more.sourceOrdered, fun h => ?_⟩
  have kept : m'.stream h = m.stream h := by rw [stream, more.handler, stream]
  rw [kept]
  exact .refl _

theorem Consistent.nics (c : m.Consistent) : ∀ t ∈ m.sourceOrdered, m.nicId t = 0 ∨ m.nicId t = 1 := by
  intro t listed
  have below := sourceSlots_nic (c.source t listed).1
  simp only [maxNics] at below
  rw [c.nicId]
  obtain zero | one : slotNic t = 0 ∨ slotNic t = 1 := by omega
  · exact .inl (by rw [zero]; rfl)
  · exact .inr (by rw [one]; rfl)

theorem Reachable.ready (reached : m.Reachable) (can : m.Sendable ops) : m.Ready ops :=
  ⟨fun h listed => (reached.consistent.source h listed).2.2, reached.consistent.nics, can⟩

/-- One pass sends for every listed source the pieces of the leg that sends for it. -/
theorem sendOutgoingPackets_ready (reached : m.Reachable) (can : m.Sendable ops) (livesOut : RingMemory)
    (position : RingPosition ops ops.playbackBufferOffset ops.frameSize) :
    ∃ m' log, m.sendOutgoingPackets ops true livesOut = .ok (m', log) ∧
      ∃ seqNum : StreamHandle → UInt16, ∀ q ∈ m.sourceOrdered, sentBy log q =
        legPackets (some (m.stream q)) ops livesOut
          (outgoingPieces (m.stream (m.sendingLeg q)) ops (seqNum (m.sendingLeg q))) := by
  have ready := reached.ready can
  have same := sameSources_of_readers (enterAll m.sourceOrdered m)
  obtain ⟨m', log, sent, -, seqNum, packets⟩ := sendEach_ready (ready.same same) livesOut
    m.sourceOrdered reached.consistent.sourceOnce (fun h listed => by rwa [same.sourceOrdered]) position
  refine ⟨m.sourceOrdered.foldl (readerLeave · ops ·) m', log, ?_, seqNum, ?_⟩
  · rw [sendOutgoingPackets, sent]
    rfl
  · intro q listed
    have frame := packets q (by rw [same.sourceOrdered]; exact listed)
    rw [same.sendingLeg, if_pos (ready.sendingLeg_listed listed), same.legPackets,
      same.outgoingPieces] at frame
    exact frame

end RTPStreamsManager

end RavennaLkm
