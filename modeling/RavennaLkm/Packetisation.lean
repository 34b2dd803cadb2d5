import Mathlib.Algebra.Order.BigOperators.Group.List
import RavennaLkm.Lib.Tiling
import RavennaLkm.SendOutgoing

/-!
How a frame is cut into packets, over successive TICs. The packet loop is the
calls of `SendRTPAudioPacket` for the pieces of each frame, in order; the pieces
follow each other in time, in number and in the ring, and the first piece of a
frame follows the last one of the frame before.
-/
namespace RavennaLkm
open CheckedLoop Tiling

/-- What one TIC gives to the packet loop. -/
structure TIC where
  ops : RTPAudioStreamOps
  skb : Bool
  livesOut : RingMemory

structure Legs where
  stream : RTPAudioStream
  partner : Option RTPAudioStream
  sent : List (Option TransmittedPacket) := []
  partnerSent : List (Option TransmittedPacket) := []

def SendState.legs (st : SendState) : Legs := ⟨st.stream, st.partner, st.sent, st.partnerSent⟩

def Legs.send (t : TIC) (l : Legs) (p : Piece) : Except Fault Legs := do
  let (stream, packet) ← sendRTPAudioPacket l.stream t.ops t.skb t.livesOut p.sac p.offset p.n p.seqNum
  let stream := { stream with outgoingSeqNum := stream.outgoingSeqNum + 1 }
  match l.partner with
  | none => .ok { l with stream := stream, sent := l.sent ++ [packet] }
  | some partner => do
    let (partner, partnerPacket) ←
      sendRTPAudioPacket partner t.ops t.skb t.livesOut p.sac p.offset p.n p.seqNum
    .ok ⟨stream, some partner, l.sent ++ [packet], l.partnerSent ++ [partnerPacket]⟩

def sendPieces (t : TIC) (pieces : List Piece) (self : RTPAudioStream) (partner : Option RTPAudioStream) :
    Except Fault Legs :=
  pieces.foldlM (Legs.send t) ⟨self, partner, [], []⟩

def sendFrames {ι : Type} (frame : ι → RTPAudioStream → Option RTPAudioStream → Except Fault Legs) :
    List ι → RTPAudioStream → Option RTPAudioStream → Except Fault (List Legs)
  | [], _, _ => .ok []
  | t :: rest, self, partner => do
    let done ← frame t self partner
    let later ← sendFrames frame rest done.stream done.partner
    .ok (done :: later)

def sendTICs : List TIC → RTPAudioStream → Option RTPAudioStream → Except Fault (List Legs) :=
  sendFrames fun t self partner =>
    SendState.legs <$> sendRTPAudioPackets self partner t.ops t.skb t.livesOut

def ticPieces (self : RTPAudioStream) : List TIC → UInt16 → List (List Piece)
  | [], _ => []
  | t :: rest, seqNum =>
    let pieces := outgoingPieces self t.ops seqNum
    pieces :: ticPieces self rest (seqNum + UInt16.ofNat pieces.length)

theorem outgoingSeqNum_of_send {s t : RTPAudioStream} {ops : RTPAudioStreamOps} {skb : Bool}
    {livesOut : RingMemory} {sac : UInt64} {offset n : UInt32} {seqNum : UInt16}
    {out : Option TransmittedPacket}
    (sent : sendRTPAudioPacket s ops skb livesOut sac offset n seqNum = .ok (t, out)) :
    t.outgoingSeqNum = s.outgoingSeqNum := by
  rw [sendRTPAudioPacket_eq] at sent
  split at sent
  · cases sent
    rfl
  · obtain ⟨packet, -, built⟩ := bind_eq_ok.mp sent
    cases built
    rfl

theorem legs_sendRound (ops : RTPAudioStreamOps) (skb : Bool) (livesOut : RingMemory) (st : SendState) :
    SendState.legs <$> sendRound ops skb livesOut st =
      st.legs.send ⟨ops, skb, livesOut⟩
        (roundPiece st (min st.stream.rtpStreamInfo.maxSamplesPerPacket st.remaining)) := by
  unfold sendRound Legs.send sendPartnerPacket
  dsimp only [SendState.legs, roundPiece]
  generalize min st.stream.rtpStreamInfo.maxSamplesPerPacket st.remaining = n
  generalize sendRTPAudioPacket st.stream ops skb livesOut st.currentSAC st.offset n
    st.stream.outgoingSeqNum = own
  cases own with
  | error fault => rfl
  | ok outcome =>
    cases st.partner with
    | none => rfl
    | some partner =>
      dsimp only [ok_bind]
      generalize sendRTPAudioPacket partner ops skb livesOut st.currentSAC st.offset n
        st.stream.outgoingSeqNum = other
      cases other with
      | error fault => rfl
      | ok outcome' => rfl

theorem sendRound_next {ops : RTPAudioStreamOps} {skb : Bool} {livesOut : RingMemory} {st st' : SendState}
    (round : sendRound ops skb livesOut st = .ok st') :
    let n := min st.stream.rtpStreamInfo.maxSamplesPerPacket st.remaining
    st'.remaining = st.remaining - n ∧ st'.currentSAC = st.currentSAC + n.toUInt64 ∧
      st'.offset = nextOffset ops st.offset n ∧
      st'.stream.outgoingSeqNum = st.stream.outgoingSeqNum + 1 := by
  obtain ⟨⟨s', out⟩, sent, rest⟩ := bind_eq_ok.mp round
  obtain ⟨st1, partnerSent, last⟩ := bind_eq_ok.mp rest
  cases last
  have number := outgoingSeqNum_of_send sent
  unfold sendPartnerPacket at partnerSent
  cases isPartner : st.partner with
  | none =>
    simp only [isPartner] at partnerSent
    cases partnerSent
    exact ⟨rfl, rfl, rfl, by rw [← number]⟩
  | some partner =>
    simp only [isPartner] at partnerSent
    obtain ⟨⟨p', out'⟩, -, last⟩ := bind_eq_ok.mp partnerSent
    cases last
    exact ⟨rfl, rfl, rfl, by rw [← number]⟩

theorem legs_sendLoop {ops : RTPAudioStreamOps} (skb : Bool) (livesOut : RingMemory) (fuel : Nat)
    (st : SendState) (enough : st.remaining.toNat ≤ fuel)
    (someSamples : st.stream.rtpStreamInfo.maxSamplesPerPacket ≠ 0) :
    SendState.legs <$> sendLoop ops skb livesOut fuel st =
      (framePieces ops st.stream.rtpStreamInfo.maxSamplesPerPacket fuel st.remaining st.currentSAC st.offset
        st.stream.outgoingSeqNum).foldlM (Legs.send ⟨ops, skb, livesOut⟩) st.legs := by
  induction fuel generalizing st with
  | zero =>
    have empty : st.remaining = 0 := UInt32.toNat_inj.mp (by simpa using enough)
    rw [sendLoop, if_pos empty]
    rfl
  | succ fuel ih =>
    by_cases empty : st.remaining = 0
    · rw [sendLoop, if_pos empty, empty, framePieces_empty]
      rfl
    · have round := legs_sendRound ops skb livesOut st
      obtain ⟨positive, -, -, left, -⟩ := roundSamples someSamples empty
      rw [sendLoop, if_neg empty, framePieces, if_neg empty, List.foldlM_cons]
      change _ = st.legs.send ⟨ops, skb, livesOut⟩ (roundPiece st _) >>= _
      rw [← round]
      cases isRound : sendRound ops skb livesOut st with
      | error fault => rfl
      | ok st' =>
        obtain ⟨remaining, sac, offset, number⟩ := sendRound_next isRound
        have same := (sendRound_same isRound).1.info
        rw [← remaining] at left
        rw [← remaining, ← sac, ← offset, ← number, ← same]
        exact ih st' (by omega) (by rwa [same])

theorem legs_sendRTPAudioPackets {self : RTPAudioStream} {partner : Option RTPAudioStream}
    (speaks : ¬ (self.ethNetfilter.nicId = 1 ∧ partner.isSome = true))
    (someSamples : self.rtpStreamInfo.maxSamplesPerPacket ≠ 0) (t : TIC) :
    SendState.legs <$> sendRTPAudioPackets self partner t.ops t.skb t.livesOut =
      sendPieces t (outgoingPieces self t.ops self.outgoingSeqNum) self partner := by
  unfold sendRTPAudioPackets
  rw [if_neg speaks]
  exact legs_sendLoop t.skb t.livesOut _ (sendStart self partner t.ops) (Nat.le_refl _) someSamples

section

variable {ops : RTPAudioStreamOps} {maxSamples : UInt32} {remaining : Nat} {sac : UInt64} {offset : UInt32}
  {seqNum : UInt16} {pieces : List Piece}

theorem Rounds.total (rounds : Rounds ops maxSamples remaining sac offset seqNum pieces) :
    (pieces.map (·.n.toNat)).sum = remaining := by
  induction rounds with
  | done => rfl
  | round _ _ _ ih => rw [List.map_cons, List.sum_cons, ih]

theorem Rounds.sizes (rounds : Rounds ops maxSamples remaining sac offset seqNum pieces) :
    ∀ p ∈ pieces, 0 < p.n.toNat ∧ p.n.toNat ≤ maxSamples.toNat := by
  induction rounds with
  | done =>
    intro p isPiece
    cases isPiece
  | round positive atMost _ ih =>
    intro p isPiece
    rcases List.mem_cons.mp isPiece with rfl | later
    · exact ⟨positive, atMost⟩
    · exact ih p later

/-- The pieces follow each other in time and in number, up to the end of the frame. -/
theorem Rounds.leads (rounds : Rounds ops maxSamples remaining sac offset seqNum pieces) :
    Leads (fun p => (p.sac, p.seqNum)) (fun p => (p.sac + p.n.toUInt64, p.seqNum + 1)) (sac, seqNum) pieces
      (sac + UInt64.ofNat remaining, seqNum + UInt16.ofNat pieces.length) := by
  induction rounds with
  | done => simp [Leads]
  | @round left sac offset seqNum rest n positive atMost later ih =>
    refine ⟨rfl, ?_⟩
    have time : sac + UInt64.ofNat (n.toNat + left) = sac + n.toUInt64 + UInt64.ofNat left := by
      rw [UInt64.ofNat_add, ← UInt64.add_assoc, UInt64.ofNat_uInt32ToNat]
    have number : seqNum + UInt16.ofNat (rest.length + 1) = seqNum + 1 + UInt16.ofNat rest.length := by
      rw [UInt16.ofNat_add, UInt16.add_assoc, UInt16.add_comm 1]
      rfl
    rw [List.length_cons, time, number]
    exact ih

theorem Rounds.inRing (rounds : Rounds ops maxSamples remaining sac offset seqNum pieces)
    (inside : offset < ops.liveOutJitterBufferLength)
    (once : remaining ≤ ops.liveOutJitterBufferLength.toNat)
    (noWrap : ops.liveOutJitterBufferLength.toNat + remaining ≤ 2 ^ 32) :
    (∀ p ∈ pieces, p.offset < ops.liveOutJitterBufferLength) ∧
      Leads (fun p => p.offset.toNat)
        (fun p => (p.offset.toNat + p.n.toNat) % ops.liveOutJitterBufferLength.toNat) offset.toNat pieces
        ((offset.toNat + remaining) % ops.liveOutJitterBufferLength.toNat) := by
  have below := UInt32.lt_iff_toNat_lt.mp inside
  induction rounds with
  | done =>
    constructor
    · intro p isPiece
      cases isPiece
    · exact (Nat.mod_eq_of_lt below).symm
  | @round left sac offset seqNum rest n positive atMost later ih =>
    have next := nextOffset_toNat (n := n) inside (by omega) (by omega)
    have nextBelow : (nextOffset ops offset n).toNat < ops.liveOutJitterBufferLength.toNat := by
      rw [next]
      exact Nat.mod_lt _ (by omega)
    obtain ⟨restInside, restLeads⟩ :=
      ih (UInt32.lt_iff_toNat_lt.mpr nextBelow) (by omega) (by omega) nextBelow
    rw [next, Nat.mod_add_mod, Nat.add_assoc] at restLeads
    constructor
    · intro p isPiece
      rcases List.mem_cons.mp isPiece with rfl | isLater
      · exact inside
      · exact restInside p isLater
    · exact ⟨rfl, restLeads⟩

end

/-- The ring holds a frame, and a position in the ring plus a frame is a 32-bit number. -/
structure RingHolds (ops : RTPAudioStreamOps) : Prop where
  inside : getLiveOutJitterBufferOffset ops (ops.globalSAC - ops.frameSize.toUInt64) <
    ops.liveOutJitterBufferLength
  once : ops.frameSize.toNat ≤ ops.liveOutJitterBufferLength.toNat
  noWrap : ops.liveOutJitterBufferLength.toNat + ops.frameSize.toNat ≤ 2 ^ 32

def Piece.timestamp (p : Piece) (s : RTPAudioStream) : UInt32 :=
  (p.sac + s.rtpStreamInfo.rtpTimestampOffset.toUInt64).toUInt32

def Continues (s : RTPAudioStream) (p q : Piece) : Prop :=
  q.timestamp s = p.timestamp s + p.n ∧ q.seqNum = p.seqNum + 1

structure Packetised (s : RTPAudioStream) (ops : RTPAudioStreamOps) (pieces : List Piece) : Prop where
  total : (pieces.map (·.n.toNat)).sum = ops.frameSize.toNat
  sizes : ∀ p ∈ pieces, 0 < p.n.toNat ∧ p.n.toNat ≤ s.rtpStreamInfo.maxSamplesPerPacket.toNat
  first : ∀ p ∈ pieces.head?, p.sac = ops.globalSAC - ops.frameSize.toUInt64 ∧
    p.offset = getLiveOutJitterBufferOffset ops (ops.globalSAC - ops.frameSize.toUInt64)
  continues : pieces.IsChain (Continues s)
  inside : ∀ p ∈ pieces, p.offset < ops.liveOutJitterBufferLength
  contiguous : pieces.IsChain fun p q =>
    q.offset.toNat = (p.offset.toNat + p.n.toNat) % ops.liveOutJitterBufferLength.toNat

theorem Leads.continues {start finish : UInt64 × UInt16} {pieces : List Piece} (s : RTPAudioStream)
    (leads : Leads (fun p : Piece => (p.sac, p.seqNum)) (fun p => (p.sac + p.n.toUInt64, p.seqNum + 1)) start
      pieces finish) : pieces.IsChain (Continues s) := by
  apply leads.isChain.imp
  intro p q follows
  obtain ⟨time, number⟩ := Prod.mk.inj follows
  refine ⟨?_, number⟩
  rw [Piece.timestamp, time, nextTimestamp, UInt32.ofNat_toNat]
  rfl

theorem outgoingPieces_packetised {self : RTPAudioStream} {ops : RTPAudioStreamOps} (seqNum : UInt16)
    (someSamples : self.rtpStreamInfo.maxSamplesPerPacket ≠ 0) (holds : RingHolds ops) :
    Packetised self ops (outgoingPieces self ops seqNum) := by
  have rounds := outgoingPieces_rounds ops seqNum someSamples
  obtain ⟨inside, aroundRing⟩ := rounds.inRing holds.inside holds.once holds.noWrap
  constructor
  · exact rounds.total
  · exact rounds.sizes
  · intro p isHead
    exact ⟨congrArg Prod.fst (rounds.leads.head p isHead), UInt32.toNat_inj.mp (aroundRing.head p isHead)⟩
  · exact Leads.continues self rounds.leads
  · exact inside
  · exact aroundRing.isChain

/-- The frame of a TIC leads from its first sample and number to those of the next frame. -/
theorem outgoingPieces_leads {self : RTPAudioStream} (ops : RTPAudioStreamOps) (seqNum : UInt16)
    (someSamples : self.rtpStreamInfo.maxSamplesPerPacket ≠ 0) :
    Leads (fun p : Piece => (p.sac, p.seqNum)) (fun p => (p.sac + p.n.toUInt64, p.seqNum + 1))
      (ops.globalSAC - ops.frameSize.toUInt64, seqNum) (outgoingPieces self ops seqNum)
      (ops.globalSAC, seqNum + UInt16.ofNat (outgoingPieces self ops seqNum).length) := by
  have leads := (outgoingPieces_rounds ops seqNum someSamples).leads
  rw [UInt64.ofNat_uInt32ToNat, UInt64.sub_add_cancel] at leads
  exact leads

/-- Successive TICs are one frame apart. -/
def OneFrameApart (t t' : TIC) : Prop := t'.ops.globalSAC = t.ops.globalSAC + t'.ops.frameSize.toUInt64

theorem ticPieces_leads {self : RTPAudioStream} (t : TIC) (rest : List TIC) (seqNum : UInt16)
    (someSamples : self.rtpStreamInfo.maxSamplesPerPacket ≠ 0) (steady : (t :: rest).IsChain OneFrameApart) :
    ∃ finish, Leads (fun p : Piece => (p.sac, p.seqNum)) (fun p => (p.sac + p.n.toUInt64, p.seqNum + 1))
      (t.ops.globalSAC - t.ops.frameSize.toUInt64, seqNum) (ticPieces self (t :: rest) seqNum).flatten
      finish := by
  have first := outgoingPieces_leads t.ops seqNum someSamples
  induction rest generalizing t seqNum with
  | nil =>
    rw [ticPieces, ticPieces, List.flatten_cons, List.flatten_nil, List.append_nil]
    exact ⟨_, first⟩
  | cons t' later ih =>
    obtain ⟨apart, steady⟩ := List.isChain_cons_cons.mp steady
    have second := outgoingPieces_leads t'.ops (seqNum + UInt16.ofNat (outgoingPieces self t.ops seqNum).length)
      someSamples
    obtain ⟨finish, leads⟩ := ih t' _ steady second
    rw [apart, UInt64.add_sub_cancel] at leads
    rw [ticPieces, List.flatten_cons]
    exact ⟨finish, first.append leads⟩

theorem Legs.send_stream {t : TIC} {l l' : Legs} {p : Piece} (sent : l.send t p = .ok l') :
    l'.stream.outgoingSeqNum = l.stream.outgoingSeqNum + 1 ∧ l'.sent.length = l.sent.length + 1 := by
  obtain ⟨⟨s', out⟩, own, rest⟩ := bind_eq_ok.mp sent
  have number := outgoingSeqNum_of_send own
  cases isPartner : l.partner with
  | none =>
    simp only [isPartner] at rest
    cases rest
    exact ⟨congrArg (· + 1) number, by simp⟩
  | some partner =>
    simp only [isPartner] at rest
    obtain ⟨⟨p', out'⟩, -, last⟩ := bind_eq_ok.mp rest
    cases last
    exact ⟨congrArg (· + 1) number, by simp⟩

theorem outgoingSeqNum_of_pieces {t : TIC} {pieces : List Piece} {l done : Legs}
    (sent : pieces.foldlM (Legs.send t) l = .ok done) :
    done.stream.outgoingSeqNum = l.stream.outgoingSeqNum + UInt16.ofNat pieces.length := by
  induction pieces generalizing l with
  | nil =>
    cases sent
    simp
  | cons p rest ih =>
    rw [List.foldlM_cons] at sent
    obtain ⟨l', first, later⟩ := bind_eq_ok.mp sent
    rw [ih later, (Legs.send_stream first).1, List.length_cons, UInt16.ofNat_add, UInt16.add_assoc,
      UInt16.add_comm 1]
    rfl

theorem SameSource.outgoingPieces {s s' : RTPAudioStream} (same : SameSource s s') (ops : RTPAudioStreamOps)
    (seqNum : UInt16) : outgoingPieces s' ops seqNum = outgoingPieces s ops seqNum := by
  unfold RavennaLkm.outgoingPieces
  rw [same.info]

theorem SameSource.ticPieces {s s' : RTPAudioStream} (same : SameSource s s') (tics : List TIC)
    (seqNum : UInt16) : ticPieces s' tics seqNum = ticPieces s tics seqNum := by
  induction tics generalizing seqNum with
  | nil => rfl
  | cons t rest ih => simp only [RavennaLkm.ticPieces, same.outgoingPieces, ih]

theorem SamePartner.isSome {leg leg' : Option RTPAudioStream} (same : SamePartner leg leg') :
    leg'.isSome = leg.isSome := by
  cases leg <;> cases leg' <;> first | rfl | exact same.elim

theorem next_of_frame {self : RTPAudioStream} {partner : Option RTPAudioStream} {t : TIC} {done : Legs}
    (speaks : ¬ (self.ethNetfilter.nicId = 1 ∧ partner.isSome = true))
    (someSamples : self.rtpStreamInfo.maxSamplesPerPacket ≠ 0)
    (sent : SendState.legs <$> sendRTPAudioPackets self partner t.ops t.skb t.livesOut = .ok done) :
    SameSource self done.stream ∧ SamePartner partner done.partner ∧
      done.stream.outgoingSeqNum =
        self.outgoingSeqNum + UInt16.ofNat (outgoingPieces self t.ops self.outgoingSeqNum).length := by
  have calls := sent
  rw [legs_sendRTPAudioPackets speaks someSamples] at calls
  obtain ⟨st, run, rfl⟩ := map_eq_ok.mp sent
  obtain ⟨same, samePartner⟩ := sendRTPAudioPackets_same run
  exact ⟨same, samePartner, outgoingSeqNum_of_pieces calls⟩

theorem sendTICs_eq_calls (tics : List TIC) {self : RTPAudioStream} {partner : Option RTPAudioStream}
    (speaks : ¬ (self.ethNetfilter.nicId = 1 ∧ partner.isSome = true))
    (someSamples : self.rtpStreamInfo.maxSamplesPerPacket ≠ 0) :
    sendTICs tics self partner =
      sendFrames (fun frame => sendPieces frame.1 frame.2)
        (tics.zip (ticPieces self tics self.outgoingSeqNum)) self partner := by
  induction tics generalizing self partner with
  | nil => rfl
  | cons t rest ih =>
    have frame := legs_sendRTPAudioPackets (t := t) speaks someSamples
    rw [sendTICs, sendFrames, ticPieces, List.zip_cons_cons, sendFrames, ← frame]
    cases sent : SendState.legs <$> sendRTPAudioPackets self partner t.ops t.skb t.livesOut with
    | error fault => rfl
    | ok done =>
      obtain ⟨same, samePartner, number⟩ := next_of_frame speaks someSamples sent
      have later := @ih done.stream done.partner (by rwa [same.nic, samePartner.isSome]) (by rwa [same.info])
      rw [same.ticPieces, number] at later
      rw [ok_bind, ok_bind, ← later]
      rfl

def CarriesPiece (s : RTPAudioStream) (p : Piece) (out : Option TransmittedPacket) : Prop :=
  ∀ packet ∈ out, mtalSwap32 packet.header.rtpHeader.timestamp = p.timestamp s ∧
    mtalSwap16 packet.header.rtpHeader.seqNum = p.seqNum

theorem carries_of_send {s s' : RTPAudioStream} {ops : RTPAudioStreamOps} {skb : Bool}
    {livesOut : RingMemory} {p : Piece} {out : Option TransmittedPacket}
    (sent : sendRTPAudioPacket s ops skb livesOut p.sac p.offset p.n p.seqNum = .ok (s', out)) :
    CarriesPiece s p out := by
  intro packet isPacket
  rw [sendRTPAudioPacket_eq] at sent
  split at sent
  · cases sent
    cases isPacket
  · obtain ⟨bytes, -, built⟩ := bind_eq_ok.mp sent
    cases built
    cases isPacket
    have read : TransmittedPacket.header ⟨s.ethNetfilter.nicId, packetSize s p.n,
        writeBytes bytes 0 (packetHeader s (packetSize s p.n) (p.timestamp s) p.seqNum).bytes⟩ =
        packetHeader s (packetSize s p.n) (p.timestamp s) p.seqNum := by
      rw [← List.append_nil (packetHeader ..).bytes]
      exact header_of_writeBytes ..
    have fields := congrArg RTPPacketBase.rtpHeader read
    rw [← Piece.timestamp, fields]
    exact ⟨mtalSwap32_swap32 _, mtalSwap16_swap16 _⟩

theorem CarriesPiece.same {s s' : RTPAudioStream} {p : Piece} {out : Option TransmittedPacket}
    (carries : CarriesPiece s' p out) (same : SameSource s s') : CarriesPiece s p out := by
  unfold CarriesPiece Piece.timestamp at *
  rwa [same.info] at carries

def LegCarries (leg : Option RTPAudioStream) (pieces : List Piece) (out : List (Option TransmittedPacket)) :
    Prop :=
  ∀ s ∈ leg, List.Forall₂ (CarriesPiece s) pieces out

section

variable {t : TIC} {R : RTPAudioStream → Piece → Option TransmittedPacket → Prop}
  (ofSend : ∀ ⦃s s' p out⦄, sendRTPAudioPacket s t.ops t.skb t.livesOut p.sac p.offset p.n p.seqNum = .ok (s', out) →
    R s p out)
  (ofSame : ∀ ⦃s s' p out⦄, R s' p out → SameSource s s' → R s p out)

def LegSends (R : RTPAudioStream → Piece → Option TransmittedPacket → Prop) (leg : Option RTPAudioStream)
    (pieces : List Piece) (out : List (Option TransmittedPacket)) : Prop :=
  ∀ s ∈ leg, List.Forall₂ (R s) pieces out

include ofSame in
theorem LegSends.cons {leg leg' : Option RTPAudioStream} (same : SamePartner leg leg') {p : Piece}
    {rest : List Piece} {out : Option TransmittedPacket} {later : List (Option TransmittedPacket)}
    (first : ∀ s ∈ leg, R s p out) (then_ : LegSends R leg' rest later) :
    LegSends R leg (p :: rest) (out :: later) := by
  intro s isLeg
  cases isLeg
  cases leg' with
  | none => exact same.elim
  | some s' =>
    refine .cons (first s rfl) ((then_ s' rfl).imp ?_)
    intro q out sends
    exact ofSame sends same

include ofSend in
theorem Legs.send_each {l l' : Legs} {p : Piece} (sent : l.send t p = .ok l') :
    SameSource l.stream l'.stream ∧ SamePartner l.partner l'.partner ∧
      (∃ out, l'.sent = l.sent ++ [out] ∧ R l.stream p out) ∧
      ((l.partner = none ∧ l'.partnerSent = l.partnerSent) ∨
        ∃ out, l'.partnerSent = l.partnerSent ++ [out] ∧ ∀ s ∈ l.partner, R s p out) := by
  obtain ⟨⟨s', out⟩, own, rest⟩ := bind_eq_ok.mp sent
  have same := (SameSource.of_send own).trans
    (⟨rfl, rfl, rfl, rfl, rfl, rfl, rfl, rfl, rfl⟩ :
      SameSource s' { s' with outgoingSeqNum := s'.outgoingSeqNum + 1 })
  cases isPartner : l.partner with
  | none =>
    simp only [isPartner] at rest
    cases rest
    exact ⟨same, trivial, ⟨out, rfl, ofSend own⟩, .inl ⟨rfl, rfl⟩⟩
  | some partner =>
    simp only [isPartner] at rest
    obtain ⟨⟨p', out'⟩, other, last⟩ := bind_eq_ok.mp rest
    cases last
    refine ⟨same, SameSource.of_send other, ⟨out, rfl, ofSend own⟩, .inr ⟨out', rfl, ?_⟩⟩
    intro s isThis
    cases isThis
    exact ofSend other

include ofSend ofSame in
theorem pieces_each {pieces : List Piece} {l done : Legs} (sent : pieces.foldlM (Legs.send t) l = .ok done) :
    ∃ own other, done.sent = l.sent ++ own ∧ done.partnerSent = l.partnerSent ++ other ∧
      LegSends R (some l.stream) pieces own ∧ LegSends R l.partner pieces other := by
  induction pieces generalizing l with
  | nil =>
    cases sent
    exact ⟨[], [], by simp, by simp, fun s _ => .nil, fun s _ => .nil⟩
  | cons p rest ih =>
    rw [List.foldlM_cons] at sent
    obtain ⟨l', first, later⟩ := bind_eq_ok.mp sent
    obtain ⟨same, samePartner, ⟨out, isSent, sends⟩, partnerSent⟩ := Legs.send_each ofSend first
    obtain ⟨own, other, isOwn, isOther, ownLater, otherLater⟩ := ih later
    have ownAll : LegSends R (some l.stream) (p :: rest) (out :: own) := by
      apply LegSends.cons ofSame (show SamePartner (some l.stream) (some l'.stream) from same) _ ownLater
      intro s isThis
      cases isThis
      exact sends
    rw [isSent, List.append_assoc] at isOwn
    rcases partnerSent with ⟨noPartner, kept⟩ | ⟨out', added, partnerSends⟩
    · refine ⟨out :: own, other, isOwn, by rw [isOther, kept], ownAll, ?_⟩
      intro s isThis
      rw [noPartner] at isThis
      cases isThis
    · rw [added, List.append_assoc] at isOther
      exact ⟨out :: own, out' :: other, isOwn, isOther, ownAll,
        LegSends.cons ofSame samePartner partnerSends otherLater⟩

end

theorem LegCarries.same {leg leg' : Option RTPAudioStream} {pieces : List Piece}
    {out : List (Option TransmittedPacket)} (carry : LegCarries leg' pieces out)
    (same : SamePartner leg leg') : LegCarries leg pieces out := by
  intro s isLeg
  cases isLeg
  cases leg' with
  | none => exact same.elim
  | some s' => exact (carry s' rfl).imp fun _ _ carries => carries.same same

theorem sendTICs_carry (tics : List TIC) {self : RTPAudioStream} {partner : Option RTPAudioStream}
    (speaks : ¬ (self.ethNetfilter.nicId = 1 ∧ partner.isSome = true))
    (someSamples : self.rtpStreamInfo.maxSamplesPerPacket ≠ 0) {run : List Legs}
    (done : sendTICs tics self partner = .ok run) :
    List.Forall₂ (fun pieces l => LegCarries (some self) pieces l.sent ∧ LegCarries partner pieces l.partnerSent)
      (ticPieces self tics self.outgoingSeqNum) run := by
  induction tics generalizing self partner run with
  | nil =>
    cases done
    exact .nil
  | cons t rest ih =>
    obtain ⟨l, sent, done⟩ := bind_eq_ok.mp done
    obtain ⟨later, restRun, built⟩ := bind_eq_ok.mp done
    cases built
    obtain ⟨same, samePartner, number⟩ := next_of_frame speaks someSamples sent
    have calls := sent
    dsimp only at calls
    rw [legs_sendRTPAudioPackets speaks someSamples] at calls
    obtain ⟨own, other, isOwn, isOther, ownCarry, otherCarry⟩ :=
      pieces_each (fun _ _ _ _ => carries_of_send) (fun _ _ _ _ => CarriesPiece.same) calls
    rw [List.nil_append] at isOwn isOther
    have restCarry := ih (by rwa [same.nic, samePartner.isSome]) (by rwa [same.info]) restRun
    rw [same.ticPieces, number] at restCarry
    refine .cons ⟨by rwa [isOwn], by rwa [isOther]⟩ (restCarry.imp ?_)
    rintro pieces l' ⟨ownRest, otherRest⟩
    exact ⟨ownRest.same (show SamePartner (some self) (some l.stream) from same), otherRest.same samePartner⟩

theorem Legs.send_ends (t : TIC) (l : Legs) (p : Piece) : Avoids .endlessLoop (l.send t p) := by
  apply avoids_bind (sendRTPAudioPacket_avoids (by decide) (by decide) _ _ _ _ _)
  intro own _
  dsimp only
  split
  · exact avoids_ok _ _
  · apply avoids_bind (sendRTPAudioPacket_avoids (by decide) (by decide) _ _ _ _ _)
    intro other _
    exact avoids_ok _ _

theorem sendFrames_ends (frames : List (TIC × List Piece)) (self : RTPAudioStream)
    (partner : Option RTPAudioStream) :
    Avoids .endlessLoop (sendFrames (fun frame => sendPieces frame.1 frame.2) frames self partner) := by
  induction frames generalizing self partner with
  | nil => exact avoids_ok _ _
  | cons frame rest ih =>
    apply avoids_bind (avoids_foldlM (Legs.send_ends frame.1) frame.2 _)
    intro done _
    apply avoids_bind (ih done.stream done.partner)
    intro later _
    exact avoids_ok _ _

theorem ReadyLeg.sends {s : RTPAudioStream} {p : Piece} (ready : ReadyLeg p.n s) (t : TIC)
    (position : RingPosition t.ops p.offset p.n) :
    Succeeds (sendRTPAudioPacket s t.ops t.skb t.livesOut p.sac p.offset p.n p.seqNum) := by
  cases skb : t.skb with
  | true => exact ⟨_, ready.accepted.send_piece t.livesOut p position ready.fits⟩
  | false =>
    rw [sendRTPAudioPacket_eq, if_pos (by rfl)]
    exact succeeds_ok _

theorem Legs.send_ready {largest : UInt32} {l : Legs} {p : Piece} (t : TIC)
    (position : RingPosition t.ops p.offset p.n) (atMost : p.n.toNat ≤ largest.toNat)
    (ready : ReadyLeg largest l.stream) (partnerReady : ∀ s, l.partner = some s → ReadyLeg largest s) :
    ∃ l', l.send t p = .ok l' ∧ ReadyLeg largest l'.stream ∧ ∀ s, l'.partner = some s → ReadyLeg largest s := by
  have succeeds : Succeeds (l.send t p) := by
    apply Succeeds.bind ((ready.mono atMost).sends t position)
    intro own _
    dsimp only
    split
    · exact succeeds_ok _
    · rename_i partner isPartner
      apply Succeeds.bind (((partnerReady partner isPartner).mono atMost).sends t position)
      intro other _
      exact succeeds_ok _
  obtain ⟨l', sent⟩ := succeeds
  obtain ⟨same, samePartner, -, -⟩ := Legs.send_each (fun _ _ _ _ => carries_of_send) sent
  exact ⟨l', sent, ready.same same, samePartner.ready partnerReady⟩

def FrameReady (self : RTPAudioStream) (partner : Option RTPAudioStream) (t : TIC) : Prop :=
  ReadyLeg (min self.rtpStreamInfo.maxSamplesPerPacket t.ops.frameSize) self ∧
    ∀ s, partner = some s → ReadyLeg (min self.rtpStreamInfo.maxSamplesPerPacket t.ops.frameSize) s

theorem sendPieces_ready {self : RTPAudioStream} {partner : Option RTPAudioStream} {t : TIC}
    {pieces : List Piece} (packetised : Packetised self t.ops pieces) (ready : FrameReady self partner t) :
    Succeeds (sendPieces t pieces self partner) := by
  let held (l : Legs) : Prop :=
    ReadyLeg (min self.rtpStreamInfo.maxSamplesPerPacket t.ops.frameSize) l.stream ∧
      ∀ s, l.partner = some s → ReadyLeg (min self.rtpStreamInfo.maxSamplesPerPacket t.ops.frameSize) s
  have call : ∀ p ∈ pieces, ∀ l, held l → ∃ l', l.send t p = .ok l' ∧ held l' := by
    intro p isPiece l isReady
    have size := (packetised.sizes p isPiece).2
    have inFrame : p.n.toNat ≤ t.ops.frameSize.toNat := by
      rw [← packetised.total]
      exact List.le_sum_of_mem (List.mem_map_of_mem isPiece)
    exact Legs.send_ready t (.inl (packetised.inside p isPiece)) (by rw [toNat_min]; omega) isReady.1 isReady.2
  have start : held ⟨self, partner, [], []⟩ := ready
  obtain ⟨done, sent, -⟩ := foldlM_invariant held start call
  exact ⟨done, sent⟩

theorem FrameReady.same {self self' : RTPAudioStream} {partner partner' : Option RTPAudioStream} {t : TIC}
    (ready : FrameReady self partner t) (same : SameSource self self') (samePartner : SamePartner partner partner') :
    FrameReady self' partner' t := by
  unfold FrameReady
  rw [same.info]
  exact ⟨ready.1.same same, samePartner.ready ready.2⟩

theorem sendTICs_ready (tics : List TIC) {self : RTPAudioStream} {partner : Option RTPAudioStream}
    (speaks : ¬ (self.ethNetfilter.nicId = 1 ∧ partner.isSome = true))
    (someSamples : self.rtpStreamInfo.maxSamplesPerPacket ≠ 0) (holds : ∀ t ∈ tics, RingHolds t.ops)
    (ready : ∀ t ∈ tics, FrameReady self partner t) : Succeeds (sendTICs tics self partner) := by
  induction tics generalizing self partner with
  | nil => exact succeeds_ok _
  | cons t rest ih =>
    have packetised := outgoingPieces_packetised self.outgoingSeqNum someSamples
      (holds t (List.mem_cons_self ..))
    have sent := sendPieces_ready packetised (ready t (List.mem_cons_self ..))
    rw [← legs_sendRTPAudioPackets speaks someSamples] at sent
    apply Succeeds.bind sent
    intro done isDone
    obtain ⟨same, samePartner, -⟩ := next_of_frame speaks someSamples isDone
    have later := @ih done.stream done.partner (by rwa [same.nic, samePartner.isSome]) (by rwa [same.info])
      (fun t' later => holds t' (List.mem_cons_of_mem _ later))
      fun t' later => (ready t' (List.mem_cons_of_mem _ later)).same same samePartner
    apply Succeeds.bind later
    intro frames _
    exact succeeds_ok _

/-- A run over some TICs is the calls of `SendRTPAudioPacket` for `frames`, ends, and sends them
if both legs fit. -/
structure SendsFrames (self : RTPAudioStream) (partner : Option RTPAudioStream) (tics : List TIC)
    (frames : List (List Piece)) : Prop where
  calls : sendTICs tics self partner =
    sendFrames (fun frame => sendPieces frame.1 frame.2) (tics.zip frames) self partner
  ends : Avoids .endlessLoop (sendTICs tics self partner)
  succeeds : (∀ t ∈ tics, FrameReady self partner t) → Succeeds (sendTICs tics self partner)
  carries : ∀ run, sendTICs tics self partner = .ok run → List.Forall₂ (fun pieces l =>
    LegCarries (some self) pieces l.sent ∧ LegCarries partner pieces l.partnerSent) frames run

/-- Each frame of the run is cut into packets, and the packets of a frame continue those of the frame
before. -/
def TICsPacketised (self : RTPAudioStream) (partner : Option RTPAudioStream) (tics : List TIC) : Prop :=
  let frames := ticPieces self tics self.outgoingSeqNum
  SendsFrames self partner tics frames ∧
    List.Forall₂ (fun t pieces => Packetised self t.ops pieces) tics frames ∧
    frames.flatten.IsChain (Continues self) ∧
    ∀ p ∈ frames.flatten.head?, p.seqNum = self.outgoingSeqNum

/-- Whatever the frame size, the packet size, the ring and the position in it, as long as the leg does
not leave its frames to the one on NIC 0. -/
theorem tics_packetised (tics : List TIC) {self : RTPAudioStream} {partner : Option RTPAudioStream}
    (speaks : ¬ (self.ethNetfilter.nicId = 1 ∧ partner.isSome = true))
    (someSamples : self.rtpStreamInfo.maxSamplesPerPacket ≠ 0) (holds : ∀ t ∈ tics, RingHolds t.ops)
    (steady : tics.IsChain OneFrameApart) : TICsPacketised self partner tics := by
  have calls := sendTICs_eq_calls tics speaks someSamples
  refine ⟨⟨calls, ?_, ?_, ?_⟩, ?_, ?_⟩
  · rw [calls]
    exact sendFrames_ends _ _ _
  · exact sendTICs_ready tics speaks someSamples holds
  · intro run
    exact sendTICs_carry tics speaks someSamples
  · generalize self.outgoingSeqNum = seqNum
    clear calls steady
    induction tics generalizing seqNum with
    | nil => exact .nil
    | cons t rest ih =>
      exact .cons (outgoingPieces_packetised seqNum someSamples (holds t (List.mem_cons_self ..)))
        (ih (fun t' later => holds t' (List.mem_cons_of_mem _ later)) _)
  · cases tics with
    | nil =>
      constructor
      · exact .nil
      · intro p isHead
        cases isHead
    | cons t rest =>
      obtain ⟨finish, leads⟩ := ticPieces_leads t rest self.outgoingSeqNum someSamples steady
      constructor
      · exact Leads.continues self leads
      · intro p isHead
        exact congrArg Prod.snd (leads.head p isHead)

def ticAt (sac : UInt64) (skb : Bool) : TIC :=
  ⟨{ liveOutOps with globalSAC := sac, playbackBufferOffset := 24550 }, skb, fun _ => {}⟩

theorem tics_packetised_stereo :
    TICsPacketised (announcedStream .l24 3 2 20) none [ticAt 4800 true, ticAt 4848 false, ticAt 4896 true] := by
  apply tics_packetised _ (by decide) (by decide)
  · intro t isTIC
    simp only [List.mem_cons, List.not_mem_nil, or_false] at isTIC
    rcases isTIC with rfl | rfl | rfl
    · exact ⟨by decide, by decide, by decide⟩
    · exact ⟨by decide, by decide, by decide⟩
    · exact ⟨by decide, by decide, by decide⟩
  · exact .cons_cons (show _ = _ by decide) (.cons_cons (show _ = _ by decide) (.singleton _))

def hugeRingOps : RTPAudioStreamOps :=
  { liveOutOps with
    frameSize := 3, playbackBufferOffset := 0xFFFFFFFE, liveOutJitterBufferLength := 0xFFFFFFFF }

def secondLeg : RTPAudioStream :=
  (create {} (announcedSource .l24 3 2 48) liveOutOps { nicId := 1 } (fun _ => {})).1

/-- The 32-bit ring position wraps before it is reduced; and the leg on NIC 1 of a pair sends nothing. -/
theorem not_packetised :
    (((announcedStream .l24 3 2 2).rtpStreamInfo.maxSamplesPerPacket ≠ 0 ∧
        getLiveOutJitterBufferOffset hugeRingOps (hugeRingOps.globalSAC - hugeRingOps.frameSize.toUInt64) <
          hugeRingOps.liveOutJitterBufferLength ∧
        hugeRingOps.frameSize ≤ hugeRingOps.liveOutJitterBufferLength) ∧
      ¬ TICsPacketised (announcedStream .l24 3 2 2) none [⟨hugeRingOps, true, fun _ => {}⟩]) ∧
      (secondLeg.rtpStreamInfo.maxSamplesPerPacket ≠ 0 ∧ RingHolds (ticAt 4800 true).ops) ∧
      ¬ TICsPacketised secondLeg (some (announcedStream .l24 3 2 48)) [ticAt 4800 true] := by
  refine ⟨⟨⟨by decide, by decide, by decide⟩, ?_⟩, ⟨by decide, by decide, by decide, by decide⟩, ?_⟩
  · rintro ⟨-, frames, -⟩
    cases frames with
    | cons packetised _ =>
      have second := List.isChain_cons_cons.mp packetised.contiguous
      exact absurd second.1 (by decide)
  · rintro ⟨⟨-, -, -, carries⟩, -⟩
    have silent : sendTICs [ticAt 4800 true] secondLeg (some (announcedStream .l24 3 2 48)) =
        .ok [⟨secondLeg, some (announcedStream .l24 3 2 48), [], []⟩] := rfl
    cases carries _ silent with
    | cons carry _ =>
      have own := (carry.1 secondLeg rfl).length_eq
      exact absurd own (by decide)

end RavennaLkm
