import Mathlib.Data.List.Nodup
import RavennaLkm.Packetisation

/-!
When a pass over the sources sends each of their frames once. What a call does
with a piece is told for any stream, for a leg may still be attached to one that
was removed; which call sends on a leg is read off the attachments.
-/
namespace RavennaLkm
open CheckedLoop Gather

namespace MappedToInterleave

def mappedBytes (f : MappedToInterleave) (inputBuffer : ChannelMap) (nbChannels : Nat) : Nat :=
  f.width * (List.range nbChannels).countP fun ch => (inputBuffer ch).isSome

def Mapped (f : MappedToInterleave) (inputBuffer : ChannelMap) (nbChannels : Nat) : Prop :=
  f ≠ .bigEndianDSD256 → ∀ ch < nbChannels, (inputBuffer ch).isSome = true

theorem mappedBytes_of_mapped (f : MappedToInterleave) {inputBuffer : ChannelMap} {nbChannels : Nat}
    (mapped : ∀ ch < nbChannels, (inputBuffer ch).isSome = true) :
    f.mappedBytes inputBuffer nbChannels = nbChannels * f.width := by
  have all : (List.range nbChannels).countP (fun ch => (inputBuffer ch).isSome) = nbChannels := by
    rw [List.countP_eq_length.mpr fun ch inRange => mapped ch (List.mem_range.mp inRange), List.length_range]
  rw [mappedBytes, all, Nat.mul_comm]

theorem length_gather_mapped {width : Nat} {chunk : Nat → Nat → List UInt8} (inputBuffer : ChannelMap)
    (whole : ∀ ch base, (chunk ch base).length = width) (nbChannels : Nat) :
    (gather (fun ch => ((inputBuffer ch).map (chunk ch)).getD []) nbChannels).length =
      width * (List.range nbChannels).countP fun ch => (inputBuffer ch).isSome := by
  induction nbChannels with
  | zero => rfl
  | succ n ih =>
    rw [gather_succ, List.length_append, ih, List.range_succ, List.countP_append, Nat.mul_add]
    cases isInput : inputBuffer n with
    | none => simp [isInput]
    | some base => simp [isInput, whole]

/-- A converter that follows no NULL pointer is one write of so many bytes. -/
theorem call_eq_emit_mapped (f : MappedToInterleave) (capacity : Nat) (mem : RingMemory)
    {inputBuffer : ChannelMap} (offset : UInt32) {nbChannels : UInt32} (nbSamples : UInt32) (c : OutCursor)
    (mapped : f.Mapped inputBuffer nbChannels.toNat) :
    ∃ bytes : List UInt8, f.call capacity mem inputBuffer offset nbChannels nbSamples c = emit capacity bytes c ∧
      bytes.length = sampleRounds offset nbSamples * f.mappedBytes inputBuffer nbChannels.toNat := by
  by_cases dsd : f = .bigEndianDSD256
  · subst dsd
    let chunk (i ch base : Nat) : List UInt8 :=
      let s := mem (base + (offset.toNat + i))
      [s.byte0, s.byte1, s.byte2, s.byte3]
    refine ⟨gather (fun i => gather (fun ch => ((inputBuffer ch).map (chunk i ch)).getD []) nbChannels.toNat)
      (sampleRounds offset nbSamples), ?_, ?_⟩
    · rw [call, mtConvertMappedFloatToBigEndianDSD256Interleave, ← forUp_emit]
      apply forUp_congr
      intro i _ c
      rw [← forUp_emit]
      apply forUp_congr
      intro ch _ c
      cases inputBuffer ch with
      | none => exact (emit_nil capacity c).symm
      | some base => rfl
    · have whole : ∀ i ch base, (chunk i ch base).length = width .bigEndianDSD256 := fun _ _ _ => rfl
      exact length_gather fun i _ => length_gather_mapped inputBuffer (whole i) _
  · have isMapped : ∀ ch < nbChannels.toNat, inputBuffer ch = some ((inputBuffer ch).getD 0) := by
      intro ch below
      obtain ⟨base, isBase⟩ := Option.isSome_iff_exists.mp (mapped dsd ch below)
      rw [isBase, Option.getD_some]
    refine ⟨_, f.call_eq_emit capacity mem offset nbSamples c isMapped, ?_⟩
    rw [length_payload, f.mappedBytes_of_mapped (mapped dsd)]

theorem interleave_mapped {store : Sample → List UInt8} {capacity : Nat} {mem : RingMemory}
    {inputBuffer : ChannelMap} {offset nbChannels nbSamples : UInt32} {c : OutCursor}
    (rounds : 0 < sampleRounds offset nbSamples)
    (done : Succeeds (interleave store capacity mem inputBuffer offset nbChannels nbSamples c)) :
    ∀ ch < nbChannels.toNat, (inputBuffer ch).isSome = true := by
  intro ch below
  obtain ⟨_, -, row⟩ := forUp_round_succeeds done rounds
  obtain ⟨_, -, emitted⟩ := forUp_round_succeeds row below
  unfold emitMapped at emitted
  cases isInput : inputBuffer ch with
  | none => simp [isInput] at emitted
  | some base => rfl

theorem call_succeeds_iff (f : MappedToInterleave) (capacity : Nat) (mem : RingMemory)
    (inputBuffer : ChannelMap) (offset nbChannels nbSamples : UInt32) (c : OutCursor)
    (rounds : 0 < sampleRounds offset nbSamples) :
    Succeeds (f.call capacity mem inputBuffer offset nbChannels nbSamples c) ↔
      f.Mapped inputBuffer nbChannels.toNat ∧
        (f.mappedBytes inputBuffer nbChannels.toNat = 0 ∨
          c.out + sampleRounds offset nbSamples * f.mappedBytes inputBuffer nbChannels.toNat ≤ capacity) := by
  have room : f.Mapped inputBuffer nbChannels.toNat →
      (Succeeds (f.call capacity mem inputBuffer offset nbChannels nbSamples c) ↔
        f.mappedBytes inputBuffer nbChannels.toNat = 0 ∨
          c.out + sampleRounds offset nbSamples * f.mappedBytes inputBuffer nbChannels.toNat ≤ capacity) := by
    intro mapped
    obtain ⟨bytes, isEmit, length⟩ := f.call_eq_emit_mapped capacity mem offset nbSamples c mapped
    rw [isEmit, emit, succeeds_guard, length, ← List.length_eq_zero_iff, length, Nat.mul_eq_zero]
    simp [Nat.pos_iff_ne_zero.mp rounds]
  constructor
  · intro done
    have mapped : f.Mapped inputBuffer nbChannels.toNat := by
      intro notDSD
      cases f with
      | bigEndianInt16 | bigEndianInt24 | bigEndianInt32 => exact interleave_mapped rounds done
      | bigEndianDSD256 => exact absurd rfl notDSD
    exact ⟨mapped, (room mapped).mp done⟩
  · rintro ⟨mapped, fits⟩
    exact (room mapped).mpr fits

end MappedToInterleave

def SizeFits (s : RTPAudioStream) (n : UInt32) : Prop := packetSize s n ≤ UInt32.ofNat ethernetStandardFrameSize

instance (s : RTPAudioStream) (n : UInt32) : Decidable (SizeFits s n) := by
  unfold SizeFits
  infer_instance

/-- A call of the converter for `n` samples, `start` bytes behind the header, follows no NULL pointer
and stays in the packet. -/
def CallInside (s : RTPAudioStream) (start n : Nat) : Prop :=
  n = 0 ∨ ∃ f, s.mtConvertMappedToInterleave = some f ∧
    f.Mapped s.livesOutCircularBuffer s.rtpStreamInfo.nbOfChannels.toNat ∧
    (f.mappedBytes s.livesOutCircularBuffer s.rtpStreamInfo.nbOfChannels.toNat = 0 ∨
      sizeofRTPPacketBase + start +
        n * f.mappedBytes s.livesOutCircularBuffer s.rtpStreamInfo.nbOfChannels.toNat ≤ ethernetStandardFrameSize)

def CallsInside (s : RTPAudioStream) (ops : RTPAudioStreamOps) (offset n : UInt32) : Prop :=
  CallInside s 0 (frontSamples ops offset n).toNat ∧
    CallInside s (frontSamples ops offset n * s.rtpStreamInfo.wordLength.toUInt32 * getNbOfLivesOut s).toNat
      (n - frontSamples ops offset n).toNat

/-- A packet of this piece is dropped for its size, or written without a fault. -/
def Harmless (s : RTPAudioStream) (ops : RTPAudioStreamOps) (p : Piece) : Prop :=
  SizeFits s p.n → CallsInside s ops p.offset p.n

section

variable {s s' : RTPAudioStream} {ops : RTPAudioStreamOps} {livesOut : RingMemory} {p : Piece}

theorem SameSource.sizeFits (same : SameSource s s') (n : UInt32) : SizeFits s' n ↔ SizeFits s n := by
  rw [SizeFits, packetSize, getNbOfLivesOut, same.info]
  rfl

theorem SameSource.harmless (same : SameSource s s') : Harmless s' ops p ↔ Harmless s ops p := by
  simp only [Harmless, same.sizeFits, CallsInside, CallInside, getNbOfLivesOut, same.info, same.rings, same.convert]

theorem convert_succeeds_iff (s : RTPAudioStream) (livesOut : RingMemory) {start n : UInt32}
    (packet : PacketBuffer) (at_ : Nat)
    (rounds : sampleRounds start n = n.toNat) :
    Succeeds (if n > 0 then (·.packet) <$> convertFromLivesOut s livesOut start n ⟨sizeofRTPPacketBase + at_, packet⟩
      else .ok packet) ↔ CallInside s at_ n.toNat := by
  unfold CallInside convertFromLivesOut
  by_cases some : n > 0
  · have positive : 0 < n.toNat := UInt32.lt_iff_toNat_lt.mp some
    rw [if_pos some, succeeds_map]
    cases s.mtConvertMappedToInterleave with
    | none => simp [Nat.pos_iff_ne_zero.mp positive]
    | some f =>
      rw [f.call_succeeds_iff _ _ _ _ _ _ _ (by omega), rounds, UInt8.toNat_toUInt32]
      simp [Nat.pos_iff_ne_zero.mp positive]
  · rw [if_neg some]
    simp [toNat_of_not_pos some]

theorem convertPieces_succeeds_iff (livesOut : RingMemory) {offset n : UInt32} (position : RingPosition ops offset n)
    (packet : PacketBuffer) :
    Succeeds (convertPieces s ops livesOut offset n packet) ↔ CallsInside s ops offset n := by
  have front := convert_succeeds_iff s livesOut packet 0 (sampleRounds_front position)
  have back := fun packet => convert_succeeds_iff s livesOut packet
    (frontSamples ops offset n * s.rtpStreamInfo.wordLength.toUInt32 * getNbOfLivesOut s).toNat
    (sampleRounds_back (n - frontSamples ops offset n))
  unfold convertPieces CallsInside
  dsimp only
  rw [← frontSamples, ← front]
  by_cases some : frontSamples ops offset n > 0
  · rw [if_pos some, if_pos some, succeeds_bind]
    constructor
    · rintro ⟨written, first, second⟩
      exact ⟨⟨written, first⟩, (back written).mp second⟩
    · rintro ⟨⟨written, first⟩, second⟩
      exact ⟨written, first, (back written).mpr second⟩
  · rw [if_neg some, if_neg some, ok_bind, back]
    simp

theorem send_succeeds_iff (livesOut : RingMemory) (position : RingPosition ops p.offset p.n) :
    Succeeds (sendRTPAudioPacket s ops true livesOut p.sac p.offset p.n p.seqNum) ↔ Harmless s ops p := by
  rw [sendRTPAudioPacket_eq, Harmless, SizeFits]
  by_cases fits : packetSize s p.n ≤ UInt32.ofNat ethernetStandardFrameSize
  · have kept : ¬ UInt32.ofNat ethernetStandardFrameSize < packetSize s p.n := UInt32.not_lt.mpr fits
    have written := convertPieces_succeeds_iff (s := s) livesOut position
      (writeBytes (fun _ => none) 0 s.rtpPacketBaseOutgoing.bytes)
    rw [if_neg (by simpa using kept), ← written, succeeds_bind]
    simp only [succeeds_ok, and_true, fits, true_implies]
    rfl
  · have exceeds := UInt32.not_le.mp fits
    rw [if_pos (by simpa using exceeds)]
    exact iff_of_true (succeeds_ok _) (absurd · fits)

structure SentPiece (s : RTPAudioStream) (p : Piece) (out : Option TransmittedPacket) : Prop where
  sent : SizeFits s p.n → ∃ packet, out = some packet ∧ packet.nicId = s.ethNetfilter.nicId ∧
    packet.size = packetSize s p.n
  dropped : ¬ SizeFits s p.n → out = none
  carries : CarriesPiece s p out

theorem sentPiece_of_send {out : Option TransmittedPacket}
    (sent : sendRTPAudioPacket s ops true livesOut p.sac p.offset p.n p.seqNum = .ok (s', out)) :
    SentPiece s p out := by
  have carries := carries_of_send sent
  rw [sendRTPAudioPacket_eq] at sent
  by_cases fits : packetSize s p.n ≤ UInt32.ofNat ethernetStandardFrameSize
  · have kept : ¬ UInt32.ofNat ethernetStandardFrameSize < packetSize s p.n := UInt32.not_lt.mpr fits
    rw [if_neg (by simpa using kept)] at sent
    obtain ⟨bytes, -, built⟩ := bind_eq_ok.mp sent
    cases built
    exact ⟨fun _ => ⟨_, rfl, rfl, rfl⟩, absurd fits, carries⟩
  · have exceeds := UInt32.not_le.mp fits
    rw [if_pos (by simpa using exceeds)] at sent
    cases sent
    exact ⟨(absurd · fits), fun _ => rfl, carries⟩

theorem SentPiece.same {out : Option TransmittedPacket} (piece : SentPiece s' p out) (same : SameSource s s') :
    SentPiece s p out := by
  refine ⟨?_, ?_, piece.carries.same same⟩
  · intro fits
    obtain ⟨packet, isSent, nic, size⟩ := piece.sent ((same.sizeFits p.n).mpr fits)
    refine ⟨packet, isSent, by rw [nic, same.nic], ?_⟩
    rw [size, packetSize, getNbOfLivesOut, same.info]
    rfl
  · intro large
    exact piece.dropped (mt (same.sizeFits p.n).mp large)

end

theorem framePieces_positions {ops : RTPAudioStreamOps} {maxSamples : UInt32} (fuel : Nat)
    {remaining : UInt32} (sac : UInt64) {offset : UInt32} (seqNum : UInt16)
    (position : RingPosition ops offset remaining) :
    ∀ p ∈ framePieces ops maxSamples fuel remaining sac offset seqNum, RingPosition ops p.offset p.n := by
  induction fuel generalizing remaining sac offset seqNum with
  | zero => simp [framePieces]
  | succ fuel ih =>
    have atMost : (min maxSamples remaining).toNat ≤ remaining.toNat := by
      rw [toNat_min]
      exact Nat.min_le_right _ _
    intro p isPiece
    rw [framePieces] at isPiece
    split at isPiece
    · cases isPiece
    · rcases List.mem_cons.mp isPiece with rfl | later
      · exact position.mono atMost
      · exact ih _ _ (position.next atMost) p later

theorem outgoingPieces_positions {ops : RTPAudioStreamOps} (self : RTPAudioStream) (seqNum : UInt16)
    (position : RingPosition ops ops.playbackBufferOffset ops.frameSize) :
    ∀ p ∈ outgoingPieces self ops seqNum, RingPosition ops p.offset p.n :=
  framePieces_positions _ _ _ (position.start self none)

def HarmlessOnBoth (self : RTPAudioStream) (partner : Option RTPAudioStream) (ops : RTPAudioStreamOps)
    (p : Piece) : Prop :=
  Harmless self ops p ∧ ∀ s ∈ partner, Harmless s ops p

section

variable {ops : RTPAudioStreamOps} {livesOut : RingMemory} {l l' : Legs} {p : Piece} {pieces : List Piece}

theorem SamePartner.harmless {partner partner' : Option RTPAudioStream} (same : SamePartner partner partner') :
    (∀ s ∈ partner', Harmless s ops p) ↔ ∀ s ∈ partner, Harmless s ops p := by
  cases partner <;> cases partner'
  · rfl
  · exact same.elim
  · exact same.elim
  · simp [SameSource.harmless same]

theorem Legs.send_succeeds_iff (l : Legs) (livesOut : RingMemory) (position : RingPosition ops p.offset p.n) :
    Succeeds (l.send ⟨ops, true, livesOut⟩ p) ↔ HarmlessOnBoth l.stream l.partner ops p := by
  constructor
  · rintro ⟨l', sent⟩
    obtain ⟨own, isOwn, rest⟩ := bind_eq_ok.mp sent
    refine ⟨(RavennaLkm.send_succeeds_iff livesOut position).mp ⟨own, isOwn⟩, ?_⟩
    intro s isPartner
    dsimp only at rest
    rw [Option.mem_def.mp isPartner] at rest
    obtain ⟨other, isOther, -⟩ := bind_eq_ok.mp rest
    exact (RavennaLkm.send_succeeds_iff livesOut position).mp ⟨other, isOther⟩
  · rintro ⟨own, other⟩
    apply Succeeds.bind ((RavennaLkm.send_succeeds_iff livesOut position).mpr own)
    intro _ _
    dsimp only
    split
    · exact succeeds_ok _
    · rename_i s isPartner
      apply Succeeds.bind ((RavennaLkm.send_succeeds_iff livesOut position).mpr (other s isPartner))
      intro _ _
      exact succeeds_ok _

theorem Legs.send_partnerNumber {t : TIC} (sent : l.send t p = .ok l') :
    l'.partner.map (·.outgoingSeqNum) = l.partner.map (·.outgoingSeqNum) := by
  obtain ⟨own, -, rest⟩ := bind_eq_ok.mp sent
  dsimp only at rest
  cases isPartner : l.partner with
  | none =>
    rw [isPartner] at rest
    cases rest
    rfl
  | some s =>
    rw [isPartner] at rest
    obtain ⟨other, isOther, last⟩ := bind_eq_ok.mp rest
    cases last
    rw [Option.map_some, Option.map_some, outgoingSeqNum_of_send isOther]

theorem pieces_succeed_iff (positions : ∀ p ∈ pieces, RingPosition ops p.offset p.n) :
    Succeeds (pieces.foldlM (Legs.send ⟨ops, true, livesOut⟩) l) ↔
      ∀ p ∈ pieces, HarmlessOnBoth l.stream l.partner ops p := by
  induction pieces generalizing l with
  | nil => simp
  | cons p rest ih =>
    obtain ⟨here, later⟩ := List.forall_mem_cons.mp positions
    have first := Legs.send_succeeds_iff l livesOut here
    have others : ∀ l', l.send ⟨ops, true, livesOut⟩ p = .ok l' →
        (Succeeds (rest.foldlM (Legs.send ⟨ops, true, livesOut⟩) l') ↔
          ∀ p ∈ rest, HarmlessOnBoth l.stream l.partner ops p) := by
      intro l' sent
      obtain ⟨same, samePartner, -⟩ := Legs.send_each (fun _ _ _ _ => carries_of_send) sent
      simp only [ih later, HarmlessOnBoth, same.harmless, samePartner.harmless]
    rw [List.foldlM_cons, succeeds_bind, List.forall_mem_cons, ← first]
    constructor
    · rintro ⟨l', sent, run⟩
      exact ⟨⟨l', sent⟩, (others l' sent).mp run⟩
    · rintro ⟨⟨l', sent⟩, harmless⟩
      exact ⟨l', sent, (others l' sent).mpr harmless⟩

theorem pieces_partnerNumber {t : TIC} {done : Legs} (sent : pieces.foldlM (Legs.send t) l = .ok done) :
    done.partner.map (·.outgoingSeqNum) = l.partner.map (·.outgoingSeqNum) := by
  induction pieces generalizing l with
  | nil =>
    cases sent
    rfl
  | cons p rest ih =>
    rw [List.foldlM_cons] at sent
    obtain ⟨l', first, later⟩ := bind_eq_ok.mp sent
    rw [ih later, Legs.send_partnerNumber first]

end

section

variable {ops : RTPAudioStreamOps} {self : RTPAudioStream} {partner : Option RTPAudioStream}
  (speaks : ¬ (self.ethNetfilter.nicId = 1 ∧ partner.isSome = true))
  (someSamples : self.rtpStreamInfo.maxSamplesPerPacket ≠ 0) (livesOut : RingMemory)
include speaks someSamples

theorem packets_succeed_iff (position : RingPosition ops ops.playbackBufferOffset ops.frameSize) :
    Succeeds (sendRTPAudioPackets self partner ops true livesOut) ↔
      ∀ p ∈ outgoingPieces self ops self.outgoingSeqNum, HarmlessOnBoth self partner ops p := by
  have calls := legs_sendRTPAudioPackets speaks someSamples ⟨ops, true, livesOut⟩
  rw [← succeeds_map SendState.legs, calls]
  exact pieces_succeed_iff (outgoingPieces_positions self _ position)

/-- Each piece of the frame was sent or dropped, on both legs; the partner's numbers are left alone. -/
theorem packets_sent {done : SendState} (sent : sendRTPAudioPackets self partner ops true livesOut = .ok done) :
    LegSends SentPiece (some self) (outgoingPieces self ops self.outgoingSeqNum) done.sent ∧
      LegSends SentPiece partner (outgoingPieces self ops self.outgoingSeqNum) done.partnerSent ∧
      done.partner.map (·.outgoingSeqNum) = partner.map (·.outgoingSeqNum) := by
  have calls := legs_sendRTPAudioPackets speaks someSamples ⟨ops, true, livesOut⟩
  rw [sent] at calls
  have run := calls.symm
  obtain ⟨own, other, isOwn, isOther, ownSent, otherSent⟩ :=
    pieces_each (R := SentPiece) (fun _ _ _ _ => sentPiece_of_send) (fun _ _ _ _ => SentPiece.same) run
  rw [List.nil_append] at isOwn isOther
  change done.sent = own at isOwn
  change done.partnerSent = other at isOther
  rw [isOwn, isOther]
  exact ⟨ownSent, otherSent, pieces_partnerNumber run⟩

end

namespace RTPStreamsManager

variable {m m' m'' : RTPStreamsManager} {h p q t : StreamHandle} {ops : RTPAudioStreamOps} {livesOut : RingMemory}
  {log : SendLog}

def Leaves (m : RTPStreamsManager) (h : StreamHandle) : Prop := m.nicId h = 1 ∧ (m.attached h).isSome = true

instance (m : RTPStreamsManager) (h : StreamHandle) : Decidable (m.Leaves h) := by
  unfold Leaves
  infer_instance

def SendsFor (m : RTPStreamsManager) (q t : StreamHandle) : Prop :=
  ¬ m.Leaves t ∧ (q = t ∨ m.attached t = some q)

instance (m : RTPStreamsManager) (q t : StreamHandle) : Decidable (m.SendsFor q t) := by
  unfold SendsFor
  infer_instance

def outgoing (m : RTPStreamsManager) (ops : RTPAudioStreamOps) (t : StreamHandle) : List Piece :=
  outgoingPieces (m.stream t) ops (m.stream t).outgoingSeqNum

def CallHarmless (m : RTPStreamsManager) (ops : RTPAudioStreamOps) (t : StreamHandle) : Prop :=
  ¬ m.Leaves t → ∀ p ∈ m.outgoing ops t, HarmlessOnBoth (m.stream t) ((m.attached t).map m.stream) ops p

def SentThrough (m : RTPStreamsManager) (ops : RTPAudioStreamOps) (q t : StreamHandle)
    (out : List (Option TransmittedPacket)) : Prop :=
  List.Forall₂ (SentPiece (m.stream q)) (m.outgoing ops t) out

theorem SameSources.sendsFor (same : m.SameSources m') (q t : StreamHandle) :
    m'.SendsFor q t ↔ m.SendsFor q t := by
  rw [SendsFor, Leaves, same.nicId, same.attached]
  rfl

theorem SameSources.outgoing (same : m.SameSources m')
    (number : (m'.stream t).outgoingSeqNum = (m.stream t).outgoingSeqNum) (ops : RTPAudioStreamOps) :
    m'.outgoing ops t = m.outgoing ops t := by
  rw [RTPStreamsManager.outgoing, number, (same.stream t).outgoingPieces]
  rfl

theorem SameSources.partner (same : m.SameSources m') (h : StreamHandle) :
    SamePartner ((m.attached h).map m.stream) ((m.attached h).map m'.stream) := by
  cases m.attached h with
  | none => trivial
  | some p => exact same.stream p

theorem sendRTPAudioPackets_leaves {self : RTPAudioStream} {partner : Option RTPAudioStream}
    (silent : self.ethNetfilter.nicId = 1 ∧ partner.isSome = true) :
    sendRTPAudioPackets self partner ops true livesOut = .ok { sendStart self partner ops with remaining := 0 } :=
  if_pos silent

theorem sendFrom_numbers {done : SendState} {skb : Bool}
    (sent : sendRTPAudioPackets (m.stream h) ((m.attached h).map m.stream) ops skb livesOut = .ok done)
    (numbers : done.partner.map (·.outgoingSeqNum) = ((m.attached h).map m.stream).map (·.outgoingSeqNum))
    (run : m.sendFrom ops skb livesOut h = .ok (m', log)) (other : q ≠ h) :
    (m'.stream q).outgoingSeqNum = (m.stream q).outgoingSeqNum := by
  rw [sendFrom, sent, ok_bind] at run
  cases isPartner : m.attached h with
  | none =>
    simp only [isPartner] at run
    cases run
    rw [setStream_other _ other]
  | some p =>
    cases isLeg : done.partner with
    | none =>
      simp only [isPartner, isLeg] at run
      cases run
      rw [setStream_other _ other]
    | some leg =>
      simp only [isPartner, isLeg, Option.map_some, Option.some.injEq] at run numbers
      cases run
      by_cases here : q = p
      · rw [here, setStream_same, numbers]
      · rw [setStream_other _ here, setStream_other _ other]

theorem sendFrom_succeeds_iff (livesOut : RingMemory) (accepted : AcceptedSource (m.stream h))
    (position : RingPosition ops ops.playbackBufferOffset ops.frameSize) :
    Succeeds (m.sendFrom ops true livesOut h) ↔ m.CallHarmless ops h := by
  have passes : Succeeds (m.sendFrom ops true livesOut h) ↔
      Succeeds (sendRTPAudioPackets (m.stream h) ((m.attached h).map m.stream) ops true livesOut) := by
    rw [sendFrom, succeeds_bind]
    constructor
    · rintro ⟨done, sent, -⟩
      exact ⟨done, sent⟩
    · rintro ⟨done, sent⟩
      refine ⟨done, sent, ?_⟩
      dsimp only
      split <;> exact succeeds_ok _
  rw [passes]
  by_cases leaves : m.Leaves h
  · rw [sendRTPAudioPackets_leaves (by rwa [Option.isSome_map])]
    exact iff_of_true (succeeds_ok _) (absurd leaves)
  · rw [packets_succeed_iff (by rwa [Option.isSome_map]) accepted.someSamples livesOut position]
    exact ⟨fun harmless _ => harmless, fun harmless => harmless leaves⟩

/-- What slot `h` sends, on its own leg and on the one it is attached to. -/
theorem sendFrom_sent (noSelf : m.attached h ≠ some h) (accepted : AcceptedSource (m.stream h))
    (run : m.sendFrom ops true livesOut h = .ok (m', log)) :
    m.SameSources m' ∧ (∀ q, q ≠ h → (m'.stream q).outgoingSeqNum = (m.stream q).outgoingSeqNum) ∧
      ∀ q, (m.SendsFor q h → m.SentThrough ops q h (sentBy log q)) ∧ (¬ m.SendsFor q h → sentBy log q = []) := by
  obtain ⟨done, sent, -⟩ := bind_eq_ok.mp run
  obtain ⟨m1, log1, same, run', legs⟩ := sendFrom_of_sent noSelf sent
  cases run.symm.trans run'
  by_cases leaves : m.Leaves h
  · rw [sendRTPAudioPackets_leaves (by rwa [Option.isSome_map])] at sent
    cases sent
    refine ⟨same, fun q other => sendFrom_numbers (sendRTPAudioPackets_leaves (by rwa [Option.isSome_map]))
      rfl run other, ?_⟩
    intro q
    refine ⟨fun sends => absurd leaves sends.1, fun _ => (legs q).trans ?_⟩
    simp [sendStart]
  · obtain ⟨own, other, numbers⟩ :=
      packets_sent (by rwa [Option.isSome_map]) accepted.someSamples livesOut sent
    refine ⟨same, fun q other => sendFrom_numbers sent numbers run other, ?_⟩
    intro q
    rw [legs, SendsFor, and_iff_right leaves]
    constructor
    · rintro (rfl | isPartner)
      · rw [if_pos rfl, if_neg noSelf, List.append_nil]
        exact own _ rfl
      · have notOwn : q ≠ h := fun isOwn => noSelf (isOwn ▸ isPartner)
        rw [if_neg notOwn, if_pos isPartner, List.nil_append]
        exact other _ (by rw [isPartner]; rfl)
    · intro neither
      rw [not_or] at neither
      rw [if_neg neither.1, if_neg neither.2]
      rfl

/-- The list starts the pass again after the call for its first stream. -/
theorem sendEach_cons_ok {skb : Bool} {rest : List StreamHandle}
    (run : sendEach ops skb livesOut (h :: rest) m = .ok (m', log)) :
    ∃ m1 log1 later, m.sendFrom ops skb livesOut h = .ok (m1, log1) ∧
      sendEach ops skb livesOut rest m1 = .ok (m', later) ∧ log = log1 ++ later := by
  obtain ⟨⟨m1, log1⟩, first, rest⟩ := bind_eq_ok.mp run
  obtain ⟨⟨m2, later⟩, others, last⟩ := bind_eq_ok.mp rest
  cases last
  exact ⟨m1, log1, later, first, others, rfl⟩

theorem sendEach_sent {l : List StreamHandle} (once : l.Nodup) (noSelf : ∀ h, m.attached h ≠ some h)
    (accepted : ∀ h ∈ l, AcceptedSource (m.stream h)) (run : sendEach ops true livesOut l m = .ok (m', log))
    (q : StreamHandle) :
    ∃ frames, List.Forall₂ (m.SentThrough ops q) (l.filter fun t => m.SendsFor q t) frames ∧
      sentBy log q = frames.flatten := by
  induction l generalizing m log with
  | nil =>
    cases run
    exact ⟨[], .nil, rfl⟩
  | cons h rest ih =>
    obtain ⟨fresh, once⟩ := List.nodup_cons.mp once
    obtain ⟨isAccepted, accepted⟩ := List.forall_mem_cons.mp accepted
    obtain ⟨m1, log1, later, first, others, rfl⟩ := sendEach_cons_ok run
    obtain ⟨same, numbers, own⟩ := sendFrom_sent (noSelf h) isAccepted first
    obtain ⟨frames, each, isLater⟩ := ih once (fun p => by rw [same.attached]; exact noSelf p)
      (fun t isRest => (accepted t isRest).same (same.stream t)) others
    have kept : ∀ t ∈ rest, ∀ out, m1.SentThrough ops q t out → m.SentThrough ops q t out := by
      intro t isRest out through
      have other : t ≠ h := fun isH => fresh (isH ▸ isRest)
      rw [SentThrough, same.outgoing (numbers t other)] at through
      exact through.imp fun _ _ piece => piece.same (same.stream q)
    have sameFilter : (rest.filter fun t => m1.SendsFor q t) = rest.filter fun t => m.SendsFor q t :=
      List.filter_congr fun t _ => decide_eq_decide.mpr (same.sendsFor q t)
    rw [sameFilter] at each
    have inRest : ∀ t ∈ rest.filter fun t => m.SendsFor q t, t ∈ rest := fun t isSender =>
      List.mem_of_mem_filter isSender
    have each := ((List.forall₂_and_left _ _).mpr ⟨inRest, each⟩).imp fun t out through =>
      kept t through.1 out through.2
    rw [sentBy_append, isLater]
    by_cases sends : m.SendsFor q h
    · refine ⟨sentBy log1 q :: frames, ?_, rfl⟩
      rw [List.filter_cons_of_pos (by simpa using sends)]
      exact .cons ((own q).1 sends) each
    · refine ⟨frames, ?_, ?_⟩
      · rwa [List.filter_cons_of_neg (by simpa using sends)]
      · rw [(own q).2 sends, List.nil_append]

theorem sendEach_succeeds_iff (livesOut : RingMemory) {l : List StreamHandle} (once : l.Nodup)
    (noSelf : ∀ h, m.attached h ≠ some h)
    (accepted : ∀ h ∈ l, AcceptedSource (m.stream h))
    (position : RingPosition ops ops.playbackBufferOffset ops.frameSize) :
    Succeeds (sendEach ops true livesOut l m) ↔ ∀ t ∈ l, m.CallHarmless ops t := by
  induction l generalizing m with
  | nil => simp [sendEach]
  | cons h rest ih =>
    obtain ⟨fresh, once⟩ := List.nodup_cons.mp once
    obtain ⟨isAccepted, accepted⟩ := List.forall_mem_cons.mp accepted
    have first := sendFrom_succeeds_iff livesOut isAccepted position
    have others : ∀ m1 log1, m.sendFrom ops true livesOut h = .ok (m1, log1) →
        (Succeeds (sendEach ops true livesOut rest m1) ↔ ∀ t ∈ rest, m.CallHarmless ops t) := by
      intro m1 log1 run
      obtain ⟨same, numbers, -⟩ := sendFrom_sent (noSelf h) isAccepted run
      rw [ih once (fun p => by rw [same.attached]; exact noSelf p)
        fun t isRest => (accepted t isRest).same (same.stream t)]
      apply forall₂_congr
      intro t isRest
      have other : t ≠ h := fun isH => fresh (isH ▸ isRest)
      rw [CallHarmless, same.outgoing (numbers t other), Leaves, same.nicId, same.attached]
      simp only [HarmlessOnBoth, (same.stream t).harmless, (same.partner t).harmless]
      rfl
    rw [List.forall_mem_cons, ← first]
    constructor
    · rintro ⟨⟨m', log⟩, run⟩
      obtain ⟨m1, log1, later, sent, rest, -⟩ := sendEach_cons_ok run
      exact ⟨⟨_, sent⟩, (others m1 log1 sent).mp ⟨_, rest⟩⟩
    · rintro ⟨⟨⟨m1, log1⟩, sent⟩, harmless⟩
      obtain ⟨⟨m2, later⟩, run⟩ := (others m1 log1 sent).mpr harmless
      exact ⟨(m2, log1 ++ later), by rw [sendEach, sent, ok_bind, run]; rfl⟩

end RTPStreamsManager

section

variable {s : RTPAudioStream} {ops : RTPAudioStreamOps} {p : Piece}

/-- A packet that the converter of an accepted source writes is as long as it announces. -/
theorem packetSize_of_inside (accepted : AcceptedSource s) {offset n : UInt32}
    (inside : CallsInside s ops offset n) :
    (packetSize s n).toNat = sizeofRTPPacketBase + n.toNat * sampleBytes s s.rtpStreamInfo.wordLength.toNat := by
  obtain ⟨f, codec⟩ := accepted.someConverter
  have bytes := f.mappedBytes_of_mapped accepted.rings
  have small : ∀ start n, CallInside s start n → n * s.rtpStreamInfo.nbOfChannels.toNat ≤ 1460 := by
    rintro start n (zero | ⟨g, isG, -, room⟩)
    · simp [zero]
    · obtain rfl : g = f := by
        rw [accepted.convert, codec] at isG
        exact (Option.some.inj isG).symm
      have wide := Nat.mul_le_mul_left (n * s.rtpStreamInfo.nbOfChannels.toNat) g.width_pos
      rw [bytes, ← Nat.mul_assoc] at room
      simp only [sizeofRTPPacketBase, ethernetStandardFrameSize] at room
      rcases room with zero | room
      · have noChannel := (Nat.mul_eq_zero.mp zero).resolve_right g.width_pos.ne'
        simp [noChannel]
      · omega
  have front := small _ _ inside.1
  have back := small _ _ inside.2
  have total := frontSamples_add_back ops offset n
  have samples := Nat.add_mul (frontSamples ops offset n).toNat (n - frontSamples ops offset n).toNat
    s.rtpStreamInfo.nbOfChannels.toNat
  have word := s.rtpStreamInfo.wordLength.toNat_lt
  rw [total] at samples
  apply accepted.packetSize_toNat
  calc n.toNat * (s.rtpStreamInfo.nbOfChannels.toNat * s.rtpStreamInfo.wordLength.toNat)
      = n.toNat * s.rtpStreamInfo.nbOfChannels.toNat * s.rtpStreamInfo.wordLength.toNat := (Nat.mul_assoc ..).symm
    _ ≤ 2920 * 255 := Nat.mul_le_mul (by omega) (by omega)
    _ < 2 ^ 32 - 54 := by norm_num

theorem Rounds.covers_sent {maxSamples : UInt32} {remaining : Nat} {sac : UInt64} {offset : UInt32}
    {seqNum : UInt16} {pieces : List Piece} {out : List (Option TransmittedPacket)}
    (rounds : Rounds ops maxSamples remaining sac offset seqNum pieces) (accepted : AcceptedSource s)
    (sent : List.Forall₂ (SentPiece s) pieces out)
    (fits : ∀ p ∈ pieces, SizeFits s p.n ∧ CallsInside s ops p.offset p.n) :
    ∃ packets, out = packets.map some ∧ (∀ p ∈ packets, p.nicId = s.ethNetfilter.nicId) ∧
      Covers (sampleBytes s s.rtpStreamInfo.wordLength.toNat)
        (sac + s.rtpStreamInfo.rtpTimestampOffset.toUInt64).toUInt32 remaining packets := by
  induction rounds generalizing out with
  | done =>
    cases sent
    exact ⟨[], rfl, by simp, rfl⟩
  | @round left sac offset seqNum rest n positive few later ih =>
    cases sent with
    | cons piece others =>
      obtain ⟨⟨size, inside⟩, restFits⟩ := List.forall_mem_cons.mp fits
      obtain ⟨packet, rfl, nic, isSize⟩ := piece.sent size
      obtain ⟨packets, rfl, nics, covers⟩ := ih others restFits
      refine ⟨packet :: packets, rfl, List.forall_mem_cons.mpr ⟨nic, nics⟩, ?_, n.toNat, positive,
        Nat.le_add_right .., ?_, ?_⟩
      · exact (piece.carries packet rfl).1
      · rw [isSize, packetSize_of_inside accepted inside]
      · rw [← nextTimestamp, Nat.add_sub_cancel_left]
        exact covers

theorem Covers.timestamp {sampleBytes : Nat} {time : UInt32} {left : Nat} {packets : List TransmittedPacket}
    (covers : Covers sampleBytes time left packets) :
    ∀ p ∈ packets, ∃ k < left, mtalSwap32 p.header.rtpHeader.timestamp = time + UInt32.ofNat k := by
  induction packets generalizing time left with
  | nil => simp
  | cons p rest ih =>
    obtain ⟨isTime, n, positive, atMost, -, later⟩ := covers
    rw [List.forall_mem_cons]
    refine ⟨⟨0, by omega, by simp [isTime]⟩, ?_⟩
    intro q isLater
    obtain ⟨k, below, isTime⟩ := ih later q isLater
    exact ⟨n + k, by omega, by rw [isTime, UInt32.ofNat_add, UInt32.add_assoc]⟩

theorem Covers.startsOnce {sampleBytes : Nat} {time : UInt32} {left : Nat} {p : TransmittedPacket}
    {rest : List TransmittedPacket} (covers : Covers sampleBytes time left (p :: rest)) (small : left < 2 ^ 32) :
    ∀ q ∈ rest, mtalSwap32 q.header.rtpHeader.timestamp ≠ time := by
  obtain ⟨-, n, positive, atMost, -, later⟩ := covers
  intro q isLater isTime
  obtain ⟨k, below, again⟩ := later.timestamp q isLater
  rw [isTime, UInt32.add_assoc, ← UInt32.ofNat_add] at again
  have zero : UInt32.ofNat (n + k) = 0 := by
    have sum : time + 0 = time + UInt32.ofNat (n + k) := by rwa [UInt32.add_zero]
    exact (UInt32.add_right_inj time).mp sum.symm
  have isZero := congrArg UInt32.toNat zero
  rw [UInt32.toNat_ofNat', UInt32.toNat_zero, Nat.mod_eq_of_lt (by omega)] at isZero
  omega

theorem rtpFields_sent {pieces : List Piece} {out : List (Option TransmittedPacket)}
    (sent : List.Forall₂ (SentPiece s) pieces out) (fits : ∀ p ∈ pieces, SizeFits s p.n) :
    out.map rtpFields = pieces.map fun p => some (mtalSwap16 p.seqNum, mtalSwap32 (p.timestamp s)) := by
  induction sent with
  | nil => rfl
  | cons piece _ ih =>
    obtain ⟨size, fits⟩ := List.forall_mem_cons.mp fits
    obtain ⟨packet, rfl, -, -⟩ := piece.sent size
    obtain ⟨time, number⟩ := piece.carries packet rfl
    rw [List.map_cons, List.map_cons, ih fits, ← time, ← number, mtalSwap32_swap32, mtalSwap16_swap16]
    rfl

theorem sizeFits_of_sent {pieces : List Piece} {out : List (Option TransmittedPacket)}
    (sent : List.Forall₂ (SentPiece s) pieces out) (all : ∀ o ∈ out, o.isSome = true) :
    ∀ p ∈ pieces, SizeFits s p.n := by
  induction sent with
  | nil => simp
  | cons piece _ ih =>
    obtain ⟨here, later⟩ := List.forall_mem_cons.mp all
    refine List.forall_mem_cons.mpr ⟨?_, ih later⟩
    by_contra large
    rw [piece.dropped large] at here
    cases here

theorem framePieces_head {maxSamples : UInt32} {fuel : Nat} {remaining : UInt32}
    (enough : remaining.toNat ≤ fuel) (sac : UInt64) (offset : UInt32) (seqNum : UInt16) :
    (framePieces ops maxSamples fuel remaining sac offset seqNum).head?.map (·.sac) =
      if remaining = 0 then none else some sac := by
  by_cases empty : remaining = 0
  · rw [empty, framePieces_empty]
    rfl
  · cases fuel with
    | zero => exact absurd (UInt32.toNat_inj.mp (Nat.le_zero.mp enough)) empty
    | succ fuel =>
      rw [framePieces, if_neg empty, if_neg empty]
      rfl

/-- What a leg can send in one packet of the frame decides how the frame is cut. -/
theorem framePieces_congr {maxSamples maxSamples' frame : UInt32}
    (same : min maxSamples frame = min maxSamples' frame) (fuel : Nat) {remaining : UInt32}
    (inFrame : remaining.toNat ≤ frame.toNat) (sac : UInt64) (offset : UInt32) (seqNum : UInt16) :
    framePieces ops maxSamples fuel remaining sac offset seqNum =
      framePieces ops maxSamples' fuel remaining sac offset seqNum := by
  induction fuel generalizing remaining sac offset seqNum with
  | zero => rfl
  | succ fuel ih =>
    have sameNat := congrArg UInt32.toNat same
    rw [toNat_min, toNat_min] at sameNat
    have size : min maxSamples remaining = min maxSamples' remaining := by
      apply UInt32.toNat_inj.mp
      rw [toNat_min, toNat_min]
      omega
    have left : (remaining - min maxSamples' remaining).toNat ≤ frame.toNat := by
      have atMost := toNat_min maxSamples' remaining
      rw [UInt32.toNat_sub_of_le _ _ (UInt32.le_iff_toNat_le.mpr (by omega))]
      omega
    simp only [framePieces, size, ih left]

end

section

variable {s s' self self' : RTPAudioStream} {ops : RTPAudioStreamOps} {seqNum seqNum' : UInt16}

/-- The timestamp of the packet after `n` samples of the frame, if there is one. -/
theorem timestamp_head (s : RTPAudioStream) {maxSamples n : UInt32} {fuel : Nat}
    (enough : (ops.frameSize - n).toNat ≤ fuel) (sac : UInt64) (offset : UInt32) (seqNum : UInt16) :
    ((framePieces ops maxSamples fuel (ops.frameSize - n) (sac + n.toUInt64) offset seqNum).map
        (·.timestamp s)).head? =
      if ops.frameSize = n then none
      else some ((sac + s.rtpStreamInfo.rtpTimestampOffset.toUInt64).toUInt32 + n) := by
  have head : ((framePieces ops maxSamples fuel (ops.frameSize - n) (sac + n.toUInt64) offset
      seqNum).head?.map (·.sac)) = _ := framePieces_head enough _ _ _
  rw [List.head?_map]
  by_cases last : ops.frameSize = n
  · rw [if_pos (by rw [last, UInt32.sub_self]), Option.map_eq_none_iff] at head
    rw [if_pos last, head, Option.map_none]
  · have some : ops.frameSize - n ≠ 0 := fun zero =>
      last (by rw [UInt32.sub_eq_iff_eq_add.mp zero, UInt32.zero_add])
    rw [if_neg some] at head
    obtain ⟨p, isHead, isTime⟩ := Option.map_eq_some_iff.mp head
    rw [if_neg last, isHead, Option.map_some, Piece.timestamp, isTime, nextTimestamp, UInt32.ofNat_toNat]

/-- Where the packets after the first have the same timestamps, the first are of one length. -/
theorem eq_of_timestamps {n n' : UInt32} {maxSamples maxSamples' : UInt32} {fuel : Nat} {offset offset' : UInt32}
    {sac : UInt64} (enough : (ops.frameSize - n).toNat ≤ fuel) (enough' : (ops.frameSize - n').toNat ≤ fuel)
    (starts : s.rtpStreamInfo.rtpTimestampOffset = s'.rtpStreamInfo.rtpTimestampOffset)
    (same : (framePieces ops maxSamples fuel (ops.frameSize - n) (sac + n.toUInt64) offset seqNum).map (·.timestamp s) =
      (framePieces ops maxSamples' fuel (ops.frameSize - n') (sac + n'.toUInt64) offset' seqNum').map
        (·.timestamp s')) : n = n' := by
  have second := congrArg List.head? same
  rw [timestamp_head s enough, timestamp_head s' enough', starts] at second
  by_cases last : ops.frameSize = n <;> by_cases last' : ops.frameSize = n'
  · exact last.symm.trans last'
  · rw [if_pos last, if_neg last'] at second
    cases second
  · rw [if_neg last, if_pos last'] at second
    cases second
  · rw [if_neg last, if_neg last', Option.some_inj, UInt32.add_right_inj] at second
    exact second

/-- Two legs carry the same numbers and timestamps exactly when they start alike and are cut alike. -/
theorem fields_eq_iff (someSample : ops.frameSize ≠ 0) (someSamples : self.rtpStreamInfo.maxSamplesPerPacket ≠ 0)
    (someSamples' : self'.rtpStreamInfo.maxSamplesPerPacket ≠ 0) :
    ((outgoingPieces self ops seqNum).map fun p => some (mtalSwap16 p.seqNum, mtalSwap32 (p.timestamp s))) =
        ((outgoingPieces self' ops seqNum').map fun p => some (mtalSwap16 p.seqNum, mtalSwap32 (p.timestamp s'))) ↔
      s.rtpStreamInfo.rtpTimestampOffset = s'.rtpStreamInfo.rtpTimestampOffset ∧ seqNum = seqNum' ∧
        min self.rtpStreamInfo.maxSamplesPerPacket ops.frameSize =
          min self'.rtpStreamInfo.maxSamplesPerPacket ops.frameSize := by
  constructor
  · obtain ⟨fuel, isFuel⟩ := Nat.exists_eq_succ_of_ne_zero fun zero => someSample (UInt32.toNat_inj.mp zero)
    unfold outgoingPieces
    rw [isFuel, framePieces, framePieces, if_neg someSample, if_neg someSample, List.map_cons, List.map_cons]
    intro same
    obtain ⟨first, later⟩ := List.cons.inj same
    obtain ⟨swapped, swappedTime⟩ := Prod.mk.inj (Option.some.inj first)
    have number : seqNum = seqNum' := by simpa using congrArg mtalSwap16 swapped
    have time := congrArg mtalSwap32 swappedTime
    rw [mtalSwap32_swap32, mtalSwap32_swap32, Piece.timestamp, Piece.timestamp, UInt64.toUInt32_add,
      UInt64.toUInt32_add, UInt32.toUInt32_toUInt64, UInt32.toUInt32_toUInt64, UInt32.add_right_inj] at time
    refine ⟨time, number, ?_⟩
    clear first swapped swappedTime same
    obtain ⟨positive, -, inFrame, left, -⟩ := roundSamples someSamples someSample
    obtain ⟨positive', -, inFrame', left', -⟩ := roundSamples someSamples' someSample
    generalize min self.rtpStreamInfo.maxSamplesPerPacket ops.frameSize = n at *
    generalize min self'.rtpStreamInfo.maxSamplesPerPacket ops.frameSize = n' at *
    have times := congrArg (List.map fun x => mtalSwap32 (x.getD (0, 0)).2) later
    simp only [List.map_map, Function.comp_def, Option.getD_some, mtalSwap32_swap32] at times
    exact eq_of_timestamps (by omega) (by omega) time times
  · rintro ⟨offset, rfl, size⟩
    have cut : outgoingPieces self ops seqNum = outgoingPieces self' ops seqNum :=
      framePieces_congr size _ (Nat.le_refl _) _ _ _
    simp only [cut, Piece.timestamp, offset]

end

namespace RTPStreamsManager

variable {m : RTPStreamsManager} {q t : StreamHandle} {ops : RTPAudioStreamOps}
  {frames : List (List (Option TransmittedPacket))}

theorem outgoing_head (someSample : ops.frameSize ≠ 0) (t : StreamHandle) :
    ∃ p rest, m.outgoing ops t = p :: rest ∧ p.sac = ops.globalSAC - ops.frameSize.toUInt64 := by
  have head : (m.outgoing ops t).head?.map (·.sac) = some (ops.globalSAC - ops.frameSize.toUInt64) :=
    (framePieces_head (Nat.le_refl _) _ _ _).trans (if_neg someSample)
  cases isOut : m.outgoing ops t with
  | nil => simp [isOut] at head
  | cons p rest => exact ⟨p, rest, rfl, by simpa [isOut] using head⟩

/-- What two calls send for a leg starts at one time twice. -/
theorem not_carries_twice {t' : StreamHandle} {out out' later : List (Option TransmittedPacket)}
    (someSample : ops.frameSize ≠ 0) (first : m.SentThrough ops q t out) (second : m.SentThrough ops q t' out') :
    ¬ CarriesFrame (m.stream q) ops (out ++ (out' ++ later)) := by
  rintro ⟨packets, isOut, -, covers⟩
  obtain ⟨p, rest, isFirst, -⟩ := m.outgoing_head someSample t
  obtain ⟨p', rest', isSecond, time⟩ := m.outgoing_head someSample t'
  unfold SentThrough at first second
  rw [isFirst] at first
  rw [isSecond] at second
  cases first with
  | @cons _ o _ outs _ _ =>
    cases second with
    | @cons _ o' _ outs' piece _ =>
      cases packets with
      | nil => cases isOut
      | cons packet packets =>
        obtain ⟨-, isLater⟩ := List.cons.inj isOut
        have inLater : o' ∈ packets.map some := by
          rw [← isLater]
          simp
        obtain ⟨packet', isPacket', rfl⟩ := List.mem_map.mp inLater
        have again := (piece.carries packet' rfl).1
        rw [Piece.timestamp, time] at again
        exact covers.startsOnce ops.frameSize.toNat_lt packet' isPacket' again

/-- A frame that is carried was sent through one call, with packets that fit. -/
theorem sender_of_carries {l : List StreamHandle} (someSample : ops.frameSize ≠ 0)
    (through : List.Forall₂ (m.SentThrough ops q) l frames)
    (carries : CarriesFrame (m.stream q) ops frames.flatten) :
    ∃ t, l = [t] ∧ ∀ p ∈ m.outgoing ops t, SizeFits (m.stream q) p.n := by
  cases through with
  | nil =>
    obtain ⟨packets, isOut, -, covers⟩ := carries
    rw [List.flatten_nil, eq_comm, List.map_eq_nil_iff] at isOut
    rw [isOut] at covers
    exact absurd (UInt32.toNat_inj.mp (show ops.frameSize.toNat = (0 : UInt32).toNat from covers)) someSample
  | @cons t out l frames first others =>
    cases others with
    | nil =>
      obtain ⟨packets, isOut, -⟩ := carries
      refine ⟨t, rfl, ?_⟩
      rw [List.flatten_cons, List.flatten_nil, List.append_nil] at isOut
      apply sizeFits_of_sent first
      rw [isOut]
      simp
    | cons second others =>
      rw [List.flatten_cons, List.flatten_cons] at carries
      exact absurd carries (not_carries_twice someSample first second)

def feeders (m : RTPStreamsManager) (q : StreamHandle) : List StreamHandle :=
  m.sourceOrdered.filter fun t => m.nicId t = 0 ∧ m.attached t = some q

theorem mem_feeders : t ∈ m.feeders q ↔ t ∈ m.sourceOrdered ∧ m.nicId t = 0 ∧ m.attached t = some q := by
  simp [feeders]

def sender (m : RTPStreamsManager) (q : StreamHandle) : StreamHandle :=
  if m.Leaves q then (m.feeders q).headD q else q

theorem sendsFor_iff (nic : m.nicId t = 0 ∨ m.nicId t = 1) :
    m.SendsFor q t ↔ (¬ m.Leaves q ∧ t = q) ∨ (m.nicId t = 0 ∧ m.attached t = some q) := by
  constructor
  · rintro ⟨speaks, rfl | isPartner⟩
    · exact .inl ⟨speaks, rfl⟩
    · exact .inr ⟨nic.resolve_right fun nic1 => speaks ⟨nic1, by rw [isPartner]; rfl⟩, isPartner⟩
  · rintro (⟨speaks, rfl⟩ | ⟨nic0, isPartner⟩)
    · exact ⟨speaks, .inl rfl⟩
    · refine ⟨?_, .inr isPartner⟩
      rintro ⟨nic1, -⟩
      rw [nic0] at nic1
      cases nic1

theorem filter_sendsFor (nics : ∀ t ∈ m.sourceOrdered, m.nicId t = 0 ∨ m.nicId t = 1) :
    (m.sourceOrdered.filter fun t => m.SendsFor q t) = m.sourceOrdered.filter fun t =>
      (¬ m.Leaves q ∧ t = q) ∨ (m.nicId t = 0 ∧ m.attached t = some q) :=
  List.filter_congr fun t listed => decide_eq_decide.mpr (sendsFor_iff (nics t listed))

theorem filter_eq_singleton {α : Type} [DecidableEq α] {l : List α} {a : α} {P : α → Prop} [DecidablePred P]
    (once : l.Nodup) (isIn : a ∈ l) (only : ∀ x ∈ l, P x ↔ x = a) : (l.filter fun x => P x) = [a] := by
  have same : (l.filter fun x => P x) = l.filter fun x => x = a :=
    List.filter_congr fun x isX => decide_eq_decide.mpr (only x isX)
  rw [same, List.filter_eq, List.count_eq_one_of_mem once isIn]
  rfl

/-- Exactly one call sends for a listed leg: the one leg that feeds it where it leaves its frames,
its own where none feeds it. -/
theorem one_sender_iff (nics : ∀ t ∈ m.sourceOrdered, m.nicId t = 0 ∨ m.nicId t = 1)
    (once : m.sourceOrdered.Nodup) (noSelf : m.attached q ≠ some q) (listed : q ∈ m.sourceOrdered) :
    (∃ t, (m.sourceOrdered.filter fun t => m.SendsFor q t) = [t]) ↔
      (m.feeders q).length = if m.Leaves q then 1 else 0 := by
  rw [filter_sendsFor nics]
  by_cases leaves : m.Leaves q
  · simp only [leaves, not_true_eq_false, false_and, false_or, if_true]
    exact List.length_eq_one_iff.symm
  · simp only [leaves, not_false_eq_true, true_and, if_false]
    constructor
    · rintro ⟨t, isOne⟩
      rw [List.length_eq_zero_iff]
      apply List.eq_nil_iff_forall_not_mem.mpr
      intro f feeds
      obtain ⟨isListed, nic0, isPartner⟩ := mem_feeders.mp feeds
      have own : q ∈ [t] := by
        rw [← isOne]
        simp [listed]
      have fed : f ∈ [t] := by
        rw [← isOne]
        simp [isListed, nic0, isPartner]
      rw [List.mem_singleton.mp fed, ← List.mem_singleton.mp own] at isPartner
      exact noSelf isPartner
    · intro none
      have unfed : ∀ t ∈ m.sourceOrdered, ¬ (m.nicId t = 0 ∧ m.attached t = some q) := by
        intro t isListed feeds
        have isFeeder : t ∈ m.feeders q := mem_feeders.mpr ⟨isListed, feeds⟩
        rw [List.length_eq_zero_iff.mp none] at isFeeder
        cases isFeeder
      refine ⟨q, filter_eq_singleton once listed ?_⟩
      intro t isListed
      simp [unfed t isListed]

theorem eq_sender (nics : ∀ t ∈ m.sourceOrdered, m.nicId t = 0 ∨ m.nicId t = 1)
    (listed : q ∈ m.sourceOrdered) (one : (m.sourceOrdered.filter fun t => m.SendsFor q t) = [t]) :
    t = m.sender q := by
  by_cases leaves : m.Leaves q
  · rw [filter_sendsFor nics] at one
    simp only [leaves, not_true_eq_false, false_and, false_or] at one
    rw [sender, if_pos leaves, feeders, one]
    rfl
  · have own : q ∈ [t] := by
      rw [← one]
      simp [listed, SendsFor, leaves]
    rw [sender, if_neg leaves]
    exact (List.mem_singleton.mp own).symm

/-- After calls that keep the attachments right, each leg is left to one call. -/
theorem Attached.fed (attached : m.Attached) (c : m.Consistent) (listed : q ∈ m.sourceOrdered) :
    (m.feeders q).length = if m.Leaves q then 1 else 0 := by
  have active : ∀ t ∈ m.sourceOrdered, m.Active t := fun t isListed => (c.source t isListed).2.1
  have nic1 : ∀ t ∈ m.sourceOrdered, m.nicId t ≠ 0 → m.nicId t = 1 := fun t isListed notZero =>
    (c.nics t isListed).resolve_left notZero
  have back : ∀ t ∈ m.feeders q, t ∈ m.sourceOrdered ∧ m.attached q = some t ∧ m.Leaves q := by
    intro t feeds
    obtain ⟨isListed, nic0, isPartner⟩ := mem_feeders.mp feeds
    obtain ⟨-, fits, mutual_⟩ := attached t (active t isListed) q isPartner
    refine ⟨isListed, mutual_, nic1 q listed ?_, by rw [mutual_]; rfl⟩
    rw [← nic0]
    exact fits.nicId
  by_cases leaves : m.Leaves q
  · obtain ⟨p, isPartner⟩ := Option.isSome_iff_exists.mp leaves.2
    obtain ⟨-, fits, mutual_⟩ := attached q (active q listed) p isPartner
    have isListed : p ∈ m.sourceOrdered := by
      refine fits.listed.resolve_right ?_
      rintro ⟨nic, sink⟩
      have kind := fits.isSource
      rw [isSource, isSource, (c.sink nic p sink).2.2.2.sink, (c.source q listed).2.2.source] at kind
      cases kind
    have nic0 : m.nicId p = 0 := (c.nics p isListed).resolve_right fun nic1 => fits.nicId (by rw [nic1, leaves.1])
    have one : m.feeders q = [p] := by
      apply filter_eq_singleton c.sourceOnce isListed
      intro t isIn
      constructor
      · rintro ⟨nic0, isPartner'⟩
        have mutual' := (attached t (active t isIn) q isPartner').2.2
        rw [isPartner, Option.some_inj] at mutual'
        exact mutual'.symm
      · rintro rfl
        exact ⟨nic0, mutual_⟩
    rw [if_pos leaves, one]
    rfl
  · have none : m.feeders q = [] :=
      List.eq_nil_iff_forall_not_mem.mpr fun t feeds => leaves (back t feeds).2.2
    rw [if_neg leaves, none]
    rfl

/-- The frame of every listed source goes out once on its own NIC, numbered alike on both legs of a pair. -/
structure SentOnce (m : RTPStreamsManager) (ops : RTPAudioStreamOps) (log : SendLog) : Prop where
  frame : ∀ h ∈ m.sourceOrdered, CarriesFrame (m.stream h) ops (sentBy log h)
  alike : ∀ h ∈ m.sourceOrdered, ∀ p ∈ m.sourceOrdered, m.attached h = some p →
    (sentBy log p).map rtpFields = (sentBy log h).map rtpFields

/-- The attachments leave every listed leg to one call, the packets of that call pass the size test on
the leg and are written in place, and the legs of a pair are numbered and cut alike. -/
structure SendsEachOnce (m : RTPStreamsManager) (ops : RTPAudioStreamOps) : Prop where
  fed : ∀ q ∈ m.sourceOrdered, (m.feeders q).length = if m.Leaves q then 1 else 0
  sized : ∀ q ∈ m.sourceOrdered, ∀ p ∈ m.outgoing ops (m.sender q), SizeFits (m.stream q) p.n
  harmless : ∀ t ∈ m.sourceOrdered, m.CallHarmless ops t
  alike : ∀ h ∈ m.sourceOrdered, ∀ p ∈ m.sourceOrdered, m.attached h = some p →
    (m.stream p).rtpStreamInfo.rtpTimestampOffset = (m.stream h).rtpStreamInfo.rtpTimestampOffset ∧
      (m.stream (m.sender p)).outgoingSeqNum = (m.stream (m.sender h)).outgoingSeqNum ∧
      min (m.stream (m.sender p)).rtpStreamInfo.maxSamplesPerPacket ops.frameSize =
        min (m.stream (m.sender h)).rtpStreamInfo.maxSamplesPerPacket ops.frameSize

section

variable {m' : RTPStreamsManager} {livesOut : RingMemory} {log : SendLog}

theorem enterAll_stream (m : RTPStreamsManager) :
    (m.sourceOrdered.foldl readerEnter m).stream = m.stream := by
  funext h
  rw [stream, (enterAll m.sourceOrdered m).handler, stream]

section

variable (same : m'.stream = m.stream)
include same

theorem sentThrough_of_stream : m'.SentThrough = m.SentThrough := by
  funext ops q t out
  rw [SentThrough, SentThrough, outgoing, outgoing, same]

theorem sendsFor_of_stream : m'.SendsFor = m.SendsFor := by
  funext q t
  rw [SendsFor, SendsFor, Leaves, Leaves, nicId, nicId, attached, attached, same]

theorem callHarmless_of_stream : m'.CallHarmless = m.CallHarmless := by
  funext ops t
  rw [CallHarmless, CallHarmless, Leaves, Leaves, nicId, nicId, outgoing, outgoing, attached, attached, same]

end

/-- What one pass puts on a leg: the frames of all calls that send on it, in order. -/
theorem pass_sent (c : m.Consistent) (run : m.sendOutgoingPackets ops true livesOut = .ok (m', log))
    (q : StreamHandle) :
    ∃ frames, List.Forall₂ (m.SentThrough ops q) (m.sourceOrdered.filter fun t => m.SendsFor q t) frames ∧
      sentBy log q = frames.flatten := by
  obtain ⟨⟨m1, log1⟩, pass, last⟩ := bind_eq_ok.mp run
  cases last
  have streams := enterAll_stream m
  have sent := sendEach_sent c.sourceOnce (fun h => by rw [attached, streams]; exact c.noSelf h)
    (fun h listed => by rw [streams]; exact (c.source h listed).2.2) pass q
  simpa only [sentThrough_of_stream streams, sendsFor_of_stream streams] using sent

theorem pass_succeeds_iff (livesOut : RingMemory) (c : m.Consistent)
    (position : RingPosition ops ops.playbackBufferOffset ops.frameSize) :
    Succeeds (m.sendOutgoingPackets ops true livesOut) ↔ ∀ t ∈ m.sourceOrdered, m.CallHarmless ops t := by
  have streams := enterAll_stream m
  have each := sendEach_succeeds_iff livesOut c.sourceOnce
    (fun h => by rw [attached, streams]; exact c.noSelf h)
    (fun h listed => by rw [streams]; exact (c.source h listed).2.2) position
  rw [callHarmless_of_stream streams] at each
  rw [← each, sendOutgoingPackets, succeeds_bind]
  constructor
  · rintro ⟨done, pass, -⟩
    exact ⟨done, pass⟩
  · rintro ⟨done, pass⟩
    exact ⟨done, pass, succeeds_ok _⟩

/-- Where one call sends on a leg, that call's pieces are all that goes out on it. -/
theorem sent_by_sender (c : m.Consistent) (run : m.sendOutgoingPackets ops true livesOut = .ok (m', log))
    (listed : q ∈ m.sourceOrdered) (fed : (m.feeders q).length = if m.Leaves q then 1 else 0) :
    m.SentThrough ops q (m.sender q) (sentBy log q) ∧ m.sender q ∈ m.sourceOrdered ∧
      m.SendsFor q (m.sender q) := by
  obtain ⟨t, one⟩ := (one_sender_iff c.nics c.sourceOnce (c.noSelf q) listed).mpr fed
  have isSender := eq_sender c.nics listed one
  have isIn : t ∈ m.sourceOrdered.filter fun t => m.SendsFor q t := by
    rw [one]
    exact List.mem_singleton_self t
  obtain ⟨frames, through, isLog⟩ := pass_sent c run q
  rw [one] at through
  cases through with
  | cons first others =>
    cases others
    rw [List.flatten_cons, List.flatten_nil, List.append_nil] at isLog
    rw [← isSender, isLog]
    exact ⟨first, by simpa using isIn⟩

theorem sentOnce_of_sendsEachOnce (c : m.Consistent) (someSample : ops.frameSize ≠ 0)
    (can : m.SendsEachOnce ops) (run : m.sendOutgoingPackets ops true livesOut = .ok (m', log)) :
    m.SentOnce ops log := by
  have sent : ∀ q ∈ m.sourceOrdered, _ := fun q listed => sent_by_sender c run listed (can.fed q listed)
  have samples : ∀ q ∈ m.sourceOrdered, (m.stream (m.sender q)).rtpStreamInfo.maxSamplesPerPacket ≠ 0 :=
    fun q listed => (c.source _ (sent q listed).2.1).2.2.someSamples
  constructor
  · intro q listed
    obtain ⟨through, isListed, speaks, onLeg⟩ := sent q listed
    have inside : ∀ p ∈ m.outgoing ops (m.sender q),
        SizeFits (m.stream q) p.n ∧ CallsInside (m.stream q) ops p.offset p.n := by
      intro p isPiece
      have size := can.sized q listed p isPiece
      obtain ⟨own, other⟩ := can.harmless _ isListed speaks p isPiece
      rcases onLeg with isOwn | isPartner
      · rw [← isOwn] at own
        exact ⟨size, own size⟩
      · exact ⟨size, other _ (by rw [isPartner]; rfl) size⟩
    exact (outgoingPieces_rounds ops _ (samples q listed)).covers_sent (c.source q listed).2.2 through inside
  · intro h listed p isListed isPartner
    rw [rtpFields_sent (sent h listed).1 (can.sized h listed),
      rtpFields_sent (sent p isListed).1 (can.sized p isListed)]
    exact (fields_eq_iff someSample (samples p isListed) (samples h listed)).mpr
      (can.alike h listed p isListed isPartner)

theorem sendsEachOnce_of_sentOnce (c : m.Consistent)
    (position : RingPosition ops ops.playbackBufferOffset ops.frameSize) (someSample : ops.frameSize ≠ 0)
    (run : m.sendOutgoingPackets ops true livesOut = .ok (m', log)) (once : m.SentOnce ops log) :
    m.SendsEachOnce ops := by
  have one : ∀ q ∈ m.sourceOrdered, (m.feeders q).length = (if m.Leaves q then 1 else 0) ∧
      ∀ p ∈ m.outgoing ops (m.sender q), SizeFits (m.stream q) p.n := by
    intro q listed
    obtain ⟨frames, through, isLog⟩ := pass_sent c run q
    have carries := once.frame q listed
    rw [isLog] at carries
    obtain ⟨t, isOne, sized⟩ := sender_of_carries someSample through carries
    rw [eq_sender c.nics listed isOne] at sized
    exact ⟨(one_sender_iff c.nics c.sourceOnce (c.noSelf q) listed).mp ⟨t, isOne⟩, sized⟩
  have sent : ∀ q ∈ m.sourceOrdered, _ := fun q listed => sent_by_sender c run listed (one q listed).1
  have samples : ∀ q ∈ m.sourceOrdered, (m.stream (m.sender q)).rtpStreamInfo.maxSamplesPerPacket ≠ 0 :=
    fun q listed => (c.source _ (sent q listed).2.1).2.2.someSamples
  refine ⟨fun q listed => (one q listed).1, fun q listed => (one q listed).2,
    (pass_succeeds_iff livesOut c position).mp ⟨_, run⟩, ?_⟩
  intro h listed p isListed isPartner
  have alike := once.alike h listed p isListed isPartner
  rw [rtpFields_sent (sent h listed).1 (one h listed).2, rtpFields_sent (sent p isListed).1 (one p isListed).2] at alike
  exact (fields_eq_iff someSample (samples p isListed) (samples h listed)).mp alike

theorem outgoing_empty (none : ops.frameSize = 0) (t : StreamHandle) : m.outgoing ops t = [] := by
  rw [outgoing, outgoingPieces, none]
  rfl

theorem sentOnce_of_empty (c : m.Consistent) (none : ops.frameSize = 0)
    (run : m.sendOutgoingPackets ops true livesOut = .ok (m', log)) : m.SentOnce ops log := by
  have nothing : ∀ q, sentBy log q = [] := by
    intro q
    obtain ⟨frames, through, isLog⟩ := pass_sent c run q
    rw [isLog, List.flatten_eq_nil_iff]
    have empty : ∀ t out, m.SentThrough ops q t out → out = [] := by
      intro t out isOut
      rwa [SentThrough, outgoing_empty none, List.forall₂_nil_left_iff] at isOut
    generalize (m.sourceOrdered.filter fun t => m.SendsFor q t) = l at through
    clear isLog
    induction through with
    | nil => simp
    | cons first _ ih => exact List.forall_mem_cons.mpr ⟨empty _ _ first, ih⟩
  constructor
  · intro q _
    rw [nothing]
    exact ⟨[], rfl, by simp, by rw [none]; rfl⟩
  · intro h _ p _ _
    rw [nothing, nothing]

end

def orphaned : RTPStreamsManager := ((withSources [0, 1]).removeRTPStream oneLiveOutOps (.source 0)).1

end RTPStreamsManager

end RavennaLkm
