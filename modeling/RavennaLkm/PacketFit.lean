import RavennaLkm.TransmitSpec

/-!
Every packet of an accepted source against the 1514 bytes of its buffer and the
lengths of its own headers. `is_valid` bounds a product of the announced word
length; the converter writes the word length of the codec.
-/
namespace RavennaLkm
open CheckedLoop LittleEndian

def PacketFits (p : TransmittedPacket) : Prop :=
  ∃ audio, (mtalSwap16 p.header.ipv4Header.len).toNat = 40 + audio ∧
    (mtalSwap16 p.header.udpHeader.len).toNat = 20 + audio ∧
    p.size.toNat = sizeofRTPPacketBase + audio ∧
    sizeofRTPPacketBase + audio ≤ ethernetStandardFrameSize ∧
    ∀ a, (p.bytes a).isSome = true ↔ a < sizeofRTPPacketBase + audio

/-- One call sends every packet of the frame, on both legs, and each of them fits. -/
def FrameFits (self : RTPAudioStream) (partner : Option RTPAudioStream) (ops : RTPAudioStreamOps)
    (livesOut : RingMemory) : Prop :=
  ∃ done, sendRTPAudioPackets self partner ops true livesOut = .ok done ∧
    ∀ out ∈ done.sent ++ done.partnerSent, ∃ p, out = some p ∧ PacketFits p

theorem writeBytes_isSome (packet : PacketBuffer) (pos : Nat) (bytes : List UInt8) (a : Nat) :
    (writeBytes packet pos bytes a).isSome = true ↔
      (pos ≤ a ∧ a < pos + bytes.length) ∨ (packet a).isSome = true := by
  unfold writeBytes
  split
  · rename_i inside
    rw [List.getElem?_eq_getElem (by omega)]
    simp only [inside, Option.isSome_some, and_self, true_or]
  · rename_i outside
    simp only [outside, false_or]

theorem emit_eq_ok {capacity : Nat} {bytes : List UInt8} {c c' : OutCursor}
    (done : emit capacity bytes c = .ok c') :
    (bytes = [] ∨ c.out + bytes.length ≤ capacity) ∧
      c' = ⟨c.out + bytes.length, writeBytes c.packet c.out bytes⟩ := by
  unfold emit at done
  split at done
  · rename_i room
    cases done
    exact ⟨room, rfl⟩
  · cases done

theorem header_of_writeBytes {nicId : UInt8} {size : UInt32} (header : RTPPacketBase)
    (packet : PacketBuffer) (audio : List UInt8) :
    TransmittedPacket.header ⟨nicId, size, writeBytes packet 0 (header.bytes ++ audio)⟩ = header := by
  apply RTPPacketBase.ofBytes_of_holds
  apply holds_of_getElem
  intro k below
  have inside : k < (header.bytes ++ audio).length := by
    rw [List.length_append]
    omega
  simp only [TransmittedPacket.byte, writeBytes, Nat.zero_add, Nat.zero_le, inside, and_self, if_true,
    Nat.sub_zero, List.getElem?_append_left below, List.getElem?_eq_getElem below, Option.getD_some]

theorem piecePacket_header (s : RTPAudioStream) (ops : RTPAudioStreamOps) (livesOut : RingMemory)
    (p : Piece) : (piecePacket s ops livesOut p).header =
      packetHeader s (packetSize s p.n) (p.sac + s.rtpStreamInfo.rtpTimestampOffset.toUInt64).toUInt32
        p.seqNum :=
  header_of_writeBytes ..

section
variable {s : RTPAudioStream} {ops : RTPAudioStreamOps} {livesOut : RingMemory} {n : UInt32}

theorem ipLength {size : UInt32} {audio : Nat} (isSize : size.toNat = 54 + audio) (small : audio ≤ 1460) :
    (size.toUInt16 - UInt16.ofNat sizeofEthernetHeader).toNat = 40 + audio ∧
      (size.toUInt16 - UInt16.ofNat sizeofEthernetHeader - UInt16.ofNat sizeofIPV4Header).toNat =
        20 + audio := by
  simp only [UInt16.toNat_sub, UInt32.toNat_toUInt16, UInt16.toNat_ofNat', isSize,
    sizeofEthernetHeader, sizeofIPV4Header]
  omega

theorem length_audio (f : MappedToInterleave) (s : RTPAudioStream) (ops : RTPAudioStreamOps)
    (livesOut : RingMemory) (offset n : UInt32) :
    (frontBytes f s ops livesOut offset n ++ backBytes f s ops livesOut offset n).length =
      n.toNat * (s.rtpStreamInfo.nbOfChannels.toNat * f.width) := by
  rw [List.length_append, length_frontBytes, length_backBytes, ← Nat.add_mul, frontSamples_add_back]

theorem piecePacket_fits {p : Piece} (ready : ReadyLeg p.n s) : PacketFits (piecePacket s ops livesOut p) := by
  obtain ⟨f, codec⟩ := ready.accepted.someConverter
  obtain ⟨width, room⟩ := ready.fits
  have isF : converter s = f := by rw [converter, codec, Option.getD_some]
  have width : f.width = s.rtpStreamInfo.wordLength.toNat := by simpa [codec] using width
  have limit : rtpMaxPayloadSize.toNat = 1460 := rfl
  have size := ready.accepted.packetSize_toNat (by omega : p.n.toNat * _ < 2 ^ 32 - 54)
  have audio := length_audio f s ops livesOut p.offset p.n
  rw [width] at audio
  obtain ⟨ip, udp⟩ := ipLength size (by omega)
  refine ⟨_, ?_, ?_, size, ?_, ?_⟩
  · rw [piecePacket, audioPacket, header_of_writeBytes, packetHeader, mtalSwap16_swap16, ip]
  · rw [piecePacket, audioPacket, header_of_writeBytes, packetHeader, mtalSwap16_swap16, udp]
  · simp only [sizeofRTPPacketBase, ethernetStandardFrameSize]
    omega
  · intro a
    rw [piecePacket, audioPacket, writeBytes_isSome, List.length_append, isF, audio,
      RTPPacketBase.length_bytes]
    simp

end

/-- Two pieces of `y` bytes a sample, the second placed as if they had `x`, fill `x` bytes a
sample exactly when the two agree. -/
theorem pieces_agree {front back x y : Nat} (someSample : 0 < front + back)
    (filled : ∀ a, a < front * y ∨ (front * x ≤ a ∧ a < front * x + back * y) ↔
      a < (front + back) * x) : x = y := by
  have total := Nat.add_mul front back x
  rcases Nat.lt_trichotomy x y with less | same | more
  · have past := mt (filled ((front + back) * x)).mp (Nat.lt_irrefl _)
    rcases Nat.eq_zero_or_pos back with none | some
    · have wide := Nat.mul_lt_mul_of_pos_left less (by omega : 0 < front)
      simp only [none, Nat.zero_mul] at past total
      omega
    · have wide := Nat.mul_lt_mul_of_pos_left less some
      omega
  · exact same
  · have total' := Nat.add_mul front back y
    rcases Nat.eq_zero_or_pos front with none | some
    · have wide := Nat.mul_lt_mul_of_pos_left more (by omega : 0 < back)
      have missed := (filled (back * y)).mpr
      simp only [none, Nat.zero_mul, Nat.zero_add] at missed total
      omega
    · have wide := Nat.mul_lt_mul_of_pos_left more some
      have missed := (filled (front * y)).mpr
      omega

def sampleBytes (s : RTPAudioStream) (width : Nat) : Nat := s.rtpStreamInfo.nbOfChannels.toNat * width

/-- The bytes of a packet that was sent: its header and the two pieces the converter wrote. -/
theorem filled_of_send {s s' : RTPAudioStream} {f : MappedToInterleave} {ops : RTPAudioStreamOps}
    {livesOut : RingMemory} {sac : UInt64} {offset n : UInt32} {seqNum : UInt16}
    {p : TransmittedPacket} (accepted : AcceptedSource s)
    (codec : convertMappedToInterleave s.rtpStreamInfo.codec = some f)
    (position : RingPosition ops offset n)
    (sent : sendRTPAudioPacket s ops true livesOut sac offset n seqNum = .ok (s', some p)) :
    let front := (frontSamples ops offset n).toNat * sampleBytes s f.width
    let back := (n - frontSamples ops offset n).toNat * sampleBytes s f.width
    p.size = packetSize s n ∧ (front = 0 ∨ 54 + front ≤ 1514) ∧
      (back = 0 ∨ 54 + backStart s ops offset n + back ≤ 1514) ∧
      ∀ a, (p.bytes a).isSome = true ↔ a < 54 ∨ (54 + backStart s ops offset n ≤ a ∧
        a < 54 + backStart s ops offset n + back) ∨ (54 ≤ a ∧ a < 54 + front) := by
  rw [sendRTPAudioPacket_eq, accepted.convertPieces_eq codec livesOut position] at sent
  split at sent
  · cases sent
  obtain ⟨packet, converted, built⟩ := bind_eq_ok.mp sent
  obtain ⟨c, front, back⟩ := bind_eq_ok.mp converted
  cases written : emit ethernetStandardFrameSize (backBytes f s ops livesOut offset n)
      ⟨sizeofRTPPacketBase + backStart s ops offset n, c.packet⟩ with
  | error e => simp [written] at back
  | ok c' =>
    rw [written] at back
    cases back
    cases built
    obtain ⟨frontRoom, rfl⟩ := emit_eq_ok front
    obtain ⟨backRoom, rfl⟩ := emit_eq_ok written
    rw [← List.length_eq_zero_iff, length_frontBytes] at frontRoom
    rw [← List.length_eq_zero_iff, length_backBytes] at backRoom
    refine ⟨rfl, frontRoom, backRoom, ?_⟩
    intro a
    simp only [writeBytes_isSome, RTPPacketBase.length_bytes, length_frontBytes, length_backBytes,
      sizeofRTPPacketBase, sampleBytes, Option.isSome_none, Bool.false_eq_true, or_false, Nat.zero_le,
      true_and, Nat.zero_add]
    omega

theorem fits_of_send {s s' : RTPAudioStream} {ops : RTPAudioStreamOps} {livesOut : RingMemory}
    {sac : UInt64} {offset n : UInt32} {seqNum : UInt16} {p : TransmittedPacket}
    (accepted : AcceptedSource s) (position : RingPosition ops offset n) (someSample : n ≠ 0)
    (sent : sendRTPAudioPacket s ops true livesOut sac offset n seqNum = .ok (s', some p))
    (fits : PacketFits p) : LegFits n s := by
  obtain ⟨f, codec⟩ := accepted.someConverter
  obtain ⟨audio, -, -, size, room, filled⟩ := fits
  obtain ⟨isSize, frontRoom, backRoom, written⟩ := filled_of_send accepted codec position sent
  have total := frontSamples_add_back ops offset n
  have nPositive : 0 < n.toNat := Nat.pos_of_ne_zero fun zero => someSample (UInt32.toNat_inj.mp zero)
  have word := s.rtpStreamInfo.wordLength.toNat_lt
  have channels : 0 < s.rtpStreamInfo.nbOfChannels.toNat :=
    Nat.pos_of_ne_zero fun zero => accepted.valid.someChannel (UInt8.toNat_inj.mp zero)
  have narrow : sampleBytes s s.rtpStreamInfo.wordLength.toNat ≤ 255 * sampleBytes s f.width := by
    unfold sampleBytes
    rw [Nat.mul_left_comm]
    exact Nat.mul_le_mul_left _ (by have := f.width_pos; omega)
  simp only [sizeofRTPPacketBase, ethernetStandardFrameSize] at size room filled
  generalize isFront : (frontSamples ops offset n).toNat = front at *
  generalize isBack : (n - frontSamples ops offset n).toNat = back at *
  have frontSmall : front * sampleBytes s s.rtpStreamInfo.wordLength.toNat ≤ 255 * 1460 :=
    calc _ ≤ front * (255 * sampleBytes s f.width) := Nat.mul_le_mul_left _ narrow
      _ = 255 * (front * sampleBytes s f.width) := Nat.mul_left_comm ..
      _ ≤ 255 * 1460 := Nat.mul_le_mul_left _ (by omega)
  have backSmall : back * sampleBytes s s.rtpStreamInfo.wordLength.toNat ≤ 255 * 1460 :=
    calc _ ≤ back * (255 * sampleBytes s f.width) := Nat.mul_le_mul_left _ narrow
      _ = 255 * (back * sampleBytes s f.width) := Nat.mul_left_comm ..
      _ ≤ 255 * 1460 := Nat.mul_le_mul_left _ (by omega)
  have sum := Nat.add_mul front back (sampleBytes s s.rtpStreamInfo.wordLength.toNat)
  rw [total] at sum
  have announced := accepted.packetSize_toNat
    (show n.toNat * sampleBytes s s.rtpStreamInfo.wordLength.toNat < _ by omega)
  have start := backStart_toNat s ops offset n
    (show _ * sampleBytes s s.rtpStreamInfo.wordLength.toNat < _ by rw [isFront]; omega)
  rw [← sampleBytes] at announced start
  rw [isFront] at start
  rw [isSize, announced] at size
  have agree : sampleBytes s s.rtpStreamInfo.wordLength.toNat = sampleBytes s f.width := by
    apply pieces_agree (by omega : 0 < front + back)
    intro a
    have here := (written (54 + a)).symm.trans (filled (54 + a))
    rw [total]
    omega
  have width : s.rtpStreamInfo.wordLength.toNat = f.width := Nat.eq_of_mul_eq_mul_left channels agree
  refine ⟨by rw [codec, Option.map_some, width], ?_⟩
  rw [← sampleBytes]
  change _ ≤ 1460
  omega

theorem sendRound_sent {ops : RTPAudioStreamOps} {skb : Bool} {livesOut : RingMemory}
    {st st' : SendState} (round : sendRound ops skb livesOut st = .ok st') :
    let n := min st.stream.rtpStreamInfo.maxSamplesPerPacket st.remaining
    (∃ s' out, sendRTPAudioPacket st.stream ops skb livesOut st.currentSAC st.offset n
        st.stream.outgoingSeqNum = .ok (s', out) ∧ st'.sent = st.sent ++ [out]) ∧
      ((st.partner = none ∧ st'.partnerSent = st.partnerSent) ∨
        ∃ partner s' out, st.partner = some partner ∧
          sendRTPAudioPacket partner ops skb livesOut st.currentSAC st.offset n
            st.stream.outgoingSeqNum = .ok (s', out) ∧
          st'.partnerSent = st.partnerSent ++ [out]) := by
  obtain ⟨⟨s', out⟩, sent, rest⟩ := bind_eq_ok.mp round
  obtain ⟨st1, partnerSent, last⟩ := bind_eq_ok.mp rest
  cases last
  unfold sendPartnerPacket at partnerSent
  cases isPartner : st.partner with
  | none =>
    simp only [isPartner] at partnerSent
    cases partnerSent
    exact ⟨⟨s', out, sent, rfl⟩, .inl ⟨rfl, rfl⟩⟩
  | some partner =>
    simp only [isPartner] at partnerSent
    obtain ⟨⟨p', out'⟩, sent', last⟩ := bind_eq_ok.mp partnerSent
    cases last
    exact ⟨⟨s', out, sent, rfl⟩, .inr ⟨partner, p', out', rfl, sent', rfl⟩⟩

theorem sendLoop_sent {ops : RTPAudioStreamOps} {skb : Bool} {livesOut : RingMemory} {fuel : Nat}
    {st done : SendState} (run : sendLoop ops skb livesOut fuel st = .ok done) :
    st.sent ++ st.partnerSent ⊆ done.sent ++ done.partnerSent := by
  induction fuel generalizing st with
  | zero =>
    rw [sendLoop] at run
    split at run <;> cases run
    exact List.Subset.refl _
  | succ fuel ih =>
    rw [sendLoop] at run
    split at run
    · cases run
      exact List.Subset.refl _
    · obtain ⟨st1, round, rest⟩ := bind_eq_ok.mp run
      obtain ⟨⟨_, _, -, sent⟩, partner⟩ := sendRound_sent round
      refine List.Subset.trans ?_ (ih rest)
      intro out isSent
      rw [List.mem_append] at isSent ⊢
      rw [sent, List.mem_append]
      refine isSent.imp .inl fun onPartner => ?_
      rcases partner with ⟨-, same⟩ | ⟨_, _, _, -, -, more⟩
      · rwa [same]
      · rw [more]
        exact List.mem_append_left _ onPartner

theorem RingPosition.start (self : RTPAudioStream) (partner : Option RTPAudioStream)
    {ops : RTPAudioStreamOps} (position : RingPosition ops ops.playbackBufferOffset ops.frameSize) :
    RingPosition ops (sendStart self partner ops).offset ops.frameSize := by
  have zero : ops.globalSAC - ops.frameSize.toUInt64 - (ops.globalSAC - ops.frameSize.toUInt64) = 0 :=
    UInt64.sub_self _
  have bound := ops.frameSize.toNat_lt
  simp only [sendStart, getLiveOutJitterBufferOffset, zero]
  split
  · exact .inr (by simpa using bound)
  · simpa using position

def outgoingPieces (self : RTPAudioStream) (ops : RTPAudioStreamOps) (seqNum : UInt16) : List Piece :=
  framePieces ops self.rtpStreamInfo.maxSamplesPerPacket ops.frameSize.toNat ops.frameSize
    (ops.globalSAC - ops.frameSize.toUInt64)
    (getLiveOutJitterBufferOffset ops (ops.globalSAC - ops.frameSize.toUInt64)) seqNum

theorem outgoingPieces_rounds {self : RTPAudioStream} (ops : RTPAudioStreamOps) (seqNum : UInt16)
    (someSamples : self.rtpStreamInfo.maxSamplesPerPacket ≠ 0) :
    Rounds ops self.rtpStreamInfo.maxSamplesPerPacket ops.frameSize.toNat (ops.globalSAC - ops.frameSize.toUInt64)
      (getLiveOutJitterBufferOffset ops (ops.globalSAC - ops.frameSize.toUInt64)) seqNum
      (outgoingPieces self ops seqNum) :=
  framePieces_rounds ops someSamples _ _ _ _ _ (Nat.le_refl _)

theorem sendRTPAudioPackets_of_ready (self : RTPAudioStream) (partner : Option RTPAudioStream)
    (ops : RTPAudioStreamOps) (livesOut : RingMemory)
    (speaks : ¬ (self.ethNetfilter.nicId = 1 ∧ partner.isSome = true))
    (position : RingPosition ops ops.playbackBufferOffset ops.frameSize)
    (ready : ReadyLeg (min self.rtpStreamInfo.maxSamplesPerPacket ops.frameSize) self)
    (partnerReady : ∀ s, partner = some s →
      ReadyLeg (min self.rtpStreamInfo.maxSamplesPerPacket ops.frameSize) s) :
    ∃ done, sendRTPAudioPackets self partner ops true livesOut = .ok done ∧
      done.sent = legPackets (some self) ops livesOut (outgoingPieces self ops self.outgoingSeqNum) ∧
      done.partnerSent = legPackets partner ops livesOut (outgoingPieces self ops self.outgoingSeqNum) := by
  obtain ⟨done, run, -, -, -, sent, partnerSent⟩ := sendLoop_of_ready livesOut
    ops.frameSize.toNat (sendStart self partner ops) (Nat.le_refl _) ready.accepted.someSamples
    (Nat.le_refl _) (position.start self partner) ready partnerReady
  rw [sendRTPAudioPackets, if_neg speaks]
  exact ⟨done, run, sent, partnerSent⟩

theorem legFits_of_frameFits {self : RTPAudioStream} {partner : Option RTPAudioStream}
    {ops : RTPAudioStreamOps} {livesOut : RingMemory} (accepted : AcceptedSource self)
    (partnerAccepted : ∀ s, partner = some s → AcceptedSource s)
    (position : RingPosition ops ops.playbackBufferOffset ops.frameSize)
    (someSample : ops.frameSize ≠ 0)
    (sends : ¬ (self.ethNetfilter.nicId = 1 ∧ partner.isSome = true))
    (fits : FrameFits self partner ops livesOut) :
    LegFits (min self.rtpStreamInfo.maxSamplesPerPacket ops.frameSize) self ∧
      ∀ s, partner = some s → LegFits (min self.rtpStreamInfo.maxSamplesPerPacket ops.frameSize) s := by
  obtain ⟨done, run, all⟩ := fits
  have framePositive : ops.frameSize.toNat ≠ 0 := fun zero => someSample (UInt32.toNat_inj.mp zero)
  obtain ⟨fuel, isFuel⟩ := Nat.exists_eq_succ_of_ne_zero framePositive
  rw [sendRTPAudioPackets, if_neg sends, isFuel, sendLoop,
    if_neg (show (sendStart self partner ops).remaining ≠ 0 from someSample)] at run
  obtain ⟨st1, round, rest⟩ := bind_eq_ok.mp run
  obtain ⟨⟨s', out, sent, isSent⟩, partnerRound⟩ := sendRound_sent round
  have later := sendLoop_sent rest
  have nPositive : min self.rtpStreamInfo.maxSamplesPerPacket ops.frameSize ≠ 0 := by
    intro zero
    have maxZero : self.rtpStreamInfo.maxSamplesPerPacket.toNat ≠ 0 := fun none =>
      accepted.someSamples (UInt32.toNat_inj.mp none)
    have isZero := congrArg UInt32.toNat zero
    rw [toNat_min] at isZero
    change min _ _ = 0 at isZero
    omega
  have atMost : (min self.rtpStreamInfo.maxSamplesPerPacket ops.frameSize).toNat ≤
      ops.frameSize.toNat := by
    rw [toNat_min]
    exact Nat.min_le_right _ _
  have inFrame := (position.start self partner).mono atMost
  constructor
  · obtain ⟨p, rfl, packetFits⟩ := all out (later (List.mem_append_left _ (by simp [isSent])))
    exact fits_of_send accepted inFrame nPositive sent packetFits
  · rintro s rfl
    rcases partnerRound with ⟨none, -⟩ | ⟨s1, s1', out', isS, sent', isSent'⟩
    · cases none
    · cases isS
      obtain ⟨p, rfl, packetFits⟩ := all out' (later (List.mem_append_right _ (by simp [isSent'])))
      exact fits_of_send (partnerAccepted _ rfl) inFrame nPositive sent' packetFits

theorem framePieces_le {ops : RTPAudioStreamOps} {maxSamples : UInt32} (fuel : Nat)
    (remaining : UInt32) (sac : UInt64) (offset : UInt32) (seqNum : UInt16) :
    ∀ p ∈ framePieces ops maxSamples fuel remaining sac offset seqNum,
      p.n.toNat ≤ (min maxSamples remaining).toNat := by
  induction fuel generalizing remaining sac offset seqNum with
  | zero => simp [framePieces]
  | succ fuel ih =>
    intro p isPiece
    rw [framePieces] at isPiece
    split at isPiece
    · simp at isPiece
    · rcases List.mem_cons.mp isPiece with rfl | later
      · exact Nat.le_refl _
      · have bound := ih _ _ _ _ p later
        have le : min maxSamples remaining ≤ remaining := by
          rw [UInt32.le_iff_toNat_le, toNat_min]
          exact Nat.min_le_right _ _
        rw [toNat_min, UInt32.toNat_sub_of_le _ _ le] at bound
        rw [toNat_min] at bound ⊢
        omega

theorem legPackets_fit {self : RTPAudioStream} {leg : Option RTPAudioStream} {ops : RTPAudioStreamOps}
    {livesOut : RingMemory} {seqNum : UInt16}
    (ready : ∀ s, leg = some s → ReadyLeg (min self.rtpStreamInfo.maxSamplesPerPacket ops.frameSize) s) :
    ∀ out ∈ legPackets leg ops livesOut (outgoingPieces self ops seqNum),
      ∃ p, out = some p ∧ PacketFits p := by
  intro out isOut
  cases leg with
  | none => simp [legPackets] at isOut
  | some s =>
    obtain ⟨p, isPiece, rfl⟩ := List.mem_map.mp isOut
    exact ⟨_, rfl, piecePacket_fits ((ready s rfl).mono (framePieces_le _ _ _ _ _ p isPiece))⟩

/-- Whether the frames of an accepted source fit is decided by the largest packet of each leg. -/
theorem frame_fits_iff {self : RTPAudioStream} {partner : Option RTPAudioStream}
    {ops : RTPAudioStreamOps} (livesOut : RingMemory) (accepted : AcceptedSource self)
    (partnerAccepted : ∀ s, partner = some s → AcceptedSource s)
    (position : RingPosition ops ops.playbackBufferOffset ops.frameSize) :
    FrameFits self partner ops livesOut ↔
      (self.ethNetfilter.nicId = 1 ∧ partner.isSome = true) ∨ ops.frameSize = 0 ∨
        (LegFits (min self.rtpStreamInfo.maxSamplesPerPacket ops.frameSize) self ∧
          ∀ s, partner = some s →
            LegFits (min self.rtpStreamInfo.maxSamplesPerPacket ops.frameSize) s) := by
  constructor
  · intro fits
    by_cases silent : self.ethNetfilter.nicId = 1 ∧ partner.isSome = true
    · exact .inl silent
    · by_cases none : ops.frameSize = 0
      · exact .inr (.inl none)
      · exact .inr (.inr (legFits_of_frameFits accepted partnerAccepted position none silent fits))
  · intro fits
    by_cases silent : self.ethNetfilter.nicId = 1 ∧ partner.isSome = true
    · exact ⟨_, by rw [sendRTPAudioPackets, if_pos silent], by simp [sendStart]⟩
    rcases fits with both | zero | ⟨selfFits, partnerFits⟩
    · exact absurd both silent
    · rw [FrameFits, sendRTPAudioPackets, if_neg silent, zero]
      exact ⟨sendStart self partner ops, if_pos zero, by simp [sendStart]⟩
    · have ready : ∀ s, partner = some s → ReadyLeg _ s := fun s isPartner =>
        ⟨partnerAccepted s isPartner, partnerFits s isPartner⟩
      obtain ⟨done, run, sent, partnerSent⟩ := sendRTPAudioPackets_of_ready self partner ops livesOut
        silent position ⟨accepted, selfFits⟩ ready
      refine ⟨done, run, ?_⟩
      intro out isOut
      rw [sent, partnerSent] at isOut
      rcases List.mem_append.mp isOut with onSelf | onPartner
      · exact legPackets_fit (by rintro s ⟨⟩; exact ⟨accepted, selfFits⟩) out onSelf
      · exact legPackets_fit ready out onPartner

def announcedSource (codec : Codec) (wordLength channels : UInt8) (maxSamples : UInt32) :
    RTPStreamInfo where
  sizeofStreamInfo := sizeofRTPStreamInfo
  cName := [114]
  frameSize := 48
  maxSamplesPerPacket := maxSamples
  rtcpSrcIP := 0x0A000001
  srcIP := 0x0A000001
  destIP := 0xEF000001
  destPort := 5004
  payloadType := 98
  samplingRate := 48000
  codec := codec
  wordLength := wordLength
  nbOfChannels := channels
  source := true
  routing := UInt32.ofNat

def liveOutOps : RTPAudioStreamOps where
  globalSAC := 4800
  frameSize := 48
  liveOutJitterBuffer := fun ch => if ch < 64 then some (ringBufferSize.toNat * ch.toNat) else none
  liveOutJitterBufferLength := ringBufferSize

def announcedStream (codec : Codec) (wordLength channels : UInt8) (maxSamples : UInt32) :
    RTPAudioStream :=
  (create {} (announcedSource codec wordLength channels maxSamples) liveOutOps {} (fun _ => {})).1

theorem frame_fits_iff_stereo :
    FrameFits (announcedStream .l24 3 2 48) none liveOutOps (fun _ => {}) ↔
      ((announcedStream .l24 3 2 48).ethNetfilter.nicId = 1 ∧
          (none : Option RTPAudioStream).isSome = true) ∨ liveOutOps.frameSize = 0 ∨
        (LegFits (min (announcedStream .l24 3 2 48).rtpStreamInfo.maxSamplesPerPacket
            liveOutOps.frameSize) (announcedStream .l24 3 2 48) ∧
          ∀ s, none = some s → LegFits (min (announcedStream .l24 3 2 48).rtpStreamInfo.maxSamplesPerPacket
            liveOutOps.frameSize) s) :=
  frame_fits_iff (fun _ => {}) (create_source (by decide) rfl rfl) (by simp) (.inl (by decide))

/-- AM824 writes four bytes a sample; announced as one byte, 48 samples of 8 channels pass
`is_valid` and are 1536 bytes behind the header. -/
theorem oneByteAM824_overflows :
    isValid (announcedSource .am824 1 8 48) = true ∧
      (create {} (announcedSource .am824 1 8 48) liveOutOps {} (fun _ => {})).2.2 = true ∧
      ¬ FrameFits (announcedStream .am824 1 8 48) none liveOutOps (fun _ => {}) := by
  refine ⟨by decide, rfl, fun fits => ?_⟩
  have leg := legFits_of_frameFits (create_source (by decide) rfl rfl) (by simp) (.inl (by decide))
    (by decide) (by simp) fits
  exact absurd leg.1 (by decide)

end RavennaLkm
