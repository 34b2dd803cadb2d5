import RavennaLkm.Transmit

/-!
What one call of the sending half does for a stream that `Create` accepted: the
audio of a packet is one block of bytes behind its header, and a frame is sent
in rounds that each take at least one sample.
-/
namespace RavennaLkm
open CheckedLoop LittleEndian Gather

/-- A source that passed `is_valid` and `Create`. -/
structure AcceptedSource (s : RTPAudioStream) : Prop where
  valid : Valid s.rtpStreamInfo
  source : s.rtpStreamInfo.source = true
  convert : s.mtConvertMappedToInterleave = convertMappedToInterleave s.rtpStreamInfo.codec
  converts : (convertMappedToInterleave s.rtpStreamInfo.codec).isSome = true
  rings : ∀ us < s.rtpStreamInfo.nbOfChannels.toNat, (s.livesOutCircularBuffer us).isSome = true

theorem create_source {self : RTPAudioStream} {info : RTPStreamInfo} {ops : RTPAudioStreamOps}
    {nf : EtherTubeNetfilter} {livesIn : RingMemory} (valid : isValid info = true)
    (source : info.source = true) (created : (create self info ops nf livesIn).2.2 = true) :
    AcceptedSource (create self info ops nf livesIn).1 := by
  have idle := ((create_succeeds_iff self info ops nf livesIn).mp created).1
  simp only [create, idle, source] at created ⊢
  obtain ⟨routed, converts⟩ := (createSource_succeeds_iff _ _ _).mp created
  have rings := (routeLivesOut_snd ops info self.livesOutCircularBuffer info.nbOfChannels.toNat).mpr routed
  obtain ⟨f, isF⟩ := Option.isSome_iff_exists.mp converts
  simp only [createSource, rings, isF, if_true, Bool.false_eq_true, if_false]
  refine ⟨isValid_valid valid, source, isF.symm, converts, ?_⟩
  intro us below
  exact (congrArg Option.isSome (routeLivesOut_fst rings us below)).trans (routed us below)

structure SameSource (s t : RTPAudioStream) : Prop where
  info : t.rtpStreamInfo = s.rtpStreamInfo
  nic : t.ethNetfilter = s.ethNetfilter
  template : t.rtpPacketBaseOutgoing = s.rtpPacketBaseOutgoing
  rings : t.livesOutCircularBuffer = s.livesOutCircularBuffer
  convert : t.mtConvertMappedToInterleave = s.mtConvertMappedToInterleave
  attached : t.attachedStream = s.attachedStream
  initialized : t.livesInitialized = s.livesInitialized
  livesIn : t.livesInCircularBuffer = s.livesInCircularBuffer
  convertIn : t.mtConvertInterleaveToMapped = s.mtConvertInterleaveToMapped

theorem SameSource.refl (s : RTPAudioStream) : SameSource s s :=
  ⟨rfl, rfl, rfl, rfl, rfl, rfl, rfl, rfl, rfl⟩

theorem SameSource.sameStream {s t : RTPAudioStream} (same : SameSource s t) : SameStream s t :=
  ⟨⟨_, _, same.info⟩, same.nic, same.attached, same.initialized, same.rings, same.livesIn,
    same.convert, same.convertIn⟩

theorem SameSource.trans {s t u : RTPAudioStream} (first : SameSource s t) (then_ : SameSource t u) :
    SameSource s u := by
  obtain ⟨_, _, _, _, _, _, _, _, _⟩ := first
  obtain ⟨_, _, _, _, _, _, _, _, _⟩ := then_
  constructor <;> simp_all only

theorem recordSent_same (s : RTPAudioStream) (currentSAC : UInt64) (n : UInt32) :
    SameSource s (recordSent s currentSAC n) := ⟨rfl, rfl, rfl, rfl, rfl, rfl, rfl, rfl, rfl⟩

theorem AcceptedSource.sameStream {s t : RTPAudioStream} (accepted : AcceptedSource s)
    (same : SameStream s t) : AcceptedSource t := by
  obtain ⟨valid, source, convert, converts, rings⟩ := accepted
  constructor
  · exact same.valid valid
  · rw [same.source]; exact source
  · rw [same.codec, same.convertOut]; exact convert
  · rw [same.codec]; exact converts
  · rw [same.nbOfChannels, same.livesOut]; exact rings

theorem AcceptedSource.same {s t : RTPAudioStream} (accepted : AcceptedSource s)
    (same : SameSource s t) : AcceptedSource t :=
  accepted.sameStream same.sameStream

def ringBase (s : RTPAudioStream) (ch : Nat) : Nat := (s.livesOutCircularBuffer ch).getD 0

namespace AcceptedSource

variable {s : RTPAudioStream} {f : MappedToInterleave}

theorem someConverter (accepted : AcceptedSource s) :
    ∃ f, convertMappedToInterleave s.rtpStreamInfo.codec = some f :=
  Option.isSome_iff_exists.mp accepted.converts

theorem ring (accepted : AcceptedSource s) {ch : Nat}
    (below : ch < s.rtpStreamInfo.nbOfChannels.toNat) :
    s.livesOutCircularBuffer ch = some (ringBase s ch) := by
  obtain ⟨base, isBase⟩ := Option.isSome_iff_exists.mp (accepted.rings ch below)
  rw [ringBase, isBase, Option.getD_some]

theorem someSamples (accepted : AcceptedSource s) : s.rtpStreamInfo.maxSamplesPerPacket ≠ 0 := by
  have size := accepted.valid.size accepted.source
  simp only [packetFits, Bool.and_eq_true, decide_eq_true_eq] at size
  exact size.1

theorem nbOfLivesOut (accepted : AcceptedSource s) :
    getNbOfLivesOut s = s.rtpStreamInfo.nbOfChannels.toUInt32 := by
  rw [getNbOfLivesOut, accepted.source, if_pos rfl]

theorem convertFromLivesOut_eq (accepted : AcceptedSource s)
    (codec : convertMappedToInterleave s.rtpStreamInfo.codec = some f) (livesOut : RingMemory)
    (offset n : UInt32) (c : OutCursor) :
    convertFromLivesOut s livesOut offset n c =
      emit ethernetStandardFrameSize
        (f.payload livesOut (ringBase s) offset s.rtpStreamInfo.nbOfChannels.toNat
          (sampleRounds offset n)) c := by
  rw [convertFromLivesOut, accepted.convert, codec, ← UInt8.toNat_toUInt32]
  exact f.call_eq_emit _ livesOut offset n c fun ch below =>
    accepted.ring (by rwa [UInt8.toNat_toUInt32] at below)

end AcceptedSource

/-- The ring index of a packet is inside the ring, or does not wrap within the rest of the frame. -/
def RingPosition (ops : RTPAudioStreamOps) (offset remaining : UInt32) : Prop :=
  offset < ops.liveOutJitterBufferLength ∨ offset.toNat + remaining.toNat < 2 ^ 32

def frontSamples (ops : RTPAudioStreamOps) (offset n : UInt32) : UInt32 :=
  min (ops.liveOutJitterBufferLength - offset) n

def frontBytes (f : MappedToInterleave) (s : RTPAudioStream) (ops : RTPAudioStreamOps)
    (livesOut : RingMemory) (offset n : UInt32) : List UInt8 :=
  f.payload livesOut (ringBase s) offset s.rtpStreamInfo.nbOfChannels.toNat
    (frontSamples ops offset n).toNat

def backBytes (f : MappedToInterleave) (s : RTPAudioStream) (ops : RTPAudioStreamOps)
    (livesOut : RingMemory) (offset n : UInt32) : List UInt8 :=
  f.payload livesOut (ringBase s) 0 s.rtpStreamInfo.nbOfChannels.toNat
    (n - frontSamples ops offset n).toNat

theorem frontSamples_le (ops : RTPAudioStreamOps) (offset n : UInt32) :
    (frontSamples ops offset n).toNat ≤ n.toNat := by
  rw [frontSamples, toNat_min]
  exact Nat.min_le_right _ _

theorem frontSamples_add_back (ops : RTPAudioStreamOps) (offset n : UInt32) :
    (frontSamples ops offset n).toNat + (n - frontSamples ops offset n).toNat = n.toNat := by
  have le := frontSamples_le ops offset n
  rw [UInt32.toNat_sub_of_le _ _ (UInt32.le_iff_toNat_le.mpr le)]
  omega

/-- A second piece only follows a first one that ends at the end of the ring. -/
theorem frontSamples_cases {ops : RTPAudioStreamOps} {offset n : UInt32}
    (position : RingPosition ops offset n) :
    (frontSamples ops offset n = n ∧ offset.toNat + n.toNat < 2 ^ 32) ∨
      offset.toNat + (frontSamples ops offset n).toNat = ops.liveOutJitterBufferLength.toNat := by
  have whole : n.toNat ≤ (ops.liveOutJitterBufferLength - offset).toNat →
      frontSamples ops offset n = n := by
    intro le
    apply UInt32.toNat_inj.mp
    rw [frontSamples, toNat_min, Nat.min_eq_right le]
  have front := toNat_min (ops.liveOutJitterBufferLength - offset) n
  have difference := UInt32.toNat_sub ops.liveOutJitterBufferLength offset
  have length := ops.liveOutJitterBufferLength.toNat_lt
  have bound := offset.toNat_lt
  rw [← frontSamples] at front
  by_cases inside : offset.toNat ≤ ops.liveOutJitterBufferLength.toNat
  · by_cases fits : offset.toNat + n.toNat ≤ ops.liveOutJitterBufferLength.toNat
    · exact .inl ⟨whole (by omega), by omega⟩
    · exact .inr (by omega)
  · have noWrap := position.resolve_left fun lt => inside (Nat.le_of_lt (UInt32.lt_iff_toNat_lt.mp lt))
    exact .inl ⟨whole (by omega), noWrap⟩

theorem sampleRounds_front {ops : RTPAudioStreamOps} {offset n : UInt32}
    (position : RingPosition ops offset n) :
    sampleRounds offset (frontSamples ops offset n) = (frontSamples ops offset n).toNat := by
  apply sampleRounds_of_noWrap
  have length := ops.liveOutJitterBufferLength.toNat_lt
  rcases frontSamples_cases position with ⟨all, noWrap⟩ | atEnd
  · rw [all]; exact noWrap
  · omega

theorem sampleRounds_back (n : UInt32) : sampleRounds 0 n = n.toNat :=
  sampleRounds_of_noWrap (by simpa using n.toNat_lt)

theorem length_frontBytes (f : MappedToInterleave) (s : RTPAudioStream) (ops : RTPAudioStreamOps)
    (livesOut : RingMemory) (offset n : UInt32) :
    (frontBytes f s ops livesOut offset n).length =
      (frontSamples ops offset n).toNat * (s.rtpStreamInfo.nbOfChannels.toNat * f.width) :=
  f.length_payload ..

theorem length_backBytes (f : MappedToInterleave) (s : RTPAudioStream) (ops : RTPAudioStreamOps)
    (livesOut : RingMemory) (offset n : UInt32) :
    (backBytes f s ops livesOut offset n).length =
      (n - frontSamples ops offset n).toNat * (s.rtpStreamInfo.nbOfChannels.toNat * f.width) :=
  f.length_payload ..

theorem toNat_of_not_pos {x : UInt32} (zero : ¬ x > 0) : x.toNat = 0 := by
  have le := mt UInt32.lt_iff_toNat_lt.mpr zero
  simpa using le

def backStart (s : RTPAudioStream) (ops : RTPAudioStreamOps) (offset n : UInt32) : Nat :=
  (frontSamples ops offset n * s.rtpStreamInfo.wordLength.toUInt32 *
    s.rtpStreamInfo.nbOfChannels.toUInt32).toNat

theorem AcceptedSource.convertPieces_eq {s : RTPAudioStream} {f : MappedToInterleave}
    (accepted : AcceptedSource s)
    (codec : convertMappedToInterleave s.rtpStreamInfo.codec = some f) {ops : RTPAudioStreamOps}
    (livesOut : RingMemory) {offset n : UInt32} (position : RingPosition ops offset n)
    (packet : PacketBuffer) :
    convertPieces s ops livesOut offset n packet =
      (emit ethernetStandardFrameSize (frontBytes f s ops livesOut offset n)
        ⟨sizeofRTPPacketBase, packet⟩ >>= fun c =>
          (·.packet) <$> emit ethernetStandardFrameSize (backBytes f s ops livesOut offset n)
            ⟨sizeofRTPPacketBase + backStart s ops offset n, c.packet⟩) := by
  unfold convertPieces
  simp only [accepted.convertFromLivesOut_eq codec, accepted.nbOfLivesOut]
  rw [← frontSamples, sampleRounds_front position, sampleRounds_back]
  have noFront : ¬ frontSamples ops offset n > 0 → frontBytes f s ops livesOut offset n = [] := by
    intro zero
    apply List.length_eq_zero_iff.mp
    rw [length_frontBytes, toNat_of_not_pos zero, Nat.zero_mul]
  have noBack : ¬ n - frontSamples ops offset n > 0 → backBytes f s ops livesOut offset n = [] := by
    intro zero
    apply List.length_eq_zero_iff.mp
    rw [length_backBytes, toNat_of_not_pos zero, Nat.zero_mul]
  by_cases front : frontSamples ops offset n > 0 <;> by_cases back : n - frontSamples ops offset n > 0
  · simp only [front, back, if_true, bind_map_left]
    rfl
  · simp only [front, back, if_true, if_false, noBack back, emit_nil, bind_map_left]
    rfl
  · simp only [front, back, if_true, if_false, noFront front, emit_nil, ok_bind]
    rfl
  · simp only [front, back, if_false, noFront front, noBack back, emit_nil, ok_bind]
    rfl

/-- The word length of a stream is what its converter writes, and `n` samples fit into one frame. -/
def LegFits (n : UInt32) (s : RTPAudioStream) : Prop :=
  (convertMappedToInterleave s.rtpStreamInfo.codec).map (·.width) =
      some s.rtpStreamInfo.wordLength.toNat ∧
    n.toNat * (s.rtpStreamInfo.nbOfChannels.toNat * s.rtpStreamInfo.wordLength.toNat) ≤
      rtpMaxPayloadSize.toNat

instance (n : UInt32) (s : RTPAudioStream) : Decidable (LegFits n s) := by
  unfold LegFits
  infer_instance

def packetSize (s : RTPAudioStream) (n : UInt32) : UInt32 :=
  UInt32.ofNat sizeofRTPPacketBase +
    n * (getNbOfLivesOut s * s.rtpStreamInfo.wordLength.toUInt32)

def audioPacket (f : MappedToInterleave) (s : RTPAudioStream) (ops : RTPAudioStreamOps)
    (livesOut : RingMemory) (sac : UInt64) (offset n : UInt32) (seqNum : UInt16) :
    TransmittedPacket where
  nicId := s.ethNetfilter.nicId
  size := packetSize s n
  bytes := writeBytes (fun _ => none) 0
    ((packetHeader s (packetSize s n)
        (sac + s.rtpStreamInfo.rtpTimestampOffset.toUInt64).toUInt32 seqNum).bytes ++
      (frontBytes f s ops livesOut offset n ++ backBytes f s ops livesOut offset n))

/-- A header written over the prepared one, in front of what follows it. -/
theorem writeBytes_over {packet : PacketBuffer} {old header audio : List UInt8}
    (same : old.length = header.length) :
    writeBytes (writeBytes (writeBytes packet 0 old) old.length audio) 0 header =
      writeBytes packet 0 (header ++ audio) := by
  funext a
  simp only [writeBytes, List.length_append, Nat.zero_le, true_and, Nat.zero_add, Nat.sub_zero, same]
  by_cases front : a < header.length
  · rw [if_pos front, if_pos (by omega), List.getElem?_append_left front]
  · rw [if_neg front, if_neg front, List.getElem?_append_right (by omega)]
    by_cases back : a < header.length + audio.length
    · rw [if_pos ⟨by omega, back⟩, if_pos back]
    · rw [if_neg (by omega), if_neg back]

theorem sendRTPAudioPacket_eq (s : RTPAudioStream) (ops : RTPAudioStreamOps) (skb : Bool)
    (livesOut : RingMemory) (sac : UInt64) (offset n : UInt32) (seqNum : UInt16) :
    sendRTPAudioPacket s ops skb livesOut sac offset n seqNum =
      if !skb || UInt32.ofNat ethernetStandardFrameSize < packetSize s n then .ok (s, none)
      else
        convertPieces s ops livesOut offset n
            (writeBytes (fun _ => none) 0 s.rtpPacketBaseOutgoing.bytes) >>= fun packet =>
          .ok (recordSent s sac n, some ⟨s.ethNetfilter.nicId, packetSize s n,
            writeBytes packet 0 (packetHeader s (packetSize s n)
              (sac + s.rtpStreamInfo.rtpTimestampOffset.toUInt64).toUInt32 seqNum).bytes⟩) := by
  have same : packetSize s n = UInt32.ofNat sizeofRTPPacketBase +
      getNbOfLivesOut s * s.rtpStreamInfo.wordLength.toUInt32 * n := by
    rw [packetSize, UInt32.mul_comm n]
  conv => rhs; rw [if_congr (by rw [same]) rfl rfl]
  rfl

theorem SameSource.of_send {s t : RTPAudioStream} {ops : RTPAudioStreamOps} {skb : Bool}
    {livesOut : RingMemory} {sac : UInt64} {offset n : UInt32} {seqNum : UInt16}
    {out : Option TransmittedPacket}
    (sent : sendRTPAudioPacket s ops skb livesOut sac offset n seqNum = .ok (t, out)) :
    SameSource s t := by
  rw [sendRTPAudioPacket_eq] at sent
  split at sent
  · cases sent
    exact .refl s
  · obtain ⟨packet, -, built⟩ := bind_eq_ok.mp sent
    cases built
    exact recordSent_same s sac n

theorem pieceBytes_toNat (s : RTPAudioStream) {n : UInt32}
    (small : n.toNat *
      (s.rtpStreamInfo.nbOfChannels.toNat * s.rtpStreamInfo.wordLength.toNat) < 2 ^ 32) :
    (n * s.rtpStreamInfo.wordLength.toUInt32 * s.rtpStreamInfo.nbOfChannels.toUInt32).toNat =
      n.toNat * (s.rtpStreamInfo.nbOfChannels.toNat * s.rtpStreamInfo.wordLength.toNat) := by
  rw [UInt32.mul_assoc, UInt32.mul_comm s.rtpStreamInfo.wordLength.toUInt32, UInt32.toNat_mul,
    UInt32.toNat_mul, UInt8.toNat_toUInt32, UInt8.toNat_toUInt32]
  have channels := s.rtpStreamInfo.nbOfChannels.toNat_lt
  have word := s.rtpStreamInfo.wordLength.toNat_lt
  have sample : s.rtpStreamInfo.nbOfChannels.toNat * s.rtpStreamInfo.wordLength.toNat < 2 ^ 32 :=
    calc _ ≤ 255 * 255 := Nat.mul_le_mul (by omega) (by omega)
      _ < 2 ^ 32 := by norm_num
  rw [Nat.mod_eq_of_lt sample, Nat.mod_eq_of_lt small]

theorem backStart_toNat (s : RTPAudioStream) (ops : RTPAudioStreamOps) (offset n : UInt32)
    (small : (frontSamples ops offset n).toNat *
      (s.rtpStreamInfo.nbOfChannels.toNat * s.rtpStreamInfo.wordLength.toNat) < 2 ^ 32) :
    backStart s ops offset n = (frontSamples ops offset n).toNat *
      (s.rtpStreamInfo.nbOfChannels.toNat * s.rtpStreamInfo.wordLength.toNat) :=
  pieceBytes_toNat s small

namespace AcceptedSource

variable {s : RTPAudioStream} {f : MappedToInterleave}

theorem packetSize_toNat (accepted : AcceptedSource s) {n : UInt32}
    (small : n.toNat * (s.rtpStreamInfo.nbOfChannels.toNat * s.rtpStreamInfo.wordLength.toNat) <
      2 ^ 32 - 54) :
    (packetSize s n).toNat = 54 +
      n.toNat * (s.rtpStreamInfo.nbOfChannels.toNat * s.rtpStreamInfo.wordLength.toNat) := by
  have channels := s.rtpStreamInfo.nbOfChannels.toNat_lt
  have word := s.rtpStreamInfo.wordLength.toNat_lt
  have sample : s.rtpStreamInfo.nbOfChannels.toNat * s.rtpStreamInfo.wordLength.toNat < 2 ^ 32 :=
    calc _ ≤ 255 * 255 := Nat.mul_le_mul (by omega) (by omega)
      _ < 2 ^ 32 := by norm_num
  rw [packetSize, accepted.nbOfLivesOut, UInt32.toNat_add, UInt32.toNat_mul, UInt32.toNat_mul,
    UInt8.toNat_toUInt32, UInt8.toNat_toUInt32, Nat.mod_eq_of_lt sample,
    Nat.mod_eq_of_lt (by omega : n.toNat * _ < 2 ^ 32)]
  exact Nat.mod_eq_of_lt (by simp [sizeofRTPPacketBase]; omega)

theorem send_of_fits (accepted : AcceptedSource s)
    (codec : convertMappedToInterleave s.rtpStreamInfo.codec = some f) {ops : RTPAudioStreamOps}
    (livesOut : RingMemory) (sac : UInt64) {offset n : UInt32} (seqNum : UInt16)
    (position : RingPosition ops offset n) (fits : LegFits n s) :
    sendRTPAudioPacket s ops true livesOut sac offset n seqNum =
      .ok (recordSent s sac n, some (audioPacket f s ops livesOut sac offset n seqNum)) := by
  obtain ⟨width, room⟩ := fits
  have width : f.width = s.rtpStreamInfo.wordLength.toNat := by simpa [codec] using width
  have limit : rtpMaxPayloadSize.toNat = 1460 := rfl
  have total := frontSamples_add_back ops offset n
  have size := accepted.packetSize_toNat (n := n) (by omega)
  have front := length_frontBytes f s ops livesOut offset n
  have back := length_backBytes f s ops livesOut offset n
  have sum := Nat.add_mul (frontSamples ops offset n).toNat (n - frontSamples ops offset n).toNat
    (s.rtpStreamInfo.nbOfChannels.toNat * s.rtpStreamInfo.wordLength.toNat)
  rw [total] at sum
  rw [width] at front back
  have start := backStart_toNat s ops offset n (by omega)
  have kept : ¬ UInt32.ofNat ethernetStandardFrameSize < packetSize s n := by
    intro exceeds
    have exceeds := UInt32.lt_iff_toNat_lt.mp exceeds
    rw [size] at exceeds
    simp only [ethernetStandardFrameSize, UInt32.reduceOfNat, UInt32.reduceToNat] at exceeds
    omega
  have frontFits : emit ethernetStandardFrameSize (frontBytes f s ops livesOut offset n)
      ⟨sizeofRTPPacketBase, writeBytes (fun _ => none) 0 s.rtpPacketBaseOutgoing.bytes⟩ =
      .ok _ := if_pos (.inr (by simp only [sizeofRTPPacketBase, ethernetStandardFrameSize]; omega))
  have backFits : ∀ packet, emit ethernetStandardFrameSize (backBytes f s ops livesOut offset n)
      ⟨sizeofRTPPacketBase + backStart s ops offset n, packet⟩ = .ok _ := fun packet =>
    if_pos (.inr (by simp only [sizeofRTPPacketBase, ethernetStandardFrameSize]; omega))
  rw [sendRTPAudioPacket_eq, if_neg (by simpa using kept), accepted.convertPieces_eq codec _ position,
    frontFits, ok_bind, backFits]
  simp only [Functor.map, Except.map, ok_bind, start, ← front]
  rw [writeBytes_append, ← RTPPacketBase.length_bytes s.rtpPacketBaseOutgoing,
    writeBytes_over (by simp)]
  rfl

end AcceptedSource

section Faults

variable {e : Fault} (otherThanNull : .nullPointer ≠ e) (otherThanPast : .writePast ≠ e)
include otherThanPast

theorem emit_avoids (capacity : Nat) (bytes : List UInt8) (c : OutCursor) : Avoids e (emit capacity bytes c) := by
  apply avoids_unless
  intro _
  exact avoids_error otherThanPast

include otherThanNull

theorem interleave_avoids (store : Sample → List UInt8) (capacity : Nat) (mem : RingMemory)
    (inputBuffer : ChannelMap) (offset nbChannels nbSamples : UInt32) (c : OutCursor) :
    Avoids e (interleave store capacity mem inputBuffer offset nbChannels nbSamples c) := by
  apply avoids_forUp
  intro i c
  apply avoids_forUp
  intro ch c
  unfold emitMapped
  cases inputBuffer ch with
  | none => exact avoids_error otherThanNull
  | some base => exact emit_avoids otherThanPast _ _ _

theorem MappedToInterleave.call_avoids (f : MappedToInterleave) (capacity : Nat) (mem : RingMemory)
    (inputBuffer : ChannelMap) (offset nbChannels nbSamples : UInt32) (c : OutCursor) :
    Avoids e (f.call capacity mem inputBuffer offset nbChannels nbSamples c) := by
  cases f with
  | bigEndianInt16 | bigEndianInt24 | bigEndianInt32 =>
    exact interleave_avoids otherThanNull otherThanPast _ _ _ _ _ _ _ _
  | bigEndianDSD256 =>
    apply avoids_forUp
    intro i c
    apply avoids_forUp
    intro ch c
    cases inputBuffer ch with
    | none => exact avoids_ok _ _
    | some base => exact emit_avoids otherThanPast _ _ _

variable {ops : RTPAudioStreamOps} {skb : Bool} {livesOut : RingMemory}

theorem convertPieces_avoids (s : RTPAudioStream) (offset nbSamples : UInt32) (packet : PacketBuffer) :
    Avoids e (convertPieces s ops livesOut offset nbSamples packet) := by
  have piece : ∀ offset nbSamples c, Avoids e (convertFromLivesOut s livesOut offset nbSamples c) := by
    intro offset nbSamples c
    unfold convertFromLivesOut
    cases s.mtConvertMappedToInterleave with
    | none => exact avoids_error otherThanNull
    | some f => exact f.call_avoids otherThanNull otherThanPast _ _ _ _ _ _ _
  have pieceOrNone : ∀ (nbSamples offset : UInt32) c packet, Avoids e
      (if nbSamples > 0 then (·.packet) <$> convertFromLivesOut s livesOut offset nbSamples c
        else .ok packet) := by
    intro nbSamples offset c packet
    apply avoids_when
    intro _
    exact avoids_map _ (piece offset nbSamples c)
  unfold convertPieces
  dsimp only
  apply avoids_ite
  · intro _
    apply avoids_bind (avoids_map _ (piece _ _ _))
    intro packet _
    exact pieceOrNone _ _ _ _
  · intro _
    exact pieceOrNone _ _ _ _

/-- A packet can only fail on a missing ring or converter, or past the end of its buffer. -/
theorem sendRTPAudioPacket_avoids (s : RTPAudioStream) (currentSAC : UInt64) (offset nbOfSamples : UInt32)
    (seqNum : UInt16) :
    Avoids e (sendRTPAudioPacket s ops skb livesOut currentSAC offset nbOfSamples seqNum) := by
  apply avoids_unless
  intro _
  apply avoids_bind (convertPieces_avoids otherThanNull otherThanPast _ _ _ _)
  intro packet _
  exact avoids_ok _ _

end Faults

def nextOffset (ops : RTPAudioStreamOps) (offset n : UInt32) : UInt32 :=
  if offset + n ≥ ops.liveOutJitterBufferLength then offset + n - ops.liveOutJitterBufferLength
  else offset + n

theorem nextOffset_toNat {ops : RTPAudioStreamOps} {offset n : UInt32}
    (inside : offset < ops.liveOutJitterBufferLength)
    (noWrap : offset.toNat + n.toNat < 2 ^ 32)
    (once : n.toNat ≤ ops.liveOutJitterBufferLength.toNat) :
    (nextOffset ops offset n).toNat = (offset.toNat + n.toNat) % ops.liveOutJitterBufferLength.toNat := by
  have below := UInt32.lt_iff_toNat_lt.mp inside
  have sum : (offset + n).toNat = offset.toNat + n.toNat := by
    rw [UInt32.toNat_add, Nat.mod_eq_of_lt noWrap]
  rw [nextOffset]
  by_cases past : offset + n ≥ ops.liveOutJitterBufferLength
  · have pastNat := UInt32.le_iff_toNat_le.mp past
    have wrapped : offset.toNat + n.toNat =
        offset.toNat + n.toNat - ops.liveOutJitterBufferLength.toNat +
          ops.liveOutJitterBufferLength.toNat := by omega
    rw [if_pos past, UInt32.toNat_sub_of_le _ _ past, sum, wrapped, Nat.add_mod_right,
      Nat.mod_eq_of_lt (by omega), Nat.add_sub_cancel]
  · have short : ¬ ops.liveOutJitterBufferLength.toNat ≤ (offset + n).toNat :=
      mt UInt32.le_iff_toNat_le.mpr past
    rw [if_neg past, sum, Nat.mod_eq_of_lt (by omega)]

theorem RingPosition.next {ops : RTPAudioStreamOps} {offset n remaining : UInt32}
    (position : RingPosition ops offset remaining) (le : n.toNat ≤ remaining.toNat) :
    RingPosition ops (nextOffset ops offset n) (remaining - n) := by
  have left := UInt32.toNat_sub_of_le _ _ (UInt32.le_iff_toNat_le.mpr le)
  have sum := UInt32.toNat_add offset n
  have bound := remaining.toNat_lt
  have length := ops.liveOutJitterBufferLength.toNat_lt
  unfold RingPosition nextOffset at *
  rw [UInt32.lt_iff_toNat_lt] at position ⊢
  by_cases past : offset + n ≥ ops.liveOutJitterBufferLength
  · have pastNat := UInt32.le_iff_toNat_le.mp past
    have back := UInt32.toNat_sub_of_le _ _ past
    rw [if_pos past, left, back]
    omega
  · have short : ¬ ops.liveOutJitterBufferLength.toNat ≤ (offset + n).toNat :=
      mt UInt32.le_iff_toNat_le.mpr past
    rw [if_neg past]
    omega

theorem RingPosition.mono {ops : RTPAudioStreamOps} {offset n remaining : UInt32}
    (position : RingPosition ops offset remaining) (le : n.toNat ≤ remaining.toNat) :
    RingPosition ops offset n :=
  position.imp id fun noWrap => by omega

/-- The samples of a round, as long as some are left; no later round has more. -/
theorem roundSamples {maxSamples remaining : UInt32} (someSamples : maxSamples ≠ 0) (some : remaining ≠ 0) :
    0 < (min maxSamples remaining).toNat ∧ (min maxSamples remaining).toNat ≤ maxSamples.toNat ∧
      (min maxSamples remaining).toNat ≤ remaining.toNat ∧
      (remaining - min maxSamples remaining).toNat = remaining.toNat - (min maxSamples remaining).toNat ∧
      (min maxSamples (remaining - min maxSamples remaining)).toNat ≤ (min maxSamples remaining).toNat := by
  have maxPositive : maxSamples.toNat ≠ 0 := fun zero => someSamples (UInt32.toNat_inj.mp zero)
  have leftPositive : remaining.toNat ≠ 0 := fun zero => some (UInt32.toNat_inj.mp zero)
  have size := toNat_min maxSamples remaining
  have left := UInt32.toNat_sub_of_le remaining (min maxSamples remaining)
    (UInt32.le_iff_toNat_le.mpr (by omega))
  have next := toNat_min maxSamples (remaining - min maxSamples remaining)
  omega

/-- What a round of the packet loop is about: its time, ring index, samples and sequence number. -/
structure Piece where
  sac : UInt64
  offset : UInt32
  n : UInt32
  seqNum : UInt16

def framePieces (ops : RTPAudioStreamOps) (maxSamples : UInt32) :
    Nat → UInt32 → UInt64 → UInt32 → UInt16 → List Piece
  | 0, _, _, _, _ => []
  | fuel + 1, remaining, sac, offset, seqNum =>
    let n := min maxSamples remaining
    if remaining = 0 then []
    else ⟨sac, offset, n, seqNum⟩ ::
      framePieces ops maxSamples fuel (remaining - n) (sac + n.toUInt64) (nextOffset ops offset n)
        (seqNum + 1)

theorem framePieces_empty (ops : RTPAudioStreamOps) (maxSamples : UInt32) (fuel : Nat) (sac : UInt64)
    (offset : UInt32) (seqNum : UInt16) : framePieces ops maxSamples fuel 0 sac offset seqNum = [] := by
  cases fuel with
  | zero => rfl
  | succ fuel => rw [framePieces, if_pos rfl]

/-- A frame of `remaining` samples, one round after the other. -/
inductive Rounds (ops : RTPAudioStreamOps) (maxSamples : UInt32) :
    Nat → UInt64 → UInt32 → UInt16 → List Piece → Prop
  | done {sac offset seqNum} : Rounds ops maxSamples 0 sac offset seqNum []
  | round {left sac offset seqNum rest} {n : UInt32} : 0 < n.toNat → n.toNat ≤ maxSamples.toNat →
      Rounds ops maxSamples left (sac + n.toUInt64) (nextOffset ops offset n) (seqNum + 1) rest →
      Rounds ops maxSamples (n.toNat + left) sac offset seqNum (⟨sac, offset, n, seqNum⟩ :: rest)

theorem framePieces_rounds (ops : RTPAudioStreamOps) {maxSamples : UInt32} (someSamples : maxSamples ≠ 0)
    (fuel : Nat) (remaining : UInt32) (sac : UInt64) (offset : UInt32) (seqNum : UInt16)
    (enough : remaining.toNat ≤ fuel) :
    Rounds ops maxSamples remaining.toNat sac offset seqNum
      (framePieces ops maxSamples fuel remaining sac offset seqNum) := by
  induction fuel generalizing remaining sac offset seqNum with
  | zero =>
    rw [Nat.le_zero.mp enough]
    exact .done
  | succ fuel ih =>
    by_cases empty : remaining = 0
    · rw [empty, framePieces_empty]
      exact .done
    · obtain ⟨positive, atMost, inFrame, left, -⟩ := roundSamples someSamples empty
      have total : remaining.toNat =
          (min maxSamples remaining).toNat + (remaining - min maxSamples remaining).toNat := by omega
      rw [framePieces, if_neg empty, total]
      exact .round positive atMost (ih _ _ _ _ (by omega))

def converter (s : RTPAudioStream) : MappedToInterleave :=
  (convertMappedToInterleave s.rtpStreamInfo.codec).getD .bigEndianInt16

def piecePacket (s : RTPAudioStream) (ops : RTPAudioStreamOps) (livesOut : RingMemory) (p : Piece) :
    TransmittedPacket :=
  audioPacket (converter s) s ops livesOut p.sac p.offset p.n p.seqNum

theorem piecePacket_same {s t : RTPAudioStream} (same : SameSource s t) (ops : RTPAudioStreamOps)
    (livesOut : RingMemory) (p : Piece) : piecePacket t ops livesOut p = piecePacket s ops livesOut p := by
  have rings : ringBase t = ringBase s := by
    funext ch
    rw [ringBase, ringBase, same.rings]
  simp only [piecePacket, audioPacket, packetHeader, packetSize, converter, frontBytes, backBytes,
    getNbOfLivesOut, same.info, same.nic, same.template, rings]

theorem LegFits.mono {m n : UInt32} {s : RTPAudioStream} (fits : LegFits n s) (le : m.toNat ≤ n.toNat) :
    LegFits m s :=
  ⟨fits.1, (Nat.mul_le_mul_right _ le).trans fits.2⟩

theorem LegFits.same {n : UInt32} {s t : RTPAudioStream} (fits : LegFits n s) (same : SameSource s t) :
    LegFits n t := by
  unfold LegFits at *
  rw [same.info]
  exact fits

theorem AcceptedSource.send_piece {s : RTPAudioStream} (accepted : AcceptedSource s)
    {ops : RTPAudioStreamOps} (livesOut : RingMemory) (p : Piece)
    (position : RingPosition ops p.offset p.n) (fits : LegFits p.n s) :
    sendRTPAudioPacket s ops true livesOut p.sac p.offset p.n p.seqNum =
      .ok (recordSent s p.sac p.n, some (piecePacket s ops livesOut p)) := by
  obtain ⟨f, codec⟩ := accepted.someConverter
  rw [accepted.send_of_fits codec livesOut p.sac p.seqNum position fits]
  simp only [piecePacket, converter, codec, Option.getD_some]

/-- A source that can send all its packets of at most `n` samples. -/
structure ReadyLeg (n : UInt32) (s : RTPAudioStream) : Prop where
  accepted : AcceptedSource s
  fits : LegFits n s

theorem ReadyLeg.same {n : UInt32} {s t : RTPAudioStream} (ready : ReadyLeg n s)
    (same : SameSource s t) : ReadyLeg n t :=
  ⟨ready.accepted.same same, ready.fits.same same⟩

theorem ReadyLeg.mono {m n : UInt32} {s : RTPAudioStream} (ready : ReadyLeg n s)
    (le : m.toNat ≤ n.toNat) : ReadyLeg m s :=
  ⟨ready.accepted, ready.fits.mono le⟩

def legPackets (leg : Option RTPAudioStream) (ops : RTPAudioStreamOps) (livesOut : RingMemory)
    (pieces : List Piece) : List (Option TransmittedPacket) :=
  match leg with
  | none => []
  | some s => pieces.map fun p => some (piecePacket s ops livesOut p)

def SamePartner : Option RTPAudioStream → Option RTPAudioStream → Prop
  | none, none => True
  | some s, some t => SameSource s t
  | _, _ => False

theorem legPackets_same {leg leg' : Option RTPAudioStream} (same : SamePartner leg leg')
    (ops : RTPAudioStreamOps) (livesOut : RingMemory) (pieces : List Piece) :
    legPackets leg' ops livesOut pieces = legPackets leg ops livesOut pieces := by
  cases leg <;> cases leg' <;> first | rfl | exact same.elim | skip
  simp only [legPackets, piecePacket_same same]

theorem SamePartner.refl (leg : Option RTPAudioStream) : SamePartner leg leg := by
  cases leg
  · trivial
  · exact SameSource.refl _

theorem SamePartner.trans {leg leg' leg'' : Option RTPAudioStream} (first : SamePartner leg leg')
    (then_ : SamePartner leg' leg'') : SamePartner leg leg'' := by
  cases leg <;> cases leg' <;> cases leg'' <;>
    first | trivial | exact first.elim | exact then_.elim | exact SameSource.trans first then_

theorem sendRound_same {ops : RTPAudioStreamOps} {skb : Bool} {livesOut : RingMemory}
    {st st' : SendState} (round : sendRound ops skb livesOut st = .ok st') :
    SameSource st.stream st'.stream ∧ SamePartner st.partner st'.partner := by
  obtain ⟨⟨s', out⟩, sent, rest⟩ := bind_eq_ok.mp round
  obtain ⟨st1, partnerSent, last⟩ := bind_eq_ok.mp rest
  cases last
  have numbered : ∀ s, SameSource s { s with outgoingSeqNum := s.outgoingSeqNum + 1 } := fun s =>
    ⟨rfl, rfl, rfl, rfl, rfl, rfl, rfl, rfl, rfl⟩
  unfold sendPartnerPacket at partnerSent
  cases isPartner : st.partner with
  | none =>
    simp only [isPartner] at partnerSent
    cases partnerSent
    exact ⟨(SameSource.of_send sent).trans (numbered s'), trivial⟩
  | some partner =>
    simp only [isPartner] at partnerSent
    obtain ⟨⟨p', out'⟩, sent', last⟩ := bind_eq_ok.mp partnerSent
    cases last
    exact ⟨(SameSource.of_send sent).trans (numbered s'), SameSource.of_send sent'⟩

theorem sendLoop_same {ops : RTPAudioStreamOps} {skb : Bool} {livesOut : RingMemory} {fuel : Nat}
    {st done : SendState} (run : sendLoop ops skb livesOut fuel st = .ok done) :
    SameSource st.stream done.stream ∧ SamePartner st.partner done.partner := by
  induction fuel generalizing st with
  | zero =>
    rw [sendLoop] at run
    split at run <;> cases run
    exact ⟨.refl _, .refl _⟩
  | succ fuel ih =>
    rw [sendLoop] at run
    split at run
    · cases run
      exact ⟨.refl _, .refl _⟩
    · obtain ⟨st1, round, rest⟩ := bind_eq_ok.mp run
      have first := sendRound_same round
      have later := ih rest
      exact ⟨first.1.trans later.1, first.2.trans later.2⟩

theorem sendRTPAudioPackets_same {self : RTPAudioStream} {partner : Option RTPAudioStream}
    {ops : RTPAudioStreamOps} {skb : Bool} {livesOut : RingMemory} {done : SendState}
    (sent : sendRTPAudioPackets self partner ops skb livesOut = .ok done) :
    SameSource self done.stream ∧ SamePartner partner done.partner := by
  unfold sendRTPAudioPackets at sent
  split at sent
  · cases sent
    exact ⟨.refl _, .refl _⟩
  · exact sendLoop_same sent

theorem sendPartnerPacket_of_ready (st : SendState) {ops : RTPAudioStreamOps} (livesOut : RingMemory)
    {n : UInt32} (seqNum : UInt16) (position : RingPosition ops st.offset n)
    (ready : ∀ partner, st.partner = some partner → ReadyLeg n partner) :
    ∃ partner', SamePartner st.partner partner' ∧
      sendPartnerPacket st ops true livesOut n seqNum =
        .ok { st with
          partner := partner'
          partnerSent := st.partnerSent ++
            legPackets st.partner ops livesOut [⟨st.currentSAC, st.offset, n, seqNum⟩] } := by
  unfold sendPartnerPacket
  cases isPartner : st.partner with
  | none =>
    refine ⟨none, trivial, ?_⟩
    simp only [legPackets, List.append_nil, ← isPartner]
  | some partner =>
    obtain ⟨accepted, fits⟩ := ready partner isPartner
    refine ⟨some (recordSent partner st.currentSAC n), recordSent_same .., ?_⟩
    have sent := accepted.send_piece livesOut ⟨st.currentSAC, st.offset, n, seqNum⟩ position fits
    simp only [sent, ok_bind, legPackets, List.map_cons, List.map_nil]

def roundPiece (st : SendState) (n : UInt32) : Piece :=
  ⟨st.currentSAC, st.offset, n, st.stream.outgoingSeqNum⟩

def afterRound (st : SendState) (ops : RTPAudioStreamOps) (livesOut : RingMemory) (n : UInt32)
    (stream' : RTPAudioStream) (partner' : Option RTPAudioStream) : SendState where
  stream := stream'
  partner := partner'
  remaining := st.remaining - n
  currentSAC := st.currentSAC + n.toUInt64
  offset := nextOffset ops st.offset n
  sent := st.sent ++ legPackets (some st.stream) ops livesOut [roundPiece st n]
  partnerSent := st.partnerSent ++ legPackets st.partner ops livesOut [roundPiece st n]

theorem sendRound_of_ready {st : SendState} {ops : RTPAudioStreamOps} (livesOut : RingMemory)
    {n : UInt32} (isN : n = min st.stream.rtpStreamInfo.maxSamplesPerPacket st.remaining)
    (position : RingPosition ops st.offset n) (ready : ReadyLeg n st.stream)
    (partnerReady : ∀ partner, st.partner = some partner → ReadyLeg n partner) :
    ∃ stream' partner', SameSource st.stream stream' ∧ SamePartner st.partner partner' ∧
      stream'.outgoingSeqNum = st.stream.outgoingSeqNum + 1 ∧
      sendRound ops true livesOut st = .ok (afterRound st ops livesOut n stream' partner') := by
  have sent := ready.accepted.send_piece livesOut
    ⟨st.currentSAC, st.offset, n, st.stream.outgoingSeqNum⟩ position ready.fits
  have rest := sendPartnerPacket_of_ready
    { st with
      stream := recordSent st.stream st.currentSAC n
      sent := st.sent ++ [some (piecePacket st.stream ops livesOut
        ⟨st.currentSAC, st.offset, n, st.stream.outgoingSeqNum⟩)] }
    livesOut st.stream.outgoingSeqNum position partnerReady
  obtain ⟨partner', same, partnerSent⟩ := rest
  refine ⟨{ recordSent st.stream st.currentSAC n with
    outgoingSeqNum := st.stream.outgoingSeqNum + 1 }, partner', ⟨rfl, rfl, rfl, rfl, rfl, rfl, rfl, rfl, rfl⟩,
    same,
    rfl, ?_⟩
  unfold sendRound
  simp only [← isN, sent, ok_bind, partnerSent]
  rfl

theorem legPackets_cons (leg : Option RTPAudioStream) (ops : RTPAudioStreamOps)
    (livesOut : RingMemory) (p : Piece) (pieces : List Piece) :
    legPackets leg ops livesOut (p :: pieces) =
      legPackets leg ops livesOut [p] ++ legPackets leg ops livesOut pieces := by
  cases leg <;> rfl

theorem SamePartner.ready {leg leg' : Option RTPAudioStream} {n : UInt32}
    (same : SamePartner leg leg') (ready : ∀ s, leg = some s → ReadyLeg n s) :
    ∀ s, leg' = some s → ReadyLeg n s := by
  rintro t rfl
  cases leg with
  | none => exact same.elim
  | some s => exact (ready s rfl).same same

/-- A frame whose legs fit is sent piece by piece, each piece on every leg. -/
theorem sendLoop_of_ready {ops : RTPAudioStreamOps} (livesOut : RingMemory) {largest : UInt32}
    (fuel : Nat) (st : SendState) (enough : st.remaining.toNat ≤ fuel)
    (someSamples : st.stream.rtpStreamInfo.maxSamplesPerPacket ≠ 0)
    (atMost : (min st.stream.rtpStreamInfo.maxSamplesPerPacket st.remaining).toNat ≤ largest.toNat)
    (position : RingPosition ops st.offset st.remaining) (ready : ReadyLeg largest st.stream)
    (partnerReady : ∀ partner, st.partner = some partner → ReadyLeg largest partner) :
    let pieces := framePieces ops st.stream.rtpStreamInfo.maxSamplesPerPacket fuel st.remaining
      st.currentSAC st.offset st.stream.outgoingSeqNum
    ∃ done, sendLoop ops true livesOut fuel st = .ok done ∧
      SameSource st.stream done.stream ∧ SamePartner st.partner done.partner ∧
      done.stream.outgoingSeqNum = st.stream.outgoingSeqNum + UInt16.ofNat pieces.length ∧
      done.sent = st.sent ++ legPackets (some st.stream) ops livesOut pieces ∧
      done.partnerSent = st.partnerSent ++ legPackets st.partner ops livesOut pieces := by
  induction fuel generalizing st with
  | zero =>
    have empty : st.remaining = 0 := UInt32.toNat_inj.mp (by simpa using enough)
    refine ⟨st, by rw [sendLoop, if_pos empty], .refl _, .refl _, by simp [framePieces], ?_, ?_⟩
    · simp [framePieces, legPackets]
    · cases st.partner <;> simp [framePieces, legPackets]
  | succ fuel ih =>
    by_cases empty : st.remaining = 0
    · refine ⟨st, by rw [sendLoop, if_pos empty], .refl _, .refl _, by simp [framePieces, empty], ?_, ?_⟩
      · simp [framePieces, legPackets, empty]
      · cases st.partner <;> simp [framePieces, legPackets, empty]
    · obtain ⟨positive, -, inFrame, left, fewer⟩ := roundSamples someSamples empty
      generalize isN : min st.stream.rtpStreamInfo.maxSamplesPerPacket st.remaining = n at *
      obtain ⟨stream', partner', same, samePartner, seqNum, round⟩ :=
        sendRound_of_ready livesOut isN.symm (position.mono inFrame) (ready.mono atMost)
          fun partner isPartner => (partnerReady partner isPartner).mono atMost
      obtain ⟨done, run, sameEnd, samePartnerEnd, seqNumEnd, sent, partnerSent⟩ :=
        ih (afterRound st ops livesOut n stream' partner')
          (by simp only [afterRound, left]; omega)
          (by simpa only [afterRound, same.info] using someSamples)
          (by simpa only [afterRound, same.info] using fewer.trans atMost)
          (position.next inFrame) (ready.same same) (samePartner.ready partnerReady)
      have pieces : framePieces ops st.stream.rtpStreamInfo.maxSamplesPerPacket (fuel + 1) st.remaining
          st.currentSAC st.offset st.stream.outgoingSeqNum =
          roundPiece st n :: framePieces ops stream'.rtpStreamInfo.maxSamplesPerPacket fuel
            (st.remaining - n) (st.currentSAC + n.toUInt64) (nextOffset ops st.offset n)
            stream'.outgoingSeqNum := by
        rw [framePieces, if_neg empty, isN, same.info, seqNum, roundPiece]
      refine ⟨done, ?_, same.trans sameEnd, samePartner.trans samePartnerEnd, ?_, ?_, ?_⟩
      · rw [sendLoop, if_neg empty, round, ok_bind, run]
      · rw [seqNumEnd, pieces, List.length_cons, UInt16.ofNat_add, afterRound, seqNum,
          UInt16.add_assoc, UInt16.add_comm 1]
        rfl
      · have samePackets := legPackets_same (show SamePartner (some st.stream) (some stream') from same)
        simp only [sent, afterRound, samePackets]
        rw [List.append_assoc, pieces]
        exact congrArg _ (legPackets_cons ..).symm
      · simp only [partnerSent, afterRound, legPackets_same samePartner]
        rw [List.append_assoc, pieces]
        exact congrArg _ (legPackets_cons ..).symm

end RavennaLkm
