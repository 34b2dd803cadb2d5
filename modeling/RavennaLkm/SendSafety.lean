import RavennaLkm.Packetisation

/-!
When every packet of a frame can be built. A packet is converted into a buffer
of one Ethernet frame, and the size that decides whether it fits is computed
from the announced word length. A source stays attached to a partner that was
removed; what `Destroy` left of the partner has a converter and no channel.
-/
namespace RavennaLkm
open CheckedLoop

def WordsMatch (info : RTPStreamInfo) : Prop :=
  (convertMappedToInterleave info.codec).map (·.width) = some info.wordLength.toNat

structure Voice (s : RTPAudioStream) : Prop where
  accepted : AcceptedSource s
  words : WordsMatch s.rtpStreamInfo

inductive Spoke (s : RTPAudioStream) : Prop where
  | speaks (voice : Voice s)
  | destroyed (channels : s.rtpStreamInfo.nbOfChannels = 0) (converter : s.mtConvertMappedToInterleave.isSome = true)

variable {s t : RTPAudioStream} {ops : RTPAudioStreamOps} {skb : Bool} {livesOut : RingMemory}

theorem Voice.same (voice : Voice s) (same : SameStream s t) : Voice t := by
  obtain ⟨_, _, info⟩ := same.info
  refine ⟨voice.accepted.sameStream same, ?_⟩
  rw [info]
  exact voice.words

theorem Spoke.same (spoke : Spoke s) (same : SameStream s t) : Spoke t := by
  cases spoke with
  | speaks voice => exact .speaks (voice.same same)
  | destroyed channels converter =>
    apply Spoke.destroyed
    · rw [same.nbOfChannels]
      exact channels
    · rw [same.convertOut]
      exact converter

theorem Spoke.attach (spoke : Spoke s) (p : Option StreamHandle) : Spoke { s with attachedStream := p } := by
  cases spoke with
  | speaks voice =>
    obtain ⟨⟨valid, source, convert, converts, rings⟩, words⟩ := voice
    exact .speaks ⟨⟨valid, source, convert, converts, rings⟩, words⟩
  | destroyed channels converter => exact .destroyed channels converter

theorem Voice.width_le (voice : Voice s) : s.rtpStreamInfo.wordLength.toNat ≤ 4 := by
  obtain ⟨f, codec⟩ := voice.accepted.someConverter
  have width : f.width = s.rtpStreamInfo.wordLength.toNat := by simpa [WordsMatch, codec] using voice.words
  have small : f.width ≤ 4 := by
    cases f
    all_goals decide
  omega

/-- A source of at most 64 channels with words of at most 4 bytes: the packet size is the size of the audio
as long as the packet has fewer than `2 ^ 24` samples. -/
theorem Voice.packetSize_toNat (voice : Voice s) {n : UInt32} (few : n.toNat < 2 ^ 24) :
    (packetSize s n).toNat = 54 +
      n.toNat * (s.rtpStreamInfo.nbOfChannels.toNat * s.rtpStreamInfo.wordLength.toNat) := by
  have channels : s.rtpStreamInfo.nbOfChannels.toNat ≤ 64 := voice.accepted.valid.channels
  have sample : s.rtpStreamInfo.nbOfChannels.toNat * s.rtpStreamInfo.wordLength.toNat ≤ 64 * 4 :=
    Nat.mul_le_mul channels voice.width_le
  apply voice.accepted.packetSize_toNat
  calc n.toNat * (s.rtpStreamInfo.nbOfChannels.toNat * s.rtpStreamInfo.wordLength.toNat)
      ≤ (2 ^ 24 - 1) * (64 * 4) := Nat.mul_le_mul (by omega) sample
    _ < 2 ^ 32 - 54 := by norm_num

theorem Voice.sends (voice : Voice s) (p : Piece) (few : p.n.toNat < 2 ^ 24)
    (position : RingPosition ops p.offset p.n) :
    Succeeds (sendRTPAudioPacket s ops skb livesOut p.sac p.offset p.n p.seqNum) := by
  by_cases refused : (!skb || decide (UInt32.ofNat ethernetStandardFrameSize < packetSize s p.n)) = true
  · rw [sendRTPAudioPacket_eq, if_pos refused]
    exact succeeds_ok _
  · rw [Bool.or_eq_true, not_or, Bool.not_eq_true, Bool.not_eq_eq_eq_not, decide_eq_true_eq] at refused
    obtain ⟨acquired, small⟩ := refused
    have size := voice.packetSize_toNat few
    rw [UInt32.lt_iff_toNat_lt, size] at small
    have fits : LegFits p.n s := by
      refine ⟨voice.words, ?_⟩
      have frame : (UInt32.ofNat ethernetStandardFrameSize).toNat = 1514 := rfl
      have limit : rtpMaxPayloadSize.toNat = 1460 := rfl
      omega
    cases acquired
    exact ⟨_, voice.accepted.send_piece livesOut p position fits⟩

theorem convertFromLivesOut_empty (channels : s.rtpStreamInfo.nbOfChannels = 0)
    (converter : s.mtConvertMappedToInterleave.isSome = true) (offset n : UInt32) (c : OutCursor) :
    convertFromLivesOut s livesOut offset n c = .ok c := by
  obtain ⟨f, isF⟩ := Option.isSome_iff_exists.mp converter
  have none : (0 : UInt8).toUInt32.toNat = 0 := rfl
  have mapped : ∀ ch < (0 : UInt8).toUInt32.toNat, s.livesOutCircularBuffer ch = some 0 := by
    intro ch below
    exact absurd below (Nat.not_lt_zero ch)
  have nothing : f.payload livesOut (fun _ => 0) offset 0 (sampleRounds offset n) = [] := by
    rw [← List.length_eq_zero_iff, MappedToInterleave.length_payload, Nat.zero_mul, Nat.mul_zero]
  rw [convertFromLivesOut, isF, channels]
  dsimp only
  rw [f.call_eq_emit _ livesOut offset n c mapped, none, nothing, emit_nil]

theorem convertPieces_empty (channels : s.rtpStreamInfo.nbOfChannels = 0)
    (converter : s.mtConvertMappedToInterleave.isSome = true) (offset n : UInt32) (packet : PacketBuffer) :
    Succeeds (convertPieces s ops livesOut offset n packet) := by
  simp [convertPieces, convertFromLivesOut_empty channels converter]

theorem Spoke.sends (spoke : Spoke s) (p : Piece) (few : p.n.toNat < 2 ^ 24)
    (position : RingPosition ops p.offset p.n) :
    Succeeds (sendRTPAudioPacket s ops skb livesOut p.sac p.offset p.n p.seqNum) := by
  cases spoke with
  | speaks voice => exact voice.sends p few position
  | destroyed channels converter =>
    apply succeeds_unless
    intro _
    apply Succeeds.bind (convertPieces_empty channels converter _ _ _)
    intro packet _
    exact succeeds_ok _

theorem sendRound_spoke {st : SendState} (voice : Voice st.stream) (partners : ∀ p ∈ st.partner, Spoke p)
    (few : st.remaining.toNat < 2 ^ 24) (position : RingPosition ops st.offset st.remaining) :
    Succeeds (sendRound ops skb livesOut st) := by
  let n := min st.stream.rtpStreamInfo.maxSamplesPerPacket st.remaining
  have inFrame : n.toNat ≤ st.remaining.toNat := by
    rw [toNat_min]
    exact Nat.min_le_right ..
  let piece : Piece := ⟨st.currentSAC, st.offset, n, st.stream.outgoingSeqNum⟩
  have small : piece.n.toNat < 2 ^ 24 := Nat.lt_of_le_of_lt inFrame few
  have atPiece : RingPosition ops piece.offset piece.n := position.mono inFrame
  apply Succeeds.bind (voice.sends piece small atPiece)
  intro own _
  apply Succeeds.bind
  · unfold sendPartnerPacket
    dsimp only
    split
    · exact succeeds_ok _
    · rename_i partner isPartner
      apply Succeeds.bind ((partners partner isPartner).sends piece small atPiece)
      intro other _
      exact succeeds_ok _
  · intro sent _
    exact succeeds_ok _

theorem SamePartner.spoke {leg leg' : Option RTPAudioStream} (same : SamePartner leg leg')
    (spoke : ∀ p ∈ leg, Spoke p) : ∀ p ∈ leg', Spoke p := by
  intro p isPartner
  cases isPartner
  cases leg with
  | none => exact same.elim
  | some q => exact (spoke q rfl).same (SameSource.sameStream same)

/-- A frame of fewer than `2 ^ 24` samples is sent to its end, whatever does not fit into a packet. -/
theorem sendLoop_spoke (fuel : Nat) {st : SendState} (enough : st.remaining.toNat ≤ fuel) (voice : Voice st.stream)
    (partners : ∀ p ∈ st.partner, Spoke p) (few : st.remaining.toNat < 2 ^ 24)
    (position : RingPosition ops st.offset st.remaining) : Succeeds (sendLoop ops skb livesOut fuel st) := by
  induction fuel generalizing st with
  | zero =>
    have empty : st.remaining = 0 := UInt32.toNat_inj.mp (Nat.le_zero.mp enough)
    rw [sendLoop, if_pos empty]
    exact succeeds_ok _
  | succ fuel ih =>
    apply succeeds_unless
    intro some
    obtain ⟨positive, -, inFrame, left, -⟩ := roundSamples voice.accepted.someSamples some
    apply Succeeds.bind (sendRound_spoke voice partners few position)
    intro st' round
    obtain ⟨remaining, -, offset, -⟩ := sendRound_next round
    obtain ⟨same, samePartner⟩ := sendRound_same round
    apply ih
    · rw [remaining, left]
      omega
    · exact voice.same same.sameStream
    · exact samePartner.spoke partners
    · rw [remaining, left]
      omega
    · rw [remaining, offset]
      exact position.next inFrame

theorem sendRTPAudioPackets_spoke (partner : Option RTPAudioStream) (voice : Voice s)
    (partners : ∀ p ∈ partner, Spoke p) (few : ops.frameSize.toNat < 2 ^ 24)
    (inside : ops.playbackBufferOffset < ops.liveOutJitterBufferLength) :
    Succeeds (sendRTPAudioPackets s partner ops skb livesOut) := by
  have start := RingPosition.start s partner (Or.inl inside : RingPosition ops ops.playbackBufferOffset ops.frameSize)
  apply succeeds_unless
  intro _
  exact sendLoop_spoke _ (Nat.le_refl _) voice partners few start

namespace RTPStreamsManager

variable {m m' m'' : RTPStreamsManager} {h : StreamHandle} {info : RTPStreamInfo}

def HasConverter (m : RTPStreamsManager) (h : StreamHandle) : Prop :=
  (m.stream h).mtConvertMappedToInterleave.isSome = true

structure Voices (m : RTPStreamsManager) : Prop where
  spoke : ∀ slot, m.HasConverter (.source slot) → Spoke (m.stream (.source slot))
  partner : ∀ slot p, m.attached (.source slot) = some p → m.HasConverter p

structure SameVoices (m m' : RTPStreamsManager) : Prop where
  converter : ∀ h, (m'.stream h).mtConvertMappedToInterleave = (m.stream h).mtConvertMappedToInterleave
  spoke : ∀ h, Spoke (m.stream h) → Spoke (m'.stream h)
  attached : ∀ h p, m'.attached h = some p → m.attached h = some p

theorem SameVoices.trans (first : m.SameVoices m') (later : m'.SameVoices m'') : m.SameVoices m'' where
  converter h := (later.converter h).trans (first.converter h)
  spoke h spoke := later.spoke h (first.spoke h spoke)
  attached h p isPartner := first.attached h p (later.attached h p isPartner)

theorem Voices.kept (voices : m.Voices) (same : m.SameVoices m') : m'.Voices where
  spoke slot converter := by
    apply same.spoke
    apply voices.spoke
    rw [HasConverter, ← same.converter]
    exact converter
  partner slot p isPartner := by
    rw [HasConverter, same.converter]
    exact voices.partner slot p (same.attached _ p isPartner)

theorem SameManager.sameVoices (same : m.SameManager m') : m.SameVoices m' where
  converter h := (same.stream h).convertOut
  spoke h spoke := spoke.same (same.stream h)
  attached h p isPartner := by
    rw [attached, (same.stream h).attached] at isPartner
    exact isPartner

theorem release_sameVoices (c : m.Consistent) (ops : RTPAudioStreamOps) (h : StreamHandle) :
    m.SameVoices (m.release ops h) := by
  have noReader := (c.handler h).noReader
  have gone : (m.release ops h).stream h = (destroy (m.stream h) ops m.livesIn).1 := by
    rw [stream, release_handlers _ _ _ _ noReader, if_pos rfl]
  have converter : ((m.release ops h).stream h).mtConvertMappedToInterleave =
      (m.stream h).mtConvertMappedToInterleave := by
    rw [gone, destroy]
    split
    · rfl
    · rfl
  constructor
  · intro q
    by_cases here : q = h
    · rw [here]
      exact converter
    · rw [release_other m ops here]
  · intro q spoke
    by_cases here : q = h
    · subst q
      by_cases used : (m.stream h).livesInitialized = true
      · apply Spoke.destroyed
        · rw [gone, destroy, if_pos used]
          rfl
        · rw [converter]
          cases spoke with
          | speaks voice =>
            rw [voice.accepted.convert]
            exact voice.accepted.converts
          | destroyed channels isSome => exact isSome
      · rw [gone, destroy, if_neg used]
        exact spoke
    · rw [release_other m ops here]
      exact spoke
  · intro q p isPartner
    rw [release_attached _ _ _ _ noReader] at isPartner
    exact isPartner

theorem detachedStream_sameVoices (m : RTPStreamsManager) (h : StreamHandle) : m.SameVoices (m.detachedStream h) := by
  have fields (q) := detachedStream_stream m h q
  constructor
  · intro q
    obtain ⟨p, stream⟩ := fields q
    rw [stream]
  · intro q spoke
    obtain ⟨p, stream⟩ := fields q
    rw [stream]
    exact spoke.attach p
  · intro q p isPartner
    unfold detachedStream at isPartner
    split at isPartner
    · exact isPartner
    · rename_i r _
      simp only [attached, setAttached_stream] at isPartner
      split_ifs at isPartner
      exact isPartner

theorem Voices.remove (voices : m.Voices) (c : m.Consistent) (ops : RTPAudioStreamOps) (h : StreamHandle) :
    (m.removeRTPStream ops h).1.Voices := by
  rcases removeRTPStream_cases c ops h with ⟨listed, ends⟩ | ⟨nic, listed, ends⟩ | ⟨-, ends⟩
  · rw [ends]
    have unlisted : Voices { m with sourceOrdered := m.sourceOrdered.erase h } := ⟨voices.spoke, voices.partner⟩
    exact unlisted.kept (release_sameVoices (withoutSource_consistent c h) ops h)
  · rw [ends]
    have unlisted : Voices
        { m with sinkOrdered := Function.update m.sinkOrdered nic ((m.sinkOrdered nic).erase h) } :=
      ⟨voices.spoke, voices.partner⟩
    have taken := detachedStream_consistent (h := h) (withoutSink_consistent c h nic)
    exact (unlisted.kept (detachedStream_sameVoices _ h)).kept (release_sameVoices taken ops h)
  · rw [ends]
    exact voices

theorem releaseAll_sameVoices (ops : RTPAudioStreamOps) (l : List StreamHandle) (c : m.Consistent)
    (unlisted : ∀ h ∈ l, ¬ m.Listed h) : m.SameVoices (l.foldl (release · ops ·) m) := by
  induction l generalizing m with
  | nil => exact (SameManager.refl m).sameVoices
  | cons q rest ih =>
    have released := release_consistent c ops (unlisted q (List.mem_cons_self ..))
    apply (release_sameVoices c ops q).trans
    apply ih released
    intro h listed
    exact unlisted h (List.mem_cons_of_mem _ listed)

def AddsVoice (ops : RTPAudioStreamOps) (info : RTPStreamInfo) : Prop :=
  addable info = true → info.source = true → CreateAccepts ops info ∧ WordsMatch info

theorem Consistent.listedSource (c : m.Consistent) (listed : m.Listed h) (slot : Nat) (isSource : h = .source slot) :
    m.HasConverter h := by
  rcases listed with source | ⟨nic, sink⟩
  · have accepted := (c.source h source).2.2
    rw [HasConverter, accepted.convert]
    exact accepted.converts
  · have inSinks := (c.sink nic h sink).1
    rw [isSource] at inSinks
    obtain ⟨_, -, differs⟩ := List.mem_map.mp inSinks
    cases differs

theorem attachedStream_attached {q r : StreamHandle} (isPartner : (m.attachedStream h).attached q = some r) :
    m.attached q = some r ∨ (q = h ∧ m.matching h = some r) ∨ (m.matching h = some q ∧ r = h) := by
  unfold attachedStream at isPartner
  split at isPartner
  · exact .inl isPartner
  · rename_i p found
    simp only [attached, setAttached_stream] at isPartner
    by_cases isP : q = p
    · rw [if_pos isP] at isPartner
      right
      right
      rw [isP]
      exact ⟨found, (Option.some.inj isPartner).symm⟩
    · rw [if_neg isP] at isPartner
      by_cases isH : q = h
      · rw [if_pos isH] at isPartner
        right
        left
        rw [← Option.some.inj isPartner]
        exact ⟨isH, found⟩
      · rw [if_neg isH] at isPartner
        exact .inl isPartner

theorem attachedStream_voices (voices : m.Voices)
    (attaches : ∀ q r, m.matching h = some q → r = q ∨ r = h → (∃ slot, r = .source slot) → m.HasConverter r)
    (pair : ∀ q, m.matching h = some q → MayPair h q) : (m.attachedStream h).Voices := by
  have fields (q) := attachedStream_stream m h q
  have converter {q} : (m.attachedStream h).HasConverter q ↔ m.HasConverter q := by
    obtain ⟨p, stream⟩ := fields q
    rw [HasConverter, HasConverter, stream]
  have sourceOf {q r} (may : MayPair q r) (isSource : ∃ slot, q = .source slot) : ∃ slot, r = .source slot := by
    obtain ⟨slot, rfl⟩ := isSource
    cases r with
    | source other => exact ⟨other, rfl⟩
    | sink other => exact may.elim
  constructor
  · intro slot has
    obtain ⟨p, stream⟩ := fields (.source slot)
    rw [stream]
    exact (voices.spoke slot (converter.mp has)).attach p
  · intro slot r isPartner
    apply converter.mpr
    rcases attachedStream_attached isPartner with before | ⟨here, found⟩ | ⟨found, rfl⟩
    · exact voices.partner slot r before
    · exact attaches r r found (.inl rfl) (sourceOf (pair r found) ⟨slot, here.symm⟩)
    · exact attaches _ r found (.inr rfl) (sourceOf (pair _ found).symm ⟨slot, rfl⟩)

theorem createIn_voices (voices : m.Voices) (c : m.Consistent) (usable : m.usableHandler info = some h)
    (adds : AddsVoice ops info) (addable : addable info = true) :
    (m.createIn info ops h).1.Voices ∧
      ((∃ slot, h = .source slot) → (m.createIn info ops h).1.HasConverter h) := by
  have others {q} (other : q ≠ h) : (m.createIn info ops h).1.stream q = m.stream q := createIn_other m info ops other
  have slot := (usableHandler_free usable).1
  cases kind : info.source with
  | false =>
    rw [kind] at slot
    obtain ⟨number, -, isSink⟩ := List.mem_map.mp slot
    have other (slot) : StreamHandle.source slot ≠ h := by
      rw [← isSink]
      exact nofun
    constructor
    · constructor
      · intro slot
        rw [HasConverter, others (other slot)]
        exact voices.spoke slot
      · intro slot p isPartner
        rw [attached, others (other slot)] at isPartner
        have notH : p ≠ h := by
          intro same
          rw [same, ← isSink] at isPartner
          exact (c.handler (.source slot)).partner _ isPartner
        rw [HasConverter, others notH]
        exact voices.partner slot p isPartner
    · rintro ⟨slot, isSource⟩
      exact absurd isSource.symm (other slot)
  | true =>
    obtain ⟨accepts, words⟩ := adds addable kind
    have accepted := (createIn_accepted addable ((createIn_accepts c ops usable).mpr accepts)).1 kind
    have isInfo := createIn_info c usable ops
    have has : (m.createIn info ops h).1.HasConverter h := by
      rw [HasConverter, accepted.convert]
      exact accepted.converts
    constructor
    · constructor
      · intro slot
        by_cases here : StreamHandle.source slot = h
        · intro _
          rw [here]
          rw [← isInfo.1] at words
          exact .speaks ⟨accepted, words⟩
        · rw [HasConverter, others here]
          exact voices.spoke slot
      · intro slot p isPartner
        have before : m.attached (.source slot) = some p := by
          by_cases here : StreamHandle.source slot = h
          · rw [here] at isPartner ⊢
            rw [← isInfo.2]
            exact isPartner
          · rw [attached, others here] at isPartner
            exact isPartner
        by_cases partner : p = h
        · rw [partner]
          exact has
        · rw [HasConverter, others partner]
          exact voices.partner slot p before
    · intro _
      exact has

theorem Voices.add (voices : m.Voices) (c : m.Consistent) (adds : AddsVoice ops info) :
    (m.addRTPStream info ops).1.Voices := by
  rcases m.addRTPStream_cases info ops with ⟨same, -⟩ | ⟨h, ok, usable, ends⟩
  · rw [same]
    exact voices
  · obtain ⟨made, new⟩ := createIn_voices voices c usable adds ok
    have linked : ((m.createIn info ops h).1.attachedStream h).Voices := by
      apply attachedStream_voices made _ (createIn_attachable c usable)
      rintro q r found (rfl | rfl) ⟨slot, isSource⟩
      · have listed := searchedList_listed (matching_listed found).1
        exact (createIn_consistent c usable ops).listedSource listed slot isSource
      · exact new ⟨slot, isSource⟩
    rcases ends with ⟨-, ends⟩ | ⟨-, ⟨-, ends⟩ | ⟨-, ends⟩⟩
    · rw [ends]
      exact made
    · rw [ends]
      exact linked
    · rw [ends]
      have kept (q) := insertStream_stream ((m.createIn info ops h).1.attachedStream h) info h q
      constructor
      · intro slot has
        rw [HasConverter, kept] at has
        rw [kept]
        exact linked.spoke slot has
      · intro slot p isPartner
        rw [attached, kept] at isPartner
        rw [HasConverter, kept]
        exact linked.partner slot p isPartner

theorem init_voices (macAddress : Nat → MACAddress) (livesIn : RingMemory) : (init macAddress livesIn).Voices := by
  constructor
  · intro slot has
    cases has
  · intro slot p isPartner
    cases isPartner

theorem Voices.removeAll (voices : m.Voices) (c : m.Consistent) (ops : RTPAudioStreamOps) :
    (m.removeAllRTPStreams ops).Voices := by
  have start : { m with sourceOrdered := [] }.Consistent :=
    ⟨c.handler, c.netfilter, by simp, List.nodup_nil, c.sink, c.sinkOnce⟩
  have unlistedSource : ∀ h ∈ sourceSlots, ¬ { m with sourceOrdered := [] }.Listed h := by
    rintro h slot (listed | ⟨nic, listed⟩)
    · cases listed
    · exact sourceSlots_sinkSlots slot (c.sink nic h listed).1
  obtain ⟨c1, sources, -⟩ := releaseAll ops sourceSlots start unlistedSource
  have kept1 := releaseAll_sameVoices ops sourceSlots start unlistedSource
  unfold removeAllRTPStreams
  generalize sourceSlots.foldl (release · ops ·) { m with sourceOrdered := [] } = m1 at *
  have middle : { m1 with sinkOrdered := fun _ => [] }.Consistent :=
    ⟨c1.handler, c1.netfilter, c1.source, c1.sourceOnce, by simp, fun _ => List.nodup_nil⟩
  have unlistedSink : ∀ h ∈ sinkSlots, ¬ { m1 with sinkOrdered := fun _ => [] }.Listed h := by
    rintro h slot (listed | ⟨nic, listed⟩)
    · exact absurd (sources ▸ listed) List.not_mem_nil
    · cases listed
  have voices0 : Voices { m with sourceOrdered := [] } := ⟨voices.spoke, voices.partner⟩
  have voices1 : m1.Voices := voices0.kept kept1
  have voices2 : Voices { m1 with sinkOrdered := fun _ => [] } := ⟨voices1.spoke, voices1.partner⟩
  exact voices2.kept (releaseAll_sameVoices ops sinkSlots middle unlistedSink)

structure Speaking (m : RTPStreamsManager) : Prop where
  voice : ∀ h ∈ m.sourceOrdered, Voice (m.stream h)
  partner : ∀ h ∈ m.sourceOrdered, ∀ p, m.attached h = some p → p ≠ h ∧ Spoke (m.stream p)

theorem Speaking.same (speaking : m.Speaking) (sources : m'.sourceOrdered = m.sourceOrdered)
    (streams : ∀ h, SameStream (m.stream h) (m'.stream h)) : m'.Speaking := by
  constructor
  · intro h listed
    rw [sources] at listed
    exact (speaking.voice h listed).same (streams h)
  · intro h listed p isPartner
    rw [sources] at listed
    rw [attached, (streams h).attached] at isPartner
    obtain ⟨other, spoke⟩ := speaking.partner h listed p isPartner
    exact ⟨other, spoke.same (streams p)⟩

theorem Voices.speaking (voices : m.Voices) (c : m.Consistent) : m.Speaking := by
  constructor
  · intro h listed
    obtain ⟨slot, -, accepted⟩ := c.source h listed
    obtain ⟨number, -, rfl⟩ := List.mem_map.mp slot
    have has : m.HasConverter (.source number) := by
      rw [HasConverter, accepted.convert]
      exact accepted.converts
    cases voices.spoke number has with
    | speaks voice => exact voice
    | destroyed channels => exact absurd channels accepted.valid.someChannel
  · intro h listed p isPartner
    obtain ⟨number, -, rfl⟩ := List.mem_map.mp (c.source h listed).1
    have may := (c.handler _).partner p isPartner
    refine ⟨may.ne, ?_⟩
    cases p with
    | source other => exact voices.spoke other (voices.partner number _ isPartner)
    | sink other => exact may.elim

variable {skb : Bool} {livesOut : RingMemory}

theorem sendFrom_speaking (speaking : m.Speaking) (listed : h ∈ m.sourceOrdered) (few : ops.frameSize.toNat < 2 ^ 24)
    (inside : ops.playbackBufferOffset < ops.liveOutJitterBufferLength) :
    Succeeds (m.sendFrom ops skb livesOut h) := by
  apply Succeeds.bind
  · apply sendRTPAudioPackets_spoke _ (speaking.voice h listed) _ few inside
    intro s isPartner
    obtain ⟨p, attachedTo, rfl⟩ := Option.map_eq_some_iff.mp isPartner
    exact (speaking.partner h listed p attachedTo).2
  · intro done _
    dsimp only
    split
    · exact succeeds_ok _
    · exact succeeds_ok _

theorem sendEach_speaking (l : List StreamHandle) (speaking : m.Speaking) (sources : ∀ h ∈ l, h ∈ m.sourceOrdered)
    (few : ops.frameSize.toNat < 2 ^ 24) (inside : ops.playbackBufferOffset < ops.liveOutJitterBufferLength) :
    Succeeds (sendEach ops skb livesOut l m) := by
  induction l generalizing m with
  | nil => exact succeeds_ok _
  | cons h rest ih =>
    have listed := sources h (List.mem_cons_self ..)
    apply Succeeds.bind (sendFrom_speaking speaking listed few inside)
    intro first sent
    have same := sendFrom_same (fun self => (speaking.partner h listed h self).1 rfl) sent
    apply Succeeds.bind
    · apply ih (speaking.same same.sourceOrdered same.stream)
      intro q later
      rw [same.sourceOrdered]
      exact sources q (List.mem_cons_of_mem _ later)
    · intro later _
      exact succeeds_ok _

theorem sendOutgoingPackets_succeeds (speaking : m.Speaking) (few : ops.frameSize.toNat < 2 ^ 24)
    (inside : ops.playbackBufferOffset < ops.liveOutJitterBufferLength) :
    Succeeds (m.sendOutgoingPackets ops skb livesOut) := by
  have entered := enterAll m.sourceOrdered m
  apply Succeeds.bind
  · apply sendEach_speaking _ _ _ few inside
    · apply speaking.same entered.sourceOrdered
      intro h
      have same : (m.sourceOrdered.foldl readerEnter m).stream h = m.stream h := by rw [stream, entered.handler, stream]
      rw [same]
      exact .refl _
    · intro h listed
      rw [entered.sourceOrdered]
      exact listed
  · intro done _
    exact succeeds_ok _

end RTPStreamsManager

end RavennaLkm
