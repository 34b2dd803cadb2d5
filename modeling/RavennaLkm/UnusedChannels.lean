import RavennaLkm.AudioStream

/-!
De-interleaving into a sink that routes only some of its channels. `Create`
stores a NULL ring for an unused channel; the converters it selects look at the
ring of every channel.
-/
namespace RavennaLkm
open CheckedLoop

structure Completes (s : RTPAudioStream) (full : Nat → Nat) : Prop where
  keeps : ∀ us base, s.livesInCircularBuffer us = some base → full us = base

def StandInCell (s : RTPAudioStream) (full : Nat → Nat) (offset nbSamples : UInt32) (a : Nat) : Prop :=
  ∃ us < s.rtpStreamInfo.nbOfChannels.toNat, s.livesInCircularBuffer us = none ∧
    ∃ i < nbSamples.toNat, a = full us + (outPos offset + i)

/-- No unmapped channel is touched, and every other cell ends as it would with all channels mapped. -/
def UnusedTransparent (s : RTPAudioStream) (payload : Nat → UInt8) (offset nbSamples : UInt32)
    (mem : RingMemory) : Prop :=
  ∃ after, convertToLivesIn s (fun k => .ok (payload k)) s.livesInCircularBuffer offset nbSamples mem
      = .ok after ∧
    ∀ full, Completes s full → ∀ reference,
      convertToLivesIn s (fun k => .ok (payload k)) (fun us => some (full us)) offset nbSamples mem
        = .ok reference →
      ∀ a, ¬ StandInCell s full offset nbSamples a → after a = reference a

/-- A converter call leaves unmapped channels alone exactly when there are none, or
nothing to convert. -/
theorem unused_channels_transparent_iff {self : RTPAudioStream} {info : RTPStreamInfo}
    {ops : RTPAudioStreamOps} {nf : EtherTubeNetfilter} {livesIn : RingMemory}
    (sink : info.source = false) (created : (create self info ops nf livesIn).2.2 = true)
    (payload : Nat → UInt8) (offset nbSamples : UInt32) (mem : RingMemory) :
    UnusedTransparent (create self info ops nf livesIn).1 payload offset nbSamples mem ↔
      nbSamples = 0 ∨ ∀ us < info.nbOfChannels.toNat, getRouting info us ≠ unusedChannel := by
  have made := create_sink sink created
  have routed := ((create_succeeds_iff _ _ _ _ _).mp created).2.1
  obtain ⟨f, converter⟩ := Option.isSome_iff_exists.mp made.converts
  generalize (create self info ops nf livesIn).1 = s at made ⊢
  have channels : s.rtpStreamInfo.nbOfChannels.toUInt32.toNat = info.nbOfChannels.toNat := by
    rw [made.info_eq, UInt8.toNat_toUInt32]
  have calls : ∀ input rings, convertToLivesIn s input rings offset nbSamples mem =
      f.call input rings offset s.rtpStreamInfo.nbOfChannels.toUInt32 nbSamples mem := by
    intro input rings
    rw [convertToLivesIn, made.convert, converter]
  constructor
  · rintro ⟨after, done, -⟩
    by_cases none : nbSamples = 0
    · exact .inl none
    · right
      intro us below unused
      have one : 0 < nbSamples.toNat := Nat.pos_of_ne_zero fun zero => none (UInt32.toNat_inj.mp zero)
      rw [calls] at done
      have mapped := (f.call_succeeds ⟨after, done⟩ us (by rw [channels]; exact below) 0 one).1
      rw [made.rings us below, liveInRing, if_pos unused] at mapped
      contradiction
  · intro usable
    have mapped : ∀ us < s.rtpStreamInfo.nbOfChannels.toUInt32.toNat, ∀ i < nbSamples.toNat,
        s.livesInCircularBuffer us = some ((s.livesInCircularBuffer us).getD 0) := by
      intro us below i iBelow
      rw [channels] at below
      rcases usable with rfl | used
      · simp at iBelow
      · have ring := routed us below
        simp only [ChannelRouted, sink, used us below, Bool.false_eq_true, if_false, false_or] at ring
        rw [made.rings us below, liveInRing, if_neg (used us below)]
        obtain ⟨base, isBase⟩ := Option.isSome_iff_exists.mp ring
        rw [isBase, Option.getD_some]
    have run : ∀ rings : ChannelMap, ∀ base : Nat → Nat,
        (∀ us < s.rtpStreamInfo.nbOfChannels.toUInt32.toNat, ∀ i < nbSamples.toNat,
          rings us = some (base us)) →
        convertToLivesIn s (fun k => .ok (payload k)) rings offset nbSamples mem =
          .ok (f.deInterleaved payload base offset s.rtpStreamInfo.nbOfChannels.toUInt32 nbSamples mem) := by
      intro rings base given
      rw [calls]
      exact f.call_eq_deInterleaved mem fun us below i iBelow =>
        ⟨given us below i iBelow, fun _ _ => rfl⟩
    refine ⟨_, run _ _ mapped, ?_⟩
    intro full completes reference same a _
    have agree : ∀ us < s.rtpStreamInfo.nbOfChannels.toUInt32.toNat, ∀ i < nbSamples.toNat,
        some (full us) = some ((s.livesInCircularBuffer us).getD 0) := by
      intro us below i iBelow
      rw [completes.keeps us _ (mapped us below i iBelow)]
    rw [run _ _ agree] at same
    cases same
    rfl

def halfRoutedSink : RTPStreamInfo where
  sizeofStreamInfo := sizeofRTPStreamInfo
  cName := [83]
  playOutDelay := 64
  frameSize := 48
  maxSamplesPerPacket := 48
  rtcpSrcIP := 0xC0A80001
  destIP := 0xEF010001
  destPort := 5004
  payloadType := 98
  samplingRate := 48000
  codec := .l24
  wordLength := 3
  nbOfChannels := 2
  routing := fun us => if us = 0 then 0 else unusedChannel

def twoRingOps : RTPAudioStreamOps where
  liveInJitterBuffer := fun ch => if ch < 2 then some (ringBufferSize.toNat * ch.toNat) else none
  liveInJitterBufferLength := ringBufferSize

theorem unused_channels_transparent_iff_halfRouted :
    UnusedTransparent (create {} halfRoutedSink twoRingOps {} (fun _ => {})).1 (fun _ => 0) 0 48
      (fun _ => {}) ↔
    (48 : UInt32) = 0 ∨ ∀ us < halfRoutedSink.nbOfChannels.toNat,
      getRouting halfRoutedSink us ≠ unusedChannel :=
  unused_channels_transparent_iff rfl rfl _ _ _ _

theorem halfRouted_not_transparent :
    isValid halfRoutedSink = true ∧
      (create {} halfRoutedSink twoRingOps {} (fun _ => {})).2.2 = true ∧
      ¬ UnusedTransparent (create {} halfRoutedSink twoRingOps {} (fun _ => {})).1 (fun _ => 0) 0 1
        (fun _ => {}) := by
  refine ⟨by decide, rfl, ?_⟩
  rintro ⟨after, done, -⟩
  have fault : convertToLivesIn (create {} halfRoutedSink twoRingOps {} (fun _ => {})).1
      (fun _ => .ok 0) (create {} halfRoutedSink twoRingOps {} (fun _ => {})).1.livesInCircularBuffer
      0 1 (fun _ => {}) = .error .nullPointer := rfl
  rw [fault] at done
  cases done

end RavennaLkm
