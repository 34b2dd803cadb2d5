import RavennaLkm.ChannelRings
import RavennaLkm.PacketDispatch
import RavennaLkm.StatusEvents
import RavennaLkm.Lib.RingCursor

/-!
The muting of PrepareBufferLives over consecutive ticks: which sink mutes, frame
by frame, until its whole rings are muted.
-/
namespace RavennaLkm
open CheckedLoop GuardedRun

namespace RTPAudioStream

def Routed (s : RTPAudioStream) (base : Nat) : Prop :=
  ∃ us < s.rtpStreamInfo.nbOfChannels.toNat, s.livesInCircularBuffer us = some base

def InFrame (s : RTPAudioStream) (ops : RTPAudioStreamOps) (a : Nat) : Prop :=
  ∃ base, s.Routed base ∧ base + (ringOffset ops ops.globalSAC).toNat ≤ a ∧
    a < base + (ringOffset ops ops.globalSAC).toNat + ops.frameSize.toNat

structure Held (s t : RTPAudioStream) : Prop where
  stream : t.toRTPStream = s.toRTPStream
  rings : t.livesInCircularBuffer = s.livesInCircularBuffer
  wordLength : t.audioEngineSampleWordLength = s.audioEngineSampleWordLength

theorem Held.refl (s : RTPAudioStream) : Held s s := ⟨rfl, rfl, rfl⟩

theorem Held.trans {s t u : RTPAudioStream} (first : Held s t) (later : Held t u) : Held s u where
  stream := later.stream.trans first.stream
  rings := later.rings.trans first.rings
  wordLength := later.wordLength.trans first.wordLength

theorem Held.inFrame {s t : RTPAudioStream} (held : Held s t) (ops : RTPAudioStreamOps) (a : Nat) :
    t.InFrame ops a ↔ s.InFrame ops a := by
  unfold InFrame Routed
  rw [held.rings, held.stream]

end RTPAudioStream

structure RTPAudioStreamOps.FrameInside (ops : RTPAudioStreamOps) : Prop where
  ring : ops.liveInJitterBufferLength ≠ 0
  bytes : 4 * ops.liveInJitterBufferLength.toNat < 2 ^ 32
  frame : (ringOffset ops ops.globalSAC).toNat + ops.frameSize.toNat ≤ ops.liveInJitterBufferLength.toNat

section
open RTPAudioStream
variable {s t : RTPAudioStream} {partner : Option RTPStream} {ops : RTPAudioStreamOps} {mem mem' : RingMemory}

theorem muteLivesIn_cell (inside : ops.FrameInside) (word : s.audioEngineSampleWordLength = 4)
    (mem : RingMemory) (a : Nat) :
    s.InFrame ops a ∧ muteLivesIn s ops (ringOffset ops ops.globalSAC) ops.frameSize mem a =
        mutedCell ops.mutePattern ∨
      ¬ s.InFrame ops a ∧ muteLivesIn s ops (ringOffset ops ops.globalSAC) ops.frameSize mem a = mem a := by
  have frame := inside.frame
  have bytes := inside.bytes
  have cells (n : UInt32) (small : n.toNat ≤ ops.liveInJitterBufferLength.toNat) :
      (n * 4).toNat / 4 = n.toNat := by
    have four : (4 : UInt32).toNat = 4 := rfl
    rw [UInt32.toNat_mul, four, Nat.mod_eq_of_lt (by omega), Nat.mul_div_cancel _ (by decide)]
  let reached (k a : Nat) := ∃ us < k, ∃ base, s.livesInCircularBuffer us = some base ∧
    base + (ringOffset ops ops.globalSAC).toNat ≤ a ∧
      a < base + (ringOffset ops ops.globalSAC).toNat + ops.frameSize.toNat
  have all : s.InFrame ops a ↔ reached s.rtpStreamInfo.nbOfChannels.toNat a := by
    constructor
    · rintro ⟨base, ⟨us, below, isBase⟩, range⟩
      exact ⟨us, below, base, isBase, range⟩
    · rintro ⟨us, below, base, isBase, range⟩
      exact ⟨base, ⟨us, below, isBase⟩, range⟩
  rw [all]
  unfold muteLivesIn
  rw [word]
  apply iterUp_invariant fun k (after : RingMemory) => reached k a ∧ after a = mutedCell ops.mutePattern ∨
    ¬ reached k a ∧ after a = mem a
  · right
    constructor
    · rintro ⟨us, below, _⟩
      exact absurd below (Nat.not_lt_zero us)
    · rfl
  · intro k _ before known
    have next : reached (k + 1) a ↔ reached k a ∨ ∃ base, s.livesInCircularBuffer k = some base ∧
        base + (ringOffset ops ops.globalSAC).toNat ≤ a ∧
          a < base + (ringOffset ops ops.globalSAC).toNat + ops.frameSize.toNat := by
      constructor
      · rintro ⟨us, below, rest⟩
        by_cases last : us = k
        · rw [last] at rest
          exact .inr rest
        · exact .inl ⟨us, by omega, rest⟩
      · rintro (⟨us, below, rest⟩ | rest)
        · exact ⟨us, by omega, rest⟩
        · exact ⟨k, by omega, rest⟩
    rw [next]
    cases isRing : s.livesInCircularBuffer k with
    | none => simpa using known
    | some base =>
      have offset := cells (ringOffset ops ops.globalSAC) (by omega)
      have count := cells ops.frameSize (by omega)
      have word4 : UInt16.toUInt32 4 = 4 := rfl
      rw [word4, offset, count]
      simp only [Option.some.injEq, exists_eq_left']
      unfold muteCells
      by_cases here : base + (ringOffset ops ops.globalSAC).toNat ≤ a ∧
          a < base + (ringOffset ops ops.globalSAC).toNat + ops.frameSize.toNat
      · rw [if_pos here]
        exact .inl ⟨.inr here, rfl⟩
      · rw [if_neg here]
        simpa only [here, or_false] using known

theorem updateStreamStatus_held (s : RTPAudioStream) (muted globalMuted : Bool) :
    Held s (updateStreamStatus s muted globalMuted) := ⟨rfl, rfl, rfl⟩

theorem muteFrame_counts (done : muteFrame s ops mem = .ok (t, mem')) :
    Held s t ∧ (s.ethNetfilter.nicId = 0 → s.livesInDMCounter < ops.liveInJitterBufferLength / ops.frameSize →
      t.livesInDMCounter = s.livesInDMCounter + 1) := by
  unfold muteFrame at done
  split at done
  · obtain ⟨offset, -, rest⟩ := bind_eq_ok.mp done
    split at rest
    · cases rest
    · split at rest
      · cases rest
        exact ⟨⟨rfl, rfl, rfl⟩, fun _ _ => rfl⟩
      · rename_i full
        cases rest
        exact ⟨.refl s, fun _ below => absurd below full⟩
  · rename_i otherNic
    cases done
    exact ⟨.refl s, fun nic0 => absurd nic0 otherNic⟩

theorem prepareBufferLives_held (prepared : prepareBufferLives s partner ops mem = .ok (t, mem')) : Held s t := by
  rw [prepareBufferLives_eq] at prepared
  split at prepared
  · cases prepared
    exact .refl s
  · split at prepared
    · obtain ⟨⟨u, mem''⟩, muted, last⟩ := bind_eq_ok.mp prepared
      cases last
      exact (muteFrame_counts muted).1.trans (updateStreamStatus_held u false _)
    · cases prepared
      exact ⟨rfl, rfl, rfl⟩

/-- One sink in a tick: whether it mutes is one decision, and what it writes is in its frame. -/
theorem prepareBufferLives_cells (inside : ops.FrameInside) (word : s.audioEngineSampleWordLength = 4)
    (sink : s.rtpStreamInfo.source = false) (prepared : prepareBufferLives s partner ops mem = .ok (t, mem')) :
    Held s t ∧
      (mutesFrame s partner ops = true → t.livesInDMCounter = s.livesInDMCounter + 1 ∧
        ∀ a, s.InFrame ops a → mem' a = mutedCell ops.mutePattern) ∧
      ∀ a, mem' a = mem a ∨ mem' a = mutedCell ops.mutePattern ∧ s.InFrame ops a := by
  obtain ⟨offset, isOffset, isMem⟩ := prepareBufferLives_mutes sink prepared
  change mem' = _ at isMem
  have counts (mutes : mutesFrame s partner ops = true) : t.livesInDMCounter = s.livesInDMCounter + 1 := by
    rw [prepareBufferLives_eq, sink, if_neg Bool.false_ne_true] at prepared
    simp only [mutesFrame, Bool.and_eq_true, beq_iff_eq, decide_eq_true_eq] at mutes
    rw [if_pos mutes.1.1] at prepared
    obtain ⟨⟨u, mem''⟩, muted, last⟩ := bind_eq_ok.mp prepared
    cases last
    exact (muteFrame_counts muted).2 mutes.1.2 mutes.2
  refine ⟨prepareBufferLives_held prepared, ?_, ?_⟩
  · intro mutes
    refine ⟨counts mutes, ?_⟩
    intro a inFrame
    have atOffset := isOffset mutes
    rw [getLiveInJitterBufferOffset_eq inside.ring] at atOffset
    cases atOffset
    rw [isMem, if_pos mutes]
    rcases muteLivesIn_cell inside word mem a with ⟨_, muted⟩ | ⟨outside, _⟩
    · exact muted
    · exact absurd inFrame outside
  · intro a
    rw [isMem]
    split
    · rename_i mutes
      have atOffset := isOffset mutes
      rw [getLiveInJitterBufferOffset_eq inside.ring] at atOffset
      cases atOffset
      rcases muteLivesIn_cell inside word mem a with ⟨inFrame, muted⟩ | ⟨_, kept⟩
      · exact .inr ⟨muted, inFrame⟩
      · exact .inl kept
    · exact .inl rfl

theorem updateSinkAheadTime_wordLength {sac : UInt64} (done : updateSinkAheadTime s ops sac = .ok t) :
    t.audioEngineSampleWordLength = s.audioEngineSampleWordLength := by
  obtain ⟨inFrame, -, rest⟩ := bind_eq_ok.mp done
  simp only at rest
  split_ifs at rest
  all_goals
    cases rest
    rfl

theorem processRTPAudioPacket_wordLength {frame : RTPFrame} {used : Bool}
    (done : processRTPAudioPacket s partner ops frame mem = .ok (t, mem', used)) :
    t.audioEngineSampleWordLength = s.audioEngineSampleWordLength := by
  have checked : (checkRTPHeader s frame.packetBase.rtpHeader).1.audioEngineSampleWordLength =
      s.audioEngineSampleWordLength := by
    obtain ⟨-, did⟩ | ⟨-, -, did⟩ | ⟨-, -, -, did⟩ | ⟨-, -, -, -, _, did⟩ | ⟨-, -, -, -, did⟩ :=
      StatusEvent.checkRTPHeader_cases s frame.packetBase.rtpHeader
    all_goals rw [did]
  unfold processRTPAudioPacket at done
  simp only at done
  split at done
  · obtain ⟨skip, -, rest⟩ := bind_eq_ok.mp done
    obtain ⟨n, -, rest⟩ := bind_eq_ok.mp rest
    split at rest
    · cases rest
      exact checked
    · obtain ⟨⟨t', mem''⟩, received, last⟩ := bind_eq_ok.mp rest
      cases last
      obtain ⟨copied, -, rest⟩ := bind_eq_ok.mp received
      obtain ⟨ahead, updated, last⟩ := bind_eq_ok.mp rest
      cases last
      exact (updateSinkAheadTime_wordLength updated).trans checked
  · cases done
    exact checked

end

namespace RTPStreamsManager
open RTPAudioStream

variable {m m' : RTPStreamsManager} {ops : RTPAudioStreamOps} {h p : StreamHandle}

def Mutes (m : RTPStreamsManager) (ops : RTPAudioStreamOps) (h : StreamHandle) : Prop :=
  mutesFrame (m.stream h) (m.partnerOf h) ops = true

/-- A pass over the sinks `l`: the ones that mute count it and leave their frames muted, and nothing else is
written. -/
structure Passed (ops : RTPAudioStreamOps) (l : List StreamHandle) (m m' : RTPStreamsManager) : Prop where
  sinkOrdered : m'.sinkOrdered = m.sinkOrdered
  held : ∀ h, Held (m.stream h) (m'.stream h)
  counted : ∀ h ∈ l, m.Mutes ops h → (m'.stream h).livesInDMCounter = (m.stream h).livesInDMCounter + 1
  others : ∀ h, h ∉ l → m'.stream h = m.stream h
  muted : ∀ h ∈ l, m.Mutes ops h → ∀ a, (m.stream h).InFrame ops a → m'.livesIn a = mutedCell ops.mutePattern
  written : ∀ a, m'.livesIn a = m.livesIn a ∨
    m'.livesIn a = mutedCell ops.mutePattern ∧ ∃ h ∈ l, (m.stream h).InFrame ops a

theorem partnerOf_alike (attached : m'.attached h = m.attached h)
    (held : ∀ p, m.attached h = some p → Held (m.stream p) (m'.stream p)) :
    PartnersAlike (m.partnerOf h) (m'.partnerOf h) := by
  unfold PartnersAlike partnerOf
  rw [attached]
  cases isPartner : m.attached h with
  | none => rfl
  | some p =>
    simp only [Option.map_some]
    rw [(held p isPartner).stream]

theorem Mutes.congr (same : m'.stream h = m.stream h)
    (held : ∀ p, m.attached h = some p → Held (m.stream p) (m'.stream p)) : m'.Mutes ops h ↔ m.Mutes ops h := by
  have attached : m'.attached h = m.attached h := by
    unfold RTPStreamsManager.attached
    rw [same]
  unfold Mutes
  rw [same, (Alike.refl (m.stream h)).mutesFrame (partnerOf_alike attached held)]

theorem prepareEach_passed (inside : ops.FrameInside) (l : List StreamHandle) (once : l.Nodup)
    (sinks : ∀ h ∈ l, (m.stream h).rtpStreamInfo.source = false ∧ (m.stream h).audioEngineSampleWordLength = 4)
    (prepared : prepareEach ops l m = .ok m') : Passed ops l m m' := by
  induction l generalizing m with
  | nil =>
    cases prepared
    exact ⟨rfl, fun h => .refl _, by simp, fun _ _ => rfl, by simp, fun _ => .inl rfl⟩
  | cons h rest ih =>
    obtain ⟨⟨s, mem⟩, run, later⟩ := bind_eq_ok.mp prepared
    obtain ⟨notLater, once⟩ := List.nodup_cons.mp once
    obtain ⟨sink, word⟩ := sinks h (List.mem_cons_self ..)
    obtain ⟨held, mutes, cells⟩ := prepareBufferLives_cells inside word sink run
    have here : (m.storeStream h s mem).stream h = s := setStream_same ..
    have other (q) (isOther : q ≠ h) : (m.storeStream h s mem).stream q = m.stream q := setStream_other s isOther
    have heldAll (q) : Held (m.stream q) ((m.storeStream h s mem).stream q) := by
      by_cases same : q = h
      · rw [same, here]
        exact held
      · rw [other q same]
        exact .refl _
    have apart (q) (listed : q ∈ rest) : q ≠ h := by
      intro same
      rw [same] at listed
      exact notLater listed
    have passed : Passed ops rest (m.storeStream h s mem) m' := by
      apply ih once _ later
      intro q listed
      rw [other q (apart q listed)]
      exact sinks q (List.mem_cons_of_mem _ listed)
    have same (q) (listed : q ∈ rest) : (m.storeStream h s mem).Mutes ops q ↔ m.Mutes ops q :=
      Mutes.congr (other q (apart q listed)) fun p _ => heldAll p
    constructor
    case sinkOrdered => exact passed.sinkOrdered
    case held =>
      intro q
      exact (heldAll q).trans (passed.held q)
    case counted =>
      intro q listed isMuter
      rcases List.mem_cons.mp listed with isFirst | isLater
      · rw [isFirst] at isMuter ⊢
        rw [passed.others h notLater, here]
        exact (mutes isMuter).1
      · rw [passed.counted q isLater ((same q isLater).mpr isMuter), other q (apart q isLater)]
    case others =>
      intro q unlisted
      rw [List.mem_cons, not_or] at unlisted
      rw [passed.others q unlisted.2, other q unlisted.1]
    case muted =>
      intro q listed isMuter a inFrame
      rcases List.mem_cons.mp listed with isFirst | isLater
      · rw [isFirst] at isMuter inFrame
        have now : mem a = mutedCell ops.mutePattern := (mutes isMuter).2 a inFrame
        rcases passed.written a with kept | ⟨muted, _⟩
        · rw [kept]
          exact now
        · exact muted
      · apply passed.muted q isLater ((same q isLater).mpr isMuter) a
        rw [other q (apart q isLater)]
        exact inFrame
    case written =>
      intro a
      rcases passed.written a with kept | ⟨muted, q, listed, inFrame⟩
      · rw [kept]
        rcases cells a with kept | ⟨muted, inFrame⟩
        · exact .inl kept
        · exact .inr ⟨muted, h, List.mem_cons_self .., inFrame⟩
      · rw [other q (apart q listed)] at inFrame
        exact .inr ⟨muted, q, List.mem_cons_of_mem _ listed, inFrame⟩

theorem prepareEach_append (l rest : List StreamHandle) (m : RTPStreamsManager) :
    prepareEach ops (l ++ rest) m = prepareEach ops l m >>= prepareEach ops rest := by
  induction l generalizing m with
  | nil => rfl
  | cons h l ih =>
    rw [List.cons_append]
    unfold prepareEach
    cases prepareBufferLives (m.stream h) (m.partnerOf h) ops m.livesIn with
    | error fault => rfl
    | ok done => exact ih _

theorem prepareEach_held (l : List StreamHandle) (prepared : prepareEach ops l m = .ok m') (q : StreamHandle) :
    Held (m.stream q) (m'.stream q) := by
  induction l generalizing m with
  | nil =>
    cases prepared
    exact .refl _
  | cons h rest ih =>
    obtain ⟨⟨s, mem⟩, run, later⟩ := bind_eq_ok.mp prepared
    have first : Held (m.stream q) ((m.storeStream h s mem).stream q) := by
      by_cases same : q = h
      · rw [same]
        change Held _ ((m.setStream h s).stream h)
        rw [setStream_same]
        exact prepareBufferLives_held run
      · change Held _ ((m.setStream h s).stream q)
        rw [setStream_other s same]
        exact .refl _
    exact first.trans (ih later)

theorem processEach_wordLength {frame : RTPFrame} {key : UInt64} {used : Bool} (l : List StreamHandle)
    (processed : processEach ops frame key l m = .ok (m', used)) (q : StreamHandle) :
    (m'.stream q).audioEngineSampleWordLength = (m.stream q).audioEngineSampleWordLength := by
  induction l generalizing m used with
  | nil =>
    cases processed
    rfl
  | cons h rest ih =>
    rw [processEach] at processed
    split at processed
    · obtain ⟨⟨between, first⟩, one, run⟩ := bind_eq_ok.mp processed
      obtain ⟨⟨last, more⟩, later, done⟩ := bind_eq_ok.mp run
      obtain ⟨⟨s, mem, result⟩, packet, stored⟩ := bind_eq_ok.mp one
      cases done
      cases stored
      rw [ih later]
      by_cases same : q = h
      · rw [same]
        change ((m.setStream h s).stream h).audioEngineSampleWordLength = _
        rw [setStream_same]
        exact processRTPAudioPacket_wordLength packet
      · change ((m.setStream h s).stream q).audioEngineSampleWordLength = _
        rw [setStream_other s same]
    · exact ih processed

theorem processUDPPacket_wordLength {nicId : UInt8} {packet : List UInt8} {used : Bool}
    (processed : m.processUDPPacket ops nicId packet = .ok (m', used)) (q : StreamHandle) :
    (m'.stream q).audioEngineSampleWordLength = (m.stream q).audioEngineSampleWordLength := by
  unfold processUDPPacket at processed
  split at processed
  · cases processed
    rfl
  · split at processed
    · dsimp only at processed
      split at processed
      · cases processed
        rfl
      · exact processEach_wordLength _ processed q
    · cases processed
      rfl

def allSinks (m : RTPStreamsManager) : List StreamHandle := m.sinkOrdered 0 ++ m.sinkOrdered 1

/-- A tick is a pass over all sinks; the sources before them leave no trace. -/
theorem prepareBufferLivesAll_eq (c : m.Consistent) (prepared : m.prepareBufferLivesAll ops = .ok m') :
    ∃ before, SinksKept m before ∧ prepareEach ops m.allSinks before = .ok m' := by
  obtain ⟨pass, run, rest⟩ := bind_eq_ok.mp prepared
  have kept := (prepareSources_sinks c run).2
  refine ⟨_, kept, ?_⟩
  obtain ⟨nic0, run0, run1⟩ := bind_eq_ok.mp rest
  unfold allSinks
  rw [prepareEach_append, ← kept.sinkOrdered, run0, ok_bind, ← (prepareEach_same _ run0).sinkOrdered]
  exact run1

/-- Every sink that is listed was given the word length of the audio engine. -/
theorem Reachable.wordLength (reached : m.Reachable) :
    m.EachSink fun _ s => s.audioEngineSampleWordLength = 4 := by
  obtain ⟨macAddress, livesIn, calls, run⟩ := reached
  have both : m.Consistent ∧ m.EachSink fun _ s => s.audioEngineSampleWordLength = 4 := by
    apply run.invariant fun m => m.Consistent ∧ m.EachSink fun _ s => s.audioEngineSampleWordLength = 4
    · constructor
      · exact init_consistent macAddress livesIn
      · intro nic h listed
        cases listed
    · intro before op after ⟨c, words⟩ _ next
      refine ⟨step_consistent c next, ?_⟩
      have listed_sink (nic) (h) (listed : h ∈ before.sinkOrdered nic) : ∃ n, h = .sink n :=
        sink_of_slot (c.sink nic h listed).1
      cases op with
      | add info ops =>
        cases next
        refine words.add c info ops (fun _ _ _ word => word) ?_
        intro h _ created sink
        rw [createIn_snd] at created
        rw [createIn_stream]
        exact (create_sink sink created).wordLength
      | remove h ops =>
        cases next
        exact words.remove c ops h fun _ _ _ word => word
      | removeAll ops =>
        cases next
        intro nic h listed
        exact absurd (.inr ⟨nic, listed⟩) (removeAllRTPStreams_lists c ops h)
      | sendOutgoing ops skb livesOut =>
        obtain ⟨done, sent, last⟩ := map_eq_ok.mp next
        cases last
        have kept := sendOutgoingPackets_kept c sent
        intro nic h listed
        rw [kept.sinkOrdered] at listed
        obtain ⟨n, rfl⟩ := listed_sink nic h listed
        rw [kept.stream]
        exact words nic _ listed
      | processUDP ops nicId packet =>
        obtain ⟨done, processed, last⟩ := map_eq_ok.mp next
        cases last
        apply words.congr
        · intro nic
          rw [(processUDPPacket_same processed).sinkOrdered]
          exact List.Subset.refl _
        · intro nic h _ word
          rw [processUDPPacket_wordLength processed]
          exact word
      | prepareLives ops =>
        obtain ⟨between, kept, run⟩ := prepareBufferLivesAll_eq c next
        intro nic h listed
        rw [(prepareEach_same _ run).sinkOrdered, kept.sinkOrdered] at listed
        obtain ⟨n, rfl⟩ := listed_sink nic h listed
        rw [(prepareEach_held _ run _).wordLength, kept.stream]
        exact words nic _ listed
  exact both.2

theorem listed_of_allSinks (listed : h ∈ m.allSinks) : ∃ nic, h ∈ m.sinkOrdered nic := by
  rcases List.mem_append.mp listed with nic0 | nic1
  · exact ⟨0, nic0⟩
  · exact ⟨1, nic1⟩

theorem sink_of_allSinks (c : m.Consistent) (listed : h ∈ m.allSinks) : ∃ n, h = .sink n := by
  obtain ⟨nic, listed⟩ := listed_of_allSinks listed
  exact sink_of_slot (c.sink nic h listed).1

theorem allSinks_nodup (c : m.Consistent) : m.allSinks.Nodup := by
  apply List.nodup_append.mpr
  refine ⟨c.sinkOnce 0, c.sinkOnce 1, ?_⟩
  intro h nic0 p nic1 same
  have on0 := (c.sink 0 h nic0).2.1
  have on1 := (c.sink 1 p nic1).2.1
  rw [← same] at on1
  omega

/-- One tick of the manager, as its sinks see it. -/
structure Ticked (ops : RTPAudioStreamOps) (m m' : RTPStreamsManager) : Prop where
  sinkOrdered : m'.sinkOrdered = m.sinkOrdered
  held : ∀ n, Held (m.stream (.sink n)) (m'.stream (.sink n))
  counted : ∀ h ∈ m.allSinks, m.Mutes ops h → (m'.stream h).livesInDMCounter = (m.stream h).livesInDMCounter + 1
  muted : ∀ h ∈ m.allSinks, m.Mutes ops h →
    ∀ a, (m.stream h).InFrame ops a → m'.livesIn a = mutedCell ops.mutePattern
  written : ∀ a, m'.livesIn a = m.livesIn a ∨
    m'.livesIn a = mutedCell ops.mutePattern ∧ ∃ h ∈ m.allSinks, (m.stream h).InFrame ops a

theorem prepareBufferLivesAll_ticked (reached : m.Reachable) (inside : ops.FrameInside)
    (prepared : m.prepareBufferLivesAll ops = .ok m') : Ticked ops m m' := by
  have c := reached.consistent
  obtain ⟨between, kept, run⟩ := prepareBufferLivesAll_eq c prepared
  have same (h) (listed : h ∈ m.allSinks) : between.stream h = m.stream h := by
    obtain ⟨n, rfl⟩ := sink_of_allSinks c listed
    exact kept.stream n
  have passed : Passed ops m.allSinks between m' := by
    apply prepareEach_passed inside _ (allSinks_nodup c) _ run
    intro h listed
    obtain ⟨nic, onNic⟩ := listed_of_allSinks listed
    rw [same h listed]
    exact ⟨(c.sink nic h onNic).2.2.2.sink, reached.wordLength nic h onNic⟩
  have mutes (h) (listed : h ∈ m.allSinks) : between.Mutes ops h ↔ m.Mutes ops h := by
    apply Mutes.congr (same h listed)
    intro p isPartner
    have pair := (c.handler h).partner p isPartner
    obtain ⟨n, rfl⟩ := sink_of_allSinks c listed
    cases p with
    | source k => exact pair.elim
    | sink k =>
      rw [kept.stream]
      exact .refl _
  constructor
  case sinkOrdered => exact passed.sinkOrdered.trans kept.sinkOrdered
  case held =>
    intro n
    rw [← kept.stream]
    exact passed.held _
  case counted =>
    intro h listed isMuter
    rw [passed.counted h listed ((mutes h listed).mpr isMuter), same h listed]
  case muted =>
    intro h listed isMuter a inFrame
    apply passed.muted h listed ((mutes h listed).mpr isMuter) a
    rw [same h listed]
    exact inFrame
  case written =>
    intro a
    rcases passed.written a with unchanged | ⟨muted, h, listed, inFrame⟩
    · exact .inl (unchanged.trans (congrFun kept.livesIn a))
    · rw [same h listed] at inFrame
      exact .inr ⟨muted, h, listed, inFrame⟩

/-- Nothing that the muting depends on happens to the sinks between two ticks. -/
structure Undisturbed (m m' : RTPStreamsManager) : Prop where
  sinkOrdered : m'.sinkOrdered = m.sinkOrdered
  channels : ∀ n,
    (m'.stream (.sink n)).rtpStreamInfo.nbOfChannels = (m.stream (.sink n)).rtpStreamInfo.nbOfChannels
  rings : ∀ n, (m'.stream (.sink n)).livesInCircularBuffer = (m.stream (.sink n)).livesInCircularBuffer
  attached : ∀ n, m'.attached (.sink n) = m.attached (.sink n)
  counter : ∀ n, (m'.stream (.sink n)).livesInDMCounter = (m.stream (.sink n)).livesInDMCounter

/-- `n` ticks in a row in which every leg of the sink `h` must be muted, with frames of `F` samples and rings of
`L`; `before k` and `after k` are the states around the tick `k`. -/
structure MutedTicks (h : StreamHandle) (F L : UInt32) (pattern : UInt8) (sac n : Nat)
    (before after : Nat → RTPStreamsManager) (tick : Nat → RTPAudioStreamOps) : Prop where
  reached : ∀ k < n, (before k).Reachable
  frameSize : ∀ k < n, (tick k).frameSize = F
  ringLength : ∀ k < n, (tick k).liveInJitterBufferLength = L
  mutePattern : ∀ k < n, (tick k).mutePattern = pattern
  globalSAC : ∀ k < n, (tick k).globalSAC.toNat = sac + k * F.toNat
  muted : ∀ k < n, livesInMuted ((before k).stream h) ((before k).partnerOf h) (tick k) = true
  prepared : ∀ k < n, (before k).prepareBufferLivesAll (tick k) = .ok (after k)
  undisturbed : ∀ k, k + 1 < n → Undisturbed (after k) (before (k + 1))

/-- Each of the first ticks mutes its frame, one turn of the ring mutes all of it if no audio is written in the
meantime, and no tick writes outside the rings. -/
structure RingMuted (h : StreamHandle) (F L : UInt32) (pattern : UInt8) (sac n : Nat)
    (before after : Nat → RTPStreamsManager) : Prop where
  frames : ∀ k < n, k < L.toNat / F.toNat → ∀ base, ((before 0).stream h).Routed base →
    ∀ i < F.toNat, (after k).livesIn (base + (sac + k * F.toNat) % L.toNat + i) = mutedCell pattern
  whole : ∀ k < n, L.toNat / F.toNat ≤ k + 1 → (∀ j < k, (before (j + 1)).livesIn = (after j).livesIn) →
    ∀ base, ((before 0).stream h).Routed base → ∀ i < L.toNat, (after k).livesIn (base + i) = mutedCell pattern
  inside : ∀ k < n, ∀ a, (after k).livesIn a ≠ (before k).livesIn a →
    ∃ q ∈ (before k).allSinks, ∃ base, ((before k).stream q).Routed base ∧ base ≤ a ∧ a < base + L.toNat

/-- A leg on NIC 0 has all the rings of the sink, is the sink or paired with it, and counts from 0; the frames
are aligned in the ring, which has less than 2^32 bytes. -/
structure CanMute (m : RTPStreamsManager) (h : StreamHandle) (F L : UInt32) (sac : Nat) : Prop where
  leg : ∃ g ∈ m.sinkOrdered 0, (g = h ∨ m.attached h = some g ∧ m.attached g = some h) ∧
    (∀ base, (m.stream h).Routed base → (m.stream g).Routed base) ∧ (m.stream g).livesInDMCounter = 0
  aligned : F.toNat ∣ sac
  bytes : 4 * L.toNat < 2 ^ 32

structure Muting (h g : StreamHandle) (F L : UInt32) (k : Nat) (first m : RTPStreamsManager) : Prop where
  listed : g ∈ m.sinkOrdered 0
  legs : g = h ∨ m.attached h = some g ∧ m.attached g = some h
  routed : ∀ base, (first.stream h).Routed base → (m.stream g).Routed base
  counter : k ≤ L.toNat / F.toNat → (m.stream g).livesInDMCounter.toNat = k

variable {g : StreamHandle} {F L : UInt32} {pattern : UInt8} {sac n k : Nat} {first : RTPStreamsManager}
  {before after : Nat → RTPStreamsManager} {tick : Nat → RTPAudioStreamOps}

theorem Muting.sinks (muting : Muting h g F L k first m) (c : m.Consistent) :
    (∃ i, g = .sink i) ∧ ∃ i, h = .sink i := by
  have isSink := sink_of_slot (c.sink 0 g muting.listed).1
  refine ⟨isSink, ?_⟩
  rcases muting.legs with same | ⟨_, back⟩
  · rw [← same]
    exact isSink
  · have pair := (c.handler g).partner h back
    obtain ⟨i, rfl⟩ := isSink
    cases h with
    | source j => exact pair.elim
    | sink j => exact ⟨j, rfl⟩

/-- Both legs must be muted, so it mutes, the first time for each frame of the ring. -/
theorem Muting.mutes (muting : Muting h g F L k first m) (c : m.Consistent)
    (muted : livesInMuted (m.stream h) (m.partnerOf h) ops = true) (isF : ops.frameSize = F)
    (isL : ops.liveInJitterBufferLength = L) (below : k < L.toNat / F.toNat) : m.Mutes ops g := by
  have nic0 : (m.stream g).ethNetfilter.nicId = 0 := by
    change m.nicId g = 0
    rw [c.nicId, (c.sink 0 g muting.listed).2.1]
    rfl
  have counts : (m.stream g).livesInDMCounter < L / F := by
    rw [UInt32.lt_iff_toNat_lt, UInt32.toNat_div, muting.counter below.le]
    exact below
  have every : livesInMuted (m.stream g) (m.partnerOf g) ops = true := by
    rcases muting.legs with same | ⟨isPartner, back⟩
    · rw [same]
      exact muted
    · unfold livesInMuted partnerOf at muted ⊢
      rw [isPartner] at muted
      rw [back]
      simpa only [Option.map_some, Option.all_some, Bool.and_comm] using muted
  unfold Mutes mutesFrame
  rw [every, nic0, isF, isL]
  simpa using counts

theorem Muting.next {m₁ m₂ : RTPStreamsManager} (muting : Muting h g F L k first m) (c : m.Consistent)
    (ticked : Ticked ops m m₁) (undisturbed : Undisturbed m₁ m₂)
    (mutes : k < L.toNat / F.toNat → m.Mutes ops g) : Muting h g F L (k + 1) first m₂ := by
  obtain ⟨⟨i, rfl⟩, j, rfl⟩ := muting.sinks c
  have attached (q : Nat) : m₂.attached (.sink q) = m.attached (.sink q) := by
    rw [undisturbed.attached, RTPStreamsManager.attached, (ticked.held q).stream, RTPStreamsManager.attached]
  constructor
  · rw [undisturbed.sinkOrdered, ticked.sinkOrdered]
    exact muting.listed
  · rw [attached, attached]
    exact muting.legs
  · intro base routed
    obtain ⟨us, below, isRing⟩ := muting.routed base routed
    refine ⟨us, ?_, ?_⟩
    · rw [undisturbed.channels, (ticked.held i).stream]
      exact below
    · rw [undisturbed.rings, (ticked.held i).rings]
      exact isRing
  · intro within
    have bound := Nat.div_le_self L.toNat F.toNat
    have small := L.toNat_lt
    rw [undisturbed.counter, ticked.counted _ (List.mem_append_left _ muting.listed) (mutes within),
      UInt32.toNat_add, muting.counter (by omega), UInt32.toNat_one]
    exact Nat.mod_eq_of_lt (by omega)

theorem MutedTicks.ringOffset_eq (ticks : MutedTicks h F L pattern sac n before after tick) (someRing : L ≠ 0)
    (now : k < n) : (ringOffset (tick k) (tick k).globalSAC).toNat = (sac + k * F.toNat) % L.toNat := by
  have positive : 0 < L.toNat := Nat.pos_of_ne_zero fun zero => someRing (UInt32.toNat_inj.mp zero)
  have below := Nat.mod_lt (sac + k * F.toNat) positive
  have bound := L.toNat_lt
  rw [ringOffset, UInt64.toNat_toUInt32, UInt64.toNat_mod, UInt32.toNat_toUInt64, ticks.ringLength k now,
    ticks.globalSAC k now]
  exact Nat.mod_eq_of_lt (by omega)

theorem MutedTicks.frameInside (ticks : MutedTicks h F L pattern sac n before after tick) (someRing : L ≠ 0)
    (whole : F.toNat ∣ L.toNat) (aligned : F.toNat ∣ sac) (bytes : 4 * L.toNat < 2 ^ 32) (now : k < n) :
    (tick k).FrameInside := by
  have positive : 0 < L.toNat := Nat.pos_of_ne_zero fun zero => someRing (UInt32.toNat_inj.mp zero)
  constructor
  · rw [ticks.ringLength k now]
    exact someRing
  · rw [ticks.ringLength k now]
    exact bytes
  · rw [ticks.ringOffset_eq someRing now, ticks.ringLength k now, ticks.frameSize k now]
    exact RingCursor.fits_of_dvd positive whole aligned k

theorem MutedTicks.ticked (ticks : MutedTicks h F L pattern sac n before after tick) (someRing : L ≠ 0)
    (whole : F.toNat ∣ L.toNat) (aligned : F.toNat ∣ sac) (bytes : 4 * L.toNat < 2 ^ 32) (now : k < n) :
    Ticked (tick k) (before k) (after k) :=
  prepareBufferLivesAll_ticked (ticks.reached k now) (ticks.frameInside someRing whole aligned bytes now)
    (ticks.prepared k now)

theorem MutedTicks.muting (ticks : MutedTicks h F L pattern sac n before after tick)
    (ticked : ∀ k < n, Ticked (tick k) (before k) (after k)) (start : Muting h g F L 0 (before 0) (before 0)) :
    ∀ k < n, Muting h g F L k (before 0) (before k) := by
  intro k now
  induction k with
  | zero => exact start
  | succ k ih =>
    have earlier : k < n := by omega
    have c := (ticks.reached k earlier).consistent
    apply (ih earlier).next c (ticked k earlier) (ticks.undisturbed k now)
    exact (ih earlier).mutes c (ticks.muted k earlier) (ticks.frameSize k earlier) (ticks.ringLength k earlier)

theorem MutedTicks.stays_muted (ticks : MutedTicks h F L pattern sac n before after tick)
    (ticked : ∀ k < n, Ticked (tick k) (before k) (after k)) {j a : Nat}
    (muted : (after j).livesIn a = mutedCell pattern) (later : j ≤ k) (now : k < n)
    (quiet : ∀ i < k, (before (i + 1)).livesIn = (after i).livesIn) : (after k).livesIn a = mutedCell pattern := by
  induction k, later using Nat.le_induction with
  | base => exact muted
  | succ k later ih =>
    have held := ih (by omega) fun i below => quiet i (by omega)
    rcases (ticked (k + 1) now).written a with kept | ⟨isMuted, _⟩
    · rw [kept, quiet k (by omega)]
      exact held
    · rw [isMuted, ticks.mutePattern (k + 1) now]

theorem ring_is_muted (ticks : MutedTicks h F L pattern sac n before after tick) (someRing : L ≠ 0)
    (whole : F.toNat ∣ L.toNat) (can : (before 0).CanMute h F L sac) :
    RingMuted h F L pattern sac n before after := by
  obtain ⟨⟨g, listed, legs, routed, counter⟩, aligned, bytes⟩ := can
  have ticked (k) (now : k < n) := ticks.ticked someRing whole aligned bytes now
  have start : Muting h g F L 0 (before 0) (before 0) := ⟨listed, legs, routed, fun _ => by rw [counter]; rfl⟩
  have frames (k) (now : k < n) (below : k < L.toNat / F.toNat) (base) (isRing : ((before 0).stream h).Routed base)
      (i) (inside : i < F.toNat) :
      (after k).livesIn (base + (sac + k * F.toNat) % L.toNat + i) = mutedCell pattern := by
    have muting := ticks.muting ticked start k now
    have mutes := muting.mutes (ticks.reached k now).consistent (ticks.muted k now) (ticks.frameSize k now)
      (ticks.ringLength k now) below
    rw [← ticks.mutePattern k now]
    apply (ticked k now).muted g (List.mem_append_left _ muting.listed) mutes
    refine ⟨base, muting.routed base isRing, ?_⟩
    rw [ticks.ringOffset_eq someRing now, ticks.frameSize k now]
    omega
  constructor
  · exact frames
  · intro k now turn quiet base isRing i inside
    obtain ⟨j, below, above, under⟩ := RingCursor.exists_step_over whole aligned inside
    unfold RingCursor.after at above under
    apply ticks.stays_muted ticked _ (show j ≤ k by omega) now quiet
    generalize isPos : (sac + j * F.toNat) % L.toNat = pos at above under
    have muted := frames j (by omega) below base isRing (i - pos) (by omega)
    rwa [isPos, show base + pos + (i - pos) = base + i by omega] at muted
  · intro k now a changed
    rcases (ticked k now).written a with kept | ⟨_, q, isSink, base, isRing, above, under⟩
    · exact absurd kept changed
    · have fits := (ticks.frameInside someRing whole aligned bytes now).frame
      rw [ticks.ringLength k now] at fits
      exact ⟨q, isSink, base, isRing, by omega, by omega⟩

def ringOps (k : Nat) : RTPAudioStreamOps :=
  { oneLiveInOps with globalSAC := UInt64.ofNat (48 * k), liveInJitterBufferLength := 96 }

def unheard : Nat → RTPStreamsManager
  | 0 => withSinks [0]
  | k + 1 =>
    match (unheard k).prepareBufferLivesAll (ringOps k) with
    | .ok m => m
    | .error _ => unheard k

theorem unheard_prepared (succeeds : ((unheard k).prepareBufferLivesAll (ringOps k)).isOk = true) :
    (unheard k).prepareBufferLivesAll (ringOps k) = .ok (unheard (k + 1)) := by
  rw [unheard]
  cases prepared : (unheard k).prepareBufferLivesAll (ringOps k) with
  | ok m => rfl
  | error fault =>
    rw [prepared] at succeeds
    cases succeeds

/-- A ring of two frames. -/
theorem ring_is_muted_unheard : RingMuted (.sink 0) 48 96 0 0 2 unheard fun k => unheard (k + 1) := by
  have prepared0 := unheard_prepared (k := 0) (by decide)
  have prepared1 := unheard_prepared (k := 1) (by decide)
  have reached0 : (unheard 0).Reachable := withSinks_reachable [0]
  have ticks : MutedTicks (.sink 0) 48 96 0 0 2 unheard (fun k => unheard (k + 1)) ringOps := by
    constructor
    case reached =>
      intro k now
      interval_cases k
      · exact reached0
      · exact reached0.step (.prepareLives (ringOps 0)) prepared0
    case undisturbed =>
      intro k _
      exact ⟨rfl, fun _ => rfl, fun _ => rfl, fun _ => rfl, fun _ => rfl⟩
    case prepared =>
      intro k now
      interval_cases k
      · exact prepared0
      · exact prepared1
    all_goals
      intro k now
      interval_cases k
      all_goals decide
  apply ring_is_muted ticks (by decide) (by decide)
  exact ⟨⟨.sink 0, by decide, .inl rfl, fun base routed => routed, by decide⟩, by decide, by decide⟩

def lateTick : RTPAudioStreamOps := { oneLiveInOps with globalSAC := 54000 }

def heardOnce : Except Fault (RTPStreamsManager × RTPStreamsManager) := do
  let m ← StreamsOp.step (withSinks [1]) (.processUDP oneLiveInOps 1 (announcedFrame 1 0 4800 [1, 2, 3]))
  let m' ← m.prepareBufferLivesAll lateTick
  .ok (m, m')

/-- A sink on NIC 1 without a partner is not muted. -/
theorem lone_sink_not_muted : ¬ ∀ (h : StreamHandle) (F L : UInt32) (pattern : UInt8) (sac n : Nat)
    (before after : Nat → RTPStreamsManager) (tick : Nat → RTPAudioStreamOps),
    MutedTicks h F L pattern sac n before after tick → L ≠ 0 → F.toNat ∣ L.toNat →
    (∃ nic, h ∈ (before 0).sinkOrdered nic) → RingMuted h F L pattern sac n before after := by
  intro all
  let view := fun p : RTPStreamsManager × RTPStreamsManager =>
    (p.1.sinkOrdered 1, livesInMuted (p.1.stream (.sink 128)) (p.1.partnerOf (.sink 128)) lateTick,
      (p.1.stream (.sink 128)).rtpStreamInfo.nbOfChannels, (p.1.stream (.sink 128)).livesInCircularBuffer 0,
      p.2.livesIn 4864)
  have seen : view <$> heardOnce = .ok ([.sink 128], true, 1, some 0, ⟨0, 3, 2, 1⟩) := by decide
  obtain ⟨⟨m, m'⟩, ran, same⟩ := map_eq_ok.mp seen
  obtain ⟨m₁, received, rest⟩ := bind_eq_ok.mp ran
  obtain ⟨m₂, prepared, last⟩ := bind_eq_ok.mp rest
  cases last
  simp only [view, Prod.mk.injEq] at same
  obtain ⟨listed, muted, channels, ring, audio⟩ := same
  have ticks : MutedTicks (.sink 128) 48 ringBufferSize 0 54000 1 (fun _ => m) (fun _ => m') fun _ => lateTick := by
    constructor
    case reached =>
      intro _ _
      exact (withSinks_reachable [1]).step _ received
    case globalSAC =>
      intro k now
      interval_cases k
      decide
    case muted => exact fun _ _ => muted
    case prepared => exact fun _ _ => prepared
    case undisturbed =>
      intro k now
      omega
    all_goals
      intro _ _
      rfl
  have ringMuted := all _ _ _ _ _ _ _ _ _ ticks (by decide) (by decide) ⟨1, by rw [listed]; decide⟩
  have routed : (m.stream (.sink 128)).Routed 0 := ⟨0, by rw [channels]; decide, ring⟩
  have cell := ringMuted.frames 0 (by decide) (by decide) 0 routed 16 (by decide)
  change m'.livesIn 4864 = _ at cell
  rw [audio] at cell
  exact absurd cell (by decide)

end RTPStreamsManager

end RavennaLkm
