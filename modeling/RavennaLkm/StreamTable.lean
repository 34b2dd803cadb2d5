import RavennaLkm.AddAtomicity
import RavennaLkm.Attachment
import RavennaLkm.Lib.StableInsertion

/-!
What the lists of the stream manager stand for: the streams that were added and
not yet removed, in the order of their adding. The sinks of a NIC are listed in
that order, the sources by channel count first.
-/
namespace RavennaLkm
open CheckedLoop GuardedRun StableInsertion

namespace RTPStreamsManager

variable {m m' : RTPStreamsManager} {h p : StreamHandle} {info : RTPStreamInfo} {ops : RTPAudioStreamOps}

def channels (m : RTPStreamsManager) (h : StreamHandle) : Nat := (getNbOfLivesOut (m.stream h)).toNat

def isSourceSlot : StreamHandle → Bool
  | .source _ => true
  | .sink _ => false

def isSinkSlot (nic : Nat) : StreamHandle → Bool
  | .source _ => false
  | .sink slot => slotNic (.sink slot) == nic

theorem insertSource_eq (m : RTPStreamsManager) (h : StreamHandle) (l : List StreamHandle) :
    m.insertSource h l = insertBy m.channels h l := by
  induction l with
  | nil => rfl
  | cons p rest ih =>
    rw [insertSource, insertBy, ih]
    exact if_congr UInt32.lt_iff_toNat_lt rfl rfl

/-- The lists and the active flags are those of the streams of `added`, oldest first. -/
structure Represents (m : RTPStreamsManager) (added : List StreamHandle) : Prop where
  once : added.Nodup
  sources : Stable m.channels (added.filter isSourceSlot) m.sourceOrdered
  sinks : ∀ nic, m.sinkOrdered nic = added.filter (isSinkSlot nic)
  active : ∀ h, (m.handlers h).active = true ↔ h ∈ added
  sourceCount : m.sourceOrdered.length ≤ maxSourceStreams
  sinkCount : ∀ nic, (m.sinkOrdered nic).length ≤ maxSinkStreams

/-- Lists, active flags and channel counts of the listed sources as before. -/
theorem Represents.congr {added : List StreamHandle} (represents : m.Represents added)
    (sources : m'.sourceOrdered = m.sourceOrdered) (sinks : m'.sinkOrdered = m.sinkOrdered)
    (active : ∀ h, (m'.handlers h).active = (m.handlers h).active)
    (channels : ∀ h, m'.channels h = m.channels h) : m'.Represents added := by
  have same : m'.channels = m.channels := funext channels
  refine ⟨represents.once, ?_, ?_, ?_, ?_, ?_⟩
  · rw [same, sources]
    exact represents.sources
  · rw [sinks]
    exact represents.sinks
  · intro h
    rw [active]
    exact represents.active h
  · rw [sources]
    exact represents.sourceCount
  · rw [sinks]
    exact represents.sinkCount

theorem channels_of_same (same : m.SameManager m') (h : StreamHandle) :
    m'.channels h = m.channels h := by
  obtain ⟨_, _, info⟩ := (same.stream h).info
  rw [channels, getNbOfLivesOut, info]
  rfl

theorem insertStream_channels (m : RTPStreamsManager) (info : RTPStreamInfo) (h q : StreamHandle) :
    (m.insertStream info h).channels q = m.channels q := by
  rw [channels, insertStream_stream, channels]

theorem Represents.insert {added : List StreamHandle} (represents : m.Represents added)
    (unlisted : h ∉ added) (active : ∀ q, (m'.handlers q).active = true ↔ q = h ∨ q ∈ added)
    (isSource : info.source = isSourceSlot h) (sinkNic : ∀ nic, isSinkSlot nic h = true ↔
      info.source = false ∧ nic = info.ifPortId.toUInt8.toNat)
    (room : m.listFull info = false) (lists : m'.sourceOrdered = m.sourceOrdered)
    (sinks : m'.sinkOrdered = m.sinkOrdered) (channels : ∀ q ∈ added, m'.channels q = m.channels q) :
    (m'.insertStream info h).Represents (added ++ [h]) := by
  have same : (m'.insertStream info h).channels = m'.channels :=
    funext (insertStream_channels m' info h)
  have stable : Stable m'.channels (added.filter isSourceSlot) m.sourceOrdered := by
    refine represents.sources.congr (fun q listed => channels q ?_) fun q listed =>
      channels q (List.mem_filter.mp listed).1
    exact (List.mem_filter.mp ((represents.sources.mem_iff q).mp listed)).1
  have once : (added ++ [h]).Nodup := by
    rw [List.nodup_append]
    refine ⟨represents.once, by simp, fun q inAdded q' isH => ?_⟩
    rw [List.mem_singleton.mp isH]
    exact fun isQ => unlisted (isQ ▸ inAdded)
  have activeAll (q : StreamHandle) : ((m'.insertStream info h).handlers q).active = true ↔
      q ∈ added ++ [h] := by
    rw [insertStream_handlers, active, List.mem_append, List.mem_singleton, or_comm]
  cases kind : info.source with
  | true =>
    have inserted : (m'.insertStream info h).sourceOrdered = insertBy m'.channels h m.sourceOrdered := by
      rw [insertStream, if_pos kind, insertSource_eq, lists]
    have kept : (m'.insertStream info h).sinkOrdered = m.sinkOrdered := by
      rw [insertStream, if_pos kind, sinks]
    have isSource' : isSourceSlot h = true := isSource.symm.trans kind
    have noSink (nic : Nat) : isSinkSlot nic h = false := by
      rw [← Bool.not_eq_true, sinkNic, kind]
      exact fun both => Bool.noConfusion both.1
    refine ⟨once, ?_, ?_, activeAll, ?_, ?_⟩
    · rw [same, inserted, List.filter_append, List.filter_cons_of_pos isSource', List.filter_nil]
      exact stable.insert
    · intro nic
      rw [kept, List.filter_append, List.filter_cons_of_neg (by simp [noSink]), List.filter_nil,
        List.append_nil, represents.sinks]
    · have count := represents.sourceCount
      rw [listFull, if_pos kind] at room
      rw [inserted, length_insertBy]
      simp at room
      omega
    · rw [kept]
      exact represents.sinkCount
  | false =>
    have kept : (m'.insertStream info h).sourceOrdered = m.sourceOrdered := by
      rw [insertStream, if_neg (by simp [kind]), lists]
    have inserted : (m'.insertStream info h).sinkOrdered =
        Function.update m.sinkOrdered info.ifPortId.toUInt8.toNat
          (m.sinkOrdered info.ifPortId.toUInt8.toNat ++ [h]) := by
      rw [insertStream, if_neg (by simp [kind]), sinks]
    have notSource : isSourceSlot h = false := isSource.symm.trans kind
    refine ⟨once, ?_, ?_, activeAll, ?_, ?_⟩
    · rw [same, kept, List.filter_append, List.filter_cons_of_neg (by simp [notSource]), List.filter_nil,
        List.append_nil]
      exact stable
    · intro nic
      rw [inserted, List.filter_append]
      by_cases here : nic = info.ifPortId.toUInt8.toNat
      · rw [here, Function.update_self, represents.sinks,
          List.filter_cons_of_pos ((sinkNic _).mpr ⟨kind, rfl⟩), List.filter_nil]
      · have elsewhere : isSinkSlot nic h = false := by
          rw [← Bool.not_eq_true, sinkNic]
          exact fun both => here both.2
        rw [Function.update_of_ne here, List.filter_cons_of_neg (by simp [elsewhere]), List.filter_nil,
          List.append_nil, represents.sinks]
    · rw [kept]
      exact represents.sourceCount
    · intro nic
      rw [inserted]
      have count := represents.sinkCount nic
      by_cases here : nic = info.ifPortId.toUInt8.toNat
      · rw [listFull, if_neg (by simp [kind]), ← here] at room
        rw [here, Function.update_self, List.length_append, List.length_singleton, ← here]
        simp at room
        omega
      · rw [Function.update_of_ne here]
        exact count

def AddSettles (m : RTPStreamsManager) (info : RTPStreamInfo) (ops : RTPAudioStreamOps) : Prop :=
  addable info = true → (m.usableHandler info).isSome = true →
    CreateAccepts ops info ∧ m.listFull info = false

theorem isSourceSlot_of_slots {source : Bool} (slot : h ∈ slots source) : source = isSourceSlot h := by
  cases source with
  | true =>
    obtain ⟨_, -, rfl⟩ := List.mem_map.mp slot
    rfl
  | false =>
    obtain ⟨_, -, rfl⟩ := List.mem_map.mp slot
    rfl

theorem isSinkSlot_iff (h : StreamHandle) (nic : Nat) :
    isSinkSlot nic h = true ↔ isSourceSlot h = false ∧ nic = slotNic h := by
  cases h with
  | source slot => simp [isSinkSlot, isSourceSlot]
  | sink slot =>
    rw [isSinkSlot, isSourceSlot, beq_iff_eq, eq_comm]
    simp

def noteAdd (added : List StreamHandle) : Option StreamHandle → List StreamHandle
  | none => added
  | some h => added ++ [h]

theorem Represents.add {added : List StreamHandle} (represents : m.Represents added) (c : m.Consistent)
    (settles : m.AddSettles info ops) :
    (m.addRTPStream info ops).1.Represents (noteAdd added (m.addRTPStream info ops).2) := by
  rcases m.addRTPStream_cases info ops with ⟨same, -⟩ | ⟨h, ok, usable, ends⟩
  · rw [same]
    exact represents
  · obtain ⟨accepts, room⟩ := settles ok (by rw [usable]; rfl)
    have created : (m.createIn info ops h).2 = true := (createIn_accepts c ops usable).mpr accepts
    have notFull : ((m.createIn info ops h).1.attachedStream h).listFull info = false := by
      rw [listFull_createIn, room]
    rcases ends with ⟨rejected, -⟩ | ⟨-, ⟨full, -⟩ | ⟨-, same⟩⟩
    · rw [created] at rejected
      cases rejected
    · rw [notFull] at full
      cases full
    rw [same]
    obtain ⟨slot, inactive, -, -⟩ := usableHandler_free usable
    obtain ⟨port, below⟩ := usable_nic c usable
    obtain ⟨sources, sinks, handlers⟩ := (m.createIn info ops h).1.attachedStream_lists h
    have unlisted : h ∉ added := fun inAdded => by
      have active := (represents.active h).mpr inAdded
      rw [inactive] at active
      cases active
    have isSource := isSourceSlot_of_slots slot
    have nic : slotNic h = info.ifPortId.toUInt8.toNat := by
      rw [port, UInt32.toNat_toUInt8]
      simp only [maxNics] at below
      omega
    refine represents.insert unlisted (fun q => ?_) isSource (fun q => ?_) room sources sinks
      fun q inAdded => ?_
    · rw [(handlers q).1, createIn_handlers]
      split
      · rename_i isH
        exact iff_of_true rfl (.inl isH)
      · rename_i other
        rw [represents.active]
        exact ⟨.inr, fun either => either.resolve_left other⟩
    · rw [isSinkSlot_iff, isSource, nic]
    · have other : q ≠ h := fun isH => unlisted (isH ▸ inAdded)
      obtain ⟨p, stream⟩ := (m.createIn info ops h).1.attachedStream_stream h q
      rw [channels, stream, createIn_other m info ops other]
      rfl

theorem Represents.without {added : List StreamHandle} (represents : m.Represents added)
    (c : m.Consistent) (sources : m'.sourceOrdered = m.sourceOrdered.erase h)
    (sinks : ∀ nic, m'.sinkOrdered nic = (m.sinkOrdered nic).erase h)
    (active : ∀ q, (m'.handlers q).active = true ↔ (m.handlers q).active = true ∧ q ≠ h)
    (channels : ∀ q, q ≠ h → m'.channels q = m.channels q) : m'.Represents (added.erase h) := by
  have notSelf {l : List StreamHandle} (once : l.Nodup) (q : StreamHandle) (kept : q ∈ l.erase h) :
      q ≠ h := ((List.Nodup.mem_erase_iff once).mp kept).1
  refine ⟨represents.once.erase h, ?_, ?_, ?_, ?_, ?_⟩
  · have stable := represents.sources.erase c.sourceOnce (represents.once.filter _) h
    rw [sources, filter_erase _ represents.once]
    exact stable.congr (fun q kept => channels q (notSelf c.sourceOnce q kept))
      fun q kept => channels q (notSelf (represents.once.filter _) q kept)
  · intro nic
    rw [sinks, represents.sinks, filter_erase _ represents.once]
  · intro q
    rw [active, represents.active, List.Nodup.mem_erase_iff represents.once, and_comm]
  · rw [sources]
    exact Nat.le_trans List.length_erase_le represents.sourceCount
  · intro nic
    rw [sinks]
    exact Nat.le_trans List.length_erase_le (represents.sinkCount nic)

/-- A removal takes the stream out of every list, and keeps the order of the others. -/
theorem removeRTPStream_lists (c : m.Consistent) (ops : RTPAudioStreamOps) (h : StreamHandle) :
    (m.removeRTPStream ops h).1.sourceOrdered = m.sourceOrdered.erase h ∧
      (∀ nic, (m.removeRTPStream ops h).1.sinkOrdered nic = (m.sinkOrdered nic).erase h) ∧
      ((m.removeRTPStream ops h).2 = true ↔ m.Listed h) := by
  rcases removeRTPStream_cases c ops h with ⟨listed, ends⟩ | ⟨nic, listed, ends⟩ | ⟨unlisted, ends⟩
  · rw [ends]
    refine ⟨rfl, fun nic => ?_, iff_of_true rfl (.inl listed)⟩
    exact (List.erase_of_not_mem (c.source_only listed nic)).symm
  · rw [ends]
    have notSource : h ∉ m.sourceOrdered := fun source => c.source_only source nic listed
    refine ⟨?_, fun q => ?_, iff_of_true rfl (.inr ⟨nic, listed⟩)⟩
    · have kept := takeSink_sourceOrdered m h nic
      rw [List.erase_of_not_mem notSource]
      exact kept
    · have taken := congrFun (takeSink_sinkOrdered m h nic) q
      by_cases here : q = nic
      · subst here
        rw [Function.update_self] at taken
        exact taken
      · rw [Function.update_of_ne here] at taken
        rw [List.erase_of_not_mem (c.sink_only listed here)]
        exact taken
  · rw [ends]
    refine ⟨?_, fun nic => ?_, iff_of_false (by simp) unlisted⟩
    · exact (List.erase_of_not_mem fun listed => unlisted (.inl listed)).symm
    · exact (List.erase_of_not_mem fun listed => unlisted (.inr ⟨nic, listed⟩)).symm

theorem release_channels (m : RTPStreamsManager) (ops : RTPAudioStreamOps) {q : StreamHandle}
    (other : q ≠ h) : (m.release ops h).channels q = m.channels q := by
  rw [channels, release_other m ops other, channels]

theorem detachedStream_channels (m : RTPStreamsManager) (h q : StreamHandle) :
    (m.detachedStream h).channels q = m.channels q := by
  obtain ⟨_, stream⟩ := detachedStream_stream m h q
  rw [channels, stream]
  rfl

theorem Represents.listed {added : List StreamHandle} (represents : m.Represents added)
    (c : m.Consistent) : m.Listed h ↔ h ∈ added := by
  constructor
  · intro listed
    exact (represents.active h).mp (c.active listed)
  · intro inAdded
    cases h with
    | source slot =>
      exact .inl ((represents.sources.mem_iff _).mpr (List.mem_filter.mpr ⟨inAdded, rfl⟩))
    | sink slot =>
      refine .inr ⟨slotNic (.sink slot), ?_⟩
      rw [represents.sinks]
      exact List.mem_filter.mpr ⟨inAdded, beq_self_eq_true _⟩

theorem Represents.remove {added : List StreamHandle} (represents : m.Represents added)
    (c : m.Consistent) (ops : RTPAudioStreamOps) (h : StreamHandle) :
    (m.removeRTPStream ops h).1.Represents (added.erase h) := by
  obtain ⟨sources, sinks, -⟩ := removeRTPStream_lists c ops h
  rcases removeRTPStream_cases c ops h with ⟨-, ends⟩ | ⟨nic, -, ends⟩ | ⟨unlisted, ends⟩
  · rw [ends] at sources sinks ⊢
    exact represents.without c sources sinks
      (fun q => release_active _ ops h q (c.handler h).noReader)
      fun q other => release_channels _ ops other
  · rw [ends] at sources sinks ⊢
    have taken : (m.takeSink h nic).Consistent :=
      detachedStream_consistent (withoutSink_consistent c h nic)
    refine represents.without c sources sinks (fun q => ?_) fun q other => ?_
    · have active := release_active (m.takeSink h nic) ops h q (taken.handler h).noReader
      rw [Active, Active, takeSink, (detachedStream_lists _ h).2.2 q] at active
      exact active
    · rw [release_channels _ ops other, takeSink, detachedStream_channels]
      rfl
  · have notAdded : h ∉ added := fun inAdded => unlisted ((represents.listed c).mpr inAdded)
    rw [ends, List.erase_of_not_mem notAdded]
    exact represents

theorem Represents.removeAll (c : m.Consistent) (ops : RTPAudioStreamOps) :
    (m.removeAllRTPStreams ops).Represents [] := by
  obtain ⟨consistent, inactive⟩ := removeAllRTPStreams_spec c ops
  have unlisted (h : StreamHandle) : ¬ (m.removeAllRTPStreams ops).Listed h := fun listed => by
    have active := consistent.active listed
    rw [inactive] at active
    cases active
  have sources : (m.removeAllRTPStreams ops).sourceOrdered = [] :=
    List.eq_nil_iff_forall_not_mem.mpr fun h listed => unlisted h (.inl listed)
  have sinks (nic : Nat) : (m.removeAllRTPStreams ops).sinkOrdered nic = [] :=
    List.eq_nil_iff_forall_not_mem.mpr fun h listed => unlisted h (.inr ⟨nic, listed⟩)
  refine ⟨.nil, ?_, sinks, fun h => ?_, ?_, fun nic => ?_⟩
  · rw [sources]
    exact ⟨.nil, fun _ => rfl⟩
  · simp [inactive]
  · simp [sources]
  · simp [sinks]

/-- A manager with the streams that were added and not removed, oldest first. -/
structure Tabled where
  manager : RTPStreamsManager
  added : List StreamHandle := []

namespace Tabled

def note (t : Tabled) : StreamsOp → List StreamHandle
  | .add info ops => noteAdd t.added (t.manager.addRTPStream info ops).2
  | .remove h ops => if (t.manager.removeRTPStream ops h).2 then t.added.erase h else t.added
  | .removeAll _ => []
  | .sendOutgoing _ _ _ | .processUDP _ _ _ | .prepareLives _ => t.added

def step (t : Tabled) (op : StreamsOp) : Except Fault Tabled := do
  let manager ← op.step t.manager
  .ok ⟨manager, t.note op⟩

def Settles (t : Tabled) : StreamsOp → Prop
  | .add info ops => t.manager.AddSettles info ops
  | .remove _ _ | .removeAll _ | .sendOutgoing _ _ _ | .processUDP _ _ _ | .prepareLives _ => True

end Tabled

theorem Represents.of_same {added : List StreamHandle} (represents : m.Represents added)
    (same : m.SameManager m') : m'.Represents added :=
  represents.congr same.sourceOrdered same.sinkOrdered same.active (channels_of_same same)

theorem Represents.step {t t' : Tabled} {op : StreamsOp} (represents : t.manager.Represents t.added)
    (c : t.manager.Consistent) (settles : t.Settles op) (done : t.step op = .ok t') :
    t'.manager.Represents t'.added := by
  obtain ⟨manager, next, last⟩ := bind_eq_ok.mp done
  cases last
  cases op with
  | add info ops =>
    cases next
    exact represents.add c settles
  | remove h ops =>
    cases next
    have removed := represents.remove c ops h
    have result := (removeRTPStream_lists c ops h).2.2
    rw [Tabled.note]
    split
    · exact removed
    · rename_i kept
      have notAdded : h ∉ t.added := fun inAdded =>
        kept (result.mpr ((represents.listed c).mpr inAdded))
      rwa [List.erase_of_not_mem notAdded] at removed
  | removeAll ops =>
    have empty := Represents.removeAll c ops
    rw [StreamsOp.step, Except.ok.injEq] at next
    rw [next] at empty
    exact empty
  | sendOutgoing ops skb livesOut =>
    obtain ⟨done, sent, last⟩ := map_eq_ok.mp next
    cases last
    exact represents.of_same (sendOutgoingPackets_same c sent)
  | processUDP ops nic packet =>
    obtain ⟨done, processed, last⟩ := map_eq_ok.mp next
    cases last
    exact represents.of_same (processUDPPacket_same processed)
  | prepareLives ops => exact represents.of_same (prepareBufferLivesAll_same c next)

/-- When no add is refused after it took a slot, the lists and the active flags are those of the
streams added and not removed, in every history; and a removal reports whether the stream was
listed, and takes out that one only. -/
theorem table_represented {macAddress : Nat → MACAddress} {livesIn : RingMemory}
    {history : List StreamsOp} {t : Tabled}
    (run : Run Tabled.step Tabled.Settles ⟨init macAddress livesIn, []⟩ history t) :
    t.manager.Represents t.added ∧ t.manager.sourceOrdered.Nodup ∧
      (∀ nic, (t.manager.sinkOrdered nic).Nodup ∧ ∀ h ∈ t.manager.sinkOrdered nic, slotNic h = nic) ∧
      ∀ h ops, ((t.manager.removeRTPStream ops h).2 = true ↔ t.manager.Listed h) ∧
        (t.manager.removeRTPStream ops h).1.sourceOrdered = t.manager.sourceOrdered.erase h ∧
        ∀ nic, (t.manager.removeRTPStream ops h).1.sinkOrdered nic =
          (t.manager.sinkOrdered nic).erase h := by
  have kept : t.manager.Consistent ∧ t.manager.Represents t.added := by
    refine run.invariant (fun t => t.manager.Consistent ∧ t.manager.Represents t.added) ⟨?_, ?_⟩ ?_
    · exact init_consistent macAddress livesIn
    · refine ⟨.nil, ⟨.nil, fun _ => rfl⟩, fun _ => rfl, fun h => ?_, Nat.zero_le _, fun _ => Nat.zero_le _⟩
      exact iff_of_false (fun active => Bool.noConfusion active) List.not_mem_nil
    · intro t op t' both settles done
      obtain ⟨manager, next, last⟩ := bind_eq_ok.mp done
      have consistent := step_consistent both.1 next
      have represents := both.2.step both.1 settles done
      cases last
      exact ⟨consistent, represents⟩
  obtain ⟨c, represents⟩ := kept
  refine ⟨represents, c.sourceOnce, fun nic => ⟨c.sinkOnce nic, fun h listed => ?_⟩, fun h ops => ?_⟩
  · exact (c.sink nic h listed).2.1
  · obtain ⟨sources, sinks, result⟩ := removeRTPStream_lists c ops h
    exact ⟨result, sources, sinks⟩

/-- One source on each NIC. -/
theorem table_represented_pair :
    (withSources [0, 1]).Represents [.source 0, .source 128] := by
  have settles (m : RTPStreamsManager) (port : UInt32) (room : m.listFull (monoSource port) = false) :
      m.AddSettles (monoSource port) oneLiveOutOps :=
    fun _ _ => ⟨monoSource_accepted port, room⟩
  have nic0 : Run Tabled.step Tabled.Settles ⟨init (fun _ => {}) fun _ => {}, []⟩
      [.add (monoSource 0) oneLiveOutOps] ⟨withSources [0], [.source 0]⟩ :=
    .snoc (.nil _) (settles _ 0 rfl) rfl
  have slot : ((withSources [0]).addRTPStream (monoSource 1) oneLiveOutOps).2 = some (.source 128) := by
    decide
  have second : Tabled.step ⟨withSources [0], [.source 0]⟩ (.add (monoSource 1) oneLiveOutOps) =
      .ok ⟨withSources [0, 1],
        noteAdd [.source 0] ((withSources [0]).addRTPStream (monoSource 1) oneLiveOutOps).2⟩ := rfl
  rw [slot] at second
  have nic1 : Run Tabled.step Tabled.Settles ⟨init (fun _ => {}) fun _ => {}, []⟩
      [.add (monoSource 0) oneLiveOutOps, .add (monoSource 1) oneLiveOutOps]
      ⟨withSources [0, 1], [.source 0, .source 128]⟩ :=
    .snoc nic0 (settles _ 1 rfl) second
  exact (table_represented nic1).1

/-- A sink whose codec has no converter is refused, and its slot stays active and unlisted. -/
theorem refused_add_active : ∃ t, Run Tabled.step (fun _ _ => True) ⟨freshManager, []⟩
    [.add l32Sink oneRingOps] t ∧ t.added = [] ∧ (t.manager.handlers (.sink 0)).active = true ∧
      ¬ t.manager.Listed (.sink 0) := by
  refine ⟨_, .snoc (.nil _) trivial rfl, rfl, rfl, ?_⟩
  rintro (source | ⟨nic, sink⟩)
  · cases source
  · cases sink

end RTPStreamsManager

end RavennaLkm
