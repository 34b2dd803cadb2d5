import Mathlib.Data.List.Find
import Mathlib.Data.List.Induction
import RavennaLkm.ManagerInvariant
import RavennaLkm.Lib.MutualLinks

/-!
ST 2022-7 attachment over histories of the stream manager. Attaching and
detaching search by id in one list, and only the removal of a sink detaches; so
the pointers are mutual as long as each search finds what is meant.
-/
namespace RavennaLkm
open CheckedLoop GuardedRun MutualLinks

namespace RTPStreamsManager

variable {m m' : RTPStreamsManager} {h p q : StreamHandle}

structure Fits (m : RTPStreamsManager) (h p : StreamHandle) : Prop where
  listed : m.Listed p
  id : m.id p = m.id h
  isSource : m.isSource p = m.isSource h
  nicId : m.nicId p ≠ m.nicId h

def Active (m : RTPStreamsManager) (h : StreamHandle) : Prop := (m.handlers h).active = true

/-- The pointer of an active stream leads to an active stream it fits, and back. -/
def Attached (m : RTPStreamsManager) : Prop := Mutual m.Active m.Fits m.attached

def matchingInfo (m : RTPStreamsManager) (info : RTPStreamInfo) : Option StreamHandle :=
  (if info.source then m.sourceOrdered else m.sinkOrdered (if info.ifPortId = 0 then 1 else 0)).find?
    fun p => info.id == m.id p

/-- An add attaches cleanly: a rejected stream or one without a match has no old pointer in its
slot; a match is unattached, on the other NIC, and the list has room. -/
def AddAttaches (m : RTPStreamsManager) (info : RTPStreamInfo) (ops : RTPAudioStreamOps)
    (h : StreamHandle) : Prop :=
  (CreateAccepts ops info ∧ ∃ p, m.matchingInfo info = some p ∧ m.attached p = none ∧
      (m.nicId p).toUInt32 ≠ info.ifPortId ∧ m.listFull info = false) ∨
    ((¬ CreateAccepts ops info ∨ m.matchingInfo info = none) ∧ m.attached h = none)

def SinkDetaches (m : RTPStreamsManager) (h : StreamHandle) : Prop :=
  (∃ p, m.matching h = some p ∧ (m.attached h = some p ∨ (m.attached h = none ∧ m.attached p = none))) ∨
    (m.matching h = none ∧ m.attached h = none)

/-- The calls that keep attachments right, judged before the call. -/
def KeepsAttached (m : RTPStreamsManager) : StreamsOp → Prop
  | .add info ops =>
    addable info = true → ∀ h, m.usableHandler info = some h → m.AddAttaches info ops h
  | .remove h _ =>
    (h ∈ m.sourceOrdered → m.attached h = none) ∧ (∀ nic, h ∈ m.sinkOrdered nic → m.SinkDetaches h)
  | _ => True

theorem Fits.congr (fits : m.Fits h p) (listed : m.Listed p → m'.Listed p)
    (here : ∃ a, m'.stream h = { m.stream h with attachedStream := a })
    (there : ∃ a, m'.stream p = { m.stream p with attachedStream := a }) : m'.Fits h p := by
  obtain ⟨isListed, id, isSource, nicId⟩ := fits
  obtain ⟨a, here⟩ := here
  obtain ⟨b, there⟩ := there
  refine ⟨listed isListed, ?_, ?_, ?_⟩
  · rw [RTPStreamsManager.id, RTPStreamsManager.id, here, there]; exact id
  · rw [RTPStreamsManager.isSource, RTPStreamsManager.isSource, here, there]; exact isSource
  · rw [RTPStreamsManager.nicId, RTPStreamsManager.nicId, here, there]; exact nicId

theorem attached_of_same (same : m.SameManager m') (attached : m.Attached) : m'.Attached := by
  apply Mutual.congr attached
  · intro h
    rw [Active, Active, same.active]
  · intro h
    exact (same.stream h).attached
  · rintro h p ⟨listed, id, isSource, nicId⟩
    refine ⟨?_, ?_, ?_, ?_⟩
    · rw [Listed, same.sourceOrdered, same.sinkOrdered]; exact listed
    · rw [RTPStreamsManager.id, RTPStreamsManager.id, (same.stream h).id, (same.stream p).id]
      exact id
    · rw [RTPStreamsManager.isSource, RTPStreamsManager.isSource, (same.stream h).source,
        (same.stream p).source]
      exact isSource
    · rw [RTPStreamsManager.nicId, RTPStreamsManager.nicId, (same.stream h).nic, (same.stream p).nic]
      exact nicId

variable {info : RTPStreamInfo} {ops : RTPAudioStreamOps}

theorem createIn_other (m : RTPStreamsManager) (info : RTPStreamInfo) (ops : RTPAudioStreamOps)
    (other : p ≠ h) : (m.createIn info ops h).1.stream p = m.stream p := by
  rw [stream, createIn_handlers, if_neg other, stream]

theorem matching_createIn (c : m.Consistent) (ops : RTPAudioStreamOps)
    (usable : m.usableHandler info = some h) :
    (m.createIn info ops h).1.matching h = m.matchingInfo info := by
  have isInfo := (createIn_info c usable ops).1
  have unlisted : ¬ m.Listed h := createIn_unlisted c usable ops
  obtain ⟨port, below⟩ := usable_nic c usable
  have nic : (m.createIn info ops h).1.nicId h = UInt8.ofNat info.ifPortId.toNat := by
    rw [(createIn_consistent c usable ops).nicId, port]
  have search : (m.createIn info ops h).1.searchedList h =
      if info.source then m.sourceOrdered else m.sinkOrdered (if info.ifPortId = 0 then 1 else 0) := by
    have nic0 : UInt8.ofNat info.ifPortId.toNat = 0 ↔ info.ifPortId = 0 := by
      rw [port] at below
      simp only [maxNics] at below
      rw [← UInt8.toNat_inj, ← UInt32.toNat_inj, UInt8.toNat_ofNat', UInt8.toNat_zero, UInt32.toNat_zero]
      omega
    simp only [searchedList, isSource, isInfo, nic, nic0]
    rfl
  rw [matching, matchingInfo, search]
  apply List.find?_congr
  intro p listed
  have other : p ≠ h := by
    intro same
    subst same
    apply unlisted
    split at listed
    · exact .inl listed
    · exact .inr ⟨_, listed⟩
  rw [RTPStreamsManager.id, RTPStreamsManager.id, isInfo, createIn_other m info ops other]
  rfl

theorem createIn_inactive (usable : m.usableHandler info = some h) : ¬ m.Active h := by
  rw [Active, (usableHandler_free usable).2.1]
  decide

theorem createIn_active (m : RTPStreamsManager) (info : RTPStreamInfo) (ops : RTPAudioStreamOps)
    (h q : StreamHandle) : (m.createIn info ops h).1.Active q ↔ m.Active q ∨ q = h := by
  rw [Active, createIn_handlers]
  by_cases here : q = h
  · simp [here]
  · simp [here, Active]

theorem createIn_attached (m : RTPStreamsManager) (info : RTPStreamInfo) (ops : RTPAudioStreamOps)
    (other : q ≠ h) : (m.createIn info ops h).1.attached q = m.attached q := by
  rw [attached, createIn_other m info ops other, attached]

theorem fits_createIn (ops : RTPAudioStreamOps) (notH : p ≠ h) (notH' : q ≠ h) (fits : m.Fits p q) :
    (m.createIn info ops h).1.Fits p q :=
  fits.congr (fun listed => listed) ⟨_, createIn_other m info ops notH⟩ ⟨_, createIn_other m info ops notH'⟩

theorem attached_createIn (c : m.Consistent) (attached : m.Attached)
    (usable : m.usableHandler info = some h) (unlinked : m.attached h = none) :
    (m.createIn info ops h).1.Attached := by
  apply Mutual.admit attached (createIn_inactive usable) (createIn_active m info ops h)
  · rw [(createIn_info c usable _).2, unlinked]
  · intro q other
    exact createIn_attached m info ops other
  · intro p q notH notH' fits
    exact fits_createIn ops notH notH' fits

theorem listed_insertStream (m : RTPStreamsManager) (info : RTPStreamInfo) (h p : StreamHandle) :
    (m.insertStream info h).Listed p ↔ m.Listed p ∨ p = h := by
  unfold insertStream Listed
  cases info.source with
  | true =>
    simp only [if_true, (m.insertSource_perm h m.sourceOrdered).mem_iff, List.mem_cons]
    tauto
  | false =>
    simp only [Bool.false_eq_true, if_false]
    constructor
    · rintro (source | ⟨nic, sink⟩)
      · exact .inl (.inl source)
      · by_cases here : nic = info.ifPortId.toUInt8.toNat
        · rw [here, Function.update_self, List.mem_append, List.mem_singleton] at sink
          exact sink.imp (fun old => .inr ⟨_, old⟩) fun new => new
        · rw [Function.update_of_ne here] at sink
          exact .inl (.inr ⟨nic, sink⟩)
    · rintro ((source | ⟨nic, sink⟩) | rfl)
      · exact .inl source
      · refine .inr ⟨nic, ?_⟩
        by_cases here : nic = info.ifPortId.toUInt8.toNat
        · subst here
          rw [Function.update_self]
          exact List.mem_append_left _ sink
        · rwa [Function.update_of_ne here]
      · refine .inr ⟨info.ifPortId.toUInt8.toNat, ?_⟩
        rw [Function.update_self]
        exact List.mem_append_right _ (List.mem_singleton_self _)

theorem insertStream_handlers (m : RTPStreamsManager) (info : RTPStreamInfo) (h q : StreamHandle) :
    (m.insertStream info h).handlers q = m.handlers q := by
  unfold insertStream
  split <;> rfl

theorem insertStream_stream (m : RTPStreamsManager) (info : RTPStreamInfo) (h q : StreamHandle) :
    (m.insertStream info h).stream q = m.stream q := by
  rw [stream, insertStream_handlers, stream]

theorem attached_insertStream (attached : m.Attached) : (m.insertStream info h).Attached := by
  apply Mutual.congr attached
  · intro q
    rw [Active, insertStream_handlers, Active]
  · intro q
    rw [RTPStreamsManager.attached, insertStream_stream, RTPStreamsManager.attached]
  · intro p q fits
    exact fits.congr (fun listed => (listed_insertStream m info h q).mpr (.inl listed))
      ⟨_, insertStream_stream m info h p⟩ ⟨_, insertStream_stream m info h q⟩

theorem attached_join (c : m.Consistent) (attached : m.Attached)
    (usable : m.usableHandler info = some h) (found : m.matchingInfo info = some p)
    (free : m.attached p = none) (otherNic : (m.nicId p).toUInt32 ≠ info.ifPortId) :
    (((m.createIn info ops h).1.attachedStream h).insertStream info h).Attached := by
  have matched := (matching_createIn c ops usable).trans found
  have c1 := createIn_consistent c usable ops
  have unlisted : ¬ m.Listed h := createIn_unlisted c usable ops
  have isInfo := (createIn_info c usable ops).1
  obtain ⟨port, below⟩ := usable_nic c usable
  obtain ⟨searched, sameId⟩ := matching_listed matched
  have listed : m.Listed p :=
    show (m.createIn info ops h).1.Listed p from searchedList_listed searched
  have differ : p ≠ h := by
    intro same
    subst same
    exact unlisted listed
  have isP := createIn_other m info ops differ
  have linked : (m.createIn info ops h).1.attachedStream h =
      ((m.createIn info ops h).1.setAttached h (some p)).setAttached p (some h) := by
    rw [attachedStream, matched]
  generalize isM1 : (m.createIn info ops h).1 = m1 at *
  have streams : ∀ q, ((m1.attachedStream h).insertStream info h).stream q =
      if q = p then { m1.stream p with attachedStream := some h }
      else if q = h then { m1.stream h with attachedStream := some p } else m1.stream q := by
    intro q
    rw [insertStream_stream, linked, setAttached_stream, setAttached_stream, if_neg differ,
      setAttached_stream]
  have streamP := streams p
  have streamH := streams h
  rw [if_pos rfl] at streamP
  rw [if_neg (Ne.symm differ), if_pos rfl] at streamH
  have kind : m1.isSource p = m1.isSource h := by
    cases source : m1.isSource h with
    | true =>
      rw [searchedList, source, if_pos rfl] at searched
      exact (c1.source p searched).2.2.source
    | false =>
      rw [searchedList, source, if_neg Bool.false_ne_true] at searched
      exact (c1.sink _ p searched).2.2.2.sink
  have nics : m1.nicId p ≠ m1.nicId h := by
    intro same
    apply otherNic
    rw [RTPStreamsManager.nicId, ← isP]
    change (m1.nicId p).toUInt32 = _
    rw [same, c1.nicId, ← UInt32.toNat_inj, UInt8.toNat_toUInt32, UInt8.toNat_ofNat']
    simp only [maxNics] at below
    omega
  have listing := listed_insertStream (m1.attachedStream h) info h
  have keptListed : ∀ q, m.Listed q → ((m1.attachedStream h).insertStream info h).Listed q := by
    intro q old
    apply (listing q).mpr (.inl ?_)
    obtain ⟨sources, sinks, -⟩ := m1.attachedStream_lists h
    rw [Listed, sources, sinks, ← isM1]
    exact old
  apply Mutual.join attached (createIn_inactive usable) (c.active listed) free
  · intro q
    rw [Active, insertStream_handlers, (m1.attachedStream_lists h).2.2 q |>.1, ← isM1]
    exact createIn_active m info ops h q
  · rw [RTPStreamsManager.attached, streamH]
  · rw [RTPStreamsManager.attached, streamP]
  · intro q notH notP
    rw [RTPStreamsManager.attached, streams, if_neg notP, if_neg notH, ← isM1]
    exact createIn_attached m info ops notH
  · refine ⟨keptListed p listed, ?_, ?_, ?_⟩
    · rw [RTPStreamsManager.id, RTPStreamsManager.id, streamP, streamH]; exact sameId.symm
    · rw [isSource, isSource, streamP, streamH]; exact kind
    · rw [RTPStreamsManager.nicId, RTPStreamsManager.nicId, streamP, streamH]; exact nics
  · refine ⟨(listing h).mpr (.inr rfl), ?_, ?_, ?_⟩
    · rw [RTPStreamsManager.id, RTPStreamsManager.id, streamP, streamH]; exact sameId
    · rw [isSource, isSource, streamP, streamH]; exact kind.symm
    · rw [RTPStreamsManager.nicId, RTPStreamsManager.nicId, streamP, streamH]; exact nics.symm
  · intro q r notH notH' fits
    have same : ∀ x, x ≠ h → ∃ a, ((m1.attachedStream h).insertStream info h).stream x =
        { m.stream x with attachedStream := a } := by
      intro x notX
      rw [streams]
      split
      · subst x; exact ⟨_, by rw [isP]⟩
      · rw [← isM1, createIn_other m info ops notX]
        exact ⟨_, rfl⟩
    exact fits.congr (keptListed r) (same q notH) (same r notH')

theorem attached_add (c : m.Consistent) (attached : m.Attached)
    (keeps : m.KeepsAttached (.add info ops)) : (m.addRTPStream info ops).1.Attached := by
  rcases m.addRTPStream_cases info ops with ⟨same, -⟩ | ⟨h, ok, usable, ends⟩
  · rw [same]
    exact attached
  have matched := matching_createIn c ops usable
  have accepts := createIn_accepts c ops usable
  have full := listFull_createIn m info ops h
  rcases keeps ok h usable with ⟨accepted, p, found, free, otherNic, room⟩ | ⟨alone, unlinked⟩
  · have created := accepts.mpr accepted
    rcases ends with ⟨rejected, -⟩ | ⟨-, ⟨isFull, -⟩ | ⟨-, same⟩⟩
    · rw [rejected] at created
      cases created
    · rw [full, room] at isFull
      cases isFull
    · rw [same]
      exact attached_join c attached usable found free otherNic
  · have made : (m.createIn info ops h).1.Attached := attached_createIn c attached usable unlinked
    rcases ends with ⟨-, same⟩ | ⟨created, ends⟩
    · rw [same]
      exact made
    · have noMatch := alone.resolve_left (not_not_intro (accepts.mp created))
      have unchanged : (m.createIn info ops h).1.attachedStream h = (m.createIn info ops h).1 := by
        rw [attachedStream, matched, noMatch]
      rw [unchanged] at ends
      rcases ends with ⟨-, same⟩ | ⟨-, same⟩
      · rw [same]
        exact made
      · rw [same]
        exact attached_insertStream made

theorem release_active (m : RTPStreamsManager) (ops : RTPAudioStreamOps) (h q : StreamHandle)
    (noReader : (m.handlers h).readerCount = 0) :
    (m.release ops h).Active q ↔ m.Active q ∧ q ≠ h := by
  rw [Active, release_handlers _ _ _ _ noReader]
  by_cases here : q = h
  · simp [here]
  · simp [here, Active]

theorem release_other (m : RTPStreamsManager) (ops : RTPAudioStreamOps) (other : q ≠ h) :
    (m.release ops h).stream q = m.stream q := by
  rw [stream, (oneSlot_release m ops h).others q other, stream]

/-- An unattached stream goes; `before` is the state in which it was still listed. -/
theorem attached_release (before : RTPStreamsManager) (c : m.Consistent) (ops : RTPAudioStreamOps)
    (attached : Mutual m.Active before.Fits m.attached) (unlinked : m.attached h = none)
    (listed : ∀ q, q ≠ h → before.Listed q → m.Listed q)
    (same : ∀ q, ∃ a, m.stream q = { before.stream q with attachedStream := a }) :
    (m.release ops h).Attached := by
  have noReader := (c.handler h).noReader
  apply Mutual.retire attached unlinked
  · intro q
    exact release_active m ops h q noReader
  · intro q
    exact release_attached m ops h q noReader
  · intro p q notH notH' fits
    have kept : before.Listed q → (m.release ops h).Listed q := listed q notH'
    apply fits.congr kept
    · rw [release_other m ops notH]; exact same p
    · rw [release_other m ops notH']; exact same q

theorem attached_removeSource (c : m.Consistent) (attached : m.Attached) (ops : RTPAudioStreamOps)
    (unlinked : m.attached h = none) :
    ({ m with sourceOrdered := m.sourceOrdered.erase h }.release ops h).Attached := by
  apply attached_release m (withoutSource_consistent c h) ops attached unlinked
  · rintro q other (source | sink)
    · exact .inl ((List.mem_erase_of_ne other).mpr source)
    · exact .inr sink
  · intro q
    exact ⟨_, rfl⟩

theorem matching_withoutSink (c : m.Consistent) {nic : Nat} (listed : h ∈ m.sinkOrdered nic) :
    { m with sinkOrdered := Function.update m.sinkOrdered nic ((m.sinkOrdered nic).erase h) }.matching h =
      m.matching h := by
  obtain ⟨-, onNic, -, accepted⟩ := c.sink nic h listed
  have kind : m.isSource h = false := accepted.sink
  have elsewhere : (if m.nicId h = 0 then 1 else 0) ≠ nic := by
    rw [c.nicId, onNic]
    split
    · rename_i zero
      intro same
      subst same
      exact absurd zero (by decide)
    · rename_i nonzero
      intro same
      subst same
      exact nonzero rfl
  have search : { m with
      sinkOrdered := Function.update m.sinkOrdered nic ((m.sinkOrdered nic).erase h) }.searchedList h =
      m.searchedList h := by
    change (if m.isSource h then m.sourceOrdered
      else Function.update m.sinkOrdered nic _ (if m.nicId h = 0 then 1 else 0)) = _
    rw [Function.update_of_ne elsewhere]
    rfl
  rw [matching, search]
  rfl

theorem attached_removeSink (c : m.Consistent) (attached : m.Attached) (ops : RTPAudioStreamOps)
    {nic : Nat} (listed : h ∈ m.sinkOrdered nic) (detaches : m.SinkDetaches h) :
    ((m.takeSink h nic).release ops h).Attached := by
  have c1 : (m.takeSink h nic).Consistent :=
    detachedStream_consistent (withoutSink_consistent c h nic)
  have match_ := matching_withoutSink c listed
  have keptListed : ∀ q, q ≠ h → m.Listed q → (m.takeSink h nic).Listed q := by
    rintro q other (source | ⟨n, sink⟩)
    · exact .inl (takeSink_sourceOrdered m h nic ▸ source)
    · refine .inr ⟨n, ?_⟩
      rw [takeSink_sinkOrdered]
      by_cases here : n = nic
      · subst here
        rw [Function.update_self]
        exact (List.mem_erase_of_ne other).mpr sink
      · rwa [Function.update_of_ne here]
  have active : ∀ q, (m.takeSink h nic).Active q ↔ m.Active q := by
    intro q
    rw [Active, takeSink, (detachedStream_lists _ h).2.2 q]
    rfl
  rcases detaches with ⟨p, found, pair⟩ | ⟨none, unlinked⟩
  · have taken : m.takeSink h nic = ({ m with
        sinkOrdered := Function.update m.sinkOrdered nic ((m.sinkOrdered nic).erase h)
        }.setAttached h none).setAttached p none := by
      rw [takeSink, detachedStream, match_, found]
    have streams : ∀ q, (m.takeSink h nic).stream q =
        if q = p ∨ q = h then { m.stream q with attachedStream := none } else m.stream q := by
      intro q
      rw [taken, setAttached_stream, setAttached_stream, setAttached_stream]
      split_ifs <;> subst_vars <;> first | rfl | simp_all
    have unlinked : ∀ q, q = p ∨ q = h → (m.takeSink h nic).attached q = none := by
      intro q one
      rw [RTPStreamsManager.attached, streams, if_pos one]
    apply attached_release m c1 ops ?_ (unlinked h (.inr rfl)) keptListed
    · intro q
      rw [streams]
      split <;> exact ⟨_, rfl⟩
    · have cut : Mutual m.Active m.Fits (m.takeSink h nic).attached := by
        apply Mutual.unlink attached (c.sink nic h listed).2.2.1 pair (unlinked h (.inr rfl))
          (unlinked p (.inl rfl))
        intro q notH notP
        rw [RTPStreamsManager.attached, streams, if_neg (by tauto), RTPStreamsManager.attached]
      exact cut.congr active (fun _ => rfl) fun _ _ fits => fits
  · have taken : m.takeSink h nic = { m with
        sinkOrdered := Function.update m.sinkOrdered nic ((m.sinkOrdered nic).erase h) } := by
      rw [takeSink, detachedStream, match_, none]
    have streams : ∀ q, (m.takeSink h nic).stream q = m.stream q := fun q => by rw [taken]; rfl
    have links : ∀ q, (m.takeSink h nic).attached q = m.attached q := fun q => by
      rw [RTPStreamsManager.attached, streams, RTPStreamsManager.attached]
    apply attached_release m c1 ops ?_ ((links h).trans unlinked) keptListed
    · intro q
      exact ⟨_, streams q⟩
    · exact attached.congr active links fun _ _ fits => fits

theorem attached_step {op : StreamsOp} (c : m.Consistent) (attached : m.Attached)
    (keeps : m.KeepsAttached op) (next : op.step m = .ok m') : m'.Attached := by
  cases op with
  | add info ops =>
    cases next
    exact attached_add c attached keeps
  | remove h ops =>
    cases next
    rcases removeRTPStream_cases c ops h with ⟨listed, ends⟩ | ⟨nic, listed, ends⟩ | ⟨-, ends⟩
    · rw [ends]
      exact attached_removeSource c attached ops (keeps.1 listed)
    · rw [ends]
      exact attached_removeSink c attached ops listed (keeps.2 nic listed)
    · rw [ends]
      exact attached
  | removeAll ops =>
    cases next
    apply Mutual.of_none_alive
    intro q active
    rw [Active, (removeAllRTPStreams_spec c ops).2 q] at active
    cases active
  | sendOutgoing ops skb livesOut =>
    obtain ⟨done, sent, last⟩ := map_eq_ok.mp next
    cases last
    exact attached_of_same (sendOutgoingPackets_same c sent) attached
  | processUDP ops nic packet =>
    obtain ⟨done, processed, last⟩ := map_eq_ok.mp next
    cases last
    exact attached_of_same (processUDPPacket_same processed) attached
  | prepareLives ops => exact attached_of_same (prepareBufferLivesAll_same c next) attached

/-- In every run whose adds and removes find what they mean, attachment is mutual all along. -/
theorem run_attached {macAddress : Nat → MACAddress} {livesIn : RingMemory} {ops : List StreamsOp}
    (run : Run (fun m op => StreamsOp.step m op) KeepsAttached (init macAddress livesIn) ops m) :
    m.Attached := by
  have both : m.Consistent ∧ m.Attached := by
    apply run.invariant fun m => m.Consistent ∧ m.Attached
    · refine ⟨init_consistent macAddress livesIn, ?_⟩
      intro h active
      cases active
    · rintro m op m' ⟨c, attached⟩ keeps next
      exact ⟨step_consistent c next, attached_step c attached keeps next⟩
  exact both.2

def monoSource (port : UInt32) : RTPStreamInfo where
  sizeofStreamInfo := sizeofRTPStreamInfo
  ifPortId := port
  cName := [83]
  maxSamplesPerPacket := 48
  rtcpSrcIP := 0xC0A80001
  srcIP := 0xC0A80001
  destIP := 0xEF010001
  destPort := 5004
  payloadType := 98
  samplingRate := 48000
  codec := .l24
  wordLength := 3
  nbOfChannels := 1
  source := true
  id := 7

def oneLiveOutOps : RTPAudioStreamOps where
  globalSAC := 4800
  frameSize := 48
  liveOutJitterBuffer := fun ch => if ch = 0 then some 0 else none
  liveOutJitterBufferLength := ringBufferSize

def withSources (ports : List UInt32) : RTPStreamsManager :=
  ports.foldl (fun m port => (m.addRTPStream (monoSource port) oneLiveOutOps).1)
    (init (fun _ => {}) fun _ => {})

theorem withSources_reachable (ports : List UInt32) : (withSources ports).Reachable := by
  induction ports using List.reverseRec with
  | nil => exact init_reachable (fun _ => {}) fun _ => {}
  | append_singleton ports port ih =>
    refine ih.step (.add (monoSource port) oneLiveOutOps) ?_
    simp only [withSources, List.foldl_append]
    rfl

theorem monoSource_accepted (port : UInt32) : CreateAccepts oneLiveOutOps (monoSource port) := by
  constructor
  · intro us below
    obtain rfl : us = 0 := by
      change us < 1 at below
      omega
    rfl
  · rfl

theorem run_attached_pair : (withSources [0, 1]).Attached := by
  have nic0 : Run (fun m op => StreamsOp.step m op) KeepsAttached
      (init (fun _ => {}) fun _ => {}) [.add (monoSource 0) oneLiveOutOps] (withSources [0]) := by
    apply Run.snoc (.nil _) _ rfl
    intro _ h usable
    have slot : (withSources []).usableHandler (monoSource 0) = some (.source 0) := rfl
    cases slot.symm.trans usable
    exact .inr ⟨.inr rfl, rfl⟩
  have nic1 : Run (fun m op => StreamsOp.step m op) KeepsAttached
      (init (fun _ => {}) fun _ => {})
      [.add (monoSource 0) oneLiveOutOps, .add (monoSource 1) oneLiveOutOps] (withSources [0, 1]) := by
    apply Run.snoc nic0 _ rfl
    intro _ h usable
    have slot : (withSources [0]).usableHandler (monoSource 1) = some (.source 128) := by decide
    cases slot.symm.trans usable
    exact .inl ⟨monoSource_accepted 1, .source 0, rfl, rfl, by decide, rfl⟩
  exact run_attached nic1

/-- Two sources with one id on the same NIC are attached to each other. -/
theorem same_nic_attached :
    (withSources [0, 0]).Reachable ∧ ¬ (withSources [0, 0]).Attached := by
  refine ⟨withSources_reachable [0, 0], ?_⟩
  intro attached
  have active : (withSources [0, 0]).Active (.source 1) := rfl
  have linked : (withSources [0, 0]).attached (.source 1) = some (.source 0) := rfl
  exact (attached _ active _ linked).2.1.nicId rfl

end RTPStreamsManager

end RavennaLkm
