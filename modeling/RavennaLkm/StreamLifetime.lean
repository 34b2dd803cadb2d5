import RavennaLkm.StreamLocks

/-!
The life of the streams while several calls run. The steps are the regions that
a lock protects and the work of a tick on its copy of the list of sources, which
no lock protects; the readers of the copy defer the destruction of a stream.
The steps of all calls interleave in any order.
-/
namespace RavennaLkm
open CheckedLoop GuardedRun

structure Life where
  active : Bool
  readerCount : Int
  initialized : Bool
  attached : Option StreamHandle
  deriving DecidableEq, Repr

namespace Life

def enter (l : Life) : Life := { l with readerCount := l.readerCount + 1 }

def release (l : Life) : Life :=
  { l with active := false, initialized := l.initialized && l.readerCount != 0 }

def leave (l : Life) : Life :=
  { l with
    readerCount := l.readerCount - 1
    initialized := l.initialized && (l.active || l.readerCount - 1 != 0) }

end Life

namespace RTPStreamsManager

def life (m : RTPStreamsManager) (h : StreamHandle) : Life where
  active := (m.handlers h).active
  readerCount := (m.handlers h).readerCount
  initialized := (m.stream h).livesInitialized
  attached := m.attached h

variable {m m' : RTPStreamsManager} {h p q : StreamHandle} {ops : RTPAudioStreamOps} {info : RTPStreamInfo}

theorem life_of_handlers (same : m'.handlers q = m.handlers q) : m'.life q = m.life q := by
  simp only [life, attached, stream, same]

theorem life_of_sameManager (same : m.SameManager m') (q : StreamHandle) : m'.life q = m.life q := by
  have stream := same.stream q
  simp only [life, attached, same.active, same.readerCount, stream.initialized, stream.attached]

theorem cleanup_spec (x : RTPAudioStreamHandler) (ops : RTPAudioStreamOps) (mem : RingMemory) :
    (x.cleanup ops mem).1.active = x.active ∧ (x.cleanup ops mem).1.readerCount = x.readerCount ∧
      (x.cleanup ops mem).1.rtpAudioStream.livesInitialized =
        (x.rtpAudioStream.livesInitialized && (x.active || x.readerCount != 0)) ∧
      (x.cleanup ops mem).1.rtpAudioStream.attachedStream = x.rtpAudioStream.attachedStream := by
  rw [RTPAudioStreamHandler.cleanup]
  split
  · rename_i free
    obtain ⟨idle, -, attached⟩ := destroy_idle x.rtpAudioStream ops mem
    simp only [RTPAudioStreamHandler.isFree, Bool.and_eq_true, Bool.not_eq_true', beq_iff_eq] at free
    exact ⟨rfl, rfl, by simp [idle, free], attached⟩
  · rename_i used
    have kept : (x.active || x.readerCount != 0) = true := by
      simp only [RTPAudioStreamHandler.isFree, Bool.and_eq_true, Bool.not_eq_true', beq_iff_eq] at used
      cases active : x.active with
      | true => rfl
      | false => simpa [active] using used
    exact ⟨rfl, rfl, by rw [kept, Bool.and_true], rfl⟩

theorem life_release (m : RTPStreamsManager) (ops : RTPAudioStreamOps) (h q : StreamHandle) :
    (m.release ops h).life q = if q = h then (m.life h).release else m.life q := by
  by_cases here : q = h
  · subst here
    obtain ⟨active, count, lives, attachment⟩ :=
      cleanup_spec { m.handlers q with active := false } ops m.livesIn
    have isHandler : (m.release ops q).handlers q =
        (({ m.handlers q with active := false } : RTPAudioStreamHandler).cleanup ops m.livesIn).1 :=
      setHandler_same ..
    rw [if_pos rfl]
    simp only [life, stream, attached, isHandler, active, count, lives, attachment, Life.release,
      Bool.false_or]
  · rw [if_neg here]
    exact life_of_handlers (setHandler_other _ here)

theorem life_readerLeave (m : RTPStreamsManager) (ops : RTPAudioStreamOps) (h q : StreamHandle) :
    (m.readerLeave ops h).life q = if q = h then (m.life h).leave else m.life q := by
  by_cases here : q = h
  · subst here
    obtain ⟨active, count, lives, attachment⟩ :=
      cleanup_spec { m.handlers q with readerCount := (m.handlers q).readerCount - 1 } ops m.livesIn
    have isHandler : (m.readerLeave ops q).handlers q =
        (({ m.handlers q with readerCount := (m.handlers q).readerCount - 1 } :
          RTPAudioStreamHandler).cleanup ops m.livesIn).1 := setHandler_same ..
    rw [if_pos rfl]
    simp only [life, stream, attached, isHandler, active, count, lives, attachment, Life.leave]
  · rw [if_neg here]
    exact life_of_handlers (setHandler_other _ here)

theorem life_enterAll (l : List StreamHandle) (m : RTPStreamsManager) (q : StreamHandle) :
    (l.foldl readerEnter m).life q =
      { m.life q with readerCount := (m.life q).readerCount + l.count q } := by
  have entered := enterAll l m
  simp only [life, attached, stream, entered.handler]

theorem Life.release_release (l : Life) : l.release.release = l.release := by
  simp only [Life.release, Bool.and_assoc, Bool.and_self]

theorem life_releaseAll (l : List StreamHandle) (m : RTPStreamsManager) (q : StreamHandle) :
    (l.foldl (release · ops ·) m).life q = if q ∈ l then (m.life q).release else m.life q := by
  induction l generalizing m with
  | nil => simp
  | cons h rest ih =>
    rw [List.foldl_cons, ih, life_release]
    by_cases here : q = h
    · subst here
      simp only [if_true, List.mem_cons_self, Life.release_release, ite_self]
    · rw [if_neg here]
      simp only [List.mem_cons, here, false_or]

/-- Readers that leave the streams `l`, each of which has at least as many readers. -/
theorem life_leaveAll (l : List StreamHandle) (m : RTPStreamsManager) (q : StreamHandle)
    (enough : (l.count q : Int) ≤ (m.life q).readerCount) :
    (l.foldl (readerLeave · ops ·) m).life q =
      { m.life q with
        readerCount := (m.life q).readerCount - l.count q
        initialized := (m.life q).initialized &&
          ((m.life q).active || (m.life q).readerCount - l.count q != 0 || !(q ∈ l)) } := by
  induction l generalizing m with
  | nil => simp
  | cons h rest ih =>
    rw [List.foldl_cons]
    by_cases here : q = h
    · subst here
      rw [List.count_cons_self, Nat.cast_add, Nat.cast_one] at enough
      have left := life_readerLeave m ops q q
      rw [if_pos rfl] at left
      rw [ih (m.readerLeave ops q) (by rw [left]; simp only [Life.leave]; omega), left]
      simp only [Life.leave, List.count_cons_self, List.mem_cons_self, decide_true, Bool.not_true,
        Bool.or_false, Nat.cast_add, Nat.cast_one]
      rw [show (m.life q).readerCount - 1 - rest.count q = (m.life q).readerCount - (rest.count q + 1) by omega]
      congr 1
      by_cases again : q ∈ rest
      · have more : 0 < rest.count q := List.count_pos_iff.mpr again
        have notLast : ((m.life q).readerCount - 1 != 0) = true := bne_iff_ne.mpr (by omega)
        simp [again, notLast]
      · have last : rest.count q = 0 := List.count_eq_zero_of_not_mem again
        simp [again, last]
    · have left := life_readerLeave m ops h q
      rw [if_neg here] at left
      have other : (h :: rest).count q = rest.count q := List.count_cons_of_ne (Ne.symm here)
      rw [other] at enough ⊢
      rw [ih (m.readerLeave ops h) (by rw [left]; exact enough), left]
      simp only [List.mem_cons, here, false_or]

theorem life_setStream (m : RTPStreamsManager) (h q : StreamHandle) (s : RTPAudioStream) :
    (m.setStream h s).life q = if q = h then
      { m.life h with initialized := s.livesInitialized, attached := s.attachedStream } else m.life q := by
  by_cases here : q = h
  · subst here
    rw [if_pos rfl, setStream]
    simp only [life, stream, attached, setHandler_same]
  · rw [if_neg here]
    exact life_of_handlers (setHandler_other _ here)

theorem life_setStream_same {s : RTPAudioStream} (same : SameStream (m.stream h) s) (q : StreamHandle) :
    (m.setStream h s).life q = m.life q := by
  rw [life_setStream, same.initialized, same.attached]
  split
  · subst q
    rfl
  · rfl

theorem life_sendFrom {skb : Bool} {livesOut : RingMemory} {done : RTPStreamsManager × SendLog}
    (sent : m.sendFrom ops skb livesOut h = .ok done) (q : StreamHandle) : done.1.life q = m.life q := by
  obtain ⟨st, run, rest⟩ := bind_eq_ok.mp sent
  obtain ⟨self, partner⟩ := sendRTPAudioPackets_same run
  have first := life_setStream_same self.sameStream
  simp only at rest
  split at rest
  · rename_i p t isPartner isT
    cases rest
    rw [isPartner, isT] at partner
    have second : SameStream (m.stream p) t := SameSource.sameStream partner
    rw [life_setStream, first p, first q, second.initialized, second.attached]
    split
    · subst q
      rfl
    · rfl
  · cases rest
    exact first q

theorem sendFrom_lists {skb : Bool} {livesOut : RingMemory} {done : RTPStreamsManager × SendLog}
    (sent : m.sendFrom ops skb livesOut h = .ok done) :
    done.1.sourceOrdered = m.sourceOrdered ∧ done.1.sinkOrdered = m.sinkOrdered := by
  obtain ⟨st, -, rest⟩ := bind_eq_ok.mp sent
  simp only at rest
  split at rest <;> cases rest <;> exact ⟨rfl, rfl⟩

theorem life_setAttached (m : RTPStreamsManager) (h q : StreamHandle) (p : Option StreamHandle) :
    (m.setAttached h p).life q = if q = h then { m.life h with attached := p } else m.life q := by
  rw [setAttached, life_setStream]
  rfl

theorem life_detachedStream (m : RTPStreamsManager) (h q : StreamHandle) :
    (m.detachedStream h).life q = m.life q ∨
      (m.detachedStream h).life q = { m.life q with attached := none } := by
  rw [detachedStream]
  cases m.matching h with
  | none => exact .inl rfl
  | some p =>
    simp only [life_setAttached]
    split_ifs
    all_goals subst_vars
    all_goals first | exact .inr rfl | exact .inl rfl

theorem life_attachedStream (m : RTPStreamsManager) (h q : StreamHandle) :
    (m.attachedStream h).life q = m.life q ∨ ∃ p, m.matching h = some p ∧
      (q = h ∧ (m.attachedStream h).life q = { m.life q with attached := some p } ∨
        q = p ∧ (m.attachedStream h).life q = { m.life q with attached := some h }) := by
  rw [attachedStream]
  cases found : m.matching h with
  | none => exact .inl rfl
  | some p =>
    simp only [life_setAttached]
    split_ifs
    · subst_vars
      exact .inr ⟨_, rfl, .inr ⟨rfl, rfl⟩⟩
    · subst_vars
      exact .inr ⟨_, rfl, .inr ⟨rfl, rfl⟩⟩
    · subst_vars
      exact .inr ⟨_, rfl, .inl ⟨rfl, rfl⟩⟩
    · exact .inl rfl

theorem create_lives (self : RTPAudioStream) (info : RTPStreamInfo) (ops : RTPAudioStreamOps)
    (nf : EtherTubeNetfilter) (mem : RingMemory) :
    (create self info ops nf mem).1.livesInitialized =
        (self.livesInitialized || (create self info ops nf mem).2.2) ∧
      (create self info ops nf mem).1.attachedStream = self.attachedStream := by
  by_cases used : self.livesInitialized = true
  · simp [create, used]
  · rw [Bool.not_eq_true] at used
    refine ⟨?_, (create_idle info ops nf mem used).2.2⟩
    rw [create, if_neg (by simp [used])]
    simp only
    split
    · rw [createSource]
      simp only
      split
      · split <;> simp [used]
      · simp [used]
    · rw [createSink]
      simp only
      split
      · split <;> simp [used]
      · simp [used]

theorem life_createIn (m : RTPStreamsManager) (info : RTPStreamInfo) (ops : RTPAudioStreamOps)
    (h q : StreamHandle) : (m.createIn info ops h).1.life q =
      if q = h then { m.life h with
        active := true, initialized := (m.life h).initialized || (m.createIn info ops h).2 }
      else m.life q := by
  by_cases here : q = h
  · subst here
    have made := createIn_handlers m info ops q q
    rw [if_pos rfl] at made
    obtain ⟨lives, attachment⟩ :=
      create_lives (m.stream q) info ops (m.ethNetfilter info.ifPortId.toNat) m.livesIn
    rw [stream] at lives attachment
    rw [if_pos rfl, createIn_snd]
    simp only [life, attached, stream, made]
    rw [← lives, attachment]
  · rw [if_neg here]
    apply life_of_handlers
    rw [createIn_handlers, if_neg here]

end RTPStreamsManager

/-- A tick between its copy of the list of sources and its end; `rest` are the streams of the copy
that it has not worked on yet. -/
structure Reader where
  /-- `send_outgoing_packets`; otherwise `prepare_buffer_lives`. -/
  sends : Bool
  sources : List StreamHandle
  rest : List StreamHandle

inductive SinkRegion where
  | remove (h : StreamHandle) (ops : RTPAudioStreamOps)
  | removeAll (ops : RTPAudioStreamOps)
  | prepare (ops : RTPAudioStreamOps)

/-- The manager and the calls in progress, with the number of times the stream of a slot was created
and destroyed. -/
structure Interleaving where
  manager : RTPStreamsManager
  readers : List Reader := []
  waiting : List SinkRegion := []
  created : StreamHandle → Nat := fun _ => 0
  destroyed : StreamHandle → Nat := fun _ => 0

inductive Region where
  | add (info : RTPStreamInfo) (ops : RTPAudioStreamOps)
  | removeSource (h : StreamHandle) (ops : RTPAudioStreamOps)
  | removeAllSources (ops : RTPAudioStreamOps)
  | sinkRegion (k : Nat)
  | snapshot (sends : Bool)
  | use (k : Nat) (ops : RTPAudioStreamOps) (skb : Bool) (livesOut : RingMemory)
  | leave (k : Nat) (ops : RTPAudioStreamOps)

def SinkRegion.step (m : RTPStreamsManager) : SinkRegion → Except Fault RTPStreamsManager
  | .remove h ops => .ok ((m.removeSink ops h 0).1.removeSink ops h 1).1
  | .removeAll ops => .ok (sinkSlots.foldl (·.release ops ·) { m with sinkOrdered := fun _ => [] })
  | .prepare ops => do
    let onNic0 ← RTPStreamsManager.prepareEach ops (m.sinkOrdered 0) m
    RTPStreamsManager.prepareEach ops (onNic0.sinkOrdered 1) onNic0

def Reader.work (r : Reader) (ops : RTPAudioStreamOps) (skb : Bool) (livesOut : RingMemory)
    (h : StreamHandle) (m : RTPStreamsManager) : Except Fault RTPStreamsManager :=
  if r.sends then (·.1) <$> m.sendFrom ops skb livesOut h else RTPStreamsManager.prepareEach ops [h] m

namespace Interleaving

def become (s : Interleaving) (m : RTPStreamsManager) : Interleaving :=
  { s with
    manager := m
    created := fun h =>
      if (s.manager.life h).initialized = false ∧ (m.life h).initialized = true then s.created h + 1
      else s.created h
    destroyed := fun h =>
      if (s.manager.life h).initialized = true ∧ (m.life h).initialized = false then s.destroyed h + 1
      else s.destroyed h }

def step (s : Interleaving) : Region → Except Fault Interleaving
  | .add info ops => .ok (s.become (s.manager.addRTPStream info ops).1)
  | .removeSource h ops =>
    let removed := s.manager.removeSource ops h
    .ok { s.become removed.1 with
      waiting := if removed.2 then s.waiting else s.waiting ++ [.remove h ops] }
  | .removeAllSources ops =>
    .ok { s.become (sourceSlots.foldl (·.release ops ·) { s.manager with sourceOrdered := [] }) with
      waiting := s.waiting ++ [.removeAll ops] }
  | .sinkRegion k =>
    match s.waiting[k]? with
    | none => .ok s
    | some region => do
      let m ← region.step s.manager
      .ok { s.become m with waiting := s.waiting.eraseIdx k }
  | .snapshot sends =>
    let sources := s.manager.sourceOrdered
    .ok { s.become (sources.foldl RTPStreamsManager.readerEnter s.manager) with
      readers := s.readers ++ [⟨sends, sources, sources⟩] }
  | .use k ops skb livesOut =>
    match s.readers[k]? with
    | none => .ok s
    | some r =>
      match r.rest with
      | [] => .ok s
      | h :: rest => do
        let m ← r.work ops skb livesOut h s.manager
        .ok { s.become m with readers := s.readers.set k { r with rest := rest } }
  | .leave k ops =>
    match s.readers[k]? with
    | none => .ok s
    | some r =>
      if r.rest = [] then
        .ok { s.become (r.sources.foldl (·.readerLeave ops ·) s.manager) with
          readers := s.readers.eraseIdx k
          waiting := if r.sends then s.waiting else s.waiting ++ [.prepare ops] }
      else .ok s

variable {s : Interleaving} {ops : RTPAudioStreamOps} {h : StreamHandle}

/-- The two regions of a removal, one after the other, do what the call does. -/
theorem remove_regions (s : Interleaving) (ops : RTPAudioStreamOps) (h : StreamHandle)
    (idle : s.waiting = []) : ∃ regions s', Run step (fun _ _ => True) s regions s' ∧
      s'.manager = (s.manager.removeRTPStream ops h).1 ∧ s'.waiting = [] := by
  rw [RTPStreamsManager.removeRTPStream]
  cases removed : (s.manager.removeSource ops h).2 with
  | true =>
    have first : s.step (.removeSource h ops) = .ok (s.become (s.manager.removeSource ops h).1) := by
      simp only [step, removed, if_true]
      rfl
    exact ⟨_, _, .one trivial first, rfl, idle⟩
  | false =>
    have first : s.step (.removeSource h ops) = .ok { s.become (s.manager.removeSource ops h).1 with
        waiting := [.remove h ops] } := by
      simp only [step, removed, Bool.false_eq_true, if_false, idle, List.nil_append]
    have both : Run step (fun _ _ => True) s [.removeSource h ops, .sinkRegion 0] _ :=
      (Run.one trivial first).snoc trivial rfl
    exact ⟨_, _, both, rfl, rfl⟩

theorem use_regions {skb : Bool} {livesOut : RingMemory} (l : List StreamHandle)
    {done : RTPStreamsManager × RTPStreamsManager.SendLog} {k : Nat} {r : Reader}
    (isReader : s.readers[k]? = some r) (sends : r.sends = true) (isRest : r.rest = l)
    (sent : RTPStreamsManager.sendEach ops skb livesOut l s.manager = .ok done) :
    ∃ regions s', Run step (fun _ _ => True) s regions s' ∧ s'.manager = done.1 ∧
      s'.readers = s.readers.set k { r with rest := [] } ∧ s'.waiting = s.waiting := by
  induction l generalizing s r done with
  | nil =>
    cases sent
    refine ⟨[], s, .nil s, rfl, ?_, rfl⟩
    obtain ⟨below, rfl⟩ := List.getElem?_eq_some_iff.mp isReader
    rw [← isRest]
    exact (List.set_getElem_self below).symm
  | cons h rest ih =>
    obtain ⟨first, run, others⟩ := bind_eq_ok.mp sent
    obtain ⟨later, run', last⟩ := bind_eq_ok.mp others
    cases last
    have work : r.work ops skb livesOut h s.manager = .ok first.1 := by
      rw [Reader.work, if_pos sends, run]
      rfl
    have used : s.step (.use k ops skb livesOut) = .ok { s.become first.1 with
        readers := s.readers.set k { r with rest := rest } } := by
      simp only [step, isReader, isRest, work]
      rfl
    have below := (List.getElem?_eq_some_iff.mp isReader).1
    obtain ⟨regions, s', run', manager, readers, waiting⟩ :=
      ih (s := { s.become first.1 with readers := s.readers.set k { r with rest := rest } })
        (r := { r with rest := rest }) (by simp [below]) sends rfl run'
    refine ⟨_, s', (Run.one trivial used).append run', manager, ?_, waiting⟩
    rw [readers, List.set_set]

theorem send_regions {skb : Bool} {livesOut : RingMemory}
    {done : RTPStreamsManager × RTPStreamsManager.SendLog}
    (sent : s.manager.sendOutgoingPackets ops skb livesOut = .ok done) :
    ∃ regions s', Run step (fun _ _ => True) s regions s' ∧ s'.manager = done.1 ∧
      s'.readers = s.readers ∧ s'.waiting = s.waiting := by
  obtain ⟨pass, run, last⟩ := bind_eq_ok.mp sent
  cases last
  have entered : Run step (fun _ _ => True) s [.snapshot true] _ := .one trivial rfl
  obtain ⟨regions, used, work, manager, readers, waiting⟩ :=
    use_regions (s := { s.become (s.manager.sourceOrdered.foldl RTPStreamsManager.readerEnter s.manager) with
      readers := s.readers ++ [⟨true, s.manager.sourceOrdered, s.manager.sourceOrdered⟩] })
      (k := s.readers.length) (r := ⟨true, s.manager.sourceOrdered, s.manager.sourceOrdered⟩)
      s.manager.sourceOrdered (by simp) rfl rfl run
  have here : used.readers[s.readers.length]? = some ⟨true, s.manager.sourceOrdered, []⟩ := by
    rw [readers]
    simp
  have left : used.step (.leave s.readers.length ops) = .ok
      { used.become (s.manager.sourceOrdered.foldl (·.readerLeave ops ·) pass.1) with
        readers := used.readers.eraseIdx s.readers.length } := by
    simp only [step, here, manager, if_true]
    rfl
  refine ⟨_, _, entered.append (work.snoc trivial left), rfl, ?_, waiting⟩
  simp [readers, List.eraseIdx_append_of_length_le]

end Interleaving

end RavennaLkm
