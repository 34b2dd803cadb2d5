import Mathlib.Data.List.Perm.Basic
import RavennaLkm.StreamLifetime
import RavennaLkm.Attachment

/-!
What protects a stream that a running tick works on: the reader count keeps the
streams of its copy of the list; nothing keeps the partners that it reaches
through them.
-/
namespace RavennaLkm
open CheckedLoop GuardedRun

namespace RTPStreamsManager

variable {m m' m'' : RTPStreamsManager} {h p q : StreamHandle} {ops : RTPAudioStreamOps} {info : RTPStreamInfo}

/-- Lists and attachment keep sources and sinks apart. -/
structure Apart (m : RTPStreamsManager) : Prop where
  source : ∀ h ∈ m.sourceOrdered, h.lock = .source
  sink : ∀ nic, ∀ h ∈ m.sinkOrdered nic, h.lock = .sink
  attached : ∀ h p, m.attached h = some p → p.lock = h.lock

def Idle (m : RTPStreamsManager) : Prop :=
  ∀ h, (m.life h).active = false → (m.life h).readerCount = 0 → (m.life h).initialized = false

/-- Under the invariants, readers stay and streams come and go in the slots with `may` at most. -/
structure Moves (may : StreamHandle → Prop) (m m' : RTPStreamsManager) : Prop where
  apart : m'.Apart
  idle : m'.Idle
  count : ∀ q, (m'.life q).readerCount = (m.life q).readerCount
  spares : ∀ q, (m'.life q).initialized ≠ (m.life q).initialized → may q

theorem Moves.trans {may : StreamHandle → Prop} (first : Moves may m m') (then_ : Moves may m' m'') :
    Moves may m m'' where
  apart := then_.apart
  idle := then_.idle
  count q := (then_.count q).trans (first.count q)
  spares q changed := by
    by_cases again : (m''.life q).initialized = (m'.life q).initialized
    · rw [again] at changed
      exact first.spares q changed
    · exact then_.spares q again

theorem Moves.mono {may may' : StreamHandle → Prop} (moves : Moves may m m') (more : ∀ q, may q → may' q) :
    Moves may' m m' :=
  ⟨moves.apart, moves.idle, moves.count, fun q changed => more q (moves.spares q changed)⟩

/-- Nothing but the pointers of attachment, which stay among their kind, and lists. -/
theorem moves_of_links {may : StreamHandle → Prop} (apart : m'.Apart) (idle : m.Idle)
    (same : ∀ q, ∃ p, m'.life q = { m.life q with attached := p }) : Moves may m m' where
  apart := apart
  idle h inactive unread := by
    obtain ⟨p, isLife⟩ := same h
    rw [isLife] at inactive unread ⊢
    exact idle h inactive unread
  count q := by
    obtain ⟨p, isLife⟩ := same q
    rw [isLife]
  spares q changed := by
    obtain ⟨p, isLife⟩ := same q
    rw [isLife] at changed
    exact absurd rfl changed

theorem Apart.congr (apart : m.Apart) (sources : m'.sourceOrdered ⊆ m.sourceOrdered)
    (sinks : ∀ nic, m'.sinkOrdered nic ⊆ m.sinkOrdered nic)
    (attached : ∀ q p, m'.attached q = some p → m.attached q = some p) : m'.Apart :=
  ⟨fun h listed => apart.source h (sources listed), fun nic h listed => apart.sink nic h (sinks nic listed),
    fun h p isPartner => apart.attached h p (attached h p isPartner)⟩

theorem attached_life (m : RTPStreamsManager) (q : StreamHandle) : m.attached q = (m.life q).attached := rfl

theorem moves_release (apart : m.Apart) (idle : m.Idle) (ops : RTPAudioStreamOps) (h : StreamHandle) :
    Moves (fun q => q = h ∧ (m.life h).readerCount = 0) m (m.release ops h) where
  apart := by
    refine apart.congr (fun _ listed => listed) (fun _ _ listed => listed) fun q p isPartner => ?_
    rw [attached_life, life_release] at isPartner
    split at isPartner
    · subst q
      exact isPartner
    · exact isPartner
  idle q inactive unread := by
    rw [life_release] at inactive unread ⊢
    split
    · rename_i here
      rw [if_pos here] at unread
      simp only [Life.release] at unread ⊢
      simp [unread]
    · rename_i other
      rw [if_neg other] at inactive unread
      exact idle q inactive unread
  count q := by
    rw [life_release]
    split
    · subst q
      rfl
    · rfl
  spares q changed := by
    rw [life_release] at changed
    split at changed
    · rename_i here
      subst here
      refine ⟨rfl, ?_⟩
      by_contra read
      simp only [Life.release, bne_iff_ne.mpr read, Bool.and_true] at changed
      exact changed rfl
    · exact absurd rfl changed

theorem moves_refl {may : StreamHandle → Prop} (apart : m.Apart) (idle : m.Idle) : Moves may m m :=
  ⟨apart, idle, fun _ => rfl, fun _ changed => absurd rfl changed⟩

theorem moves_lists {may : StreamHandle → Prop} (apart : m.Apart) (idle : m.Idle)
    (handlers : m'.handlers = m.handlers) (sources : m'.sourceOrdered ⊆ m.sourceOrdered)
    (sinks : ∀ nic, m'.sinkOrdered nic ⊆ m.sinkOrdered nic) : Moves may m m' := by
  have same (q : StreamHandle) : m'.life q = m.life q := life_of_handlers (by rw [handlers])
  refine moves_of_links (apart.congr sources sinks fun q p isPartner => ?_) idle fun q => ⟨_, same q⟩
  rw [attached_life, same] at isPartner
  exact isPartner

theorem moves_detached {may : StreamHandle → Prop} (apart : m.Apart) (idle : m.Idle) (h : StreamHandle) :
    Moves may m (m.detachedStream h) := by
  obtain ⟨sources, sinks, -⟩ := m.detachedStream_lists h
  refine moves_of_links (apart.congr ?_ ?_ ?_) idle fun q => ?_
  · rw [sources]
    exact List.Subset.refl _
  · intro nic
    rw [sinks]
    exact List.Subset.refl _
  · intro q p isPartner
    rw [attached_life] at isPartner
    rcases life_detachedStream m h q with same | cleared
    · rw [same] at isPartner
      exact isPartner
    · rw [cleared] at isPartner
      cases isPartner
  · rcases life_detachedStream m h q with same | cleared
    · exact ⟨_, same⟩
    · exact ⟨_, cleared⟩

theorem moves_releaseIfActive (apart : m.Apart) (idle : m.Idle) (ops : RTPAudioStreamOps) (h : StreamHandle) :
    Moves (fun q => q = h ∧ (m.life h).readerCount = 0) m (m.releaseIfActive ops h).1 := by
  rw [releaseIfActive]
  split
  · exact moves_release apart idle ops h
  · exact moves_refl apart idle

theorem moves_removeSource (apart : m.Apart) (idle : m.Idle) (ops : RTPAudioStreamOps) (h : StreamHandle) :
    Moves (fun q => q = h ∧ h ∈ m.sourceOrdered ∧ (m.life h).readerCount = 0) m (m.removeSource ops h).1 := by
  rw [removeSource]
  split
  · rename_i listed
    have out : Moves (fun q => q = h ∧ h ∈ m.sourceOrdered ∧ (m.life h).readerCount = 0) m
        { m with sourceOrdered := m.sourceOrdered.erase h } :=
      moves_lists apart idle rfl List.erase_subset fun _ => List.Subset.refl _
    exact out.trans ((moves_releaseIfActive out.apart out.idle ops h).mono fun q here => ⟨here.1, listed, here.2⟩)
  · exact moves_refl apart idle

theorem moves_removeSink (apart : m.Apart) (idle : m.Idle) (ops : RTPAudioStreamOps) (h : StreamHandle)
    (nic : Nat) : Moves (fun q => q.lock = .sink) m (m.removeSink ops h nic).1 := by
  rw [removeSink]
  split
  · rename_i listed
    have out : Moves (fun q => q.lock = .sink) m { m with
        sinkOrdered := Function.update m.sinkOrdered nic ((m.sinkOrdered nic).erase h) } := by
      refine moves_lists apart idle rfl (List.Subset.refl _) fun other => ?_
      by_cases here : other = nic
      · subst here
        simp only [Function.update_self]
        exact List.erase_subset
      · simp only [Function.update_of_ne here]
        exact List.Subset.refl _
    have apart_ : Moves (fun q => q.lock = .sink) _ _ := moves_detached out.apart out.idle h
    refine out.trans (apart_.trans ((moves_releaseIfActive apart_.apart apart_.idle ops h).mono ?_))
    rintro q ⟨rfl, -⟩
    exact apart.sink nic q listed
  · exact moves_refl apart idle

theorem moves_releaseAll (apart : m.Apart) (idle : m.Idle) (ops : RTPAudioStreamOps) (l : List StreamHandle) :
    Moves (fun q => q ∈ l ∧ (m.life q).readerCount = 0) m (l.foldl (release · ops ·) m) := by
  induction l generalizing m with
  | nil => exact moves_refl apart idle
  | cons h rest ih =>
    have first := moves_release apart idle ops h
    have others := ih first.apart first.idle
    rw [List.foldl_cons]
    refine (first.mono ?_).trans (others.mono ?_)
    · rintro q ⟨rfl, unread⟩
      exact ⟨List.mem_cons_self .., unread⟩
    · rintro q ⟨inRest, unread⟩
      rw [first.count] at unread
      exact ⟨List.mem_cons_of_mem _ inRest, unread⟩

theorem moves_createIn (apart : m.Apart) (idle : m.Idle) (ops : RTPAudioStreamOps) (h : StreamHandle) :
    Moves (fun q => q = h ∧ CreateAccepts ops info) m (m.createIn info ops h).1 where
  apart := by
    refine apart.congr (fun _ listed => listed) (fun _ _ listed => listed) fun q p isPartner => ?_
    rw [attached_life, life_createIn] at isPartner
    split at isPartner
    · subst q
      exact isPartner
    · exact isPartner
  idle q inactive unread := by
    rw [life_createIn] at inactive unread ⊢
    split
    · rename_i here
      rw [if_pos here] at inactive
      cases inactive
    · rename_i other
      rw [if_neg other] at inactive unread
      exact idle q inactive unread
  count q := by
    rw [life_createIn]
    split
    · subst q
      rfl
    · rfl
  spares q changed := by
    rw [life_createIn] at changed
    split at changed
    · rename_i here
      subst here
      refine ⟨rfl, ?_⟩
      cases created : (m.createIn info ops q).2 with
      | true =>
        rw [createIn_snd] at created
        exact ((create_succeeds_iff _ _ _ _ _).mp created).2
      | false =>
        simp only [created, Bool.or_false] at changed
        exact absurd rfl changed
    · exact absurd rfl changed

/-- The stream created in a slot of its kind is attached to one of that kind. -/
theorem matching_lock (apart : m.Apart) (kind : m.isSource h = true ↔ h.lock = .source)
    (found : m.matching h = some p) : p.lock = h.lock := by
  have listed := (matching_listed found).1
  rw [searchedList] at listed
  split at listed
  · rename_i source
    rw [apart.source p listed, kind.mp source]
  · rename_i sink
    rw [apart.sink _ p listed]
    cases isLock : h.lock with
    | source => exact absurd (kind.mpr isLock) sink
    | sink => rfl

theorem moves_attached {may : StreamHandle → Prop} (apart : m.Apart) (idle : m.Idle)
    (kind : m.isSource h = true ↔ h.lock = .source) : Moves may m (m.attachedStream h) := by
  obtain ⟨sources, sinks, -⟩ := m.attachedStream_lists h
  refine moves_of_links ⟨?_, ?_, ?_⟩ idle fun q => ?_
  · rw [sources]
    exact apart.source
  · rw [sinks]
    exact apart.sink
  · intro q p isPartner
    rw [attached_life] at isPartner
    rcases life_attachedStream m h q with same | ⟨r, found, ⟨rfl, linked⟩ | ⟨rfl, linked⟩⟩
    · rw [same] at isPartner
      exact apart.attached q p isPartner
    · rw [linked] at isPartner
      cases isPartner
      exact matching_lock apart kind found
    · rw [linked] at isPartner
      cases isPartner
      exact (matching_lock apart kind found).symm
  · rcases life_attachedStream m h q with same | ⟨r, -, ⟨-, linked⟩ | ⟨-, linked⟩⟩
    · exact ⟨_, same⟩
    · exact ⟨_, linked⟩
    · exact ⟨_, linked⟩

theorem moves_insertStream {may : StreamHandle → Prop} (apart : m.Apart) (idle : m.Idle)
    (kind : h.lock = info.lock) : Moves may m (m.insertStream info h) := by
  have same (q : StreamHandle) : (m.insertStream info h).life q = m.life q :=
    life_of_handlers (by rw [insertStream]; split <;> rfl)
  have attached : ∀ q p, (m.insertStream info h).attached q = some p → p.lock = q.lock := by
    intro q p isPartner
    rw [attached_life, same] at isPartner
    exact apart.attached q p isPartner
  refine moves_of_links ?_ idle fun q => ⟨_, same q⟩
  rw [RTPStreamInfo.lock] at kind
  rw [insertStream] at attached ⊢
  split
  · rename_i source
    rw [if_pos source] at kind attached
    refine ⟨fun p listed => ?_, apart.sink, attached⟩
    rcases List.mem_cons.mp ((insertSource_perm m h _).mem_iff.mp listed) with rfl | earlier
    · exact kind
    · exact apart.source p earlier
  · rename_i sink
    rw [if_neg sink] at kind attached
    refine ⟨apart.source, fun nic p listed => ?_, attached⟩
    by_cases here : nic = info.ifPortId.toUInt8.toNat
    · subst here
      simp only [Function.update_self, List.mem_append, List.mem_singleton] at listed
      rcases listed with earlier | rfl
      · exact apart.sink _ p earlier
      · exact kind
    · simp only [Function.update_of_ne here] at listed
      exact apart.sink nic p listed

theorem moves_add (apart : m.Apart) (idle : m.Idle) (info : RTPStreamInfo) (ops : RTPAudioStreamOps) :
    Moves (fun q => m.usableHandler info = some q ∧ CreateAccepts ops info) m (m.addRTPStream info ops).1 := by
  rcases m.addRTPStream_cases info ops with ⟨same, -⟩ | ⟨h, -, usable, ends⟩
  · rw [same]
    exact moves_refl apart idle
  · have made : Moves (fun q => m.usableHandler info = some q ∧ CreateAccepts ops info) m
        (m.createIn info ops h).1 := by
      apply (moves_createIn apart idle ops h).mono
      rintro q ⟨rfl, accepts⟩
      exact ⟨usable, accepts⟩
    have locks := usable_lock usable
    have linked (created : (m.createIn info ops h).2 = true) :
        Moves (fun q => m.usableHandler info = some q ∧ CreateAccepts ops info) m
          ((m.createIn info ops h).1.attachedStream h) := by
      refine made.trans (moves_attached made.apart made.idle ?_)
      have idle_ : (m.stream h).livesInitialized = false := by
        rw [createIn_snd] at created
        exact ((create_succeeds_iff _ _ _ _ _).mp created).1
      rw [isSource, createIn_stream, (create_idle info ops _ m.livesIn idle_).1, locks, RTPStreamInfo.lock]
      split
      · rename_i source
        exact iff_of_true source rfl
      · rename_i sink
        exact iff_of_false sink (by decide)
    rcases ends with ⟨-, same⟩ | ⟨created, ⟨-, same⟩ | ⟨-, same⟩⟩
    · rw [same]
      exact made
    · rw [same]
      exact linked created
    · rw [same]
      have joined := linked created
      exact joined.trans (moves_insertStream joined.apart joined.idle locks)

theorem moves_of_same {may : StreamHandle → Prop} (apart : m.Apart) (idle : m.Idle)
    (lists : m'.sourceOrdered = m.sourceOrdered ∧ m'.sinkOrdered = m.sinkOrdered)
    (same : ∀ q, m'.life q = m.life q) : Moves may m m' := by
  refine moves_of_links (apart.congr ?_ ?_ ?_) idle fun q => ⟨_, same q⟩
  · rw [lists.1]
    exact List.Subset.refl _
  · intro nic
    rw [lists.2]
    exact List.Subset.refl _
  · intro q p isPartner
    rw [attached_life, same] at isPartner
    exact isPartner

theorem moves_prepareEach {may : StreamHandle → Prop} (apart : m.Apart) (idle : m.Idle)
    {l : List StreamHandle} (prepared : prepareEach ops l m = .ok m') : Moves may m m' := by
  have same := prepareEach_same l prepared
  exact moves_of_same apart idle ⟨same.sourceOrdered, same.sinkOrdered⟩ (life_of_sameManager same)

theorem moves_sinkRegion (apart : m.Apart) (idle : m.Idle) {region : SinkRegion}
    (done : region.step m = .ok m') : Moves (fun q => q.lock = .sink) m m' := by
  cases region with
  | remove h ops =>
    cases done
    have onNic0 := moves_removeSink apart idle ops h 0
    exact onNic0.trans (moves_removeSink onNic0.apart onNic0.idle ops h 1)
  | removeAll ops =>
    cases done
    have out : Moves (fun q => q.lock = .sink) m { m with sinkOrdered := fun _ => [] } :=
      moves_lists apart idle rfl (List.Subset.refl _) fun _ => List.nil_subset _
    refine out.trans ((moves_releaseAll out.apart out.idle ops sinkSlots).mono ?_)
    rintro q ⟨slot, -⟩
    obtain ⟨i, -, rfl⟩ := List.mem_map.mp slot
    rfl
  | prepare ops =>
    obtain ⟨onNic0, run0, run1⟩ := bind_eq_ok.mp done
    have first : Moves (fun q => q.lock = .sink) m onNic0 := moves_prepareEach apart idle run0
    exact first.trans (moves_prepareEach first.apart first.idle run1)

theorem moves_work (apart : m.Apart) (idle : m.Idle) {may : StreamHandle → Prop} {r : Reader} {skb : Bool}
    {livesOut : RingMemory} (done : r.work ops skb livesOut h m = .ok m') : Moves may m m' := by
  rw [Reader.work] at done
  split at done
  · obtain ⟨sent, run, last⟩ := map_eq_ok.mp done
    cases last
    exact moves_of_same apart idle (sendFrom_lists run) (life_sendFrom run)
  · exact moves_prepareEach apart idle done

end RTPStreamsManager

namespace Interleaving
open RTPStreamsManager

variable {s s' : Interleaving} {h p : StreamHandle} {k i : Nat}

/-- How often the copies of the running ticks hold a stream. -/
def held (readers : List Reader) (h : StreamHandle) : Nat := (readers.map fun r => r.sources.count h).sum

structure Sound (s : Interleaving) : Prop where
  apart : s.manager.Apart
  idle : s.manager.Idle
  counted : ∀ h, (s.manager.life h).readerCount = held s.readers h
  readers : ∀ r ∈ s.readers, ∀ h ∈ r.sources, h.lock = .source
  balance : ∀ h, s.created h = s.destroyed h + if (s.manager.life h).initialized then 1 else 0

/-- The reader `i` reaches the stream: one of its copy or, when it sends, the partner of one. -/
def Dereferences (s : Interleaving) (i : Nat) (p : StreamHandle) : Prop :=
  ∃ r, s.readers[i]? = some r ∧
    (p ∈ r.sources ∨ r.sends = true ∧ ∃ h ∈ r.sources, s.manager.attached h = some p)

def Overreaches (s : Interleaving) (i : Nat) (p : StreamHandle) : Prop :=
  ∃ r, s.readers[i]? = some r ∧ r.sends = true ∧ p ∉ r.sources ∧
    ∃ h ∈ r.sources, s.manager.attached h = some p

/-- The stream of the slot is neither created nor destroyed. -/
def SameLife (s s' : Interleaving) (h : StreamHandle) : Prop :=
  s'.created h = s.created h ∧ s'.destroyed h = s.destroyed h

theorem become_sameLife (s : Interleaving) (m : RTPStreamsManager)
    (same : (m.life h).initialized = (s.manager.life h).initialized) : SameLife s (s.become m) h := by
  constructor
  · simp only [become, same]
    rw [if_neg]
    rintro ⟨no, yes⟩
    rw [no] at yes
    cases yes
  · simp only [become, same]
    rw [if_neg]
    rintro ⟨yes, no⟩
    rw [yes] at no
    cases no

theorem SameLife.waiting (same : SameLife s s' h) (waiting : List SinkRegion) :
    SameLife s { s' with waiting := waiting } h := same

theorem become_balance (sound : s.Sound) (m : RTPStreamsManager) (h : StreamHandle) :
    (s.become m).created h = (s.become m).destroyed h + if (m.life h).initialized then 1 else 0 := by
  have before := sound.balance h
  simp only [become]
  cases was : (s.manager.life h).initialized <;> cases is_ : (m.life h).initialized <;>
    simp_all

theorem held_at {readers : List Reader} {r : Reader} (isReader : readers[k]? = some r) (h : StreamHandle) :
    held readers h = r.sources.count h + held (readers.eraseIdx k) h := by
  obtain ⟨below, rfl⟩ := List.getElem?_eq_some_iff.mp isReader
  have perm := List.getElem_cons_eraseIdx_perm below
  have sums := (perm.map fun r => r.sources.count h).sum_nat
  rw [held, ← sums]
  rfl

theorem held_le {readers : List Reader} {r : Reader} (isReader : readers[i]? = some r) (h : StreamHandle) :
    r.sources.count h ≤ held readers h := by
  rw [held_at isReader]
  exact Nat.le_add_right _ _

theorem held_other {readers : List Reader} {r r' : Reader} (isReader : readers[k]? = some r)
    (isOther : readers[i]? = some r') (other : i ≠ k) (h : StreamHandle) :
    r.sources.count h + r'.sources.count h ≤ held readers h := by
  rw [held_at isReader]
  apply Nat.add_le_add_left
  obtain ⟨j, isOther'⟩ := List.mem_iff_getElem?.mp (List.mem_eraseIdx_iff_getElem?.mpr ⟨i, other, isOther⟩)
  exact held_le isOther' h

theorem Sound.become (sound : s.Sound) {may : StreamHandle → Prop} {m : RTPStreamsManager}
    (moves : Moves may s.manager m) : (s.become m).Sound where
  apart := moves.apart
  idle := moves.idle
  counted h := (moves.count h).trans (sound.counted h)
  readers := sound.readers
  balance h := become_balance sound m h

theorem Sound.waiting (sound : s.Sound) (waiting : List SinkRegion) : { s with waiting := waiting }.Sound :=
  ⟨sound.apart, sound.idle, sound.counted, sound.readers, sound.balance⟩

theorem copies_set {readers : List Reader} {r : Reader} (isReader : readers[k]? = some r)
    (rest : List StreamHandle) :
    (readers.set k { r with rest := rest }).map Reader.sources = readers.map Reader.sources := by
  obtain ⟨below, rfl⟩ := List.getElem?_eq_some_iff.mp isReader
  rw [List.map_set]
  apply List.ext_getElem
  · simp
  · intro j _ _
    rw [List.getElem_set]
    split
    · subst j
      simp
    · rfl

theorem sound_readers (sound : s.Sound) {readers : List Reader}
    (same : readers.map Reader.sources = s.readers.map Reader.sources) :
    { s with readers := readers }.Sound := by
  refine ⟨sound.apart, sound.idle, fun h => ?_, fun r isReader => ?_, sound.balance⟩
  · have counts : held readers h = held s.readers h := by
      have count_of (l : List Reader) : l.map (fun r => r.sources.count h) =
          (l.map Reader.sources).map (List.count h) := by rw [List.map_map]; rfl
      rw [held, held, count_of, count_of, same]
    exact (sound.counted h).trans (by rw [counts])
  · have copied : r.sources ∈ s.readers.map Reader.sources := by
      rw [← same]
      exact List.mem_map_of_mem isReader
    obtain ⟨r', isReader', same'⟩ := List.mem_map.mp copied
    rw [← same']
    exact sound.readers r' isReader'

theorem sound_snapshot (sound : s.Sound) {sends : Bool} {sources : List StreamHandle}
    (listed : ∀ h ∈ sources, h ∈ s.manager.sourceOrdered) :
    { s.become (sources.foldl readerEnter s.manager) with
      readers := s.readers ++ [Reader.mk sends sources sources] }.Sound := by
  have entered := enterAll sources s.manager
  have life_ := life_enterAll sources s.manager
  refine ⟨⟨?_, ?_, ?_⟩, ?_, ?_, ?_, become_balance sound _⟩
  · change ∀ h ∈ (sources.foldl readerEnter s.manager).sourceOrdered, _
    rw [entered.sourceOrdered]
    exact sound.apart.source
  · change ∀ nic, ∀ h ∈ (sources.foldl readerEnter s.manager).sinkOrdered nic, _
    rw [entered.sinkOrdered]
    exact sound.apart.sink
  · intro q p isPartner
    rw [attached_life] at isPartner
    change ((sources.foldl readerEnter s.manager).life q).attached = some p at isPartner
    rw [life_ q] at isPartner
    exact sound.apart.attached q p isPartner
  · intro h inactive unread
    change ((sources.foldl readerEnter s.manager).life h).active = false at inactive
    change ((sources.foldl readerEnter s.manager).life h).readerCount = 0 at unread
    change ((sources.foldl readerEnter s.manager).life h).initialized = false
    rw [life_ h] at inactive unread ⊢
    have counted := sound.counted h
    exact sound.idle h inactive (by simp only at unread; omega)
  · intro h
    change ((sources.foldl readerEnter s.manager).life h).readerCount = _
    rw [life_ h, held, List.map_append, List.sum_append]
    have counted := sound.counted h
    rw [held] at counted
    simp [counted]
  · intro r isReader h inCopy
    rcases List.mem_append.mp isReader with earlier | new
    · exact sound.readers r earlier h inCopy
    · rw [List.mem_singleton.mp new] at inCopy
      exact sound.apart.source h (listed h inCopy)

theorem life_leave (sound : s.Sound) {r : Reader} (isReader : s.readers[k]? = some r)
    (ops : RTPAudioStreamOps) (q : StreamHandle) :
    (r.sources.foldl (readerLeave · ops ·) s.manager).life q =
      { s.manager.life q with
        readerCount := (s.manager.life q).readerCount - r.sources.count q
        initialized := (s.manager.life q).initialized && ((s.manager.life q).active ||
          (s.manager.life q).readerCount - r.sources.count q != 0 || !(q ∈ r.sources)) } := by
  apply life_leaveAll
  rw [sound.counted q]
  exact_mod_cast held_le isReader q

theorem leaveAll_lists (ops : RTPAudioStreamOps) (l : List StreamHandle) (m : RTPStreamsManager) :
    (l.foldl (readerLeave · ops ·) m).sourceOrdered = m.sourceOrdered ∧
      (l.foldl (readerLeave · ops ·) m).sinkOrdered = m.sinkOrdered := by
  induction l generalizing m with
  | nil => exact ⟨rfl, rfl⟩
  | cons h rest ih => exact ih (m.readerLeave ops h)

theorem sound_leave (sound : s.Sound) {r : Reader} (isReader : s.readers[k]? = some r)
    (ops : RTPAudioStreamOps) (waiting : List SinkRegion) :
    { s.become (r.sources.foldl (readerLeave · ops ·) s.manager) with
      readers := s.readers.eraseIdx k, waiting := waiting }.Sound := by
  have life_ := life_leave sound isReader ops
  obtain ⟨sources, sinks⟩ := leaveAll_lists ops r.sources s.manager
  refine ⟨⟨?_, ?_, ?_⟩, ?_, ?_, ?_, become_balance sound _⟩
  · change ∀ h ∈ (r.sources.foldl (readerLeave · ops ·) s.manager).sourceOrdered, _
    rw [sources]
    exact sound.apart.source
  · change ∀ nic, ∀ h ∈ (r.sources.foldl (readerLeave · ops ·) s.manager).sinkOrdered nic, _
    rw [sinks]
    exact sound.apart.sink
  · intro q p isPartner
    rw [attached_life] at isPartner
    change ((r.sources.foldl (readerLeave · ops ·) s.manager).life q).attached = some p at isPartner
    rw [life_ q] at isPartner
    exact sound.apart.attached q p isPartner
  · intro h inactive unread
    change ((r.sources.foldl (readerLeave · ops ·) s.manager).life h).active = false at inactive
    change ((r.sources.foldl (readerLeave · ops ·) s.manager).life h).readerCount = 0 at unread
    change ((r.sources.foldl (readerLeave · ops ·) s.manager).life h).initialized = false
    rw [life_ h] at inactive unread ⊢
    simp only at inactive unread ⊢
    by_cases inCopy : h ∈ r.sources
    · simp [inactive, unread, inCopy]
    · rw [List.count_eq_zero_of_not_mem inCopy, Nat.cast_zero, sub_zero] at unread
      rw [sound.idle h inactive unread, Bool.false_and]
  · intro h
    change ((r.sources.foldl (readerLeave · ops ·) s.manager).life h).readerCount = _
    rw [life_ h]
    simp only
    rw [sound.counted h, held_at isReader h]
    omega
  · intro r' isReader' h inCopy
    exact sound.readers r' (List.mem_of_mem_eraseIdx isReader') h inCopy

theorem Sound.step (sound : s.Sound) {region : Region} (next : s.step region = .ok s') : s'.Sound := by
  cases region with
  | add info ops =>
    cases next
    exact sound.become (moves_add sound.apart sound.idle info ops)
  | removeSource h ops =>
    cases next
    exact (sound.become (moves_removeSource sound.apart sound.idle ops h)).waiting _
  | removeAllSources ops =>
    cases next
    have out : Moves (fun _ => True) s.manager { s.manager with sourceOrdered := [] } :=
      moves_lists sound.apart sound.idle rfl (List.nil_subset _) fun _ => List.Subset.refl _
    have released := (moves_releaseAll out.apart out.idle ops sourceSlots).mono fun _ _ => trivial
    exact (sound.become (out.trans released)).waiting _
  | sinkRegion j =>
    rw [Interleaving.step] at next
    split at next
    · cases next
      exact sound
    · obtain ⟨m, done, last⟩ := bind_eq_ok.mp next
      cases last
      exact (sound.become (moves_sinkRegion sound.apart sound.idle done)).waiting _
  | snapshot sends =>
    cases next
    exact sound_snapshot sound fun _ listed => listed
  | use j ops skb livesOut =>
    rw [Interleaving.step] at next
    split at next
    · cases next
      exact sound
    · rename_i r isReader
      split at next
      · cases next
        exact sound
      · rename_i h rest isRest
        obtain ⟨m, done, last⟩ := bind_eq_ok.mp next
        cases last
        have moves : Moves (fun _ => True) s.manager m := moves_work sound.apart sound.idle done
        exact sound_readers (sound.become moves) (copies_set isReader rest)
  | leave j ops =>
    rw [Interleaving.step] at next
    split at next
    · cases next
      exact sound
    · rename_i r isReader
      split at next
      · cases next
        exact sound_leave sound isReader ops _
      · cases next
        exact sound

/-- No slot is taken, and no stream given up for good, that a running sender reaches without having it
in its copy. -/
def Spares (s : Interleaving) : Region → Prop
  | .add info ops => ∀ p, s.manager.usableHandler info = some p → CreateAccepts ops info →
    ∀ i, ¬ s.Overreaches i p
  | .removeSource h _ => h ∈ s.manager.sourceOrdered → (s.manager.life h).readerCount = 0 →
    ∀ i, ¬ s.Overreaches i h
  | .removeAllSources _ => ∀ h ∈ sourceSlots, (s.manager.life h).initialized = true →
    (s.manager.life h).readerCount = 0 → ∀ i, ¬ s.Overreaches i h
  | .leave k _ => ∀ r, s.readers[k]? = some r → ∀ p ∈ r.sources, (s.manager.life p).active = false →
    (s.manager.life p).readerCount = r.sources.count p → ∀ i, i ≠ k → ¬ s.Overreaches i p
  | .sinkRegion _ | .snapshot _ | .use _ _ _ _ => True

theorem Dereferences.cases (deref : s.Dereferences i p) :
    (∃ r, s.readers[i]? = some r ∧ p ∈ r.sources) ∨ s.Overreaches i p := by
  obtain ⟨r, isReader, inCopy | ⟨sends, linked⟩⟩ := deref
  · exact .inl ⟨r, isReader, inCopy⟩
  · by_cases inCopy : p ∈ r.sources
    · exact .inl ⟨r, isReader, inCopy⟩
    · exact .inr ⟨r, isReader, sends, inCopy, linked⟩

theorem Sound.read (sound : s.Sound) {r : Reader} (isReader : s.readers[i]? = some r) (inCopy : p ∈ r.sources) :
    (s.manager.life p).readerCount ≠ 0 := by
  have more := held_le isReader p
  have some_ := List.count_pos_iff.mpr inCopy
  rw [sound.counted p]
  omega

theorem Sound.unread (sound : s.Sound) (deref : s.Dereferences i p) (unread : (s.manager.life p).readerCount = 0) :
    s.Overreaches i p := by
  rcases deref.cases with ⟨r, isReader, inCopy⟩ | beyond
  · exact absurd unread (sound.read isReader inCopy)
  · exact beyond

theorem Sound.deref_lock (sound : s.Sound) (deref : s.Dereferences i p) : p.lock = .source := by
  obtain ⟨r, isReader, inCopy | ⟨-, h, inCopy, linked⟩⟩ := deref
  · exact sound.readers r (List.mem_of_getElem? isReader) p inCopy
  · rw [sound.apart.attached h p linked]
    exact sound.readers r (List.mem_of_getElem? isReader) h inCopy

theorem moves_sameLife {may : StreamHandle → Prop} {m : RTPStreamsManager} (moves : Moves may s.manager m)
    (spared : ¬ may p) : SameLife s (s.become m) p :=
  become_sameLife s m (by_contra fun changed => spared (moves.spares p changed))

/-- Of a stream that another reader dereferences a leaving one is not the last to hold it. -/
theorem Sound.not_last (sound : s.Sound) {k : Nat} {r : Reader} {ops : RTPAudioStreamOps}
    (allowed : s.Spares (.leave k ops)) (isReader : s.readers[k]? = some r) (other : i ≠ k)
    (deref : s.Dereferences i p) : ¬ (p ∈ r.sources ∧ (s.manager.life p).active = false ∧
      (s.manager.life p).readerCount = r.sources.count p) := by
  rintro ⟨inCopy, inactive, count⟩
  rcases deref.cases with ⟨r', isReader', inCopy'⟩ | beyond
  · have both := held_other isReader isReader' other p
    have mine := List.count_pos_iff.mpr inCopy'
    rw [sound.counted p] at count
    omega
  · exact allowed r isReader p inCopy inactive count i other beyond

theorem Sound.spares (sound : s.Sound) {region : Region} (allowed : s.Spares region)
    (next : s.step region = .ok s') (notLeaving : ∀ ops, region ≠ .leave i ops)
    (deref : s.Dereferences i p) : SameLife s s' p := by
  cases region with
  | add info ops =>
    cases next
    apply moves_sameLife (moves_add sound.apart sound.idle info ops)
    rintro ⟨usable, accepts⟩
    have unread := (usableHandler_free usable).2.2.1
    exact allowed p usable accepts i (sound.unread deref unread)
  | removeSource h ops =>
    cases next
    apply moves_sameLife (moves_removeSource sound.apart sound.idle ops h)
    rintro ⟨rfl, listed, unread⟩
    exact allowed listed unread i (sound.unread deref unread)
  | removeAllSources ops =>
    cases next
    have out : Moves (fun q => q ∈ sourceSlots ∧ (s.manager.life q).readerCount = 0) s.manager
        { s.manager with sourceOrdered := [] } :=
      moves_lists sound.apart sound.idle rfl (List.nil_subset _) fun _ => List.Subset.refl _
    have released := out.trans (moves_releaseAll out.apart out.idle ops sourceSlots)
    apply SameLife.waiting
    cases lives : (s.manager.life p).initialized with
    | true =>
      apply moves_sameLife released
      rintro ⟨slot, unread⟩
      exact allowed p slot lives unread i (sound.unread deref unread)
    | false =>
      have same : ({ s.manager with sourceOrdered := [] } : RTPStreamsManager).life p = s.manager.life p := rfl
      apply become_sameLife
      rw [life_releaseAll, same, lives]
      split
      · rw [Life.release, lives, Bool.false_and]
      · exact lives
  | sinkRegion j =>
    rw [Interleaving.step] at next
    split at next
    · cases next
      exact ⟨rfl, rfl⟩
    · obtain ⟨m, done, last⟩ := bind_eq_ok.mp next
      cases last
      apply moves_sameLife (moves_sinkRegion sound.apart sound.idle done)
      rw [sound.deref_lock deref]
      decide
  | snapshot sends =>
    cases next
    apply become_sameLife
    rw [life_enterAll]
  | use j ops skb livesOut =>
    rw [Interleaving.step] at next
    split at next
    · cases next
      exact ⟨rfl, rfl⟩
    · split at next
      · cases next
        exact ⟨rfl, rfl⟩
      · obtain ⟨m, done, last⟩ := bind_eq_ok.mp next
        cases last
        have moves : Moves (fun _ => False) s.manager m := moves_work sound.apart sound.idle done
        exact moves_sameLife moves fun never => never
  | leave j ops =>
    rw [Interleaving.step] at next
    split at next
    · cases next
      exact ⟨rfl, rfl⟩
    · rename_i r isReader
      split at next
      · cases next
        have other : i ≠ j := by
          intro same
          subst same
          exact notLeaving ops rfl
        have notLast := sound.not_last allowed isReader other deref
        apply become_sameLife
        rw [life_leave sound isReader]
        simp only
        by_contra changed
        apply notLast
        refine ⟨?_, ?_, ?_⟩
        · by_contra inCopy
          simp [inCopy] at changed
        · cases active : (s.manager.life p).active with
          | false => rfl
          | true => simp [active] at changed
        · by_contra count
          have notZero : ((s.manager.life p).readerCount - r.sources.count p != 0) = true :=
            bne_iff_ne.mpr (by omega)
          simp [notZero] at changed
      · cases next
        exact ⟨rfl, rfl⟩

def start (macAddress : Nat → MACAddress) (livesIn : RingMemory) : Interleaving :=
  { manager := init macAddress livesIn }

theorem start_sound (macAddress : Nat → MACAddress) (livesIn : RingMemory) :
    (start macAddress livesIn).Sound where
  apart := ⟨by simp [start, init], by simp [start, init], by rintro h p ⟨⟩⟩
  idle _ _ _ := rfl
  counted _ := rfl
  readers := by simp [start]
  balance _ := rfl

/-- In every interleaving whose regions spare what senders reach beyond their copies, no region creates
or destroys a stream that a tick in progress works on; the readers of a stream are counted exactly; and
a stream that was removed is destroyed once, at the latest when its last reader left. -/
theorem streams_outlive_readers {macAddress : Nat → MACAddress} {livesIn : RingMemory} {regions : List Region}
    (run : Run step Spares (start macAddress livesIn) regions s) :
    (∀ region s' i p, s.Spares region → s.step region = .ok s' → (∀ ops, region ≠ .leave i ops) →
      s.Dereferences i p → SameLife s s' p) ∧
    (∀ h, (s.manager.handlers h).readerCount = held s.readers h) ∧
    (∀ h, s.created h = s.destroyed h + if (s.manager.stream h).livesInitialized then 1 else 0) ∧
    ∀ h, (s.manager.handlers h).active = false → (∀ r ∈ s.readers, h ∉ r.sources) →
      s.destroyed h = s.created h := by
  have sound : s.Sound := run.invariant Sound (start_sound macAddress livesIn)
    fun s region s' sound _ next => sound.step next
  refine ⟨fun region s' i p allowed next notLeaving deref => ?_, sound.counted, sound.balance, ?_⟩
  · exact sound.spares allowed next notLeaving deref
  · intro h inactive unread
    have nobody : held s.readers h = 0 := by
      rw [held, List.sum_eq_zero_iff_forall_eq_nat]
      intro n counted
      obtain ⟨r, isReader, rfl⟩ := List.mem_map.mp counted
      exact List.count_eq_zero_of_not_mem (unread r isReader)
    have gone := sound.idle h inactive (by rw [sound.counted, nobody]; rfl)
    rw [sound.balance h, gone]
    rfl

def removedUnderSender : List Region :=
  [.add (monoSource 0) oneLiveOutOps, .snapshot true, .removeSource (.source 0) oneLiveOutOps]

theorem streams_outlive_readers_removed :
    ∃ s, Run step Spares (start (fun _ => {}) fun _ => {}) removedUnderSender s ∧
      (s.manager.handlers (.source 0)).active = false ∧ s.created (.source 0) = s.destroyed (.source 0) + 1 ∧
      (s.manager.handlers (.source 0)).readerCount = held s.readers (.source 0) := by
  obtain ⟨s, run, inactive, alive⟩ : ∃ s,
      Run step Spares (start (fun _ => {}) fun _ => {}) removedUnderSender s ∧
      (s.manager.handlers (.source 0)).active = false ∧
      (s.manager.stream (.source 0)).livesInitialized = true := by
    refine ⟨_, .snoc (.snoc (.snoc (.nil _) ?_ rfl) trivial rfl) (fun _ unread => ?_) rfl, rfl, rfl⟩
    · rintro p - - i ⟨r, isReader, -⟩
      cases isReader
    · exact absurd unread (by decide)
  obtain ⟨-, counted, balance, -⟩ := streams_outlive_readers run
  have lives := balance (.source 0)
  rw [alive] at lives
  exact ⟨s, run, inactive, lives, counted (.source 0)⟩

/-- A sender with the source of one NIC in its copy; the source of the other NIC comes in the meantime. -/
def partnerAdded : List Region :=
  [.add (monoSource 0) oneLiveOutOps, .snapshot true, .add (monoSource 1) oneLiveOutOps]

/-- The partner goes while the sender may send through it. -/
theorem partner_destroyed : ∃ s s', Run step (fun _ _ => True) (start (fun _ => {}) fun _ => {}) partnerAdded s ∧
    s.Dereferences 0 (.source 128) ∧ s.step (.removeSource (.source 128) oneLiveOutOps) = .ok s' ∧
    s'.readers = s.readers ∧ ¬ SameLife s s' (.source 128) := by
  refine ⟨_, _, .snoc (.snoc (.snoc (.nil _) trivial rfl) trivial rfl) trivial rfl, ?_, rfl, rfl, ?_⟩
  · exact ⟨⟨true, [.source 0], [.source 0]⟩, rfl, .inr ⟨rfl, .source 0, List.mem_singleton_self _, rfl⟩⟩
  · rintro ⟨-, kept⟩
    exact absurd kept (by decide)

end Interleaving

end RavennaLkm
