import Mathlib.Data.Finset.Card
import Mathlib.Data.List.Chain
import RavennaLkm.Election

/-!
What the PTP lock counter stands for. A run is followed with the Syncs accepted
since the last `ResetPTPLock`, the arrival of the last one, and whether it waits
for its T1. The code keeps no such note: it takes a Follow_Up for the last Sync
by the sequence number alone.
-/
namespace RavennaLkm
open CheckedLoop GuardedRun

namespace ClockPTP

variable {c c' : ClockPTP} {h : V2MsgHeader} {body : V2MsgAnnounce} {origin : V2TimeRepresentation}
  {message : PTPMessage} {clockTime : UInt64}

def AnnounceResets (c : ClockPTP) (h : V2MsgHeader) (clockTime : UInt64) : Prop :=
  c.ConfigChanged ∨ c.MasterLeftDomain h ∨
    h.domainNumber = c.ptpConfig.domain ∧ c.Elects (clockTime / 100)

instance (c : ClockPTP) (h : V2MsgHeader) (clockTime : UInt64) :
    Decidable (c.AnnounceResets h clockTime) :=
  inferInstanceAs (Decidable (_ ∨ _ ∨ _ ∧ _))

theorem electPTPMaster_unlocked {currentTime : UInt64}
    (unlocked : c.ptpLockCounter = ptpLockHysteresis) :
    (c.electPTPMaster h currentTime).ptpLockCounter = ptpLockHysteresis := by
  rw [electPTPMaster]
  split
  · rfl
  · exact unlocked

theorem saveAnnounce_unlocked {currentTime : UInt64}
    (unlocked : c.ptpLockCounter = ptpLockHysteresis) :
    (c.saveAnnounce h body currentTime).ptpLockCounter = ptpLockHysteresis := by
  rw [saveAnnounce]
  split
  · exact unlocked
  · exact unlocked

theorem processAnnounce_unlocked (unlocked : (c.atElection h).ptpLockCounter = ptpLockHysteresis) :
    (c.processAnnounce h body clockTime).ptpLockCounter = ptpLockHysteresis := by
  rw [processAnnounce]
  split
  · exact saveAnnounce_unlocked (electPTPMaster_unlocked unlocked)
  · exact unlocked

theorem processAnnounce_of_resets (resets : c.AnnounceResets h clockTime) :
    (c.processAnnounce h body clockTime).ptpLockCounter = ptpLockHysteresis := by
  by_cases changed : c.ConfigChanged
  · have noticed : (c.noteAnnounce h).noticeConfig.ptpLockCounter = ptpLockHysteresis :=
      congrArg ptpLockCounter (if_pos (c := (c.noteAnnounce h).ConfigChanged) changed)
    refine processAnnounce_unlocked ?_
    rw [atElection, checkMasterDomain]
    split
    · rfl
    · exact noticed
  · by_cases left : c.MasterLeftDomain h
    · refine processAnnounce_unlocked ?_
      rw [atElection, noticeConfig_of_settled changed]
      exact congrArg ptpLockCounter (if_pos (c := (c.noteAnnounce h).MasterLeftDomain h) left)
    · obtain ⟨inDomain, elects⟩ := (resets.resolve_left changed).resolve_left left
      have elected : ((c.noteAnnounce h).electPTPMaster h (clockTime / 100)).ptpLockCounter =
          ptpLockHysteresis :=
        congrArg ptpLockCounter (if_pos (c := (c.noteAnnounce h).Elects (clockTime / 100)) elects)
      rw [processAnnounce, atElection_of_settled changed left]
      exact (congrArg ptpLockCounter (if_pos inDomain)).trans (saveAnnounce_unlocked elected)

structure LastSync where
  lastSyncSequenceId : UInt16
  t1 : UInt64
  t2 : UInt64

def lastSync (c : ClockPTP) : LastSync := ⟨c.lastSyncSequenceId, c.t1, c.t2⟩

theorem withoutElection_lastSync (c : ClockPTP) : c.withoutElection.lastSync = c.lastSync := rfl

theorem processAnnounce_lastSync (c : ClockPTP) (h : V2MsgHeader) (body : V2MsgAnnounce)
    (clockTime : UInt64) : (c.processAnnounce h body clockTime).lastSync = c.lastSync := by
  rw [← withoutElection_lastSync, processAnnounce_withoutElection, withoutElection_lastSync]

/-- An Announce that does not reset leaves the lock and the master alone. -/
theorem processAnnounce_of_keeps (keeps : ¬ c.AnnounceResets h clockTime) :
    (c.processAnnounce h body clockTime).ptpLockCounter = c.ptpLockCounter ∧
      (c.processAnnounce h body clockTime).ptpMasterClockIdentity = c.ptpMasterClockIdentity := by
  simp only [AnnounceResets, not_or, not_and] at keeps
  obtain ⟨settled, stays, lost⟩ := keeps
  rw [processAnnounce, atElection_of_settled settled stays]
  split
  · rename_i inDomain
    have kept : (c.noteAnnounce h).electPTPMaster h (clockTime / 100) = c.noteAnnounce h :=
      if_neg (lost inDomain)
    rw [kept, saveAnnounce]
    split
    · exact ⟨rfl, rfl⟩
    · exact ⟨rfl, rfl⟩
  · exact ⟨rfl, rfl⟩

/-- The T1 that `ProcessT1` combines with T2 for a message; it returns at once for the last T1. -/
def newT1 (c : ClockPTP) : PTPMessage → Option UInt64
  | .sync h origin =>
    if h.clockIdentity = c.ptpMasterClockIdentity ∧ ¬ c.deltaSeq h > ptpLockHysteresis ∧
        isPTPTwoStep h.flags = false ∧ originTime h origin ≠ c.t1 then
      some (originTime h origin)
    else none
  | .followUp h origin =>
    if h.clockIdentity = c.ptpMasterClockIdentity ∧ mtalSwap16 h.sequenceId = c.lastSyncSequenceId ∧
        originTime h origin ≠ c.t1 then
      some (originTime h origin)
    else none
  | .announce _ _ | .other _ => none

def Counts (c c' : ClockPTP) : Option UInt64 → Prop
  | none => c'.ptpLockCounter = c.ptpLockCounter ∧ c'.t1 = c.t1
  | some t1 => c'.ptpLockCounter.toNat = c.ptpLockCounter.toNat - 1 ∧ c'.t1 = t1

theorem Counts.congr {b b' : ClockPTP} {t1 : Option UInt64} (counts : Counts c c' t1)
    (lock : b.ptpLockCounter = c.ptpLockCounter) (last : b.t1 = c.t1)
    (lock' : b'.ptpLockCounter = c'.ptpLockCounter) (last' : b'.t1 = c'.t1) : Counts b b' t1 := by
  cases t1 with
  | none => exact ⟨by rw [lock', lock, counts.1], by rw [last', last, counts.2]⟩
  | some t1 => exact ⟨by rw [lock', lock, counts.1], by rw [last', counts.2]⟩

theorem processT1_counts {t1 : UInt64} (done : c.processT1 t1 = .ok c') :
    Counts c c' (if t1 ≠ c.t1 then some t1 else none) := by
  by_cases apart : t1 ≠ c.t1
  · rw [if_pos apart]
    exact ⟨processT1_ptpLockCounter done apart, processT1_t1 done⟩
  · rw [if_neg apart]
    rcases processT1_cases done with ⟨-, rfl⟩ | ⟨different, -⟩
    · exact ⟨rfl, rfl⟩
    · exact absurd different apart

theorem processT1_t2 {t1 : UInt64} (done : c.processT1 t1 = .ok c') : c'.t2 = c.t2 := by
  have same : c'.withoutLock.t2 = c.withoutLock.t2 := congrArg t2 (processT1_withoutLock done)
  exact same

theorem processT1_lastSyncSequenceId {t1 : UInt64} (done : c.processT1 t1 = .ok c') :
    c'.lastSyncSequenceId = c.lastSyncSequenceId := by
  have same : c'.withoutLock.lastSyncSequenceId = c.withoutLock.lastSyncSequenceId :=
    congrArg lastSyncSequenceId (processT1_withoutLock done)
  exact same

theorem timeSync_of_gap (gap : c.deltaSeq h > ptpLockHysteresis)
    (done : c.timeSync h origin clockTime = .ok c') :
    c'.ptpLockCounter = ptpLockHysteresis ∧ c'.t1 = c.t1 := by
  rw [timeSync] at done
  split at done
  · cases done
    exact ⟨rfl, rfl⟩
  · rename_i near
    exact absurd gap near

theorem newT1_sync (isMaster : h.clockIdentity = c.ptpMasterClockIdentity)
    (near : ¬ c.deltaSeq h > ptpLockHysteresis) (oneStep : isPTPTwoStep h.flags = false) :
    c.newT1 (.sync h origin) =
      if originTime h origin ≠ c.t1 then some (originTime h origin) else none := by
  rw [newT1]
  exact if_congr (by simp [isMaster, near, oneStep]) rfl rfl

theorem timeSync_of_near (near : ¬ c.deltaSeq h > ptpLockHysteresis)
    (isMaster : h.clockIdentity = c.ptpMasterClockIdentity)
    (done : c.timeSync h origin clockTime = .ok c') :
    Counts c c' (c.newT1 (.sync h origin)) ∧ c'.t2 = clockTime / nsToRefUnit := by
  rw [timeSync] at done
  split at done
  · rename_i gap
    exact absurd gap near
  · split at done
    · rename_i twoStep
      cases done
      rw [newT1, if_neg (by simp [twoStep])]
      exact ⟨⟨rfl, rfl⟩, rfl⟩
    · rename_i oneStep
      rw [newT1_sync isMaster near (by simpa using oneStep)]
      have counts := processT1_counts done
      exact ⟨counts.congr rfl rfl rfl rfl, processT1_t2 done⟩

theorem processSync_of_gap (gap : c.deltaSeq h > ptpLockHysteresis)
    (done : c.processSync h origin clockTime = .ok c') :
    c'.ptpLockCounter = ptpLockHysteresis ∧ c'.t1 = c.t1 ∧
      c'.lastSyncSequenceId = mtalSwap16 h.sequenceId := by
  obtain ⟨timed, step, last⟩ := bind_eq_ok.mp done
  have ⟨lock, t1⟩ := timeSync_of_gap gap step
  cases last
  exact ⟨lock, t1, rfl⟩

theorem processSync_of_near (near : ¬ c.deltaSeq h > ptpLockHysteresis)
    (isMaster : h.clockIdentity = c.ptpMasterClockIdentity)
    (done : c.processSync h origin clockTime = .ok c') :
    Counts c c' (c.newT1 (.sync h origin)) ∧ c'.t2 = clockTime / nsToRefUnit ∧
      c'.lastSyncSequenceId = mtalSwap16 h.sequenceId := by
  obtain ⟨timed, step, last⟩ := bind_eq_ok.mp done
  have ⟨counts, t2⟩ := timeSync_of_near near isMaster step
  cases last
  exact ⟨counts.congr rfl rfl rfl rfl, t2, rfl⟩

theorem timeFollowUp_counts (isMaster : h.clockIdentity = c.ptpMasterClockIdentity)
    (done : c.timeFollowUp h origin = .ok c') :
    Counts c c' (c.newT1 (.followUp h origin)) ∧ c'.t2 = c.t2 ∧
      c'.lastSyncSequenceId = c.lastSyncSequenceId := by
  rw [timeFollowUp] at done
  split at done
  · rename_i last
    have counts := processT1_counts done
    have same : c.newT1 (.followUp h origin) =
        if originTime h origin ≠ c.t1 then some (originTime h origin) else none := by
      rw [newT1]
      exact if_congr (by simp [isMaster, last]) rfl rfl
    rw [same]
    exact ⟨counts, processT1_t2 done, processT1_lastSyncSequenceId done⟩
  · rename_i earlier
    cases done
    rw [newT1, if_neg (by simp [earlier])]
    exact ⟨⟨rfl, rfl⟩, rfl, rfl⟩

theorem processFollowUp_counts (isMaster : h.clockIdentity = c.ptpMasterClockIdentity)
    (done : c.processFollowUp h origin = .ok c') :
    Counts c c' (c.newT1 (.followUp h origin)) ∧ c'.t2 = c.t2 ∧
      c'.lastSyncSequenceId = c.lastSyncSequenceId := by
  obtain ⟨timed, step, last⟩ := bind_eq_ok.mp done
  have ⟨counts, t2, sequenceId⟩ := timeFollowUp_counts isMaster step
  cases last
  exact ⟨counts.congr rfl rfl rfl rfl, t2, sequenceId⟩

/-- A clock with what its lock stands for. -/
structure Followed where
  clock : ClockPTP
  /-- The number of the last Sync of the master, and its arrival. -/
  arrived : Option (UInt16 × UInt64) := none
  /-- The Syncs accepted since the last reset, the last one first; a repeated one is left out. -/
  accepted : List V2MsgHeader := []
  /-- The last Sync is accepted, and its T1 has not come. -/
  pending : Bool := false

namespace Followed

variable {w w' : Followed}

def forget (w : Followed) : Followed := { w with accepted := [], pending := false }

def Fresh (w : Followed) (h : V2MsgHeader) : Prop := w.accepted = [] ∨ w.clock.deltaSeq h ≠ 0

instance (w : Followed) (h : V2MsgHeader) : Decidable (w.Fresh h) :=
  inferInstanceAs (Decidable (_ ∨ _))

def withClock (w : Followed) (clock : ClockPTP) : Followed := { w with clock := clock }

def arrive (w : Followed) (h : V2MsgHeader) (t2 : UInt64) : Followed :=
  { w with arrived := some (mtalSwap16 h.sequenceId, t2) }

def accept (w : Followed) (h : V2MsgHeader) : Followed :=
  { w with
    accepted := if w.Fresh h then h :: w.accepted else w.accepted
    pending := w.pending || decide (w.Fresh h) }

def settle (w : Followed) (t1 : Option UInt64) : Followed :=
  { w with pending := w.pending && t1.isNone }

def hear (w : Followed) (clockTime : UInt64) : PTPMessage → Followed
  | .announce h _ => if w.clock.AnnounceResets h clockTime then w.forget else w
  | .sync h origin =>
    if h.clockIdentity ≠ w.clock.ptpMasterClockIdentity then w
    else if w.clock.deltaSeq h > ptpLockHysteresis then
      w.forget.arrive h (clockTime / nsToRefUnit)
    else
      ((w.accept h).arrive h (clockTime / nsToRefUnit)).settle (w.clock.newT1 (.sync h origin))
  | .followUp h origin => w.settle (w.clock.newT1 (.followUp h origin))
  | .other _ => w

def observe (w : Followed) : ClockEvent → Followed
  | .packet bytes clockTime =>
    if w.clock.listens then
      match PTPMessage.ofPacket bytes with
      | none => w
      | some message => w.hear clockTime message
    else w
  | .tick clockTime _ _ => if w.clock.WatchDogBites clockTime then w.forget else w
  | .start _ _ | .stop => w.forget
  | .setNextAbsoluteTime _ | .config _ => w

def step (w : Followed) (event : ClockEvent) : Except Fault Followed := do
  let clock ← event.step w.clock
  .ok ((w.observe event).withClock clock)

/-- The Sync of a message waits for its T1. -/
def Awaits (w : Followed) : PTPMessage → Prop
  | .sync h _ => w.pending = true ∨ w.Fresh h
  | .followUp _ _ => w.pending = true
  | .announce _ _ | .other _ => True

/-- A new T1 comes from a master, for a Sync that waits for it. -/
def Timely (w : Followed) : ClockEvent → Prop
  | .packet bytes _ => w.clock.listens = true → ∀ message ∈ PTPMessage.ofPacket bytes,
    w.clock.newT1 message ≠ none → w.clock.ptpMasterClockIdentity ≠ 0 ∧ w.Awaits message
  | _ => True

instance (w : Followed) : DecidablePred w.Awaits := fun
  | .sync _ _ => inferInstanceAs (Decidable (_ ∨ _))
  | .followUp _ _ => inferInstanceAs (Decidable (_ = _))
  | .announce _ _ | .other _ => inferInstanceAs (Decidable True)

instance (w : Followed) : DecidablePred w.Timely := fun
  | .packet _ _ => inferInstanceAs (Decidable (_ → ∀ message ∈ _, _))
  | .tick _ _ _ | .setNextAbsoluteTime _ | .start _ _ | .stop | .config _ =>
    inferInstanceAs (Decidable True)

/-- Two Syncs that were accepted one after the other. -/
def Contiguous (later earlier : V2MsgHeader) : Prop :=
  let delta := mtalSwap16 later.sequenceId - mtalSwap16 earlier.sequenceId
  delta ≠ 0 ∧ ¬ delta > ptpLockHysteresis

structure Sound (w : Followed) : Prop where
  counted : 4 ≤ w.clock.ptpLockCounter.toNat + w.accepted.length
  waiting : w.pending = true → 5 ≤ w.clock.ptpLockCounter.toNat + w.accepted.length ∧
    w.arrived = some (w.clock.lastSyncSequenceId, w.clock.t2)
  own : ∀ h ∈ w.accepted, h.clockIdentity = w.clock.ptpMasterClockIdentity
  elected : w.clock.ptpLockCounter.toNat < 4 → w.clock.ptpMasterClockIdentity ≠ 0
  contiguous : w.accepted.IsChain Contiguous
  last : ∀ h ∈ w.accepted.head?, mtalSwap16 h.sequenceId = w.clock.lastSyncSequenceId

theorem Sound.of_forgotten (clock : ClockPTP) (arrived : Option (UInt16 × UInt64))
    (unlocked : clock.ptpLockCounter = ptpLockHysteresis) : Sound ⟨clock, arrived, [], false⟩ where
  counted := by simp [unlocked, ptpLockHysteresis]
  waiting := by simp
  own := by simp
  elected := by simp [unlocked, ptpLockHysteresis]
  contiguous := .nil
  last := by simp

/-- A step that touches neither the lock nor the master nor the last Sync. -/
theorem Sound.of_same (sound : w.Sound) {clock : ClockPTP}
    (lock : clock.ptpLockCounter = w.clock.ptpLockCounter)
    (master : clock.ptpMasterClockIdentity = w.clock.ptpMasterClockIdentity)
    (same : clock.lastSync = w.clock.lastSync) : Sound (w.withClock clock) := by
  have sequenceId : clock.lastSyncSequenceId = w.clock.lastSyncSequenceId :=
    congrArg LastSync.lastSyncSequenceId same
  have t2 : clock.t2 = w.clock.t2 := congrArg LastSync.t2 same
  refine ⟨?_, ?_, ?_, ?_, sound.contiguous, ?_⟩
  · simp only [withClock, lock]
    exact sound.counted
  · simp only [withClock, lock, sequenceId, t2]
    exact sound.waiting
  · simp only [withClock, master]
    exact sound.own
  · simp only [withClock, lock, master]
    exact sound.elected
  · simp only [withClock, sequenceId]
    exact sound.last

theorem Sound.announce (sound : w.Sound) (h : V2MsgHeader) (body : V2MsgAnnounce) (clockTime : UInt64) :
    Sound ((w.hear clockTime (.announce h body)).withClock
      (w.clock.processAnnounce h body clockTime)) := by
  rw [hear]
  by_cases resets : w.clock.AnnounceResets h clockTime
  · rw [if_pos resets]
    exact .of_forgotten _ _ (processAnnounce_of_resets resets)
  · rw [if_neg resets]
    obtain ⟨lock, master⟩ := processAnnounce_of_keeps resets
    exact sound.of_same lock master (processAnnounce_lastSync w.clock h body clockTime)

theorem Sound.accept (sound : w.Sound) (near : ¬ w.clock.deltaSeq h > ptpLockHysteresis)
    (isMaster : h.clockIdentity = w.clock.ptpMasterClockIdentity) {clock : ClockPTP}
    (lock : clock.ptpLockCounter = w.clock.ptpLockCounter)
    (master : clock.ptpMasterClockIdentity = w.clock.ptpMasterClockIdentity)
    (sequenceId : clock.lastSyncSequenceId = mtalSwap16 h.sequenceId) :
    Sound (((w.accept h).arrive h clock.t2).withClock clock) := by
  by_cases fresh : w.Fresh h
  · have accepted : (w.accept h).accepted = h :: w.accepted := if_pos fresh
    refine ⟨?_, ?_, ?_, ?_, ?_, ?_⟩
    · have counted := sound.counted
      simp only [withClock, arrive, accepted, List.length_cons, lock]
      omega
    · intro
      have counted := sound.counted
      simp only [withClock, arrive, accepted, List.length_cons, lock, sequenceId]
      exact ⟨by omega, trivial⟩
    · intro k member
      simp only [withClock, arrive, accepted] at member ⊢
      rw [master]
      rcases List.mem_cons.mp member with rfl | earlier
      · exact isMaster
      · exact sound.own k earlier
    · simp only [withClock, lock, master]
      exact sound.elected
    · simp only [withClock, arrive, accepted]
      refine List.isChain_cons.mpr ⟨fun k first => ?_, sound.contiguous⟩
      have last := sound.last k first
      rcases fresh with none | apart
      · rw [none] at first
        cases first
      · rw [Contiguous, last]
        exact ⟨apart, near⟩
    · intro k first
      simp only [withClock, arrive, accepted] at first ⊢
      cases first
      exact sequenceId.symm
  · have accepted : (w.accept h).accepted = w.accepted := if_neg fresh
    have pending : (w.accept h).pending = w.pending := by
      simp [Followed.accept, fresh]
    simp only [Fresh, not_or, ne_eq, not_not] at fresh
    have same : mtalSwap16 h.sequenceId = w.clock.lastSyncSequenceId := by
      have zero := fresh.2
      rwa [deltaSeq, UInt16.sub_eq_iff_eq_add, UInt16.zero_add] at zero
    refine ⟨?_, ?_, ?_, ?_, ?_, ?_⟩
    · simp only [withClock, arrive, accepted, lock]
      exact sound.counted
    · simp only [withClock, arrive, accepted, pending, lock, sequenceId]
      exact fun waits => ⟨(sound.waiting waits).1, trivial⟩
    · simp only [withClock, arrive, accepted, master]
      exact sound.own
    · simp only [withClock, lock, master]
      exact sound.elected
    · simp only [withClock, arrive, accepted]
      exact sound.contiguous
    · simp only [withClock, arrive, accepted, sequenceId, same]
      exact sound.last

theorem Sound.settle (sound : w.Sound) {t1 : Option UInt64} {clock : ClockPTP}
    (counts : Counts w.clock clock t1)
    (timely : t1 ≠ none → w.clock.ptpMasterClockIdentity ≠ 0 ∧ w.pending = true)
    (master : clock.ptpMasterClockIdentity = w.clock.ptpMasterClockIdentity)
    (sequenceId : clock.lastSyncSequenceId = w.clock.lastSyncSequenceId)
    (t2 : clock.t2 = w.clock.t2) : Sound ((w.settle t1).withClock clock) := by
  cases t1 with
  | none =>
    have same : w.settle none = w := by
      simp [Followed.settle]
    rw [same]
    refine sound.of_same counts.1 master ?_
    rw [lastSync, sequenceId, counts.2, t2, lastSync]
  | some t1 =>
    obtain ⟨isElected, pending⟩ := timely (by simp)
    have waiting := (sound.waiting pending).1
    refine ⟨?_, ?_, ?_, ?_, sound.contiguous, ?_⟩
    · have lock := counts.1
      simp only [withClock, Followed.settle]
      omega
    · simp [withClock, Followed.settle]
    · simp only [withClock, Followed.settle, master]
      exact sound.own
    · simp only [withClock, master]
      exact fun _ => isElected
    · simp only [withClock, Followed.settle, sequenceId]
      exact sound.last

theorem settle_none (w : Followed) : w.settle none = w := by
  simp [settle]

theorem accept_pending (awaits : w.pending = true ∨ w.Fresh h) : (w.accept h).pending = true := by
  simpa [accept] using awaits

theorem Sound.sync (sound : w.Sound) (near : ¬ w.clock.deltaSeq h > ptpLockHysteresis)
    (isMaster : h.clockIdentity = w.clock.ptpMasterClockIdentity) {clock : ClockPTP}
    (timely : w.clock.newT1 (.sync h origin) ≠ none →
      w.clock.ptpMasterClockIdentity ≠ 0 ∧ (w.pending = true ∨ w.Fresh h))
    (done : w.clock.processSync h origin clockTime = .ok clock) :
    Sound ((((w.accept h).arrive h (clockTime / nsToRefUnit)).settle
      (w.clock.newT1 (.sync h origin))).withClock clock) := by
  have master : clock.ptpMasterClockIdentity = w.clock.ptpMasterClockIdentity :=
    congrArg Election.ptpMasterClockIdentity (processSync_election done)
  obtain ⟨counts, t2, sequenceId⟩ := processSync_of_near near isMaster done
  let recorded : ClockPTP :=
    { w.clock with lastSyncSequenceId := mtalSwap16 h.sequenceId, t2 := clockTime / nsToRefUnit }
  have accepted : Sound (((w.accept h).arrive h recorded.t2).withClock recorded) :=
    sound.accept near isMaster rfl rfl rfl
  refine accepted.settle (counts.congr rfl rfl rfl rfl) (fun new => ?_) master sequenceId t2
  obtain ⟨isElected, awaits⟩ := timely new
  exact ⟨isElected, accept_pending awaits⟩

/-- What a message does to the clock; the ones that are passed over have no T1. -/
theorem Sound.hear {clock : ClockPTP} {result : DispatchResult} (sound : w.Sound)
    (timely : w.clock.newT1 message ≠ none → w.clock.ptpMasterClockIdentity ≠ 0 ∧ w.Awaits message)
    (done : w.clock.processMessage message clockTime = .ok (clock, result)) :
    Sound ((w.hear clockTime message).withClock clock) := by
  cases message with
  | announce h body =>
    cases done
    exact sound.announce h body clockTime
  | sync h origin =>
    rw [processMessage] at done
    rw [Followed.hear]
    by_cases isMaster : h.clockIdentity = w.clock.ptpMasterClockIdentity
    · rw [if_neg (by simpa using isMaster)] at done ⊢
      obtain ⟨clock', step, pair⟩ := map_eq_ok.mp done
      cases pair
      by_cases gap : w.clock.deltaSeq h > ptpLockHysteresis
      · rw [if_pos gap]
        exact .of_forgotten _ _ (processSync_of_gap gap step).1
      · rw [if_neg gap]
        exact sound.sync gap isMaster timely step
    · rw [if_pos isMaster] at done ⊢
      cases done
      exact sound
  | followUp h origin =>
    rw [processMessage] at done
    rw [Followed.hear]
    by_cases isMaster : h.clockIdentity = w.clock.ptpMasterClockIdentity
    · rw [if_neg (by simpa using isMaster)] at done
      obtain ⟨clock', step, pair⟩ := map_eq_ok.mp done
      cases pair
      have master : clock.ptpMasterClockIdentity = w.clock.ptpMasterClockIdentity :=
        congrArg Election.ptpMasterClockIdentity (processFollowUp_election step)
      obtain ⟨counts, t2, sequenceId⟩ := processFollowUp_counts isMaster step
      exact sound.settle counts timely master sequenceId t2
    · have unheard : w.clock.newT1 (.followUp h origin) = none :=
        if_neg fun both => isMaster both.1
      rw [if_pos isMaster] at done
      cases done
      rw [unheard, settle_none]
      exact sound
  | other h =>
    cases done
    exact sound

theorem Sound.tick {endTime counterTime : UInt64} {clock : ClockPTP} {next : Option UInt64}
    (sound : w.Sound) (done : w.clock.timerProcess clockTime endTime counterTime = .ok (clock, next)) :
    Sound ((w.observe (.tick clockTime endTime counterTime)).withClock clock) := by
  rw [observe]
  rcases timerProcess_cases done with ⟨stopped, rfl⟩ | ⟨-, ticCount, -, -, -, rest⟩
  · rw [if_neg fun bites => absurd (bites.1.symm.trans stopped) (by decide)]
    exact sound.of_same rfl rfl rfl
  · have lock := congrArg ptpLockCounter rest
    by_cases bites : w.clock.WatchDogBites clockTime
    · rw [if_pos bites] at lock ⊢
      exact .of_forgotten _ _ lock
    · rw [if_neg bites] at rest lock ⊢
      have master := congrArg ptpMasterClockIdentity rest
      have last := congrArg lastSync rest
      exact sound.of_same lock master last

theorem Sound.step {event : ClockEvent} (sound : w.Sound) (timely : w.Timely event)
    (done : w.step event = .ok w') : w'.Sound := by
  obtain ⟨clock, step, last⟩ := bind_eq_ok.mp done
  cases last
  cases event with
  | packet bytes clockTime =>
    obtain ⟨⟨clock', result⟩, processed, first⟩ := map_eq_ok.mp step
    cases first
    rw [observe]
    rcases processPTPPacket_cases processed with ⟨deaf, rfl⟩ | ⟨listens, message, isPTP, heard⟩
    · rcases deaf with deaf | none
      · rw [deaf]
        exact sound
      · rw [none]
        split
        · exact sound
        · exact sound
    · rw [if_pos listens, isPTP]
      exact sound.hear (timely listens message isPTP) heard
  | tick clockTime endTime counterTime =>
    obtain ⟨⟨clock', next⟩, processed, first⟩ := map_eq_ok.mp step
    cases first
    exact sound.tick processed
  | setNextAbsoluteTime next =>
    cases step
    exact sound.of_same rfl rfl rfl
  | start frameSize samplingRate =>
    obtain ⟨period, -, started⟩ := bind_eq_ok.mp step
    cases started
    exact .of_forgotten _ _ rfl
  | stop =>
    cases step
    exact .of_forgotten _ _ rfl
  | config wanted =>
    cases step
    rw [setPTPConfig]
    split
    · exact sound.of_same rfl rfl rfl
    · exact sound.of_same rfl rfl rfl

/-- A new T1 is combined with the arrival of the Sync that has its number. -/
theorem Sound.combines {clock : ClockPTP} {result : DispatchResult} (sound : w.Sound)
    (timely : w.clock.newT1 message ≠ none → w.clock.ptpMasterClockIdentity ≠ 0 ∧ w.Awaits message)
    (done : w.clock.processMessage message clockTime = .ok (clock, result))
    (new : clock.t1 ≠ w.clock.t1) :
    (w.hear clockTime message).arrived =
      some (mtalSwap16 message.header.sequenceId, clock.t2) := by
  have isNew {t1 : Option UInt64} (counts : Counts w.clock clock t1) : t1 ≠ none := by
    intro none
    rw [none] at counts
    exact new counts.2
  obtain rfl | ⟨h, body, rfl, rfl⟩ | ⟨h, origin, rfl, isMaster, step⟩ |
    ⟨h, origin, rfl, isMaster, step⟩ := processMessage_cases done
  · exact absurd rfl new
  · exact absurd (congrArg LastSync.t1 (processAnnounce_lastSync w.clock h body clockTime)) new
  · rw [Followed.hear, if_neg (by simpa using isMaster)]
    by_cases gap : w.clock.deltaSeq h > ptpLockHysteresis
    · exact absurd (processSync_of_gap gap step).2.1 new
    · rw [if_neg gap, (processSync_of_near gap isMaster step).2.1]
      rfl
  · obtain ⟨counts, t2, -⟩ := processFollowUp_counts isMaster step
    have matching := isNew counts
    have pending := (timely matching).2
    rw [newT1] at matching
    have last : mtalSwap16 h.sequenceId = w.clock.lastSyncSequenceId := by
      by_contra differs
      exact matching (if_neg fun all => differs all.2.1)
    rw [t2]
    exact (sound.waiting pending).2.trans (by rw [← last]; rfl)

theorem Contiguous.near {later earlier : V2MsgHeader} (contiguous : Contiguous later earlier) :
    let x := (mtalSwap16 later.sequenceId).toNat
    let y := (mtalSwap16 earlier.sequenceId).toNat
    1 ≤ (x + 65536 - y) % 65536 ∧ (x + 65536 - y) % 65536 ≤ 4 := by
  obtain ⟨apart, close⟩ := contiguous
  intro x y
  have x_lt : x < 65536 := (mtalSwap16 later.sequenceId).toNat_lt
  have y_lt : y < 65536 := (mtalSwap16 earlier.sequenceId).toNat_lt
  simp only [ptpLockHysteresis, gt_iff_lt, UInt16.lt_iff_toNat_lt, ne_eq, ← UInt16.toNat_inj,
    UInt16.toNat_sub, UInt16.reduceToNat] at apart close
  omega

theorem four_distinct {accepted : List V2MsgHeader} (contiguous : accepted.IsChain Contiguous)
    (enough : 4 ≤ accepted.length) :
    4 ≤ (accepted.map fun h => mtalSwap16 h.sequenceId).toFinset.card := by
  obtain ⟨a, b, c, d, earlier, rfl⟩ : ∃ a b c d earlier, accepted = a :: b :: c :: d :: earlier := by
    match accepted, enough with
    | a :: b :: c :: d :: earlier, _ => exact ⟨a, b, c, d, earlier, rfl⟩
  simp only [List.isChain_cons_cons] at contiguous
  obtain ⟨ab, bc, cd, -⟩ := contiguous
  have different : ([a, b, c, d].map fun h => mtalSwap16 h.sequenceId).Nodup := by
    have ab := ab.near
    have bc := bc.near
    have cd := cd.near
    simp only [List.map_cons, List.map_nil, List.nodup_cons, List.mem_cons, List.not_mem_nil,
      ← UInt16.toNat_inj, or_false, not_or, not_false_eq_true, List.nodup_nil, and_true]
    omega
  calc 4 = ([a, b, c, d].map fun h => mtalSwap16 h.sequenceId).toFinset.card :=
        (List.toFinset_card_of_nodup different).symm
    _ ≤ _ := by
      refine Finset.card_le_card fun id => ?_
      simp only [List.mem_toFinset, List.map_cons, List.mem_cons]
      tauto

end Followed

def unfollowed : Followed := { clock := initPTP }

/-- When every new T1 comes from a master, for a Sync that waits for it, PTP is locked only after
four different Syncs of the master since the last reset, and every T1 is combined with the arrival
of the Sync that has its number. -/
theorem lock_sound {events : List ClockEvent} {w : Followed}
    (run : Run Followed.step Followed.Timely unfollowed events w) :
    (w.clock.ptpLockCounter = 0 →
      w.clock.ptpMasterClockIdentity ≠ 0 ∧
      (∀ h ∈ w.accepted, h.clockIdentity = w.clock.ptpMasterClockIdentity) ∧
      w.accepted.IsChain Followed.Contiguous ∧
      4 ≤ (w.accepted.map fun h => mtalSwap16 h.sequenceId).toFinset.card) ∧
    ∀ bytes clockTime message w', PTPMessage.ofPacket bytes = some message →
      w.Timely (.packet bytes clockTime) → w.step (.packet bytes clockTime) = .ok w' →
      w'.clock.t1 ≠ w.clock.t1 →
        w'.arrived = some (mtalSwap16 message.header.sequenceId, w'.clock.t2) := by
  have sound : w.Sound := run.invariant Followed.Sound (.of_forgotten initPTP none rfl)
    fun w event w' sound timely step => sound.step timely step
  constructor
  · intro locked
    have enough := sound.counted
    rw [locked] at enough
    refine ⟨sound.elected (by rw [locked]; decide), sound.own, sound.contiguous, ?_⟩
    exact Followed.four_distinct sound.contiguous (by simpa using enough)
  · intro bytes clockTime message w' isPTP timely step new
    obtain ⟨clock, processed, last⟩ := bind_eq_ok.mp step
    cases last
    obtain ⟨⟨clock', result⟩, done, first⟩ := map_eq_ok.mp processed
    cases first
    rcases processPTPPacket_cases done with ⟨-, rfl⟩ | ⟨listens, message', isPTP', heard⟩
    · exact absurd rfl new
    · rw [isPTP] at isPTP'
      cases isPTP'
      have arrived := sound.combines (timely listens message isPTP) heard new
      have observed : w.observe (.packet bytes clockTime) = w.hear clockTime message := by
        rw [Followed.observe, if_pos listens, isPTP]
      rw [Followed.withClock, observed]
      exact arrived

def elects : List ClockEvent := [.start 64 48000, .packet (announceFrame 0 7) 1000000000]

def fourSyncs : List ClockEvent :=
  elects ++ [.packet (syncFrame 0 7 1 1) 2000000000, .packet (syncFrame 0 7 2 2) 3000000000,
    .packet (syncFrame 0 7 3 3) 4000000000, .packet (syncFrame 0 7 4 4) 5000000000]

theorem lock_sound_four : ∃ w : Followed, w.clock.ptpLockCounter = 0 ∧ w.accepted.length = 4 ∧
    4 ≤ (w.accepted.map fun h => mtalSwap16 h.sequenceId).toFinset.card := by
  obtain ⟨w, run, seen⟩ := exists_run Fault.endlessLoop Followed.step Followed.Timely unfollowed
    fourSyncs (fun w => (w.clock.ptpLockCounter, w.accepted.length)) (0, 4) (by decide +kernel)
  obtain ⟨locked, length⟩ := Prod.mk.inj seen
  exact ⟨w, locked, length, ((lock_sound run).1 locked).2.2.2⟩

def oneSync : List ClockEvent :=
  elects ++ [.packet (syncFrame 0 7 1 1) 2000000000, .packet (followUpFrame 0 7 1 2) 3000000000,
    .packet (followUpFrame 0 7 1 3) 4000000000, .packet (followUpFrame 0 7 1 4) 5000000000]

def gapSync : List ClockEvent :=
  elects ++ [.packet (syncFrame 0 7 100 1) 2000000000, .packet (followUpFrame 0 7 100 2) 3000000000]

/-- One Sync is enough to lock, and T1 is combined with a T2 that is not of its Sync. -/
theorem repeated_follow_up_locks :
    (∃ w, Run Followed.step (fun _ _ => True) unfollowed oneSync w ∧
      w.clock.ptpLockCounter = 0 ∧ w.accepted.length = 1) ∧
    ∃ w, Run Followed.step (fun _ _ => True) unfollowed gapSync w ∧
      w.clock.t1 = 20000 ∧ w.clock.t2 = 0 ∧ w.arrived = some (100, 20000) := by
  constructor
  · obtain ⟨w, run, seen⟩ := exists_run Fault.endlessLoop Followed.step (fun _ _ => True) unfollowed
      oneSync (fun w => (w.clock.ptpLockCounter, w.accepted.length)) (0, 1) (by decide +kernel)
    obtain ⟨locked, length⟩ := Prod.mk.inj seen
    exact ⟨w, run, locked, length⟩
  · obtain ⟨w, run, seen⟩ := exists_run Fault.endlessLoop Followed.step (fun _ _ => True) unfollowed
      gapSync (fun w => (w.clock.t1, w.clock.t2, w.arrived)) (20000, 0, some (100, 20000)) (by decide +kernel)
    obtain ⟨t1, rest⟩ := Prod.mk.inj seen
    obtain ⟨t2, arrived⟩ := Prod.mk.inj rest
    exact ⟨w, run, t1, t2, arrived⟩

end ClockPTP

end RavennaLkm
