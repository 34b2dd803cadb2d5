import RavennaLkm.Dispatch
import RavennaLkm.Lib.GroupScan
import RavennaLkm.StreamsCalls

/-!
The statistics over the sinks. Both functions go through the sinks of one NIC
after the other and take the first sink of each NIC for the first of all, so that
the second NIC alone decides as soon as it has a sink.
-/
namespace RavennaLkm
open CheckedLoop GroupScan

theorem picks_min : Picks (· ≤ ·) (min : UInt32 → UInt32 → UInt32) := by
  constructor
  · intro x
    exact UInt32.le_refl x
  · intro x y z
    exact UInt32.le_trans
  · intro x y
    change (if x ≤ y then x else y) = x ∨ (if x ≤ y then x else y) = y
    split <;> simp
  · intro x y
    rw [UInt32.le_iff_toNat_le, toNat_min]
    omega
  · intro x y
    rw [UInt32.le_iff_toNat_le, toNat_min]
    omega

theorem toNat_max (x y : UInt32) : (max x y).toNat = max x.toNat y.toNat := by
  change (if x ≤ y then y else x).toNat = _
  split
  · rename_i le
    have values := UInt32.le_iff_toNat_le.mp le
    omega
  · rename_i gt
    have values := mt UInt32.le_iff_toNat_le.mpr gt
    omega

theorem picks_max : Picks (· ≥ ·) (max : UInt32 → UInt32 → UInt32) := by
  constructor
  · intro x
    exact UInt32.le_refl x
  · intro x y z above higher
    exact UInt32.le_trans higher above
  · intro x y
    change (if x ≤ y then y else x) = x ∨ (if x ≤ y then y else x) = y
    split <;> simp
  · intro x y
    rw [ge_iff_le, UInt32.le_iff_toNat_le, toNat_max]
    omega
  · intro x y
    rw [ge_iff_le, UInt32.le_iff_toNat_le, toNat_max]
    omega

namespace RTPStreamsManager

/-- What one sink reports, in microseconds. -/
def sinkAheadTime (m : RTPStreamsManager) (h : StreamHandle) : UInt32 := (getStatsSinkAheadTime (m.stream h)).2

def sinkJitter (m : RTPStreamsManager) (h : StreamHandle) : UInt32 := getStatsSinkJitter (m.stream h)

theorem sinkAheadTime_asked (m : RTPStreamsManager) (h p : StreamHandle) :
    (m.setStream h (getStatsSinkAheadTime (m.stream h)).1).sinkAheadTime p = m.sinkAheadTime p := by
  by_cases same : p = h
  · subst same
    simp [sinkAheadTime, stream, setStream, setHandler, getStatsSinkAheadTime]
  · simp [sinkAheadTime, stream, setStream, setHandler, Function.update_of_ne same]

theorem sinkAheadTimes_scan (l : List StreamHandle) (first : Bool) (m : RTPStreamsManager) (least : UInt32) :
    (∀ p, (sinkAheadTimes l first (m, least)).1.sinkAheadTime p = m.sinkAheadTime p) ∧
      (sinkAheadTimes l first (m, least)).1.sinkOrdered = m.sinkOrdered ∧
      (sinkAheadTimes l first (m, least)).2 = scan min (l.map m.sinkAheadTime) first least := by
  induction l generalizing first m least with
  | nil => exact ⟨fun _ => rfl, rfl, rfl⟩
  | cons h rest ih =>
    obtain ⟨times, lists, found⟩ := ih false (m.setStream h (getStatsSinkAheadTime (m.stream h)).1)
      (if first then m.sinkAheadTime h else min least (m.sinkAheadTime h))
    have asked : (m.setStream h (getStatsSinkAheadTime (m.stream h)).1).sinkAheadTime = m.sinkAheadTime :=
      funext (sinkAheadTime_asked m h)
    rw [asked] at times found
    exact ⟨times, lists, found⟩

theorem getMinSinkAheadTime_scan (m : RTPStreamsManager) : m.getMinSinkAheadTime.2 =
    scan min ((m.sinkOrdered 1).map m.sinkAheadTime) true
      (scan min ((m.sinkOrdered 0).map m.sinkAheadTime) true 0) := by
  obtain ⟨times, lists, found⟩ := sinkAheadTimes_scan (m.sinkOrdered 0) true m 0
  unfold getMinSinkAheadTime
  dsimp only
  rw [(sinkAheadTimes_scan _ true _ _).2.2, lists, found, funext times]

theorem sinkJitters_scan (m : RTPStreamsManager) (l : List StreamHandle) (first : Bool) (least most : UInt32) :
    m.sinkJitters l first (least, most) =
      (scan min (l.map m.sinkJitter) first least, scan max (l.map m.sinkJitter) first most) := by
  induction l generalizing first least most with
  | nil => rfl
  | cons h rest ih =>
    cases first with
    | true => exact ih false _ _
    | false => exact ih false _ _

/-- Both functions report about all sinks of both NICs. -/
structure ReportsAllSinks (m : RTPStreamsManager) : Prop where
  aheadTime : Reported (· ≤ ·) 0 ((m.sinkOrdered 0 ++ m.sinkOrdered 1).map m.sinkAheadTime)
    m.getMinSinkAheadTime.2
  minJitter : Reported (· ≤ ·) 0 ((m.sinkOrdered 0 ++ m.sinkOrdered 1).map m.sinkJitter)
    m.getMinMaxSinksJitter.1
  maxJitter : Reported (· ≥ ·) 0 ((m.sinkOrdered 0 ++ m.sinkOrdered 1).map m.sinkJitter)
    m.getMinMaxSinksJitter.2

/-- Every sink reports the jitter 0, so that it does not matter which NIC decides. -/
theorem jitter_reported {le : UInt32 → UInt32 → Prop} {pick : UInt32 → UInt32 → UInt32} (picks : Picks le pick)
    (m : RTPStreamsManager) : Reported le 0 ((m.sinkOrdered 0 ++ m.sinkOrdered 1).map m.sinkJitter)
      (scan pick ((m.sinkOrdered 1).map m.sinkJitter) true
        (scan pick ((m.sinkOrdered 0).map m.sinkJitter) true 0)) := by
  rw [List.map_append, groups_reported_iff picks]
  cases m.sinkOrdered 1 with
  | nil => simp
  | cons h rest =>
    refine .inr ⟨m.sinkJitter h, by simp, fun x isIn => ?_⟩
    obtain ⟨p, -, rfl⟩ := List.mem_map.mp isIn
    exact picks.refl 0

/-- The least ahead time is reported if it is one of the second NIC, or that NIC has no sink. -/
theorem aheadTime_reported_iff (m : RTPStreamsManager) :
    Reported (· ≤ ·) 0 ((m.sinkOrdered 0 ++ m.sinkOrdered 1).map m.sinkAheadTime) m.getMinSinkAheadTime.2 ↔
      m.sinkOrdered 1 = [] ∨
        ∃ h ∈ m.sinkOrdered 1, ∀ p ∈ m.sinkOrdered 0, m.sinkAheadTime h ≤ m.sinkAheadTime p := by
  rw [getMinSinkAheadTime_scan, List.map_append, groups_reported_iff picks_min]
  simp

theorem reports_all_sinks_iff (m : RTPStreamsManager) : m.ReportsAllSinks ↔
    m.sinkOrdered 1 = [] ∨
      ∃ h ∈ m.sinkOrdered 1, ∀ p ∈ m.sinkOrdered 0, m.sinkAheadTime h ≤ m.sinkAheadTime p := by
  rw [← aheadTime_reported_iff]
  constructor
  · exact ReportsAllSinks.aheadTime
  · intro reported
    have least := jitter_reported picks_min m
    have most := jitter_reported picks_max m
    refine ⟨reported, ?_, ?_⟩
    · simpa [getMinMaxSinksJitter, sinkJitters_scan] using least
    · simpa [getMinMaxSinksJitter, sinkJitters_scan] using most

def oneSinkFed : Except Fault RTPStreamsManager :=
  [.manage (.add (monoSink 0) oneLiveInOps), .manage (.add (monoSink 1) oneLiveInOps), .minSinkAheadTime true,
    .manage (.processUDP oneLiveInOps 1 (announcedFrame 1 1 4801 [1, 2, 3]))].foldlM StreamsCall.step
      (init (fun _ => {}) fun _ => {})

theorem second_nic_decides : ∃ m, oneSinkFed = .ok m ∧ ¬ m.ReportsAllSinks := by
  obtain ⟨m, run, near, far, unfed, fed⟩ : ∃ m, oneSinkFed = .ok m ∧ m.sinkOrdered 0 = [.sink 0] ∧
      m.sinkOrdered 1 = [.sink 128] ∧ m.sinkAheadTime (.sink 0) = 0 ∧ m.sinkAheadTime (.sink 128) = 1000 :=
    ⟨_, rfl, rfl, rfl, by decide, by decide⟩
  refine ⟨m, run, fun reports => ?_⟩
  have least := (aheadTime_reported_iff m).mp reports.aheadTime
  simp [near, far, unfed, fed] at least

end RTPStreamsManager

end RavennaLkm
