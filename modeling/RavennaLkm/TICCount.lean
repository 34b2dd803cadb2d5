import Mathlib.Data.List.Basic
import RavennaLkm.Lib.AnchoredCounter
import RavennaLkm.LockSoundness

/-!
The sample count of the TICs. A TIC near a frame boundary of the master takes the
number of that boundary, any other one the number after the last; nothing keeps a
second TIC near the same boundary from taking its number again.
-/
namespace RavennaLkm
open AnchoredCounter CheckedLoop GuardedRun

namespace ClockPTP

variable {c c' : ClockPTP} {now clockTime : UInt64}

def masterSamples (c : ClockPTP) (now : UInt64) : UInt64 :=
  (now - c.ticPTPToRTXClockOffset.toUInt64) * (c.samplingRate / 100).toUInt64 / 100

def nearBoundary (c : ClockPTP) (now : UInt64) : Option Nat :=
  let q := (c.masterSamples now).toNat / c.frameSize.toNat
  let r := (c.masterSamples now).toNat % c.frameSize.toNat
  let tolerance := 4 * c.samplingRate / 44100
  if r < tolerance.toNat then some q
  else if r > (c.frameSize - tolerance).toNat then some (q + 1)
  else none

/-- The sample of the boundary that the TIC `i` is near to. -/
def boundarySample (c : ClockPTP) (times : List UInt64) (i : Nat) : Option Nat :=
  (times[i]?.bind c.nearBoundary).map (· * c.frameSize.toNat)

/-- The sample count of a TIC that goes on from the last one. -/
def nextSAC (c : ClockPTP) : Nat := (c.lastTICCount * c.frameSize.toUInt64).toNat

theorem toNat_succ {x : UInt64} (small : x.toNat + 1 < 2 ^ 64) : (x + 1).toNat = x.toNat + 1 := by
  rw [UInt64.toNat_add]
  exact Nat.mod_eq_of_lt small

theorem currentTICCount_cases {ticCount : UInt64} (done : c.currentTICCount now = .ok ticCount) :
    0 < c.frameSize.toNat ∧ ∃ (q : UInt64) (r : UInt32),
      q.toNat = (c.masterSamples now).toNat / c.frameSize.toNat ∧
      r.toNat = (c.masterSamples now).toNat % c.frameSize.toNat ∧
      ticCount = if r < 4 * c.samplingRate / 44100 then q + 1
        else if r > c.frameSize - 4 * c.samplingRate / 44100 then q + 1 + 1
        else c.lastTICCount + 1 := by
  obtain ⟨q, divided, rest⟩ := bind_eq_ok.mp done
  obtain ⟨r, remainder, last⟩ := bind_eq_ok.mp rest
  have frame_lt := c.frameSize.toNat_lt
  rw [divU64] at divided
  split at divided
  · cases divided
  · rename_i nonzero
    cases divided
    have positive : 0 < c.frameSize.toNat := by
      rw [← UInt64.toNat_inj] at nonzero
      exact Nat.pos_of_ne_zero nonzero
    have divisor : c.frameSize.toUInt64.toUInt32 = c.frameSize := UInt32.toUInt32_toUInt64 _
    rw [cwLlModulo, divisor, if_neg fun zero => by simp [zero] at positive] at remainder
    cases remainder
    cases last
    refine ⟨positive, c.masterSamples now / c.frameSize.toUInt64,
      (c.masterSamples now % c.frameSize.toUInt64).toUInt32, ?_, ?_, rfl⟩
    · rw [UInt64.toNat_div, UInt32.toNat_toUInt64]
    · have remainder_lt := Nat.mod_lt (c.masterSamples now).toNat positive
      rw [UInt64.toNat_toUInt32, UInt64.toNat_mod, UInt32.toNat_toUInt64]
      exact Nat.mod_eq_of_lt (by omega)

theorem masterSamples_lt (c : ClockPTP) (now : UInt64) : (c.masterSamples now).toNat < 2 ^ 58 := by
  have bound := ((now - c.ticPTPToRTXClockOffset.toUInt64) * (c.samplingRate / 100).toUInt64).toNat_lt
  rw [masterSamples, UInt64.toNat_div]
  change _ / 100 < _
  omega

theorem nearBoundary_lt (positive : 0 < c.frameSize.toNat) {b : Nat} (near : c.nearBoundary now = some b) :
    b * c.frameSize.toNat < 2 ^ 64 := by
  have samples := c.masterSamples_lt now
  have frame := c.frameSize.toNat_lt
  have whole := Nat.div_mul_le_self (c.masterSamples now).toNat c.frameSize.toNat
  unfold nearBoundary at near
  dsimp only at near
  split at near
  · cases near
    omega
  · split at near
    · cases near
      rw [Nat.succ_mul]
      omega
    · cases near

/-- A TIC is counted as the boundary it is near to, or goes on from the last one. -/
theorem currentTICCount_sample {ticCount : UInt64} (done : c.currentTICCount now = .ok ticCount) :
    0 < c.frameSize.toNat ∧ ((ticCount - 1) * c.frameSize.toUInt64).toNat =
      ((c.nearBoundary now).map (· * c.frameSize.toNat)).getD c.nextSAC := by
  obtain ⟨positive, q, r, quotient, remainder, rfl⟩ := currentTICCount_cases done
  have samples := c.masterSamples_lt now
  have frame := c.frameSize.toNat_lt
  have floor := Nat.div_le_self (c.masterSamples now).toNat c.frameSize.toNat
  refine ⟨positive, ?_⟩
  have product : ∀ x : UInt64, c.nearBoundary now = some x.toNat →
      (x * c.frameSize.toUInt64).toNat = x.toNat * c.frameSize.toNat := by
    intro x near
    rw [UInt64.toNat_mul, UInt32.toNat_toUInt64, Nat.mod_eq_of_lt (nearBoundary_lt positive near)]
  have near : c.nearBoundary now = if r < 4 * c.samplingRate / 44100 then some q.toNat
      else if r > c.frameSize - 4 * c.samplingRate / 44100 then some (q.toNat + 1) else none := by
    simp only [nearBoundary, ← quotient, ← remainder, gt_iff_lt, ← UInt32.lt_iff_toNat_lt]
  by_cases early : r < 4 * c.samplingRate / 44100
  · rw [if_pos early] at near ⊢
    rw [UInt64.add_sub_cancel, product q near, near]
    rfl
  · rw [if_neg early] at near ⊢
    by_cases late : r > c.frameSize - 4 * c.samplingRate / 44100
    · rw [if_pos late] at near ⊢
      have next : (q + 1).toNat = q.toNat + 1 := toNat_succ (by omega)
      rw [← next] at near
      rw [UInt64.add_sub_cancel, product (q + 1) near, near]
      rfl
    · rw [if_neg late] at near ⊢
      rw [UInt64.add_sub_cancel, near]
      rfl

theorem atTIC_currentTICCount (c : ClockPTP) (clockTime now : UInt64) :
    ((c.updateClkJitter clockTime).atTIC clockTime).currentTICCount now = c.currentTICCount now := by
  obtain ⟨_, _, atTIC⟩ := atTIC_cases (c.updateClkJitter clockTime) clockTime
  rw [atTIC]
  rfl

structure FrameGrid where
  offset : Int64
  samplingRate : UInt32
  frameSize : UInt32
  deriving DecidableEq

def frameGrid (c : ClockPTP) : FrameGrid := ⟨c.ticPTPToRTXClockOffset, c.samplingRate, c.frameSize⟩

theorem nearBoundary_congr (same : c'.frameGrid = c.frameGrid) (now : UInt64) :
    c'.nearBoundary now = c.nearBoundary now := by
  obtain ⟨offset, rate, frame⟩ := FrameGrid.mk.inj same
  unfold nearBoundary masterSamples
  rw [offset, rate, frame]

theorem timerProcess_sample {endTime counterTime : UInt64} {next : Option UInt64}
    (started : c.audioFrameTICTimerStarted = true)
    (done : c.timerProcess clockTime endTime counterTime = .ok (c', next)) (same : c'.frameGrid = c.frameGrid) :
    0 < c.frameSize.toNat ∧
      c'.globalSAC.toNat =
        ((c.nearBoundary (clockTime / nsToRefUnit)).map (· * c.frameSize.toNat)).getD c.nextSAC ∧
      c'.nextSAC = (c'.globalSAC.toNat + c.frameSize.toNat) % 2 ^ 64 := by
  rcases timerProcess_cases done with ⟨stopped, -⟩ | ⟨-, ticCount, counted, sac, count, -⟩
  · rw [started] at stopped
    cases stopped
  · rw [atTIC_currentTICCount] at counted
    obtain ⟨positive, sample⟩ := currentTICCount_sample counted
    have frame : c'.frameSize = c.frameSize := congrArg FrameGrid.frameSize same
    have goesOn : ticCount * c.frameSize.toUInt64 =
        (ticCount - 1) * c.frameSize.toUInt64 + c.frameSize.toUInt64 := by
      conv => lhs; rw [← UInt64.sub_add_cancel ticCount 1, UInt64.add_mul, UInt64.one_mul]
    refine ⟨positive, by rw [sac, sample], ?_⟩
    rw [nextSAC, count, frame, goesOn, ← sac, UInt64.toNat_add, UInt32.toNat_toUInt64]

/-- A clock with the times of its TICs and their sample counts, in order. -/
structure Ticked where
  clock : ClockPTP
  times : List UInt64 := []
  sacs : List UInt64 := []

namespace Ticked

variable {w w' : Ticked}

def step (w : Ticked) (event : ClockEvent) : Except Fault Ticked := do
  let clock ← event.step w.clock
  match event with
  | .tick clockTime _ _ =>
    if w.clock.audioFrameTICTimerStarted then
      .ok ⟨clock, w.times ++ [clockTime / nsToRefUnit], w.sacs ++ [clock.globalSAC]⟩
    else .ok ⟨clock, w.times, w.sacs⟩
  | _ => .ok ⟨clock, w.times, w.sacs⟩

/-- The PTP offset, the frame size and the sampling rate are fixed. -/
def Fixed (w : Ticked) (event : ClockEvent) : Prop :=
  match w.step event with
  | .ok w' => w'.clock.frameGrid = w.clock.frameGrid
  | .error _ => True

instance (w : Ticked) : DecidablePred w.Fixed := fun event => by
  unfold Fixed
  split <;> infer_instance

/-- The sample counts are the values of a counter that goes on by a frame and is set to the boundary that
a TIC is near to. -/
structure Counted (c : ClockPTP) (w : Ticked) : Prop where
  grid : w.clock.frameGrid = c.frameGrid
  frames : w.times ≠ [] → 0 < c.frameSize.toNat
  sacs : w.sacs.map (·.toNat) = (List.range w.times.length).map
    (value c.frameSize.toNat (2 ^ 64) c.nextSAC (c.boundarySample w.times))
  goesOn : w.clock.nextSAC = match w.times.length with
    | 0 => c.nextSAC
    | n + 1 => (value c.frameSize.toNat (2 ^ 64) c.nextSAC (c.boundarySample w.times) n + c.frameSize.toNat) % 2 ^ 64

theorem Counted.init (c : ClockPTP) : Counted c ⟨c, [], []⟩ := ⟨rfl, by simp, rfl, rfl⟩

theorem Counted.keep {clock : ClockPTP} (counted : Counted c w) (grid : clock.frameGrid = w.clock.frameGrid)
    (count : clock.lastTICCount = w.clock.lastTICCount) : Counted c ⟨clock, w.times, w.sacs⟩ := by
  have frame : clock.frameSize = w.clock.frameSize := congrArg FrameGrid.frameSize grid
  refine ⟨grid.trans counted.grid, counted.frames, counted.sacs, ?_⟩
  rw [nextSAC, count, frame]
  exact counted.goesOn

theorem boundarySample_append (c : ClockPTP) (times : List UInt64) (now : UInt64) :
    (∀ i < times.length, c.boundarySample (times ++ [now]) i = c.boundarySample times i) ∧
      c.boundarySample (times ++ [now]) times.length = (c.nearBoundary now).map (· * c.frameSize.toNat) := by
  constructor
  · intro i below
    rw [boundarySample, List.getElem?_append_left below, boundarySample]
  · rw [boundarySample, List.getElem?_concat_length]
    rfl

theorem Counted.tic {clock : ClockPTP} {now : UInt64} (counted : Counted c w)
    (grid : clock.frameGrid = w.clock.frameGrid) (positive : 0 < w.clock.frameSize.toNat)
    (sac : clock.globalSAC.toNat =
      ((w.clock.nearBoundary now).map (· * w.clock.frameSize.toNat)).getD w.clock.nextSAC)
    (goesOn : clock.nextSAC = (clock.globalSAC.toNat + w.clock.frameSize.toNat) % 2 ^ 64) :
    Counted c ⟨clock, w.times ++ [now], w.sacs ++ [clock.globalSAC]⟩ := by
  obtain ⟨earlier, here⟩ := boundarySample_append c w.times now
  have frame : w.clock.frameSize = c.frameSize := congrArg FrameGrid.frameSize counted.grid
  have before : ∀ i < w.times.length,
      value c.frameSize.toNat (2 ^ 64) c.nextSAC (c.boundarySample (w.times ++ [now])) i =
        value c.frameSize.toNat (2 ^ 64) c.nextSAC (c.boundarySample w.times) i := fun i below =>
    value_congr fun j atMost => earlier j (by omega)
  have isValue : clock.globalSAC.toNat =
      value c.frameSize.toNat (2 ^ 64) c.nextSAC (c.boundarySample (w.times ++ [now])) w.times.length := by
    rw [sac, nearBoundary_congr counted.grid, frame, ← here, counted.goesOn]
    cases isLength : w.times.length with
    | zero => rfl
    | succ n =>
      rw [value, before n (by omega)]
  refine ⟨grid.trans counted.grid, fun _ => by rwa [← frame], ?_, ?_⟩
  · rw [List.map_append, counted.sacs, List.length_append, List.length_singleton, List.range_succ, List.map_append,
      List.map_singleton, List.map_singleton, isValue]
    congr 1
    apply List.map_congr_left
    intro i below
    exact (before i (List.mem_range.mp below)).symm
  · simp only [List.length_append, List.length_singleton]
    rw [goesOn, isValue, frame]

theorem Counted.step {event : ClockEvent} (counted : Counted c w) (fixed : w.Fixed event)
    (done : w.step event = .ok w') : Counted c w' := by
  have grid : w'.clock.frameGrid = w.clock.frameGrid := by
    rwa [Fixed, done] at fixed
  obtain ⟨clock, step, last⟩ := bind_eq_ok.mp done
  cases event with
  | packet bytes clockTime =>
    cases last
    obtain ⟨⟨clock', result⟩, processed, first⟩ := map_eq_ok.mp step
    cases first
    rcases processPTPPacket_cases processed with ⟨-, rfl⟩ | ⟨-, message, -, heard⟩
    · exact counted
    · have same := congrArg ClockPTP.lastTICCount (processMessage_withoutMessages heard)
      exact counted.keep grid same
  | tick clockTime endTime counterTime =>
    obtain ⟨⟨clock', next⟩, processed, first⟩ := map_eq_ok.mp step
    cases first
    dsimp only at last
    split at last
    · rename_i started
      cases last
      obtain ⟨positive, sac, goesOn⟩ := timerProcess_sample started processed grid
      exact counted.tic grid positive sac goesOn
    · rename_i stopped
      cases last
      rcases timerProcess_cases processed with ⟨-, rfl⟩ | ⟨started, -⟩
      · exact counted.keep grid rfl
      · exact absurd started stopped
  | setNextAbsoluteTime next =>
    cases last
    cases step
    exact counted.keep grid rfl
  | start frameSize samplingRate =>
    cases last
    obtain ⟨period, -, started⟩ := bind_eq_ok.mp step
    cases started
    exact counted.keep grid rfl
  | stop =>
    cases last
    cases step
    exact counted.keep grid rfl
  | config wanted =>
    cases last
    cases step
    refine counted.keep grid ?_
    rw [setPTPConfig]
    split
    · rfl
    · rfl

theorem Counted.increasing_iff (counted : Counted c w) :
    w.sacs.Pairwise (· < ·) ↔ ∀ i, i + 1 < w.times.length →
      Advances c.frameSize.toNat (2 ^ 64) c.nextSAC (c.boundarySample w.times) i := by
  have numbers : w.sacs.Pairwise (· < ·) ↔ ∀ i < w.times.length, ∀ j < i,
      value c.frameSize.toNat (2 ^ 64) c.nextSAC (c.boundarySample w.times) j <
        value c.frameSize.toNat (2 ^ 64) c.nextSAC (c.boundarySample w.times) i := by
    have asNumbers : w.sacs.Pairwise (· < ·) ↔ (w.sacs.map (·.toNat)).Pairwise (· < ·) := by
      simp only [List.pairwise_map, UInt64.lt_iff_toNat_lt]
    rw [asNumbers, counted.sacs, List.pairwise_map, List.pairwise_iff_getElem]
    simp only [List.length_range, List.getElem_range]
    exact ⟨fun increasing i below j before => increasing j i (by omega) below before,
      fun increasing j i _ below before => increasing i below j before⟩
  rw [numbers]
  rcases eq_or_ne w.times [] with none | some
  · simp [none]
  · have positive := counted.frames some
    have frame := c.frameSize.toNat_lt
    apply AnchoredCounter.increasing_iff positive (by omega)
      (c.lastTICCount * c.frameSize.toUInt64).toNat_lt
    intro i b isAnchor
    obtain ⟨q, near, rfl⟩ := Option.map_eq_some_iff.mp isAnchor
    obtain ⟨now, -, isNear⟩ := Option.bind_eq_some_iff.mp near
    exact nearBoundary_lt positive isNear

theorem Counted.of_run {events : List ClockEvent} (run : Run Ticked.step Ticked.Fixed ⟨c, [], []⟩ events w) :
    Ticked.Counted c w :=
  run.invariant (Ticked.Counted c) (.init c) fun _ _ _ counted fixed step => counted.step fixed step

end Ticked

def nearness (c : ClockPTP) : Nat := (4 * c.samplingRate / 44100).toNat

theorem nearBoundary_near (positive : 0 < c.frameSize.toNat) (narrow : c.nearness ≤ c.frameSize.toNat) {b : Nat}
    (near : c.nearBoundary now = some b) :
    b * c.frameSize.toNat < (c.masterSamples now).toNat + c.nearness ∧
      (c.masterSamples now).toNat < b * c.frameSize.toNat + c.nearness := by
  have whole := Nat.div_add_mod' (c.masterSamples now).toNat c.frameSize.toNat
  have below := Nat.mod_lt (c.masterSamples now).toNat positive
  have room := UInt32.toNat_sub_of_le c.frameSize (4 * c.samplingRate / 44100) (UInt32.le_iff_toNat_le.mpr narrow)
  unfold nearness at *
  unfold nearBoundary at near
  dsimp only at near
  split at near
  · cases near
    omega
  · split at near
    · cases near
      rw [Nat.succ_mul]
      omega
    · cases near

theorem not_advances_of_same {times : List UInt64} {i : Nat} {sample : Nat}
    (here : c.boundarySample times i = some sample) (again : c.boundarySample times (i + 1) = some sample) :
    ¬ Advances c.frameSize.toNat (2 ^ 64) c.nextSAC (c.boundarySample times) i := by
  intro advances
  have less := advances sample ((reaches_of_anchor here).mpr rfl)
  rw [again] at less
  exact Nat.lt_irrefl sample less

theorem samples_apart {times : List UInt64}
    (apart : times.IsChain fun t t' =>
      (c.masterSamples t).toNat + c.frameSize.toNat ≤ (c.masterSamples t').toNat)
    {i j : Nat} {t t' : UInt64} (first : times[j]? = some t) (second : times[i]? = some t') (after : j ≤ i) :
    (c.masterSamples t).toNat + (i - j) * c.frameSize.toNat ≤ (c.masterSamples t').toNat := by
  induction i, after using Nat.le_induction generalizing t' with
  | base =>
    cases first.symm.trans second
    simp
  | succ i after ih =>
    obtain ⟨below, rfl⟩ := List.getElem?_eq_some_iff.mp second
    have last := List.isChain_iff_getElem.mp apart i below
    have earlier := ih (List.getElem?_eq_getElem (by omega))
    rw [show i + 1 - j = i - j + 1 by omega, Nat.succ_mul]
    omega

/-- From the first TIC on that is near a boundary, TICs that are a frame apart in the master's time count on. -/
theorem advances_of_apart {times : List UInt64} (positive : 0 < c.frameSize.toNat)
    (narrow : 2 * c.nearness ≤ c.frameSize.toNat)
    (apart : times.IsChain fun t t' =>
      (c.masterSamples t).toNat + c.frameSize.toNat ≤ (c.masterSamples t').toNat)
    {i j sample : Nat} (near : c.boundarySample times j = some sample) (after : j ≤ i) (below : i + 1 < times.length) :
    Advances c.frameSize.toNat (2 ^ 64) c.nextSAC (c.boundarySample times) i := by
  have position : ∀ {k sample}, c.boundarySample times k = some sample →
      ∃ now, times[k]? = some now ∧ sample < (c.masterSamples now).toNat + c.nearness ∧
        (c.masterSamples now).toNat < sample + c.nearness := by
    intro k sample isNear
    obtain ⟨b, isBoundary, rfl⟩ := Option.map_eq_some_iff.mp isNear
    obtain ⟨now, isTime, isNear⟩ := Option.bind_eq_some_iff.mp isBoundary
    exact ⟨now, isTime, nearBoundary_near positive (by omega) isNear⟩
  obtain ⟨next, isNext⟩ : ∃ next, times[i + 1]? = some next := ⟨_, List.getElem?_eq_getElem below⟩
  rintro x (⟨k, atMost, start, isStart, -, rfl⟩ | ⟨free, -⟩)
  · obtain ⟨now, isNow, ahead, -⟩ := position isStart
    have elapsed := samples_apart apart isNow isNext (by omega)
    have frames : (i + 1 - k) * c.frameSize.toNat = (i - k) * c.frameSize.toNat + c.frameSize.toNat := by
      rw [show i + 1 - k = i - k + 1 by omega, Nat.succ_mul]
    have samples := c.masterSamples_lt next
    have frame := c.frameSize.toNat_lt
    cases isAnchor : c.boundarySample times (i + 1) with
    | some sample =>
      obtain ⟨now', isNow', -, behind⟩ := position isAnchor
      cases isNext.symm.trans isNow'
      dsimp only
      omega
    | none =>
      dsimp only
      omega
  · rw [free j after] at near
    cases near

/-- In a run with a fixed offset, frame size and rate, the sample count increases from each TIC to the next
exactly when the boundary near to each TIC is past those that the TICs since the last such boundary counted. -/
theorem sac_increases_iff {events : List ClockEvent} {w : Ticked}
    (run : Run Ticked.step Ticked.Fixed ⟨c, [], []⟩ events w) :
    w.sacs.Pairwise (· < ·) ↔ ∀ i, i + 1 < w.times.length →
      Advances c.frameSize.toNat (2 ^ 64) c.nextSAC (c.boundarySample w.times) i :=
  (Ticked.Counted.of_run run).increasing_iff

def idleClock (frameSize : UInt32) : ClockPTP := { initPTP with frameSize := frameSize, samplingRate := 48000 }

def threeTICs : List ClockEvent :=
  [.start 64 48000, .tick 1400000 1400000 0, .tick 2700000 2700000 0, .tick 3300000 3300000 0]

theorem sac_increases_iff_three : ∃ w : Ticked, (w.times, w.sacs) = ([14, 27, 33], [64, 128, 192]) ∧
    (w.sacs.Pairwise (· < ·) ↔ ∀ i, i + 1 < w.times.length →
      Advances 64 (2 ^ 64) 0 ((idleClock 64).boundarySample w.times) i) := by
  obtain ⟨w, run, seen⟩ := exists_run Fault.endlessLoop Ticked.step Ticked.Fixed ⟨idleClock 64, [], []⟩
    threeTICs (fun w => (w.times, w.sacs)) ([14, 27, 33], [64, 128, 192]) (by decide +kernel)
  exact ⟨w, seen, sac_increases_iff run⟩

/-- A TIC that asks to be called again at once, as the next one is due, takes its number again. -/
theorem recalled_tic_repeats :
    (∃ w, Run Ticked.step Ticked.Fixed ⟨idleClock 48, [], []⟩ [.start 48 48000, .tick 1000000 1000000 0] w ∧
      w.sacs = [48] ∧ w.clock.lastAbsoluteTime * nsToRefUnit = 1000000) ∧
    ∃ w, Run Ticked.step Ticked.Fixed ⟨idleClock 48, [], []⟩
      [.start 48 48000, .tick 1000000 1000000 0, .tick 1000000 1000000 0] w ∧ w.sacs = [48, 48] := by
  constructor
  · obtain ⟨w, run, seen⟩ := exists_run Fault.endlessLoop Ticked.step Ticked.Fixed ⟨idleClock 48, [], []⟩
      [.start 48 48000, .tick 1000000 1000000 0]
      (fun w => (w.sacs, w.clock.lastAbsoluteTime * nsToRefUnit)) ([48], 1000000) (by decide +kernel)
    obtain ⟨sacs, next⟩ := Prod.mk.inj seen
    exact ⟨w, run, sacs, next⟩
  · exact exists_run Fault.endlessLoop Ticked.step Ticked.Fixed ⟨idleClock 48, [], []⟩
      [.start 48 48000, .tick 1000000 1000000 0, .tick 1000000 1000000 0] Ticked.sacs [48, 48]
      (by decide +kernel)

end ClockPTP

end RavennaLkm
