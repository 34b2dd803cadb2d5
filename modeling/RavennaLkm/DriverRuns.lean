import RavennaLkm.DriverSpec

/-!
What a run of the driver keeps. I/O only goes on in a substream that ALSA has started,
on the area that it was prepared with, and in the configuration that it was started in.
-/
namespace RavennaLkm
open CheckedLoop GuardedRun

namespace Driver
open AudioChip

variable {d d' : Driver} {isPlayback direction : Bool} {sub : PCMSubstream}

@[simp] theorem side_setSide (d : Driver) (isPlayback : Bool) (side : PCMSide) :
    (d.setSide isPlayback side).side isPlayback = side := by cases isPlayback <;> rfl

@[simp] theorem side_setSide_not (d : Driver) (isPlayback : Bool) (side : PCMSide) :
    (d.setSide isPlayback side).side (!isPlayback) = d.side (!isPlayback) := by cases isPlayback <;> rfl

@[simp] theorem manager_setSide (d : Driver) (isPlayback : Bool) (side : PCMSide) :
    (d.setSide isPlayback side).manager = d.manager := by cases isPlayback <;> rfl

@[simp] theorem chip_setSide (d : Driver) (isPlayback : Bool) (side : PCMSide) :
    (d.setSide isPlayback side).chip = d.chip := by cases isPlayback <;> rfl

structure SetUp (d : Driver) (isPlayback : Bool) (sub : PCMSubstream) : Prop where
  sized : sub.Sized
  substream : (d.chip.stream isPlayback).substream = some sub
  area : ∃ area, (d.side isPlayback).dmaArea = some area ∧ sub.bufferBytes ≤ area.bytes

structure Ready (d : Driver) (isPlayback : Bool) (sub : PCMSubstream) : Prop where
  buffer : (d.side isPlayback).dmaBuffer = (d.side isPlayback).dmaArea
  prepared : PreparedFor sub isPlayback d.chip
  reached : Reached sub (d.side isPlayback).moved (d.chip.stream isPlayback)

def Backed (d : Driver) (isPlayback : Bool) : PCMState → Prop
  | .closed | .opened => True
  | .configuring sub => sub.Sized
  | .setup sub => d.SetUp isPlayback sub
  | .preparing sub _ wasPrepared => d.SetUp isPlayback sub ∧ (wasPrepared = true → d.Ready isPlayback sub)
  | .prepared sub | .running sub | .paused sub => d.SetUp isPlayback sub ∧ d.Ready isPlayback sub

structure Going (d : Driver) (isPlayback : Bool) (sub : PCMSubstream) : Prop where
  state : (d.side isPlayback).state = .running sub
  fits : FrameFits d.manager sub (d.side isPlayback).moved
  startedWith : (d.side isPlayback).startedWith = some d.manager.ioConfig

structure Kept (d : Driver) (isPlayback : Bool) : Prop where
  live : d.manager.IOLive
  constraints : ∀ c, (d.side isPlayback).constraints = some c →
    ∃ formats m, RavennaLkm.pcmOpen formats m = .ok c
  backed : d.Backed isPlayback (d.side isPlayback).state
  going : d.manager.ioOn isPlayback = true → ∃ sub, d.Going isPlayback sub

theorem FrameFits.congr {m m' : Manager} {moved : Nat} (fits : FrameFits m sub moved)
    (same : m'.ioConfig = m.ioConfig) : FrameFits m' sub moved := by
  have frameSize : m'.frameSize = m.frameSize := congrArg IOConfig.frameSize same
  obtain ⟨format, moves, inRing, whole, position⟩ := fits
  exact ⟨format, by rwa [frameSize], by rwa [frameSize], by rwa [frameSize], by rwa [frameSize]⟩

structure SameBacking (isPlayback : Bool) (d d' : Driver) : Prop where
  dmaArea : (d'.side isPlayback).dmaArea = (d.side isPlayback).dmaArea
  dmaBuffer : (d'.side isPlayback).dmaBuffer = (d.side isPlayback).dmaBuffer
  moved : (d'.side isPlayback).moved = (d.side isPlayback).moved
  chip : SameSide isPlayback d.chip d'.chip

theorem SameBacking.of_side (side : d'.side isPlayback = d.side isPlayback)
    (chip : SameSide isPlayback d.chip d'.chip) : SameBacking isPlayback d d' := by
  constructor
  case chip => exact chip
  all_goals rw [side]

theorem SetUp.same (setUp : d.SetUp isPlayback sub) (same : SameBacking isPlayback d d') :
    d'.SetUp isPlayback sub where
  sized := setUp.sized
  substream := by rw [same.chip.stream, setUp.substream]
  area := by
    rw [same.dmaArea]
    exact setUp.area

theorem Ready.same (ready : d.Ready isPlayback sub) (same : SameBacking isPlayback d d') :
    d'.Ready isPlayback sub where
  buffer := by rw [same.dmaBuffer, same.dmaArea, ready.buffer]
  prepared := same.chip.preparedFor ready.prepared
  reached := by
    rw [same.moved, same.chip.stream]
    exact ready.reached

theorem Backed.same {state : PCMState} (backed : d.Backed isPlayback state) (same : SameBacking isPlayback d d') :
    d'.Backed isPlayback state := by
  cases state with
  | closed | opened => trivial
  | configuring sub => exact backed
  | setup sub => exact SetUp.same backed same
  | preparing sub asks wasPrepared => exact ⟨backed.1.same same, fun again => (backed.2 again).same same⟩
  | prepared sub | running sub | paused sub => exact ⟨backed.1.same same, backed.2.same same⟩

/-- What leaves a direction alone, or stops it. -/
structure Undisturbed (direction : Bool) (d d' : Driver) : Prop where
  side : d'.side direction = d.side direction
  chip : SameSide direction d.chip d'.chip
  ioOn : d'.manager.ioOn direction = true → d.manager.ioOn direction = true
  ioConfig : d'.manager.ioOn direction = true → d'.manager.ioConfig = d.manager.ioConfig
  live : d'.manager.IOLive

theorem Kept.undisturbed (kept : d.Kept isPlayback) (same : Undisturbed isPlayback d d') : d'.Kept isPlayback where
  live := same.live
  constraints := by
    rw [same.side]
    exact kept.constraints
  backed := by
    rw [same.side]
    exact kept.backed.same (.of_side same.side same.chip)
  going := by
    intro io
    obtain ⟨sub, state, fits, startedWith⟩ := kept.going (same.ioOn io)
    have ioConfig := same.ioConfig io
    refine ⟨sub, ?_, ?_, ?_⟩
    · rw [same.side, state]
    · rw [same.side]
      exact fits.congr ioConfig
    · rw [same.side, ioConfig, startedWith]

theorem Kept.elsewhere (kept : d.Kept isPlayback) (manager : d'.manager = d.manager)
    (side : d'.side isPlayback = d.side isPlayback) (chip : SameSide isPlayback d.chip d'.chip) :
    d'.Kept isPlayback := by
  apply kept.undisturbed
  constructor
  case side => exact side
  case chip => exact chip
  all_goals rw [manager]
  case ioOn => exact id
  case ioConfig => exact fun _ => rfl
  case live => exact kept.live

structure Calm (d d' : Driver) : Prop where
  side : ∀ direction, d'.side direction = d.side direction
  chip : ∀ direction, SameSide direction d.chip d'.chip
  manager : Manager.Steady d.manager d'.manager

theorem Kept.calm (kept : d.Kept isPlayback) (calm : Calm d d') : d'.Kept isPlayback :=
  kept.undisturbed ⟨calm.side _, calm.chip _, calm.manager.ioOn _, calm.manager.ioConfig _, calm.manager.live⟩

theorem Kept.enter (kept : d.Kept isPlayback) (idle : d'.manager.ioOn isPlayback = false)
    (live : d'.manager.IOLive) (constraints : (d'.side isPlayback).constraints = (d.side isPlayback).constraints)
    (backed : d'.Backed isPlayback (d'.side isPlayback).state) : d'.Kept isPlayback where
  live := live
  constraints := by
    rw [constraints]
    exact kept.constraints
  backed := backed
  going := by simp [idle]

theorem Kept.idle (kept : d.Kept isPlayback) (elsewhere : ∀ sub, (d.side isPlayback).state ≠ .running sub) :
    d.manager.ioOn isPlayback = false := by
  by_contra io
  obtain ⟨sub, going⟩ := kept.going (Bool.eq_true_of_not_eq_false io)
  exact elsewhere sub going.state

theorem kept_both (own : d.Kept isPlayback) (other : d.Kept (!isPlayback)) (direction : Bool) : d.Kept direction := by
  cases isPlayback <;> cases direction <;> assumption

theorem Calm.trans {d'' : Driver} (first : Calm d d') (then_ : Calm d' d'') : Calm d d'' where
  side direction := (then_.side direction).trans (first.side direction)
  chip direction := (first.chip direction).trans (then_.chip direction)
  manager := {
    ioOn := fun direction io => first.manager.ioOn direction (then_.manager.ioOn direction io)
    ioConfig := fun direction io =>
      (then_.manager.ioConfig direction io).trans (first.manager.ioConfig direction (then_.manager.ioOn direction io))
    live := then_.manager.live }

theorem Calm.idle (calm : Calm d d') (idle : d.manager.ioOn isPlayback = false) :
    d'.manager.ioOn isPlayback = false := by
  by_contra io
  have before := calm.manager.ioOn isPlayback (Bool.eq_true_of_not_eq_false io)
  simp [idle] at before

theorem onNewMessage_calm {msg : MTALSAMsg} {polled : Nat → Nat → PTPLockStatus} (live : d.manager.IOLive)
    (done : d.onNewMessage msg polled = .ok d') : Calm d d' := by
  obtain ⟨⟨m, reply⟩, handled, last⟩ := bind_eq_ok.mp done
  cases last
  refine ⟨fun direction => by cases direction <;> rfl, ?_, Manager.onNewMessage_steady live handled⟩
  intro direction
  dsimp only
  split
  · exact ⟨by cases direction <;> rfl, fun _ => rfl, fun _ => rfl⟩
  · exact .refl ..

theorem packet_calm {m : Manager} (live : d.manager.IOLive) (quiet : Manager.Quiet d.manager m) :
    Calm d { d with manager := m } where
  side direction := by cases direction <;> rfl
  chip direction := .refl ..
  manager := quiet.steady live

theorem stopInterrupts_calm (live : d.manager.IOLive) (isPlayback : Bool) : Calm d (d.stopInterrupts isPlayback) where
  side direction := by cases direction <;> rfl
  chip direction := d.manager.stopInterrupts_same d.chip isPlayback direction
  manager := by
    obtain ⟨here, elsewhere, -, ioConfig⟩ := Manager.stopIo_flags d.manager d.chip.alsaBuffers isPlayback
    refine ⟨?_, fun _ _ => ioConfig, Manager.stopIo_live live ..⟩
    intro direction io
    change (d.manager.stopIo d.chip.alsaBuffers isPlayback).ioOn direction = true at io
    by_cases same : direction = isPlayback
    · rw [same, here] at io
      cases io
    · rwa [elsewhere direction same] at io

theorem stopForRate_calm (live : d.manager.IOLive) (sub : PCMSubstream) (isPlayback : Bool) :
    Calm d (d.stopForRate sub isPlayback) := by
  unfold stopForRate
  split
  · exact stopInterrupts_calm live isPlayback
  · exact ⟨fun _ => rfl, fun _ => .refl .., .refl live⟩

theorem readRate_calm (live : d.manager.IOLive) (m : Manager) : Calm d { d with chip := d.chip.readRate m } where
  side direction := by cases direction <;> rfl
  chip direction := ⟨by cases direction <;> rfl, fun _ => rfl, fun _ => rfl⟩
  manager := .refl live

theorem setSide_kept {side : PCMSide} (kept : ∀ direction, d.Kept direction)
    (idle : d.manager.ioOn isPlayback = false) (constraints : side.constraints = (d.side isPlayback).constraints)
    (backed : (d.setSide isPlayback side).Backed isPlayback side.state) (direction : Bool) :
    (d.setSide isPlayback side).Kept direction := by
  refine @kept_both _ isPlayback ?_ ?_ direction
  · apply (kept isPlayback).enter
    · rwa [manager_setSide]
    · rw [manager_setSide]
      exact (kept isPlayback).live
    · rw [side_setSide, constraints]
    · rwa [side_setSide]
  · apply (kept (!isPlayback)).elsewhere
    · exact manager_setSide ..
    · exact side_setSide_not ..
    · rw [chip_setSide]
      exact .refl ..

theorem setState_same (d : Driver) (isPlayback : Bool) (state : PCMState) :
    SameBacking isPlayback d (d.setState isPlayback state) := by
  unfold setState
  constructor
  case chip =>
    rw [chip_setSide]
    exact .refl ..
  all_goals rw [side_setSide]

theorem chip_kept {chip : AudioChip} (kept : ∀ direction, d.Kept direction)
    (other : SameSide (!isPlayback) d.chip chip) (idle : d.manager.ioOn isPlayback = false)
    (backed : { d with chip := chip : Driver }.Backed isPlayback (d.side isPlayback).state) (direction : Bool) :
    { d with chip := chip : Driver }.Kept direction := by
  refine @kept_both _ isPlayback ?_ ?_ direction
  · exact (kept isPlayback).enter idle (kept isPlayback).live rfl backed
  · exact (kept (!isPlayback)).elsewhere rfl rfl other

theorem Kept.idle_at {state : PCMState} (kept : d.Kept isPlayback) (at_ : (d.side isPlayback).state = state)
    (elsewhere : ∀ sub, state ≠ .running sub) : d.manager.ioOn isPlayback = false :=
  kept.idle fun sub running => elsewhere sub (at_.symm.trans running)

theorem pcmOpen_kept (kept : ∀ direction, d.Kept direction) (closed : (d.side isPlayback).state = .closed)
    (done : d.pcmOpen isPlayback = .ok d') (direction : Bool) : d'.Kept direction := by
  obtain ⟨constraints, opened, last⟩ := bind_eq_ok.mp done
  cases last
  have idle := (kept isPlayback).idle_at closed (fun _ => nofun)
  refine @kept_both _ isPlayback ?_ ?_ direction
  · constructor
    case live =>
      rw [manager_setSide]
      exact (kept isPlayback).live
    case constraints =>
      rw [side_setSide]
      intro c isC
      cases isC
      exact ⟨_, _, opened⟩
    case backed =>
      rw [side_setSide]
      trivial
    case going =>
      rw [manager_setSide]
      simp [idle]
  · apply (kept (!isPlayback)).elsewhere
    · exact manager_setSide ..
    · rw [side_setSide_not]
      cases isPlayback <;> rfl
    · rw [chip_setSide]
      have read := (readRate_calm (kept isPlayback).live d.manager).chip (!isPlayback)
      exact read.trans (setStream_other ..)

theorem pcmHwParams_kept (kept : ∀ direction, d.Kept direction)
    (before : (d.side isPlayback).state = .opened ∨
      (∃ old, (d.side isPlayback).state = .setup old ∨ (d.side isPlayback).state = .prepared old))
    (allows : ∃ c, (d.side isPlayback).constraints = some c ∧ c.Allows sub) (direction : Bool) :
    (d.pcmHwParams isPlayback sub).Kept direction := by
  have idle : d.manager.ioOn isPlayback = false := by
    rcases before with at_ | ⟨old, at_ | at_⟩
    all_goals exact (kept isPlayback).idle_at at_ (fun _ => nofun)
  have sized : sub.Sized := by
    obtain ⟨c, isC, allowed⟩ := allows
    obtain ⟨formats, m, opened⟩ := (kept isPlayback).constraints c isC
    exact pcmOpen_sized opened allowed
  have calm := stopForRate_calm (kept isPlayback).live sub isPlayback
  unfold pcmHwParams setState
  apply setSide_kept fun direction => (kept direction).calm calm
  case idle => exact calm.idle idle
  case constraints => rfl
  case backed => exact sized

theorem allocBuffer_manager (d : Driver) (isPlayback : Bool) (bytes : Nat) :
    (d.allocBuffer isPlayback bytes).manager = d.manager ∧ (d.allocBuffer isPlayback bytes).chip = d.chip ∧
      (d.allocBuffer isPlayback bytes).side (!isPlayback) = d.side (!isPlayback) ∧
      ((d.allocBuffer isPlayback bytes).side isPlayback).constraints = (d.side isPlayback).constraints ∧
      ∃ area, ((d.allocBuffer isPlayback bytes).side isPlayback).dmaArea = some area ∧ bytes ≤ area.bytes := by
  have fresh : (d.newBuffer isPlayback bytes).manager = d.manager ∧ (d.newBuffer isPlayback bytes).chip = d.chip ∧
      (d.newBuffer isPlayback bytes).side (!isPlayback) = d.side (!isPlayback) ∧
      ((d.newBuffer isPlayback bytes).side isPlayback).constraints = (d.side isPlayback).constraints ∧
      ∃ area, ((d.newBuffer isPlayback bytes).side isPlayback).dmaArea = some area ∧ bytes ≤ area.bytes := by
    cases isPlayback with
    | true => exact ⟨rfl, rfl, rfl, rfl, _, rfl, Nat.le_refl _⟩
    | false => exact ⟨rfl, rfl, rfl, rfl, _, rfl, Nat.le_refl _⟩
  unfold allocBuffer
  cases has : (d.side isPlayback).dmaArea with
  | none => exact fresh
  | some area =>
    dsimp only
    split
    · rename_i fits
      exact ⟨rfl, rfl, rfl, rfl, area, has, fits⟩
    · exact fresh

theorem pcmHwFree_kept (kept : ∀ direction, d.Kept direction)
    (before : ∃ sub, (d.side isPlayback).state = .setup sub ∨ (d.side isPlayback).state = .prepared sub)
    (direction : Bool) : (d.pcmHwFree isPlayback).Kept direction := by
  have idle : d.manager.ioOn isPlayback = false := by
    obtain ⟨sub, at_ | at_⟩ := before
    all_goals exact (kept isPlayback).idle_at at_ (fun _ => nofun)
  unfold pcmHwFree
  apply setSide_kept kept idle
  · rfl
  · trivial

theorem setUp_kept (kept : ∀ direction, d.Kept direction) (idle : d.manager.ioOn isPlayback = false)
    (sized : sub.Sized) (direction : Bool) :
    ({ d.allocBuffer isPlayback sub.bufferBytes with
        chip := (d.allocBuffer isPlayback sub.bufferBytes).chip.setRuntime sub isPlayback : Driver }.setState
      isPlayback (.setup sub)).Kept direction := by
  obtain ⟨manager, chip, other, constraints, area⟩ := allocBuffer_manager d isPlayback sub.bufferBytes
  generalize d.allocBuffer isPlayback sub.bufferBytes = allocated at *
  unfold setState
  refine @kept_both _ isPlayback ?_ ?_ direction
  · apply (kept isPlayback).enter
    · rw [manager_setSide]
      exact manager ▸ idle
    · rw [manager_setSide]
      exact manager ▸ (kept isPlayback).live
    · rw [side_setSide]
      exact constraints
    · rw [side_setSide]
      refine ⟨sized, ?_, ?_⟩
      · rw [chip_setSide]
        cases isPlayback <;> rfl
      · rw [side_setSide]
        exact area
  · apply (kept (!isPlayback)).elsewhere
    · rw [manager_setSide]
      exact manager
    · rw [side_setSide_not]
      exact other
    · rw [chip_setSide, ← chip]
      exact setStream_other ..

theorem pcmHwParamsDone_kept {err : Int32} (kept : ∀ direction, d.Kept direction)
    (configuring : (d.side isPlayback).state = .configuring sub) (direction : Bool) :
    (d.pcmHwParamsDone isPlayback err).Kept direction := by
  have idle := (kept isPlayback).idle_at configuring (fun _ => nofun)
  have sized : sub.Sized := by
    have backed := (kept isPlayback).backed
    rwa [configuring] at backed
  unfold pcmHwParamsDone
  simp only [configuring]
  have written : ∀ direction, { d with chip := d.chip.hwParamsStream sub isPlayback : Driver }.Kept direction := by
    intro direction
    apply chip_kept kept (hwParamsStream_other ..) idle
    rw [configuring]
    exact sized
  split
  · apply setSide_kept written idle
    · rfl
    · trivial
  · exact setUp_kept written idle sized direction

theorem beginPrepare_kept {wasPrepared : Bool} (kept : ∀ direction, d.Kept direction)
    (idle : d.manager.ioOn isPlayback = false) (setUp : d.SetUp isPlayback sub)
    (ready : wasPrepared = true → d.Ready isPlayback sub) (direction : Bool) :
    (d.beginPrepare isPlayback sub wasPrepared).Kept direction := by
  have read := readRate_calm (kept isPlayback).live d.manager
  have calm := read.trans (stopForRate_calm read.manager.live sub isPlayback)
  have same : SameBacking isPlayback d _ := .of_side (calm.side isPlayback) (calm.chip isPlayback)
  unfold beginPrepare setState
  apply setSide_kept fun direction => (kept direction).calm calm
  case idle => exact calm.idle idle
  case constraints => rfl
  case backed =>
    have preparing (asks) : Backed _ isPlayback (.preparing sub asks wasPrepared) :=
      ⟨setUp.same same, fun again => (ready again).same same⟩
    exact (preparing _).same (setState_same _ isPlayback _)

theorem pcmPrepare_kept (kept : ∀ direction, d.Kept direction)
    (before : ∃ sub, (d.side isPlayback).state = .setup sub ∨ (d.side isPlayback).state = .prepared sub)
    (direction : Bool) : (d.pcmPrepare isPlayback).Kept direction := by
  have backed := (kept isPlayback).backed
  unfold pcmPrepare
  obtain ⟨sub, at_ | at_⟩ := before
  · rw [at_] at backed
    simp only [at_]
    have idle := (kept isPlayback).idle_at at_ fun _ => nofun
    exact beginPrepare_kept kept idle backed (fun again => by cases again) direction
  · rw [at_] at backed
    simp only [at_]
    have idle := (kept isPlayback).idle_at at_ fun _ => nofun
    exact beginPrepare_kept kept idle backed.1 (fun _ => backed.2) direction

theorem pcmPrepareDone_kept {asks wasPrepared : Bool} {err : Int32} (kept : ∀ direction, d.Kept direction)
    (preparing : (d.side isPlayback).state = .preparing sub asks wasPrepared)
    (done : d.pcmPrepareDone isPlayback err = .ok d') (direction : Bool) : d'.Kept direction := by
  have idle := (kept isPlayback).idle_at preparing fun _ => nofun
  have backed := (kept isPlayback).backed
  rw [preparing] at backed
  obtain ⟨setUp, ready⟩ := backed
  unfold pcmPrepareDone at done
  simp only [preparing] at done
  obtain ⟨prepared, prepares, last⟩ := bind_eq_ok.mp done
  split at last
  · cases last
    unfold setState
    apply setSide_kept kept idle
    · rfl
    · cases wasPrepared with
      | true =>
        have same := setState_same d isPlayback (.prepared sub)
        exact ⟨setUp.same same, (ready rfl).same same⟩
      | false => exact setUp.same (setState_same d isPlayback (.setup sub))
  · cases last
    obtain ⟨isPrepared, reached, substream⟩ := prepareStream_prepared setUp.sized setUp.substream prepares
    refine @kept_both _ isPlayback ?_ ?_ direction
    · apply (kept isPlayback).enter
      · rwa [manager_setSide]
      · rw [manager_setSide]
        exact (kept isPlayback).live
      · rw [side_setSide]
      · rw [side_setSide]
        refine ⟨⟨setUp.sized, ?_, ?_⟩, ⟨?_, ?_, ?_⟩⟩
        · rwa [chip_setSide]
        · rw [side_setSide]
          exact setUp.area
        · rw [side_setSide]
        · rwa [chip_setSide]
        · rwa [chip_setSide, side_setSide]
    · apply (kept (!isPlayback)).elsewhere
      · exact manager_setSide ..
      · rw [side_setSide_not]
        rfl
      · rw [chip_setSide]
        exact prepareStream_other prepares

theorem pcmClose_kept (kept : ∀ direction, d.Kept direction) (opened : (d.side isPlayback).state = .opened)
    (direction : Bool) : (d.pcmClose isPlayback).Kept direction := by
  have idle := (kept isPlayback).idle_at opened fun _ => nofun
  have closed : ∀ direction, { d with chip := d.chip.closeStream isPlayback : Driver }.Kept direction := by
    intro direction
    apply chip_kept kept (setStream_other ..) idle
    rw [opened]
    trivial
  unfold pcmClose setState
  apply setSide_kept closed idle
  · rfl
  · trivial

theorem drop_kept (kept : ∀ direction, d.Kept direction) (paused : (d.side isPlayback).state = .paused sub)
    (direction : Bool) : (d.setState isPlayback (.setup sub)).Kept direction := by
  have idle := (kept isPlayback).idle_at paused fun _ => nofun
  have backed := (kept isPlayback).backed
  rw [paused] at backed
  have same := setState_same d isPlayback (.setup sub)
  unfold setState at same ⊢
  apply setSide_kept kept idle
  · rfl
  · exact backed.1.same same

theorem setSide_self (d : Driver) (isPlayback : Bool) : d.setSide isPlayback (d.side isPlayback) = d := by
  cases isPlayback <;> rfl

theorem started_kept (kept : ∀ direction, d.Kept direction) (idle : d.manager.ioOn isPlayback = false)
    (setUp : d.SetUp isPlayback sub) (ready : d.Ready isPlayback sub)
    (fits : d.manager.isStarted = true → FrameFits d.manager sub (d.side isPlayback).moved) (direction : Bool) :
    ((d.startInterrupts isPlayback).setSide isPlayback { d.side isPlayback with
      state := .running sub
      startedWith := some (d.startInterrupts isPlayback).manager.ioConfig }).Kept direction := by
  have live := (kept isPlayback).live
  obtain ⟨here, elsewhere, ioConfig⟩ := Manager.startIo_flags d.manager d.chip.alsaBuffers isPlayback
  have startedLive := Manager.startIo_live live d.chip.alsaBuffers isPlayback
  have chip := d.manager.startInterrupts_same d.chip isPlayback
  refine @kept_both _ isPlayback ?_ ?_ direction
  · have same : SameBacking isPlayback d ((d.startInterrupts isPlayback).setSide isPlayback
        { d.side isPlayback with
          state := .running sub, startedWith := some (d.startInterrupts isPlayback).manager.ioConfig }) := by
      constructor
      case chip =>
        rw [chip_setSide]
        exact chip isPlayback
      all_goals rw [side_setSide]
    constructor
    case live =>
      rw [manager_setSide]
      exact startedLive
    case constraints =>
      rw [side_setSide]
      exact (kept isPlayback).constraints
    case backed =>
      rw [side_setSide]
      exact ⟨setUp.same same, ready.same same⟩
    case going =>
      rw [manager_setSide]
      intro io
      refine ⟨sub, ?_, ?_, ?_⟩
      · rw [side_setSide]
      · rw [side_setSide, manager_setSide]
        rcases here io with before | isStarted
        · simp [idle] at before
        · exact (fits isStarted).congr ioConfig
      · rw [side_setSide, manager_setSide]
  · apply (kept (!isPlayback)).undisturbed
    constructor
    case side =>
      rw [side_setSide_not]
      rfl
    case chip =>
      rw [chip_setSide]
      exact chip (!isPlayback)
    all_goals rw [manager_setSide]
    case ioOn =>
      intro io
      exact elsewhere ▸ io
    case ioConfig => exact fun _ => ioConfig
    case live => exact startedLive

theorem stopped_idle (d : Driver) (isPlayback : Bool) :
    (d.stopInterrupts isPlayback).manager.ioOn isPlayback = false :=
  (Manager.stopIo_flags d.manager d.chip.alsaBuffers isPlayback).1

theorem triggered_kept {cmd : PCMTrigger} {state : PCMState} (kept : ∀ direction, d.Kept direction)
    (moves : cmd.Moves (d.side isPlayback).state state)
    (fits : cmd.starts = true → d.manager.isStarted = true → ∀ sub, state = .running sub →
      FrameFits d.manager sub (d.side isPlayback).moved)
    (direction : Bool) : (d.triggered isPlayback cmd state).Kept direction := by
  have backed := (kept isPlayback).backed
  have calm := stopInterrupts_calm (kept isPlayback).live isPlayback
  generalize at_ : (d.side isPlayback).state = before at moves backed
  have idle := fun elsewhere => (kept isPlayback).idle_at at_ elsewhere
  have stopped {side : PCMSide} (constraints : side.constraints = (d.side isPlayback).constraints)
      (behind : ((d.stopInterrupts isPlayback).setSide isPlayback side).Backed isPlayback side.state) :
      ((d.stopInterrupts isPlayback).setSide isPlayback side).Kept direction := by
    apply setSide_kept (fun direction => (kept direction).calm calm) (stopped_idle d isPlayback)
    · rw [constraints, calm.side]
    · exact behind
  have same (side : PCMSide) (dmaArea : side.dmaArea = (d.side isPlayback).dmaArea)
      (dmaBuffer : side.dmaBuffer = (d.side isPlayback).dmaBuffer) (moved : side.moved = (d.side isPlayback).moved) :
      SameBacking isPlayback d ((d.stopInterrupts isPlayback).setSide isPlayback side) := by
    constructor
    case chip =>
      rw [chip_setSide]
      exact calm.chip isPlayback
    all_goals rwa [side_setSide]
  unfold triggered pcmTrigger
  cases moves with
  | start sub | pauseRelease sub | resume sub =>
    exact started_kept kept (idle fun _ => nofun) backed.1 backed.2 (fun is => fits rfl is sub rfl) direction
  | stop sub =>
    apply stopped
    · rfl
    · exact backed.1.same (same _ rfl rfl rfl)
  | pausePush sub | suspend sub =>
    apply stopped
    · rfl
    · exact ⟨backed.1.same (same _ rfl rfl rfl), backed.2.same (same _ rfl rfl rfl)⟩
  | other =>
    rw [← at_]
    change (d.setSide isPlayback (d.side isPlayback)).Kept direction
    rw [setSide_self]
    exact kept direction

theorem tick_kept {now : Manager.Tick} {dma : Nat → UInt8} (kept : ∀ direction, d.Kept direction)
    (done : d.tick now dma = .ok d') (direction : Bool) : d'.Kept direction := by
  unfold tick at done
  split at done
  · obtain ⟨⟨m, next⟩, clocks, rest⟩ := bind_eq_ok.mp done
    obtain ⟨⟨m', chip', log⟩, framed, last⟩ := bind_eq_ok.mp rest
    have processed := Manager.processClocks_quiet clocks
    have quiet := processed.trans (Manager.audioFrameTICWithChip_quiet framed)
    have side : d'.side direction =
        { d.side direction with moved := (d.side direction).moved + movedBy m direction } := by
      cases last
      cases direction <;> rfl
    have manager : d'.manager = m' := by cases last; rfl
    have chip : d'.chip = chip' := by cases last; rfl
    have backed := (kept direction).backed
    constructor
    case live =>
      rw [manager]
      exact quiet.live (kept direction).live
    case constraints =>
      rw [side]
      exact (kept direction).constraints
    case going =>
      rw [manager, quiet.ioOn]
      intro io
      obtain ⟨sub, state, fits, startedWith⟩ := (kept direction).going io
      have further : FrameFits d.manager sub ((d.side direction).moved + movedBy m direction) := by
        refine ⟨fits.format, fits.moves, fits.inRing, fits.whole, ?_⟩
        apply Nat.dvd_add fits.position
        unfold movedBy
        split
        · rw [processed.frameSize]
        · exact Nat.dvd_zero _
      refine ⟨sub, ?_, ?_, ?_⟩
      · rw [side, state]
      · rw [side, manager]
        exact further.congr quiet.ioConfig
      · rw [side, manager, quiet.ioConfig, startedWith]
    case backed =>
      rw [side]
      cases io : d.manager.ioOn direction with
      | true =>
        obtain ⟨sub, state, fits, -⟩ := (kept direction).going io
        rw [state] at backed ⊢
        obtain ⟨setUp, ready⟩ := backed
        rw [← processed.ioOn] at io
        obtain ⟨prepared, reached⟩ := Manager.audioFrameTICWithChip_going io ready.prepared ready.reached
          (fits.congr processed.ioConfig) setUp.sized framed
        have substream : (chip'.stream direction).substream = some sub := by
          cases direction with
          | true => exact Playing.substream prepared
          | false => exact Capturing.substream prepared
        refine ⟨⟨setUp.sized, ?_, ?_⟩, ⟨?_, ?_, ?_⟩⟩
        · rwa [chip]
        · rw [side]
          exact setUp.area
        · rw [side]
          exact ready.buffer
        · rwa [chip]
        · rwa [chip, side]
      | false =>
        rw [← processed.ioOn] at io
        apply backed.same
        constructor
        case chip =>
          rw [chip]
          exact Manager.audioFrameTICWithChip_idle io framed
        case moved => simp [side, movedBy, io]
        all_goals rw [side]
  · cases done
    exact kept direction

theorem step_kept {op : DriverOp} (kept : ∀ direction, d.Kept direction) (allowed : d.Allowed op)
    (done : d.step op = .ok d') (direction : Bool) : d'.Kept direction := by
  have live := (kept direction).live
  cases op with
  | message msg polled => exact (kept direction).calm (onNewMessage_calm live done)
  | packet bytes ifname macHeader clockTime counterTime =>
    obtain ⟨m, ran, last⟩ := map_eq_ok.mp done
    cases last
    have quiet := Manager.etherTubeRxPacket_quiet (lift_eq_ok.mp ran)
    exact (kept direction).calm (packet_calm live quiet)
  | tick now dma => exact tick_kept kept (lift_eq_ok.mp done) direction
  | pcmOpen isPlayback => exact pcmOpen_kept kept allowed (lift_eq_ok.mp done) direction
  | pcmHwParams isPlayback sub =>
    cases done
    exact pcmHwParams_kept kept allowed.1 allowed.2 direction
  | pcmHwParamsDone isPlayback err =>
    cases done
    obtain ⟨sub, configuring⟩ := allowed
    exact pcmHwParamsDone_kept kept configuring direction
  | pcmHwFree isPlayback =>
    cases done
    exact pcmHwFree_kept kept allowed direction
  | pcmPrepare isPlayback =>
    cases done
    exact pcmPrepare_kept kept allowed direction
  | pcmPrepareDone isPlayback err =>
    obtain ⟨sub, asks, wasPrepared, preparing⟩ := allowed
    exact pcmPrepareDone_kept kept preparing (lift_eq_ok.mp done) direction
  | pcmTrigger isPlayback cmd state =>
    cases done
    exact triggered_kept kept allowed.1 allowed.2 direction
  | drop isPlayback sub =>
    cases done
    exact drop_kept kept allowed direction
  | pcmClose isPlayback =>
    cases done
    exact pcmClose_kept kept allowed direction

/-- The driver of a module that was just loaded. -/
def loaded (macAddress : Nat → MACAddress) (livesIn : RingMemory) (streamAt : UInt64 → StreamHandle) : Driver where
  manager := .init macAddress livesIn streamAt

theorem loaded_kept (macAddress : Nat → MACAddress) (livesIn : RingMemory) (streamAt : UInt64 → StreamHandle)
    (direction : Bool) : (loaded macAddress livesIn streamAt).Kept direction := by
  have idle (direction : Bool) : (loaded macAddress livesIn streamAt).manager.ioOn direction = false := by
    cases direction <;> rfl
  constructor
  case live => exact ⟨rfl, fun direction io => by simp [idle] at io⟩
  case constraints =>
    intro c isC
    cases direction <;> cases isC
  case backed => cases direction <;> trivial
  case going => simp [idle]

def InterruptSucceeds (d : Driver) : Bool → Prop
  | true => ∀ dma, Succeeds (d.manager.interruptPlayback d.chip dma)
  | false => ∀ livesIn, Succeeds (d.manager.interruptCapture d.chip livesIn)

/-- What I/O has behind it: a substream that ALSA has started, on an area that is still the one of the
last `prepare`, in the configuration of the start, with the pointer where the frames have moved it. -/
structure Safe (d : Driver) (isPlayback : Bool) (sub : PCMSubstream) (area : DMAArea) : Prop where
  state : (d.side isPlayback).state = .running sub
  isStarted : d.manager.isStarted = true
  dmaArea : (d.side isPlayback).dmaArea = some area
  dmaBuffer : (d.side isPlayback).dmaBuffer = some area
  length : (d.chip.stream isPlayback).pcmBufferSize.toNat ≤ area.bytes
  startedWith : (d.side isPlayback).startedWith = some d.manager.ioConfig
  pointer : (pcmPointer (d.chip.stream isPlayback)).toNat = (d.side isPlayback).moved % sub.bufferSize
  interrupt : d.InterruptSucceeds isPlayback

theorem nbInterrupts_of_pcm (pcm : sub.format ∈ captureFormats) : sub.nbInterrupts = 1 := by
  unfold PCMSubstream.nbInterrupts PCMSubstream.dsdMode
  generalize sub.format = format at pcm
  simp only [captureFormats, List.mem_cons, List.not_mem_nil, or_false] at pcm
  rcases pcm with rfl | rfl | rfl | rfl
  all_goals rfl

theorem pcmPointer_reached {moved : Nat} {p : PCMStream} (reached : Reached sub moved p) (sized : sub.Sized)
    (pcm : sub.format ∈ captureFormats) (substream : p.substream = some sub)
    (stride : p.currentAlsaStride = UInt32.ofNat sub.format.stride) :
    (pcmPointer p).toNat = moved % sub.bufferSize := by
  have factor := sized.toNat_frameBytes
  have wide := sized.frameBytes.1
  have some_ : sub.channels * UInt32.ofNat sub.format.stride ≠ 0 := by
    intro none
    rw [none] at factor
    exact absurd factor.symm wide.ne'
  have once := reached.interrupts.trans (nbInterrupts_of_pcm pcm)
  unfold pcmPointer
  simp only [substream, stride, if_neg some_, once]
  rw [if_neg (by decide), if_neg (by decide), if_neg (by decide), UInt32.toNat_div, reached.dmaOffset, factor]
  exact Nat.mul_div_cancel _ wide

theorem Kept.safe (kept : d.Kept isPlayback) (io : d.manager.ioOn isPlayback = true) :
    ∃ sub area, d.Safe isPlayback sub area := by
  obtain ⟨sub, state, fits, startedWith⟩ := kept.going io
  have backed := kept.backed
  rw [state] at backed
  obtain ⟨⟨sized, substream, area, isArea, long⟩, buffer, prepared, reached⟩ := backed
  have settings : (d.chip.stream isPlayback).pcmBufferSize = UInt32.ofNat sub.bufferBytes ∧
      (d.chip.stream isPlayback).currentAlsaStride = UInt32.ofNat sub.format.stride := by
    cases isPlayback with
    | true => exact ⟨Playing.size prepared, Playing.stride prepared⟩
    | false => exact ⟨Capturing.size prepared, Capturing.stride prepared⟩
  refine ⟨sub, area, ?_⟩
  constructor
  case state => exact state
  case isStarted => exact kept.live.started isPlayback io
  case dmaArea => exact isArea
  case dmaBuffer => rw [buffer, isArea]
  case length => rwa [settings.1, sized.toNat_bufferBytes]
  case startedWith => exact startedWith
  case pointer => exact pcmPointer_reached reached sized fits.format substream settings.2
  case interrupt =>
    cases isPlayback with
    | true =>
      intro dma
      have playing : d.manager.isPlaybackIO = true := io
      simp only [Manager.interruptPlayback, playing, if_true]
      exact (playback_interrupt prepared reached fits sized dma).1
    | false =>
      intro livesIn
      have recording : d.manager.isRecordingIO = true := io
      simp only [Manager.interruptCapture, recording, if_true]
      exact (capture_interrupt prepared reached fits sized livesIn).1

def justLoaded : Driver := loaded (fun _ => {}) (fun _ => {}) fun _ => .source 0

def startAll : DriverOp := .message ⟨0, 0, []⟩ fun _ _ => .unlocked

end Driver
end RavennaLkm
