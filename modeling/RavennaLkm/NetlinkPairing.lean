import RavennaLkm.Netlink
import RavennaLkm.Lib.GuardedRun

/-!
Which requests of the driver to the daemon are paired with their replies. One
flag and one pointer serve all of them, so that a request is told apart from the
others only by being the one in progress when the reply comes.
-/
namespace RavennaLkm
open CheckedLoop GuardedRun

def CallPhase.inProgress : CallPhase → Bool
  | .posting | .waiting | .waking _ => true
  | .unused | .returned _ => false

def CallPhase.isReturned : CallPhase → Bool
  | .returned _ => true
  | _ => false

namespace NetlinkCalls

variable {s t : NetlinkCalls} {call : Nat}

/-- A call that returned 0 has had its own reply, and no reply wrote into the answer of a call that
had returned. -/
structure Paired (s : NetlinkCalls) : Prop where
  answered : ∀ call, s.phase call = .returned true → s.replied call = true
  alive : s.writtenDead = []

/-- The requests are made one after the other, and the daemon replies to none that is over. -/
def Timely (s : NetlinkCalls) : NetlinkOp → Prop
  | .enter _ => ∀ call < s.calls, (s.phase call).inProgress = false
  | .reply call _ => (s.phase call).isReturned = false
  | _ => True

instance (s : NetlinkCalls) : ∀ op, Decidable (s.Timely op)
  | .enter _ => inferInstanceAs (Decidable (∀ call < s.calls, (s.phase call).inProgress = false))
  | .reply call _ => inferInstanceAs (Decidable ((s.phase call).isReturned = false))
  | .post _ _ | .wake _ | .finish _ => isTrue trivial

structure OneCall (s : NetlinkCalls) : Prop where
  paired : s.Paired
  unused : ∀ call, s.calls ≤ call → s.phase call = .unused
  received : ∀ call, s.delivered call = true → s.phase call ≠ .unused ∧ s.phase call ≠ .posting
  alone : ∀ call other, (s.phase call).inProgress = true → (s.phase other).inProgress = true → call = other
  pointer : ∀ call target, (s.phase call).inProgress = true → s.responseFromUserLand = some target → target = call
  unsent : ∀ call, s.phase call = .posting → s.haveResponse = false
  flag : s.haveResponse = true → ∃ call, (s.phase call).inProgress = true ∧ s.replied call = true
  woken : ∀ call, s.phase call = .waking true → s.replied call = true

theorem init_oneCall : OneCall {} where
  paired := ⟨by simp, rfl⟩
  unused := fun _ _ => rfl
  received := by simp
  alone := by simp [CallPhase.inProgress]
  pointer := by simp
  unsent := by simp
  flag := by simp
  woken := by simp

theorem setPhase_phase (s : NetlinkCalls) (call : Nat) (phase : CallPhase) (other : Nat) :
    (s.setPhase call phase).phase other = if other = call then phase else s.phase other :=
  Function.update_apply s.phase call phase other

theorem OneCall.used (one : s.OneCall) (now : (s.phase call).inProgress = true) : call < s.calls := by
  by_contra past
  rw [one.unused call (by omega)] at now
  cases now

/-- The call in progress goes on or returns: with 0 only if it has been replied to, and then it leaves
no flag behind. -/
theorem OneCall.goesOn {phase : CallPhase} {flag : Bool} (one : s.OneCall)
    (was : (s.phase call).inProgress = true) (begun : phase ≠ .unused ∧ phase ≠ .posting)
    (woken : phase = .waking true → s.replied call = true)
    (answered : phase = .returned true → s.replied call = true)
    (kept : flag = true → s.haveResponse = true ∧ phase.inProgress = true) :
    ({ s.setPhase call phase with haveResponse := flag } : NetlinkCalls).OneCall := by
  let after : NetlinkCalls := { s.setPhase call phase with haveResponse := flag }
  have moved (other) : after.phase other = if other = call then phase else s.phase other :=
    setPhase_phase s call phase other
  have itself : after.phase call = phase := (moved call).trans (if_pos rfl)
  have before (other) (now : (after.phase other).inProgress = true) : (s.phase other).inProgress = true := by
    by_cases same : other = call
    · rwa [same]
    · rwa [moved, if_neg same] at now
  change after.OneCall
  constructor
  case paired =>
    constructor
    · intro other back
      rw [moved] at back
      split at back
      · subst_vars
        exact answered rfl
      · exact one.paired.answered other back
    · exact one.paired.alive
  case unused =>
    intro other past
    change s.calls ≤ other at past
    have := one.used was
    rw [moved, if_neg (by omega)]
    exact one.unused other past
  case received =>
    intro other has
    rw [moved]
    split
    · exact begun
    · exact one.received other has
  case alone =>
    intro a b ha hb
    exact one.alone a b (before a ha) (before b hb)
  case pointer =>
    intro a target ha
    exact one.pointer a target (before a ha)
  case unsent =>
    intro other now
    have same : other = call := by
      apply one.alone other call _ was
      apply before
      rw [now]
      rfl
    rw [same, itself] at now
    exact absurd now begun.2
  case flag =>
    intro set
    obtain ⟨was_set, stays⟩ := kept set
    obtain ⟨a, ha, replied⟩ := one.flag was_set
    have same : a = call := one.alone a call ha was
    subst a
    refine ⟨call, ?_, replied⟩
    rwa [itself]
  case woken =>
    intro other now
    rw [moved] at now
    split at now
    · subst_vars
      exact woken rfl
    · exact one.woken other now

theorem enter_oneCall (one : s.OneCall) (answer : Option Answer)
    (timely : ∀ call < s.calls, (s.phase call).inProgress = false) : (s.enter answer).OneCall := by
  have idle (call) : (s.phase call).inProgress = false := by
    by_cases used : call < s.calls
    · exact timely call used
    · rw [one.unused call (by omega)]
      rfl
  have phase (call) : (s.enter answer).phase call = if call = s.calls then .posting else s.phase call :=
    setPhase_phase s s.calls .posting call
  have only (call) (now : ((s.enter answer).phase call).inProgress = true) : call = s.calls := by
    rw [phase] at now
    split at now
    · assumption
    · rw [idle] at now
      cases now
  have noFlag : s.haveResponse = false := by
    by_contra set
    obtain ⟨call, now, -⟩ := one.flag (Bool.eq_true_of_not_eq_false set)
    rw [idle] at now
    cases now
  constructor
  case paired =>
    constructor
    · intro call back
      rw [phase] at back
      split at back
      · cases back
      · exact one.paired.answered call back
    · exact one.paired.alive
  case unused =>
    intro call past
    change s.calls + 1 ≤ call at past
    rw [phase, if_neg (by omega)]
    exact one.unused call (by omega)
  case received =>
    intro call has
    obtain ⟨begun, posted⟩ := one.received call has
    rw [phase]
    split
    · rename_i new
      exact absurd (one.unused call new.ge) begun
    · exact ⟨begun, posted⟩
  case alone =>
    intro a b ha hb
    rw [only a ha, only b hb]
  case pointer =>
    intro call target now points
    obtain ⟨_, -, rfl⟩ := Option.map_eq_some_iff.mp points
    exact (only call now).symm
  case unsent =>
    intro call _
    exact noFlag
  case flag =>
    intro set
    exact absurd (set.symm.trans noFlag) (by simp)
  case woken =>
    intro call now
    rw [phase] at now
    split at now
    · cases now
    · exact one.woken call now

theorem finish_oneCall (one : s.OneCall) (call : Nat) : (s.finish call).OneCall := by
  unfold finish
  split
  · rename_i responded now
    apply one.goesOn
    · rw [now]
      rfl
    · simp
    · intro waking
      cases waking
    · intro back
      cases back
      exact one.woken call now
    · intro set
      cases set
  · exact one

theorem wake_oneCall (one : s.OneCall) (call : Nat) : (s.wake call).OneCall := by
  unfold wake
  split
  · rename_i waits
    have now : (s.phase call).inProgress = true := by
      rw [waits]
      rfl
    apply one.goesOn now
    · simp
    · intro waking
      cases set : s.haveResponse with
      | false =>
        rw [set] at waking
        cases waking
      | true =>
        obtain ⟨other, alsoNow, replied⟩ := one.flag set
        rwa [one.alone call other now alsoNow]
    · intro back
      cases back
    · intro set
      exact ⟨set, rfl⟩
  · exact one

theorem OneCall.setDelivered (one : s.OneCall) (was : s.phase call = .waiting) :
    ({ s with delivered := Function.update s.delivered call true } : NetlinkCalls).OneCall where
  paired := ⟨one.paired.answered, one.paired.alive⟩
  unused := one.unused
  alone := one.alone
  pointer := one.pointer
  unsent := one.unsent
  flag := one.flag
  woken := one.woken
  received := by
    intro other has
    change Function.update s.delivered call true other = true at has
    rw [Function.update_apply] at has
    split at has
    · subst_vars
      simp [was]
    · exact one.received other has

theorem post_oneCall (one : s.OneCall) (call : Nat) (sent : Bool) : (s.post call sent).OneCall := by
  unfold post
  split
  · rename_i posting
    have now : (s.phase call).inProgress = true := by
      rw [posting]
      rfl
    have noFlag := one.unsent call posting
    split
    · have waits : (s.setPhase call .waiting).OneCall := by
        apply one.goesOn now
        · simp
        · simp
        · simp
        · simp [noFlag]
      apply waits.setDelivered
      rw [setPhase_phase, if_pos rfl]
    · apply one.goesOn now
      · simp
      · simp
      · simp
      · simp [noFlag]
  · exact one

theorem writeAnswer_cases {msg : DaemonReply} (done : s.writeAnswer msg = .ok t) :
    ∃ answer writtenDead, t = { s with answer := answer, writtenDead := writtenDead } ∧
      (writtenDead = s.writtenDead ∨
        ∃ target, s.responseFromUserLand = some target ∧ (s.phase target).isReturned = true) := by
  unfold writeAnswer at done
  split at done
  · cases done
    exact ⟨_, _, rfl, .inl rfl⟩
  · rename_i target points
    obtain ⟨answer, -, same⟩ := bind_eq_ok.mp done
    cases same
    refine ⟨_, _, rfl, ?_⟩
    split
    · rename_i back
      right
      refine ⟨target, points, ?_⟩
      rw [back]
      rfl
    · exact .inl rfl

theorem reply_oneCall (one : s.OneCall) {msg : DaemonReply} (timely : (s.phase call).isReturned = false)
    (done : s.reply call msg = .ok t) : t.OneCall := by
  unfold reply at done
  split at done
  · rename_i due
    obtain ⟨written, wrote, same⟩ := bind_eq_ok.mp done
    cases same
    obtain ⟨answer, writtenDead, rfl, dead⟩ := writeAnswer_cases wrote
    obtain ⟨begun, posted⟩ := one.received call due.1
    have now : (s.phase call).inProgress = true := by
      cases phase : s.phase call with
      | unused => exact absurd phase begun
      | posting => exact absurd phase posted
      | waiting => rfl
      | waking responded => rfl
      | returned success =>
        rw [phase] at timely
        cases timely
    have none : writtenDead = [] := by
      rcases dead with same | ⟨target, points, back⟩
      · rw [same, one.paired.alive]
      · rw [one.pointer call target now points, timely] at back
        cases back
    have more (other) (had : s.replied other = true) : Function.update s.replied call true other = true := by
      rw [Function.update_apply]
      split
      · rfl
      · exact had
    constructor
    case paired =>
      constructor
      · intro other back
        exact more other (one.paired.answered other back)
      · exact none
    case unused => exact one.unused
    case received => exact one.received
    case alone => exact one.alone
    case pointer => exact one.pointer
    case unsent =>
      intro other otherPosting
      change s.phase other = .posting at otherPosting
      have same : other = call := by
        apply one.alone other call _ now
        rw [otherPosting]
        rfl
      rw [same] at otherPosting
      exact absurd otherPosting posted
    case flag =>
      intro _
      refine ⟨call, now, ?_⟩
      exact Function.update_self ..
    case woken =>
      intro other waking
      exact more other (one.woken other waking)
  · cases done
    exact one

theorem step_oneCall (one : s.OneCall) {op : NetlinkOp} (timely : s.Timely op) (done : op.step s = .ok t) :
    t.OneCall := by
  cases op with
  | enter answer =>
    cases done
    exact enter_oneCall one answer timely
  | post call sent =>
    cases done
    exact post_oneCall one call sent
  | reply call msg => exact reply_oneCall one timely done
  | wake call =>
    cases done
    exact wake_oneCall one call
  | finish call =>
    cases done
    exact finish_oneCall one call

/-- Whatever the daemon and the scheduler do, as long as one request is in progress at a time and the
daemon replies in time. -/
theorem timely_requests_are_paired {ops : List NetlinkOp} (run : Run NetlinkOp.step Timely {} ops s) : s.Paired := by
  have one : s.OneCall := run.invariant OneCall init_oneCall fun _ _ _ one timely done => step_oneCall one timely done
  exact one.paired

theorem one_request_is_paired :
    ∃ s, Run NetlinkOp.step Timely {}
        [.enter (some {}), .post 0 true, .reply 0 {}, .wake 0, .finish 0] s ∧
      s.phase 0 = .returned true ∧ s.Paired := by
  obtain ⟨s, run, seen⟩ := exists_run Fault.writePast NetlinkOp.step Timely {}
    [.enter (some {}), .post 0 true, .reply 0 {}, .wake 0, .finish 0]
    (fun s => s.phase 0) (.returned true) rfl
  exact ⟨s, run, seen, timely_requests_are_paired run⟩

/-- The first request times out, its reply comes after it has returned, and the second one takes the
flag of that reply for its own. -/
theorem late_reply_breaks_pairing :
    ∃ ops s, Run NetlinkOp.step (fun _ _ => True) {} ops s ∧
      (s.phase 1 = .returned true ∧ s.replied 1 = false) ∧ s.writtenDead = [0] ∧ ¬ s.Paired := by
  obtain ⟨s, run, seen⟩ := exists_run Fault.writePast NetlinkOp.step (fun _ _ => True) {}
    [.enter (some {}), .post 0 true, .wake 0, .finish 0, .reply 0 {},
      .enter none, .post 1 true, .wake 1, .finish 1]
    (fun s => (s.phase 1, s.replied 1, s.writtenDead)) (.returned true, false, [0]) rfl
  obtain ⟨back, notReplied, written⟩ : s.phase 1 = .returned true ∧ s.replied 1 = false ∧ s.writtenDead = [0] := by
    simpa using seen
  refine ⟨_, s, run, ⟨back, notReplied⟩, written, ?_⟩
  intro paired
  rw [paired.alive] at written
  cases written

end NetlinkCalls
end RavennaLkm
