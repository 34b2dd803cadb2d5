import RavennaLkm.ManagerSpec

/-!
The comma-separated names of a SetInterfaceName message. The name of index
`_MAX_NICS` passes the check of the index, and a name goes from the 64 bytes of
the manager to the 16 of an EtherTube without a check.
-/
namespace RavennaLkm
open CheckedLoop

/-- The names in the string of a message. -/
def MTALSAMsg.names (msg : MTALSAMsg) : List (List UInt8) :=
  Manager.interfaceNames (msg.payload.takeWhile (· ≠ 0))

theorem splitOn_length_le (separator : UInt8) (bytes : List UInt8) :
    ∀ piece ∈ bytes.splitOn separator, piece.length ≤ bytes.length := by
  induction bytes with
  | nil =>
    intro piece found
    rw [List.splitOn_nil, List.mem_singleton] at found
    rw [found]
  | cons byte rest ih =>
    intro piece found
    rw [List.splitOn_cons_eq_if_modifyHead] at found
    rw [List.length_cons]
    split at found
    · rcases List.mem_cons.mp found with rfl | later
      · exact Nat.zero_le _
      · exact Nat.le_succ_of_le (ih piece later)
    · cases pieces : rest.splitOn separator with
      | nil => exact absurd pieces (List.splitOn_ne_nil separator rest)
      | cons first others =>
        rw [pieces, List.modifyHead_cons] at found
        rw [pieces] at ih
        rcases List.mem_cons.mp found with rfl | later
        · exact Nat.succ_le_succ (ih first List.mem_cons_self)
        · exact Nat.le_succ_of_le (ih piece (List.mem_cons_of_mem first later))

theorem MTALSAMsg.names_length_le (msg : MTALSAMsg) : ∀ name ∈ msg.names, name.length ≤ msg.payload.length := by
  intro name named
  have piece : name ∈ (msg.payload.takeWhile (· ≠ 0)).splitOn 44 := by
    unfold MTALSAMsg.names Manager.interfaceNames at named
    dsimp only at named
    split at named
    · exact List.dropLast_subset _ named
    · exact named
  exact (splitOn_length_le 44 _ name piece).trans (List.takeWhile_sublist _).length_le

namespace Manager

variable {m m' : Manager} {msg : MTALSAMsg} {reply first : MTALSAReply} {alsa : AlsaBuffers}
  {polled : Nat → Nat → PTPLockStatus} {names : List (List UInt8)} {index : Nat}

def namedFrom (m : Manager) : List (List UInt8) → Nat → Manager
  | [], _ => m
  | name :: rest, index => (m.named name index).namedFrom rest (index + 1)

theorem setInterfaceNames_named (fits : ∀ name ∈ names, name.length < ifnameSize)
    (room : index + names.length ≤ maxNics) :
    setInterfaceNames msg names index (m, first) =
      .ok (m.namedFrom names index, if names = [] then first else msg.answer true) := by
  induction names generalizing m index first with
  | nil => rfl
  | cons name rest ih =>
    rw [List.length_cons] at room
    have short := fits name List.mem_cons_self
    have set : m.setInterfaceName name index = .ok (m.named name index, true) := by
      rcases setInterfaceName_cases m name index with ⟨beyond, -⟩ | ⟨-, long, -⟩ | ⟨-, -, done⟩ | ⟨fails, -⟩
      · omega
      · unfold maxInterfaceName at long
        unfold ifnameSize at short
        omega
      · exact done
      · omega
    rw [setInterfaceNames, set, ok_bind, ih (fun other found => fits other (List.mem_cons_of_mem name found))
      (by omega), if_neg (List.cons_ne_nil name rest), namedFrom]
    split
    · rfl
    · rfl

theorem setInterfaceNames_fits (short : ∀ name ∈ names, name.length < maxInterfaceName) (within : index ≤ maxNics)
    (done : setInterfaceNames msg names index (m, first) = .ok (m', reply)) :
    index + names.length ≤ maxNics ∧ ∀ name ∈ names, name.length < ifnameSize := by
  induction names generalizing m index first with
  | nil => exact ⟨within, fun name none => absurd none List.not_mem_nil⟩
  | cons name rest ih =>
    obtain ⟨⟨m1, result⟩, set, others⟩ := bind_eq_ok.mp done
    have known := short name List.mem_cons_self
    rcases setInterfaceName_cases m name index with ⟨beyond, -⟩ | ⟨-, long, -⟩ | ⟨below, fits, -⟩ | ⟨-, overrun⟩
    · omega
    · omega
    · obtain ⟨room, rest_fits⟩ := ih (fun other found => short other (List.mem_cons_of_mem name found)) below others
      rw [List.length_cons]
      refine ⟨by omega, ?_⟩
      intro other found
      rcases List.mem_cons.mp found with rfl | later
      · exact fits
      · exact rest_fits other later
    · cases overrun.symm.trans set

theorem named_ifnameUsed (m : Manager) (name : List UInt8) (index : Nat) :
    ((m.named name index).ethernetFilter index).ifnameUsed = name := by
  simp [named, setEtherTube]

/-- No EtherTube and no activity flag beyond the NICs is touched, and a name that is stored fits, with
its terminating zero. -/
structure StaysInNics (m m' : Manager) : Prop where
  beyond : ∀ nic, maxNics ≤ nic → m'.ethernetFilter nic = m.ethernetFilter nic
  active : ∀ nic, m'.isNICActive nic = true → nic < maxNics
  stored : ∀ nic, (m'.ethernetFilter nic).ifnameUsed = (m.ethernetFilter nic).ifnameUsed ∨
    (m'.ethernetFilter nic).ifnameUsed.length + 1 ≤ ifnameSize

theorem namedFrom_stays (fits : ∀ name ∈ names, name.length < ifnameSize) (room : index + names.length ≤ maxNics)
    (stays : StaysInNics m m') : StaysInNics m (m'.namedFrom names index) := by
  induction names generalizing m' index with
  | nil => exact stays
  | cons name rest ih =>
    rw [List.length_cons] at room
    have short := fits name List.mem_cons_self
    have once : StaysInNics m (m'.named name index) := by
      constructor
      · intro nic beyond
        exact (Function.update_of_ne (by omega) ..).trans (stays.beyond nic beyond)
      · intro nic active
        by_cases same : nic = index
        · omega
        · exact stays.active nic ((Function.update_of_ne same ..).symm.trans active)
      · intro nic
        by_cases same : nic = index
        · subst same
          rw [named_ifnameUsed]
          exact .inr short
        · rw [show (m'.named name index).ethernetFilter nic = m'.ethernetFilter nic from
            Function.update_of_ne same ..]
          exact stays.stored nic
    exact ih (fun other found => fits other (List.mem_cons_of_mem name found)) (by omega)
      once

/-- The message is handled, and inside the NICs. -/
def NamesStayInNics (m : Manager) (msg : MTALSAMsg) (alsa : AlsaBuffers) (polled : Nat → Nat → PTPLockStatus) :
    Prop :=
  ∃ m' reply, m.onNewMessage msg alsa polled = .ok (m', reply) ∧ StaysInNics m m'

theorem onNewMessage_setInterfaceName (isSet : MTALSAMsgId.ofValue msg.id = some .setInterfaceName)
    (small : msg.dataSize.toInt ≤ 32) (ended : 0 ∈ msg.payload) : m.onNewMessage msg alsa polled =
      setInterfaceNames msg msg.names 0 ({ m with isNICActive := fun _ => false }, msg.reply (-404)) := by
  have fits : ¬ msg.dataSize > 32 := by
    intro large
    have above : (32 : Int32).toInt < msg.dataSize.toInt := Int32.lt_iff_toInt_lt.mp large
    have value : (32 : Int32).toInt = 32 := by decide
    omega
  simp only [onNewMessage, isSet, onSetInterfaceName, if_neg fits, MTALSAMsg.cString, if_pos ended, ok_bind]
  rfl

theorem names_stay_in_nics_iff (m : Manager) (msg : MTALSAMsg) (alsa : AlsaBuffers)
    (polled : Nat → Nat → PTPLockStatus) (isSet : MTALSAMsgId.ofValue msg.id = some .setInterfaceName)
    (whole : msg.dataSize.toInt = msg.payload.length) (short : msg.payload.length ≤ 32) :
    NamesStayInNics m msg alsa polled ↔
      0 ∈ msg.payload ∧ msg.names.length ≤ maxNics ∧ ∀ name ∈ msg.names, name.length < ifnameSize := by
  have small : msg.dataSize.toInt ≤ 32 := by omega
  by_cases ended : 0 ∈ msg.payload
  · unfold NamesStayInNics
    rw [onNewMessage_setInterfaceName isSet small ended]
    constructor
    · rintro ⟨m', reply, done, -⟩
      have known : ∀ name ∈ msg.names, name.length < maxInterfaceName := by
        intro name named
        have bound := msg.names_length_le name named
        unfold maxInterfaceName
        omega
      obtain ⟨room, fits⟩ := setInterfaceNames_fits known (Nat.zero_le _) done
      exact ⟨ended, by omega, fits⟩
    · rintro ⟨-, room, fits⟩
      refine ⟨_, _, setInterfaceNames_named fits (by omega), ?_⟩
      have start : StaysInNics m { m with isNICActive := fun _ => false } := by
        constructor
        · intro nic _
          rfl
        · intro nic active
          cases active
        · intro nic
          exact .inl rfl
      exact namedFrom_stays fits (by omega) start
  · constructor
    · rintro ⟨m', reply, done, -⟩
      simp only [onNewMessage, isSet, onSetInterfaceName, MTALSAMsg.cString, if_neg ended] at done
      split at done
      · rename_i large
        have above : (32 : Int32).toInt < msg.dataSize.toInt := Int32.lt_iff_toInt_lt.mp large
        have value : (32 : Int32).toInt = 32 := by decide
        omega
      · cases done
    · rintro ⟨present, -⟩
      exact absurd present ended

theorem names_stay_in_nics_two :
    NamesStayInNics loaded
        ⟨15, 10, [101, 116, 104, 48, 44, 101, 116, 104, 49, 0]⟩ {} (fun _ _ => .unlocked) ↔
      0 ∈ ([101, 116, 104, 48, 44, 101, 116, 104, 49, 0] : List UInt8) ∧
        (MTALSAMsg.names ⟨15, 10, [101, 116, 104, 48, 44, 101, 116, 104, 49, 0]⟩).length ≤ maxNics ∧
        ∀ name ∈ MTALSAMsg.names ⟨15, 10, [101, 116, 104, 48, 44, 101, 116, 104, 49, 0]⟩,
          name.length < ifnameSize :=
  names_stay_in_nics_iff _ _ _ _ rfl rfl (by decide)

/-- The names `a,b,c`, and one name of 16 bytes. -/
theorem names_leave_nics :
    (∃ m alsa polled, ¬ NamesStayInNics m ⟨15, 6, [97, 44, 98, 44, 99, 0]⟩ alsa polled) ∧
      ∃ m alsa polled, ¬ NamesStayInNics m ⟨15, 17, List.replicate 16 97 ++ [0]⟩ alsa polled := by
  constructor
  · refine ⟨loaded, {}, fun _ _ => .unlocked, ?_⟩
    rintro ⟨m', reply, done, -⟩
    cases done
  · refine ⟨loaded, {}, fun _ _ => .unlocked, ?_⟩
    rintro ⟨m', reply, done, -⟩
    cases done

end Manager

end RavennaLkm
