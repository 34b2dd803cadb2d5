import RavennaLkm.Lib.PackedLayout
import RavennaLkm.ManagerSpec

/-!
butler_1_1_93_compat.c: the messages of a Butler that does not know the primary
port of a stream. Its description of a stream is one byte shorter; the adapter
makes the current one of it, and passes every other message on as it is.
-/
namespace RavennaLkm
open CheckedLoop LittleEndian PackedLayout

inductive StreamField where
  | cRTPStreamInfoSizeof | b802_1Q | vlanId | ifPortId | cName | playOutDelay | frameSize | maxSamplesPerPacket
  | destMAC | dscp | rtcpSrcIP | srcIP | destIP | ttl | srcPort | destPort | rtcpSrcPort | rtcpDestPort
  | payloadType | ssrc | ssrcInitialized | rtpTimestampOffset | samplingRate | cCodec | wordLength | nbOfChannels
  | source | id | isPrimaryPort | routing
  deriving DecidableEq, Repr

namespace StreamField

def size : StreamField → Nat
  | cRTPStreamInfoSizeof => 4
  | b802_1Q => 1
  | vlanId => 2
  | ifPortId => 4
  | cName => maxStreamNameSize
  | playOutDelay | frameSize | maxSamplesPerPacket => 4
  | destMAC => 6
  | dscp => 1
  | rtcpSrcIP | srcIP | destIP => 4
  | ttl => 1
  | srcPort | destPort | rtcpSrcPort | rtcpDestPort => 2
  | payloadType => 1
  | ssrc => 4
  | ssrcInitialized => 1
  | rtpTimestampOffset | samplingRate => 4
  | cCodec => maxCodecNameSize
  | wordLength | nbOfChannels | source => 1
  | id => 4
  | isPrimaryPort => 1
  | routing => 4 * maxChannelsByRTPStream

/-- `TRTP_stream_info`. -/
def current : List StreamField :=
  [cRTPStreamInfoSizeof, b802_1Q, vlanId, ifPortId, cName, playOutDelay, frameSize, maxSamplesPerPacket,
    destMAC, dscp, rtcpSrcIP, srcIP, destIP, ttl, srcPort, destPort, rtcpSrcPort, rtcpDestPort, payloadType, ssrc,
    ssrcInitialized, rtpTimestampOffset, samplingRate, cCodec, wordLength, nbOfChannels, source, id, isPrimaryPort,
    routing]

/-- `TRTP_stream_info_1_1_93`. -/
def legacy : List StreamField :=
  [cRTPStreamInfoSizeof, b802_1Q, vlanId, ifPortId, cName, playOutDelay, frameSize, maxSamplesPerPacket,
    destMAC, dscp, rtcpSrcIP, srcIP, destIP, ttl, srcPort, destPort, rtcpSrcPort, rtcpDestPort, payloadType, ssrc,
    ssrcInitialized, rtpTimestampOffset, samplingRate, cCodec, wordLength, nbOfChannels, source, id, routing]

def beforePrimaryPort : List StreamField := current.takeWhile (· ≠ isPrimaryPort)

theorem current_eq : current = beforePrimaryPort ++ isPrimaryPort :: [routing] := rfl

theorem legacy_eq : legacy = beforePrimaryPort ++ [routing] := rfl

end StreamField

open StreamField

def sizeofCurrent : Nat := sizeof size current
def sizeofLegacy : Nat := sizeof size legacy

theorem sizeof_current : sizeofCurrent = 403 := rfl

theorem sizeof_legacy : sizeofLegacy = 402 := rfl

theorem offsetof_isPrimaryPort : offsetof size current isPrimaryPort = 146 := rfl

def word (cells : List UInt8) : UInt32 := load32 (fun k => cells.getD k 0) 0

/-- What `nl_rx_msg` is given; the list is what the data pointer leads to, if it is not null. -/
structure RxMsg where
  id : UInt32
  dataSize : Int32
  data : Option (List UInt8)

namespace RxMsg

def toMsg (msg : RxMsg) : MTALSAMsg := { id := msg.id, dataSize := msg.dataSize, payload := msg.data.getD [] }

def IsAdd (msg : RxMsg) : Prop := MTALSAMsgId.ofValue msg.id = some .addRTPStream

instance (msg : RxMsg) : Decidable msg.IsAdd := inferInstanceAs (Decidable (_ = _))

end RxMsg

def nlRxMsg (self : Manager) (msg : RxMsg) (alsa : AlsaBuffers) (polled : Nat → Nat → PTPLockStatus) :
    Except ManagerFault (Manager × MTALSAReply) := self.onNewMessage msg.toMsg alsa polled

def setField (info : List UInt8) (f : StreamField) (value : List UInt8) : List UInt8 :=
  patch info (offsetof size current f) value

def currentInfo (info : List UInt8) : List UInt8 :=
  let zero : List UInt8 := List.replicate sizeofCurrent 0
  let head := patch zero 0 (info.take (offsetof size current isPrimaryPort))
  let primary := setField head isPrimaryPort [if word (readField size legacy info ifPortId) = 0 then 1 else 0]
  let routed := setField primary routing (readField size legacy info routing)
  setField routed cRTPStreamInfoSizeof (store32 (UInt32.ofNat sizeofCurrent))

def butlerNlRxMsg (self : Manager) (msg : RxMsg) (alsa : AlsaBuffers) (polled : Nat → Nat → PTPLockStatus) :
    Except ManagerFault (Manager × MTALSAReply) :=
  match msg.data with
  | none => nlRxMsg self msg alsa polled
  | some info =>
    if msg.IsAdd ∧ msg.dataSize.toInt = sizeofLegacy then
      if info.length < size cRTPStreamInfoSizeof then .error .outsideMessage
      else
        let embeddedSize := word (readField size legacy info cRTPStreamInfoSizeof)
        if sizeofLegacy ≠ 402 ∨ sizeofCurrent ≠ 403 ∨ embeddedSize.toNat ≠ sizeofLegacy then
          nlRxMsg self msg alsa polled
        else if info.length < sizeofLegacy then .error .outsideMessage
        else
          let translated : RxMsg :=
            { msg with dataSize := Int32.ofNat sizeofCurrent, data := some (currentInfo info) }
          nlRxMsg self translated alsa polled
    else nlRxMsg self msg alsa polled

/-- A description of 402 bytes with the new byte before the routing table and the new size in front. -/
def withPrimaryPort (info : List UInt8) : List UInt8 :=
  let port := load32 (fun k => info.getD k 0) 7
  patch (info.take 146 ++ [if port = 0 then 1 else 0] ++ info.drop 146) 0 (store32 403)

namespace RxMsg

def IsLegacyAdd (msg : RxMsg) (info : List UInt8) : Prop :=
  msg.IsAdd ∧ msg.dataSize.toInt = 402 ∧ msg.data = some info ∧ 402 ≤ info.length ∧
    load32 (fun k => info.getD k 0) 0 = 402

instance (msg : RxMsg) (info : List UInt8) : Decidable (msg.IsLegacyAdd info) :=
  inferInstanceAs (Decidable (_ ∧ _ ∧ _ ∧ _ ∧ _))

def expected (msg : RxMsg) : RxMsg :=
  let info := msg.data.getD []
  if msg.IsLegacyAdd info then { msg with dataSize := 403, data := some (withPrimaryPort (info.take 402)) }
  else msg

end RxMsg

/-- All entries of the routing table are there, and every other field but the size is that of the legacy
description; a stream of interface 0 is a primary one. -/
structure Translates (info translated : List UInt8) : Prop where
  fields : ∀ f ∈ legacy, f ≠ cRTPStreamInfoSizeof →
    readField size current translated f = readField size legacy info f
  routing : ∀ ch < maxChannelsByRTPStream,
    load32 (fun k => translated.getD k 0) (147 + 4 * ch) = load32 (fun k => info.getD k 0) (146 + 4 * ch)
  isPrimaryPort : readField size current translated isPrimaryPort =
    [if load32 (fun k => info.getD k 0) 7 = 0 then 1 else 0]
  sizeof : load32 (fun k => translated.getD k 0) 0 = 403

/-- The adapter does what the driver does for the expected message, which it makes field by field. -/
structure Adapts (msg : RxMsg) : Prop where
  effect : ∀ self alsa polled, butlerNlRxMsg self msg alsa polled = nlRxMsg self msg.expected alsa polled
  fields : ∀ info, msg.IsLegacyAdd info → Translates info (currentInfo info)

/-- An AddRTPStream that announces 402 bytes has the size in front, and all of them if that is 402. -/
def Untruncated (msg : RxMsg) : Prop :=
  msg.IsAdd → msg.dataSize.toInt = 402 → ∀ info, msg.data = some info →
    4 ≤ info.length ∧ (load32 (fun k => info.getD k 0) 0 = 402 → 402 ≤ info.length)

variable {info : List UInt8} {f : StreamField} {msg : RxMsg}

theorem load32_read (layout : List StreamField) (cells : List UInt8) (f : StreamField) (pos : Nat)
    (inside : pos + 4 ≤ size f) :
    load32 (fun k => (readField size layout cells f).getD k 0) pos =
      load32 (fun k => cells.getD k 0) (offsetof size layout f + pos) := by
  have byte : ∀ k < size f,
      (readField size layout cells f).getD k 0 = cells.getD (offsetof size layout f + k) 0 := by
    intro k below
    rw [List.getD_eq_getElem?_getD, List.getD_eq_getElem?_getD, getElem?_readField, if_pos below]
  simp only [load32, byte _ (show pos < size f by omega), byte _ (show pos + 1 < size f by omega),
    byte _ (show pos + 2 < size f by omega), byte _ (show pos + 3 < size f by omega), Nat.add_assoc]

theorem read_take {layout : List StreamField} (cells : List UInt8) {n : Nat} (isIn : f ∈ layout)
    (whole : sizeof size layout ≤ n) :
    readField size layout (cells.take n) f = readField size layout cells f := by
  have ends := offsetof_end size isIn
  unfold readField
  rw [List.drop_take, List.take_take, Nat.min_eq_left (by omega)]

theorem currentInfo_eq (whole : 402 ≤ info.length) : currentInfo info = withPrimaryPort (info.take 402) := by
  have isField : ifPortId ∈ legacy := by decide
  have port : word (readField size legacy info ifPortId) = load32 (fun k => (info.take 402).getD k 0) 7 := by
    rw [← read_take info isField (Nat.le_refl sizeofLegacy)]
    exact load32_read legacy (info.take 402) ifPortId 0 (by decide)
  have front : (info.take 146).length = 146 := by
    rw [List.length_take]
    omega
  let blank : List UInt8 := List.replicate 256 0
  have zeros : List.replicate sizeofCurrent (0 : UInt8) = [] ++ List.replicate 146 0 ++ ([0] ++ blank) := by
    rw [List.nil_append, ← List.replicate_one, List.replicate_append_replicate, List.replicate_append_replicate]
    rfl
  have routes : readField size legacy info routing = (info.take 402).drop 146 := by
    rw [List.drop_take]
    rfl
  have routed : blank.length = ((info.take 402).drop 146).length := by
    rw [List.length_replicate, List.length_drop, List.length_take]
    omega
  have head : patch (List.replicate sizeofCurrent 0) 0 (info.take 146) = info.take 146 ++ ([0] ++ blank) := by
    rw [zeros]
    exact patch_append _ rfl (by rw [front, List.length_replicate])
  have primary (x : UInt8) : patch (info.take 146 ++ ([0] ++ blank)) 146 [x] = info.take 146 ++ [x] ++ blank := by
    rw [← List.append_assoc]
    exact patch_append _ front rfl
  have table (x : UInt8) (l : List UInt8) (same : blank.length = l.length) :
      patch (info.take 146 ++ [x] ++ blank) 147 l = info.take 146 ++ [x] ++ l := by
    have before : (info.take 146 ++ [x]).length = 147 := by simp [front]
    have whole := patch_append [] before same
    rwa [List.append_nil, List.append_nil] at whole
  unfold currentInfo withPrimaryPort setField
  dsimp only
  rw [port, routes, offsetof_isPrimaryPort, head, primary]
  change patch (patch _ 147 _) 0 (store32 403) = _
  rw [table _ _ routed, List.take_take]
  rfl

theorem translates (whole : 402 ≤ info.length) : Translates info (currentInfo info) := by
  let cut := info.take 402
  let primary : List UInt8 := [if load32 (fun k => cut.getD k 0) 7 = 0 then 1 else 0]
  have length : cut.length = 402 := by
    rw [List.length_take]
    omega
  have inside : sizeof size beforePrimaryPort ≤ cut.length := by
    rw [length]
    decide
  have isIn : cRTPStreamInfoSizeof ∈ current := by decide
  have made : currentInfo info = patch (insertAt size beforePrimaryPort cut primary)
      (offsetof size current cRTPStreamInfoSizeof) (store32 403) := currentInfo_eq whole
  have fields : ∀ f ∈ legacy, f ≠ cRTPStreamInfoSizeof →
      readField size current (currentInfo info) f = readField size legacy info f := by
    intro f isLegacy other
    have notNew : f ≠ isPrimaryPort := by
      intro same
      rw [same] at isLegacy
      exact absurd isLegacy (by decide)
    have isCurrent : f ∈ current := by
      rw [legacy_eq, List.mem_append] at isLegacy
      rw [current_eq, List.mem_append, List.mem_cons]
      exact isLegacy.imp id .inr
    rw [made, read_patch_other isCurrent isIn other rfl (Nat.zero_le _), current_eq,
      read_insert notNew rfl inside, ← legacy_eq]
    exact read_take info isLegacy (Nat.le_refl sizeofLegacy)
  have port : load32 (fun k => cut.getD k 0) 7 = load32 (fun k => info.getD k 0) 7 := by
    have isField : ifPortId ∈ legacy := by decide
    have same := read_take info isField (Nat.le_refl sizeofLegacy)
    have inCut := load32_read legacy cut ifPortId 0 (by decide)
    have inInfo := load32_read legacy info ifPortId 0 (by decide)
    change readField size legacy cut ifPortId = _ at same
    rw [same] at inCut
    exact inCut.symm.trans inInfo
  constructor
  · exact fields
  · intro ch below
    have table := fields routing (by decide) (by decide)
    unfold maxChannelsByRTPStream at below
    have room : 4 * ch + 4 ≤ size routing := by
      change 4 * ch + 4 ≤ 4 * 64
      omega
    have after := load32_read current (currentInfo info) routing _ room
    have before := load32_read legacy info routing _ room
    rw [table] at after
    exact after.symm.trans before
  · have new : isPrimaryPort ∉ beforePrimaryPort := by decide
    have isSize : primary.length = size isPrimaryPort := rfl
    rw [made, read_patch_other (by decide) isIn (by decide) rfl (Nat.zero_le _), current_eq,
      read_inserted new isSize inside]
    change [if load32 (fun k => cut.getD k 0) 7 = 0 then (1 : UInt8) else 0] = _
    rw [port]
  · have size403 : readField size current (currentInfo info) cRTPStreamInfoSizeof = store32 403 := by
      rw [made]
      exact read_patched rfl (Nat.zero_le _)
    have first := load32_read current (currentInfo info) cRTPStreamInfoSizeof 0 (by decide)
    rw [size403] at first
    exact first.symm

theorem nlRxMsg_refused (self : Manager) (isAdd : msg.IsAdd) (size402 : msg.dataSize.toInt = 402)
    (alsa : AlsaBuffers) (polled : Nat → Nat → PTPLockStatus) :
    nlRxMsg self msg alsa polled = .ok (self, msg.toMsg.reply (-315)) := by
  unfold RxMsg.IsAdd at isAdd
  unfold nlRxMsg Manager.onNewMessage
  have id : MTALSAMsgId.ofValue msg.toMsg.id = some .addRTPStream := isAdd
  rw [id]
  apply if_pos
  change msg.dataSize.toInt ≠ 403
  omega

theorem butler_add (self : Manager) (isAdd : msg.IsAdd) (size402 : msg.dataSize.toInt = 402)
    (isData : msg.data = some info) (alsa : AlsaBuffers) (polled : Nat → Nat → PTPLockStatus) :
    butlerNlRxMsg self msg alsa polled =
      if info.length < 4 then .error .outsideMessage
      else if load32 (fun k => info.getD k 0) 0 = 402 then
        if info.length < 402 then .error .outsideMessage
        else nlRxMsg self { msg with dataSize := 403, data := some (currentInfo info) } alsa polled
      else nlRxMsg self msg alsa polled := by
  have embedded : word (readField size legacy info cRTPStreamInfoSizeof) = load32 (fun k => info.getD k 0) 0 :=
    load32_read legacy info cRTPStreamInfoSizeof 0 (by decide)
  have isSize : (load32 (fun k => info.getD k 0) 0).toNat = 402 ↔ load32 (fun k => info.getD k 0) 0 = 402 := by
    rw [← UInt32.toNat_inj]
    rfl
  unfold butlerNlRxMsg
  rw [isData]
  dsimp only
  rw [if_pos ⟨isAdd, size402⟩, embedded]
  simp only [sizeof_legacy, sizeof_current, ne_eq, not_true_eq_false, false_or, ite_not, isSize]
  rfl

theorem adapts_iff (msg : RxMsg) : Adapts msg ↔ Untruncated msg := by
  have refused (isAdd : msg.IsAdd) (size402 : msg.dataSize.toInt = 402)
      (other : ¬ msg.IsLegacyAdd (msg.data.getD [])) :
      nlRxMsg Manager.loaded msg.expected {} (fun _ _ => .unlocked) =
        .ok (Manager.loaded, msg.toMsg.reply (-315)) := by
    unfold RxMsg.expected
    rw [if_neg other]
    exact nlRxMsg_refused _ isAdd size402 ..
  constructor
  · intro adapts isAdd size402 info isData
    have effect := adapts.effect Manager.loaded {} fun _ _ => .unlocked
    rw [butler_add Manager.loaded isAdd size402 isData] at effect
    constructor
    · by_contra short
      have other : ¬ msg.IsLegacyAdd (msg.data.getD []) := by
        intro ⟨_, _, _, whole, _⟩
        rw [isData, Option.getD_some] at whole
        omega
      rw [refused isAdd size402 other, if_pos (by omega)] at effect
      cases effect
    · intro embedded
      by_contra short
      have other : ¬ msg.IsLegacyAdd (msg.data.getD []) := by
        intro ⟨_, _, _, whole, _⟩
        rw [isData, Option.getD_some] at whole
        omega
      rw [refused isAdd size402 other, if_pos embedded, if_pos (by omega : info.length < 402), ite_self] at effect
      cases effect
  · intro untruncated
    constructor
    · intro self alsa polled
      by_cases legacyAdd : msg.IsLegacyAdd (msg.data.getD [])
      · obtain ⟨isAdd, size402, isData, whole, embedded⟩ := legacyAdd
        rw [butler_add self isAdd size402 isData, if_neg (by omega), if_pos embedded, if_neg (by omega),
          currentInfo_eq whole]
        unfold RxMsg.expected
        rw [if_pos ⟨isAdd, size402, isData, whole, embedded⟩]
      · have unchanged : msg.expected = msg := if_neg legacyAdd
        rw [unchanged]
        cases isData : msg.data with
        | none =>
          unfold butlerNlRxMsg
          rw [isData]
        | some info =>
          by_cases isAdd : msg.IsAdd ∧ msg.dataSize.toInt = 402
          · obtain ⟨isAdd, size402⟩ := isAdd
            obtain ⟨head, whole⟩ := untruncated isAdd size402 info isData
            have other : ¬ load32 (fun k => info.getD k 0) 0 = 402 := by
              intro embedded
              apply legacyAdd
              rw [isData]
              exact ⟨isAdd, size402, isData, whole embedded, embedded⟩
            rw [butler_add self isAdd size402 isData, if_neg (by omega), if_neg other]
          · unfold butlerNlRxMsg
            rw [isData]
            exact if_neg isAdd
    · intro info legacyAdd
      exact translates legacyAdd.2.2.2.1

/-- AddRTPStream with a size of 402 and no data behind the header. -/
theorem truncated_not_adapted : ¬ ∀ msg, Adapts msg := by
  intro all
  let msg : RxMsg := { id := 16, dataSize := 402, data := some [] }
  have effect := (all msg).effect Manager.loaded {} fun _ _ => .unlocked
  have isAdd : msg.IsAdd := by decide
  have size402 : msg.dataSize.toInt = 402 := by decide
  have other : ¬ msg.IsLegacyAdd [] := by decide
  have unchanged : msg.expected = msg := by
    unfold RxMsg.expected
    exact if_neg other
  rw [butler_add Manager.loaded isAdd size402 rfl, unchanged, nlRxMsg_refused _ isAdd size402] at effect
  cases effect

end RavennaLkm
