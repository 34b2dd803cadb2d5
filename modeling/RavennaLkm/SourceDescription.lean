import RavennaLkm.AudioStream

/-!
The RTCP source description that rtp_stream_init prepares for a source: a header,
the SSRC, and one CNAME item with the source's address as its text. The size of
the item is taken from a structure with 15 bytes of text where the comment has
one, so that 14 bytes between the text and the END item are never written.
-/
namespace RavennaLkm
open LittleEndian BitFields

def rtcpPacketTypeSDES : UInt8 := 202
def rtcpPacketTypeSDESEnd : UInt8 := 0
def rtcpPacketTypeSDESCNAME : UInt8 := 1

def sizeofSourceDescriptionHeaderBase : Nat := 4
def sizeofSourceDescriptionChunk : Nat := 4
/-- Type, length and `ucData[15]`. -/
def sizeofSourceDescriptionItem : Nat := 17

def decimal (x : UInt32) : List UInt8 := (Nat.toDigits 10 x.toNat).map fun digit => UInt8.ofNat digit.toNat

def fullStop : UInt8 := 46

def dottedDecimal (ip : UInt32) : List UInt8 :=
  decimal (ip >>> 24) ++ [fullStop] ++ decimal ((ip >>> 16) &&& 0xFF) ++ [fullStop] ++
    decimal ((ip >>> 8) &&& 0xFF) ++ [fullStop] ++ decimal (ip &&& 0xFF)

/-- `snprintf` into `cCNAME[15+1]`, the last byte of which is for the terminating zero. -/
def cCNAME (srcIP : UInt32) : List UInt8 := (dottedDecimal srcIP).take 15

structure RTCPSourceDescription where
  block : Option PacketBuffer := none
  size : Nat := 0

def uiItemSize (srcIP : UInt32) : Nat := sizeofSourceDescriptionItem - 1 + (cCNAME srcIP).length
def uiEndItemSize : Nat := 1
def uiPadding (srcIP : UInt32) : Nat := (uiItemSize srcIP + uiEndItemSize) &&& 3

def sourceDescriptionSize (srcIP : UInt32) : Nat :=
  sizeofSourceDescriptionHeaderBase + sizeofSourceDescriptionChunk + uiItemSize srcIP + uiEndItemSize +
    uiPadding srcIP

def fillSourceDescription (info : RTPStreamInfo) : PacketBuffer :=
  let usLength := UInt16.ofNat (sourceDescriptionSize info.srcIP / 4 - 1)
  let chunk := sizeofSourceDescriptionHeaderBase
  let item := chunk + sizeofSourceDescriptionChunk
  let block : PacketBuffer := fun _ => none
  let block := writeBytes block 0 [((2 : UInt8) <<< 6) ||| 1, rtcpPacketTypeSDES]
  let block := writeBytes block 2 (store16 (mtalSwap16 usLength))
  let block := writeBytes block chunk (store32 (mtalSwap32 info.ssrc))
  let block := writeBytes block item [rtcpPacketTypeSDESCNAME, UInt8.ofNat (cCNAME info.srcIP).length]
  let block := writeBytes block (item + 2) (cCNAME info.srcIP)
  writeBytes block (item + uiItemSize info.srcIP)
    (List.replicate (uiEndItemSize + uiPadding info.srcIP) rtcpPacketTypeSDESEnd)

/-- The part of `rtp_stream_init` under "make SDES"; `memory` tells whether `malloc` has any left. -/
def makeSourceDescription (memory : Bool) (info : RTPStreamInfo) : RTCPSourceDescription :=
  if info.source then
    { block := if memory then some (fillSourceDescription info) else none
      size := sourceDescriptionSize info.srcIP }
  else {}

abbrev SDESItem := UInt8 × List UInt8

/-- The items of a chunk: type, length and text, up to an END item with nothing but zeros behind it. -/
def parseItems (bytes : List UInt8) : Option (List SDESItem) :=
  match bytes with
  | [] => none
  | type :: rest =>
    if type = rtcpPacketTypeSDESEnd then if rest.all (· = 0) then some [] else none
    else
      match rest with
      | [] => none
      | length :: rest =>
        if length.toNat ≤ rest.length then
          ((type, rest.take length.toNat) :: ·) <$> parseItems (rest.drop length.toNat)
        else none
termination_by bytes.length
decreasing_by
  simp only [List.length_drop, List.length_cons]
  omega

def parseSDES (bytes : List UInt8) : Option (UInt32 × List SDESItem) :=
  if bytes.take 2 = [0x81, rtcpPacketTypeSDES] then
    (mtalSwap32 (load32 (fun a => bytes.getD a 0) 4), ·) <$> parseItems (bytes.drop 8)
  else none

def blockBytes (block : PacketBuffer) (left : Nat → UInt8) (size : Nat) : List UInt8 :=
  (List.range size).map fun a => (block a).getD (left a)

def announcedLength (block : PacketBuffer) : UInt16 := mtalSwap16 (load16 (fun a => (block a).getD 0) 2)

/-- A source description as RFC 3550 has it, whatever the memory held before. -/
structure WellFormedSDES (info : RTPStreamInfo) (size : Nat) (block : PacketBuffer) : Prop where
  words : size % 4 = 0
  announced : size = 4 * ((announcedLength block).toNat + 1)
  initialised : ∀ a < size, (block a).isSome
  parses : ∀ left, parseSDES (blockBytes block left size) =
    some (info.ssrc, [(rtcpPacketTypeSDESCNAME, dottedDecimal info.srcIP)])

theorem length_decimal {x : UInt32} (byte : x.toNat < 256) : 1 ≤ (decimal x).length ∧ (decimal x).length ≤ 3 := by
  have short : (Nat.toDigits 10 x.toNat).length ≤ 3 :=
    (Nat.length_toDigits_le_iff (by decide) (by decide)).mpr (by omega)
  have some : 0 < (Nat.toDigits 10 x.toNat).length := Nat.length_toDigits_pos
  simp only [decimal, List.length_map]
  omega

theorem toNat_lowByte (x : UInt32) : (x &&& 0xFF).toNat < 256 := by
  rw [UInt32.toNat_and]
  change x.toNat &&& (2 ^ 8 - 1) < 256
  rw [and_low]
  omega

theorem toNat_highByte (x : UInt32) : (x >>> 24).toNat < 256 := by
  have bound := x.toNat_lt
  rw [UInt32.toNat_shiftRight]
  change x.toNat >>> 24 < 256
  rw [Nat.shiftRight_eq_div_pow]
  omega

theorem length_dottedDecimal (ip : UInt32) : 7 ≤ (dottedDecimal ip).length ∧ (dottedDecimal ip).length ≤ 15 := by
  have byte3 := length_decimal (toNat_highByte ip)
  have byte2 := length_decimal (toNat_lowByte (ip >>> 16))
  have byte1 := length_decimal (toNat_lowByte (ip >>> 8))
  have byte0 := length_decimal (toNat_lowByte ip)
  simp only [dottedDecimal, List.length_append, List.length_cons, List.length_nil]
  omega

theorem cCNAME_eq (ip : UInt32) : cCNAME ip = dottedDecimal ip := List.take_of_length_le (length_dottedDecimal ip).2

theorem uiPadding_eq (ip : UInt32) : uiPadding ip = (17 + (dottedDecimal ip).length) % 4 := by
  unfold uiPadding uiItemSize
  rw [cCNAME_eq]
  have low := and_low (sizeofSourceDescriptionItem - 1 + (dottedDecimal ip).length + uiEndItemSize) 2
  simp only [sizeofSourceDescriptionItem, uiEndItemSize] at low ⊢
  rw [show 3 = 2 ^ 2 - 1 from rfl, low]
  congr 1
  omega

theorem sourceDescriptionSize_eq (ip : UInt32) : sourceDescriptionSize ip =
    25 + (dottedDecimal ip).length + (17 + (dottedDecimal ip).length) % 4 := by
  unfold sourceDescriptionSize
  rw [uiPadding_eq]
  unfold uiItemSize
  rw [cCNAME_eq]
  simp only [sizeofSourceDescriptionHeaderBase, sizeofSourceDescriptionChunk, sizeofSourceDescriptionItem,
    uiEndItemSize]
  omega

/-- The padding is what is over a multiple of four, not what is missing to the next one. -/
theorem words_iff (ip : UInt32) : sourceDescriptionSize ip % 4 = 0 ↔ (dottedDecimal ip).length % 2 = 1 := by
  rw [sourceDescriptionSize_eq]
  omega

def descriptionFront (info : RTPStreamInfo) : List UInt8 :=
  [0x81, rtcpPacketTypeSDES] ++ store16 (mtalSwap16 (UInt16.ofNat (sourceDescriptionSize info.srcIP / 4 - 1))) ++
    store32 (mtalSwap32 info.ssrc) ++ [rtcpPacketTypeSDESCNAME, UInt8.ofNat (dottedDecimal info.srcIP).length] ++
    dottedDecimal info.srcIP

theorem length_descriptionFront (info : RTPStreamInfo) :
    (descriptionFront info).length = 10 + (dottedDecimal info.srcIP).length := by
  simp [descriptionFront]
  omega

theorem fillSourceDescription_eq (info : RTPStreamInfo) : fillSourceDescription info =
    writeBytes (writeBytes (fun _ => none) 0 (descriptionFront info)) (24 + (dottedDecimal info.srcIP).length)
      (List.replicate (1 + uiPadding info.srcIP) 0) := by
  let usLength := UInt16.ofNat (sourceDescriptionSize info.srcIP / 4 - 1)
  let header : List UInt8 := [0x81, rtcpPacketTypeSDES]
  let start : PacketBuffer := fun _ => none
  have length := writeBytes_append start 0 header (store16 (mtalSwap16 usLength))
  have ssrc := writeBytes_append start 0 (header ++ store16 (mtalSwap16 usLength)) (store32 (mtalSwap32 info.ssrc))
  have item := writeBytes_append start 0 (header ++ store16 (mtalSwap16 usLength) ++ store32 (mtalSwap32 info.ssrc))
    [rtcpPacketTypeSDESCNAME, UInt8.ofNat (dottedDecimal info.srcIP).length]
  have text := writeBytes_append start 0 (header ++ store16 (mtalSwap16 usLength) ++ store32 (mtalSwap32 info.ssrc) ++
    [rtcpPacketTypeSDESCNAME, UInt8.ofNat (dottedDecimal info.srcIP).length]) (dottedDecimal info.srcIP)
  have behind : sizeofSourceDescriptionHeaderBase + sizeofSourceDescriptionChunk + uiItemSize info.srcIP =
      24 + (dottedDecimal info.srcIP).length := by
    unfold uiItemSize
    rw [cCNAME_eq]
    simp only [sizeofSourceDescriptionHeaderBase, sizeofSourceDescriptionChunk, sizeofSourceDescriptionItem]
    omega
  rw [← length] at ssrc
  rw [← ssrc] at item
  rw [← item] at text
  unfold fillSourceDescription descriptionFront
  rw [← text]
  dsimp only
  rw [behind, cCNAME_eq]
  rfl

variable {info : RTPStreamInfo} {a : Nat}

theorem fill_front (below : a < 10 + (dottedDecimal info.srcIP).length) :
    fillSourceDescription info a = (descriptionFront info)[a]? := by
  have length := length_descriptionFront info
  rw [fillSourceDescription_eq]
  unfold writeBytes
  rw [if_neg (by omega), if_pos (by omega)]
  rfl

theorem fill_gap (from_ : 10 + (dottedDecimal info.srcIP).length ≤ a)
    (below : a < 24 + (dottedDecimal info.srcIP).length) : fillSourceDescription info a = none := by
  have length := length_descriptionFront info
  rw [fillSourceDescription_eq]
  unfold writeBytes
  rw [if_neg (by omega), if_neg (by omega)]

theorem fill_end (from_ : 24 + (dottedDecimal info.srcIP).length ≤ a) (below : a < sourceDescriptionSize info.srcIP) :
    fillSourceDescription info a = some 0 := by
  rw [sourceDescriptionSize_eq] at below
  rw [fillSourceDescription_eq]
  unfold writeBytes
  rw [List.length_replicate, uiPadding_eq, if_pos (by omega), List.getElem?_replicate, if_pos (by omega)]

theorem initialised_iff (below : a < sourceDescriptionSize info.srcIP) : (fillSourceDescription info a).isSome ↔
    a < 10 + (dottedDecimal info.srcIP).length ∨ 24 + (dottedDecimal info.srcIP).length ≤ a := by
  have length := length_descriptionFront info
  by_cases front : a < 10 + (dottedDecimal info.srcIP).length
  · rw [fill_front front, List.getElem?_eq_getElem (by omega)]
    simp [front]
  · by_cases gap : a < 24 + (dottedDecimal info.srcIP).length
    · rw [fill_gap (by omega) gap]
      simp
      omega
    · rw [fill_end (by omega) below]
      simp
      omega

theorem blockBytes_eq (info : RTPStreamInfo) (left : Nat → UInt8) :
    blockBytes (fillSourceDescription info) left (sourceDescriptionSize info.srcIP) =
      descriptionFront info ++ (List.range 14).map (fun k => left (10 + (dottedDecimal info.srcIP).length + k)) ++
        List.replicate (1 + uiPadding info.srcIP) 0 := by
  have length := length_descriptionFront info
  have size := sourceDescriptionSize_eq info.srcIP
  apply List.ext_getElem
  · simp [blockBytes, size, length, uiPadding_eq]
    omega
  · intro a below _
    simp only [blockBytes, List.length_map, List.length_range] at below
    simp only [blockBytes, List.getElem_map, List.getElem_range, List.getElem_append, List.length_append,
      List.length_map, List.length_range, length, List.getElem_replicate]
    by_cases front : a < 10 + (dottedDecimal info.srcIP).length
    · rw [dif_pos (by omega), dif_pos (by omega), fill_front front, List.getElem?_eq_getElem (by omega)]
      rfl
    · by_cases gap : a < 24 + (dottedDecimal info.srcIP).length
      · rw [dif_pos (by omega), dif_neg (by omega), fill_gap (by omega) gap, Option.getD_none]
        congr 1
        omega
      · rw [dif_neg (by omega), fill_end (by omega) below]
        rfl

theorem parseItems_eq_nil_iff (bytes : List UInt8) : parseItems bytes = some [] ↔ bytes ≠ [] ∧ ∀ b ∈ bytes, b = 0 := by
  unfold parseItems
  cases bytes with
  | nil => simp
  | cons type rest =>
    by_cases ends : type = rtcpPacketTypeSDESEnd
    · simp [ends, rtcpPacketTypeSDESEnd]
    · have item : type ≠ 0 := ends
      cases rest with
      | nil => simp [ends, item]
      | cons length rest =>
        simp only [ends, if_false]
        split <;> simp [item]

theorem parseItems_item {type length : UInt8} {text : List UInt8} (item : type ≠ 0)
    (counted : length.toNat = text.length)
    (rest : List UInt8) : parseItems (type :: length :: text ++ rest) = ((type, text) :: ·) <$> parseItems rest := by
  have notEnd : type ≠ rtcpPacketTypeSDESEnd := item
  rw [List.cons_append, List.cons_append, parseItems, if_neg notEnd]
  simp only [counted, List.length_append, Nat.le_add_right, if_true, List.take_left, List.drop_left]

theorem parseSDES_header (usLength : UInt16) (ssrc : UInt32) (items : List UInt8) :
    parseSDES ([0x81, rtcpPacketTypeSDES] ++ store16 usLength ++ store32 (mtalSwap32 ssrc) ++ items) =
      (ssrc, ·) <$> parseItems items := by
  have stored := holds_between ([0x81, rtcpPacketTypeSDES] ++ store16 usLength) (store32 (mtalSwap32 ssrc)) items
  have read : load32 (fun a => ([0x81, rtcpPacketTypeSDES] ++ store16 usLength ++ store32 (mtalSwap32 ssrc) ++
      items).getD a 0) 4 = mtalSwap32 ssrc := holds_store32.mp stored
  unfold parseSDES
  rw [read, mtalSwap32_swap32]
  rfl

/-- What stands behind the text decides whether another item is found there. -/
theorem parseItems_gap_iff (left : Nat → UInt8) (start padding : Nat) :
    parseItems ((List.range 14).map (fun k => left (start + k)) ++ List.replicate (1 + padding) 0) = some [] ↔
      ∀ k < 14, left (start + k) = 0 := by
  rw [parseItems_eq_nil_iff]
  constructor
  · rintro ⟨-, zero⟩ k below
    apply zero
    exact List.mem_append_left _ (List.mem_map.mpr ⟨k, List.mem_range.mpr below, rfl⟩)
  · intro cleared
    refine ⟨by simp, fun b isIn => ?_⟩
    rcases List.mem_append.mp isIn with isGap | isEnd
    · obtain ⟨k, below, rfl⟩ := List.mem_map.mp isGap
      exact cleared k (List.mem_range.mp below)
    · exact (List.mem_replicate.mp isEnd).2

/-- A receiver finds the chunk as it is meant if the memory happened to hold zeros there. -/
theorem parses_iff (info : RTPStreamInfo) (left : Nat → UInt8) :
    parseSDES (blockBytes (fillSourceDescription info) left (sourceDescriptionSize info.srcIP)) =
        some (info.ssrc, [(rtcpPacketTypeSDESCNAME, dottedDecimal info.srcIP)]) ↔
      ∀ k < 14, left (10 + (dottedDecimal info.srcIP).length + k) = 0 := by
  have bound := length_dottedDecimal info.srcIP
  have counted : (UInt8.ofNat (dottedDecimal info.srcIP).length).toNat = (dottedDecimal info.srcIP).length := by
    rw [UInt8.toNat_ofNat']
    omega
  let behind := (List.range 14).map (fun k => left (10 + (dottedDecimal info.srcIP).length + k)) ++
    List.replicate (1 + uiPadding info.srcIP) 0
  have isItem : rtcpPacketTypeSDESCNAME ≠ 0 := by decide
  have item := parseItems_item isItem counted behind
  have whole : blockBytes (fillSourceDescription info) left (sourceDescriptionSize info.srcIP) =
      [0x81, rtcpPacketTypeSDES] ++
        store16 (mtalSwap16 (UInt16.ofNat (sourceDescriptionSize info.srcIP / 4 - 1))) ++
        store32 (mtalSwap32 info.ssrc) ++
        (rtcpPacketTypeSDESCNAME :: UInt8.ofNat (dottedDecimal info.srcIP).length ::
          dottedDecimal info.srcIP ++ behind) := by
    rw [blockBytes_eq]
    simp [descriptionFront, behind]
  have gap : parseItems behind = some [] ↔ _ := parseItems_gap_iff left _ _
  rw [whole, parseSDES_header, item, ← gap]
  cases parseItems behind with
  | none => simp
  | some items => simp

theorem announcedLength_eq (info : RTPStreamInfo) :
    (announcedLength (fillSourceDescription info)).toNat = sourceDescriptionSize info.srcIP / 4 - 1 := by
  let usLength := UInt16.ofNat (sourceDescriptionSize info.srcIP / 4 - 1)
  have bound := length_dottedDecimal info.srcIP
  have size := sourceDescriptionSize_eq info.srcIP
  have stored := holds_between [0x81, rtcpPacketTypeSDES] (store16 (mtalSwap16 usLength)) (store32 (mtalSwap32 info.ssrc) ++
    [rtcpPacketTypeSDESCNAME, UInt8.ofNat (dottedDecimal info.srcIP).length] ++ dottedDecimal info.srcIP)
  have front : load16 (fun a => (fillSourceDescription info a).getD 0) 2 =
      load16 (fun a => (descriptionFront info).getD a 0) 2 := by
    simp only [load16, List.getD_eq_getElem?_getD]
    rw [fill_front (by omega), fill_front (by omega)]
  have read : load16 (fun a => (descriptionFront info).getD a 0) 2 = mtalSwap16 usLength := by
    simpa [descriptionFront] using holds_store16.mp stored
  unfold announcedLength
  rw [front, read, mtalSwap16_swap16, UInt16.toNat_ofNat']
  omega

theorem announced_iff (info : RTPStreamInfo) :
    sourceDescriptionSize info.srcIP = 4 * ((announcedLength (fillSourceDescription info)).toNat + 1) ↔
      (dottedDecimal info.srcIP).length % 2 = 1 := by
  have size := sourceDescriptionSize_eq info.srcIP
  rw [announcedLength_eq, ← words_iff]
  omega

/-- No block that is prepared is well formed: 14 of its bytes are never written. -/
theorem prepared_description_malformed {memory : Bool} {block : PacketBuffer}
    (prepared : (makeSourceDescription memory info).block = some block) :
    ¬ WellFormedSDES info (makeSourceDescription memory info).size block := by
  unfold makeSourceDescription at prepared ⊢
  split at prepared
  · rename_i isSource
    cases memory with
    | false => cases prepared
    | true =>
      have isFilled : fillSourceDescription info = block := Option.some.inj prepared
      rw [← isFilled]
      intro wellFormed
      have size := sourceDescriptionSize_eq info.srcIP
      have gap : fillSourceDescription info (10 + (dottedDecimal info.srcIP).length) = none :=
        fill_gap (Nat.le_refl _) (by omega)
      have written := wellFormed.initialised (10 + (dottedDecimal info.srcIP).length) (by
        rw [if_pos isSource]
        dsimp only
        omega)
      rw [gap] at written
      cases written
  · cases prepared

def shortAddressSource : RTPStreamInfo where
  cName := [83]
  maxSamplesPerPacket := 48
  rtcpSrcIP := 0x0A000001
  srcIP := 0x0A000001
  destIP := 0xEF010001
  ssrc := 0x0001A9F8
  samplingRate := 48000
  codec := .l24
  wordLength := 3
  nbOfChannels := 2
  source := true

theorem prepared_description_malformed_short :
    ¬ WellFormedSDES shortAddressSource (makeSourceDescription true shortAddressSource).size
      (fillSourceDescription shortAddressSource) :=
  prepared_description_malformed rfl

/-- Its block of 34 bytes announces 32. -/
theorem short_address_cut : isValid shortAddressSource = true ∧
    ¬ ∀ memory block, (makeSourceDescription memory shortAddressSource).block = some block →
      WellFormedSDES shortAddressSource (makeSourceDescription memory shortAddressSource).size block := by
  refine ⟨by decide, fun all => ?_⟩
  have words := (all true _ rfl).words
  have even : sourceDescriptionSize shortAddressSource.srcIP = 34 := by decide
  change sourceDescriptionSize shortAddressSource.srcIP % 4 = 0 at words
  rw [even] at words
  cases words

end RavennaLkm
