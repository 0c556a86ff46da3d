import TokenDealer.KiroHeaders

set_option autoImplicit true

namespace TokenDealer

open Incremental Utf8

/-- A frame of any headers and any payload. The checksums are whatever they are. -/
structure RawFrame where
  headers : List UInt8
  payload : List UInt8
  preludeCrc : Nat
  messageCrc : Nat
  fits : 16 + headers.length + payload.length < 256 ^ 4

namespace RawFrame

variable (frame : RawFrame)

def totalLen : Nat := 16 + frame.headers.length + frame.payload.length

def prelude : List UInt8 :=
  BigEndian.encode 4 frame.totalLen ++
    (BigEndian.encode 4 frame.headers.length ++ BigEndian.encode 4 frame.preludeCrc)

def encode : List UInt8 :=
  frame.prelude ++ (frame.headers ++ (frame.payload ++ BigEndian.encode 4 frame.messageCrc))

def event (text : Json.Text) : KiroEvent :=
  let headers := Kiro.parseKiroHeaders frame.headers
  { eventType := (Table.get ":event-type" headers).bind Json.Value.asStr
    messageType := (Table.get ":message-type" headers).bind Json.Value.asStr
    payload := (text.parse (lossyString frame.payload)).getD .null }

theorem length_prelude : frame.prelude.length = 12 := by
  simp only [prelude, List.length_append, BigEndian.length_encode]

theorem length_encode : frame.encode.length = frame.totalLen := by
  rw [encode, totalLen, List.length_append, List.length_append, List.length_append,
    length_prelude, BigEndian.length_encode]
  omega

variable (rest : List UInt8)

theorem totalLen_encode : Kiro.totalLen (frame.encode ++ rest) = frame.totalLen := by
  have hslice : (frame.encode ++ rest).extract 0 4 = BigEndian.encode 4 frame.totalLen := by
    rw [encode, prelude, List.append_assoc, List.append_assoc, ← List.nil_append (_ ++ _)]
    exact Kiro.extract_middle rfl (by simp only [BigEndian.length_encode]; rfl) _
  have hfits : frame.totalLen < 256 ^ 4 := frame.fits
  rw [Kiro.totalLen, hslice, BigEndian.decode_encode hfits]

theorem headersLen_encode : Kiro.headersLen (frame.encode ++ rest) = frame.headers.length := by
  have hslice : (frame.encode ++ rest).extract 4 8 = BigEndian.encode 4 frame.headers.length := by
    rw [encode, prelude, List.append_assoc, List.append_assoc, List.append_assoc]
    exact Kiro.extract_middle (BigEndian.length_encode 4 _)
      (by simp only [BigEndian.length_encode]) _
  have hfits := frame.fits
  rw [Kiro.headersLen, hslice, BigEndian.decode_encode (by omega)]

theorem event_encode (text : Json.Text) :
    Kiro.event text (frame.encode ++ rest) = frame.event text := by
  have hheaders : (frame.encode ++ rest).extract 12 (12 + frame.headers.length) =
      frame.headers := by
    rw [encode, List.append_assoc, List.append_assoc]
    exact Kiro.extract_middle frame.length_prelude (by rw [length_prelude]) _
  have hpayload : (frame.encode ++ rest).extract (12 + frame.headers.length)
      (frame.totalLen - 4) = frame.payload := by
    have hfront : (frame.prelude ++ frame.headers).length = 12 + frame.headers.length := by
      rw [List.length_append, length_prelude]
    rw [encode, List.append_assoc, List.append_assoc, ← List.append_assoc,
      List.append_assoc frame.payload]
    exact Kiro.extract_middle hfront (by rw [hfront, totalLen]; omega) _
  rw [Kiro.event, totalLen_encode, headersLen_encode, hheaders, hpayload]
  rfl

/-- A frame comes off the front of what begins with it, whatever comes behind. -/
theorem cut_encode (text : Json.Text) :
    (Kiro.cutter text).cut (frame.encode ++ rest) = .frame (frame.event text) rest := by
  rw [Kiro.cutter_cut, Kiro.cut_eq_frame, totalLen_encode, headersLen_encode, event_encode,
    List.length_append, length_encode, List.drop_left' frame.length_encode, totalLen]
  exact ⟨by omega, by omega, by omega, rfl, rfl⟩

end RawFrame

inductive KiroHeaderValue where
  | bool (b : Bool)
  | i8 (n : Int8)
  | string (s : String) (fits : (Utf8.encode s.toList).length < 256 ^ 2)

structure KiroHeader where
  name : String
  value : KiroHeaderValue
  fits : (Utf8.encode name.toList).length < 256

namespace KiroHeaderValue

def typ : KiroHeaderValue → UInt8
  | bool b => if b then 0 else 1
  | i8 _ => 2
  | string _ _ => 7

def body : KiroHeaderValue → List UInt8
  | bool _ => []
  | i8 n => [n.toUInt8]
  | string s _ =>
    let bytes := Utf8.encode s.toList
    BigEndian.encode 2 bytes.length ++ bytes

def toJson : KiroHeaderValue → Json.Value
  | bool b => .bool b
  | i8 n => .ofI8 n
  | string s _ => .string s

end KiroHeaderValue

def KiroHeader.encode (h : KiroHeader) : List UInt8 :=
  let bytes := Utf8.encode h.name.toList
  UInt8.ofNat bytes.length :: (bytes ++ h.value.typ :: h.value.body)

def encodeHeaders (headers : List KiroHeader) : List UInt8 := headers.flatMap KiroHeader.encode

/-- A frame with a JSON text for its payload. The checksums are whatever they are. -/
structure KiroFrame (text : Json.Text) where
  headers : List KiroHeader
  payloadText : String
  payload : Json.Value
  preludeCrc : Nat
  messageCrc : Nat
  parses : text.parse payloadText = some payload
  fits : 16 + (encodeHeaders headers).length + (Utf8.encode payloadText.toList).length < 256 ^ 4

namespace KiroFrame

variable {text : Json.Text}

/-- The last header of a name counts, if it is a string. -/
def stringHeader (frame : KiroFrame text) (name : String) : Option String :=
  match frame.headers.reverse.find? fun header => header.name = name with
  | some ⟨_, .string s _, _⟩ => some s
  | _ => none

def payloadBytes (frame : KiroFrame text) : List UInt8 := Utf8.encode frame.payloadText.toList

def totalLen (frame : KiroFrame text) : Nat :=
  16 + (encodeHeaders frame.headers).length + frame.payloadBytes.length

def prelude (frame : KiroFrame text) : List UInt8 :=
  BigEndian.encode 4 frame.totalLen ++
    (BigEndian.encode 4 (encodeHeaders frame.headers).length ++
      BigEndian.encode 4 frame.preludeCrc)

def encode (frame : KiroFrame text) : List UInt8 :=
  frame.prelude ++ (encodeHeaders frame.headers ++ (frame.payloadBytes ++
    BigEndian.encode 4 frame.messageCrc))

def event (frame : KiroFrame text) : KiroEvent where
  eventType := frame.stringHeader ":event-type"
  messageType := frame.stringHeader ":message-type"
  payload := frame.payload

end KiroFrame

namespace Kiro

/-- A header as bytes, which are valid text. -/
def rawHeaderValue : KiroHeaderValue → RawHeaderValue
  | .bool b => .bool b
  | .i8 n => .i8 n
  | .string s fits => .string (Utf8.encode s.toList) fits

def rawHeader (h : KiroHeader) : RawHeader where
  name := Utf8.encode h.name.toList
  value := rawHeaderValue h.value
  fits := h.fits

theorem encode_rawHeader (h : KiroHeader) : (rawHeader h).encode = h.encode := by
  obtain ⟨name, value, fits⟩ := h
  cases value <;> rfl

theorem entry_rawHeader (h : KiroHeader) : (rawHeader h).entry = (h.name, h.value.toJson) := by
  obtain ⟨name, value, fits⟩ := h
  have hname : lossyString (Utf8.encode name.toList) = name := lossyString_encode name
  cases value with
  | bool b => exact congrArg (·, _) hname
  | i8 n => exact congrArg (·, _) hname
  | string s fits =>
    exact congrArg₂ Prod.mk hname (congrArg Json.Value.string (lossyString_encode s))

theorem header_reads (h : KiroHeader) : header.Reads h.encode (h.name, h.value.toJson) := by
  have hread := (rawHeader h).reads
  rwa [encode_rawHeader, entry_rawHeader] at hread

/-- Encoded headers are all read, and a lookup finds the last one of its name. -/
theorem get_parseKiroHeaders (headers : List KiroHeader) (name : String) :
    Table.get name (parseKiroHeaders (encodeHeaders headers)) =
      (headers.reverse.find? fun header => header.name = name).map fun header =>
        header.value.toJson := by
  have hdrain : headerCutter.drain (encodeHeaders headers) =
      some (headers.map fun h => (h.name, h.value.toJson), []) := by
    have hframes := headerCutter.drain_frames KiroHeader.encode
      (fun h => (h.name, h.value.toJson))
      (fun h rest => Cutter.ofReader_reads (header_reads h) rest) headers []
    rw [List.append_nil] at hframes
    rw [encodeHeaders, hframes, headerCutter.drain_more rfl, Cutter.prepend_some, List.append_nil]
  rw [parseKiroHeaders, hdrain]
  dsimp only
  rw [Table.get_setAll, ← List.map_reverse, List.find?_map, Table.get_nil, Option.or_none,
    Option.map_map]
  rfl

theorem get_stringHeader {text : Json.Text} (frame : KiroFrame text) (name : String) :
    (Table.get name (parseKiroHeaders (encodeHeaders frame.headers))).bind Json.Value.asStr =
      frame.stringHeader name := by
  rw [get_parseKiroHeaders, KiroFrame.stringHeader]
  cases frame.headers.reverse.find? fun header => decide (header.name = name) with
  | none => rfl
  | some found =>
    obtain ⟨name, value, fits⟩ := found
    cases value <;> rfl

variable {text : Json.Text} (frame : KiroFrame text) (rest : List UInt8)

/-- A frame with its headers and its payload as bytes. -/
def rawFrame : RawFrame where
  headers := encodeHeaders frame.headers
  payload := frame.payloadBytes
  preludeCrc := frame.preludeCrc
  messageCrc := frame.messageCrc
  fits := frame.fits

theorem encode_rawFrame : (rawFrame frame).encode = frame.encode := rfl

theorem event_rawFrame : (rawFrame frame).event text = frame.event := by
  have hpayloadStr : lossyString frame.payloadBytes = frame.payloadText :=
    lossyString_encode frame.payloadText
  simp only [RawFrame.event, rawFrame, hpayloadStr, frame.parses, get_stringHeader]
  rfl

theorem cut_encode : (cutter text).cut (frame.encode ++ rest) = .frame frame.event rest := by
  rw [← encode_rawFrame, RawFrame.cut_encode, event_rawFrame]

/-- Frames of any kind, in whatever chunks they and what stands behind them arrive. -/
theorem readEvents_rawFrames (text : Json.Text) (frames : List RawFrame) {tail : List UInt8}
    {chunks : List (List UInt8)} (h : chunks.flatten = frames.flatMap RawFrame.encode ++ tail) :
    readEvents text [] chunks =
      Cutter.prepend (frames.map fun frame => frame.event text) ((cutter text).drain tail) := by
  have hframes := (cutter text).drain_frames RawFrame.encode (fun frame => frame.event text)
    (fun frame rest => frame.cut_encode rest text) frames tail
  rw [readEvents_eq_feed, (cutter text).feed_eq_drain rfl, List.nil_append, h, hframes]

/-- Whatever chunks the bytes of some frames arrive in, each frame gives its event once and in
order, and nothing stays behind. -/
theorem readEvents_frames (frames : List (KiroFrame text)) {chunks : List (List UInt8)}
    (h : chunks.flatten = frames.flatMap KiroFrame.encode) :
    readEvents text [] chunks = some (frames.map KiroFrame.event, []) := by
  have hframes := (cutter text).drain_frames KiroFrame.encode KiroFrame.event cut_encode frames []
  rw [List.append_nil] at hframes
  rw [readEvents_eq_feed, (cutter text).feed_eq_drain rfl, List.nil_append, h, hframes,
    (cutter text).drain_more rfl, Cutter.prepend_some, List.append_nil]

/-- An answer of two letters, with the checksums the service puts on it. -/
def sampleFrame : KiroFrame Json.sampleText where
  headers :=
    [⟨":event-type", .string "assistantResponseEvent" (by decide), by decide⟩,
      ⟨":content-type", .string "application/json" (by decide), by decide⟩,
      ⟨":message-type", .string "event" (by decide), by decide⟩]
  payloadText := Json.sampleSource
  payload := Json.sampleObject
  preludeCrc := 1004392312
  messageCrc := 270075106
  parses := Json.parse_sampleSource
  fits := by decide

theorem readEvents_frames_sample :
    readEvents Json.sampleText []
        [sampleFrame.encode.take 5, sampleFrame.encode.drop 5 ++ sampleFrame.encode] =
      some ([⟨some "assistantResponseEvent", some "event", Json.sampleObject⟩,
        ⟨some "assistantResponseEvent", some "event", Json.sampleObject⟩], []) := by
  apply readEvents_frames [sampleFrame, sampleFrame]
  rw [List.flatten_cons, List.flatten_singleton, ← List.append_assoc, List.take_append_drop,
    List.flatMap_cons, List.flatMap_singleton]

end Kiro

end TokenDealer
