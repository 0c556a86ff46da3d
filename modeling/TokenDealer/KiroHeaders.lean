import TokenDealer.KiroSlices

set_option autoImplicit true

namespace TokenDealer

open Incremental Utf8

/-- A value of one of the supported types. -/
inductive RawHeaderValue where
  | bool (b : Bool)
  | i8 (n : Int8)
  | string (bytes : List UInt8) (fits : bytes.length < 256 ^ 2)

/-- A complete header of a supported type. Its name and a string in it need not be valid text. -/
structure RawHeader where
  name : List UInt8
  value : RawHeaderValue
  fits : name.length < 256

namespace RawHeaderValue

def typ : RawHeaderValue → UInt8
  | bool b => if b then 0 else 1
  | i8 _ => 2
  | string _ _ => 7

def body : RawHeaderValue → List UInt8
  | bool _ => []
  | i8 n => [n.toUInt8]
  | string bytes _ => BigEndian.encode 2 bytes.length ++ bytes

def toJson : RawHeaderValue → Json.Value
  | bool b => .bool b
  | i8 n => .ofI8 n
  | string bytes _ => .string (lossyString bytes)

theorem reads (v : RawHeaderValue) : (Kiro.headerValue v.typ).Reads v.body v.toJson := by
  cases v with
  | bool b => cases b <;> exact Reader.reads_pure _
  | i8 n =>
    have hread := (Reader.reads_item n.toUInt8).map fun b => Json.Value.ofI8 b.toInt8
    rw [Int8.toInt8_toUInt8] at hread
    exact hread
  | string bytes fits =>
    have hlen : BigEndian.decode (BigEndian.encode 2 bytes.length) = bytes.length :=
      BigEndian.decode_encode fits
    have hread := (Reader.reads_take hlen.symm).map fun bytes =>
      Json.Value.string (lossyString bytes)
    exact (Reader.reads_take (BigEndian.length_encode 2 _)).bind hread

/-- Nothing but a value of the type is read as one. -/
theorem of_read {t : UInt8} (h : (Kiro.headerValue t).read xs = some (json, rest)) :
    ∃ v : RawHeaderValue, v.typ = t ∧ xs = v.body ++ rest ∧ json = v.toJson := by
  rw [Kiro.headerValue] at h
  split at h
  · next htyp =>
    obtain ⟨rfl, rfl⟩ := Reader.read_pure_eq_some h
    rcases htyp with rfl | rfl
    · exact ⟨.bool true, rfl, rfl, rfl⟩
    · exact ⟨.bool false, rfl, rfl, rfl⟩
  · split at h
    · next htyp =>
      obtain ⟨n, mid, hitem, h⟩ := Reader.read_bind_eq_some h
      obtain ⟨rfl, rfl⟩ := Reader.read_pure_eq_some h
      exact ⟨.i8 n.toInt8, htyp.symm, Reader.read_item_eq_some hitem, rfl⟩
    · split at h
      · next htyp =>
        obtain ⟨len, mid, hlen, h⟩ := Reader.read_bind_eq_some h
        obtain ⟨bytes, mid', hbytes, h⟩ := Reader.read_bind_eq_some h
        obtain ⟨rfl, rfl⟩ := Reader.read_pure_eq_some h
        obtain ⟨rfl, hwidth⟩ := Reader.read_take_eq_some hlen
        obtain ⟨rfl, hlength⟩ := Reader.read_take_eq_some hbytes
        have hfits : bytes.length < 256 ^ 2 := by
          rw [hlength, ← hwidth]
          exact BigEndian.decode_lt len
        have hdigits : BigEndian.encode 2 bytes.length = len := by
          have hencode := BigEndian.encode_decode len
          rw [hwidth] at hencode
          rw [hlength, hencode]
        refine ⟨.string bytes hfits, htyp.symm, ?_, rfl⟩
        rw [body, hdigits, List.append_assoc]
      · cases h

end RawHeaderValue

namespace RawHeader

def encode (h : RawHeader) : List UInt8 :=
  UInt8.ofNat h.name.length :: (h.name ++ h.value.typ :: h.value.body)

/-- What a header puts into the map. -/
def entry (h : RawHeader) : String × Json.Value := (lossyString h.name, h.value.toJson)

theorem reads (h : RawHeader) : Kiro.header.Reads h.encode h.entry := by
  have hlen : h.name.length = (UInt8.ofNat h.name.length).toNat := by
    rw [UInt8.toNat_ofNat', Nat.mod_eq_of_lt h.fits]
  have hvalue := h.value.reads.map fun value => (lossyString h.name, value)
  exact (Reader.reads_item _).bind ((Reader.reads_take hlen).bind
    ((Reader.reads_item _).bind hvalue))

theorem of_read (h : Kiro.header.read xs = some (e, rest)) :
    ∃ header : RawHeader, xs = header.encode ++ rest ∧ e = header.entry := by
  obtain ⟨nameLen, afterLen, hlen, h⟩ := Reader.read_bind_eq_some h
  obtain ⟨name, afterName, hname, h⟩ := Reader.read_bind_eq_some h
  obtain ⟨typ, afterTyp, htyp, h⟩ := Reader.read_bind_eq_some h
  obtain ⟨json, afterValue, hvalue, h⟩ := Reader.read_bind_eq_some h
  obtain ⟨rfl, rfl⟩ := Reader.read_pure_eq_some h
  obtain ⟨value, rfl, hbody, rfl⟩ := RawHeaderValue.of_read hvalue
  obtain ⟨hfront, hlength⟩ := Reader.read_take_eq_some hname
  have hcount : UInt8.ofNat name.length = nameLen := by rw [hlength, UInt8.ofNat_toNat]
  refine ⟨⟨name, value, hlength ▸ nameLen.toNat_lt⟩, ?_, rfl⟩
  rw [Reader.read_item_eq_some hlen, hfront, Reader.read_item_eq_some htyp, hbody, encode,
    hcount, List.cons_append, List.append_assoc, List.cons_append]

/-- The header loop takes complete headers off its bytes, and nothing else. -/
theorem words : Kiro.headerCutter.Words encode entry := Cutter.ofReader_words reads of_read

end RawHeader

/-- The map has each name once, with the value of the last header of the name. -/
structure HoldsLast (headers : List RawHeader) (map : List (String × Json.Value)) : Prop where
  distinct : (map.map Prod.fst).Nodup
  entries : ∀ name value, (name, value) ∈ map ↔ ∃ front header back,
    headers = front ++ header :: back ∧ header.entry = (name, value) ∧
      ∀ other ∈ back, lossyString other.name ≠ name

namespace Kiro

theorem holdsLast_setAll (headers : List RawHeader) :
    HoldsLast headers (Table.setAll (headers.map RawHeader.entry) []) := by
  refine ⟨Table.nodup_setAll _ List.nodup_nil, ?_⟩
  intro name value
  rw [Table.mem_setAll]
  constructor
  · rintro ⟨front, back, hsplit, hback⟩
    obtain ⟨before, rest, rfl, rfl, hrest⟩ := List.map_eq_append_iff.mp hsplit
    obtain ⟨header, behind, rfl, hentry, rfl⟩ := List.map_eq_cons_iff.mp hrest
    refine ⟨before, header, behind, rfl, hentry, ?_⟩
    intro other hother
    exact hback _ (List.mem_map_of_mem hother)
  · rintro ⟨front, header, back, rfl, hentry, hback⟩
    refine ⟨front.map RawHeader.entry, back.map RawHeader.entry, ?_, ?_⟩
    · rw [List.map_append, List.map_cons, hentry]
    · intro entry hentry
      obtain ⟨other, hother, rfl⟩ := List.mem_map.mp hentry
      exact hback other hother

/-- Whatever bytes the headers of a frame are, the parser returns, without an index or a slice out
of bounds, the complete headers at the front of them, up to the first that is cut short or of
another type. -/
theorem parseKiroHeaders_longest (raw : List UInt8) :
    ∃ map, Slices.parseKiroHeaders raw = some map ∧
      (∃ headers, Cutter.LongestFront RawHeader.encode raw headers) ∧
      ∀ headers, Cutter.LongestFront RawHeader.encode raw headers → HoldsLast headers map := by
  obtain ⟨entries, left, hdrain⟩ := headerCutter.exists_drain Cutter.ofReader_ne_refuse raw
  refine ⟨Table.setAll entries [], ?_, RawHeader.words.exists_longestFront hdrain, ?_⟩
  · rw [Slices.parseKiroHeaders_eq, parseKiroHeaders, hdrain]
  · intro headers hlongest
    rw [RawHeader.words.drain_longest hdrain hlongest]
    exact holdsLast_setAll headers

/-- Two headers of one name, and one that is cut short. -/
example : parseKiroHeaders [1, 0x61, 0, 1, 0x61, 1, 1, 0x62, 7, 0] = [("a", .bool false)] := rfl

end Kiro

end TokenDealer
