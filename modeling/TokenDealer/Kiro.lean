import TokenDealer.Canonical
import TokenDealer.Reader
import TokenDealer.Str
import TokenDealer.Utf8

set_option autoImplicit true

namespace TokenDealer

open Incremental Utf8

structure KiroEvent where
  eventType : Option String
  messageType : Option String
  payload : Json.Value
  deriving Repr

namespace Kiro

def headerValue (typ : UInt8) : Reader UInt8 Json.Value :=
  if typ = 0 ∨ typ = 1 then pure (.bool (typ = 0))
  else if typ = 2 then do
    let v ← Reader.item
    pure (.ofI8 v.toInt8)
  else if typ = 7 then do
    let len ← Reader.take 2
    let s ← Reader.take (BigEndian.decode len)
    pure (.string (lossyString s))
  else Reader.fail

/-- One turn of the header loop. -/
def header : Reader UInt8 (String × Json.Value) := do
  let nameLen ← Reader.item
  let name ← Reader.take nameLen.toNat
  let typ ← Reader.item
  let value ← headerValue typ
  pure (lossyString name, value)

def headerCutter : Cutter UInt8 (String × Json.Value) :=
  Cutter.ofReader header Reader.length_item_bind_lt

/-- Headers are read until one is cut short or of a type that is not supported; what was read up
to there counts, and the last value under a name. -/
def parseKiroHeaders (raw : List UInt8) : List (String × Json.Value) :=
  match headerCutter.drain raw with
  | none => []
  | some (headers, _) => Table.setAll headers []

def totalLen (buf : List UInt8) : Nat := BigEndian.decode (buf.extract 0 4)

def headersLen (buf : List UInt8) : Nat := BigEndian.decode (buf.extract 4 8)

variable (text : Json.Text)

/-- The event of the frame at the front of a buffer. -/
def event (buf : List UInt8) : KiroEvent :=
  let payloadStr := lossyString (buf.extract (12 + headersLen buf) (totalLen buf - 4))
  let headers := parseKiroHeaders (buf.extract 12 (12 + headersLen buf))
  { eventType := (Table.get ":event-type" headers).bind Json.Value.asStr
    messageType := (Table.get ":message-type" headers).bind Json.Value.asStr
    payload := (text.parse payloadStr).getD .null }

/-- One turn of the frame loop. A payload that ends before it starts is a slice the program
panics on. -/
def cut (buf : List UInt8) : Cut UInt8 KiroEvent :=
  if buf.length < 12 then .more
  else if totalLen buf < 16 ∨ totalLen buf < headersLen buf + 12 ∨ buf.length < totalLen buf then
    .more
  else if totalLen buf - 4 < 12 + headersLen buf then .refuse
  else .frame (event text buf) (buf.drop (totalLen buf))

theorem extract_append {xs : List α} (h : b ≤ xs.length) (more : List α) (a : Nat) :
    (xs ++ more).extract a b = xs.extract a b := by
  rw [List.extract_eq_take_drop, List.extract_eq_take_drop]
  by_cases hab : a ≤ b
  · rw [List.drop_append_of_le_length (by omega),
      List.take_append_of_le_length (by rw [List.length_drop]; omega)]
  · rw [show b - a = 0 by omega, List.take_zero, List.take_zero]

theorem extract_middle {front mid : List α} (hfront : front.length = a)
    (hmid : front.length + mid.length = b) (back : List α) :
    (front ++ (mid ++ back)).extract a b = mid := by
  rw [List.extract_eq_take_drop, List.drop_left' hfront, List.take_left' (by omega)]

theorem cut_eq_frame : cut text buf = .frame e rest ↔
    16 ≤ totalLen buf ∧ headersLen buf + 16 ≤ totalLen buf ∧ totalLen buf ≤ buf.length ∧
      e = event text buf ∧ rest = buf.drop (totalLen buf) := by
  rw [cut]
  split
  · exact iff_of_false nofun fun ⟨h16, _, hlen, _⟩ => by omega
  · split
    · exact iff_of_false nofun fun ⟨h16, hh, hlen, _⟩ => by omega
    · split
      · exact iff_of_false nofun fun ⟨_, hh, _, _⟩ => by omega
      · constructor
        · intro h
          cases h
          exact ⟨by omega, by omega, by omega, rfl, rfl⟩
        · intro h
          obtain ⟨-, -, -, rfl, rfl⟩ := h
          rfl

theorem cut_eq_refuse : cut text buf = .refuse ↔
    16 ≤ totalLen buf ∧ headersLen buf + 12 ≤ totalLen buf ∧
      totalLen buf < headersLen buf + 16 ∧ totalLen buf ≤ buf.length := by
  rw [cut]
  split
  · exact iff_of_false nofun fun ⟨h16, _, _, hlen⟩ => by omega
  · split
    · exact iff_of_false nofun fun ⟨h16, hh, _, hlen⟩ => by omega
    · split
      · exact iff_of_true rfl ⟨by omega, by omega, by omega, by omega⟩
      · exact iff_of_false nofun fun ⟨_, _, hh, _⟩ => by omega

section Append

variable {buf : List UInt8} (more : List UInt8)

theorem totalLen_append (h : 4 ≤ buf.length) : totalLen (buf ++ more) = totalLen buf := by
  rw [totalLen, totalLen, extract_append h]

theorem headersLen_append (h : 8 ≤ buf.length) : headersLen (buf ++ more) = headersLen buf := by
  rw [headersLen, headersLen, extract_append h]

theorem event_append (h : 8 ≤ buf.length) (hheaders : 12 + headersLen buf ≤ buf.length)
    (htotal : totalLen buf ≤ buf.length) : event text (buf ++ more) = event text buf := by
  rw [event, event, totalLen_append more (by omega), headersLen_append more h,
    extract_append hheaders, extract_append (by omega)]

end Append

/-- Frames come off a buffer one by one. -/
def cutter : Cutter UInt8 KiroEvent where
  cut := cut text
  shrinks {buf e rest} h := by
    obtain ⟨h16, -, hlen, -, rfl⟩ := (cut_eq_frame text).mp h
    rw [List.length_drop]
    omega
  frame_append {buf e rest} more h := by
    obtain ⟨h16, hh, hlen, rfl, rfl⟩ := (cut_eq_frame text).mp h
    apply (cut_eq_frame text).mpr
    rw [totalLen_append more (by omega), headersLen_append more (by omega),
      event_append text more (by omega) (by omega) (by omega), List.length_append,
      List.drop_append_of_le_length hlen]
    exact ⟨h16, hh, by omega, rfl, rfl⟩
  refuse_append {buf} more h := by
    obtain ⟨h16, hh, hshort, hlen⟩ := (cut_eq_refuse text).mp h
    apply (cut_eq_refuse text).mpr
    rw [totalLen_append more (by omega), headersLen_append more (by omega), List.length_append]
    exact ⟨h16, hh, hshort, by omega⟩

theorem cutter_cut (buf : List UInt8) : (cutter text).cut buf = cut text buf := rfl

/-- The events of a buffer's whole frames and the rest of the buffer, or nothing on a panic. -/
def parseKiroEvents (buf : List UInt8) : Option (List KiroEvent × List UInt8) :=
  (cutter text).drain buf

/-- The read loop: a chunk goes behind what the buffer still holds, and events come out. -/
def readEvents : List UInt8 → List (List UInt8) → Option (List KiroEvent × List UInt8)
  | buf, [] => some ([], buf)
  | buf, chunk :: chunks =>
    match parseKiroEvents text (buf ++ chunk) with
    | none => none
    | some (events, left) => Cutter.prepend events (readEvents left chunks)

theorem readEvents_eq_feed (buf : List UInt8) (chunks : List (List UInt8)) :
    readEvents text buf chunks = (cutter text).feed buf chunks := by
  induction chunks generalizing buf with
  | nil => rfl
  | cons chunk chunks ih =>
    rw [readEvents, parseKiroEvents, Cutter.feed]
    cases (cutter text).drain (buf ++ chunk) with
    | none => rfl
    | some p => exact congrArg (Cutter.prepend p.1) (ih p.2)

end Kiro

end TokenDealer
