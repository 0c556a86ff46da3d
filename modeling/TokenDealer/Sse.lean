import TokenDealer.AppError
import TokenDealer.Canonical
import TokenDealer.Delimited
import TokenDealer.Str
import TokenDealer.Utf8

set_option autoImplicit true

namespace TokenDealer

open Incremental

def newline : UInt8 := 10

/-- What an adapter does with the events of a stream: how it starts, whether it knows the marker
of the end, what it puts out for one JSON value and what at the end of the stream. -/
structure StreamMachine where
  State : Type
  init : State
  skipsDone : Bool
  onValue : State → Json.Value → State × List CanonicalChunk
  finish : State → List CanonicalChunk

namespace StreamMachine

variable (m : StreamMachine) (text : Json.Text)

/-- The JSON value on a line of an event, if the line has one. -/
def dataValue (line : String) : Option Json.Value :=
  match Str.stripPrefix "data: " line with
  | none => none
  | some data => if m.skipsDone && data = "[DONE]" then none else text.parse data

def onLine (s : m.State) (line : String) : m.State × List CanonicalChunk :=
  match m.dataValue text line with
  | none => (s, [])
  | some v => m.onValue s v

def onEvent (s : m.State) (raw : List UInt8) : m.State × List CanonicalChunk :=
  emit (m.onLine text) s (Str.lines (Utf8.lossyString raw))

/-- The events whose closing blank line has arrived, and what is left in the buffer. -/
def drainEvents (buf : List UInt8) : List (List UInt8) × List UInt8 :=
  match (pairCutter newline).drain buf with
  | none => ([], buf)
  | some drained => drained

/-- The read loop: a chunk goes behind what the buffer still holds, and its events are worked
through. An error ends the stream. -/
def streamFrom : List UInt8 → m.State → List (AppResult (List UInt8)) →
    List (AppResult CanonicalChunk)
  | _, s, [] => (m.finish s).map .ok
  | _, _, .error e :: _ => [.error e]
  | buf, s, .ok chunk :: rest =>
    let (events, left) := drainEvents (buf ++ chunk)
    let (s', out) := emit (m.onEvent text) s events
    out.map .ok ++ streamFrom left s' rest

def stream (input : List (AppResult (List UInt8))) : List (AppResult CanonicalChunk) :=
  m.streamFrom text [] m.init input

/-- The JSON values of an event, in order. -/
def eventValues (raw : List UInt8) : List Json.Value :=
  (Str.lines (Utf8.lossyString raw)).filterMap (m.dataValue text)

/-- What the machine makes of the values of all events, the end of the stream included. -/
def parseEvents (events : List (List UInt8)) : List CanonicalChunk :=
  let (s, out) := emit m.onValue m.init (events.flatMap (m.eventValues text))
  out ++ m.finish s

theorem drain_newline (buf : List UInt8) :
    (pairCutter newline).drain buf = some (drainEvents buf) := by
  obtain ⟨blocks, rest, hdrain, -⟩ := drain_blocks (d := newline) buf
  rw [drainEvents, hdrain]

theorem onEvent_eq (s : m.State) (raw : List UInt8) :
    m.onEvent text s raw = emit m.onValue s (m.eventValues text raw) := by
  refine emit_filterMap ?_ ?_ s _
  · intro s line h
    rw [onLine, h]
  · intro s line v h
    rw [onLine, h]

theorem emit_onEvent (s : m.State) (events : List (List UInt8)) :
    emit (m.onEvent text) s events = emit m.onValue s (events.flatMap (m.eventValues text)) :=
  emit_flatMap (m.onEvent_eq text) s events

theorem drainEvents_append (buf more : List UInt8) :
    drainEvents (buf ++ more) =
      ((drainEvents buf).1 ++ (drainEvents ((drainEvents buf).2 ++ more)).1,
        (drainEvents ((drainEvents buf).2 ++ more)).2) := by
  have h := (pairCutter newline).drain_append buf more
  rw [drain_newline, drain_newline buf] at h
  dsimp only at h
  rw [drain_newline] at h
  exact Option.some.inj h

/-- What was left over has no whole event in it. -/
theorem drainEvents_left (buf : List UInt8) :
    drainEvents (drainEvents buf).2 = ([], (drainEvents buf).2) := by
  have h := (pairCutter newline).drain_more ((pairCutter newline).drain_left (drain_newline buf))
  rw [drain_newline] at h
  exact Option.some.inj h

/-- What a stream puts out for the events of all that arrives, and how it ends: with the error of
its input, or with what the machine puts out then. -/
theorem streamFrom_eq {buf : List UInt8} (hbuf : drainEvents buf = ([], buf)) (s : m.State)
    (input : List (AppResult (List UInt8))) :
    m.streamFrom text buf s input =
      (emit (m.onEvent text) s (drainEvents (buf ++ (received input).flatten)).1).2.map .ok ++
        (match failure input with
          | none => (m.finish (emit (m.onEvent text) s
              (drainEvents (buf ++ (received input).flatten)).1).1).map .ok
          | some e => [.error e]) := by
  induction input generalizing buf s with
  | nil =>
    rw [received, List.flatten_nil, List.append_nil, hbuf]
    · rfl
    · intro _ _ h
      cases h
  | cons item input ih =>
    cases item with
    | error e =>
      rw [received, List.flatten_nil, List.append_nil, hbuf]
      · rfl
      · intro _ _ h
        cases h
    | ok chunk =>
      rw [received, List.flatten_cons, ← List.append_assoc, drainEvents_append (buf ++ chunk),
        emit_append, streamFrom, failure]
      dsimp only
      rw [ih (drainEvents_left _), List.map_append, List.append_assoc]

/-- However a stream of blocks is cut, what comes out is the parse of the blocks. -/
theorem stream_blocks {chunks : List (List UInt8)} {events : List (List UInt8)}
    (h : Blocks newline chunks.flatten events rest) :
    m.stream text (chunks.map .ok) = (m.parseEvents text events).map .ok := by
  have hdrain : drainEvents chunks.flatten = (events, rest) :=
    Option.some.inj ((drain_newline _).symm.trans h.drain)
  rw [stream, streamFrom_eq m text rfl, received_ok, failure_ok, List.nil_append, hdrain,
    emit_onEvent, parseEvents, List.map_append]

end StreamMachine

end TokenDealer
