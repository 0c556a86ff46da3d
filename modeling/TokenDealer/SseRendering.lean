import Mathlib.Data.List.Basic
import TokenDealer.EventStream
import TokenDealer.StreamAdapters

set_option autoImplicit true

namespace TokenDealer

open Json Incremental EventStream

/-- What a JSON library documents of its parser: a carriage return behind a value is white space,
and the marker of the end is no value. -/
structure Tolerant (text : Json.Text) : Prop where
  carriage : ∀ s, text.parse (s ++ "\r") = text.parse s
  marker : text.parse "[DONE]" = none

/-- The loops that read an OpenAI-compatible stream. -/
inductive CompatLoop where
  | openai
  | generic
  deriving DecidableEq, Repr

namespace CompatLoop

variable (text : Json.Text) (ids : StreamId)

def adapter : CompatLoop → SseAdapter
  | openai => .openai
  | generic => .generic

def machine (loop : CompatLoop) : StreamMachine := loop.adapter.machine text ids

/-- The chunk of a payload. -/
def chunk (loop : CompatLoop) (v : Value) : Option CanonicalChunk :=
  match loop with
  | openai => OpenAi.parseOpenaiChunk text v ids.modelId
  | generic => (Generic.parseOpenaiCompatChunk text v ids.modelId).map (Generic.nameChunk ids)

/-- The chunks that the payload of a message stands for. -/
def meant (loop : CompatLoop) (payload : String) : Option CanonicalChunk :=
  (text.parse payload).bind (loop.chunk text ids)

/-- The chunk that a data line gives by itself. -/
def heardLine (loop : CompatLoop) (p : Piece) : Option CanonicalChunk :=
  if p.spaced then loop.meant text ids p.text else none

/-- The chunks that come out of a message: one for each line with a blank behind its colon, once a
bare line feed closes the message. -/
def heard (loop : CompatLoop) (m : Message) : List CanonicalChunk :=
  if m.bare then m.pieces.filterMap (loop.heardLine text ids) else []

theorem emit_chunk (loop : CompatLoop) (s : (loop.machine text ids).State) (vs : List Value) :
    (emit (loop.machine text ids).onValue s vs).2 = vs.filterMap (loop.chunk text ids) := by
  have honValue : ∀ s v,
      ((loop.machine text ids).onValue s v).2 = (loop.chunk text ids v).toList := by
    intro s v
    cases loop <;> rfl
  induction vs generalizing s with
  | nil => rfl
  | cons v vs ih =>
    simp only [emit]
    rw [honValue, ih, List.filterMap_cons]
    cases loop.chunk text ids v <;> rfl

theorem parseEvents_eq (loop : CompatLoop) (events : List (List UInt8)) :
    (loop.machine text ids).parseEvents text events =
      (events.flatMap ((loop.machine text ids).eventValues text)).filterMap
        (loop.chunk text ids) := by
  have hfinish : ∀ s, (loop.machine text ids).finish s = [] := by
    intro s
    cases loop <;> rfl
  rw [StreamMachine.parseEvents]
  dsimp only
  rw [emit_chunk, hfinish, List.append_nil]

/-- The chunk of a line as the loops read it. -/
def lineChunk (loop : CompatLoop) (line : List Char) : Option CanonicalChunk :=
  ((loop.machine text ids).dataValue text (String.ofList line)).bind (loop.chunk text ids)

variable {text} (htext : Tolerant text)

include htext in
theorem lineChunk_eq (loop : CompatLoop) (line : List Char) :
    loop.lineChunk text ids line =
      (Str.dropFront "data: ".toList line).bind fun data =>
        loop.meant text ids (String.ofList data) := by
  have hdone : (loop.machine text ids).skipsDone = true := by cases loop <;> rfl
  have hline : (String.ofList line).toList = line := String.toList_ofList
  rw [lineChunk, StreamMachine.dataValue, Str.stripPrefix, hline, hdone]
  cases Str.dropFront "data: ".toList line with
  | none => rfl
  | some data =>
    rw [Option.map_some, Option.bind_some, meant]
    dsimp only
    split
    · next hmarker =>
      rw [Bool.true_and, decide_eq_true_eq] at hmarker
      rw [hmarker, htext.marker]
    · rfl

include htext in
theorem lineChunk_content (loop : CompatLoop) (l : Line) :
    loop.lineChunk text ids l.content.toList = l.read (loop.heardLine text ids) := by
  have hfront : "data: ".toList = "data:".toList ++ [' '] := rfl
  rw [lineChunk_eq ids htext]
  obtain ⟨field, crlf⟩ := l
  cases field with
  | data piece =>
    change (Str.dropFront "data: ".toList piece.content.toList).bind _ =
      loop.heardLine text ids piece
    rw [Piece.content, heardLine]
    cases hspaced : piece.spaced with
    | true =>
      rw [if_pos rfl, if_pos rfl, String.toList_append, Str.dropFront_append, Option.bind_some,
        String.ofList_toList]
    | false =>
      rw [if_neg Bool.false_ne_true, if_neg Bool.false_ne_true, String.toList_append, hfront,
        Str.dropFront_append_front, Str.dropFront_append, Option.bind_some,
        Str.dropFront_singleton (piece.lead hspaced), Option.bind_none]
  | other line =>
    change (Str.dropFront "data: ".toList line.content.toList).bind _ = none
    have hother : Str.dropFront "data:".toList line.content.toList = none :=
      Option.not_isSome_iff_eq_none.mp (Bool.eq_false_iff.mp line.no_data)
    rw [hfront, Str.dropFront_append_front, hother, Option.bind_none, Option.bind_none]
  | blank => rfl

include htext in
theorem lineChunk_body (loop : CompatLoop) (l : Line) :
    loop.lineChunk text ids l.body = l.read (loop.heardLine text ids) := by
  rw [← lineChunk_content ids htext, Line.body]
  split
  · rw [lineChunk_eq ids htext, lineChunk_eq ids htext, Str.dropFront_concat (by decide)]
    cases Str.dropFront "data: ".toList l.content.toList with
    | none => rfl
    | some data =>
      have hcarriage := htext.carriage (String.ofList data)
      rw [Option.map_some, Option.bind_some, Option.bind_some, meant, meant, String.ofList_append,
        ← hcarriage]
  · rw [List.append_nil]

include htext in
/-- What comes out of a stream, whatever chunks it arrives in. -/
theorem stream_render (loop : CompatLoop) (ls : List Line) {chunks : List (List UInt8)}
    (h : chunks.flatten = render ls) :
    (loop.machine text ids).stream text (chunks.map .ok) =
      ((messages ls).flatMap (loop.heard text ids)).map .ok := by
  have hblocks := blocks_render ls
  rw [← h] at hblocks
  have hevent : ∀ group : List Line,
      ((loop.machine text ids).eventValues text
        (Utf8.encode (sepBy '\n' Line.body group))).filterMap (loop.chunk text ids) =
      (Str.lineList (sepBy '\n' Line.body group)).filterMap (loop.lineChunk text ids) := by
    intro group
    rw [StreamMachine.eventValues, Utf8.lossyString, Utf8.decodeLossy_encode, Str.lines,
      String.toList_ofList, List.filterMap_map, List.filterMap_filterMap]
    rfl
  rw [(loop.machine text ids).stream_blocks text hblocks, parseEvents_eq]
  apply congrArg (List.map Except.ok)
  rw [List.filterMap_flatMap, List.flatMap_map]
  simp only [hevent]
  exact flatMap_blocks (lineChunk_content ids htext loop) (lineChunk_body ids htext loop) ls

/-- A message of one line gives the chunk of its payload, or nothing where the line or its end is
not written as the loops expect it. -/
theorem heard_single (loop : CompatLoop) {m : Message} {p : Piece} (h : m.pieces = [p]) :
    loop.heard text ids m =
      if m.bare ∧ p.spaced then (loop.meant text ids m.payload).toList else [] := by
  have hpayload : m.payload = p.text := by
    rw [Message.payload, h]
    rfl
  rw [heard, h, hpayload, List.filterMap_cons, heardLine]
  cases m.bare with
  | false => rfl
  | true =>
    cases p.spaced with
    | false => rfl
    | true => cases hmeant : loop.meant text ids p.text <;> simp

/-- A message of several lines that say nothing by themselves gives nothing. -/
theorem heard_split (loop : CompatLoop) {m : Message}
    (hsplit : ∀ p ∈ m.pieces, loop.heardLine text ids p = none) :
    loop.heard text ids m = [] := by
  rw [heard, List.filterMap_eq_nil_iff.mpr hsplit, ite_self]

section Message

variable (loop : CompatLoop) {m : Message}
  (hsplit : ∀ p ∈ m.pieces, m.pieces ≠ [p] → loop.heardLine text ids p = none)

include hsplit in
theorem heard_eq_nil_or :
    loop.heard text ids m = [] ∨
      loop.heard text ids m = (loop.meant text ids m.payload).toList := by
  by_cases hsingle : ∃ p, m.pieces = [p]
  · obtain ⟨p, hp⟩ := hsingle
    rw [heard_single ids loop hp]
    split
    · exact .inr rfl
    · exact .inl rfl
  · exact .inl (heard_split ids loop fun p hp => hsplit p hp fun h => hsingle ⟨p, h⟩)

include hsplit in
theorem heard_eq_iff :
    loop.heard text ids m = (loop.meant text ids m.payload).toList ↔
      ((loop.meant text ids m.payload).isSome → m.bare ∧ ∃ p, m.pieces = [p] ∧ p.spaced) := by
  cases hmeant : loop.meant text ids m.payload with
  | none =>
    apply iff_of_true _ fun h => absurd h Bool.false_ne_true
    obtain h | h := heard_eq_nil_or ids loop hsplit
    · exact h
    · rw [h, hmeant]
  | some c =>
    rw [Option.isSome_some, forall_prop_of_true rfl]
    by_cases hsingle : ∃ p, m.pieces = [p]
    · obtain ⟨p, hp⟩ := hsingle
      rw [heard_single ids loop hp, hmeant, hp]
      simp
    · rw [heard_split ids loop fun p hp => hsplit p hp fun h => hsingle ⟨p, h⟩]
      apply iff_of_false (List.cons_ne_nil c []).symm
      intro h
      obtain ⟨-, p, hp, -⟩ := h
      exact hsingle ⟨p, hp⟩

end Message

/-- A rendering of some payloads is read as their chunks exactly if the lines that are heard
singly, in messages that a bare line feed closes, make up the chunks of the payloads. Where the
lines of a payload that is split say nothing by themselves, that is so exactly if every payload with
a chunk is written on one line, with a blank behind the colon, and a bare line feed closes it. -/
theorem rendering_read_iff (text : Json.Text) (htext : Tolerant text) (ids : StreamId)
    (loop : CompatLoop) (ls : List Line) (payloads : List String)
    (hpayloads : (messages ls).map Message.payload = payloads) (chunks : List (List UInt8))
    (hchunks : chunks.flatten = render ls) :
    ((loop.machine text ids).stream text (chunks.map .ok) =
        (payloads.filterMap (loop.meant text ids)).map .ok ↔
      (messages ls).flatMap (loop.heard text ids) =
        (messages ls).filterMap fun m => loop.meant text ids m.payload) ∧
    ((∀ m ∈ messages ls, ∀ p ∈ m.pieces, m.pieces ≠ [p] → loop.heardLine text ids p = none) →
      ((loop.machine text ids).stream text (chunks.map .ok) =
          (payloads.filterMap (loop.meant text ids)).map .ok ↔
        ∀ m ∈ messages ls, (loop.meant text ids m.payload).isSome →
          m.bare ∧ ∃ p, m.pieces = [p] ∧ p.spaced)) := by
  have hmap : ∀ {as bs : List CanonicalChunk},
      (as.map .ok : List (AppResult CanonicalChunk)) = bs.map .ok ↔ as = bs :=
    List.map_inj_right fun _ _ h => Except.ok.inj h
  rw [stream_render ids htext loop ls hchunks, hmap, ← hpayloads, List.filterMap_map]
  refine ⟨Iff.rfl, ?_⟩
  intro hsplit
  have hmeant : (messages ls).filterMap (loop.meant text ids ∘ Message.payload) =
      (messages ls).flatMap fun m => (loop.meant text ids m.payload).toList :=
    List.filterMap_eq_flatMap_toList _ _
  rw [hmeant, flatMap_eq_flatMap_iff fun m hm => heard_eq_nil_or ids loop (hsplit m hm)]
  exact forall₂_congr fun m hm => heard_eq_iff ids loop (hsplit m hm)

section Sample

def chunkSource : String :=
  "\x7b\"choices\":[\x7b\"delta\":\x7b\"content\":\"hi\"\x7d\x7d]\x7d"

def chunkObject : Value :=
  .object [("choices", .array [.object [("delta", .object [("content", .string "hi")])]])]

def jsonSpace (c : Char) : Bool := c = ' ' || c = '\t' || c = '\n' || c = '\r'

/-- A library that knows one object, with white space behind it or without. -/
def chunkText : Json.Text where
  print _ := chunkSource
  parse s :=
    if s.toList.reverse.dropWhile jsonSpace = chunkSource.toList.reverse then some chunkObject
    else none

theorem parse_chunkSource : chunkText.parse chunkSource = some chunkObject := by
  have hsource : chunkSource.toList.reverse.dropWhile jsonSpace = chunkSource.toList.reverse := by
    decide
  simp only [chunkText, hsource, if_true]

theorem tolerant_chunkText : Tolerant chunkText where
  carriage s := by
    have hreverse : (s ++ "\r").toList.reverse = '\r' :: s.toList.reverse := by
      rw [String.toList_append, List.reverse_append]
      rfl
    simp only [chunkText, hreverse, List.dropWhile_cons_of_pos (by decide : jsonSpace '\r' = true)]
  marker := by
    have hmarker : "[DONE]".toList.reverse.dropWhile jsonSpace ≠ chunkSource.toList.reverse := by
      decide
    simp only [chunkText, if_neg hmarker]

def chunkPiece : Piece where
  text := chunkSource
  spaced := true
  unbroken := ⟨by decide, by decide⟩
  lead := nofun

def sampleIds : StreamId := ⟨"m", "gpt-4o"⟩

theorem isSome_meant : (openai.meant chunkText sampleIds chunkSource).isSome := by
  rw [meant, parse_chunkSource]
  rfl

theorem rendering_read_sample :
    (openai.machine chunkText sampleIds).stream chunkText
        ([render [⟨.data chunkPiece, true⟩, ⟨.blank, false⟩]].map .ok) =
      ([chunkSource].filterMap (openai.meant chunkText sampleIds)).map .ok := by
  have h := (rendering_read_iff chunkText tolerant_chunkText sampleIds openai
    [⟨.data chunkPiece, true⟩, ⟨.blank, false⟩] [chunkSource] rfl
    [render [⟨.data chunkPiece, true⟩, ⟨.blank, false⟩]] (List.append_nil _)).2
  apply (h _).mpr
  · intro m hm _
    rw [List.mem_singleton.mp hm]
    exact ⟨rfl, chunkPiece, rfl, rfl⟩
  · intro m hm p hp hne
    rw [List.mem_singleton.mp hm] at hp hne
    rw [List.mem_singleton.mp hp] at hne
    exact absurd rfl hne

/-- With a carriage return in the blank line, nothing comes out at all. -/
theorem rendering_unread :
    ¬ ∀ (text : Json.Text), Tolerant text → ∀ (ids : StreamId) (loop : CompatLoop)
      (ls : List Line) (payloads : List String),
      (messages ls).map Message.payload = payloads → ∀ chunks : List (List UInt8),
      chunks.flatten = render ls →
      (loop.machine text ids).stream text (chunks.map .ok) =
        (payloads.filterMap (loop.meant text ids)).map .ok := by
  intro h
  have hread := h chunkText tolerant_chunkText sampleIds openai
    [⟨.data chunkPiece, true⟩, ⟨.blank, true⟩] [chunkSource] rfl
    [render [⟨.data chunkPiece, true⟩, ⟨.blank, true⟩]] (List.append_nil _)
  rw [stream_render sampleIds tolerant_chunkText openai _ (List.append_nil _)] at hread
  obtain ⟨c, hc⟩ := Option.isSome_iff_exists.mp isSome_meant
  rw [List.filterMap_cons_some hc] at hread
  cases hread

end Sample

end CompatLoop

end TokenDealer
