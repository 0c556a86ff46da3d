import Mathlib.Data.List.Induction
import TokenDealer.CompatAgreement
import TokenDealer.SseEvents

set_option autoImplicit true

namespace TokenDealer

open Json

section Prefixes

variable {op : β → β → β} (hcancel : ∀ a b c, op a b = op a c → b = c) {F G : List α → β}
  {f g : α → β} (h0 : F [] = G []) (hF : ∀ xs x, F (xs ++ [x]) = op (F xs) (f x))
  (hG : ∀ xs x, G (xs ++ [x]) = op (G xs) (g x))

include hcancel h0 hF hG

/-- Two sums over a list agree at every prefix of it exactly if they have the same summands. -/
theorem forall_take_eq_iff (xs : List α) :
    (∀ n, F (xs.take n) = G (xs.take n)) ↔ ∀ x ∈ xs, f x = g x := by
  constructor
  · intro h x hx
    obtain ⟨as, bs, rfl⟩ := List.append_of_mem hx
    have hbefore := h as.length
    have hwith := h (as.length + 1)
    rw [List.take_left] at hbefore
    have hlength : (as ++ [x]).length = as.length + 1 := List.length_append
    rw [List.append_cons, List.take_left' hlength, hF, hG, hbefore] at hwith
    exact hcancel _ _ _ hwith
  · intro h n
    have hall : ∀ ys : List α, (∀ x ∈ ys, f x = g x) → F ys = G ys := by
      intro ys
      induction ys using List.reverseRecOn with
      | nil => exact fun _ => h0
      | append_singleton ys y ih =>
        intro hys
        rw [hF, hG, ih fun x hx => hys x (List.mem_append_left _ hx),
          hys y (List.mem_append_right _ (List.mem_singleton_self y))]
    exact hall _ fun x hx => h x (List.mem_of_mem_take hx)

end Prefixes

/-- A part of a tool call that an event of a stream carries. A field that is not there counts as
empty; a fragment that is not there is told apart from an empty one. -/
structure CallPart where
  index : Option UInt64
  id : String
  name : String
  fragment : Option String
  deriving DecidableEq, Repr

/-- What the parts of a tool call come to: the ids and names that were given, and the fragments of
its arguments joined. -/
structure AssembledCall where
  ids : List String
  names : List String
  arguments : String
  deriving DecidableEq, Repr

namespace AssembledCall

def blank : AssembledCall := ⟨[], [], ""⟩

def append (a b : AssembledCall) : AssembledCall :=
  ⟨a.ids ++ b.ids, a.names ++ b.names, a.arguments ++ b.arguments⟩

theorem blank_append (a : AssembledCall) : blank.append a = a :=
  congrArg (AssembledCall.mk a.ids a.names) String.empty_append

theorem append_blank (a : AssembledCall) : a.append blank = a := by
  rw [append, blank, List.append_nil, List.append_nil, String.append_empty]

theorem append_assoc (a b c : AssembledCall) : (a.append b).append c = a.append (b.append c) := by
  simp only [append, List.append_assoc, String.append_assoc]

theorem append_cancel (a b c : AssembledCall) (h : a.append b = a.append c) : b = c := by
  obtain ⟨ids, names, arguments⟩ := b
  obtain ⟨ids', names', arguments'⟩ := c
  injection h with hids hnames harguments
  have harguments := congrArg String.toList harguments
  rw [String.toList_append, String.toList_append] at harguments
  have hids := List.append_cancel_left hids
  have hnames := List.append_cancel_left hnames
  have harguments := String.toList_inj.mp (List.append_cancel_left harguments)
  dsimp only at hids hnames harguments
  rw [hids, hnames, harguments]

theorem append_eq_blank {a b : AssembledCall} : a.append b = blank ↔ a = blank ∧ b = blank := by
  obtain ⟨ids, names, arguments⟩ := a
  obtain ⟨ids', names', arguments'⟩ := b
  simp only [append, blank, mk.injEq, List.append_eq_nil_iff, String.append_eq_empty_iff]
  exact ⟨fun h => ⟨⟨h.1.1, h.2.1.1, h.2.2.1⟩, h.1.2, h.2.1.2, h.2.2.2⟩,
    fun h => ⟨⟨h.1.1, h.2.1⟩, ⟨h.1.2.1, h.2.2.1⟩, h.1.2.2, h.2.2.2⟩⟩

end AssembledCall

namespace CallPart

def given (s : String) : List String := if s = "" then [] else [s]

/-- What a part adds to the call of an index. -/
def adds (i : UInt64) (part : CallPart) : AssembledCall :=
  if part.index = some i then ⟨given part.id, given part.name, part.fragment.getD ""⟩ else .blank

def assemble (i : UInt64) (parts : List CallPart) : AssembledCall :=
  parts.foldr (fun part rest => (part.adds i).append rest) .blank

theorem assemble_append (i : UInt64) (as bs : List CallPart) :
    assemble i (as ++ bs) = (assemble i as).append (assemble i bs) := by
  induction as with
  | nil => exact (AssembledCall.blank_append _).symm
  | cons part as ih =>
    have hcons : ∀ rest, assemble i (part :: rest) = (part.adds i).append (assemble i rest) :=
      fun rest => rfl
    rw [List.cons_append, hcons, hcons, ih, AssembledCall.append_assoc]

theorem assemble_eq_blank {i : UInt64} {parts : List CallPart} :
    assemble i parts = .blank ↔ ∀ part ∈ parts, part.adds i = .blank := by
  induction parts with
  | nil => exact iff_of_true rfl (List.forall_mem_nil _)
  | cons part rest ih =>
    have hcons : assemble i (part :: rest) = (part.adds i).append (assemble i rest) := rfl
    rw [hcons, AssembledCall.append_eq_blank, ih, List.forall_mem_cons]

/-- A part with nothing in it. -/
def IsBlank (part : CallPart) : Prop :=
  part.id = "" ∧ part.name = "" ∧ part.fragment.getD "" = ""

theorem adds_eq_blank {i : UInt64} {part : CallPart} :
    part.adds i = .blank ↔ (part.index = some i → part.IsBlank) := by
  have hgiven : ∀ s, given s = [] ↔ s = "" := by
    intro s
    rw [given]
    by_cases hs : s = ""
    · exact iff_of_true (if_pos hs) hs
    · rw [if_neg hs]
      exact iff_of_false (List.cons_ne_nil s []) hs
  rw [adds]
  by_cases hi : part.index = some i
  · rw [if_pos hi, forall_prop_of_true hi, AssembledCall.blank, AssembledCall.mk.injEq, hgiven,
      hgiven]
    exact Iff.rfl
  · rw [if_neg hi]
    exact iff_of_true rfl fun h => absurd h hi

end CallPart

namespace OpenAi

variable (text : Json.Text)

def callPart (entry : Value) : CallPart where
  index := (entry.get "index").bind Value.asU64
  id := (entry.getStr "id").getD ""
  name := ((entry.get "function").bind fun f => f.getStr "name").getD ""
  fragment := (entry.get "function").bind fun f => f.getStr "arguments"

/-- The tool calls in the delta of an event's first choice. -/
def callEntries (v : Value) : List Value :=
  ((((firstChoice v).bind fun choice => choice.get "delta").bind fun delta =>
    delta.get "tool_calls").bind Value.asArray).getD []

def callParts (v : Value) : List CallPart := (callEntries v).map callPart

/-- A fragment as it is sent on: as the text of the JSON value it is by itself, of null if it is
none. -/
def sentFragment (fragment : Option String) : String :=
  text.print ((fragment.bind text.parse).getD .null)

/-- The part that is sent for the first one of an event. -/
def sentPart (part : CallPart) : CallPart :=
  { part with index := some 0, fragment := some (sentFragment text part.fragment) }

def sentParts (v : Value) : List CallPart := ((callParts v).head?.map (sentPart text)).toList

/-- The parts of a chunk that is sent. -/
def chunkParts (chunk : CanonicalChunk) : List CallPart :=
  (chunk.delta.toolUse.map fun call =>
    { index := some 0, id := call.id, name := call.name
      fragment := some (text.print call.arguments) }).toList

theorem callParts_chunkToOpenai (created : Int64) (chunk : CanonicalChunk)
    (h : Outbound.chunkToOpenai text created chunk = some v) :
    callParts v = chunkParts text chunk := by
  cases h
  obtain ⟨id, model, ⟨t, toolUse⟩, finishReason, usage⟩ := chunk
  cases toolUse <;> rfl

theorem flatMap_callParts (clock : Nat → Int64) (chunks : List CanonicalChunk) :
    (Outbound.chunksToOpenai text clock chunks).flatMap callParts =
      chunks.flatMap (chunkParts text) :=
  Outbound.flatMap_chunksToOpenai text (fun _ _ _ => callParts_chunkToOpenai text _ _) clock chunks

theorem chunkParts_parseChunk (readUsage : Value → Usage) (v : Value) (modelId : String) :
    (parseChunk text readUsage v modelId).toList.flatMap (chunkParts text) = sentParts text v := by
  rw [parseChunk, sentParts, callParts, callEntries]
  cases firstChoice v with
  | none => rfl
  | some choice =>
    simp only [Option.bind_eq_bind, Option.bind_some]
    cases choice.get "delta" with
    | none => rfl
    | some delta =>
      simp only [Option.bind_some]
      cases (delta.get "tool_calls").bind Value.asArray with
      | none => rfl
      | some entries =>
        cases entries with
        | nil => rfl
        | cons entry rest => rfl

/-- The event says of its tool calls what is sent on: nothing under an index other than zero, and
under zero what its first part says, with the fragment as the text of a JSON value. -/
structure Faithful (v : Value) : Prop where
  others : ∀ part ∈ callParts v, ∀ i ≠ 0, part.index = some i → part.IsBlank
  first : ∀ part rest, callParts v = part :: rest →
    CallPart.assemble 0 (part :: rest) =
      ⟨CallPart.given part.id, CallPart.given part.name, sentFragment text part.fragment⟩

theorem assemble_sentParts (v : Value) :
    CallPart.assemble 0 (sentParts text v) = CallPart.assemble 0 (callParts v) ↔
      ∀ part rest, callParts v = part :: rest →
        CallPart.assemble 0 (part :: rest) =
          ⟨CallPart.given part.id, CallPart.given part.name, sentFragment text part.fragment⟩ := by
  rw [sentParts]
  cases callParts v with
  | nil => exact iff_of_true rfl fun _ _ h => nomatch h
  | cons part rest =>
    have hsent : CallPart.assemble 0 [sentPart text part] =
        ⟨CallPart.given part.id, CallPart.given part.name, sentFragment text part.fragment⟩ :=
      AssembledCall.append_blank _
    rw [List.head?_cons, Option.map_some, Option.toList_some, hsent, eq_comm]
    constructor
    · intro h part' rest' hparts
      cases hparts
      exact h
    · exact fun h => h part rest rfl

/-- Nothing is sent under an index other than zero. -/
theorem assemble_sentParts_of_ne {i : UInt64} (hi : i ≠ 0) (vs : List Value) :
    CallPart.assemble i (vs.flatMap (sentParts text)) = .blank := by
  apply CallPart.assemble_eq_blank.mpr
  intro part hpart
  obtain ⟨v, -, hpart⟩ := List.mem_flatMap.mp hpart
  obtain ⟨first, -, rfl⟩ := Option.map_eq_some_iff.mp (Option.mem_toList.mp hpart)
  exact CallPart.adds_eq_blank.mpr fun h => absurd (Option.some.inj h).symm hi

/-- What is sent for some events comes to what they say. -/
theorem forall_assemble_iff (vs : List Value) :
    (∀ i, CallPart.assemble i (vs.flatMap (sentParts text)) =
        CallPart.assemble i (vs.flatMap callParts)) ↔
      (∀ v ∈ vs, ∀ part ∈ callParts v, ∀ i ≠ 0, part.index = some i → part.IsBlank) ∧
      CallPart.assemble 0 (vs.flatMap (sentParts text)) =
        CallPart.assemble 0 (vs.flatMap callParts) := by
  constructor
  · intro h
    refine ⟨?_, h 0⟩
    intro v hv part hpart i hi
    have hblank := (h i).symm.trans (assemble_sentParts_of_ne text hi vs)
    exact CallPart.adds_eq_blank.mp
      (CallPart.assemble_eq_blank.mp hblank part (List.mem_flatMap.mpr ⟨v, hv, hpart⟩))
  · intro h i
    by_cases hi : i = 0
    · rw [hi, h.2]
    · rw [assemble_sentParts_of_ne text hi]
      refine (CallPart.assemble_eq_blank.mpr ?_).symm
      intro part hpart
      obtain ⟨v, hv, hpart⟩ := List.mem_flatMap.mp hpart
      exact CallPart.adds_eq_blank.mpr (h.1 v hv part hpart i hi)

theorem faithful_iff (v : Value) :
    Faithful text v ↔
      ∀ i, CallPart.assemble i (sentParts text v) = CallPart.assemble i (callParts v) := by
  have h := forall_assemble_iff text [v]
  simp only [List.flatMap_singleton, List.forall_mem_singleton, assemble_sentParts] at h
  rw [h]
  exact ⟨fun hv => ⟨hv.others, hv.first⟩, fun hv => ⟨hv.1, hv.2⟩⟩

end OpenAi

namespace CompatLoop

open OpenAi CallPart

variable (text : Json.Text) (ids : StreamId)

theorem chunkParts_chunk (loop : CompatLoop) (v : Value) :
    (loop.chunk text ids v).toList.flatMap (chunkParts text) = sentParts text v := by
  have hmap := loop.map_chunk text ids (f := chunkParts text) (fun _ _ => rfl) v
  rw [← chunkParts_parseChunk text loop.readUsage v ids.modelId, List.flatMap_def, List.flatMap_def,
    ← Option.toList_map, ← Option.toList_map, hmap]

/-- The tool calls that are sent for some values. -/
theorem callParts_sent (loop : CompatLoop) (clock : Nat → Int64) (vs : List Value) :
    (Outbound.chunksToOpenai text clock (vs.filterMap (loop.chunk text ids))).flatMap callParts =
      vs.flatMap (sentParts text) := by
  rw [flatMap_callParts, List.filterMap_eq_flatMap_toList, List.flatMap_assoc]
  exact congrArg (List.flatMap · vs) (funext fun v => chunkParts_chunk text ids loop v)

theorem assemble_flatMap_concat (i : UInt64) (f : Value → List CallPart) (vs : List Value)
    (v : Value) :
    assemble i ((vs ++ [v]).flatMap f) = (assemble i (vs.flatMap f)).append (assemble i (f v)) := by
  rw [List.flatMap_append, List.flatMap_singleton, assemble_append]

/-- The tool calls of a stream survive exactly if none of its events has anything under an index
other than zero, and what the first parts of the events are sent as comes to what is under zero.
They survive up to every event exactly if each event by itself is faithful. -/
theorem toolCalls_survive_iff (loop : CompatLoop) (clock : Nat → Int64)
    (input : List (AppResult (List UInt8))) :
    ((∀ i, assemble i ((Outbound.chunksToOpenai text clock
          (received ((loop.machine text ids).stream text input))).flatMap callParts) =
        assemble i (((loop.machine text ids).values text input).flatMap callParts)) ↔
      (∀ v ∈ (loop.machine text ids).values text input, ∀ part ∈ callParts v, ∀ i ≠ 0,
        part.index = some i → part.IsBlank) ∧
      assemble 0 (((loop.machine text ids).values text input).flatMap (sentParts text)) =
        assemble 0 (((loop.machine text ids).values text input).flatMap callParts)) ∧
    ((∀ n i, assemble i ((Outbound.chunksToOpenai text clock
          ((((loop.machine text ids).values text input).take n).filterMap
            (loop.chunk text ids))).flatMap callParts) =
        assemble i ((((loop.machine text ids).values text input).take n).flatMap callParts)) ↔
      ∀ v ∈ (loop.machine text ids).values text input, Faithful text v) := by
  rw [received_stream]
  generalize (loop.machine text ids).values text input = vs
  simp only [callParts_sent, faithful_iff]
  refine ⟨forall_assemble_iff text vs, ?_⟩
  have hprefix : ∀ i, (∀ n, assemble i ((vs.take n).flatMap (sentParts text)) =
      assemble i ((vs.take n).flatMap callParts)) ↔
        ∀ v ∈ vs, assemble i (sentParts text v) = assemble i (callParts v) := fun i =>
    forall_take_eq_iff (F := fun vs => assemble i (vs.flatMap (sentParts text)))
      (G := fun vs => assemble i (vs.flatMap callParts)) AssembledCall.append_cancel rfl
      (assemble_flatMap_concat i (sentParts text)) (assemble_flatMap_concat i callParts) vs
  rw [forall_comm, forall_congr' hprefix]
  exact ⟨fun h v hv i => h i v hv, fun h i v hv => h v hv i⟩

/-- An event with a part of the arguments of a call. -/
def fragmentEvent (id name fragment : String) : Value :=
  .object [("choices", .array [.object [("delta", .object [("tool_calls", .array
    [.object
      [("index", .ofU32 0), ("id", .string id),
        ("function", .object [("name", .string name), ("arguments", .string fragment)])]])])]])]

def openingSource : String :=
  "\x7b\"choices\":[\x7b\"delta\":\x7b\"tool_calls\":[\x7b\"index\":0,\"id\":\"c1\"," ++
    "\"function\":\x7b\"name\":\"get\",\"arguments\":\"[1\"\x7d\x7d]\x7d\x7d]\x7d"

def closingSource : String :=
  "\x7b\"choices\":[\x7b\"delta\":\x7b\"tool_calls\":[\x7b\"index\":0,\"id\":\"\",\"function\":" ++
    "\x7b\"name\":\"\",\"arguments\":\",2]\"\x7d\x7d]\x7d\x7d]\x7d"

theorem unbroken_openingSource : EventStream.Unbroken openingSource :=
  .append (.of_chars rfl (by decide) (by decide)) (.of_chars rfl (by decide) (by decide))

theorem unbroken_closingSource : EventStream.Unbroken closingSource :=
  .append (.of_chars rfl (by decide) (by decide)) (.of_chars rfl (by decide) (by decide))

/-- A library that knows two events, and of other values can print null. -/
def fragmentText : Json.Text :=
  .knowing (fun _ => "null")
    [(openingSource, fragmentEvent "c1" "get" "[1"), (closingSource, fragmentEvent "" "" ",2]")]

def fragmentInput : List (AppResult (List UInt8)) :=
  [.ok (streamBytes [openingSource, closingSource])]

/-- The arguments `[1,2]` that arrive in two fragments are sent as `nullnull`. -/
theorem fragments_lost :
    assemble 0 (((openai.machine fragmentText sampleIds).values fragmentText
        fragmentInput).flatMap callParts) = ⟨["c1"], ["get"], "[1,2]"⟩ ∧
    assemble 0 ((Outbound.chunksToOpenai fragmentText (fun _ => 0)
        (received ((openai.machine fragmentText sampleIds).stream fragmentText
          fragmentInput))).flatMap callParts) = ⟨["c1"], ["get"], "nullnull"⟩ := by
  have hvalues : (openai.machine fragmentText sampleIds).values fragmentText fragmentInput =
      [fragmentEvent "c1" "get" "[1", fragmentEvent "" "" ",2]"] := by
    apply (openai.machine fragmentText sampleIds).values_known
    · decide
    · simp only [List.forall_mem_cons]
      exact ⟨unbroken_openingSource, unbroken_closingSource, List.forall_mem_nil _⟩
    · simp only [List.forall_mem_cons]
      exact ⟨by decide, by decide, List.forall_mem_nil _⟩
  rw [received_stream, callParts_sent, hvalues]
  constructor
  · decide
  · decide

end CompatLoop

end TokenDealer
