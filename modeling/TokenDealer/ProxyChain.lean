import TokenDealer.ChunkRoundTrip
import TokenDealer.ClientStream
import TokenDealer.SseRendering

set_option autoImplicit true

namespace TokenDealer

open Json EventStream

namespace ClientStream

def errorName : Other where
  content := "event: error"
  unbroken := ⟨by decide, by decide⟩
  ne_empty := by decide
  ne_data := by decide
  no_data := by decide

/-- An empty comment. -/
def keepAlive : Other where
  content := ":"
  unbroken := ⟨by decide, by decide⟩
  ne_empty := by decide
  ne_data := by decide
  no_data := by decide

/-- The lines that some events are written in, with comments anywhere between the events. -/
inductive Writes : List SseEvent → List Line → Prop
  | nil : Writes [] []
  | keepAlive (comment : Other) : Writes events lines →
      Writes events (⟨.other comment, false⟩ :: ⟨.blank, false⟩ :: lines)
  | message (p : Piece) : p.spaced = true → Writes events lines →
      Writes (⟨none, p.text⟩ :: events) (⟨.data p, false⟩ :: ⟨.blank, false⟩ :: lines)
  | error (p : Piece) : p.spaced = true → Writes events lines →
      Writes (⟨some "error", p.text⟩ :: events)
        (⟨.other errorName, false⟩ :: ⟨.data p, false⟩ :: ⟨.blank, false⟩ :: lines)

/-- A reader gets the payload of every event, whatever its name is, and nothing of the comments. -/
theorem heard_writes {text : Json.Text} {ids : StreamId} (loop : CompatLoop)
    (h : Writes events lines) :
    (messages lines).flatMap (loop.heard text ids) =
      events.filterMap fun e => loop.meant text ids e.data := by
  have hone : ∀ {p : Piece} {lines : List Line}, p.spaced = true →
      (messages (⟨.data p, false⟩ :: ⟨.blank, false⟩ :: lines)).flatMap (loop.heard text ids) =
        (loop.meant text ids p.text).toList ++
          (messages lines).flatMap (loop.heard text ids) := by
    intro p lines hspaced
    have hmessage : messages (⟨.data p, false⟩ :: ⟨.blank, false⟩ :: lines) =
        ⟨[p], true⟩ :: messages lines := rfl
    rw [hmessage, List.flatMap_cons, CompatLoop.heard_single ids loop rfl, if_pos ⟨rfl, hspaced⟩]
    rfl
  induction h with
  | nil => rfl
  | keepAlive comment _ ih => exact ih
  | message p hspaced _ ih =>
    rw [hone hspaced, ih, List.filterMap_cons]
    cases loop.meant text ids p.text <;> rfl
  | @error events lines p hspaced _ ih =>
    have hnamed :
        messages (⟨.other errorName, false⟩ :: ⟨.data p, false⟩ :: ⟨.blank, false⟩ :: lines) =
          messages (⟨.data p, false⟩ :: ⟨.blank, false⟩ :: lines) := rfl
    rw [hnamed, hone hspaced, ih, List.filterMap_cons]
    cases loop.meant text ids p.text <;> rfl

section Sent

variable (text : Json.Text) (requestBudgetMs : UInt64) (modelId requestId : String)

def errorValue (message : String) : Value := .object [("error", .string message)]

def chunkValue (c : Int64 × CanonicalChunk) : Option Value :=
  Outbound.chunkToOpenai text c.1 (fill modelId requestId c.2)

/-- The values that the payloads of an answer are printed from. -/
def sent : List StreamItem → List Value
  | [] => [Outbound.doneSentinel]
  | item :: rest =>
    if requestBudgetMs < item.elapsedMs then
      [errorValue "request budget exceeded", Outbound.doneSentinel]
    else
      match item.outcome with
      | .ok chunk => (chunkValue text modelId requestId (item.created, chunk)).toList ++ sent rest
      | .error e => [errorValue e.message, Outbound.doneSentinel]

theorem map_data_body (items : List StreamItem) :
    (body text requestBudgetMs modelId requestId items).map SseEvent.data =
      (sent text requestBudgetMs modelId requestId items).map text.print := by
  induction items with
  | nil => rfl
  | cons item rest ih =>
    rw [body, sent]
    by_cases hbudget : requestBudgetMs < item.elapsedMs
    · rw [if_pos hbudget, if_pos hbudget]
      rfl
    · rw [if_neg hbudget, if_neg hbudget]
      cases item.outcome with
      | error e => rfl
      | ok chunk =>
        dsimp only
        rw [List.map_append, ih, List.map_append]
        rfl

variable {text requestBudgetMs modelId requestId}

/-- Neither an error nor the end is a chunk for the loops. -/
theorem chunk_errorValue (loop : CompatLoop) (ids : StreamId) (message : String) :
    loop.chunk text ids (errorValue message) = none := by
  cases loop <;> rfl

theorem chunk_doneSentinel (loop : CompatLoop) (ids : StreamId) :
    loop.chunk text ids Outbound.doneSentinel = none := by
  cases loop <;> rfl

/-- Both loops read a chunk that was written as what a proxy in front relays. -/
theorem chunk_chunkValue (loop : CompatLoop) (ids : StreamId) (hrequest : requestId ≠ "")
    {c : Int64 × CanonicalChunk} (h : chunkValue text modelId requestId c = some v) :
    loop.chunk text ids v =
      some (Outbound.relayed text ids.modelId (fill modelId requestId c.2)) := by
  have hopenai := Outbound.parseOpenaiChunk_chunkToOpenai text c.1 (fill modelId requestId c.2)
    ids.modelId
  rw [chunkValue] at h
  rw [h, Option.bind_some] at hopenai
  cases loop with
  | openai => exact hopenai
  | generic =>
    have hread : ∀ readUsage, (Outbound.chunkToOpenai text c.1 (fill modelId requestId c.2)).bind
        (OpenAi.parseChunk text readUsage · ids.modelId) =
          (OpenAi.parseOpenaiChunk text v ids.modelId).map fun d =>
            { d with
              usage := some (readUsage (.ofOption Outbound.chunkUsage
                (fill modelId requestId c.2).usage)) } := by
      intro readUsage
      cases h
      rfl
    have husage : readUsage "prompt_tokens" "completion_tokens"
        (.ofOption Outbound.chunkUsage (fill modelId requestId c.2).usage) =
        OpenAi.parseOpenaiUsage (.ofOption Outbound.chunkUsage
          (fill modelId requestId c.2).usage) := by
      cases (fill modelId requestId c.2).usage <;> rfl
    have hcompat := hread (readUsage "prompt_tokens" "completion_tokens")
    have hplain := hread OpenAi.parseOpenaiUsage
    rw [h, Option.bind_some] at hcompat hplain
    rw [husage, ← hplain] at hcompat
    have hid : (Outbound.relayed text ids.modelId (fill modelId requestId c.2)).id ≠ "" := by
      rw [Outbound.relayed, fill]
      dsimp only
      split
      · exact hrequest
      · assumption
    change ((OpenAi.parseChunk text (readUsage "prompt_tokens" "completion_tokens") v
      ids.modelId).map (Generic.nameChunk ids)) = _
    rw [hcompat]
    change (OpenAi.parseOpenaiChunk text v ids.modelId).map (Generic.nameChunk ids) = _
    rw [hopenai, Option.map_some, Generic.nameChunk, if_neg hid]

/-- Both loops read a chunk by lookups alone. -/
theorem chunk_congr (loop : CompatLoop) (ids : StreamId) (h : Value.Agrees v w) :
    loop.chunk text ids v = loop.chunk text ids w := by
  cases loop with
  | openai => exact Outbound.parseChunk_congr text Outbound.parseOpenaiUsage_congr h ids.modelId
  | generic =>
    have husage : ∀ {v w : Value}, v.Agrees w →
        readUsage "prompt_tokens" "completion_tokens" v =
          readUsage "prompt_tokens" "completion_tokens" w := by
      intro v w h
      rw [readUsage, readUsage, h.getCount, h.getCount]
    exact congrArg (Option.map (Generic.nameChunk ids))
      (Outbound.parseChunk_congr text husage h ids.modelId)

/-- What the loops make of all that was sent are the chunks that were served. -/
theorem filterMap_sent (loop : CompatLoop) (ids : StreamId) (hrequest : requestId ≠ "")
    (items : List StreamItem) :
    (sent text requestBudgetMs modelId requestId items).filterMap (loop.chunk text ids) =
      (served requestBudgetMs items).map fun c =>
        Outbound.relayed text ids.modelId (fill modelId requestId c.2) := by
  have hlast : ∀ message, [errorValue message, Outbound.doneSentinel].filterMap
      (loop.chunk text ids) = [] := by
    intro message
    rw [List.filterMap_cons, chunk_errorValue, List.filterMap_cons, chunk_doneSentinel,
      List.filterMap_nil]
  induction items with
  | nil =>
    rw [sent, List.filterMap_cons, chunk_doneSentinel]
    rfl
  | cons item rest ih =>
    rw [sent, served]
    by_cases hbudget : requestBudgetMs < item.elapsedMs
    · rw [if_pos hbudget, if_pos hbudget, hlast, List.map_nil]
    · rw [if_neg hbudget, if_neg hbudget]
      cases item.outcome with
      | error e => exact hlast e.message
      | ok chunk =>
        dsimp only
        obtain ⟨v, hv⟩ : ∃ v, chunkValue text modelId requestId (item.created, chunk) = some v :=
          ⟨_, rfl⟩
        rw [hv, Option.toList_some, List.filterMap_append, ih, List.filterMap_cons,
          chunk_chunkValue loop ids hrequest hv]
        rfl

end Sent

/-- What is read of an answer, whatever chunks its bytes arrive in. -/
theorem stream_body {text : Json.Text} (htext : Tolerant text) {ids : StreamId}
    (loop : CompatLoop) (hrequest : requestId ≠ "") {items : List StreamItem}
    (hread : ∀ v ∈ sent text requestBudgetMs modelId requestId items, text.ReadsBack v)
    (hlines : Writes (body text requestBudgetMs modelId requestId items) lines)
    {chunks : List (List UInt8)} (hchunks : chunks.flatten = render lines) :
    (loop.machine text ids).stream text (chunks.map .ok) =
      ((served requestBudgetMs items).map fun c =>
        Outbound.relayed text ids.modelId (fill modelId requestId c.2)).map .ok := by
  rw [CompatLoop.stream_render ids htext loop lines hchunks, heard_writes loop hlines]
  have hdata : (body text requestBudgetMs modelId requestId items).filterMap
      (fun e => loop.meant text ids e.data) =
      ((body text requestBudgetMs modelId requestId items).map SseEvent.data).filterMap
        (loop.meant text ids) := by
    rw [List.filterMap_map]
    rfl
  have hmeant : ∀ v ∈ sent text requestBudgetMs modelId requestId items,
      (loop.meant text ids ∘ text.print) v = loop.chunk text ids v := by
    intro v hv
    obtain ⟨w, hparse, hagrees⟩ := hread v hv
    rw [Function.comp_apply, CompatLoop.meant, hparse, Option.bind_some,
      chunk_congr loop ids hagrees]
  rw [hdata, map_data_body, List.filterMap_map, List.filterMap_congr hmeant,
    filterMap_sent loop ids hrequest]

/-- Items that come within the budget and are no errors are all served, and no error is told. -/
theorem body_of_ok {text : Json.Text} {items : List StreamItem} {chunks : List CanonicalChunk}
    (hitems : items.map StreamItem.outcome = chunks.map .ok)
    (hbudget : ∀ item ∈ items, item.elapsedMs ≤ requestBudgetMs) :
    (served requestBudgetMs items).map Prod.snd = chunks ∧
      ∀ e ∈ body text requestBudgetMs modelId requestId items, e.name = none := by
  induction items generalizing chunks with
  | nil =>
    cases chunks with
    | nil =>
      refine ⟨rfl, ?_⟩
      intro e he
      rw [List.mem_singleton.mp he]
      rfl
    | cons chunk chunks => cases hitems
  | cons item items ih =>
    cases chunks with
    | nil => cases hitems
    | cons chunk chunks =>
      rw [List.map_cons, List.map_cons] at hitems
      obtain ⟨hitem, hrest⟩ := List.cons.inj hitems
      obtain ⟨hfirst, hlater⟩ := List.forall_mem_cons.mp hbudget
      obtain ⟨hserved, hnames⟩ := ih hrest hlater
      have hwithin : ¬ requestBudgetMs < item.elapsedMs := UInt64.not_lt.mpr hfirst
      rw [served, body, if_neg hwithin, if_neg hwithin, hitem]
      dsimp only
      refine ⟨by rw [List.map_cons, hserved], ?_⟩
      intro e he
      rcases List.mem_append.mp he with hchunk | hrest
      · obtain ⟨v, -, rfl⟩ := Option.map_eq_some_iff.mp (Option.mem_toList.mp hchunk)
        rfl
      · exact hnames e hrest

/-- A proxy behind a proxy serves what the first one served, chunk by chunk, however the bytes
between them are cut and whatever comments stand among them. But it does not tell its client of an
error: where the first one breaks off, the second ends as if all had come. -/
theorem chained_stream {text : Json.Text} (htext : Tolerant text) (ids : StreamId)
    (loop : CompatLoop) {budget : UInt64} {modelId requestId : String} (hrequest : requestId ≠ "")
    {items : List StreamItem}
    (hread : ∀ v ∈ sent text budget modelId requestId items, text.ReadsBack v)
    {lines : List Line} (hlines : Writes (body text budget modelId requestId items) lines)
    {chunks : List (List UInt8)} (hchunks : chunks.flatten = render lines)
    {budget' : UInt64} {modelId' requestId' : String} {items' : List StreamItem}
    (hitems : items'.map StreamItem.outcome =
      (loop.machine text ids).stream text (chunks.map .ok))
    (hbudget : ∀ item ∈ items', item.elapsedMs ≤ budget') :
    (served budget' items').map Prod.snd =
        ((served budget items).map fun c =>
          Outbound.relayed text ids.modelId (fill modelId requestId c.2)) ∧
      ∀ e ∈ body text budget' modelId' requestId' items', e.name = none := by
  rw [stream_body htext loop hrequest hread hlines hchunks] at hitems
  exact body_of_ok hitems hbudget

section Sample

def helloChunk : CanonicalChunk where
  id := "m"
  model := "gpt-4o"
  delta := { text := some "hi" }
  finishReason := none
  usage := none

def helloItem : StreamItem := ⟨.ok helloChunk, 10, 0⟩

def helloValue : Value :=
  .object
    [("id", .string "m"), ("object", .string "chat.completion.chunk"), ("created", .ofI64 0),
      ("model", .string "gpt-4o"),
      ("choices", .array
        [.object
          [("index", .ofU32 0),
            ("delta", .object
              [("role", .string "assistant"), ("content", .string "hi"), ("tool_calls", .null)]),
            ("finish_reason", .null)]]),
      ("usage", .null)]

/-- The members of an object are printed in the order of their keys. -/
def helloSource : String :=
  String.ofList
    ("\x7b\"choices\":[\x7b\"delta\":\x7b\"content\":\"hi\",\"role\":\"assistant\",".toList ++
    "\"tool_calls\":null\x7d,\"finish_reason\":null,\"index\":0\x7d],\"created\":0,".toList ++
    "\"id\":\"m\",\"model\":\"gpt-4o\",\"object\":\"chat.completion.chunk\",".toList ++
    "\"usage\":null\x7d".toList)

def brokenSource : String := "\x7b\"error\":\"internal: connection reset\"\x7d"

def doneSource : String := "\"[DONE]\""

def trimmed (s : String) : String :=
  String.ofList (s.toList.reverse.dropWhile CompatLoop.jsonSpace).reverse

/-- A source on one line, with no white space behind it. -/
structure IsSource (s : String) : Prop where
  unbroken : Unbroken s
  trimmed : trimmed s = s

theorem isSource_ofList {cs : List Char} (hfeed : '\n' ∉ cs) (hcarriage : '\r' ∉ cs)
    (hend : cs.reverse.dropWhile CompatLoop.jsonSpace = cs.reverse) :
    IsSource (String.ofList cs) := by
  refine ⟨⟨?_, ?_⟩, ?_⟩
  · rwa [String.toList_ofList]
  · rwa [String.toList_ofList]
  · rw [ClientStream.trimmed, String.toList_ofList, hend, List.reverse_reverse]

set_option maxRecDepth 2000 in
theorem isSource_hello : IsSource helloSource :=
  isSource_ofList (by decide +kernel) (by decide +kernel) (by decide +kernel)

theorem isSource_broken : IsSource brokenSource :=
  isSource_ofList (by decide +kernel) (by decide +kernel) (by decide +kernel)

theorem isSource_done : IsSource doneSource :=
  isSource_ofList (by decide +kernel) (by decide +kernel) (by decide +kernel)

def chainSources : List (String × Value) :=
  [(helloSource, helloValue), (brokenSource, errorValue "internal: connection reset"),
    (doneSource, Outbound.doneSentinel)]

/-- A library that knows three sources, with white space behind them or without. -/
def chainText : Json.Text where
  print
    | .object (("id", _) :: _) => helloSource
    | v => quoteText.print v
  parse s := (Table.get (trimmed s) chainSources).map Value.sorted

theorem tolerant_chainText : Tolerant chainText where
  carriage s := by
    have hreverse : (s ++ "\r").toList.reverse = '\r' :: s.toList.reverse := by
      rw [String.toList_append, List.reverse_append]
      rfl
    simp only [chainText, trimmed, hreverse,
      List.dropWhile_cons_of_pos (by decide : CompatLoop.jsonSpace '\r' = true)]
  marker := by
    have hmarker : IsSource "[DONE]" :=
      isSource_ofList (by decide +kernel) (by decide +kernel) (by decide +kernel)
    have hnone : Table.get "[DONE]" chainSources = none := by decide +kernel
    simp only [chainText, hmarker.trimmed, hnone, Option.map_none]

theorem readsBack_chainText {v : Value} (hprint : chainText.print v = source)
    (hsource : IsSource source) (hknown : Table.get source chainSources = some v) :
    chainText.ReadsBack v := by
  refine ⟨v.sorted, ?_, v.agrees_sorted⟩
  rw [hprint]
  simp only [chainText, hsource.trimmed, hknown, Option.map_some]

def sourcePiece (text : String) (h : IsSource text) : Piece := ⟨text, true, h.unbroken, nofun⟩

def helloPiece : Piece := sourcePiece helloSource isSource_hello

def brokenPiece : Piece := sourcePiece brokenSource isSource_broken

def donePiece : Piece := sourcePiece doneSource isSource_done

/-- A chunk, a sign of life, an error and the end. -/
def brokenLines : List Line :=
  [⟨.data helloPiece, false⟩, ⟨.blank, false⟩, ⟨.other keepAlive, false⟩, ⟨.blank, false⟩,
    ⟨.other errorName, false⟩, ⟨.data brokenPiece, false⟩, ⟨.blank, false⟩,
    ⟨.data donePiece, false⟩, ⟨.blank, false⟩]

theorem writes_broken :
    Writes (body chainText 60000 "gpt-4o" "r1" [helloItem, brokenItem]) brokenLines :=
  .message helloPiece rfl
    (.keepAlive keepAlive (.error brokenPiece rfl (.message donePiece rfl .nil)))

theorem read_broken : ∀ v ∈ sent chainText 60000 "gpt-4o" "r1" [helloItem, brokenItem],
    chainText.ReadsBack v := by
  intro v hv
  have hsent : sent chainText 60000 "gpt-4o" "r1" [helloItem, brokenItem] =
      [helloValue, errorValue "internal: connection reset", Outbound.doneSentinel] := rfl
  rw [hsent] at hv
  simp only [List.mem_cons, List.not_mem_nil, or_false] at hv
  have hne : helloSource ≠ brokenSource ∧ helloSource ≠ doneSource ∧ brokenSource ≠ doneSource := by
    decide +kernel
  obtain ⟨hbroken, hdone, hlast⟩ := hne
  rcases hv with rfl | rfl | rfl
  · have hprint : chainText.print helloValue = helloSource := rfl
    apply readsBack_chainText hprint isSource_hello
    rw [chainSources, Table.get_cons_self]
  · apply readsBack_chainText (by decide +kernel) isSource_broken
    rw [chainSources, Table.get_cons_of_ne hbroken, Table.get_cons_self]
  · apply readsBack_chainText (by decide +kernel) isSource_done
    rw [chainSources, Table.get_cons_of_ne hdone, Table.get_cons_of_ne hlast, Table.get_cons_self]

/-- What the second proxy takes up of the first one. -/
def relayedItem : StreamItem :=
  ⟨.ok (Outbound.relayed chainText CompatLoop.sampleIds.modelId (fill "gpt-4o" "r1" helloChunk)),
    10, 0⟩

/-- The first proxy serves a chunk and tells that its provider broke off, the second one relays the
chunk and ends as usual. -/
theorem chained_stream_broken :
    (served 60000 [relayedItem]).map Prod.snd =
        ((served 60000 [helloItem, brokenItem]).map fun c =>
          Outbound.relayed chainText CompatLoop.sampleIds.modelId (fill "gpt-4o" "r1" c.2)) ∧
      ∀ e ∈ body chainText 60000 "gpt-4o" "r2" [relayedItem], e.name = none := by
  have hchunks : [render brokenLines].flatten = render brokenLines := List.append_nil _
  have hserved : served 60000 [helloItem, brokenItem] = [(0, helloChunk)] := rfl
  have hitems : [relayedItem].map StreamItem.outcome =
      (CompatLoop.openai.machine chainText CompatLoop.sampleIds).stream chainText
        ([render brokenLines].map .ok) := by
    rw [stream_body tolerant_chainText .openai (by decide) read_broken writes_broken hchunks,
      hserved]
    rfl
  exact chained_stream tolerant_chainText CompatLoop.sampleIds .openai (by decide) read_broken
    writes_broken hchunks hitems (List.forall_mem_singleton.mpr (by decide))

end Sample

end ClientStream

end TokenDealer
