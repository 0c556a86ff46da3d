import TokenDealer.RequestBodies

set_option autoImplicit true

namespace TokenDealer

open Json

/-- A part of a message that links to an image. -/
def LinksTo (v : Value) (url : String) : Prop :=
  v.getStr "type" = some "image_url" ∧
    (v.get "image_url").bind (fun image => image.getStr "url") = some url

def partBlocks (text : Json.Text) (parts : List Value) : List ContentBlock :=
  parts.filterMap (blockFromValue text)

/-- The block at the image's place has its media type. -/
def TypesImage (text : Json.Text) (req : CanonicalRequest) (i : Nat) (front back : List Value)
    (mediaType : String) : Prop :=
  ∃ msg image, req.messages[i]? = some msg ∧
    msg.content = partBlocks text front ++ .image mediaType image :: partBlocks text back

/-- The message at a place in a body has the image between what became of the other parts. -/
def CarriesImage (text : Json.Text) (body : Value) (messages parts : String)
    (part : ContentBlock → Option Value) (image : Value) (i : Nat)
    (front back : List Value) : Prop :=
  ∃ outs out, body.get messages = some (.array outs) ∧ outs[i]? = some out ∧
    out.get parts = some (.array ((partBlocks text front).filterMap part ++
      image :: (partBlocks text back).filterMap part))

def Google.inlineData (mediaType data : String) : Value :=
  .object [("inline_data", .object [("mime_type", .string mediaType), ("data", .string data)])]

def Anthropic.base64Image (mediaType data : String) : Value :=
  .object [("type", .string "image"), ("source", .object
    [("type", .string "base64"), ("media_type", .string mediaType), ("data", .string data)])]

/-- The media type read from a data URL still has the scheme in front of it. -/
theorem imageMediaType_ne (mediaType data : String) :
    imageMediaType (OpenAi.imageUrl mediaType (.base64 data)) ≠ mediaType := by
  have hurl : OpenAi.imageUrl mediaType (.base64 data) =
      "data:" ++ (mediaType ++ ";base64," ++ data) := by
    simp only [OpenAi.imageUrl, String.append_assoc]
  have hscheme : "data:".length = 5 := rfl
  rw [hurl, imageMediaType, Str.startsWith_append, if_pos rfl]
  intro h
  by_cases hsep : ';' ∈ mediaType.toList
  · cases hcut : Str.splitOnce ';' ("data:" ++ (mediaType ++ ";base64," ++ data)) with
    | none =>
      rw [hcut] at h
      have hlength := congrArg String.length h
      simp only [String.length_append] at hlength
      omega
    | some cut =>
      rw [hcut] at h
      have hno := Str.splitOnce_not_mem hcut
      rw [show cut.1 = mediaType from h] at hno
      exact hno hsep
  · have hfront : ';' ∉ ("data:" ++ mediaType).toList := by
      rw [String.toList_append, List.mem_append, not_or]
      exact ⟨by decide, hsep⟩
    have hshape : "data:" ++ (mediaType ++ ";base64," ++ data) =
        "data:" ++ mediaType ++ String.singleton ';' ++ ("base64," ++ data) := by
      rw [← String.toList_inj]
      simp only [String.toList_append, List.append_assoc]
      rfl
    rw [hshape, Str.splitOnce_append hfront] at h
    have hlength := congrArg String.length h
    simp only [String.length_append] at hlength
    omega

/-- The block that a link becomes. -/
def linkBlock (url : String) : ContentBlock := .image (imageMediaType url) (.url url)

theorem partBlocks_link {text : Json.Text} {v : Value} (h : LinksTo v url)
    (front back : List Value) :
    partBlocks text (front ++ v :: back) =
      partBlocks text front ++ linkBlock url :: partBlocks text back := by
  rw [partBlocks, List.filterMap_append, List.filterMap_cons, blockFromValue_imageUrl h.1 h.2]
  rfl

theorem getElem?_filterMap_of_isSome {f : α → Option β} {xs : List α}
    (h : ∀ x ∈ xs, (f x).isSome) (i : Nat) : (xs.filterMap f)[i]? = xs[i]?.bind f := by
  induction xs generalizing i with
  | nil => rfl
  | cons x xs ih =>
    obtain ⟨hx, hrest⟩ := List.forall_mem_cons.mp h
    obtain ⟨y, hy⟩ := Option.isSome_iff_exists.mp hx
    rw [List.filterMap_cons, hy]
    cases i with
    | zero => exact hy.symm
    | succ i => exact ih hrest i

/-- No link to an image is sent to Google. -/
theorem Google.part_linkBlock (url : String) : part (linkBlock url) = none := rfl

theorem Google.content_isSome {text : Json.Text} {msg : InboundMessage} (h : isSystem msg = false) :
    (content (messageToCanonical text msg)).isSome := by
  have hrole : msg.role ≠ "system" := of_decide_eq_false h
  have hcanonicalRole := roleOf_ne_system hrole
  rw [content, messageToCanonical, Option.isSome_map]
  cases hr : roleOf msg.role with
  | system => exact absurd hr hcanonicalRole
  | user => rfl
  | assistant => rfl
  | tool => rfl

theorem Google.get_parts {msg : CanonicalMessage} (h : content msg = some out) :
    out.get "parts" = some (.array (msg.content.filterMap part)) := by
  rw [content] at h
  obtain ⟨role, -, rfl⟩ := Option.map_eq_some_iff.mp h
  rfl

/-- A block of a message to Anthropic that holds an image was a block of the user's. -/
theorem Anthropic.blocks_with_image {msg : CanonicalMessage} {blocks : List Value}
    (h : (messageToAnthropic msg).get "content" = some (.array blocks))
    (himage : base64Image mediaType data ∈ blocks) :
    blocks = msg.content.filterMap contentBlock := by
  unfold messageToAnthropic at h
  cases hrole : msg.role with
  | user =>
    rw [hrole] at h
    cases h
    rfl
  | assistant =>
    rw [hrole] at h
    cases h
    rcases List.mem_append.mp himage with htext | hcall
    · obtain ⟨t, -, ht⟩ := List.mem_map.mp htext
      have htype : some "text" = some "image" := congrArg (·.getStr "type") ht
      exact absurd htype (by decide)
    · obtain ⟨call, -, hcall⟩ := List.mem_map.mp hcall
      have htype : some "tool_use" = some "image" := congrArg (·.getStr "type") hcall
      exact absurd htype (by decide)
  | tool =>
    rw [hrole] at h
    cases h
    obtain ⟨block, -, hblock⟩ := List.mem_filterMap.mp himage
    cases block with
    | toolResult id content =>
      have htype : some "tool_result" = some "image" :=
        congrArg (·.getStr "type") (Option.some.inj hblock)
      exact absurd htype (by decide)
    | _ => cases hblock
  | system =>
    rw [hrole] at h
    cases h
    cases himage

section Places

variable {text : Json.Text} {req : CanonicalRequest} {i : Nat} {front back : List Value}
  {mediaType data : String} {m : CanonicalMessage}

theorem not_typesImage (hplace : req.messages[i]? = some m)
    (hblocks : m.content = partBlocks text front ++
      linkBlock (OpenAi.imageUrl mediaType (.base64 data)) :: partBlocks text back) :
    ¬ TypesImage text req i front back mediaType := by
  rintro ⟨msg, image, hmsg, htyped⟩
  cases hplace.symm.trans hmsg
  rw [hblocks] at htyped
  have hblock := (List.cons.inj (List.append_cancel_left htyped)).1
  exact imageMediaType_ne mediaType data (ContentBlock.image.inj hblock).1

/-- One part is missing. -/
theorem Google.not_carriesImage (hsome : ∀ m ∈ req.messages, (content m).isSome)
    (hplace : req.messages[i]? = some m)
    (hblocks : m.content = partBlocks text front ++ linkBlock url :: partBlocks text back) :
    ¬ CarriesImage text (buildBody req) "contents" "parts" part image i front back := by
  rintro ⟨outs, out, houts, hout, hparts⟩
  rw [get_contents] at houts
  cases houts
  rw [getElem?_filterMap_of_isSome hsome, hplace, Option.bind_some] at hout
  rw [get_parts hout, hblocks] at hparts
  have hlist := congrArg List.length (Value.array.inj (Option.some.inj hparts))
  rw [List.filterMap_append, List.filterMap_cons_none (part_linkBlock _),
    List.length_append, List.length_append, List.length_cons] at hlist
  omega

/-- The source is a link. -/
theorem Anthropic.not_carriesImage (hplace : req.messages[i]? = some m)
    (hblocks : m.content = partBlocks text front ++ linkBlock url :: partBlocks text back) :
    ¬ CarriesImage text (buildBody req) "messages" "content" contentBlock
      (base64Image mediaType data) i front back := by
  rintro ⟨outs, out, houts, hout, hparts⟩
  rw [get_messages] at houts
  cases houts
  rw [List.getElem?_map, hplace] at hout
  cases hout
  have hall := blocks_with_image hparts (List.mem_append_right _ List.mem_cons_self)
  rw [hblocks, List.filterMap_append] at hall
  have himage := (List.cons.inj (List.append_cancel_left hall)).1
  have hsource : some "base64" = some "url" :=
    congrArg (fun image => (image.get "source").bind (·.getStr "type")) himage
  exact absurd hsource (by decide)

end Places

/-- No data URL is translated: the block's media type is not the image's, Google gets nothing at
its place, and Anthropic a link. -/
theorem dataUrl_never_inlined (text : Json.Text) (r : InboundRequest) (tier : Tier)
    (selectedModel selectedProvider requestId : String) {before after : List InboundMessage}
    {msg : InboundMessage} {front back : List Value} {v : Value}
    (hmessages : (r.messages.filter fun msg => !isSystem msg) = before ++ msg :: after)
    (hcontent : msg.content = .array (front ++ v :: back))
    (hlink : LinksTo v (OpenAi.imageUrl mediaType (.base64 data))) :
    ∃ req, r.intoCanonical text tier selectedModel selectedProvider requestId = .ok req ∧
      ¬ TypesImage text req before.length front back mediaType ∧
      ¬ CarriesImage text (Google.buildBody req) "contents" "parts" Google.part
        (Google.inlineData mediaType data) before.length front back ∧
      ¬ CarriesImage text (Anthropic.buildBody req) "messages" "content" Anthropic.contentBlock
        (Anthropic.base64Image mediaType data) before.length front back := by
  obtain ⟨req, hreq, hcanonical, -⟩ :=
    intoCanonical_eq text r tier selectedModel selectedProvider requestId
  have hplace : req.messages[before.length]? = some (messageToCanonical text msg) := by
    rw [hcanonical, hmessages, List.getElem?_map, List.getElem?_append_right (Nat.le_refl _),
      Nat.sub_self]
    rfl
  have hblocks : (messageToCanonical text msg).content = partBlocks text front ++
      linkBlock (OpenAi.imageUrl mediaType (.base64 data)) :: partBlocks text back := by
    rw [← partBlocks_link hlink, partBlocks, ← blocksFromValues_eq_filterMap, messageToCanonical,
      hcontent, contentToBlocks]
  have hsome : ∀ m ∈ req.messages, (Google.content m).isSome := by
    intro m hm
    rw [hcanonical] at hm
    obtain ⟨inbound, hinbound, rfl⟩ := List.mem_map.mp hm
    exact Google.content_isSome ((Bool.not_eq_true' _).mp (List.mem_filter.mp hinbound).2)
  exact ⟨req, hreq, not_typesImage hplace hblocks, Google.not_carriesImage hsome hplace hblocks,
    Anthropic.not_carriesImage hplace hblocks⟩

def pictureParts : List Value :=
  [OpenAi.textPart "what is this",
    OpenAi.imagePart (OpenAi.imageUrl "image/png" (.base64 "iVBORw0KGgo="))]

def pictureMessage : InboundMessage := { role := "user", content := .array pictureParts }

def pictureRequest : InboundRequest where
  model := "gemini/gemini-2.5-pro"
  messages := [{ role := "system", content := .string "be brief" }, pictureMessage]

theorem dataUrl_never_inlined_sample :
    ∃ req, pictureRequest.intoCanonical sampleText .standard "gemini-2.5-pro" "gemini" "1" =
        .ok req ∧
      ¬ TypesImage sampleText req 0 [OpenAi.textPart "what is this"] [] "image/png" ∧
      ¬ CarriesImage sampleText (Google.buildBody req) "contents" "parts" Google.part
        (Google.inlineData "image/png" "iVBORw0KGgo=") 0 [OpenAi.textPart "what is this"] [] ∧
      ¬ CarriesImage sampleText (Anthropic.buildBody req) "messages" "content"
        Anthropic.contentBlock (Anthropic.base64Image "image/png" "iVBORw0KGgo=") 0
        [OpenAi.textPart "what is this"] [] := by
  have hmessages : (pictureRequest.messages.filter fun msg => !isSystem msg) =
      [] ++ pictureMessage :: [] := rfl
  have hcontent : pictureMessage.content = .array ([OpenAi.textPart "what is this"] ++
      OpenAi.imagePart (OpenAi.imageUrl "image/png" (.base64 "iVBORw0KGgo=")) :: []) := rfl
  exact dataUrl_never_inlined sampleText pictureRequest .standard "gemini-2.5-pro" "gemini" "1"
    hmessages hcontent ⟨rfl, rfl⟩

/-- The media type of the picture is read with the scheme, and Google gets the question alone. -/
theorem dataUrl_inlined_fails :
    ¬ ∀ (text : Json.Text) (r : InboundRequest) (tier : Tier)
      (selectedModel selectedProvider requestId : String) (before after : List InboundMessage)
      (msg : InboundMessage) (front back : List Value) (v : Value) (mediaType data : String),
      (r.messages.filter fun msg => !isSystem msg) = before ++ msg :: after →
      msg.content = .array (front ++ v :: back) →
      LinksTo v (OpenAi.imageUrl mediaType (.base64 data)) →
      ∃ req, r.intoCanonical text tier selectedModel selectedProvider requestId = .ok req ∧
        TypesImage text req before.length front back mediaType ∧
        CarriesImage text (Google.buildBody req) "contents" "parts" Google.part
          (Google.inlineData mediaType data) before.length front back ∧
        CarriesImage text (Anthropic.buildBody req) "messages" "content" Anthropic.contentBlock
          (Anthropic.base64Image mediaType data) before.length front back := by
  intro h
  obtain ⟨req, hreq, -, ⟨outs, out, houts, hout, hparts⟩, -⟩ :=
    h sampleText pictureRequest .standard "gemini-2.5-pro" "gemini" "1" [] [] pictureMessage
      [OpenAi.textPart "what is this"] []
      (OpenAi.imagePart (OpenAi.imageUrl "image/png" (.base64 "iVBORw0KGgo="))) "image/png"
      "iVBORw0KGgo=" rfl rfl ⟨rfl, rfl⟩
  cases hreq
  cases houts
  cases hout
  have hlength := congrArg List.length (Value.array.inj (Option.some.inj hparts))
  exact absurd hlength (by decide)

end TokenDealer
