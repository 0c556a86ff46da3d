import TokenDealer.Highest
import TokenDealer.Inbound
import TokenDealer.Manifest

set_option autoImplicit true

namespace TokenDealer

/-- What the scorer calls outside the router: how many tokens a text has, and the lower case of a
text in all of Unicode. -/
structure TextTools where
  encodedLen : String → Nat
  lowercase : String → String

/-- The tier header counts only when it is readable text. -/
structure ScoringContext where
  inbound : InboundRequest
  tierHeader : Option String := none
  deriving Repr

structure ScoreResult where
  tier : Tier
  modelOverride : Option String
  deriving DecidableEq, Repr

namespace Scorer

def highContextTokens : UInt32 := 50000

def reasoningKeywords : List String :=
  ["prove", "proof", "formally", "theorem", "lemma", "axiom", "derive", "deduce", "step by step",
    "chain of thought", "mathematically", "logically valid", "sound and complete"]

def codeFence : String := "```"

def tierRank : Tier → Nat
  | .simple => 1
  | .standard => 2
  | .complex => 3
  | .reasoning => 4
  | .multimodal => 5
  | .highContext => 6

theorem tierRank_injective (a b : Tier) (h : tierRank a = tierRank b) : a = b := by
  revert h
  cases a <;> cases b <;> decide

def isImagePart (part : Json.Value) : Bool :=
  match part.getStr "type" with
  | some kind => kind = "image_url" || kind = "image"
  | none => false

def hasImageInMessages (messages : List InboundMessage) : Bool :=
  messages.any fun m =>
    match m.content with
    | .array parts => parts.any isImagePart
    | _ => false

def partTexts (parts : List Json.Value) : List String := parts.filterMap fun p => p.getStr "text"

def messageText (m : InboundMessage) : String :=
  match m.content with
  | .string s => s
  | .array parts => Str.join "\n" (partTexts parts)
  | _ => ""

def hasCodeFence (messages : List InboundMessage) : Bool :=
  messages.any fun m => Str.contains (messageText m) codeFence

def saturatingAdd (a b : UInt32) : UInt32 :=
  if a.toNat + b.toNat < UInt32.size then a + b else UInt32.ofNat (UInt32.size - 1)

/-- The part of a model string before the model, when it is `tier/provider/model`. -/
def refTier (model : String) : Option Tier :=
  match Str.splitn 3 '/' model with
  | [t, _, _] => Tier.parse t
  | _ => none

/-- Is this `provider/model` under a name that the router knows providers by? -/
def isAliasRef (model : String) : Bool :=
  match Str.splitn 3 '/' model with
  | [p, _] => (Manifest.resolveAlias p).isSome
  | _ => false

section

variable (tools : TextTools)

def hasReasoningKeywords (messages : List InboundMessage) : Bool :=
  let texts := (messages.filter fun m => m.role = "user").filterMap fun m =>
    match m.content with
    | .string s => some (tools.lowercase s)
    | .array parts => some (Str.join " " ((partTexts parts).map tools.lowercase))
    | _ => none
  let combined := Str.join " " texts
  reasoningKeywords.any fun kw => Str.contains combined kw

def approxTokenCount (messages : List InboundMessage) : UInt32 :=
  messages.foldl
    (fun count m => saturatingAdd count (UInt32.ofNat (tools.encodedLen (messageText m)))) 0

/-- Keywords are looked for in the messages whose content is a string. A condition with nothing in
it matches everything. -/
def ruleMatches (cond : DetectionCondition) (inbound : InboundRequest) (approxTokens : UInt32)
    (toolsPresent : Bool) : Bool :=
  let toolsMatch := match cond.hasTools with
    | some want => want == toolsPresent
    | none => true
  let sizeMatches := match cond.inputTokensGt with
    | some threshold => !(approxTokens ≤ threshold)
    | none => true
  let promptMatches := match cond.promptContains with
    | some keywords =>
      let texts := inbound.messages.filterMap fun m =>
        match m.content with
        | .string s => some (tools.lowercase s)
        | _ => none
      let combined := Str.join " " texts
      keywords.all fun kw => Str.contains combined (tools.lowercase kw)
    | none => true
  toolsMatch && sizeMatches && promptMatches

def toolsPresent (inbound : InboundRequest) : Bool :=
  match inbound.tools with
  | some ts => !ts.isEmpty
  | none => false

/-- The tier the content asks for, before its size counts. -/
def featureTier (messages : List InboundMessage) : Tier :=
  if hasImageInMessages messages then .multimodal
  else if hasReasoningKeywords tools messages then .reasoning
  else if hasCodeFence messages then .complex
  else .standard

def toolFloor (toolsPresent : Bool) (tier : Tier) : Tier :=
  if toolsPresent && tier = .simple then .standard else tier

def contextFloor (approxTokens : UInt32) (tier : Tier) : Tier :=
  if highContextTokens < approxTokens then
    match tier with
    | .simple | .standard => .highContext
    | .complex | .reasoning | .multimodal => tier
    | .highContext => .highContext
  else tier

def applyRule (inbound : InboundRequest) (tier : Tier) (rule : DetectionRule) : Tier :=
  if ruleMatches tools rule.condition inbound (approxTokenCount tools inbound.messages)
      (toolsPresent inbound) then
    match Tier.parse rule.tier with
    | some t => if tierRank tier < tierRank t then t else tier
    | none => tier
  else tier

def applyDefault (detection : DetectionConfig) (tier : Tier) : Tier :=
  if tier = .standard then (detection.defaultTier.bind Tier.parse).getD tier else tier

/-- The tier of a request whose model string says nothing. -/
def assignTier (config : RouterConfig) (inbound : InboundRequest) : Tier :=
  let tier := featureTier tools inbound.messages
  let tier := toolFloor (toolsPresent inbound) tier
  let tier := contextFloor (approxTokenCount tools inbound.messages) tier
  let tier := config.detection.rules.foldl (applyRule tools inbound) tier
  applyDefault config.detection tier

def score (config : RouterConfig) (ctx : ScoringContext) : ScoreResult :=
  match ctx.tierHeader.bind Tier.parse with
  | some t => ⟨t, none⟩
  | none =>
    let model := ctx.inbound.model
    match refTier model with
    | some t => ⟨t, some model⟩
    | none =>
      if isAliasRef model then ⟨.standard, some model⟩
      else ⟨assignTier tools config ctx.inbound, none⟩

/-- Without a header and without a tier in the model string, two things are left to go by. -/
theorem score_of_no_tier {config : RouterConfig} {ctx : ScoringContext}
    (hheader : ctx.tierHeader = none) (href : refTier ctx.inbound.model = none) :
    score tools config ctx =
      if isAliasRef ctx.inbound.model then ⟨.standard, some ctx.inbound.model⟩
      else ⟨assignTier tools config ctx.inbound, none⟩ := by
  rw [score, hheader, Option.bind_none]
  dsimp only
  rw [href]

end

end Scorer

end TokenDealer
