import TokenDealer.ModelReferences

set_option autoImplicit true

namespace TokenDealer

namespace Scorer

section

variable (tools : TextTools) (config : RouterConfig) (inbound : InboundRequest)

/-- Neither images nor keywords nor code. -/
def IsPlain (messages : List InboundMessage) : Prop :=
  hasImageInMessages messages = false ∧ hasReasoningKeywords tools messages = false ∧
    hasCodeFence messages = false

/-- The tier that the content of the messages asks for. -/
def ContentTier (messages : List InboundMessage) : Tier → Prop
  | .simple => False
  | .standard => IsPlain tools messages ∧ ¬ highContextTokens < approxTokenCount tools messages
  | .complex => hasImageInMessages messages = false ∧
      hasReasoningKeywords tools messages = false ∧ hasCodeFence messages = true
  | .reasoning => hasImageInMessages messages = false ∧ hasReasoningKeywords tools messages = true
  | .multimodal => hasImageInMessages messages = true
  | .highContext => IsPlain tools messages ∧ highContextTokens < approxTokenCount tools messages

/-- A rule whose condition holds asks for this tier. -/
def RuleTier (t : Tier) : Prop :=
  ∃ rule ∈ config.detection.rules,
    ruleMatches tools rule.condition inbound (approxTokenCount tools inbound.messages)
      (toolsPresent inbound) = true ∧ Tier.parse rule.tier = some t

/-- The highest tier that the content or a rule asks for, with the configured default in place of
the standard one. -/
def ContentAssigns (t : Tier) : Prop :=
  ∃ top, Highest.IsHighest tierRank
      (fun u => ContentTier tools inbound.messages u ∨ RuleTier tools config inbound u) top ∧
    t = if top = .standard then (config.detection.defaultTier.bind Tier.parse).getD .standard
      else top

end

section

variable {tools : TextTools} {config : RouterConfig} {inbound : InboundRequest}

theorem floor_featureTier (approxTokens : UInt32) (present : Bool) :
    contextFloor approxTokens (toolFloor present (featureTier tools messages)) =
      if hasImageInMessages messages then .multimodal
      else if hasReasoningKeywords tools messages then .reasoning
      else if hasCodeFence messages then .complex
      else if highContextTokens < approxTokens then .highContext
      else .standard := by
  have hfloor : ∀ t, t ≠ .simple → toolFloor present t = t := by
    intro t ht
    rw [toolFloor, decide_eq_false ht, Bool.and_false]
    rfl
  rw [featureTier]
  split
  · rw [hfloor _ (by decide), contextFloor, ite_self]
  · split
    · rw [hfloor _ (by decide), contextFloor, ite_self]
    · split
      · rw [hfloor _ (by decide), contextFloor, ite_self]
      · rw [hfloor _ (by decide), contextFloor]

theorem contentTier_iff (present : Bool) : ContentTier tools messages t ↔
    t = contextFloor (approxTokenCount tools messages)
      (toolFloor present (featureTier tools messages)) := by
  rw [floor_featureTier]
  cases himage : hasImageInMessages messages with
  | true => cases t <;> simp [ContentTier, IsPlain, himage]
  | false =>
    cases hkeywords : hasReasoningKeywords tools messages with
    | true => cases t <;> simp [ContentTier, IsPlain, himage, hkeywords]
    | false =>
      cases hfence : hasCodeFence messages with
      | true => cases t <;> simp [ContentTier, IsPlain, himage, hkeywords, hfence]
      | false =>
        by_cases hlarge : highContextTokens < approxTokenCount tools messages
        · cases t <;> simp [ContentTier, IsPlain, himage, hkeywords, hfence, hlarge]
        · cases t <;> simp [ContentTier, IsPlain, himage, hkeywords, hfence, hlarge]

/-- The tiers of the rules whose conditions hold. -/
def ruleTiers (tools : TextTools) (config : RouterConfig) (inbound : InboundRequest) :
    List Tier :=
  config.detection.rules.filterMap fun rule =>
    if ruleMatches tools rule.condition inbound (approxTokenCount tools inbound.messages)
        (toolsPresent inbound) then Tier.parse rule.tier
    else none

theorem mem_ruleTiers : t ∈ ruleTiers tools config inbound ↔ RuleTier tools config inbound t := by
  rw [ruleTiers, List.mem_filterMap, RuleTier]
  constructor
  · intro h
    obtain ⟨rule, hmem, ht⟩ := h
    split at ht
    · exact ⟨rule, hmem, ‹_›, ht⟩
    · cases ht
  · intro h
    obtain ⟨rule, hmem, hmatches, ht⟩ := h
    exact ⟨rule, hmem, by rw [if_pos hmatches, ht]⟩

/-- The loop over the rules raises the tier to the highest one they ask for. -/
theorem foldl_applyRule (rules : List DetectionRule) (tier : Tier) :
    rules.foldl (applyRule tools inbound) tier =
      Highest.raise tierRank tier
        (ruleTiers tools { detection := { rules := rules } } inbound) := by
  induction rules generalizing tier with
  | nil => rfl
  | cons rule rest ih =>
    rw [List.foldl_cons, ih]
    simp only [ruleTiers, List.filterMap_cons, applyRule]
    split
    · cases Tier.parse rule.tier with
      | none => rfl
      | some t => rfl
    · rfl

theorem isHighest_rules : Highest.IsHighest tierRank
    (fun u => ContentTier tools inbound.messages u ∨ RuleTier tools config inbound u)
    (config.detection.rules.foldl (applyRule tools inbound)
      (contextFloor (approxTokenCount tools inbound.messages)
        (toolFloor (toolsPresent inbound) (featureTier tools inbound.messages)))) := by
  rw [foldl_applyRule]
  apply (Highest.isHighest_raise tierRank _ _).congr
  intro u
  rw [contentTier_iff (toolsPresent inbound), ← mem_ruleTiers]
  rfl

/-- What the scorer works out step by step is the highest tier asked for. -/
theorem assignTier_eq_iff : assignTier tools config inbound = t ↔
    ContentAssigns tools config inbound t := by
  have htop : Highest.IsHighest tierRank
      (fun u => ContentTier tools inbound.messages u ∨ RuleTier tools config inbound u)
      (config.detection.rules.foldl (applyRule tools inbound)
        (contextFloor (approxTokenCount tools inbound.messages)
          (toolFloor (toolsPresent inbound) (featureTier tools inbound.messages)))) :=
    isHighest_rules
  have hdefault : assignTier tools config inbound =
      applyDefault config.detection (config.detection.rules.foldl (applyRule tools inbound)
        (contextFloor (approxTokenCount tools inbound.messages)
          (toolFloor (toolsPresent inbound) (featureTier tools inbound.messages)))) := rfl
  rw [hdefault]
  generalize config.detection.rules.foldl (applyRule tools inbound)
    (contextFloor (approxTokenCount tools inbound.messages)
      (toolFloor (toolsPresent inbound) (featureTier tools inbound.messages))) = top at htop
  have happly : applyDefault config.detection top =
      if top = .standard then (config.detection.defaultTier.bind Tier.parse).getD .standard
      else top := by
    rw [applyDefault]
    split
    · rename_i hstandard
      rw [hstandard]
    · rfl
  rw [happly]
  constructor
  · rintro rfl
    exact ⟨top, htop, rfl⟩
  · intro h
    obtain ⟨other, hother, rfl⟩ := h
    rw [hother.unique tierRank_injective htop]

end

end Scorer

/-- A model string names a model of a registered provider. -/
def IsRoutable (registry : ProviderRegistry) (ref : String) : Prop :=
  ∃ p m, ref = p ++ "/" ++ m ∧ '/' ∉ p.toList ∧ (registry p).isSome ∧ p ≠ "" ∧ m ≠ ""

section

variable {name primary : String} {t : Tier} {pipe : Pipeline}

theorem splitn_tierName (ht : Tier.parse name = some t) : Str.splitn 3 '/' name = [name] :=
  Str.splitn_of_not_mem (Tier.slash_not_mem ht) 1

theorem refTier_tierName (ht : Tier.parse name = some t) : Scorer.refTier name = none := by
  rw [Scorer.refTier, splitn_tierName ht]

theorem isAliasRef_tierName (ht : Tier.parse name = some t) : Scorer.isAliasRef name = false := by
  rw [Scorer.isAliasRef, splitn_tierName ht]

/-- The name of a tier is no reference of any kind: the content decides. -/
theorem chatRoute_tierName {request : ChatRequest} (tools : TextTools)
    (ht : Tier.parse name = some t) (hmodel : request.scoring.inbound.model = name)
    (hheader : request.scoring.tierHeader = none)
    (hoff : pipe.config.specificity.enabled = false) :
    pipe.chatRoute tools request =
      (Scorer.assignTier tools pipe.config request.scoring.inbound,
        pipe.selectRoute none (Scorer.assignTier tools pipe.config request.scoring.inbound)) := by
  have href := refTier_tierName ht
  have halias := isAliasRef_tierName ht
  rw [← hmodel] at href halias
  rw [Pipeline.chatRoute, routeChoice_of_no_tier tools href hoff,
    Scorer.score_of_no_tier tools hheader href, halias]
  rfl

theorem selectRoute_none_iff (hprimary : pipe.config.primaryForTier t = some primary) :
    pipe.selectRoute none t = .ok route ↔
      Selector.routeExplicit pipe.registry primary = some route := by
  rw [Pipeline.selectRoute, Selector.routeTier, hprimary]
  dsimp only
  cases Selector.routeExplicit pipe.registry primary with
  | none =>
    apply iff_of_false
    · intro h
      cases h
    · intro h
      cases h
  | some found => rw [Except.ok.injEq, Option.some.injEq]

/-- A request for a tier by its name gets the tier, and its primary, exactly when the content of
the request and the rules ask for that tier anyway and the primary names a model of a registered
provider. -/
theorem tier_name_iff {request : ChatRequest} (tools : TextTools)
    (ht : Tier.parse name = some t) (hprimary : pipe.config.primaryForTier t = some primary)
    (hmodel : request.scoring.inbound.model = name) (hheader : request.scoring.tierHeader = none)
    (hoff : pipe.config.specificity.enabled = false) :
    ((pipe.chatRoute tools request).1 = t ∧
      ∃ route, (pipe.chatRoute tools request).2 = .ok route ∧
        primary = route.providerId ++ "/" ++ route.modelId) ↔
      Scorer.ContentAssigns tools pipe.config request.scoring.inbound t ∧
        IsRoutable pipe.registry primary := by
  rw [chatRoute_tierName tools ht hmodel hheader hoff, ← Scorer.assignTier_eq_iff]
  dsimp only
  constructor
  · intro h
    obtain ⟨hassigned, route, hroute, -⟩ := h
    rw [hassigned, selectRoute_none_iff hprimary, routeExplicit_eq_some_iff] at hroute
    exact ⟨hassigned, route.providerId, route.modelId, hroute⟩
  · intro h
    obtain ⟨hassigned, p, m, hroutable⟩ := h
    refine ⟨hassigned, ⟨p, m⟩, ?_, hroutable.1⟩
    rw [hassigned, selectRoute_none_iff hprimary, routeExplicit_eq_some_iff]
    exact hroutable

end

/-- One provider behind two tiers. -/
def tieredPipeline : Pipeline :=
  { samplePipeline with
    config := { samplePipeline.config with
      tiers :=
        [("complex", { primary := "openai/o3" }), ("standard", { primary := "openai/gpt-4o" })] } }

/-- A greeting for the standard tier gets it. -/
theorem tier_name_sample :
    (tieredPipeline.chatRoute sampleTools (sampleChat "standard")).1 = .standard ∧
      ∃ route, (tieredPipeline.chatRoute sampleTools (sampleChat "standard")).2 = .ok route ∧
        "openai/gpt-4o" = route.providerId ++ "/" ++ route.modelId :=
  have hprimary : tieredPipeline.config.primaryForTier .standard = some "openai/gpt-4o" := rfl
  (tier_name_iff sampleTools (rfl : Tier.parse "standard" = some .standard) hprimary rfl rfl
    rfl).mpr
    ⟨Scorer.assignTier_eq_iff.mp (by decide),
      "openai", "gpt-4o", rfl, by decide, rfl, by decide, by decide⟩

/-- A greeting for the complex tier does not: it goes to the primary of the standard tier. -/
theorem tier_name_ignored :
    Tier.parse "complex" = some .complex ∧
    tieredPipeline.config.primaryForTier .complex = some "openai/o3" ∧
    tieredPipeline.config.specificity.enabled = false ∧
    tieredPipeline.chatRoute sampleTools (sampleChat "complex") =
      (.standard, .ok ⟨"openai", "gpt-4o"⟩) := by
  have hstandard : Scorer.assignTier sampleTools tieredPipeline.config
      (sampleChat "complex").scoring.inbound = .standard := by decide
  refine ⟨rfl, rfl, rfl, ?_⟩
  rw [chatRoute_tierName sampleTools (rfl : Tier.parse "complex" = some .complex) rfl rfl rfl,
    hstandard]
  rfl

end TokenDealer
