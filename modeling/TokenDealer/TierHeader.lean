import TokenDealer.ModelReferences

set_option autoImplicit true

namespace TokenDealer

/-- The same request without the tier header. -/
def ScoringContext.withoutHeader (ctx : ScoringContext) : ScoringContext :=
  { ctx with tierHeader := none }

/-- What the handler and the scorer make of the model string, before specificity has its say. -/
def explicitChoice (tools : TextTools) (config : RouterConfig) (ctx : ScoringContext) :
    Option String :=
  ((Scorer.refTier ctx.inbound.model).map fun _ => ctx.inbound.model).or
    (Scorer.score tools config ctx).modelOverride

/-- The primary of a category goes before it. -/
theorem routeChoice_explicitChoice (tools : TextTools) (config : RouterConfig)
    (request : ChatRequest) : (routeChoice tools config request).modelOverride =
      (specificityPrimary config request).or (explicitChoice tools config request.scoring) := rfl

section

variable {tools : TextTools} {config : RouterConfig} {ctx : ScoringContext} {request : ChatRequest}
  {header : String} {t : Tier}

theorem Scorer.score_header (hheader : ctx.tierHeader = some header)
    (ht : Tier.parse header = some t) : Scorer.score tools config ctx = ⟨t, none⟩ := by
  rw [Scorer.score, hheader, Option.bind_some, ht]

theorem Scorer.isAliasRef_of_refTier (h : Scorer.refTier model = some u) :
    Scorer.isAliasRef model = false := by
  rw [Scorer.refTier] at h
  rw [Scorer.isAliasRef]
  split at h
  · rename_i hparts
    rw [hparts]
  · cases h

/-- Once the scorer has read a header only a tier in the model string makes an explicit choice. -/
theorem explicitChoice_header (hheader : ctx.tierHeader = some header)
    (ht : Tier.parse header = some t) : explicitChoice tools config ctx =
      (Scorer.refTier ctx.inbound.model).map fun _ => ctx.inbound.model := by
  rw [explicitChoice, Scorer.score_header hheader ht, Option.or_none]

theorem explicitChoice_withoutHeader : explicitChoice tools config ctx.withoutHeader =
    if (Scorer.refTier ctx.inbound.model).isSome || Scorer.isAliasRef ctx.inbound.model then
      some ctx.inbound.model
    else none := by
  have hmodel : ctx.withoutHeader.inbound = ctx.inbound := rfl
  rw [explicitChoice, hmodel]
  cases href : Scorer.refTier ctx.inbound.model with
  | some u => rw [Option.isSome_some, Bool.true_or, if_pos rfl, Option.map_some, Option.some_or]
  | none =>
    have hscore : Scorer.score tools config ctx.withoutHeader =
        if Scorer.isAliasRef ctx.inbound.model then ⟨.standard, some ctx.inbound.model⟩
        else ⟨Scorer.assignTier tools config ctx.inbound, none⟩ :=
      Scorer.score_of_no_tier tools rfl href
    rw [hscore, Option.map_none, Option.none_or, Option.isSome_none, Bool.false_or]
    split
    · rfl
    · rfl

theorem routeChoice_tier_header (hheader : request.scoring.tierHeader = some header)
    (ht : Tier.parse header = some t) : (routeChoice tools config request).tier =
      (Scorer.refTier request.scoring.inbound.model).getD t := by
  rw [routeChoice, Scorer.score_header hheader ht]

/-- The scorer returns at the header and never looks at the model string; the handler looks at it
first and keeps its tier. So the header decides the tier, and nothing else, exactly when the model
string brings no other tier and is no reference by a provider's name. -/
theorem tier_header_iff (hheader : request.scoring.tierHeader = some header)
    (ht : Tier.parse header = some t) :
    ((routeChoice tools config request).tier = t ∧
      explicitChoice tools config request.scoring =
        explicitChoice tools config request.scoring.withoutHeader) ↔
    (∀ u, Scorer.refTier request.scoring.inbound.model = some u → u = t) ∧
      Scorer.isAliasRef request.scoring.inbound.model = false := by
  rw [routeChoice_tier_header hheader ht, explicitChoice_header hheader ht,
    explicitChoice_withoutHeader]
  cases href : Scorer.refTier request.scoring.inbound.model with
  | some u =>
    have halias : Scorer.isAliasRef request.scoring.inbound.model = false :=
      Scorer.isAliasRef_of_refTier href
    rw [Option.isSome_some, Bool.true_or, if_pos rfl, Option.map_some, Option.getD_some]
    constructor
    · intro h
      obtain ⟨rfl, -⟩ := h
      exact ⟨fun v hv => (Option.some.inj hv).symm, halias⟩
    · intro h
      obtain ⟨hsame, -⟩ := h
      exact ⟨hsame u rfl, rfl⟩
  | none =>
    rw [Option.map_none, Option.getD_none, Option.isSome_none, Bool.false_or]
    cases halias : Scorer.isAliasRef request.scoring.inbound.model with
    | true =>
      rw [if_pos rfl]
      exact iff_of_false (fun h => Option.some_ne_none _ h.2.symm)
        fun h => Bool.false_ne_true h.2.symm
    | false =>
      rw [if_neg Bool.false_ne_true]
      refine iff_of_true ⟨rfl, rfl⟩ ⟨?_, rfl⟩
      intro u hu
      cases hu

end

/-- A chat with a header for the complex tier. -/
def headedChat (model : String) : ChatRequest :=
  { sampleChat model with
    scoring := { (sampleChat model).scoring with tierHeader := some "complex" } }

theorem tier_header_sample :
    (routeChoice sampleTools samplePipeline.config (headedChat "complex/openai/o3")).tier =
      .complex ∧
    explicitChoice sampleTools samplePipeline.config (headedChat "complex/openai/o3").scoring =
      explicitChoice sampleTools samplePipeline.config
        (headedChat "complex/openai/o3").scoring.withoutHeader := by
  have href : Scorer.refTier "complex/openai/o3" = some .complex := by decide +kernel
  have hheader : (headedChat "complex/openai/o3").scoring.tierHeader = some "complex" := rfl
  have ht : Tier.parse "complex" = some .complex := rfl
  refine (tier_header_iff hheader ht).mpr ⟨?_, by decide +kernel⟩
  intro u hu
  exact Option.some.inj (hu.symm.trans href)

/-- A tier in the model string wins against the header; a provider in it is forgotten. -/
theorem tier_header_ignored :
    Tier.parse "complex" = some .complex ∧
    (routeChoice sampleTools samplePipeline.config (headedChat "simple/openai/gpt-4o")).tier =
      .simple ∧
    explicitChoice sampleTools samplePipeline.config
      (headedChat "openai/gpt-4o").scoring.withoutHeader = some "openai/gpt-4o" ∧
    explicitChoice sampleTools samplePipeline.config (headedChat "openai/gpt-4o").scoring =
      none := by
  decide +kernel

end TokenDealer
