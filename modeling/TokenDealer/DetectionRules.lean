import TokenDealer.ContentShape

set_option autoImplicit true

namespace TokenDealer

/-- The same configuration with other detection rules. -/
def RouterConfig.withRules (config : RouterConfig) (rules : List DetectionRule) : RouterConfig :=
  { config with detection := { config.detection with rules := rules } }

namespace Scorer

/-- Neither the header nor the model string of a request says how to route it. -/
structure Undirected (ctx : ScoringContext) : Prop where
  noHeader : ctx.tierHeader.bind Tier.parse = none
  noTier : refTier ctx.inbound.model = none
  noProvider : isAliasRef ctx.inbound.model = false

section

variable (tools : TextTools) (config : RouterConfig) (inbound : InboundRequest)

/-- The tier before the rules. -/
def heuristicTier : Tier :=
  contextFloor (approxTokenCount tools inbound.messages)
    (toolFloor (toolsPresent inbound) (featureTier tools inbound.messages))

/-- The tier after the rules, before the default one takes the place of the standard one. -/
def ruledTier : Tier :=
  config.detection.rules.foldl (applyRule tools inbound) (heuristicTier tools inbound)

/-- What is asked for: the heuristic tier and those of the rules that match. -/
def AskedFor (t : Tier) : Prop := t = heuristicTier tools inbound ∨ RuleTier tools config inbound t

end

section

variable {tools : TextTools} {config : RouterConfig} {inbound : InboundRequest}

theorem score_of_undirected (h : Undirected ctx) : score tools config ctx =
    ⟨applyDefault config.detection (ruledTier tools config ctx.inbound), none⟩ := by
  rw [score, h.noHeader]
  dsimp only
  rw [h.noTier]
  dsimp only
  rw [h.noProvider]
  rfl

theorem asks_iff_askedFor : Asks tools config inbound t ↔ AskedFor tools config inbound t :=
  or_congr_left (contentTier_iff (toolsPresent inbound))

theorem isHighest_ruledTier :
    Highest.IsHighest tierRank (AskedFor tools config inbound) (ruledTier tools config inbound) :=
  isHighest_rules.congr fun _ => asks_iff_askedFor

/-- With more rules no less is asked for. -/
theorem askedFor_mono {rules : List DetectionRule} (h : config.detection.rules ⊆ rules) :
    AskedFor tools config inbound t → AskedFor tools (config.withRules rules) inbound t := by
  apply Or.imp_right
  intro hrule
  obtain ⟨rule, hmem, hmatches, ht⟩ := hrule
  exact ⟨rule, h hmem, hmatches, ht⟩

theorem askedFor_congr {rules : List DetectionRule}
    (h : ∀ rule, rule ∈ rules ↔ rule ∈ config.detection.rules) :
    AskedFor tools (config.withRules rules) inbound t ↔ AskedFor tools config inbound t := by
  constructor
  · have hback : AskedFor tools (config.withRules rules) inbound t →
        AskedFor tools ((config.withRules rules).withRules config.detection.rules) inbound t :=
      askedFor_mono fun rule hr => (h rule).mp hr
    exact hback
  · exact askedFor_mono fun rule hr => (h rule).mpr hr

theorem ruledTier_mono {rules : List DetectionRule} (h : config.detection.rules ⊆ rules) :
    tierRank (ruledTier tools config inbound) ≤
      tierRank (ruledTier tools (config.withRules rules) inbound) :=
  isHighest_ruledTier.mono isHighest_ruledTier fun _ => askedFor_mono h

theorem ruledTier_congr {rules : List DetectionRule}
    (h : ∀ rule, rule ∈ rules ↔ rule ∈ config.detection.rules) :
    ruledTier tools (config.withRules rules) inbound = ruledTier tools config inbound :=
  (isHighest_ruledTier.congr fun _ => askedFor_congr h).unique tierRank_injective
    isHighest_ruledTier

end

/-- Before the default step the tier is the highest one asked for. So neither the order of the rules
nor how often one is written matters, and no rule that is added lowers it. -/
theorem rules_act_as_maximum (tools : TextTools) (config : RouterConfig) {ctx : ScoringContext}
    (h : Undirected ctx) :
    score tools config ctx =
      ⟨applyDefault config.detection (ruledTier tools config ctx.inbound), none⟩ ∧
    Highest.IsHighest tierRank (AskedFor tools config ctx.inbound)
      (ruledTier tools config ctx.inbound) ∧
    (∀ rules, (∀ rule, rule ∈ rules ↔ rule ∈ config.detection.rules) →
      ruledTier tools (config.withRules rules) ctx.inbound = ruledTier tools config ctx.inbound) ∧
    ∀ rules, config.detection.rules ⊆ rules →
      tierRank (ruledTier tools config ctx.inbound) ≤
        tierRank (ruledTier tools (config.withRules rules) ctx.inbound) :=
  ⟨score_of_undirected h, isHighest_ruledTier, fun _ hsame => ruledTier_congr hsame,
    fun _ hmore => ruledTier_mono hmore⟩

/-- A chat that leaves its tier to its content. -/
def plainContext : ScoringContext := { inbound := (sampleChat "auto").scoring.inbound }

theorem plainContext_undirected : Undirected plainContext := ⟨rfl, by decide, by decide⟩

/-- Two rules that match a greeting, one that names no tier and one that does not match. -/
def greetingRules : List DetectionRule :=
  [{ condition := { promptContains := some ["hello"] }, tier := "complex" },
    { condition := { promptContains := some ["hello"] }, tier := "gigantic" },
    { condition := { hasTools := some false }, tier := "simple" },
    { condition := { promptContains := some ["prove"] }, tier := "reasoning" }]

/-- The greeting goes to the complex tier, in any order of the rules. -/
theorem rules_act_as_maximum_sample :
    score sampleTools (greetingConfig.withRules greetingRules) plainContext = ⟨.complex, none⟩ ∧
    Highest.IsHighest tierRank
      (AskedFor sampleTools (greetingConfig.withRules greetingRules) plainContext.inbound)
      .complex ∧
    (∀ rules, (∀ rule, rule ∈ rules ↔ rule ∈ greetingRules) →
      ruledTier sampleTools (greetingConfig.withRules rules) plainContext.inbound = .complex) ∧
    ∀ rules, greetingRules ⊆ rules → tierRank .complex ≤
      tierRank (ruledTier sampleTools (greetingConfig.withRules rules) plainContext.inbound) := by
  have hruled : ruledTier sampleTools (greetingConfig.withRules greetingRules)
      plainContext.inbound = .complex := by decide +kernel
  obtain ⟨hscore, hhighest, hsame, hmore⟩ := rules_act_as_maximum sampleTools
    (greetingConfig.withRules greetingRules) plainContext_undirected
  rw [hruled] at hscore hhighest hsame hmore
  exact ⟨hscore, hhighest, hsame, hmore⟩

section

variable (tools : TextTools) (config : RouterConfig) (inbound : InboundRequest)

/-- A tier is no lower than those of the rules that match, nor than the one that tools need. -/
def RespectsFloors (tier : Tier) : Prop :=
  (∀ t, RuleTier tools config inbound t → tierRank t ≤ tierRank tier) ∧
    (toolsPresent inbound = true → tierRank .standard ≤ tierRank tier)

/-- Where the configured default is the simple tier and takes the place of the standard one, nothing
has asked for the standard tier. -/
def DefaultIsHarmless : Prop :=
  defaultTier config = .simple →
    (∀ t, AskedFor tools config inbound t → tierRank t ≤ tierRank .standard) →
    toolsPresent inbound = false ∧ ¬ RuleTier tools config inbound .standard

end

section

variable {tools : TextTools} {config : RouterConfig} {inbound : InboundRequest}

/-- The content alone asks for the standard tier at least. -/
theorem standard_le_ruledTier :
    tierRank .standard ≤ tierRank (ruledTier tools config inbound) := by
  obtain ⟨t, ht, hstandard⟩ := exists_asks_standard tools config inbound
  exact Nat.le_trans hstandard (isHighest_ruledTier.2 t (asks_iff_askedFor.mp ht))

theorem respectsFloors_ruledTier :
    RespectsFloors tools config inbound (ruledTier tools config inbound) :=
  ⟨fun t ht => isHighest_ruledTier.2 t (.inr ht), fun _ => standard_le_ruledTier⟩

theorem applyDefault_standard (config : RouterConfig) :
    applyDefault config.detection .standard = defaultTier config :=
  if_pos rfl

theorem standard_le_of_ne_simple (h : t ≠ .simple) : tierRank .standard ≤ tierRank t := by
  cases t with
  | simple => exact absurd rfl h
  | _ => decide

/-- The simple tier is no floor, and every other one that is no higher than the standard tier is
the standard tier. -/
theorem eq_standard_of_between (hle : tierRank t ≤ tierRank .standard)
    (hgt : ¬ tierRank t ≤ tierRank .simple) : t = .standard := by
  cases t with
  | standard => rfl
  | simple => exact absurd (Nat.le_refl _) hgt
  | _ => exact absurd hle (by decide)

theorem respectsFloors_simple_iff (hstandard : ruledTier tools config inbound = .standard) :
    RespectsFloors tools config inbound .simple ↔
      toolsPresent inbound = false ∧ ¬ RuleTier tools config inbound .standard := by
  constructor
  · intro h
    obtain ⟨hrules, htools⟩ := h
    refine ⟨?_, fun hrule => absurd (hrules .standard hrule) (by decide)⟩
    rw [Bool.eq_false_iff]
    exact fun hpresent => absurd (htools hpresent) (by decide)
  · intro h
    obtain ⟨hno, hrule⟩ := h
    refine ⟨fun t ht => ?_, fun hpresent => ?_⟩
    · by_contra hgt
      have hle : tierRank t ≤ tierRank .standard := by
        rw [← hstandard]
        exact isHighest_ruledTier.2 t (.inr ht)
      rw [eq_standard_of_between hle hgt] at ht
      exact hrule ht
    · rw [hno] at hpresent
      cases hpresent

theorem respectsFloors_applyDefault_iff :
    RespectsFloors tools config inbound
        (applyDefault config.detection (ruledTier tools config inbound)) ↔
      DefaultIsHarmless tools config inbound := by
  have hfloors : RespectsFloors tools config inbound (ruledTier tools config inbound) :=
    respectsFloors_ruledTier
  have htop : Highest.IsHighest tierRank (AskedFor tools config inbound)
      (ruledTier tools config inbound) := isHighest_ruledTier
  by_cases hstandard : ruledTier tools config inbound = .standard
  · have hlow : ∀ t, AskedFor tools config inbound t → tierRank t ≤ tierRank .standard := by
      rw [← hstandard]
      exact htop.2
    rw [DefaultIsHarmless, hstandard, applyDefault_standard]
    by_cases hsimple : defaultTier config = .simple
    · rw [hsimple, respectsFloors_simple_iff hstandard]
      exact ⟨fun h _ _ => h, fun h => h rfl hlow⟩
    · have hkept : tierRank .standard ≤ tierRank (defaultTier config) :=
        standard_le_of_ne_simple hsimple
      refine iff_of_true ⟨fun t ht => ?_, fun _ => hkept⟩ fun h => absurd h hsimple
      exact Nat.le_trans (hlow t (.inr ht)) hkept
  · rw [applyDefault, if_neg hstandard]
    refine iff_of_true hfloors fun _ hlow => absurd ?_ hstandard
    exact tierRank_injective _ _ (Nat.le_antisymm (hlow _ htop.1) standard_le_ruledTier)

end

/-- The floors hold to the end unless the default step puts the simple tier below them. -/
theorem floors_hold_iff (tools : TextTools) (config : RouterConfig) {ctx : ScoringContext}
    (h : Undirected ctx) :
    RespectsFloors tools config ctx.inbound (score tools config ctx).tier ↔
      DefaultIsHarmless tools config ctx.inbound := by
  rw [score_of_undirected h]
  exact respectsFloors_applyDefault_iff

theorem floors_hold_sample :
    RespectsFloors sampleTools greetingConfig plainContext.inbound
      (score sampleTools greetingConfig plainContext).tier :=
  (floors_hold_iff sampleTools greetingConfig plainContext_undirected).mpr
    fun hsimple => absurd hsimple (by decide)

/-- The operator has made the simple tier the default one. -/
def simpleDefault : RouterConfig :=
  { samplePipeline.config with detection := { defaultTier := some "simple" } }

/-- A chat that brings a tool along. -/
def toolContext : ScoringContext where
  inbound :=
    { plainContext.inbound with tools := some [⟨"function", ⟨"clock", none, .object []⟩⟩] }

/-- With tools in the request the default still lowers its tier to the simple one. -/
theorem floors_lowered :
    Undirected toolContext ∧ toolsPresent toolContext.inbound = true ∧
      (score sampleTools simpleDefault toolContext).tier = .simple ∧
      ¬ RespectsFloors sampleTools simpleDefault toolContext.inbound
        (score sampleTools simpleDefault toolContext).tier := by
  have hsimple : (score sampleTools simpleDefault toolContext).tier = .simple := by decide +kernel
  refine ⟨⟨rfl, by decide, by decide⟩, rfl, hsimple, ?_⟩
  intro h
  rw [hsimple] at h
  exact absurd (h.2 rfl) (by decide)

end Scorer

end TokenDealer
