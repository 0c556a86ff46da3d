import Mathlib.Data.List.Forall2
import TokenDealer.Specificity
import TokenDealer.TierNames

set_option autoImplicit true

namespace TokenDealer

/-- A text as the one part of an array. -/
def textParts (s : String) : Json.Value :=
  .array [.object [("type", .string "text"), ("text", .string s)]]

/-- The same message, or the same with its text in an array. -/
inductive SameContent : InboundMessage → InboundMessage → Prop
  | same (m : InboundMessage) : SameContent m m
  | parts (m : InboundMessage) (h : m.content = .string s) :
    SameContent m { m with content := textParts s }

/-- The same request with the texts of some of its messages in arrays. -/
structure Rewritten (inbound inbound' : InboundRequest) : Prop where
  messages : List.Forall₂ SameContent inbound.messages inbound'.messages
  rest : inbound' = { inbound with messages := inbound'.messages }

namespace SameContent

theorem role_eq (h : SameContent m m') : m'.role = m.role := by
  cases h with
  | same => rfl
  | parts _ hs => rfl

theorem messageText_eq (h : SameContent m m') : Scorer.messageText m' = Scorer.messageText m := by
  cases h with
  | same => rfl
  | parts _ hs =>
    rw [Scorer.messageText, Scorer.messageText, hs]
    rfl

theorem extractText_eq (h : SameContent m m') :
    Specificity.extractText m'.content = Specificity.extractText m.content := by
  cases h with
  | same => rfl
  | parts _ hs =>
    rw [hs]
    rfl

end SameContent

section Readers

variable {messages messages' : List InboundMessage}

theorem map_sameContent (h : List.Forall₂ SameContent messages messages')
    (hf : ∀ {m m'}, SameContent m m' → f m' = f m) : messages'.map f = messages.map f := by
  induction h with
  | nil => rfl
  | cons hm _ ih => rw [List.map_cons, List.map_cons, hf hm, ih]

theorem any_sameContent (h : List.Forall₂ SameContent messages messages')
    (hf : ∀ {m m'}, SameContent m m' → f m' = f m) : messages'.any f = messages.any f := by
  have hmap := map_sameContent h hf
  calc messages'.any f = (messages'.map f).any id := by rw [List.any_map, Function.id_comp]
    _ = (messages.map f).any id := by rw [hmap]
    _ = messages.any f := by rw [List.any_map, Function.id_comp]

theorem filterMap_sameContent {f : InboundMessage → Option β}
    (h : List.Forall₂ SameContent messages messages')
    (hf : ∀ {m m'}, SameContent m m' → f m' = f m) :
    messages'.filterMap f = messages.filterMap f := by
  have hmap := map_sameContent h hf
  calc messages'.filterMap f = (messages'.map f).filterMap id := by
          rw [List.filterMap_map, Function.id_comp]
    _ = (messages.map f).filterMap id := by rw [hmap]
    _ = messages.filterMap f := by rw [List.filterMap_map, Function.id_comp]

theorem hasImageInMessages_sameContent (h : List.Forall₂ SameContent messages messages') :
    Scorer.hasImageInMessages messages' = Scorer.hasImageInMessages messages := by
  apply any_sameContent h
  intro m m' hm
  cases hm with
  | same => rfl
  | parts _ hs =>
    rw [hs]
    rfl

theorem hasCodeFence_sameContent (h : List.Forall₂ SameContent messages messages') :
    Scorer.hasCodeFence messages' = Scorer.hasCodeFence messages := by
  apply any_sameContent h
  intro m m' hm
  rw [hm.messageText_eq]

theorem hasReasoningKeywords_sameContent (tools : TextTools)
    (h : List.Forall₂ SameContent messages messages') :
    Scorer.hasReasoningKeywords tools messages' =
      Scorer.hasReasoningKeywords tools messages := by
  rw [Scorer.hasReasoningKeywords, Scorer.hasReasoningKeywords, List.filterMap_filter,
    List.filterMap_filter, filterMap_sameContent h]
  intro m m' hm
  cases hm with
  | same => rfl
  | parts _ hs =>
    rw [hs]
    rfl

theorem approxTokenCount_sameContent (tools : TextTools)
    (h : List.Forall₂ SameContent messages messages') :
    Scorer.approxTokenCount tools messages' = Scorer.approxTokenCount tools messages := by
  have hcount : ∀ ms, Scorer.approxTokenCount tools ms =
      (ms.map Scorer.messageText).foldl
        (fun count text => Scorer.saturatingAdd count (UInt32.ofNat (tools.encodedLen text)))
        0 := by
    intro ms
    rw [List.foldl_map]
    rfl
  rw [hcount, hcount, map_sameContent h SameContent.messageText_eq]

theorem lastUserText_sameContent {inbound inbound' : InboundRequest}
    (h : List.Forall₂ SameContent inbound.messages inbound'.messages) :
    Specificity.lastUserText inbound' = Specificity.lastUserText inbound := by
  have hread : ∀ req : InboundRequest, Specificity.lastUserText req =
      ((((req.messages.map fun m => (m.role, Specificity.extractText m.content)).reverse.find?
          fun entry => entry.1 = "user").or
        (req.messages.map fun m => (m.role, Specificity.extractText m.content)).head?).map
          Prod.snd) := by
    intro req
    rw [← List.map_reverse, List.find?_map, List.head?_map, ← Option.map_or, Option.map_map]
    rfl
  rw [hread, hread, map_sameContent h]
  intro m m' hm
  rw [hm.role_eq, hm.extractText_eq]

end Readers

namespace Scorer

section

variable (tools : TextTools) (config : RouterConfig) (inbound inbound' : InboundRequest)

/-- What the content of a request or a rule that matches it asks for. -/
def Asks (t : Tier) : Prop :=
  ContentTier tools inbound.messages t ∨ RuleTier tools config inbound t

def defaultTier : Tier := (config.detection.defaultTier.bind Tier.parse).getD .standard

/-- No more than the standard tier is asked for in one request, and the default that takes its
place is the highest tier asked for in the other. -/
def DefaultIsTop : Prop :=
  (∀ t, Asks tools config inbound t → tierRank t ≤ tierRank .standard) ∧
    Highest.IsHighest tierRank (Asks tools config inbound') (defaultTier config)

end

section

variable {tools : TextTools} {config : RouterConfig} {inbound inbound' : InboundRequest}

theorem exists_isHighest_asks (tools : TextTools) (config : RouterConfig)
    (inbound : InboundRequest) : ∃ top,
      Highest.IsHighest tierRank (Asks tools config inbound) top ∧
      assignTier tools config inbound = if top = .standard then defaultTier config else top :=
  assignTier_eq_iff.mp rfl

/-- The content alone asks for the standard tier at least. -/
theorem exists_asks_standard (tools : TextTools) (config : RouterConfig)
    (inbound : InboundRequest) :
    ∃ t, Asks tools config inbound t ∧ tierRank .standard ≤ tierRank t := by
  refine ⟨_, .inl ((contentTier_iff false).mpr rfl), ?_⟩
  rw [floor_featureTier]
  split_ifs <;> decide

theorem defaultIsTop_iff (htop : Highest.IsHighest tierRank (Asks tools config inbound) top)
    (htop' : Highest.IsHighest tierRank (Asks tools config inbound') top') :
    DefaultIsTop tools config inbound inbound' ↔ top = .standard ∧ top' = defaultTier config := by
  constructor
  · intro h
    obtain ⟨hle, hdefault⟩ := h
    obtain ⟨t, ht, hstandard⟩ := exists_asks_standard tools config inbound
    have hge : tierRank .standard ≤ tierRank top :=
      Nat.le_trans hstandard (htop.2 t ht)
    exact ⟨tierRank_injective _ _ (Nat.le_antisymm (hle top htop.1) hge),
      htop'.unique tierRank_injective hdefault⟩
  · intro h
    obtain ⟨rfl, rfl⟩ := h
    exact ⟨htop.2, htop'⟩

/-- Two requests are put on the same tier when neither asks for more than the other, or when the
configured default makes up for it. -/
theorem assignTier_eq_assignTier_iff :
    assignTier tools config inbound' = assignTier tools config inbound ↔
      (Highest.Within tierRank (Asks tools config inbound') (Asks tools config inbound) ∧
        Highest.Within tierRank (Asks tools config inbound) (Asks tools config inbound')) ∨
      DefaultIsTop tools config inbound inbound' ∨ DefaultIsTop tools config inbound' inbound := by
  obtain ⟨top, htop, heq⟩ := exists_isHighest_asks tools config inbound
  obtain ⟨top', htop', heq'⟩ := exists_isHighest_asks tools config inbound'
  rw [← htop'.eq_iff tierRank_injective htop, defaultIsTop_iff htop htop',
    defaultIsTop_iff htop' htop, heq, heq']
  by_cases hs : top = .standard
  · by_cases hs' : top' = .standard
    · rw [if_pos hs, if_pos hs']
      exact iff_of_true rfl (.inl (hs'.trans hs.symm))
    · rw [if_pos hs, if_neg hs']
      constructor
      · exact fun h => .inr (.inl ⟨hs, h⟩)
      · rintro (h | ⟨-, h⟩ | ⟨h, -⟩)
        · exact absurd (h.trans hs) hs'
        · exact h
        · exact absurd h hs'
  · by_cases hs' : top' = .standard
    · rw [if_neg hs, if_pos hs']
      constructor
      · exact fun h => .inr (.inr ⟨hs', h.symm⟩)
      · rintro (h | ⟨h, -⟩ | ⟨-, h⟩)
        · exact absurd (h.symm.trans hs') hs
        · exact absurd h hs
        · exact h.symm
    · rw [if_neg hs, if_neg hs']
      constructor
      · exact .inl
      · rintro (h | ⟨h, -⟩ | ⟨h, -⟩)
        · exact h
        · exact absurd h hs
        · exact absurd h hs'

theorem tools_rewritten (h : Rewritten inbound inbound') : inbound'.tools = inbound.tools := by
  rw [h.rest]

theorem model_rewritten (h : Rewritten inbound inbound') : inbound'.model = inbound.model := by
  rw [h.rest]

/-- The content asks for the same tier however it is written: only rules can tell. -/
theorem contentTier_rewritten (h : Rewritten inbound inbound') :
    ContentTier tools inbound'.messages t ↔ ContentTier tools inbound.messages t := by
  rw [contentTier_iff false, contentTier_iff false, floor_featureTier, floor_featureTier,
    hasImageInMessages_sameContent h.messages, hasReasoningKeywords_sameContent tools h.messages,
    hasCodeFence_sameContent h.messages, approxTokenCount_sameContent tools h.messages]

/-- So does a rule without keywords. -/
theorem ruleMatches_rewritten {cond : DetectionCondition} (h : Rewritten inbound inbound')
    (hprompt : cond.promptContains = none) :
    ruleMatches tools cond inbound' (approxTokenCount tools inbound'.messages)
        (toolsPresent inbound') =
      ruleMatches tools cond inbound (approxTokenCount tools inbound.messages)
        (toolsPresent inbound) := by
  rw [ruleMatches, ruleMatches, hprompt, approxTokenCount_sameContent tools h.messages,
    toolsPresent, toolsPresent, tools_rewritten h]

/-- The rules that match one of two writings ask for no more than the other is asked for. -/
def RulesAgree (tools : TextTools) (config : RouterConfig) (inbound inbound' : InboundRequest) :
    Prop :=
  Highest.Within tierRank (RuleTier tools config inbound') (Asks tools config inbound) ∧
    Highest.Within tierRank (RuleTier tools config inbound) (Asks tools config inbound')

theorem within_asks_iff {p : Tier → Prop}
    (hcontent : ∀ t, ContentTier tools inbound.messages t → p t) :
    Highest.Within tierRank (Asks tools config inbound) p ↔
      Highest.Within tierRank (RuleTier tools config inbound) p := by
  constructor
  · intro h t ht
    exact h t (.inr ht)
  · rintro h t (ht | ht)
    · exact ⟨t, hcontent t ht, Nat.le_refl _⟩
    · exact h t ht

theorem assignTier_rewritten_iff (h : Rewritten inbound inbound') :
    assignTier tools config inbound' = assignTier tools config inbound ↔
      RulesAgree tools config inbound inbound' ∨ DefaultIsTop tools config inbound inbound' ∨
        DefaultIsTop tools config inbound' inbound := by
  rw [assignTier_eq_assignTier_iff, RulesAgree,
    within_asks_iff fun t ht => .inl ((contentTier_rewritten h).mp ht),
    within_asks_iff fun t ht => .inl ((contentTier_rewritten h).mpr ht)]

theorem ruleTier_of_same_matches
    (h : ∀ rule ∈ config.detection.rules,
      ruleMatches tools rule.condition inbound' (approxTokenCount tools inbound'.messages)
          (toolsPresent inbound') =
        ruleMatches tools rule.condition inbound (approxTokenCount tools inbound.messages)
          (toolsPresent inbound)) :
    RuleTier tools config inbound' t ↔ RuleTier tools config inbound t := by
  constructor
  · intro hrule
    obtain ⟨rule, hmem, hmatches, ht⟩ := hrule
    exact ⟨rule, hmem, (h rule hmem).symm.trans hmatches, ht⟩
  · intro hrule
    obtain ⟨rule, hmem, hmatches, ht⟩ := hrule
    exact ⟨rule, hmem, (h rule hmem).trans hmatches, ht⟩

theorem rulesAgree_of_same_matches
    (h : ∀ rule ∈ config.detection.rules,
      ruleMatches tools rule.condition inbound' (approxTokenCount tools inbound'.messages)
          (toolsPresent inbound') =
        ruleMatches tools rule.condition inbound (approxTokenCount tools inbound.messages)
          (toolsPresent inbound)) :
    RulesAgree tools config inbound inbound' :=
  ⟨fun t ht => ⟨t, .inr ((ruleTier_of_same_matches h).mp ht), Nat.le_refl _⟩,
    fun t ht => ⟨t, .inr ((ruleTier_of_same_matches h).mpr ht), Nat.le_refl _⟩⟩

end

end Scorer

section

variable {tools : TextTools} {config : RouterConfig} {ctx : ScoringContext}
  {inbound' : InboundRequest}

/-- How the content is written never shows in the category detected. It shows in the tier when a
rule with keywords matches one writing only and asks for more than the other is asked for, and
nothing goes before the rules. -/
theorem rewritten_iff (h : Rewritten ctx.inbound inbound') :
    ((Scorer.score tools config { ctx with inbound := inbound' }).tier =
        (Scorer.score tools config ctx).tier ∧
      ∀ order headerOverride recent,
        Specificity.detect tools order config.specificity inbound' headerOverride recent =
          Specificity.detect tools order config.specificity ctx.inbound headerOverride recent) ↔
    (ctx.tierHeader.bind Tier.parse).isSome ∨ (Scorer.refTier ctx.inbound.model).isSome ∨
      Scorer.isAliasRef ctx.inbound.model = true ∨
      Scorer.RulesAgree tools config ctx.inbound inbound' ∨
      Scorer.DefaultIsTop tools config ctx.inbound inbound' ∨
      Scorer.DefaultIsTop tools config inbound' ctx.inbound := by
  have hdetect : ∀ order headerOverride recent,
      Specificity.detect tools order config.specificity inbound' headerOverride recent =
        Specificity.detect tools order config.specificity ctx.inbound headerOverride recent := by
    intro order headerOverride recent
    exact Specificity.detect_congr (Scorer.tools_rewritten h)
      (lastUserText_sameContent h.messages) tools order config.specificity headerOverride recent
  rw [and_iff_left hdetect, Scorer.score, Scorer.score, Scorer.model_rewritten h]
  dsimp only
  cases hheader : ctx.tierHeader.bind Tier.parse with
  | some t => exact iff_of_true rfl (.inl rfl)
  | none =>
    cases href : Scorer.refTier ctx.inbound.model with
    | some t => exact iff_of_true rfl (.inr (.inl rfl))
    | none =>
      cases halias : Scorer.isAliasRef ctx.inbound.model with
      | true => exact iff_of_true rfl (.inr (.inr (.inl rfl)))
      | false =>
        simp only [Option.isSome_none, Bool.false_eq_true, if_false, false_or]
        exact Scorer.assignTier_rewritten_iff h

end

/-- A chat whose one message has its text in an array. -/
def partsChat : InboundRequest :=
  { (sampleChat "auto").scoring.inbound with
    messages := [{ role := "user", content := textParts "hello" }] }

theorem partsChat_rewritten : Rewritten (sampleChat "auto").scoring.inbound partsChat :=
  ⟨.cons (.parts { role := "user", content := .string "hello" } rfl) .nil, rfl⟩

/-- A chat of two messages, and the same with the text of the second in an array. -/
def refactorChat (greeting : Json.Value) : InboundRequest where
  model := "auto"
  messages := [{ role := "user", content := .string "refactor the parser" },
    { role := "user", content := greeting }]

theorem refactorChat_rewritten :
    Rewritten (refactorChat (.string "hello")) (refactorChat (textParts "hello")) :=
  ⟨.cons (.same _) (.cons (.parts { role := "user", content := .string "hello" } rfl) .nil), rfl⟩

/-- A rule with keywords of the first message, and one without keywords. -/
def refactorRules : List DetectionRule :=
  [{ condition := { promptContains := some ["refactor", "parser"] }, tier := "complex" },
    { condition := { hasTools := some false }, tier := "simple" }]

def refactorConfig : RouterConfig :=
  { samplePipeline.config with detection := { rules := refactorRules } }

theorem refactorConfig_agrees :
    Scorer.RulesAgree sampleTools refactorConfig (refactorChat (.string "hello"))
      (refactorChat (textParts "hello")) := by
  apply Scorer.rulesAgree_of_same_matches
  change ∀ rule ∈ refactorRules, _
  rw [refactorRules, List.forall_mem_cons, List.forall_mem_singleton]
  exact ⟨by decide +kernel, Scorer.ruleMatches_rewritten refactorChat_rewritten rfl⟩

theorem rewritten_sample :
    (Scorer.score sampleTools refactorConfig { inbound := refactorChat (textParts "hello") }).tier =
      (Scorer.score sampleTools refactorConfig
        { inbound := refactorChat (.string "hello") }).tier ∧
    ∀ order headerOverride recent,
      Specificity.detect sampleTools order refactorConfig.specificity
          (refactorChat (textParts "hello")) headerOverride recent =
        Specificity.detect sampleTools order refactorConfig.specificity
          (refactorChat (.string "hello")) headerOverride recent :=
  (@rewritten_iff sampleTools refactorConfig { inbound := refactorChat (.string "hello") } _
    refactorChat_rewritten).mpr (.inr (.inr (.inr (.inl refactorConfig_agrees))))

/-- Greetings go to the complex tier. -/
def greetingConfig : RouterConfig :=
  { samplePipeline.config with
    detection :=
      { rules := [{ condition := { promptContains := some ["hello"] }, tier := "complex" }] } }

/-- In an array the greeting is not seen by the rule. -/
theorem rewritten_missed :
    Rewritten (sampleChat "auto").scoring.inbound partsChat ∧
    (Scorer.score sampleTools greetingConfig
      { inbound := (sampleChat "auto").scoring.inbound }).tier = .complex ∧
    (Scorer.score sampleTools greetingConfig { inbound := partsChat }).tier = .standard :=
  ⟨partsChat_rewritten, by decide +kernel, by decide +kernel⟩

end TokenDealer
