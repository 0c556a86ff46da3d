import Mathlib.Tactic.SplitIfs
import TokenDealer.ChatRoute
import TokenDealer.Passthrough

set_option autoImplicit true

namespace TokenDealer

/-- A name that a tier is known by has no slash in it. -/
theorem Tier.slash_not_mem (h : Tier.parse name = some t) : '/' ∉ name.toList := by
  rw [Tier.parse] at h
  split_ifs at h with h1 h2 h3 h4 h5 h6
  · rw [h1]; decide
  · rw [h2]; decide
  · rw [h3]; decide
  · rw [h4]; decide
  · rcases h5 with rfl | rfl <;> decide
  · rcases h6 with rfl | rfl <;> decide

section TierReference

variable {name p : String} {t : Tier}

theorem tierRef_assoc (name p m : String) :
    name ++ "/" ++ p ++ "/" ++ m = name ++ "/" ++ (p ++ "/" ++ m) := by
  simp only [String.append_assoc]

theorem refTier_append (ht : Tier.parse name = some t) (hp : '/' ∉ p.toList) (m : String) :
    Scorer.refTier (name ++ "/" ++ p ++ "/" ++ m) = some t := by
  rw [tierRef_assoc, Scorer.refTier, slash_eq, Str.splitn_append (Tier.slash_not_mem ht),
    Str.splitn_append hp, Str.splitn_one]
  exact ht

theorem append_slash_ne_empty (p m : String) : p ++ "/" ++ m ≠ "" := by
  intro h
  have hlist := congrArg String.toList h
  rw [slash_eq, Str.toList_append_singleton] at hlist
  exact List.append_ne_nil_of_right_ne_nil _ (List.cons_ne_nil _ _) hlist

theorem Tier.ne_empty_of_parse (ht : Tier.parse name = some t) : name ≠ "" := by
  rintro rfl
  cases ht

/-- A reference with a tier in front is read as one to a provider of the tier's name. -/
theorem splitRef_append (ht : Tier.parse name = some t) (p m : String) :
    Passthrough.splitRef (name ++ "/" ++ p ++ "/" ++ m) = some (name, p ++ "/" ++ m) := by
  rw [tierRef_assoc, Passthrough.splitRef, splitModelRef_append (Tier.slash_not_mem ht),
    if_neg (not_or.mpr ⟨Tier.ne_empty_of_parse ht, append_slash_ne_empty p m⟩)]

/-- So is it by the chat handler, which then asks for that provider. -/
theorem chatRoute_tierRef {pipe : Pipeline} {tools : TextTools} {request : ChatRequest}
    (ht : Tier.parse name = some t) (hp : '/' ∉ p.toList)
    (hmodel : request.scoring.inbound.model = name ++ "/" ++ p ++ "/" ++ m)
    (hoff : pipe.config.specificity.enabled = false) :
    pipe.chatRoute tools request =
      (t, pipe.selectRoute (some (name ++ "/" ++ p ++ "/" ++ m)) t) := by
  rw [Pipeline.chatRoute, routeChoice, hmodel, refTier_append ht hp, specificityPrimary_off hoff]
  rfl

theorem selectRoute_tierRef (pipe : Pipeline) (ht : Tier.parse name = some t)
    (hmodel : model = name ++ "/" ++ p ++ "/" ++ m) : pipe.selectRoute (some model) t =
      if (pipe.registry name).isSome then .ok ⟨name, p ++ "/" ++ m⟩
      else .error (.badRequest s!"unknown provider in model ref: {model}") := by
  have hroute := routeExplicit_append (Tier.slash_not_mem ht) pipe.registry (p ++ "/" ++ m)
  rw [← tierRef_assoc, ← hmodel] at hroute
  rw [Pipeline.selectRoute, hroute]
  by_cases hname : (pipe.registry name).isSome
  · rw [if_pos hname, if_pos ⟨hname, Tier.ne_empty_of_parse ht, append_slash_ne_empty p m⟩]
  · rw [if_neg hname, if_neg fun h => hname h.1]

/-- No handler takes `tier/provider/model` to the provider in it. -/
theorem tierRef_unresolved {pipe : Pipeline} {tools : TextTools} {request : ChatRequest}
    {body : Json.Value} (ht : Tier.parse name = some t) (hp : '/' ∉ p.toList)
    (hprovider : Tier.parse p = none) (hoff : pipe.config.specificity.enabled = false)
    (hmodel : request.scoring.inbound.model = name ++ "/" ++ p ++ "/" ++ m)
    (hbody : Passthrough.requestModel body = name ++ "/" ++ p ++ "/" ++ m) :
    pipe.chatRoute tools request ≠ (t, .ok ⟨p, m⟩) ∧
    ∀ adapter, Passthrough.multimodal pipe.registry body ≠ .ok (p, adapter) ∧
      Passthrough.messages pipe.registry pipe.config body ≠ .ok (p, adapter) ∧
      Passthrough.responses pipe.registry pipe.config body ≠ .ok (p, adapter) := by
  have hname : name ≠ p := by
    rintro rfl
    rw [ht] at hprovider
    cases hprovider
  have hread : (Passthrough.splitRef (Passthrough.requestModel body)).map Prod.fst ≠ some p := by
    rw [hbody, splitRef_append ht, Option.map_some, Ne, Option.some.injEq]
    exact hname
  refine ⟨?_, fun adapter => ⟨?_, ?_, ?_⟩⟩
  · rw [chatRoute_tierRef ht hp hmodel hoff, selectRoute_tierRef pipe ht rfl]
    intro h
    split at h
    · exact hname (congrArg SelectedRoute.providerId (Except.ok.inj (Prod.mk.inj h).2))
    · cases h
  · exact fun h => hread (Passthrough.multimodal_ok h)
  · exact fun h => hread (Passthrough.wire_ok h)
  · exact fun h => hread (Passthrough.wire_ok h)

end TierReference

/-- A choice of words for the scorer that counts no tokens and lowers nothing. -/
def sampleTools : TextTools := ⟨fun _ => 0, id⟩

def sampleChat (model : String) : ChatRequest :=
  .plain { model := model, messages := [{ role := "user", content := .string "hello" }] }

theorem tierRef_unresolved_sample :
    samplePipeline.chatRoute sampleTools (sampleChat "complex/openai/gpt-4o") ≠
      (.complex, .ok ⟨"openai", "gpt-4o"⟩) ∧
    ∀ adapter, Passthrough.multimodal samplePipeline.registry
          (.object [("model", .string "complex/openai/gpt-4o")]) ≠ .ok ("openai", adapter) ∧
      Passthrough.messages samplePipeline.registry samplePipeline.config
          (.object [("model", .string "complex/openai/gpt-4o")]) ≠ .ok ("openai", adapter) ∧
      Passthrough.responses samplePipeline.registry samplePipeline.config
          (.object [("model", .string "complex/openai/gpt-4o")]) ≠ .ok ("openai", adapter) :=
  tierRef_unresolved (p := "openai") (m := "gpt-4o") (rfl : Tier.parse "complex" = some .complex)
    (by decide) rfl rfl rfl rfl

/-- The provider is there, and still the request is refused for a provider called `complex`. -/
theorem tierRef_refused :
    Tier.parse "complex" = some .complex ∧ Tier.parse "openai" = none ∧
    (samplePipeline.registry "openai").isSome ∧
    samplePipeline.config.specificity.enabled = false ∧
    samplePipeline.chatRoute sampleTools (sampleChat "complex/openai/gpt-4o") =
      (.complex,
        .error (.badRequest "unknown provider in model ref: complex/openai/gpt-4o")) ∧
    Passthrough.multimodal samplePipeline.registry
        (.object [("model", .string "complex/openai/gpt-4o")]) =
      .error { message := "unknown provider: complex" } := by
  refine ⟨rfl, rfl, rfl, rfl, ?_, rfl⟩
  rw [chatRoute_tierRef (p := "openai") (m := "gpt-4o")
    (rfl : Tier.parse "complex" = some .complex) (by decide) rfl rfl]
  rfl

/-- A chat request goes to the provider and the model, without a look at the tiers. -/
def Pipeline.RoutesDirectly (pipe : Pipeline) (tools : TextTools) (request : ChatRequest)
    (p m : String) : Prop :=
  (routeChoice tools pipe.config request).modelOverride.isSome ∧
    (pipe.chatRoute tools request).2 = .ok ⟨p, m⟩

/-- What makes a model string a reference of its own: three parts behind a tier, or two behind a
well-known provider name. -/
def IsReference (p m : String) : Prop :=
  if '/' ∈ m.toList then (Tier.parse p).isSome else (Manifest.resolveAlias p).isSome

section DirectReference

variable {p m : String}

theorem refTier_direct (hp : '/' ∉ p.toList) (m : String) :
    Scorer.refTier (p ++ "/" ++ m) = if '/' ∈ m.toList then Tier.parse p else none := by
  rw [Scorer.refTier, slash_eq, Str.splitn_append hp]
  by_cases hm : '/' ∈ m.toList
  · obtain ⟨a, b, hab, ha⟩ := Str.exists_append_of_mem hm
    rw [if_pos hm, hab, Str.splitn_append ha, Str.splitn_one]
  · rw [if_neg hm, Str.splitn_of_not_mem hm]

theorem isAliasRef_direct (hp : '/' ∉ p.toList) (m : String) :
    Scorer.isAliasRef (p ++ "/" ++ m) =
      if '/' ∈ m.toList then false else (Manifest.resolveAlias p).isSome := by
  rw [Scorer.isAliasRef, slash_eq, Str.splitn_append hp]
  by_cases hm : '/' ∈ m.toList
  · obtain ⟨a, b, hab, ha⟩ := Str.exists_append_of_mem hm
    rw [if_pos hm, hab, Str.splitn_append ha, Str.splitn_one]
  · rw [if_neg hm, Str.splitn_of_not_mem hm]

theorem isReference_iff (hp : '/' ∉ p.toList) (m : String) : IsReference p m ↔
    ((Scorer.refTier (p ++ "/" ++ m)).isSome || Scorer.isAliasRef (p ++ "/" ++ m)) = true := by
  rw [refTier_direct hp, isAliasRef_direct hp, IsReference]
  by_cases hm : '/' ∈ m.toList
  · rw [if_pos hm, if_pos hm, if_pos hm, Bool.or_false]
  · rw [if_neg hm, if_neg hm, if_neg hm, Option.isSome_none, Bool.false_or]

theorem IsReference.ne_empty (h : IsReference p m) : p ≠ "" := by
  rw [IsReference] at h
  split at h
  · obtain ⟨t, ht⟩ := Option.isSome_iff_exists.mp h
    exact Tier.ne_empty_of_parse ht
  · rintro rfl
    exact absurd h (by decide)

/-- A model string is passed on for routing as a whole, or not at all. -/
theorem routeChoice_modelOverride {config : RouterConfig} {request : ChatRequest}
    (hheader : request.scoring.tierHeader = none) (hoff : config.specificity.enabled = false)
    (tools : TextTools) : (routeChoice tools config request).modelOverride =
      if (Scorer.refTier request.scoring.inbound.model).isSome ||
        Scorer.isAliasRef request.scoring.inbound.model
      then some request.scoring.inbound.model else none := by
  cases href : Scorer.refTier request.scoring.inbound.model with
  | some t =>
    rw [routeChoice, href, specificityPrimary_off hoff]
    rfl
  | none =>
    rw [routeChoice_of_no_tier tools href hoff, Scorer.score_of_no_tier tools hheader href,
      Option.isSome_none, Bool.false_or]
    split
    · rfl
    · rfl

theorem selectRoute_some_iff {pipe : Pipeline} : pipe.selectRoute (some ref) tier = .ok route ↔
    Selector.routeExplicit pipe.registry ref = some route := by
  rw [Pipeline.selectRoute]
  cases Selector.routeExplicit pipe.registry ref with
  | none => exact iff_of_false (fun h => nomatch h) fun h => nomatch h
  | some found =>
    dsimp only
    rw [Except.ok.injEq, Option.some.injEq]

theorem routesDirectly_iff {pipe : Pipeline} {request : ChatRequest} (tools : TextTools)
    (hmodel : request.scoring.inbound.model = p ++ "/" ++ m)
    (hheader : request.scoring.tierHeader = none)
    (hoff : pipe.config.specificity.enabled = false) :
    pipe.RoutesDirectly tools request p m ↔
      ((pipe.registry p).isSome ∧ m ≠ "" ∧ '/' ∉ p.toList) ∧ IsReference p m := by
  have hoverride := routeChoice_modelOverride hheader hoff tools
  rw [hmodel] at hoverride
  rw [Pipeline.RoutesDirectly, Pipeline.chatRoute]
  constructor
  · intro h
    obtain ⟨hsome, hroute⟩ := h
    dsimp only at hroute
    rw [hoverride] at hsome hroute
    split at hsome
    case isFalse => cases hsome
    case isTrue href =>
      rw [if_pos href, selectRoute_some_iff] at hroute
      obtain ⟨-, hp, hreg, -, hm⟩ := routeExplicit_eq_some_iff.mp hroute
      exact ⟨⟨hreg, hm, hp⟩, (isReference_iff hp m).mpr href⟩
  · intro h
    obtain ⟨⟨hreg, hm, hp⟩, href⟩ := h
    dsimp only
    rw [hoverride, if_pos ((isReference_iff hp m).mp href), selectRoute_some_iff,
      routeExplicit_append hp, if_pos ⟨hreg, href.ne_empty, hm⟩]
    exact ⟨rfl, rfl⟩

end DirectReference

/-- A reference to a registered provider is a direct one exactly when the model has no slash and
the provider's name is a well-known one. A name of the model list is routed as what it names
exactly when it is such a reference, or one behind a tier that a provider shares its name with. -/
theorem direct_reference_iff {pipe : Pipeline} (tools : TextTools)
    (hoff : pipe.config.specificity.enabled = false) (discovered : List (String × String)) :
    (∀ p m request, (pipe.registry p).isSome → '/' ∉ p.toList → Tier.parse p = none → m ≠ "" →
      request.scoring.inbound.model = p ++ "/" ++ m → request.scoring.tierHeader = none →
      (pipe.RoutesDirectly tools request p m ↔
        '/' ∉ m.toList ∧ (Manifest.resolveAlias p).isSome)) ∧
    ∀ p m request, ListedModel pipe.registry discovered p m →
      request.scoring.inbound.model = p ++ "/" ++ m → request.scoring.tierHeader = none →
      (pipe.RoutesDirectly tools request p m ↔
        ((pipe.registry p).isSome ∧ m ≠ "" ∧ '/' ∉ p.toList) ∧
          if '/' ∈ m.toList then (Tier.parse p).isSome else (Manifest.resolveAlias p).isSome) := by
  constructor
  · intro p m request hreg hp hprovider hm hmodel hheader
    rw [routesDirectly_iff tools hmodel hheader hoff, and_iff_right ⟨hreg, hm, hp⟩, IsReference,
      hprovider]
    by_cases hslash : '/' ∈ m.toList
    · rw [if_pos hslash]
      exact iff_of_false Bool.false_ne_true fun h => h.1 hslash
    · rw [if_neg hslash]
      exact (and_iff_right hslash).symm
  · intro p m request _ hmodel hheader
    exact routesDirectly_iff tools hmodel hheader hoff

theorem direct_reference_sample :
    samplePipeline.RoutesDirectly sampleTools (sampleChat "openai/gpt-4o") "openai" "gpt-4o" :=
  have hoff : samplePipeline.config.specificity.enabled = false := rfl
  ((direct_reference_iff sampleTools hoff []).1 "openai" "gpt-4o"
    (sampleChat "openai/gpt-4o") rfl (by decide) rfl (by decide) rfl rfl).mpr (by decide)

/-- A router with OpenRouter under its stock settings. -/
def openrouterPipeline : Pipeline :=
  { samplePipeline with
    registry := fun id =>
      if id = "openrouter" then
        (buildAdapter { id := "openrouter", providerType := .openrouter }).toOption
      else none
    config :=
      { providers := [{ id := "openrouter", providerType := .openrouter, key := some "sk-or" }] } }

/-- The model list offers OpenRouter's default model, but a request for it is routed by tier. -/
theorem listed_model_unroutable :
    ListedModel openrouterPipeline.registry [] "openrouter" "anthropic/claude-sonnet-4-5" ∧
    Tier.parse "openrouter" = none ∧ openrouterPipeline.config.specificity.enabled = false ∧
    ¬ openrouterPipeline.RoutesDirectly sampleTools
        (sampleChat "openrouter/anthropic/claude-sonnet-4-5") "openrouter"
        "anthropic/claude-sonnet-4-5" := by
  refine ⟨.inl ⟨_, rfl, rfl⟩, rfl, rfl, ?_⟩
  rw [routesDirectly_iff sampleTools rfl rfl rfl]
  exact fun h => absurd h.2 (by rw [IsReference]; decide)

end TokenDealer
