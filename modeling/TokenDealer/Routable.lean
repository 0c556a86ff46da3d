import TokenDealer.AdminLoadable
import TokenDealer.Fallback
import TokenDealer.ModelReferences
import TokenDealer.RegistryAgreement

set_option autoImplicit true

namespace TokenDealer

open ConfigService Validate

/-- Every reference of a configuration can be followed: the primaries and the models behind them to
a registered provider, and the tiers of the rules to a tier of the router. -/
structure RouterConfig.IsRoutable (registry : ProviderRegistry) (c : RouterConfig) : Prop where
  tiers : ∀ m ∈ c.tiers, (Selector.routeExplicit registry m.2.primary).isSome
  specificity : ∀ r ∈ c.specificity.rules, (Selector.routeExplicit registry r.primary).isSome
  fallbacks : ∀ m ∈ c.tiers, ∀ fallback ∈ m.2.fallbacks,
    (registry (splitProviderModel fallback).1).isSome ∧ (splitProviderModel fallback).2 ≠ ""
  rules : ∀ r ∈ c.detection.rules, (Tier.parse r.tier).isSome

/-- A provider of the configuration in front of the first slash, and a model behind it. -/
def NamesModel (providerIds : List String) (ref : String) : Prop :=
  ∃ p m, ref = p ++ "/" ++ m ∧ '/' ∉ p.toList ∧ p ∈ providerIds ∧ m ≠ ""

/-- The names that the router's own tiers go by. -/
def tierNames : List String :=
  ["simple", "standard", "complex", "reasoning", "high_context", "high-context", "multimodal", "mm"]

/-- Every reference says all that the router needs. A fallback without any slash is read as a model
of the provider unknown, if there is one of that name. -/
structure RouterConfig.NamesModels (c : RouterConfig) : Prop where
  tiers : ∀ m ∈ c.tiers, NamesModel c.providerIds m.2.primary
  specificity : ∀ r ∈ c.specificity.rules, NamesModel c.providerIds r.primary
  fallbacks : ∀ m ∈ c.tiers, ∀ fallback ∈ m.2.fallbacks,
    NamesModel c.providerIds fallback ∨
      '/' ∉ fallback.toList ∧ "unknown" ∈ c.providerIds
  rules : ∀ r ∈ c.detection.rules, r.tier ∈ tierNames

theorem Tier.isSome_parse : (Tier.parse s).isSome ↔ s ∈ tierNames := by
  rw [Tier.parse, tierNames]
  constructor
  · intro h
    split_ifs at h with h1 h2 h3 h4 h5 h6
    · rw [h1]; decide
    · rw [h2]; decide
    · rw [h3]; decide
    · rw [h4]; decide
    · rcases h5 with rfl | rfl <;> decide
    · rcases h6 with rfl | rfl <;> decide
    · cases h
  · intro h
    simp only [List.mem_cons, List.not_mem_nil, or_false] at h
    rcases h with rfl | rfl | rfl | rfl | rfl | rfl | rfl | rfl <;> decide

section

variable {registry : ProviderRegistry} {c : RouterConfig}

/-- What the validator makes sure of: exactly the identifiers of the entries are registered, and
none of them is empty. -/
theorem isSome_registry (hregistry : ProviderRegistry.fromConfigs c.providers = .ok registry)
    (id : String) : (registry id).isSome ↔ id ∈ c.providerIds := by
  rw [(fromConfigs_agrees hregistry).ids, mem_providerIds]

theorem ne_empty_of_mem_providerIds {p : String} (hvalid : c.IsValid validUrl)
    (h : p ∈ c.providerIds) : p ≠ "" := by
  obtain ⟨provider, hprovider, rfl⟩ := mem_providerIds.mp h
  intro hempty
  apply (hvalid.providers provider hprovider).id
  rw [hempty]
  decide

theorem isSome_routeExplicit (hvalid : c.IsValid validUrl)
    (hregistry : ∀ id, (registry id).isSome ↔ id ∈ c.providerIds) (ref : String) :
    (Selector.routeExplicit registry ref).isSome ↔ NamesModel c.providerIds ref := by
  rw [Option.isSome_iff_exists]
  constructor
  · intro h
    obtain ⟨route, hroute⟩ := h
    obtain ⟨href, hslash, hreg, -, hmodel⟩ := routeExplicit_eq_some_iff.mp hroute
    exact ⟨route.providerId, route.modelId, href, hslash, (hregistry _).mp hreg, hmodel⟩
  · intro h
    obtain ⟨p, m, href, hslash, hp, hm⟩ := h
    exact ⟨⟨p, m⟩, routeExplicit_eq_some_iff.mpr
      ⟨href, hslash, (hregistry p).mpr hp, ne_empty_of_mem_providerIds hvalid hp, hm⟩⟩

theorem splitProviderModel_append (hp : '/' ∉ p.toList) (m : String) :
    splitProviderModel (p ++ "/" ++ m) = (p, m) := by
  rw [splitProviderModel, slash_eq, Str.splitOnce_append hp]

theorem fallback_splits_iff (hvalid : c.IsValid validUrl)
    (hregistry : ∀ id, (registry id).isSome ↔ id ∈ c.providerIds)
    (hhead : head fallback ∈ c.providerIds) :
    (registry (splitProviderModel fallback).1).isSome ∧ (splitProviderModel fallback).2 ≠ "" ↔
      NamesModel c.providerIds fallback ∨
        '/' ∉ fallback.toList ∧ "unknown" ∈ c.providerIds := by
  cases hsplit : Str.splitOnce '/' fallback with
  | some parts =>
    obtain ⟨p, m⟩ := parts
    have hp := Str.splitOnce_not_mem hsplit
    have href := Str.eq_append_of_splitOnce hsplit
    rw [← slash_eq] at href
    have hslash : '/' ∈ fallback.toList := by
      rw [href, slash_eq, Str.toList_append_singleton]
      exact List.mem_append_right _ List.mem_cons_self
    rw [splitProviderModel, hsplit, hregistry]
    constructor
    · intro h
      exact .inl ⟨p, m, href, hp, h.1, h.2⟩
    · rintro (⟨p', m', href', hp', hid, hm⟩ | ⟨hnone, -⟩)
      · have hsame := splitProviderModel_append hp m
        rw [← href, href', splitProviderModel_append hp'] at hsame
        cases hsame
        exact ⟨hid, hm⟩
      · exact absurd hslash hnone
  | none =>
    have hslash := Str.splitOnce_eq_none hsplit
    have hself : head fallback = fallback := by
      rw [head, Str.split_of_not_mem hslash, List.headD_cons, String.ofList_toList]
    rw [splitProviderModel, hsplit, hregistry]
    constructor
    · intro h
      exact .inr ⟨hslash, h.1⟩
    · rintro (⟨p, m, href, -⟩ | ⟨-, hunknown⟩)
      · rw [href, slash_eq, Str.toList_append_singleton] at hslash
        exact absurd (List.mem_append_right _ List.mem_cons_self) hslash
      · rw [hself] at hhead
        exact ⟨hunknown, ne_empty_of_mem_providerIds hvalid hhead⟩

/-- An accepted configuration can be routed by exactly if its references say all that the router
needs, where the validator only looks for the provider that they begin with. -/
theorem validated_routable_iff {tools : ValidateTools} {raw : String}
    (hraw : validate tools raw = []) (hload : fromStr tools.toml raw = .ok c)
    (hregistry : ProviderRegistry.fromConfigs c.providers = .ok registry) :
    c.IsRoutable registry ↔ c.NamesModels := by
  have hvalid := isValid_of_validate hraw hload
  have hids := isSome_registry hregistry
  constructor
  · intro h
    refine ⟨?_, ?_, ?_, ?_⟩
    · exact fun m hm => (isSome_routeExplicit hvalid hids _).mp (h.tiers m hm)
    · exact fun r hr => (isSome_routeExplicit hvalid hids _).mp (h.specificity r hr)
    · intro m hm fallback hf
      exact (fallback_splits_iff hvalid hids ((hvalid.tiers m hm).fallbacks fallback hf)).mp
        (h.fallbacks m hm fallback hf)
    · exact fun r hr => Tier.isSome_parse.mp (h.rules r hr)
  · intro h
    refine ⟨?_, ?_, ?_, ?_⟩
    · exact fun m hm => (isSome_routeExplicit hvalid hids _).mpr (h.tiers m hm)
    · exact fun r hr => (isSome_routeExplicit hvalid hids _).mpr (h.specificity r hr)
    · intro m hm fallback hf
      exact (fallback_splits_iff hvalid hids ((hvalid.tiers m hm).fallbacks fallback hf)).mpr
        (h.fallbacks m hm fallback hf)
    · exact fun r hr => Tier.isSome_parse.mpr (h.rules r hr)

end

/-- One provider, and a tier that names it and no model. -/
def bareTier : RouterConfig := { oneProvider with tiers := [("simple", { primary := "openai" })] }

def bareTools : ValidateTools := { tiersTools with toml := savedToml [oneTier, bareTier] }

theorem bareTiers_distinct : ([oneTier, bareTier].map savedText).Nodup := by
  decide +kernel

theorem fromConfigs_oneRegistry :
    ProviderRegistry.fromConfigs oneProvider.providers = .ok oneRegistry := rfl

theorem validated_routable_iff_oneTier : oneTier.IsRoutable oneRegistry ↔ oneTier.NamesModels :=
  validated_routable_iff validate_oneTier fromStr_oneTier fromConfigs_oneRegistry

/-- The validator takes the tier without a model, and the router finds no route for it. -/
theorem bareTier_unroutable :
    validate bareTools (savedText bareTier) = [] ∧
    fromStr bareTools.toml (savedText bareTier) = .ok bareTier ∧
    ProviderRegistry.fromConfigs bareTier.providers = .ok oneRegistry ∧
    ¬ bareTier.IsRoutable oneRegistry := by
  have hmem : bareTier ∈ [oneTier, bareTier] := List.mem_cons_of_mem _ List.mem_cons_self
  have hvalid : bareTier.IsValid bareTools.validUrl :=
    checkSemantic_eq_nil_iff.mp (by decide +kernel)
  refine ⟨validate_savedText rfl hvalid rfl bareTiers_distinct hmem,
    fromStr_savedText bareTiers_distinct hmem rfl, fromConfigs_oneRegistry, ?_⟩
  intro h
  exact absurd (h.tiers _ List.mem_cons_self) (by decide)

end TokenDealer
