import TokenDealer.Validate

set_option autoImplicit true

namespace TokenDealer

open Validate

section

variable (validUrl : String → Bool)

/-- A URL, or nothing. -/
def UrlOk (url : String) : Prop := url = "" ∨ validUrl url = true

structure ServerConfig.IsValid (server : ServerConfig) : Prop where
  bind : Str.trim server.bind ≠ "" ∧ (SocketAddr.parse server.bind).isSome
  logLevel : isValidLogLevel server.logLevel = true
  redirectUri : UrlOk validUrl server.oauthRedirectUri

/-- A provider on its own, whatever the others are. -/
structure ProviderConfig.IsValid (p : ProviderConfig) : Prop where
  id : Str.trim p.id ≠ ""
  key : ∀ key rest, p.key = some key → Str.stripPrefix encPrefix key = some rest →
    looksLikeEncryptedBlob rest = true
  baseUrl : ∀ url, p.baseUrl = some url → UrlOk validUrl url

end

/-- A tier among the providers and the tiers of a configuration. -/
structure TierConfig.IsValid (providerIds : List String) (tiers : List (String × TierConfig))
    (tier : TierConfig) : Prop where
  primary : tier.primary ≠ "" ∧
    (tier.primary ∈ providerIds ∨ head tier.primary ∈ providerIds)
  fallbacks : ∀ fallback ∈ tier.fallbacks, head fallback ∈ providerIds
  downgradeTo : ∀ name, tier.downgradeTo = some name → (Table.get name tiers).isSome
  minContextWindow : tier.minContextWindow ≠ some 0

structure SpecificityRule.IsValid (providerIds : List String) (r : SpecificityRule) : Prop where
  primary : head r.primary ∈ providerIds
  threshold : r.threshold ≠ some 0

structure RetryConfig.IsValid (retry : RetryConfig) : Prop where
  requestBudget : retry.requestBudgetMs ≠ 0
  fixedWait : retry.fixedRetryWaitMs ≤ retry.maxRetryAfterMs

structure BudgetConfig.IsValid (budgets : BudgetConfig) : Prop where
  warnFraction : F64.le budgets.warnFraction F64.zero = false ∧
    F64.lt F64.one budgets.warnFraction = false
  dailyCost : F64.lt budgets.dailyCostUsd F64.zero = false
  perRequestCost : F64.lt budgets.perRequestCostUsd F64.zero = false

/-- What a configuration has to be for the validator to accept it. -/
structure RouterConfig.IsValid (validUrl : String → Bool) (c : RouterConfig) : Prop where
  server : c.server.IsValid validUrl
  providers : ∀ p ∈ c.providers, p.IsValid validUrl
  distinct : c.providerIds.Nodup
  tiers : ∀ m ∈ c.tiers, m.2.IsValid c.providerIds c.tiers
  rules : ∀ r ∈ c.detection.rules, (Table.get r.tier c.tiers).isSome
  retry : c.retry.IsValid
  budgets : c.budgets.IsValid
  pricingUrl : UrlOk validUrl c.pricingSync.openrouterUrl
  lowestPrice : F64.lt c.discovery.minInputPricePer1m F64.zero = false
  specificity : ∀ r ∈ c.specificity.rules, r.IsValid c.providerIds

namespace Validate

/-- A check that reports one error, or none. -/
theorem ite_error_eq_nil_iff {p : Prop} [Decidable p] {e : ConfigError} :
    (if p then [e] else []) = [] ↔ ¬ p := by
  by_cases h : p
  · rw [if_pos h]
    exact iff_of_false (List.cons_ne_nil _ _) fun hn => hn h
  · rw [if_neg h]
    exact iff_of_true rfl h

theorem ite_ok_eq_nil_iff {p : Prop} [Decidable p] {e : ConfigError} :
    (if p then [] else [e]) = [] ↔ p := by
  by_cases h : p
  · rw [if_pos h]
    exact iff_of_true rfl h
  · rw [if_neg h]
    exact iff_of_false (List.cons_ne_nil _ _) h

/-- Two checks of one setting, the second where the first finds nothing. -/
theorem ite_ite_eq_nil_iff {p q : Prop} [Decidable p] [Decidable q] {e e' : ConfigError} :
    (if p then [e] else if q then [e'] else []) = [] ↔ ¬ p ∧ ¬ q := by
  by_cases h : p
  · rw [if_pos h]
    exact iff_of_false (List.cons_ne_nil _ _) fun hn => hn.1 h
  · rw [if_neg h, ite_error_eq_nil_iff]
    exact (and_iff_right h).symm

theorem elim_eq_nil_iff {o : Option α} {check : α → List ConfigError} :
    o.elim [] check = [] ↔ ∀ a, o = some a → check a = [] := by
  cases o with
  | none => exact iff_of_true rfl fun a h => nomatch h
  | some a =>
    rw [Option.elim_some]
    exact ⟨fun h b hb => Option.some.inj hb ▸ h, fun h => h a rfl⟩

theorem checkUrl_eq_nil_iff {validUrl : String → Bool} :
    checkUrl validUrl path url = [] ↔ UrlOk validUrl url := by
  rw [checkUrl, ite_error_eq_nil_iff, UrlOk, not_and_or, not_not, Bool.not_eq_false]

theorem checkServer_eq_nil_iff {validUrl : String → Bool} {server : ServerConfig} :
    checkServer validUrl server = [] ↔ server.IsValid validUrl := by
  rw [checkServer, List.append_eq_nil_iff, List.append_eq_nil_iff, ite_ite_eq_nil_iff,
    ite_ok_eq_nil_iff, checkUrl_eq_nil_iff, ← Option.not_isSome_iff_eq_none, not_not]
  exact ⟨fun ⟨⟨hbind, hlevel⟩, huri⟩ => ⟨hbind, hlevel, huri⟩,
    fun h => ⟨⟨h.bind, h.logLevel⟩, h.redirectUri⟩⟩

theorem checkProviderKey_eq_nil_iff :
    checkProviderKey path key = [] ↔
      ∀ rest, Str.stripPrefix encPrefix key = some rest → looksLikeEncryptedBlob rest = true := by
  rw [checkProviderKey]
  cases Str.stripPrefix encPrefix key with
  | none => exact iff_of_true rfl fun rest h => nomatch h
  | some rest =>
    dsimp only
    rw [ite_ok_eq_nil_iff]
    exact ⟨fun h other ho => Option.some.inj ho ▸ h, fun h => h rest rfl⟩

theorem checkProvider_eq_nil_iff {validUrl : String → Bool} {p : ProviderConfig} :
    checkProvider validUrl path seen p = [] ↔ p.IsValid validUrl ∧ p.id ∉ seen := by
  rw [checkProvider, List.append_eq_nil_iff, List.append_eq_nil_iff, checkProviderId,
    ite_ite_eq_nil_iff, elim_eq_nil_iff, elim_eq_nil_iff]
  constructor
  · intro h
    obtain ⟨⟨hid, hseen⟩, hkey, hurl⟩ := h
    exact ⟨⟨hid, fun key rest h => checkProviderKey_eq_nil_iff.mp (hkey key h) rest,
      fun url h => checkUrl_eq_nil_iff.mp (hurl url h)⟩, hseen⟩
  · intro hvalid
    obtain ⟨h, hseen⟩ := hvalid
    exact ⟨⟨h.id, hseen⟩,
      fun key hk => checkProviderKey_eq_nil_iff.mpr fun rest => h.key key rest hk,
      fun url hu => checkUrl_eq_nil_iff.mpr (h.baseUrl url hu)⟩

/-- The identifiers seen before are the ones of the providers before. -/
theorem checkProviders_eq_nil_iff {validUrl : String → Bool} {providers : List ProviderConfig} :
    checkProviders validUrl idx seen providers = [] ↔
      (∀ p ∈ providers, p.IsValid validUrl) ∧ (providers.map fun p => p.id).Nodup ∧
        ∀ p ∈ providers, p.id ∉ seen := by
  induction providers generalizing idx seen with
  | nil =>
    exact iff_of_true rfl
      ⟨fun p h => absurd h List.not_mem_nil, List.nodup_nil, fun p h => absurd h List.not_mem_nil⟩
  | cons p rest ih =>
    rw [checkProviders, List.append_eq_nil_iff, checkProvider_eq_nil_iff, ih, List.forall_mem_cons,
      List.forall_mem_cons, List.map_cons, List.nodup_cons, List.mem_map]
    constructor
    · intro h
      obtain ⟨⟨hp, hseen⟩, hrest, hnodup, hfresh⟩ := h
      rw [if_neg hp.id] at hfresh
      refine ⟨⟨hp, hrest⟩, ⟨?_, hnodup⟩, hseen, ?_⟩
      · intro h
        obtain ⟨q, hq, hid⟩ := h
        exact hfresh q hq (hid ▸ List.mem_cons_self)
      · intro q hq h
        exact hfresh q hq (List.mem_cons_of_mem _ h)
    · intro h
      obtain ⟨⟨hp, hrest⟩, ⟨hnew, hnodup⟩, hseen, hfresh⟩ := h
      rw [if_neg hp.id]
      refine ⟨⟨hp, hseen⟩, hrest, hnodup, ?_⟩
      intro q hq h
      rcases List.mem_cons.mp h with hid | h
      · exact hnew ⟨q, hq, hid⟩
      · exact hfresh q hq h

section

variable {providerIds : List String} {tiers : List (String × TierConfig)}

theorem checkPrimary_eq_nil_iff :
    checkPrimary providerIds path primary = [] ↔
      primary ≠ "" ∧ (primary ∈ providerIds ∨ head primary ∈ providerIds) := by
  rw [checkPrimary]
  by_cases h : primary = ""
  · rw [if_pos h]
    exact iff_of_false (List.cons_ne_nil _ _) fun hn => hn.1 h
  · rw [if_neg h, ite_ok_eq_nil_iff]
    exact (and_iff_right h).symm

theorem checkTier_eq_nil_iff {m : String × TierConfig} :
    checkTier providerIds tiers m = [] ↔ m.2.IsValid providerIds tiers := by
  obtain ⟨name, tier⟩ := m
  rw [checkTier, List.append_eq_nil_iff, List.append_eq_nil_iff, List.append_eq_nil_iff,
    checkPrimary_eq_nil_iff, List.flatMap_eq_nil_iff, elim_eq_nil_iff, checkPositive,
    ite_error_eq_nil_iff]
  simp only [checkFallback, checkTierName, ite_ok_eq_nil_iff]
  exact ⟨fun ⟨hprimary, hfallbacks, hdown, hwindow⟩ => ⟨hprimary, hfallbacks, hdown, hwindow⟩,
    fun h => ⟨h.primary, h.fallbacks, h.downgradeTo, h.minContextWindow⟩⟩

theorem checkRules_eq_nil_iff {rules : List DetectionRule} :
    checkRules tiers idx rules = [] ↔ ∀ r ∈ rules, (Table.get r.tier tiers).isSome := by
  induction rules generalizing idx with
  | nil => exact iff_of_true rfl fun r h => absurd h List.not_mem_nil
  | cons r rest ih =>
    rw [checkRules, List.append_eq_nil_iff, checkTierName, ite_ok_eq_nil_iff, ih,
      List.forall_mem_cons]

theorem checkSpecificity_eq_nil_iff {rules : List SpecificityRule} :
    checkSpecificity providerIds idx rules = [] ↔ ∀ r ∈ rules, r.IsValid providerIds := by
  induction rules generalizing idx with
  | nil => exact iff_of_true rfl fun r h => absurd h List.not_mem_nil
  | cons r rest ih =>
    rw [checkSpecificity, List.append_eq_nil_iff, List.append_eq_nil_iff, ite_ok_eq_nil_iff,
      checkPositive, ite_error_eq_nil_iff, ih, List.forall_mem_cons]
    exact ⟨fun ⟨hprimary, hthreshold, hrest⟩ => ⟨⟨hprimary, hthreshold⟩, hrest⟩,
      fun ⟨h, hrest⟩ => ⟨h.primary, h.threshold, hrest⟩⟩

end

theorem checkRetry_eq_nil_iff {retry : RetryConfig} : checkRetry retry = [] ↔ retry.IsValid := by
  rw [checkRetry, List.append_eq_nil_iff, ite_error_eq_nil_iff, ite_error_eq_nil_iff, Nat.not_lt]
  exact ⟨fun ⟨hbudget, hwait⟩ => ⟨hbudget, hwait⟩, fun h => ⟨h.requestBudget, h.fixedWait⟩⟩

theorem checkNonNegative_eq_nil_iff :
    checkNonNegative path reason x = [] ↔ F64.lt x F64.zero = false := by
  rw [checkNonNegative, ite_error_eq_nil_iff, Bool.not_eq_true]

theorem checkBudgets_eq_nil_iff {budgets : BudgetConfig} :
    checkBudgets budgets = [] ↔ budgets.IsValid := by
  rw [checkBudgets, List.append_eq_nil_iff, List.append_eq_nil_iff, ite_error_eq_nil_iff,
    checkNonNegative_eq_nil_iff, checkNonNegative_eq_nil_iff, Bool.not_eq_true,
    Bool.or_eq_false_iff]
  exact ⟨fun ⟨⟨hwarn, hdaily⟩, hrequest⟩ => ⟨hwarn, hdaily, hrequest⟩,
    fun h => ⟨⟨h.warnFraction, h.dailyCost⟩, h.perRequestCost⟩⟩

end Validate

/-- The validator reports nothing exactly on the valid configurations. -/
theorem checkSemantic_eq_nil_iff {validUrl : String → Bool} {c : RouterConfig} :
    checkSemantic validUrl c = [] ↔ c.IsValid validUrl := by
  simp only [checkSemantic, List.append_eq_nil_iff, checkServer_eq_nil_iff,
    checkProviders_eq_nil_iff, List.flatMap_eq_nil_iff, checkTier_eq_nil_iff, checkRules_eq_nil_iff,
    checkRetry_eq_nil_iff, checkBudgets_eq_nil_iff, checkUrl_eq_nil_iff,
    checkNonNegative_eq_nil_iff, checkSpecificity_eq_nil_iff]
  constructor
  · rintro ⟨hserver, ⟨hproviders, hdistinct, -⟩, htiers, hrules, hretry, hbudgets, hurl, hprice,
      hspec⟩
    exact ⟨hserver, hproviders, hdistinct, htiers, hrules, hretry, hbudgets, hurl, hprice, hspec⟩
  · intro h
    exact ⟨h.server, ⟨h.providers, h.distinct, fun _ _ => List.not_mem_nil⟩, h.tiers, h.rules,
      h.retry, h.budgets, h.pricingUrl, h.lowestPrice, h.specificity⟩

/-- Neither does it matter to the validator in what order the tables are. -/
theorem RouterConfig.canon_isValid {validUrl : String → Bool} {c : RouterConfig} :
    c.canon.IsValid validUrl ↔ c.IsValid validUrl := by
  have htier : ∀ tier : TierConfig,
      tier.IsValid c.providerIds (Table.sort c.tiers) ↔ tier.IsValid c.providerIds c.tiers := by
    intro tier
    constructor
    · exact fun h => ⟨h.primary, h.fallbacks, fun name hn => Table.get_sort name c.tiers ▸
        h.downgradeTo name hn, h.minContextWindow⟩
    · exact fun h => ⟨h.primary, h.fallbacks, fun name hn => (Table.get_sort name c.tiers).symm ▸
        h.downgradeTo name hn, h.minContextWindow⟩
  constructor
  · intro h
    exact ⟨h.server, h.providers, h.distinct,
      fun m hm => (htier m.2).mp (h.tiers m (Table.mem_sort.mpr hm)),
      fun r hr => Table.get_sort r.tier c.tiers ▸ h.rules r hr,
      h.retry, h.budgets, h.pricingUrl, h.lowestPrice, h.specificity⟩
  · intro h
    exact ⟨h.server, h.providers, h.distinct,
      fun m hm => (htier m.2).mpr (h.tiers m (Table.mem_sort.mp hm)),
      fun r hr => (Table.get_sort r.tier c.tiers).symm ▸ h.rules r hr,
      h.retry, h.budgets, h.pricingUrl, h.lowestPrice, h.specificity⟩

theorem validate_of_reads {tools : ValidateTools} (hparse : toml.parse raw = .ok doc)
    (hdoc : RouterConfig.fromDocument doc = .ok c) (htools : tools.toml = toml) :
    validate tools raw = checkSemantic tools.validUrl c := by
  rw [validate, htools, hparse]
  dsimp only
  rw [hdoc]

/-- A text is accepted exactly when it reads as a valid configuration. -/
theorem validate_eq_nil_iff {tools : ValidateTools} :
    validate tools raw = [] ↔ ∃ doc c, tools.toml.parse raw = .ok doc ∧
      RouterConfig.fromDocument doc = .ok c ∧ c.IsValid tools.validUrl := by
  rw [validate]
  cases tools.toml.parse raw with
  | error e => exact iff_of_false (List.cons_ne_nil _ _) fun ⟨_, _, h, _⟩ => nomatch h
  | ok doc =>
    dsimp only
    cases hdoc : RouterConfig.fromDocument doc with
    | error e =>
      apply iff_of_false (List.cons_ne_nil _ _)
      rintro ⟨_, c, ⟨⟩, hc, -⟩
      rw [hdoc] at hc
      cases hc
    | ok c =>
      dsimp only
      rw [checkSemantic_eq_nil_iff]
      constructor
      · exact fun h => ⟨doc, c, rfl, hdoc, h⟩
      · rintro ⟨_, c', ⟨⟩, hc, h⟩
        rw [hdoc] at hc
        cases hc
        exact h

end TokenDealer
