import TokenDealer.Credentials

set_option autoImplicit true

namespace TokenDealer

/-- Where no access token stands in its place, a route to the provider takes what the key of the
tier resolves to. -/
def RoutesByTierKey (pipe : Pipeline) (world : OAuthWorld) (tier : Tier) (p key : String) : Prop :=
  (pipe.accessToken world p).1 = none →
    (pipe.routeKey world tier p).1 = pipe.keys.resolve p (some key)

/-- Every call of the executor that no access token is there for is made with what the key of the
tier resolves to. -/
def ExecutesByTierKey (pipe : Pipeline) (world : OAuthWorld) (routed : RoutingOutput)
    (key : String) : Prop :=
  ∀ upstream health now, ∀ call ∈ (pipe.run routed upstream health now).1.calls,
    (pipe.accessToken world call.entry.provider).1 = none →
      call.handle.key = pipe.keys.resolve call.entry.provider (some key)

/-- The router with another table of tier keys. -/
def Pipeline.withTierKeys (pipe : Pipeline) (tierKeys : List (String × String)) : Pipeline :=
  { pipe with config := { pipe.config with tierKeys := tierKeys } }

section Request

variable (pipe : Pipeline) (world later : OAuthWorld) (requestId : String)
  (inbound : InboundRequest) (modelOverride : Option String) (tier : Tier)

/-- A request on a tier with a key is routed, streamed and executed with it. -/
structure KeyedByTier (key : String) : Prop where
  routed : ∀ selected, pipe.selectRoute modelOverride tier = .ok selected →
    RoutesByTierKey pipe world tier selected.providerId key
  streamed : ∀ routed after call,
    pipe.route world requestId inbound modelOverride tier = (.ok routed, after) →
    (pipe.accessToken world routed.route.providerId).1 = none →
    after.stream routed = .ok call →
      call.key = pipe.keys.resolve routed.route.providerId (some key)
  executed : ∀ routed after,
    pipe.route world requestId inbound modelOverride tier = (.ok routed, after) →
      ExecutesByTierKey after later routed key

/-- A request goes the same way whatever other tier keys there are. -/
structure UnaffectedBy (tierKeys : List (String × String)) : Prop where
  routed : (pipe.withTierKeys tierKeys).route world requestId inbound modelOverride tier =
    ((pipe.route world requestId inbound modelOverride tier).1,
      (pipe.route world requestId inbound modelOverride tier).2.withTierKeys tierKeys)
  streamed : ∀ routed, (pipe.withTierKeys tierKeys).stream routed = pipe.stream routed
  executed : ∀ routed upstream health now,
    (pipe.withTierKeys tierKeys).run routed upstream health now =
      pipe.run routed upstream health now

/-- The key of a tier comes before every other one on its tier, and is of no matter elsewhere. -/
structure TierKeysFirst : Prop where
  keyed : ∀ key, pipe.config.tierKeyOverride tier = some key →
    KeyedByTier pipe world later requestId inbound modelOverride tier key
  others : pipe.config.tierKeyOverride tier = none → ∀ tierKeys,
    Table.get tier.asStr tierKeys = none →
      UnaffectedBy pipe world requestId inbound modelOverride tier tierKeys

/-- The keys that the code puts before the key of the tier resolve to the same: a literal of the
provider routed to, and for every provider of the chain the key it has without the tier. -/
structure OwnKeysAgree (key : String) : Prop where
  literal : ∀ selected, pipe.selectRoute modelOverride tier = .ok selected →
    (pipe.accessToken world selected.providerId).1 = none →
    ∀ own, pipe.config.providerKey selected.providerId = some own →
      pipe.keys.resolve selected.providerId (some own) =
        pipe.keys.resolve selected.providerId (some key)
  chain : ∀ routed after,
    pipe.route world requestId inbound modelOverride tier = (.ok routed, after) →
      pipe.config.retry.requestBudgetMs = 0 ∨
        ∀ entry ∈ (after.planFor routed).chain, ∀ adapter,
          pipe.registry entry.provider = some adapter →
          (after.accessToken later entry.provider).1 = none →
            after.ownKey entry.provider = after.keys.resolve entry.provider (some key)

end Request

namespace Pipeline

variable {pipe : Pipeline} {tier : Tier} {key p : String}

theorem routeKey_eq (pipe : Pipeline) (world : OAuthWorld) (tier : Tier) (p : String) :
    pipe.routeKey world tier p =
      ((pipe.accessToken world p).1.getD (pipe.keys.resolve p
        ((pipe.config.providerKey p).or (pipe.config.tierKeyOverride tier))),
        (pipe.accessToken world p).2) := rfl

theorem route_selected (h : pipe.route world requestId inbound modelOverride tier =
    (.ok routed, after)) : pipe.selectRoute modelOverride tier = .ok routed.route := by
  rw [route] at h
  split at h
  · cases h
  · next selected hselected =>
    split at h
    · cases h
    · generalize pipe.routeKey world tier selected.providerId = keyed at h
      dsimp only at h
      split at h
      · cases h
      · cases h
        exact hselected

theorem routesByTierKey_iff (world : OAuthWorld)
    (htier : pipe.config.tierKeyOverride tier = some key) :
    RoutesByTierKey pipe world tier p key ↔
      ((pipe.accessToken world p).1 = none → ∀ own, pipe.config.providerKey p = some own →
        pipe.keys.resolve p (some own) = pipe.keys.resolve p (some key)) := by
  refine imp_congr_right fun haccess => ?_
  rw [routeKey_eq, haccess, htier, Option.getD_none]
  cases pipe.config.providerKey p with
  | none => exact iff_of_true rfl fun own h => by cases h
  | some own =>
    rw [Option.some_or]
    exact ⟨fun h own' hown => Option.some.inj hown ▸ h, fun h => h own rfl⟩

theorem executesByTierKey_iff (world : OAuthWorld) (routed : RoutingOutput) (key : String) :
    ExecutesByTierKey pipe world routed key ↔
      pipe.config.retry.requestBudgetMs = 0 ∨
        ∀ entry ∈ (pipe.planFor routed).chain, ∀ adapter,
          pipe.registry entry.provider = some adapter →
          (pipe.accessToken world entry.provider).1 = none →
            pipe.ownKey entry.provider = pipe.keys.resolve entry.provider (some key) := by
  constructor
  · intro h
    by_cases hbudget : pipe.config.retry.requestBudgetMs = 0
    · exact .inl hbudget
    · refine .inr fun entry hentry adapter hadapter haccess => ?_
      obtain ⟨call, hcall, rfl⟩ := pipe.run_timedOut routed hbudget hentry hadapter
      obtain ⟨-, _, -, hhandle, -⟩ := run_call hcall
      rw [← h timedOut .new 0 call hcall haccess, hhandle]
  · rintro (hbudget | hagree) upstream health now call hcall haccess
    · rw [run_noBudget hbudget] at hcall
      exact absurd hcall List.not_mem_nil
    · obtain ⟨hmem, adapter, hadapter, hhandle, -⟩ := run_call hcall
      rw [hhandle]
      exact hagree call.entry hmem adapter hadapter haccess

/-- Neither the route nor the executor reads the keys of other tiers. -/
theorem unaffectedBy (world : OAuthWorld) (requestId : String) (inbound : InboundRequest)
    (modelOverride : Option String) (htier : pipe.config.tierKeyOverride tier = none)
    {tierKeys : List (String × String)} (hother : Table.get tier.asStr tierKeys = none) :
    UnaffectedBy pipe world requestId inbound modelOverride tier tierKeys where
  routed := by
    have hselect : (pipe.withTierKeys tierKeys).selectRoute modelOverride tier =
        pipe.selectRoute modelOverride tier := rfl
    have haccess (p : String) : (pipe.withTierKeys tierKeys).accessToken world p =
        ((pipe.accessToken world p).1, (pipe.accessToken world p).2.withTierKeys tierKeys) := by
      rw [accessToken, accessToken]
      split <;> rfl
    have hkey (p : String) : (pipe.withTierKeys tierKeys).routeKey world tier p =
        ((pipe.routeKey world tier p).1, (pipe.routeKey world tier p).2.withTierKeys tierKeys) := by
      have hother' : (pipe.withTierKeys tierKeys).config.tierKeyOverride tier = none := hother
      have hown : (pipe.withTierKeys tierKeys).config.providerKey p = pipe.config.providerKey p :=
        rfl
      have hkeys : (pipe.withTierKeys tierKeys).keys = pipe.keys := rfl
      rw [routeKey_eq, routeKey_eq, haccess, hother', htier, hown, hkeys]
    rw [route, route, hselect]
    cases pipe.selectRoute modelOverride tier with
    | error e => rfl
    | ok selected =>
      dsimp only
      have htext : (pipe.withTierKeys tierKeys).text = pipe.text := rfl
      rw [hkey, htext]
      cases inbound.intoCanonical pipe.text tier selected.modelId selected.providerId requestId with
      | error e => rfl
      | ok canonical =>
        dsimp only
        generalize pipe.routeKey world tier selected.providerId = keyed
        by_cases hempty : keyed.1 = ""
        · simp only [if_pos hempty]
        · simp only [if_neg hempty]
  streamed _ := rfl
  executed _ _ _ _ := rfl

end Pipeline

/-- Tier keys take precedence exactly where the keys that do come first resolve to the same; a tier
without one is left alone. -/
theorem tierKeysFirst_iff (pipe : Pipeline) (world later : OAuthWorld) (requestId : String)
    (inbound : InboundRequest) (modelOverride : Option String) (tier : Tier) :
    TierKeysFirst pipe world later requestId inbound modelOverride tier ↔
      ∀ key, pipe.config.tierKeyOverride tier = some key →
        OwnKeysAgree pipe world later requestId inbound modelOverride tier key := by
  constructor
  · intro h key htier
    obtain ⟨hrouted, -, hexecuted⟩ := h.keyed key htier
    refine ⟨fun selected hselected => ?_, fun routed after hroute => ?_⟩
    · exact (Pipeline.routesByTierKey_iff world htier).mp (hrouted selected hselected)
    · obtain ⟨hregistry, hconfig, -⟩ := pipe.accessToken_after world routed.route.providerId
      rw [← (Pipeline.route_spec hroute).after_eq] at hregistry hconfig
      have hagree := (Pipeline.executesByTierKey_iff later routed key).mp
        (hexecuted routed after hroute)
      rw [hconfig, hregistry] at hagree
      exact hagree
  · intro h
    refine ⟨fun key htier => ?_, fun hnone tierKeys hother =>
      Pipeline.unaffectedBy world requestId inbound modelOverride hnone hother⟩
    obtain ⟨hliteral, hchain⟩ := h key htier
    have hroutes : ∀ selected, pipe.selectRoute modelOverride tier = .ok selected →
        RoutesByTierKey pipe world tier selected.providerId key := fun selected hselected =>
      (Pipeline.routesByTierKey_iff world htier).mpr (hliteral selected hselected)
    refine ⟨hroutes, fun routed after call hroute haccess hstream => ?_,
      fun routed after hroute => ?_⟩
    · have hspec := Pipeline.route_spec hroute
      obtain ⟨adapter, hadapter⟩ := hspec.registered
      rw [Pipeline.stream, hadapter] at hstream
      cases hstream
      rw [← hroutes routed.route (Pipeline.route_selected hroute) haccess]
      exact hspec.key_eq
    · obtain ⟨hregistry, hconfig, -⟩ := pipe.accessToken_after world routed.route.providerId
      rw [← (Pipeline.route_spec hroute).after_eq] at hregistry hconfig
      have hagree := hchain routed after hroute
      rw [← hconfig, ← hregistry] at hagree
      exact (Pipeline.executesByTierKey_iff later routed key).mpr hagree

/-- The key of a tier does not come before the one that the provider has in the configuration. -/
theorem tier_key_after_own :
    ¬ TierKeysFirst (samplePipeline.withTierKeys [("standard", "sk-tier")]) sampleWorld sampleWorld
      "1" { model := "openai/gpt-4o", messages := [{ role := "user", content := .string "hi" }] }
      (some "openai/gpt-4o") .standard := by
  intro h
  have hkey : "sk-own" = "sk-tier" :=
    (h.keyed "sk-tier" rfl).routed ⟨"openai", "gpt-4o"⟩ rfl rfl
  exact absurd hkey (by decide)

end TokenDealer
