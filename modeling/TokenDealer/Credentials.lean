import TokenDealer.ModelFidelity

set_option autoImplicit true

namespace TokenDealer

/-- The executor calls the primary with the key a stream would use, and a fallback with the key a
route to it resolves to. -/
def SameCredential (pipe : Pipeline) (world : OAuthWorld) (routed : RoutingOutput) : Prop :=
  ∀ upstream health now, ∀ call ∈ (pipe.run routed upstream health now).1.calls,
    (call.entry.position = 0 →
      pipe.stream routed = .ok ⟨call.handle.adapter, routed.canonical, call.handle.key⟩) ∧
    (0 < call.entry.position →
      call.handle.key = (pipe.routeKey world routed.canonical.tier call.entry.provider).1)

/-- No access token and no tier key stands before the key of the provider's own entry, or it makes
no difference. -/
structure RoutesByOwnKey (pipe : Pipeline) (world : OAuthWorld) (tier : Tier) (p : String) :
    Prop where
  accessToken : ∀ access, (pipe.accessToken world p).1 = some access → access = pipe.ownKey p
  tierKey : (pipe.accessToken world p).1 = none → pipe.config.providerKey p = none →
    ∀ key, pipe.config.tierKeyOverride tier = some key →
      pipe.keys.resolve p (some key) = pipe.ownKey p

/-- The caller brings no key of its own, or the one the provider's own entry has. -/
def BringsOwnKey (pipe : Pipeline) (world : OAuthWorld) (tier : Tier) (context : ChatContext)
    (p : String) : Prop :=
  match context.routerKey with
  | some key => if key ≠ "" then key = pipe.ownKey p else RoutesByOwnKey pipe world tier p
  | none => RoutesByOwnKey pipe world tier p

namespace Pipeline

theorem routeKey_eq_ownKey_iff (pipe : Pipeline) (world : OAuthWorld) (tier : Tier) (p : String) :
    (pipe.routeKey world tier p).1 = pipe.ownKey p ↔ RoutesByOwnKey pipe world tier p := by
  have hroute : (pipe.routeKey world tier p).1 = (pipe.accessToken world p).1.getD
      (pipe.keys.resolve p
        ((pipe.config.providerKey p).or (pipe.config.tierKeyOverride tier))) := by
    rw [routeKey]
  rw [hroute]
  cases haccess : (pipe.accessToken world p).1 with
  | some access =>
    constructor
    · intro h
      exact ⟨fun a ha => Option.some.inj (ha.symm.trans haccess) ▸ h,
        fun hnone => nomatch hnone.symm.trans haccess⟩
    · exact fun h => h.accessToken access haccess
  | none =>
    constructor
    · intro h
      refine ⟨fun a ha => (nomatch ha.symm.trans haccess), ?_⟩
      intro _ hkey key htier
      rwa [hkey, htier] at h
    · intro h
      rw [Option.getD_none]
      cases hkey : pipe.config.providerKey p with
      | some key => rw [Option.some_or, ownKey, hkey]
      | none =>
        cases htier : pipe.config.tierKeyOverride tier with
        | none => rw [Option.none_or, ownKey, hkey]
        | some key => exact h.tierKey haccess hkey key htier

/-- Resolving an access token changes neither the provider's own key nor the set-up. -/
theorem accessToken_after (pipe : Pipeline) (world : OAuthWorld) (p : String) :
    (pipe.accessToken world p).2.registry = pipe.registry ∧
      (pipe.accessToken world p).2.config = pipe.config ∧
      (pipe.accessToken world p).2.ownKey p = pipe.ownKey p := by
  rw [accessToken]
  split
  · refine ⟨rfl, rfl, ?_⟩
    exact pipe.keys.resolve_store (OAuthManager.accessToken_store pipe.keys.crypto pipe.text world
      pipe.oauth pipe.keys.store (OAuthManager.oauthEntry_ne p)) _
  · exact ⟨rfl, rfl, rfl⟩

theorem selectRoute_spec {pipe : Pipeline}
    (h : pipe.selectRoute modelOverride tier = .ok selected) :
    '/' ∉ selected.providerId.toList ∧
      ∃ adapter, pipe.registry selected.providerId = some adapter := by
  have hexplicit : ∀ modelRef, Selector.routeExplicit pipe.registry modelRef = some selected →
      '/' ∉ selected.providerId.toList ∧
        ∃ adapter, pipe.registry selected.providerId = some adapter := by
    intro modelRef hr
    obtain ⟨-, hslash, hregistered, -⟩ := routeExplicit_eq_some_iff.mp hr
    exact ⟨hslash, Option.isSome_iff_exists.mp hregistered⟩
  cases modelOverride with
  | some m =>
    rw [selectRoute] at h
    split at h
    · next hr =>
      cases h
      exact hexplicit m hr
    · cases h
  | none =>
    rw [selectRoute] at h
    split at h
    · next hr =>
      cases h
      rw [Selector.routeTier] at hr
      split at hr
      · cases hr
      · exact hexplicit _ hr
    · cases h

/-- What a successful route leaves behind. -/
structure Routed (pipe : Pipeline) (world : OAuthWorld) (tier : Tier) (routed : RoutingOutput)
    (after : Pipeline) : Prop where
  noSlash : '/' ∉ routed.route.providerId.toList
  tier_eq : routed.canonical.tier = tier
  key_eq : routed.key = (pipe.routeKey world tier routed.route.providerId).1
  after_eq : after = (pipe.accessToken world routed.route.providerId).2
  registered : ∃ adapter, after.registry routed.route.providerId = some adapter

theorem route_spec {pipe : Pipeline}
    (h : pipe.route world requestId inbound modelOverride tier = (.ok routed, after)) :
    Routed pipe world tier routed after := by
  rw [route] at h
  split at h
  · cases h
  · next selected hroute =>
    obtain ⟨hslash, adapter, hadapter⟩ := selectRoute_spec hroute
    split at h
    · cases h
    · next canonical hcanonical =>
      have htier : canonical.tier = tier := by
        cases hcanonical
        rfl
      have hsnd : (pipe.routeKey world tier selected.providerId).2 =
          (pipe.accessToken world selected.providerId).2 := by rw [routeKey]
      generalize hk : pipe.routeKey world tier selected.providerId = keyed at h hsnd
      obtain ⟨key, after'⟩ := keyed
      dsimp only at h
      split at h
      · cases h
      · cases h
        refine ⟨hslash, htier, by rw [hk], hsnd, adapter, ?_⟩
        rw [show after = _ from hsnd, (pipe.accessToken_after world selected.providerId).1]
        exact hadapter

end Pipeline

theorem chainFrom_position (h : entry ∈ chainFrom k refs) : k ≤ entry.position := by
  induction refs generalizing k with
  | nil => exact absurd h List.not_mem_nil
  | cons s rest ih =>
    rcases List.mem_cons.mp h with rfl | h
    · exact Nat.le_refl k
    · exact Nat.le_of_succ_le (ih h)

theorem splitProviderModel_slash (h : '/' ∉ p.toList) (m : String) :
    splitProviderModel (p ++ "/" ++ m) = (p, m) := by
  rw [splitProviderModel, slash_eq, Str.splitOnce_append h]

/-- The first entry of the chain is the provider routed to, and no other has its position. -/
theorem Pipeline.planFor_chain (pipe : Pipeline) (routed : RoutingOutput)
    (h : '/' ∉ routed.route.providerId.toList) :
    (pipe.planFor routed).chain =
      (⟨0, routed.route.providerId, routed.route.modelId⟩ : ChainEntry) ::
        chainFrom 1 (pipe.planFor routed).fallbacks := by
  have hsplit : splitProviderModel (pipe.planFor routed).primary =
      (routed.route.providerId, routed.route.modelId) := splitProviderModel_slash h _
  rw [RoutingPlan.chain, chainFrom, hsplit]

theorem ChatContext.stamp_key {pipe : Pipeline} (context : ChatContext)
    (hkey : routed.key = (pipe.routeKey world tier p).1) :
    (context.stamp routed).key = pipe.ownKey p ↔ BringsOwnKey pipe world tier context p := by
  have hrouted : routed.key = pipe.ownKey p ↔ RoutesByOwnKey pipe world tier p := by
    rw [hkey]
    exact pipe.routeKey_eq_ownKey_iff world tier p
  rw [stamp, BringsOwnKey]
  cases context.routerKey with
  | none => exact hrouted
  | some key =>
    dsimp only
    split
    · exact Iff.rfl
    · exact hrouted

/-- A stream goes to the provider routed to, with the key of the stamped output. -/
theorem Pipeline.Routed.stream_stamp {pipe : Pipeline}
    (h : Routed pipe world tier routed after) (context : ChatContext) :
    ∃ adapter, after.registry routed.route.providerId = some adapter ∧
      after.stream (context.stamp routed) =
        .ok ⟨adapter, (context.stamp routed).canonical, (context.stamp routed).key⟩ := by
  obtain ⟨adapter, hadapter⟩ := h.registered
  have hroute : (context.stamp routed).route = routed.route := rfl
  refine ⟨adapter, hadapter, ?_⟩
  rw [Pipeline.stream, hroute, hadapter]

/-- The plan of the stamped output is the one made before the access token was asked for. -/
theorem Pipeline.Routed.chain_stamp {pipe : Pipeline}
    (h : Routed pipe world tier routed after) (context : ChatContext) :
    (after.planFor (context.stamp routed)).chain =
      (⟨0, routed.route.providerId, routed.route.modelId⟩ : ChainEntry) ::
        chainFrom 1 (pipe.planFor routed).fallbacks := by
  have hconfig := (pipe.accessToken_after world routed.route.providerId).2.1
  rw [← h.after_eq] at hconfig
  rw [after.planFor_chain (context.stamp routed) h.noSlash]
  simp only [Pipeline.planFor, ChatContext.stamp, hconfig]

/-- What the two ways to dispatch do with a routing output of the chat handler. -/
theorem Pipeline.Routed.sameCredential_iff {pipe : Pipeline}
    (h : Routed pipe world tier routed after) (context : ChatContext) (later : OAuthWorld) :
    SameCredential after later (context.stamp routed) ↔
      pipe.config.retry.requestBudgetMs = 0 ∨
        (BringsOwnKey pipe world tier context routed.route.providerId ∧
          ∀ entry ∈ chainFrom 1 (pipe.planFor routed).fallbacks, ∀ adapter,
            pipe.registry entry.provider = some adapter →
              RoutesByOwnKey after later tier entry.provider) := by
  obtain ⟨hregistry, hconfig, hown⟩ := pipe.accessToken_after world routed.route.providerId
  rw [← h.after_eq] at hregistry hconfig hown
  have hstamp := context.stamp_key h.key_eq
  have htier := h.tier_eq
  have hchain := h.chain_stamp context
  obtain ⟨adapter, hadapter, hstream⟩ := h.stream_stamp context
  constructor
  · intro hsame
    by_cases hbudget : after.config.retry.requestBudgetMs = 0
    · rw [hconfig] at hbudget
      exact .inl hbudget
    · refine .inr ⟨?_, ?_⟩
      · obtain ⟨call, hcall, hentry⟩ := after.run_timedOut (context.stamp routed) hbudget
          (by rw [hchain]; exact List.mem_cons_self) hadapter
        obtain ⟨hprimary, -⟩ := hsame timedOut .new 0 call hcall
        obtain ⟨-, _, -, hhandle, -⟩ := Pipeline.run_call hcall
        have hstreamed := hprimary (by rw [hentry])
        rw [hstream] at hstreamed
        have hkeys : (context.stamp routed).key = call.handle.key :=
          congrArg StreamCall.key (Except.ok.inj hstreamed)
        rw [← hstamp, ← hown, hkeys, hhandle, hentry]
      · intro entry hentry q hq
        have hmem : entry ∈ (after.planFor (context.stamp routed)).chain := by
          rw [hchain]
          exact List.mem_cons_of_mem _ hentry
        rw [← hregistry] at hq
        rw [← after.routeKey_eq_ownKey_iff, ← htier]
        obtain ⟨call, hcall, hcalled⟩ := after.run_timedOut (context.stamp routed) hbudget hmem hq
        obtain ⟨-, hfallback⟩ := hsame timedOut .new 0 call hcall
        obtain ⟨-, _, -, hhandle, -⟩ := Pipeline.run_call hcall
        rw [hhandle, hcalled] at hfallback
        exact (hfallback (chainFrom_position hentry)).symm
  · rintro (hbudget | ⟨hprimary, hfallbacks⟩) upstream health now call hcall
    · rw [← hconfig] at hbudget
      rw [Pipeline.run_noBudget hbudget] at hcall
      exact absurd hcall List.not_mem_nil
    · obtain ⟨hmem, q, hq, hhandle, -⟩ := Pipeline.run_call hcall
      rw [hchain] at hmem
      rw [hhandle]
      rcases List.mem_cons.mp hmem with hentry | hentry
      · rw [hentry] at hq ⊢
        refine ⟨?_, fun hpos => absurd hpos (Nat.lt_irrefl 0)⟩
        intro _
        rw [hadapter] at hq
        cases hq
        rw [hstream, hown, hstamp.mpr hprimary]
      · have hpos := chainFrom_position hentry
        refine ⟨fun hzero => by rw [hzero] at hpos; exact absurd hpos (by decide), ?_⟩
        intro _
        rw [hregistry] at hq
        rw [show (context.stamp routed).canonical.tier = tier from htier]
        exact ((after.routeKey_eq_ownKey_iff later tier call.entry.provider).mpr
          (hfallbacks call.entry hentry q hq)).symm

/-- The executor only ever looks up the key of a provider's own entry, so it agrees with the
streaming path exactly when nothing that comes before that key changes it: no key of the
caller's, no access token, no tier key. -/
theorem same_credential_iff {pipe : Pipeline}
    (h : pipe.route world requestId inbound modelOverride tier = (.ok routed, after))
    (context : ChatContext) (later : OAuthWorld) :
    SameCredential after later (context.stamp routed) ↔
      pipe.config.retry.requestBudgetMs = 0 ∨
        (BringsOwnKey pipe world tier context routed.route.providerId ∧
          ∀ entry ∈ chainFrom 1 (pipe.planFor routed).fallbacks, ∀ adapter,
            pipe.registry entry.provider = some adapter →
              RoutesByOwnKey after later tier entry.provider) :=
  (Pipeline.route_spec h).sameCredential_iff context later

theorem samplePipeline_route :
    samplePipeline.route sampleWorld "1"
      { model := "openai/gpt-4o", messages := [{ role := "user", content := .string "hi" }] }
      (some "openai/gpt-4o") .standard =
    (.ok (sampleRouted "gpt-4o" "sk-own"), samplePipeline) := by
  rfl

theorem same_credential_plain :
    SameCredential samplePipeline sampleWorld
      (ChatContext.stamp {} (sampleRouted "gpt-4o" "sk-own")) := by
  refine (same_credential_iff samplePipeline_route {} sampleWorld).mpr (.inr ⟨?_, ?_⟩)
  · exact ⟨fun _ h => (nomatch h), fun _ h => (nomatch h)⟩
  · exact fun _ h => (nomatch h)

/-- A key the caller brings is used for a stream, and not by the executor. -/
theorem same_credential_fails :
    ¬ SameCredential samplePipeline sampleWorld
      (ChatContext.stamp { routerKey := some "sk-tenant" } (sampleRouted "gpt-4o" "sk-own")) := by
  intro h
  obtain ⟨hprimary, -⟩ := h (fun _ => .instant
    (.ok ⟨"r", "gpt-4o", "openai", [.text "hello"], some "stop", {}⟩) timeout) .new 0 _
    (List.mem_singleton_self _)
  exact absurd (congrArg StreamCall.key (Except.ok.inj (hprimary rfl))) (by decide)

end TokenDealer
