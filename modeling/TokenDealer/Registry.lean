import TokenDealer.Manifest
import Mathlib.Logic.Function.Basic

set_option autoImplicit true

namespace TokenDealer

inductive AdapterKind where
  | anthropic
  | google
  | kiro
  | responses
  | generic
  | openai
  deriving DecidableEq, Repr

/-- An adapter object. Only the OpenAI kind keeps a path of its own. -/
structure ProviderAdapter where
  kind : AdapterKind
  id : String
  baseUrl : String
  path : String
  defaultModel : String
  deriving DecidableEq, Repr

/-- The adapter map behind the lock. -/
abbrev ProviderRegistry := String → Option ProviderAdapter

def buildAdapter (cfg : ProviderConfig) : Except String ProviderAdapter :=
  let entry := Manifest.lookup cfg.providerType
  match cfg.baseUrl.or (entry.map ManifestProvider.baseUrl) with
  | none => .error s!"provider {cfg.id} has no base_url (use a non-Generic type)"
  | some baseUrl =>
    let defaultModel :=
      (cfg.defaultModel.or (entry.map ManifestProvider.defaultModel)).getD "default"
    let path := (cfg.path.or (entry.map ManifestProvider.path)).getD "/v1/chat/completions"
    match cfg.providerType with
    | .anthropic => .ok ⟨.anthropic, cfg.id, baseUrl, "/v1/messages", defaultModel⟩
    | .google => .ok ⟨.google, cfg.id, baseUrl, "", defaultModel⟩
    | .kiro => .ok ⟨.kiro, cfg.id, baseUrl, "", defaultModel⟩
    | .responses => .ok ⟨.responses, cfg.id, baseUrl, "/v1/responses", defaultModel⟩
    | .generic => .ok ⟨.generic, cfg.id, baseUrl, "/v1/chat/completions", defaultModel⟩
    | _ => .ok ⟨.openai, cfg.id, baseUrl, path, defaultModel⟩

namespace ProviderRegistry

def fromConfigs (configs : List ProviderConfig) : Except String ProviderRegistry :=
  configs.foldlM (fun map cfg => do
    let adapter ← buildAdapter cfg
    pure (Function.update map cfg.id (some adapter))) fun _ => none

def splitModelRef (modelStr : String) : Option (String × String) :=
  match Str.splitOnce '/' modelStr with
  | none => none
  | some (p, m) => if p = "" ∨ m = "" then none else some (p, m)

end ProviderRegistry

structure SelectedRoute where
  providerId : String
  modelId : String
  deriving DecidableEq, Repr

namespace Selector

def routeExplicit (registry : ProviderRegistry) (modelRef : String) : Option SelectedRoute :=
  match ProviderRegistry.splitModelRef modelRef with
  | none => none
  | some (p, m) =>
    match registry p with
    | none => none
    | some _ => some ⟨p, m⟩

def routeTier (registry : ProviderRegistry) (config : RouterConfig) (tier : Tier) :
    Option SelectedRoute :=
  match config.primaryForTier tier with
  | none => none
  | some primary => routeExplicit registry primary

end Selector

theorem slash_eq : "/" = String.singleton '/' := rfl

/-- A reference is cut at its first slash. -/
theorem splitModelRef_append (hp : '/' ∉ p.toList) (m : String) :
    ProviderRegistry.splitModelRef (p ++ "/" ++ m) =
      if p = "" ∨ m = "" then none else some (p, m) := by
  rw [ProviderRegistry.splitModelRef, slash_eq, Str.splitOnce_append hp]

theorem routeExplicit_append (hp : '/' ∉ p.toList) (registry : ProviderRegistry) (m : String) :
    Selector.routeExplicit registry (p ++ "/" ++ m) =
      if (registry p).isSome ∧ p ≠ "" ∧ m ≠ "" then some ⟨p, m⟩ else none := by
  rw [Selector.routeExplicit, splitModelRef_append hp]
  by_cases hempty : p = "" ∨ m = ""
  · rw [if_pos hempty, if_neg]
    intro h
    obtain ⟨-, hpne, hmne⟩ := h
    exact hempty.elim hpne hmne
  · rw [if_neg hempty]
    obtain ⟨hpne, hmne⟩ := not_or.mp hempty
    dsimp only
    cases registry p with
    | none => rw [if_neg fun h => Bool.false_ne_true h.1]
    | some adapter => rw [if_pos ⟨rfl, hpne, hmne⟩]

/-- Exactly the references to a registered provider are routed, as what they say. -/
theorem routeExplicit_eq_some_iff {registry : ProviderRegistry} {route : SelectedRoute} :
    Selector.routeExplicit registry ref = some route ↔
      ref = route.providerId ++ "/" ++ route.modelId ∧ '/' ∉ route.providerId.toList ∧
        (registry route.providerId).isSome ∧ route.providerId ≠ "" ∧ route.modelId ≠ "" := by
  constructor
  · intro h
    cases hsplit : Str.splitOnce '/' ref with
    | none =>
      rw [Selector.routeExplicit, ProviderRegistry.splitModelRef, hsplit] at h
      cases h
    | some parts =>
      obtain ⟨p, m⟩ := parts
      have href := Str.eq_append_of_splitOnce hsplit
      have hp := Str.splitOnce_not_mem hsplit
      rw [← slash_eq] at href
      rw [href, routeExplicit_append hp] at h
      split at h
      case isFalse => cases h
      case isTrue hreg =>
        cases h
        exact ⟨href, hp, hreg⟩
  · intro h
    obtain ⟨href, hp, hreg⟩ := h
    rw [href, routeExplicit_append hp, if_pos hreg]

end TokenDealer
