import TokenDealer.UnknownFields

set_option autoImplicit true

namespace TokenDealer

namespace Validate

open Toml Shape

theorem get_auth_of_ne : ∀ key, "admin_password" ≠ key →
    Table.get key describedAuth = Table.get key AuthConfig.shape :=
  get_eq_of_filter (by rfl)

theorem get_tier_of_ne : ∀ key, "timeouts" ≠ key →
    Table.get key describedTier = Table.get key TierConfig.shape :=
  get_eq_of_filter (by rfl)

theorem get_rule_of_ne : ∀ key, "if" ≠ key →
    Table.get key describedRule = Table.get key DetectionRule.shape :=
  get_eq_of_filter (by rfl)

theorem get_detection_of_ne : ∀ key, "rules" ≠ key →
    Table.get key describedDetection = Table.get key DetectionConfig.shape :=
  get_eq_of_filter (by rfl)

theorem missed_auth (path : String) (v : Value) :
    missed (.record describedAuth) (.record AuthConfig.shape) path v = [] ↔
      ∀ w, ("admin_password", w) ∉ v.members :=
  missed_extra_eq_nil rfl rfl get_auth_of_ne

theorem missed_auth_looser (path : String) (v : Value) :
    missed (.record AuthConfig.shape) (.record describedAuth) path v = [] := by
  apply missed_looser
  intro key
  by_cases hkey : "admin_password" = key
  · subst hkey
    exact .inr rfl
  · exact .inl (get_auth_of_ne key hkey).symm

/-- The timeouts of a tier are not looked into: the walker has them under the path of the tier,
and the schema under the name of the section. -/
theorem missed_tier (path : String) (v : Value) :
    missed (.record describedTier) (.record TierConfig.shape) path v = [] ↔
      ∀ timeouts, ("timeouts", timeouts) ∈ v.members →
        ∀ m ∈ timeouts.members, m.1 ∈ ["connect_ms", "read_ms", "per_attempt_ms"] := by
  apply missed_field_eq_nil rfl rfl get_tier_of_ne
  · intro path w
    have hflat := ignored_flat_eq_nil ["connect_ms", "read_ms", "per_attempt_ms"] path w
    cases w with
    | table members => exact hflat
    | _ => exact iff_of_true rfl nofun

theorem missed_tier_looser (path : String) (v : Value) :
    missed (.record TierConfig.shape) (.record describedTier) path v = [] := by
  apply missed_looser
  intro key
  by_cases hkey : "timeouts" = key
  · subst hkey
    exact .inr rfl
  · exact .inl (get_tier_of_ne key hkey).symm

theorem missed_rule (path : String) (v : Value) :
    missed (.record describedRule) (.record DetectionRule.shape) path v = [] ↔
      ∀ condition, ("if", condition) ∈ v.members →
        ∀ m ∈ condition.members, m.1 ∈ ["has_tools", "input_tokens_gt", "prompt_contains"] := by
  apply missed_field_eq_nil rfl rfl get_rule_of_ne
  · intro path w
    have hflat := ignored_flat_eq_nil ["has_tools", "input_tokens_gt", "prompt_contains"] path w
    cases w with
    | table members => exact hflat
    | _ => exact iff_of_true rfl nofun

theorem missed_rule_looser (path : String) (v : Value) :
    missed (.record DetectionRule.shape) (.record describedRule) path v = [] := by
  apply missed_looser
  intro key
  by_cases hkey : "if" = key
  · subst hkey
    exact .inr rfl
  · exact .inl (get_rule_of_ne key hkey).symm

theorem missed_detection (path : String) (v : Value) :
    missed (.record describedDetection) (.record DetectionConfig.shape) path v = [] ↔
      ∀ rules, ("rules", rules) ∈ v.members → ∀ rule ∈ rules.items,
        ∀ condition, ("if", condition) ∈ rule.members →
          ∀ m ∈ condition.members, m.1 ∈ ["has_tools", "input_tokens_gt", "prompt_contains"] := by
  apply missed_field_eq_nil rfl rfl get_detection_of_ne
  · intro path rules
    exact missed_list_eq_nil missed_rule

theorem missed_detection_looser (path : String) (v : Value) :
    missed (.record DetectionConfig.shape) (.record describedDetection) path v = [] := by
  have hrules : ∀ path rules, missed (.list (.record DetectionRule.shape))
      (.list (.record describedRule)) path rules = [] ↔ True := by
    intro path rules
    rw [missed_list_eq_nil fun path rule => iff_true_intro (missed_rule_looser path rule)]
    exact iff_true_intro fun _ _ => trivial
  have hfield : missed (.record DetectionConfig.shape) (.record describedDetection) path v = [] ↔
      ∀ rules, ("rules", rules) ∈ v.members → True :=
    missed_field_eq_nil rfl rfl (fun key hkey => (get_detection_of_ne key hkey).symm) hrules
  exact hfield.mpr fun _ _ => trivial

/-- What the walker leaves out of one member of the document. -/
theorem missed_section (key : String) (v : Value) :
    missedMembers described RouterConfig.shape id [(key, v)] = [] ↔
      ("auth" = key → ∀ w, ("admin_password", w) ∉ v.members) ∧
      ("tiers" = key → ∀ tier ∈ v.members,
        ∀ timeouts, ("timeouts", timeouts) ∈ tier.2.members →
          ∀ m ∈ timeouts.members, m.1 ∈ ["connect_ms", "read_ms", "per_attempt_ms"]) ∧
      ("detection" = key → ∀ rules, ("rules", rules) ∈ v.members → ∀ rule ∈ rules.items,
        ∀ condition, ("if", condition) ∈ rule.members →
          ∀ m ∈ condition.members, m.1 ∈ ["has_tools", "input_tokens_gt", "prompt_contains"]) := by
  by_cases hauth : "auth" = key
  · subst hauth
    rw [missedMember_both get_described_auth rfl, missed_auth]
    simp only [forall_const, String.reduceEq, false_implies, and_true]
  by_cases htiers : "tiers" = key
  · subst htiers
    rw [missedMember_both get_described_tiers rfl, missed_map_eq_nil missed_tier]
    simp only [forall_const, String.reduceEq, false_implies, and_true, true_and]
  by_cases hdetection : "detection" = key
  · subst hdetection
    rw [missedMember_both get_described_detection rfl, missed_detection]
    simp only [forall_const, String.reduceEq, false_implies, true_and]
  simp only [hauth, htiers, hdetection, false_implies, and_true, iff_true]
  by_cases hkeys : "tier_keys" = key
  · subst hkeys
    rw [missedMember_both get_described_tierKeys rfl]
    cases v with
    | table members => exact ignored_map_leaf _ (.table members)
    | _ => rfl
  · exact missedMember_same (get_described_of_ne hauth htiers hkeys hdetection) v

/-- What the walker names of it although it is read: all keys of providers for the tiers. -/
theorem named_section (key : String) (v : Value) :
    missedMembers RouterConfig.shape described id [(key, v)] = [] ↔
      ("tier_keys" = key → v.members = []) := by
  by_cases hkeys : "tier_keys" = key
  · subst hkeys
    rw [missedMember_both rfl get_described_tierKeys]
    simp only [forall_const]
    cases v with
    | table members =>
      change (record []).ignored _ (.table members) = [] ↔ members = []
      rw [show (record [] : Shape) = record (([] : List String).map fun name => (name, leaf)) from
        rfl, ignored_flat_eq_nil]
      simp only [Value.members, List.not_mem_nil, imp_false, List.eq_nil_iff_forall_not_mem]
    | _ => exact iff_of_true rfl rfl
  simp only [hkeys, false_implies, iff_true]
  by_cases hauth : "auth" = key
  · subst hauth
    rw [missedMember_both rfl get_described_auth]
    exact missed_auth_looser _ v
  by_cases htiers : "tiers" = key
  · subst htiers
    rw [missedMember_both rfl get_described_tiers]
    have htier : missed (.map (.record TierConfig.shape)) (.map (.record describedTier)) "tiers" v =
        [] ↔ ∀ m ∈ v.members, True :=
      missed_map_eq_nil fun path w => iff_true_intro (missed_tier_looser path w)
    exact htier.mpr fun _ _ => trivial
  by_cases hdetection : "detection" = key
  · subst hdetection
    rw [missedMember_both rfl get_described_detection]
    exact missed_detection_looser _ v
  · exact missedMember_same (get_described_of_ne hauth htiers hkeys hdetection).symm v

/-- The document has no key that the walker gets wrong. -/
structure FullyDescribed (doc : Document) : Prop where
  auth : ∀ auth, ("auth", auth) ∈ doc → ∀ w, ("admin_password", w) ∉ auth.members
  tierKeys : ∀ keys, ("tier_keys", keys) ∈ doc → keys.members = []
  timeouts : ∀ tiers, ("tiers", tiers) ∈ doc → ∀ tier ∈ tiers.members,
    ∀ timeouts, ("timeouts", timeouts) ∈ tier.2.members →
      ∀ m ∈ timeouts.members, m.1 ∈ ["connect_ms", "read_ms", "per_attempt_ms"]
  conditions : ∀ detection, ("detection", detection) ∈ doc →
    ∀ rules, ("rules", rules) ∈ detection.members → ∀ rule ∈ rules.items,
      ∀ condition, ("if", condition) ∈ rule.members →
        ∀ m ∈ condition.members, m.1 ∈ ["has_tools", "input_tokens_gt", "prompt_contains"]

theorem fullyDescribed_iff {doc : Document} :
    FullyDescribed doc ↔ missedMembers described RouterConfig.shape id doc = [] ∧
      missedMembers RouterConfig.shape described id doc = [] := by
  rw [missedMembers_eq_nil, missedMembers_eq_nil]
  constructor
  · intro h
    constructor
    · rintro ⟨key, v⟩ hm
      rw [missed_section]
      refine ⟨?_, ?_, ?_⟩
      · rintro rfl
        exact h.auth v hm
      · rintro rfl
        exact h.timeouts v hm
      · rintro rfl
        exact h.conditions v hm
    · rintro ⟨key, v⟩ hm
      rw [named_section]
      rintro rfl
      exact h.tierKeys v hm
  · rintro ⟨hmissed, hnamed⟩
    have hsection := fun key v hm => (missed_section key v).mp (hmissed (key, v) hm)
    exact ⟨fun v hm => (hsection _ v hm).1 rfl,
      fun v hm => (named_section _ v).mp (hnamed (_, v) hm) rfl,
      fun v hm => (hsection _ v hm).2.1 rfl, fun v hm => (hsection _ v hm).2.2 rfl⟩

theorem prefix_of_mem_missedMember {fs gs : List (String × Shape)} {key path : String}
    {v : Value} (h : path ∈ missedMembers fs gs id [(key, v)]) : key.toList <+: path.toList := by
  have hignored := (missedMembers_sublist fs gs id [(key, v)]).subset h
  rw [ignoredMembers, ignoredMembers, List.append_nil] at hignored
  split at hignored
  · exact prefix_of_mem_ignored v hignored
  · cases List.mem_singleton.mp hignored
    exact List.prefix_refl _

/-- A key that is left out is not one that is named by mistake: they are in other sections. -/
theorem not_missed_of_named {doc : Document} {path : String}
    (hnamed : path ∈ missedMembers RouterConfig.shape described id doc) :
    path ∉ missedMembers described RouterConfig.shape id doc := by
  intro hmissed
  obtain ⟨⟨other, w⟩, -, hw⟩ := mem_missedMembers.mp hnamed
  obtain ⟨⟨key, v⟩, -, hv⟩ := mem_missedMembers.mp hmissed
  have hother : other = "tier_keys" := by
    by_contra hne
    rw [(named_section other w).mpr fun he => (hne he.symm).elim] at hw
    cases hw
  have hkey : key = "auth" ∨ key = "tiers" ∨ key = "detection" := by
    by_contra hne
    rw [not_or, not_or] at hne
    rw [(missed_section key v).mpr ⟨fun he => (hne.1 he.symm).elim,
      fun he => (hne.2.1 he.symm).elim, fun he => (hne.2.2 he.symm).elim⟩] at hv
    cases hv
  have hprefix := List.prefix_or_prefix_of_prefix (prefix_of_mem_missedMember hw)
    (prefix_of_mem_missedMember hv)
  subst hother
  rcases hkey with rfl | rfl | rfl <;> revert hprefix <;> decide

/-- The warnings name exactly the keys that are ignored when the document has none that the walker
gets wrong. -/
theorem warnings_exact_iff (doc : Document) :
    ((collectUnknownFields doc).map ConfigWarning.path).Perm (RouterConfig.ignoredKeys doc) ↔
      FullyDescribed doc := by
  rw [collectUnknownFields_described, RouterConfig.ignoredKeys, ignoredMembers_perm_iff,
    fullyDescribed_iff]
  constructor
  · intro h
    have hnamed : missedMembers RouterConfig.shape described id doc = [] := by
      apply List.eq_nil_iff_forall_not_mem.mpr
      intro path hpath
      exact not_missed_of_named hpath (h.mem_iff.mpr hpath)
    refine ⟨?_, hnamed⟩
    rw [hnamed] at h
    exact List.perm_nil.mp h
  · rintro ⟨hmissed, hnamed⟩
    rw [hmissed, hnamed]

/-- A key for a tier and a tier with a misspelt timeout. -/
def misspelt : Document :=
  [("tier_keys", .table [("simple", .string "k")]),
    ("tiers", .table [("simple", .table [("primary", .string "openai/gpt-4o"),
      ("timeouts", .table [("conect_ms", .integer 500)])])])]

/-- The key that is used is warned of, the timeout that is ignored is not. -/
theorem misspelt_unnoticed :
    RouterConfig.fromDocument misspelt = .ok
        { tiers := [("simple", { primary := "openai/gpt-4o" })], tierKeys := [("simple", "k")] } ∧
      collectUnknownFields misspelt = [⟨"tier_keys.simple", "unknown field"⟩] ∧
      RouterConfig.ignoredKeys misspelt = ["tiers.simple.timeouts.conect_ms"] ∧
      ¬ ((collectUnknownFields misspelt).map ConfigWarning.path).Perm
        (RouterConfig.ignoredKeys misspelt) := by
  have hwarned : collectUnknownFields misspelt = [⟨"tier_keys.simple", "unknown field"⟩] := rfl
  have hignored : RouterConfig.ignoredKeys misspelt = ["tiers.simple.timeouts.conect_ms"] := rfl
  refine ⟨rfl, hwarned, hignored, ?_⟩
  rw [hwarned, hignored]
  decide

end Validate

end TokenDealer
