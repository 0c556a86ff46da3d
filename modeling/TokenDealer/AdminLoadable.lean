import TokenDealer.Admin

set_option autoImplicit true

namespace TokenDealer

open ConfigService Validate

namespace AdminOp

/-- The requests after which every reference still has something to refer to. -/
def KeepsReferences (validUrl : String → Bool) (c : RouterConfig) : AdminOp → Prop
  | addProvider body => body.IsValid validUrl
  | removeProvider id =>
    (∀ m ∈ c.tiers,
      (m.2.primary ∈ c.providerIds ∧ m.2.primary ≠ id ∨
        head m.2.primary ∈ c.providerIds ∧ head m.2.primary ≠ id) ∧
      ∀ fallback ∈ m.2.fallbacks, head fallback ≠ id) ∧
    ∀ r ∈ c.specificity.rules, head r.primary ≠ id
  | updateTier tier body =>
    (body.primary ≠ "" ∧ (body.primary ∈ c.providerIds ∨ head body.primary ∈ c.providerIds)) ∧
    (∀ fallback ∈ body.fallbacks, head fallback ∈ c.providerIds) ∧
    (∀ name, body.downgradeTo = some name → tier = name ∨ (Table.get name c.tiers).isSome) ∧
    body.minContextWindow ≠ some 0
  | addRule body => (Table.get body.tier c.tiers).isSome
  | deleteRule _ => True

end AdminOp

section

variable {validUrl : String → Bool} {c : RouterConfig} {id name : String}

theorem mem_providerIds : id ∈ c.providerIds ↔ ∃ p ∈ c.providers, p.id = id := List.mem_map

theorem mem_providerIds_dropProvider :
    name ∈ (c.dropProvider id).providerIds ↔ name ∈ c.providerIds ∧ name ≠ id := by
  rw [mem_providerIds, mem_providerIds, RouterConfig.dropProvider]
  constructor
  · intro h
    obtain ⟨p, hp, rfl⟩ := h
    obtain ⟨hp, hne⟩ := List.mem_filter.mp hp
    exact ⟨⟨p, hp, rfl⟩, of_decide_eq_true hne⟩
  · intro h
    obtain ⟨⟨p, hp, rfl⟩, hne⟩ := h
    exact ⟨p, List.mem_filter.mpr ⟨hp, decide_eq_true hne⟩, rfl⟩

theorem providerIds_putProvider (body : ProviderConfig) (c : RouterConfig) :
    (c.putProvider body).providerIds = (c.dropProvider body.id).providerIds ++ [body.id] :=
  List.map_append

theorem mem_providerIds_putProvider {body : ProviderConfig} :
    name ∈ (c.putProvider body).providerIds ↔ name ∈ c.providerIds ∨ name = body.id := by
  rw [providerIds_putProvider, List.mem_append, List.mem_singleton, mem_providerIds_dropProvider]
  by_cases h : name = body.id
  · exact iff_of_true (.inr h) (.inr h)
  · rw [or_iff_left h, or_iff_left h, and_iff_left h]

theorem nodup_dropProvider (h : c.providerIds.Nodup) (id : String) :
    (c.dropProvider id).providerIds.Nodup :=
  h.sublist (List.filter_sublist.map _)

/-- More identifiers and more tiers leave a tier valid. -/
theorem TierConfig.IsValid.mono {ids ids' : List String} {tiers tiers' : List (String × TierConfig)}
    {tier : TierConfig} (h : tier.IsValid ids tiers) (hids : ∀ id ∈ ids, id ∈ ids')
    (htiers : ∀ name, (Table.get name tiers).isSome → (Table.get name tiers').isSome) :
    tier.IsValid ids' tiers' where
  primary := ⟨h.primary.1, h.primary.2.imp (hids _) (hids _)⟩
  fallbacks fallback hf := hids _ (h.fallbacks fallback hf)
  downgradeTo name hn := htiers name (h.downgradeTo name hn)
  minContextWindow := h.minContextWindow

theorem putProvider_isValid_iff (h : c.IsValid validUrl) (body : ProviderConfig) :
    (c.putProvider body).IsValid validUrl ↔ body.IsValid validUrl := by
  constructor
  · intro hput
    exact hput.providers body (List.mem_append_right _ (List.mem_singleton.mpr rfl))
  · intro hbody
    have hids : ∀ id ∈ c.providerIds, id ∈ (c.putProvider body).providerIds :=
      fun id hid => mem_providerIds_putProvider.mpr (.inl hid)
    refine ⟨h.server, ?_, ?_, fun m hm => (h.tiers m hm).mono hids fun _ hn => hn,
      h.rules, h.retry, h.budgets, h.pricingUrl, h.lowestPrice,
      fun r hr => ⟨hids _ (h.specificity r hr).primary, (h.specificity r hr).threshold⟩⟩
    · intro p hp
      rcases List.mem_append.mp hp with hp | hp
      · exact h.providers p (List.mem_filter.mp hp).1
      · rw [List.mem_singleton.mp hp]
        exact hbody
    · rw [providerIds_putProvider]
      refine List.nodup_append.mpr
        ⟨nodup_dropProvider h.distinct _, List.pairwise_singleton _ _, ?_⟩
      intro name hname other hother
      rw [List.mem_singleton.mp hother]
      exact (mem_providerIds_dropProvider.mp hname).2

theorem dropProvider_isValid_iff (h : c.IsValid validUrl) (id : String) :
    (c.dropProvider id).IsValid validUrl ↔
      (AdminOp.removeProvider id).KeepsReferences validUrl c := by
  constructor
  · intro hdrop
    refine ⟨fun m hm => ⟨?_, fun fallback hf => ?_⟩, fun r hr => ?_⟩
    · exact (hdrop.tiers m hm).primary.2.imp mem_providerIds_dropProvider.mp
        mem_providerIds_dropProvider.mp
    · exact (mem_providerIds_dropProvider.mp ((hdrop.tiers m hm).fallbacks fallback hf)).2
    · exact (mem_providerIds_dropProvider.mp (hdrop.specificity r hr).primary).2
  · intro hvalid
    obtain ⟨htiers, hspecificity⟩ := hvalid
    refine ⟨h.server, fun p hp => h.providers p (List.mem_filter.mp hp).1,
      nodup_dropProvider h.distinct id, fun m hm => ?_, h.rules, h.retry, h.budgets, h.pricingUrl,
      h.lowestPrice, fun r hr => ⟨?_, (h.specificity r hr).threshold⟩⟩
    · have hm' := h.tiers m hm
      exact ⟨⟨hm'.primary.1, (htiers m hm).1.imp mem_providerIds_dropProvider.mpr
          mem_providerIds_dropProvider.mpr⟩,
        fun fallback hf => mem_providerIds_dropProvider.mpr
          ⟨hm'.fallbacks fallback hf, (htiers m hm).2 fallback hf⟩,
        hm'.downgradeTo, hm'.minContextWindow⟩
    · exact mem_providerIds_dropProvider.mpr ⟨(h.specificity r hr).primary, hspecificity r hr⟩

theorem putTier_isValid_iff (h : c.IsValid validUrl) (name : String) (body : TierUpdate) :
    (c.putTier name body.toTier).IsValid validUrl ↔
      (AdminOp.updateTier name body).KeepsReferences validUrl c := by
  constructor
  · intro hput
    have htier := hput.tiers (name, body.toTier) (Table.mem_set_self _ _ _)
    exact ⟨htier.primary, htier.fallbacks,
      fun other ho => Table.isSome_get_set.mp (htier.downgradeTo other ho), htier.minContextWindow⟩
  · intro hvalid
    obtain ⟨hprimary, hfallbacks, hdown, hwindow⟩ := hvalid
    have htiers : ∀ other, (Table.get other c.tiers).isSome →
        (Table.get other (Table.set name body.toTier c.tiers)).isSome :=
      fun other ho => Table.isSome_get_set.mpr (.inr ho)
    refine ⟨h.server, h.providers, h.distinct, ?_,
      fun r hr => htiers r.tier (h.rules r hr), h.retry, h.budgets, h.pricingUrl, h.lowestPrice,
      h.specificity⟩
    intro m hm
    rcases Table.mem_of_mem_set hm with rfl | hm
    · exact ⟨hprimary, hfallbacks, fun other ho => Table.isSome_get_set.mpr (hdown other ho),
        hwindow⟩
    · exact (h.tiers m hm).mono (fun _ hid => hid) htiers

/-- Only the detection rules are checked anew when they are edited. -/
theorem editRules_isValid_iff (h : c.IsValid validUrl) (rules : List DetectionRule) :
    ({ c with detection := { c.detection with rules := rules } } : RouterConfig).IsValid validUrl ↔
      ∀ r ∈ rules, (Table.get r.tier c.tiers).isSome :=
  ⟨fun hedit => hedit.rules, fun hrules => ⟨h.server, h.providers, h.distinct, h.tiers, hrules,
    h.retry, h.budgets, h.pricingUrl, h.lowestPrice, h.specificity⟩⟩

theorem putRule_isValid_iff (h : c.IsValid validUrl) (index : Option Nat) (rule : DetectionRule) :
    (c.putRule index rule).IsValid validUrl ↔ (Table.get rule.tier c.tiers).isSome := by
  have hpush : (∀ r ∈ c.detection.rules ++ [rule], (Table.get r.tier c.tiers).isSome) ↔
      (Table.get rule.tier c.tiers).isSome := by
    constructor
    · exact fun hrules => hrules rule (List.mem_append_right _ (List.mem_singleton.mpr rfl))
    · intro hrule r hr
      rcases List.mem_append.mp hr with hr | hr
      · exact h.rules r hr
      · exact List.mem_singleton.mp hr ▸ hrule
  cases index with
  | none => exact (editRules_isValid_iff h _).trans hpush
  | some i =>
    apply (editRules_isValid_iff h _).trans
    dsimp only
    by_cases hi : i < c.detection.rules.length
    · rw [if_pos hi]
      constructor
      · exact fun hrules => hrules rule (List.mem_set hi rule)
      · intro hrule r hr
        rcases List.mem_or_eq_of_mem_set hr with hr | rfl
        · exact h.rules r hr
        · exact hrule
    · rw [if_neg hi]
      exact hpush

theorem dropRule_isValid (h : c.IsValid validUrl) (index : Nat) :
    (c.dropRule index).IsValid validUrl := by
  rw [RouterConfig.dropRule, editRules_isValid_iff h]
  intro r hr
  split at hr
  · exact h.rules r (List.mem_of_mem_eraseIdx hr)
  · exact h.rules r hr

/-- A request makes a valid configuration of a valid one exactly when it keeps the references. -/
theorem AdminOp.mutation_isValid_iff (h : c.IsValid validUrl) (op : AdminOp) :
    (op.mutation c).IsValid validUrl ↔ op.KeepsReferences validUrl c := by
  cases op with
  | addProvider body => exact putProvider_isValid_iff h body
  | removeProvider id => exact dropProvider_isValid_iff h id
  | updateTier tier body => exact putTier_isValid_iff h tier body
  | addRule body => exact putRule_isValid_iff h body.index body.toRule
  | deleteRule index => exact iff_of_true (dropRule_isValid h index) trivial

end

section

variable {tools : ValidateTools}

/-- Successful requests one after the other, each of which keeps the references. -/
inductive GuardedRun (tools : ValidateTools) (s : AppState) : AppState → Prop
  | refl : GuardedRun tools s s
  | step {t : AppState} (op : AdminOp) (outcome : WriteOutcome) (hrun : GuardedRun tools s t)
      (hsuccess : (op.handle tools.toml outcome t).1.IsSuccess)
      (hkeeps : op.KeepsReferences tools.validUrl t.config.memory) :
      GuardedRun tools s (op.handle tools.toml outcome t).2

theorem GuardedRun.isValid {s t : AppState} (hrun : GuardedRun tools s t)
    (hvalid : s.config.memory.IsValid tools.validUrl) :
    t.config.memory.IsValid tools.validUrl ∧
      (t.config = s.config ∨ SavedAs tools.toml t.config.disk t.config.memory) := by
  induction hrun with
  | refl => exact ⟨hvalid, .inl rfl⟩
  | step op outcome _ hsuccess hkeeps ih =>
    obtain ⟨hmemory, hdisk⟩ := AdminOp.handle_isSuccess hsuccess
    rw [hmemory]
    exact ⟨(op.mutation_isValid_iff ih.1).mpr hkeeps, .inr hdisk⟩

/-- What is on disk after such requests is accepted by the validator, as it was before. -/
theorem admin_keeps_loadable {raw : String} {c : RouterConfig} {registry : ProviderRegistry}
    {t : AppState} (hraw : validate tools raw = []) (hload : fromStr tools.toml raw = .ok c)
    (hrun : GuardedRun tools ⟨⟨c, some raw⟩, registry⟩ t)
    (hprint : ∀ doc, t.config.memory.toDocument = .ok doc → tools.toml.RoundTrips doc) :
    ∃ text, t.config.disk = some text ∧ validate tools text = [] := by
  obtain ⟨hvalid, hdisk⟩ := hrun.isValid (isValid_of_validate hraw hload)
  rcases hdisk with hsame | ⟨doc, hdoc, hdisk⟩
  · exact ⟨raw, by rw [hsame], hraw⟩
  · exact ⟨_, hdisk, validate_print hvalid hdoc (hprint doc hdoc)⟩

end

/-- One provider, and a tier that sends its requests there. -/
def oneTier : RouterConfig :=
  { oneProvider with tiers := [("simple", { primary := "openai/gpt-4o" })] }

/-- The same after a request to remove the provider. -/
def danglingTier : RouterConfig := oneTier.dropProvider "openai"

def twoTiers : RouterConfig := oneTier.putTier "complex" { primary := "openai/o3" }

def tiersTools : ValidateTools where
  toml := savedToml [oneTier, danglingTier, twoTiers]
  display _ := "sample"
  message _ := "sample"
  validUrl url := url = ({} : PricingSyncConfig).openrouterUrl

def oneRegistry : ProviderRegistry :=
  Function.update (fun _ => none) "openai" (buildAdapter (stockProvider "openai" .openai)).toOption

def oneTierState : AppState := ⟨⟨oneTier, some (savedText oneTier)⟩, oneRegistry⟩

theorem tiers_distinct : ([oneTier, danglingTier, twoTiers].map savedText).Nodup := by
  decide +kernel

theorem fromStr_oneTier : fromStr tiersTools.toml (savedText oneTier) = .ok oneTier :=
  fromStr_savedText tiers_distinct List.mem_cons_self rfl

theorem oneTier_isValid : oneTier.IsValid tiersTools.validUrl :=
  checkSemantic_eq_nil_iff.mp (by decide +kernel)

theorem validate_oneTier : validate tiersTools (savedText oneTier) = [] :=
  validate_savedText rfl oneTier_isValid rfl tiers_distinct List.mem_cons_self

theorem admin_keeps_loadable_sample :
    ∃ text, ((AdminOp.updateTier "complex" { primary := "openai/o3" }).handle tiersTools.toml
        .written oneTierState).2.config.disk = some text ∧ validate tiersTools text = [] := by
  refine admin_keeps_loadable validate_oneTier fromStr_oneTier
    (.step (.updateTier "complex" { primary := "openai/o3" }) .written .refl ?_ ?_) ?_
  · exact of_decide_eq_true (p := 200 < 300) rfl
  · exact ⟨⟨by decide, .inr (by decide)⟩, fun _ h => absurd h List.not_mem_nil,
      fun _ h => (nomatch h), by decide⟩
  · intro doc hdoc
    cases hdoc
    exact savedToml_roundTrips (c := twoTiers) tiers_distinct
      (List.mem_cons_of_mem _ (List.mem_cons_of_mem _ List.mem_cons_self))

theorem checkSemantic_danglingTier : checkSemantic tiersTools.validUrl danglingTier.canon =
    [⟨"tiers.simple.primary",
      "unknown provider \"openai/gpt-4o\" (not in [[providers]])"⟩] := by
  decide +kernel

/-- The provider is removed as it was asked for, and the file it is removed from is refused. -/
theorem removal_refused :
    validate tiersTools (savedText oneTier) = [] ∧
    fromStr tiersTools.toml (savedText oneTier) = .ok oneTierState.config.memory ∧
    ((AdminOp.removeProvider "openai").handle tiersTools.toml .written oneTierState).1.IsSuccess ∧
    ((AdminOp.removeProvider "openai").handle tiersTools.toml .written
        oneTierState).2.config.disk = some (savedText danglingTier) ∧
    validate tiersTools (savedText danglingTier) =
      [⟨"tiers.simple.primary",
        "unknown provider \"openai/gpt-4o\" (not in [[providers]])"⟩] := by
  have hread : (savedToml [oneTier, danglingTier, twoTiers]).parse (savedText danglingTier) =
      .ok (savedDocument danglingTier).sorted :=
    parse_savedText tiers_distinct (List.mem_cons_of_mem _ List.mem_cons_self)
  have hdocument : RouterConfig.fromDocument (savedDocument danglingTier).sorted =
      .ok danglingTier.canon := RouterConfig.fromDocument_toDocument rfl
  refine ⟨validate_oneTier, fromStr_oneTier, of_decide_eq_true (p := 200 < 300) rfl, rfl, ?_⟩
  exact (validate_of_reads hread hdocument rfl).trans checkSemantic_danglingTier

end TokenDealer
