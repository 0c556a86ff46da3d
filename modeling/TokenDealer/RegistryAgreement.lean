import TokenDealer.Admin
import TokenDealer.ConfigLoad

set_option autoImplicit true

namespace TokenDealer

open ConfigService

/-- The registry and the configuration name the same providers, and what is registered is built
from an entry of the configuration. -/
structure RegistryAgrees (registry : ProviderRegistry) (providers : List ProviderConfig) :
    Prop where
  ids : ∀ id, (registry id).isSome ↔ ∃ p ∈ providers, p.id = id
  adapters : ∀ id adapter, registry id = some adapter →
    ∃ p ∈ providers, p.id = id ∧ buildAdapter p = .ok adapter

/-- Reading the file again changes the configuration alone. The file may have been edited since it
was saved, or not be readable. -/
def Admin.reloadConfig (tools : ValidateTools) (name : String) (text : Except String String)
    (s : AppState) : AdminResponse × AppState :=
  let (result, memory) := reload tools name text s.config.memory
  let s' : AppState := { s with config := { s.config with memory := memory } }
  match result with
  | .ok _ => (.ok 200 [("status", .string "reloaded")], s')
  | .error e => (.error 500 e, s')

theorem Admin.reloadConfig_ok {tools : ValidateTools}
    (hread : readConfig tools name "reload aborted" raw = .ok c) (s : AppState) :
    Admin.reloadConfig tools name (.ok raw) s =
      (.ok 200 [("status", .string "reloaded")],
        { s with config := { s.config with memory := c } }) := by
  simp only [Admin.reloadConfig, reload, hread]

/-- What is refused changes nothing. -/
theorem Admin.reloadConfig_error {tools : ValidateTools}
    (hread : readConfig tools name "reload aborted" raw = .error e) (s : AppState) :
    Admin.reloadConfig tools name (.ok raw) s = (.error 500 e, s) := by
  simp only [Admin.reloadConfig, reload, hread]

inductive ProviderOp where
  | add (body : ProviderConfig) (outcome : WriteOutcome)
  | remove (id : String) (outcome : WriteOutcome)
  | reload (text : Except String String)

/-- Two lists of providers that the same adapters are built from. -/
def SameAdapters (providers providers' : List ProviderConfig) : Prop :=
  (∀ p' ∈ providers', ∃ p ∈ providers, p.id = p'.id ∧ buildAdapter p = buildAdapter p') ∧
    ∀ p ∈ providers, ∃ p' ∈ providers', p'.id = p.id ∧ buildAdapter p' = buildAdapter p

namespace ProviderOp

def handle (tools : ValidateTools) (name : String) : ProviderOp → AppState →
    AdminResponse × AppState
  | add body outcome => Admin.addProvider tools.toml outcome body
  | remove id outcome => Admin.removeProvider tools.toml outcome id
  | reload text => Admin.reloadConfig tools name text

/-- The operations that change both or neither. -/
def KeepsAgreement (tools : ValidateTools) (s : AppState) : ProviderOp → Prop
  | add body outcome => ∃ adapter, buildAdapter body = .ok adapter ∧
    (Saves outcome (s.config.memory.putProvider body) ∨ s.registry body.id = some adapter)
  | remove id outcome =>
    id = "" ∨ Saves outcome (s.config.memory.dropProvider id) ∨ s.registry id = none
  | reload text => ∀ raw c, text = .ok raw → validate tools raw = [] →
    fromStr tools.toml raw = .ok c → SameAdapters s.config.memory.providers c.providers

end ProviderOp

section

variable {registry : ProviderRegistry} {providers : List ProviderConfig}

/-- Registering the adapter of an entry that takes the place of those with its identifier, or is
put behind them. -/
theorem RegistryAgrees.add (h : RegistryAgrees registry providers) {body : ProviderConfig}
    (hbuild : buildAdapter body = .ok adapter) {providers' : List ProviderConfig}
    (hbody : body ∈ providers') (hold : ∀ p ∈ providers', p = body ∨ p ∈ providers)
    (hkept : ∀ p ∈ providers, p.id ≠ body.id → p ∈ providers') :
    RegistryAgrees (Function.update registry body.id (some adapter)) providers' := by
  constructor
  · intro id
    by_cases hid : id = body.id
    · rw [hid, Function.update_self]
      exact iff_of_true rfl ⟨body, hbody, rfl⟩
    · rw [Function.update_of_ne hid, h.ids]
      constructor
      · intro hlisted
        obtain ⟨p, hp, rfl⟩ := hlisted
        exact ⟨p, hkept p hp hid, rfl⟩
      · intro hlisted
        obtain ⟨p, hp, rfl⟩ := hlisted
        rcases hold p hp with rfl | hp
        · exact absurd rfl hid
        · exact ⟨p, hp, rfl⟩
  · intro id other hother
    by_cases hid : id = body.id
    · rw [hid, Function.update_self] at hother
      cases hother
      exact ⟨body, hbody, hid.symm, hbuild⟩
    · rw [Function.update_of_ne hid] at hother
      obtain ⟨p, hp, rfl, hp'⟩ := h.adapters id other hother
      exact ⟨p, hkept p hp hid, rfl, hp'⟩

theorem RegistryAgrees.remove (h : RegistryAgrees registry providers) (id : String) :
    RegistryAgrees (Function.update registry id none) (providers.filter fun p => p.id ≠ id) := by
  constructor
  · intro other
    by_cases hid : other = id
    · rw [hid, Function.update_self]
      apply iff_of_false Bool.false_ne_true
      intro hlisted
      obtain ⟨p, hp, hpid⟩ := hlisted
      exact of_decide_eq_true (List.mem_filter.mp hp).2 hpid
    · rw [Function.update_of_ne hid, h.ids]
      constructor
      · intro hlisted
        obtain ⟨p, hp, rfl⟩ := hlisted
        exact ⟨p, List.mem_filter.mpr ⟨hp, decide_eq_true hid⟩, rfl⟩
      · intro hlisted
        obtain ⟨p, hp, rfl⟩ := hlisted
        exact ⟨p, (List.mem_filter.mp hp).1, rfl⟩
  · intro other adapter hadapter
    by_cases hid : other = id
    · rw [hid, Function.update_self] at hadapter
      cases hadapter
    · rw [Function.update_of_ne hid] at hadapter
      obtain ⟨p, hp, rfl, hp'⟩ := h.adapters other adapter hadapter
      exact ⟨p, List.mem_filter.mpr ⟨hp, decide_eq_true hid⟩, rfl, hp'⟩

theorem RegistryAgrees.same (h : RegistryAgrees registry providers)
    (hsame : SameAdapters providers providers') : RegistryAgrees registry providers' := by
  obtain ⟨hback, hforth⟩ := hsame
  constructor
  · intro id
    rw [h.ids]
    constructor
    · intro hlisted
      obtain ⟨p, hp, rfl⟩ := hlisted
      obtain ⟨p', hp', hid, -⟩ := hforth p hp
      exact ⟨p', hp', hid⟩
    · intro hlisted
      obtain ⟨p', hp', rfl⟩ := hlisted
      obtain ⟨p, hp, hid, -⟩ := hback p' hp'
      exact ⟨p, hp, hid⟩
  · intro id adapter hadapter
    obtain ⟨p, hp, rfl, hbuild⟩ := h.adapters id adapter hadapter
    obtain ⟨p', hp', hid, hbuild'⟩ := hforth p hp
    exact ⟨p', hp', hid, hbuild'.trans hbuild⟩

/-- Among distinct identifiers an entry is the one that its adapter is built from. -/
theorem RegistryAgrees.build (h : RegistryAgrees registry providers)
    (hdistinct : (providers.map fun p => p.id).Nodup) (hp : p ∈ providers) :
    ∃ adapter, registry p.id = some adapter ∧ buildAdapter p = .ok adapter := by
  obtain ⟨adapter, hadapter⟩ := Option.isSome_iff_exists.mp ((h.ids p.id).mpr ⟨p, hp, rfl⟩)
  obtain ⟨q, hq, hid, hbuild⟩ := h.adapters p.id adapter hadapter
  rw [List.inj_on_of_nodup_map hdistinct hq hp hid] at hbuild
  exact ⟨adapter, hadapter, hbuild⟩

theorem RegistryAgrees.same_iff (h : RegistryAgrees registry providers)
    (hdistinct : (providers.map fun p => p.id).Nodup)
    (hdistinct' : (providers'.map fun p => p.id).Nodup) :
    RegistryAgrees registry providers' ↔ SameAdapters providers providers' := by
  refine ⟨fun h' => ⟨fun p' hp' => ?_, fun p hp => ?_⟩, h.same⟩
  · obtain ⟨adapter, hadapter, hbuild'⟩ := h'.build hdistinct' hp'
    obtain ⟨p, hp, hid, hbuild⟩ := h.adapters p'.id adapter hadapter
    exact ⟨p, hp, hid, hbuild.trans hbuild'.symm⟩
  · obtain ⟨adapter, hadapter, hbuild⟩ := h.build hdistinct hp
    obtain ⟨p', hp', hid, hbuild'⟩ := h'.adapters p.id adapter hadapter
    exact ⟨p', hp', hid, hbuild'.trans hbuild.symm⟩

theorem foldlM_agrees (h : RegistryAgrees registry providers) {rest : List ProviderConfig}
    (hfold : rest.foldlM (fun (map : ProviderRegistry) cfg => do
      let adapter ← buildAdapter cfg
      pure (Function.update map cfg.id (some adapter))) registry = .ok registry') :
    RegistryAgrees registry' (providers ++ rest) := by
  induction rest generalizing registry providers with
  | nil =>
    cases hfold
    rw [List.append_nil]
    exact h
  | cons cfg rest ih =>
    rw [List.foldlM_cons] at hfold
    cases hbuild : buildAdapter cfg with
    | error e =>
      rw [hbuild] at hfold
      cases hfold
    | ok adapter =>
      rw [hbuild] at hfold
      have hadd : RegistryAgrees (Function.update registry cfg.id (some adapter))
          (providers ++ [cfg]) := h.add hbuild
        (List.mem_append_right _ (List.mem_singleton.mpr rfl))
        (fun p hp => (List.mem_append.mp hp).symm.imp_left List.mem_singleton.mp)
        (fun p hp _ => List.mem_append_left _ hp)
      rw [List.append_cons]
      exact ih hadd hfold

/-- A registry agrees with the entries that it was built from. -/
theorem fromConfigs_agrees (h : ProviderRegistry.fromConfigs providers = .ok registry) :
    RegistryAgrees registry providers := by
  have hnone : RegistryAgrees (fun _ => none) [] :=
    ⟨fun id => iff_of_false Bool.false_ne_true fun ⟨_, hp, _⟩ => List.not_mem_nil hp,
      fun _ _ h => nomatch h⟩
  exact foldlM_agrees hnone h

end

section Steps

variable {tools : ValidateTools} {name : String} {s : AppState}

theorem RegistryAgrees.put (h : RegistryAgrees s.registry s.config.memory.providers)
    (hbuild : buildAdapter body = .ok adapter) :
    RegistryAgrees (Function.update s.registry body.id (some adapter))
      (s.config.memory.putProvider body).providers :=
  h.add hbuild (List.mem_append_right _ (List.mem_singleton.mpr rfl))
    (fun _ hp => (List.mem_append.mp hp).symm.imp List.mem_singleton.mp
      fun hp => (List.mem_filter.mp hp).1)
    (fun _ hp hne => List.mem_append_left _ (List.mem_filter.mpr ⟨hp, decide_eq_true hne⟩))

/-- A provider that is configured and not registered is as it should be when the adapter that is
there already is its own. -/
theorem agrees_putProvider_iff (h : RegistryAgrees s.registry s.config.memory.providers)
    (body : ProviderConfig) :
    RegistryAgrees s.registry (s.config.memory.putProvider body).providers ↔
      ∃ adapter, buildAdapter body = .ok adapter ∧ s.registry body.id = some adapter := by
  constructor
  · intro hput
    have hmem : body ∈ (s.config.memory.putProvider body).providers :=
      List.mem_append_right _ (List.mem_singleton.mpr rfl)
    obtain ⟨adapter, hadapter⟩ := Option.isSome_iff_exists.mp
      ((hput.ids body.id).mpr ⟨body, hmem, rfl⟩)
    obtain ⟨p, hp, hid, hbuild⟩ := hput.adapters body.id adapter hadapter
    rcases List.mem_append.mp hp with hp | hp
    · exact absurd hid (of_decide_eq_true (List.mem_filter.mp hp).2)
    · rw [List.mem_singleton.mp hp] at hbuild
      exact ⟨adapter, hbuild, hadapter⟩
  · intro hbuilt
    obtain ⟨adapter, hbuild, hadapter⟩ := hbuilt
    have hput := h.put hbuild
    rw [← hadapter, Function.update_eq_self] at hput
    exact hput

theorem agrees_dropProvider_iff (h : RegistryAgrees s.registry s.config.memory.providers)
    (id : String) :
    RegistryAgrees s.registry (s.config.memory.dropProvider id).providers ↔
      s.registry id = none := by
  constructor
  · intro hdrop
    rw [← Option.not_isSome_iff_eq_none, hdrop.ids]
    intro hlisted
    obtain ⟨p, hp, hid⟩ := hlisted
    exact of_decide_eq_true (List.mem_filter.mp hp).2 hid
  · intro hnone
    have hdrop := h.remove id
    rw [← hnone, Function.update_eq_self] at hdrop
    exact hdrop

theorem agrees_addProvider_iff (h : RegistryAgrees s.registry s.config.memory.providers)
    (body : ProviderConfig) (outcome : WriteOutcome) :
    RegistryAgrees (Admin.addProvider tools.toml outcome body s).2.registry
        (Admin.addProvider tools.toml outcome body s).2.config.memory.providers ↔
      (ProviderOp.add body outcome).KeepsAgreement tools s := by
  rw [ProviderOp.KeepsAgreement, Admin.addProvider]
  by_cases hsaves : Saves outcome (s.config.memory.putProvider body)
  · obtain ⟨doc, -, hafter⟩ := Admin.updating_of_saves hsaves tools.toml
      (Admin.register body s.registry)
    rw [hafter, Admin.register, ProviderRegistry.add]
    cases hbuild : buildAdapter body with
    | error e =>
      apply iff_of_false
      · intro hput
        obtain ⟨adapter, hadapter, -⟩ := (agrees_putProvider_iff h body).mp hput
        rw [hbuild] at hadapter
        cases hadapter
      · intro hbuilt
        obtain ⟨adapter, hadapter, -⟩ := hbuilt
        cases hadapter
    | ok adapter => exact iff_of_true (h.put hbuild) ⟨adapter, rfl, .inl hsaves⟩
  · obtain ⟨message, disk, hfailed⟩ := Admin.updating_of_not_saves hsaves tools.toml
      (Admin.register body s.registry)
    rw [hfailed]
    dsimp only
    rw [agrees_putProvider_iff h]
    simp only [hsaves, false_or]

theorem agrees_removeProvider_iff (h : RegistryAgrees s.registry s.config.memory.providers)
    (id : String) (outcome : WriteOutcome) :
    RegistryAgrees (Admin.removeProvider tools.toml outcome id s).2.registry
        (Admin.removeProvider tools.toml outcome id s).2.config.memory.providers ↔
      (ProviderOp.remove id outcome).KeepsAgreement tools s := by
  rw [ProviderOp.KeepsAgreement, Admin.removeProvider]
  by_cases hid : id = ""
  · rw [if_pos hid]
    exact iff_of_true h (.inl hid)
  · rw [if_neg hid, or_iff_right hid]
    by_cases hsaves : Saves outcome (s.config.memory.dropProvider id)
    · obtain ⟨doc, -, hafter⟩ := Admin.updating_of_saves hsaves tools.toml
        (Admin.unregister id s.registry)
      rw [hafter, Admin.unregister, ProviderRegistry.remove]
      refine iff_of_true ?_ (.inl hsaves)
      have hremove := h.remove id
      dsimp only
      split <;> exact hremove
    · obtain ⟨message, disk, hfailed⟩ := Admin.updating_of_not_saves hsaves tools.toml
        (Admin.unregister id s.registry)
      rw [hfailed]
      dsimp only
      rw [agrees_dropProvider_iff h, or_iff_right hsaves]

theorem agrees_reloadConfig (h : RegistryAgrees s.registry s.config.memory.providers)
    {text : Except String String} (hkeeps : (ProviderOp.reload text).KeepsAgreement tools s) :
    RegistryAgrees (Admin.reloadConfig tools name text s).2.registry
      (Admin.reloadConfig tools name text s).2.config.memory.providers := by
  cases text with
  | error e => exact h
  | ok raw =>
    cases hread : readConfig tools name "reload aborted" raw with
    | error e =>
      rw [Admin.reloadConfig_error hread]
      exact h
    | ok c =>
      obtain ⟨hvalid, hc⟩ := readConfig_eq_ok.mp hread
      rw [Admin.reloadConfig_ok hread]
      exact h.same (hkeeps raw c rfl hvalid hc)

/-- The registry is not touched by a reload, so that the file may have no other adapters to build
than the configuration in memory. -/
theorem agrees_reloadConfig_iff (h : RegistryAgrees s.registry s.config.memory.providers)
    (hdistinct : s.config.memory.providerIds.Nodup) (text : Except String String) :
    RegistryAgrees (Admin.reloadConfig tools name text s).2.registry
        (Admin.reloadConfig tools name text s).2.config.memory.providers ↔
      (ProviderOp.reload text).KeepsAgreement tools s := by
  refine ⟨?_, agrees_reloadConfig h⟩
  rintro hreload raw c rfl hvalid hc
  have hread : readConfig tools name "reload aborted" raw = .ok c :=
    readConfig_eq_ok.mpr ⟨hvalid, hc⟩
  rw [Admin.reloadConfig_ok hread] at hreload
  exact (h.same_iff hdistinct (isValid_of_validate hvalid hc).distinct).mp hreload

theorem agrees_handle (h : RegistryAgrees s.registry s.config.memory.providers) {op : ProviderOp}
    (hkeeps : op.KeepsAgreement tools s) :
    RegistryAgrees (op.handle tools name s).2.registry
      (op.handle tools name s).2.config.memory.providers := by
  cases op with
  | add body outcome => exact (agrees_addProvider_iff h body outcome).mpr hkeeps
  | remove id outcome => exact (agrees_removeProvider_iff h id outcome).mpr hkeeps
  | reload text => exact agrees_reloadConfig h hkeeps

end Steps

/-- Operations one after the other, each of which changes both stores or neither. -/
inductive ProviderRun (tools : ValidateTools) (name : String) (s : AppState) : AppState → Prop
  | refl : ProviderRun tools name s s
  | step {t : AppState} (op : ProviderOp) (hrun : ProviderRun tools name s t)
      (hkeeps : op.KeepsAgreement tools t) : ProviderRun tools name s (op.handle tools name t).2

/-- The registry of such a run stays the one of its configuration. -/
theorem registry_agrees_of_run {tools : ValidateTools} {name : String} {s t : AppState}
    (hstart : ProviderRegistry.fromConfigs s.config.memory.providers = .ok s.registry)
    (hrun : ProviderRun tools name s t) :
    RegistryAgrees t.registry t.config.memory.providers := by
  induction hrun with
  | refl => exact fromConfigs_agrees hstart
  | step op _ hkeeps ih => exact agrees_handle ih hkeeps

def providersTools : ValidateTools where
  toml := providersToml
  display _ := "sample"
  message _ := "sample"
  validUrl url := url = ({} : PricingSyncConfig).openrouterUrl

/-- A router that was started with one provider. -/
def startedState : AppState :=
  ⟨⟨oneProvider, some (savedText oneProvider)⟩,
    ((ProviderRegistry.fromConfigs oneProvider.providers).toOption).getD fun _ => none⟩

theorem fromConfigs_startedState :
    ProviderRegistry.fromConfigs oneProvider.providers = .ok startedState.registry := rfl

theorem registry_agrees_sample :
    RegistryAgrees
      ((ProviderOp.add (stockProvider "groq" .groq) .written).handle providersTools
        "token-dealer.toml" startedState).2.registry
      ((ProviderOp.add (stockProvider "groq" .groq) .written).handle providersTools
        "token-dealer.toml" startedState).2.config.memory.providers :=
  registry_agrees_of_run fromConfigs_startedState
    (.step (.add (stockProvider "groq" .groq) .written) .refl ⟨_, rfl, .inl ⟨rfl, _, rfl⟩⟩)

theorem readConfig_twoProviders :
    readConfig providersTools "token-dealer.toml" "reload aborted" (savedText twoProviders) =
      .ok twoProviders := by
  have hvalid : twoProviders.IsValid providersTools.validUrl :=
    checkSemantic_eq_nil_iff.mp (by decide +kernel)
  exact readConfig_eq_ok.mpr
    ⟨validate_savedText rfl hvalid rfl providers_distinct mem_twoProviders,
      fromStr_savedText providers_distinct mem_twoProviders rfl⟩

/-- A second provider is written into the file, which is then read again: it is configured, and
not registered. -/
theorem reload_registers_nothing :
    ProviderRegistry.fromConfigs oneProvider.providers = .ok startedState.registry ∧
    ((ProviderOp.reload (.ok (savedText twoProviders))).handle providersTools
      "token-dealer.toml" startedState).1.status = 200 ∧
    ¬ RegistryAgrees
        ((ProviderOp.reload (.ok (savedText twoProviders))).handle providersTools
          "token-dealer.toml" startedState).2.registry
        ((ProviderOp.reload (.ok (savedText twoProviders))).handle providersTools
          "token-dealer.toml" startedState).2.config.memory.providers := by
  refine ⟨fromConfigs_startedState, ?_, ?_⟩
  · rw [ProviderOp.handle, Admin.reloadConfig_ok readConfig_twoProviders]
    rfl
  · rw [ProviderOp.handle, Admin.reloadConfig_ok readConfig_twoProviders]
    intro h
    have hgroq := (h.ids "groq").mpr
      ⟨stockProvider "groq" .groq, List.mem_cons_of_mem _ List.mem_cons_self, rfl⟩
    exact absurd hgroq (by decide)

end TokenDealer
