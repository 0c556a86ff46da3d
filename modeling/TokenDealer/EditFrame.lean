import TokenDealer.AdminApi

set_option autoImplicit true

namespace TokenDealer

namespace AdminOp

/-- The requests that are refused before anything is done. -/
def Refused : AdminOp → Prop
  | addProvider _ | deleteRule _ => False
  | removeProvider id => id = ""
  | updateTier tier _ => Tier.parse tier = none
  | addRule body => Tier.parse body.tier = none

/-- The configuration is the way a request would make it. -/
def Done : AdminOp → RouterConfig → Prop
  | addProvider body, c =>
    ∃ others, c.providers = others ++ [body] ∧ ∀ p ∈ others, p.id ≠ body.id
  | removeProvider id, c => ∀ p ∈ c.providers, p.id ≠ id
  | updateTier tier body, c => Table.get tier c.tiers = some body.toTier
  | addRule body, c => ∃ i, body.index = some i ∧ c.detection.rules[i]? = some body.toRule
  | deleteRule index, c => c.detection.rules.length ≤ index

/-- So is the registry. A provider that no adapter can be built for is left out of it. -/
def Registered : AdminOp → ProviderRegistry → Prop
  | addProvider body, registry =>
    ∀ adapter, buildAdapter body = .ok adapter → registry body.id = some adapter
  | removeProvider id, registry => registry id = none
  | updateTier .., _ | addRule _, _ | deleteRule _, _ => True

variable {c : RouterConfig}

theorem putProvider_eq_self_iff {body : ProviderConfig} :
    RouterConfig.putProvider body c = c ↔ (addProvider body).Done c := by
  constructor
  · intro h
    have hput := congrArg RouterConfig.providers h
    refine ⟨c.providers.filter fun p => p.id ≠ body.id, hput.symm, ?_⟩
    intro p hp
    exact of_decide_eq_true (List.mem_filter.mp hp).2
  · intro h
    obtain ⟨others, hproviders, hothers⟩ := h
    have hfilter : (c.providers.filter fun p => p.id ≠ body.id) ++ [body] = c.providers := by
      have hbody : [body].filter (fun p => p.id ≠ body.id) = [] := by
        simp only [ne_eq, decide_not, List.filter_cons, decide_true, Bool.not_true,
          Bool.false_eq_true, if_false, List.filter_nil]
      rw [hproviders, List.filter_append, hbody, List.append_nil, List.filter_eq_self.mpr]
      exact fun p hp => decide_eq_true (hothers p hp)
    rw [RouterConfig.putProvider, hfilter]

theorem dropProvider_eq_self_iff {id : String} :
    RouterConfig.dropProvider id c = c ↔ (removeProvider id).Done c := by
  have hfilter : (c.providers.filter fun p => p.id ≠ id) = c.providers ↔
      ∀ p ∈ c.providers, p.id ≠ id := by
    rw [List.filter_eq_self]
    exact forall₂_congr fun p _ => decide_eq_true_iff
  constructor
  · intro h
    exact hfilter.mp (congrArg RouterConfig.providers h)
  · intro h
    rw [RouterConfig.dropProvider, hfilter.mpr h]

theorem putTier_eq_self_iff {body : TierUpdate} :
    RouterConfig.putTier tier body.toTier c = c ↔ (updateTier tier body).Done c := by
  constructor
  · intro h
    rw [Done, ← congrArg RouterConfig.tiers h]
    exact Table.get_set_self _ _ _
  · intro h
    rw [RouterConfig.putTier, Table.set_of_get h]

theorem putRule_eq_self_iff {body : AddRuleRequest} :
    RouterConfig.putRule body.index body.toRule c = c ↔ (addRule body).Done c := by
  have happend : c.detection.rules ++ [body.toRule] ≠ c.detection.rules := by
    intro h
    have hlength := congrArg List.length h
    rw [List.length_append] at hlength
    exact absurd hlength (Nat.succ_ne_self _)
  rw [Done]
  cases hindex : body.index with
  | none =>
    apply iff_of_false
    · intro h
      exact happend (congrArg (fun c : RouterConfig => c.detection.rules) h)
    · intro hdone
      obtain ⟨_, h, -⟩ := hdone
      cases h
  | some i =>
    by_cases hi : i < c.detection.rules.length
    · have hset : RouterConfig.putRule (some i) body.toRule c =
          { c with detection :=
            { c.detection with rules := c.detection.rules.set i body.toRule } } := by
        rw [RouterConfig.putRule]
        dsimp only
        rw [if_pos hi]
      constructor
      · intro h
        have hrules := congrArg (fun c : RouterConfig => c.detection.rules[i]?) h
        rw [hset] at hrules
        dsimp only at hrules
        rw [List.getElem?_set_self hi] at hrules
        exact ⟨i, rfl, hrules.symm⟩
      · intro hdone
        obtain ⟨_, ⟨⟩, h⟩ := hdone
        have hrule : c.detection.rules.set i body.toRule = c.detection.rules := by
          rw [List.getElem?_eq_getElem hi, Option.some.injEq] at h
          rw [← h, List.set_getElem_self]
        rw [hset, hrule]
    · have hput : RouterConfig.putRule (some i) body.toRule c =
          { c with detection :=
            { c.detection with rules := c.detection.rules ++ [body.toRule] } } := by
        rw [RouterConfig.putRule]
        dsimp only
        rw [if_neg hi]
      apply iff_of_false
      · intro h
        rw [hput] at h
        exact happend (congrArg (fun c : RouterConfig => c.detection.rules) h)
      · intro hdone
        obtain ⟨_, ⟨⟩, h⟩ := hdone
        rw [List.getElem?_eq_none (Nat.not_lt.mp hi)] at h
        cases h

theorem dropRule_eq_self_iff :
    RouterConfig.dropRule index c = c ↔ (deleteRule index).Done c := by
  rw [Done, RouterConfig.dropRule]
  by_cases hi : index < c.detection.rules.length
  · simp only [if_pos hi]
    refine iff_of_false ?_ (Nat.not_le.mpr hi)
    intro h
    have hlength := congrArg (fun c : RouterConfig => c.detection.rules.length) h
    dsimp only at hlength
    rw [List.length_eraseIdx_of_lt hi] at hlength
    omega
  · simp only [if_neg hi]
    exact iff_of_true trivial (Nat.not_lt.mp hi)

theorem mutation_eq_self_iff (op : AdminOp) : op.mutation c = c ↔ op.Done c := by
  cases op with
  | addProvider body => exact putProvider_eq_self_iff
  | removeProvider id => exact dropProvider_eq_self_iff
  | updateTier tier body => exact putTier_eq_self_iff
  | addRule body => exact putRule_eq_self_iff
  | deleteRule index => exact dropRule_eq_self_iff

end AdminOp

/-- What the file holds after a text is written to it. -/
def WriteOutcome.left (text : String) : WriteOutcome → Option String
  | written => some text
  | failed _ left => left

open ConfigService

/-- Saving the configuration once more leaves the file as it is. -/
def ConfigStore.FileKeeps (toml : Toml.Text) (outcome : WriteOutcome) (s : ConfigStore) : Prop :=
  ∀ doc, s.memory.toDocument = .ok doc → outcome.left (toml.print doc) = s.disk

theorem AppState.eq_iff {s s' : AppState} :
    s' = s ↔ s'.config = s.config ∧ s'.registry = s.registry := by
  obtain ⟨config, registry⟩ := s
  obtain ⟨config', registry'⟩ := s'
  exact AppState.mk.injEq _ _ _ _ ▸ Iff.rfl

theorem ConfigStore.eq_iff {s s' : ConfigStore} :
    s' = s ↔ s'.memory = s.memory ∧ s'.disk = s.disk := by
  obtain ⟨memory, disk⟩ := s
  obtain ⟨memory', disk'⟩ := s'
  exact ConfigStore.mk.injEq _ _ _ _ ▸ Iff.rfl

namespace Admin

variable {toml : Toml.Text} {outcome : WriteOutcome} {s : AppState}

theorem saveToDisk_snd_iff {s : ConfigStore} :
    (saveToDisk toml outcome s.memory s.disk).2 = s.disk ↔ s.FileKeeps toml outcome := by
  rw [saveToDisk, ConfigStore.FileKeeps]
  cases s.memory.toDocument with
  | error e =>
    apply iff_of_true rfl
    intro _ h
    cases h
  | ok doc =>
    simp only [Except.ok.injEq, forall_eq']
    cases outcome <;> exact Iff.rfl

section Updating

variable {f : RouterConfig → RouterConfig} {after : ConfigStore → AdminResponse × AppState}

theorem updating_config (hafter : ∀ config, (after config).2.config = config) :
    (updating toml outcome f s after).2.config =
      ⟨f s.config.memory, (saveToDisk toml outcome (f s.config.memory) s.config.disk).2⟩ := by
  rw [updating, updateWith]
  cases saveToDisk toml outcome (f s.config.memory) s.config.disk with
  | mk saved disk =>
    cases saved with
    | error e => rfl
    | ok u => exact hafter _

theorem updating_registry_of_saves (hsaves : Saves outcome (f s.config.memory))
    (hafter : ∀ config, (after config).2.registry = registry) :
    (updating toml outcome f s after).2.registry = registry := by
  obtain ⟨doc, -, hafterwards⟩ := updating_of_saves hsaves toml after
  rw [hafterwards, hafter]

theorem updating_registry_of_not_saves (hsaves : ¬ Saves outcome (f s.config.memory)) :
    (updating toml outcome f s after).2.registry = s.registry := by
  obtain ⟨message, disk, hfailed⟩ := updating_of_not_saves hsaves toml after
  rw [hfailed]

/-- An update has no effect when there is nothing to be done in memory, in the file and, if it is
saved, in the registry. -/
theorem updating_eq_self_iff (hafter : ∀ config, (after config).2 = ⟨config, registry⟩) :
    (updating toml outcome f s after).2 = s ↔
      f s.config.memory = s.config.memory ∧ s.config.FileKeeps toml outcome ∧
        (Saves outcome s.config.memory → registry = s.registry) := by
  have hconfig : (updating toml outcome f s after).2.config =
      ⟨f s.config.memory, (saveToDisk toml outcome (f s.config.memory) s.config.disk).2⟩ :=
    updating_config fun config => by rw [hafter]
  have hregistry : Saves outcome (f s.config.memory) →
      (updating toml outcome f s after).2.registry = registry :=
    fun h => updating_registry_of_saves h fun config => by rw [hafter]
  rw [AppState.eq_iff, hconfig, ConfigStore.eq_iff]
  constructor
  · intro h
    obtain ⟨⟨hmemory, hdisk⟩, hsame⟩ := h
    dsimp only at hmemory hdisk
    rw [hmemory] at hdisk hregistry
    refine ⟨hmemory, saveToDisk_snd_iff.mp hdisk, ?_⟩
    intro h
    rw [← hregistry h, hsame]
  · intro h
    obtain ⟨hmemory, hfile, hsame⟩ := h
    have hdisk := saveToDisk_snd_iff.mpr hfile
    rw [← hmemory] at hdisk
    refine ⟨⟨hmemory, hdisk⟩, ?_⟩
    by_cases h : Saves outcome (f s.config.memory)
    · rw [hregistry h, hsame (hmemory ▸ h)]
    · exact updating_registry_of_not_saves h

end Updating

theorem register_snd (body : ProviderConfig) (registry : ProviderRegistry) (config : ConfigStore) :
    (register body registry config).2 =
      ⟨config, match buildAdapter body with
        | .ok adapter => Function.update registry body.id (some adapter)
        | .error _ => registry⟩ := by
  rw [register, ProviderRegistry.add]
  cases buildAdapter body <;> rfl

theorem unregister_snd (id : String) (registry : ProviderRegistry) (config : ConfigStore) :
    (unregister id registry config).2 = ⟨config, Function.update registry id none⟩ := by
  rw [unregister]
  dsimp only [ProviderRegistry.remove]
  split <;> rfl

end Admin

namespace AdminOp

variable {toml : Toml.Text} {outcome : WriteOutcome} {s : AppState}

/-- There is nothing left for a request to do. -/
def Keeps (toml : Toml.Text) (outcome : WriteOutcome) (op : AdminOp) (s : AppState) : Prop :=
  op.Done s.config.memory ∧ s.config.FileKeeps toml outcome ∧
    (Saves outcome s.config.memory → op.Registered s.registry)

theorem updating_addProvider_iff {body : ProviderConfig} :
    (Admin.updating toml outcome (RouterConfig.putProvider body) s
      (Admin.register body s.registry)).2 = s ↔ (addProvider body).Keeps toml outcome s := by
  rw [Admin.updating_eq_self_iff (Admin.register_snd body s.registry), putProvider_eq_self_iff,
    Keeps, Registered]
  refine and_congr_right fun _ => and_congr_right fun _ => imp_congr_right fun _ => ?_
  cases buildAdapter body with
  | error e => exact iff_of_true rfl fun _ h => nomatch h
  | ok adapter =>
    simp only [Function.update_eq_self_iff, Except.ok.injEq, forall_eq']
    exact eq_comm

theorem updating_removeProvider_iff {id : String} :
    (Admin.updating toml outcome (RouterConfig.dropProvider id) s
      (Admin.unregister id s.registry)).2 = s ↔ (removeProvider id).Keeps toml outcome s := by
  rw [Admin.updating_eq_self_iff (Admin.unregister_snd id s.registry), dropProvider_eq_self_iff,
    Keeps, Registered, Function.update_eq_self_iff, eq_comm]

/-- The requests that leave the registry alone. -/
theorem updating_iff {f : RouterConfig → RouterConfig}
    {after : ConfigStore → AdminResponse × AppState} {op : AdminOp}
    (hafter : ∀ config, (after config).2 = ⟨config, s.registry⟩)
    (hmutation : op.mutation = f) (hregistered : op.Registered s.registry) :
    (Admin.updating toml outcome f s after).2 = s ↔ op.Keeps toml outcome s := by
  rw [Admin.updating_eq_self_iff hafter, ← hmutation, mutation_eq_self_iff, Keeps]
  exact and_congr_right fun _ => and_congr_right fun _ => iff_of_true (fun _ => rfl) fun _ =>
    hregistered

/-- An edit has no effect when it is refused or done already. -/
theorem handle_eq_self_iff (op : AdminOp) :
    (op.handle toml outcome s).2 = s ↔ op.Refused ∨ op.Keeps toml outcome s := by
  cases op with
  | addProvider body =>
    rw [Refused, false_or]
    exact updating_addProvider_iff
  | removeProvider id =>
    rw [handle, Admin.removeProvider, Refused]
    by_cases hid : id = ""
    · rw [if_pos hid]
      exact iff_of_true rfl (.inl hid)
    · rw [if_neg hid, updating_removeProvider_iff]
      exact (or_iff_right hid).symm
  | updateTier tier body =>
    rw [handle, Admin.updateTier, Refused]
    cases htier : Tier.parse tier with
    | none => exact iff_of_true rfl (.inl rfl)
    | some t =>
      rw [or_iff_right (Option.some_ne_none t)]
      exact updating_iff (fun _ => rfl) rfl trivial
  | addRule body =>
    rw [handle, Admin.addRule, Refused]
    cases htier : Tier.parse body.tier with
    | none => exact iff_of_true rfl (.inl rfl)
    | some t =>
      rw [or_iff_right (Option.some_ne_none t)]
      exact updating_iff (fun _ => rfl) rfl trivial
  | deleteRule index =>
    rw [Refused, false_or]
    exact updating_iff (fun _ => rfl) rfl trivial

end AdminOp

namespace Admin

variable {toml : Toml.Text} {outcome : WriteOutcome} {s : AppState}

/-- The form changes what the request of the same name changes. -/
theorem uiRemoveProvider_snd (toml : Toml.Text) (outcome : WriteOutcome) (id : String)
    (s : AppState) :
    (uiRemoveProvider toml outcome id s).2 =
      (updating toml outcome (RouterConfig.dropProvider id) s (unregister id s.registry)).2 := by
  rw [uiRemoveProvider, updating]
  cases updateWith toml outcome (RouterConfig.dropProvider id) s.config with
  | mk result config =>
    cases result with
    | error e => rfl
    | ok c => exact (unregister_snd id s.registry config).symm

theorem saveConfig_eq_self_iff :
    (saveConfig toml outcome s).2 = s ↔ s.config.FileKeeps toml outcome := by
  have hsnd : (saveConfig toml outcome s).2 =
      { s with config := { s.config with
        disk := (saveToDisk toml outcome s.config.memory s.config.disk).2 } } := by
    rw [saveConfig]
    cases saveToDisk toml outcome s.config.memory s.config.disk with
    | mk saved disk => cases saved <;> rfl
  rw [hsnd, AppState.eq_iff, and_iff_left rfl, ConfigStore.eq_iff, ← saveToDisk_snd_iff]
  exact and_iff_right rfl

/-- What a reload would put into memory is there. -/
def ReloadKeeps (tools : ValidateTools) (name : String) (file : Except String String)
    (memory : RouterConfig) : Prop :=
  ∀ text c, file = .ok text → readConfig tools name "reload aborted" text = .ok c → c = memory

theorem reloadConfig_eq_self_iff {tools : ValidateTools} {file : Except String String} :
    (reloadConfig tools name file s).2 = s ↔
      ReloadKeeps tools name file s.config.memory := by
  cases file with
  | error e => exact iff_of_true rfl fun _ _ h => nomatch h
  | ok text =>
    cases hread : readConfig tools name "reload aborted" text with
    | error e =>
      rw [reloadConfig_error hread]
      apply iff_of_true rfl
      rintro _ c ⟨⟩ h
      rw [hread] at h
      cases h
    | ok c =>
      rw [reloadConfig_ok hread, AppState.eq_iff, and_iff_left rfl, ConfigStore.eq_iff,
        and_iff_left rfl]
      constructor
      · rintro h _ c' ⟨⟩ hc'
        rw [hread] at hc'
        cases hc'
        exact h
      · intro h
        exact h text c rfl hread

end Admin

end TokenDealer
