import Mathlib.Data.List.Nodup
import TokenDealer.ConfigToml
import TokenDealer.WriteBehind

set_option autoImplicit true

namespace TokenDealer

/-- The configuration in memory and the text of the file, if there is one. -/
structure ConfigStore where
  memory : RouterConfig
  disk : Option String
  deriving DecidableEq, Repr

/-- What becomes of a write to the file. A write that fails may leave anything behind. -/
inductive WriteOutcome where
  | written
  | failed (message : String) (left : Option String)
  deriving DecidableEq, Repr

inductive SaveError where
  | serialize (e : Toml.EncodeError)
  | write (message : String)
  deriving DecidableEq, Repr

namespace ConfigService

variable (toml : Toml.Text)

/-- The configuration that a text reads as. -/
def fromStr (text : String) : Except Toml.DecodeError RouterConfig := do
  let doc ← toml.parse text
  RouterConfig.fromDocument doc

def saveToDisk (outcome : WriteOutcome) (snapshot : RouterConfig) (disk : Option String) :
    Except SaveError Unit × Option String :=
  match snapshot.toDocument with
  | .error e => (.error (.serialize e), disk)
  | .ok doc =>
    match outcome with
    | .written => (.ok (), some (toml.print doc))
    | .failed message left => (.error (.write message), left)

/-- The memory is swapped under the lock, and the snapshot is saved after that. -/
def updateWith (outcome : WriteOutcome) (f : RouterConfig → RouterConfig) (s : ConfigStore) :
    Except SaveError RouterConfig × ConfigStore :=
  let prev := f s.memory
  let (saved, disk) := saveToDisk toml outcome prev s.disk
  (saved.map fun _ => prev, ⟨prev, disk⟩)

/-- The file holds the text that a configuration is printed as. -/
def SavedAs (disk : Option String) (c : RouterConfig) : Prop :=
  ∃ doc, c.toDocument = .ok doc ∧ disk = some (toml.print doc)

/-- The file reads as a configuration, whose tables have no order of their own. -/
def DiskAgrees (disk : Option String) (c : RouterConfig) : Prop :=
  ∃ text c', disk = some text ∧ fromStr toml text = .ok c' ∧ c'.canon = c.canon

variable {toml}

theorem saveToDisk_ok (h : (saveToDisk toml outcome c disk).1 = .ok ()) :
    SavedAs toml (saveToDisk toml outcome c disk).2 c := by
  rw [saveToDisk] at h ⊢
  cases hdoc : c.toDocument with
  | error e =>
    rw [hdoc] at h
    cases h
  | ok doc =>
    rw [hdoc] at h
    cases outcome with
    | written => exact ⟨doc, hdoc, rfl⟩
    | failed message left => cases h

/-- Both failures are reported, and neither takes back what is in memory by then. -/
theorem updateWith_memory (outcome : WriteOutcome) (f : RouterConfig → RouterConfig)
    (s : ConfigStore) : (updateWith toml outcome f s).2.memory = f s.memory := rfl

theorem updateWith_ok (h : (updateWith toml outcome f s).1 = .ok c) :
    c = f s.memory ∧ SavedAs toml (updateWith toml outcome f s).2.disk (f s.memory) := by
  rw [updateWith] at h ⊢
  cases hsaved : (saveToDisk toml outcome (f s.memory) s.disk).1 with
  | error e =>
    dsimp only at h
    rw [hsaved] at h
    cases h
  | ok u =>
    have hdisk := saveToDisk_ok hsaved
    dsimp only at h ⊢
    rw [hsaved] at h
    cases h
    exact ⟨rfl, hdisk⟩

theorem canon_canon (c : RouterConfig) : c.canon.canon = c.canon := by
  rw [RouterConfig.canon, RouterConfig.canon, Table.sort_sort, Table.sort_sort]

theorem fromStr_print {c : RouterConfig} (hdoc : c.toDocument = .ok doc)
    (hprint : toml.RoundTrips doc) : fromStr toml (toml.print doc) = .ok c.canon := by
  rw [fromStr, hprint]
  exact RouterConfig.fromDocument_toDocument hdoc

theorem SavedAs.diskAgrees {disk : Option String} {c : RouterConfig} (h : SavedAs toml disk c)
    (hprint : ∀ doc, c.toDocument = .ok doc → toml.RoundTrips doc) : DiskAgrees toml disk c := by
  obtain ⟨doc, hdoc, hdisk⟩ := h
  exact ⟨_, _, hdisk, fromStr_print hdoc (hprint doc hdoc), canon_canon c⟩

end ConfigService

open ConfigService

/-- A failed update leaves the configuration alone, and a successful one hands out the one
before. -/
def UpdatesAtomically (before : RouterConfig) (f : RouterConfig → RouterConfig)
    (result : Except SaveError RouterConfig × ConfigStore) : Prop :=
  (∀ e, result.1 = .error e → result.2.memory = before) ∧
    ∀ v, result.1 = .ok v → v = before ∧ result.2.memory = f before

/-- That is so only for the updates that change nothing. -/
theorem updates_atomically_iff (toml : Toml.Text) (outcome : WriteOutcome)
    (f : RouterConfig → RouterConfig) (s : ConfigStore) :
    UpdatesAtomically s.memory f (updateWith toml outcome f s) ↔ f s.memory = s.memory := by
  constructor
  · intro h
    obtain ⟨herror, hok⟩ := h
    cases h : (updateWith toml outcome f s).1 with
    | error e => exact herror e h
    | ok v => exact (updateWith_ok h).1.symm.trans (hok v h).1
  · intro hsame
    refine ⟨fun e _ => ?_, fun v hv => ⟨?_, ?_⟩⟩
    · rw [updateWith_memory, hsame]
    · rw [(updateWith_ok hv).1, hsame]
    · exact updateWith_memory _ _ _

section Samples

/-- How a provider with nothing but an identifier and a type is printed. -/
def printedProvider (p : Toml.Value) : String :=
  let str key := ((p.get key).bind Toml.Value.asStr).getD ""
  "[[providers]]\nid = \"" ++ str "id" ++ "\"\ntype = \"" ++ str "type" ++ "\"\n\n"

/-- How a tier with nothing but a primary is printed. -/
def printedTier (name : String) (tier : Toml.Value) : String :=
  "[tiers." ++ name ++ "]\nprimary = \"" ++ ((tier.get "primary").bind Toml.Value.asStr).getD "" ++
    "\"\nfallbacks = []\nallow_tier_downgrade = false\n\n[tiers." ++ name ++ ".timeouts]\n\n"

def printedServer : List String :=
  ["log_retention_days = 0\n\n",
    "[server]\nbind = \"0.0.0.0:8080\"\nlog_level = \"info\"\noauth_redirect_uri = \"\"\n\n",
    "[auth]\nenabled = true\nkeys = []\n\n[database]\npath = \"\"\n\n"]

def printedSettings : List String :=
  ["[tier_keys]\n\n[detection]\nrules = []\n\n",
    "[retry]\nmax_same_provider_retries = 1\nfixed_retry_wait_ms = 1500\n",
    "max_retry_after_ms = 10000\nrequest_budget_ms = 120000\n\n",
    "[streaming]\nbuffer_threshold_tokens = 2048\n\n[specificity]\nenabled = false\nrules = []\n\n",
    "[budgets]\ndaily_cost_usd = 0.0\nper_request_cost_usd = 0.0\nwarn_fraction = 0.8\n\n",
    "[pricing_sync]\nenabled = true\ninterval_hours = 24\n",
    "openrouter_url = \"https://openrouter.ai/api/v1/models\"\n\n",
    "[discovery]\nenabled = true\nauto_assign_tiers = false\nmin_input_price_per_1m = 0.1\n\n",
    "[ratelimit]\nenabled = true\n\n[ratelimit.global]\nrefill_per_minute = 600\nburst = 1200\n\n",
    "[ratelimit.per_key]\nrefill_per_minute = 60\nburst = 120\n"]

/-- The text of a configuration that has providers and tiers, and stock settings. -/
def printed (doc : Toml.Document) : String :=
  let providers := ((Table.get "providers" doc).bind Toml.Value.asArray).getD []
  let tiers := ((Table.get "tiers" doc).bind Toml.Value.asTable).getD []
  let root := if providers.isEmpty then ["providers = []\n"] else []
  let tierTexts := if tiers.isEmpty then ["[tiers]\n\n"] else tiers.map fun m => printedTier m.1 m.2
  Str.concat
    (root ++ printedServer ++ providers.map printedProvider ++ tierTexts ++ printedSettings)

def savedDocument (c : RouterConfig) : Toml.Document := c.toDocument.toOption.getD []

def savedText (c : RouterConfig) : String := printed (savedDocument c)

/-- The TOML library on the texts of some configurations. -/
def savedToml (configs : List RouterConfig) : Toml.Text where
  print := printed
  parse text :=
    match configs.find? fun c => savedText c = text with
    | some c => .ok (savedDocument c).sorted
    | none => .error (.unknownSyntax "sample")

/-- Configurations with texts of their own can be told apart by these. -/
theorem savedToml_roundTrips (hdistinct : (configs.map savedText).Nodup) (hc : c ∈ configs) :
    (savedToml configs).RoundTrips (savedDocument c) := by
  have hfind : configs.find? (fun other => savedText other = savedText c) = some c := by
    cases hfound : configs.find? fun other => savedText other = savedText c with
    | none => exact absurd (decide_eq_true rfl) (List.find?_eq_none.mp hfound c hc)
    | some other =>
      have hdecide := List.find?_some hfound
      have hsame : savedText other = savedText c := of_decide_eq_true hdecide
      rw [List.inj_on_of_nodup_map hdistinct (List.mem_of_find?_eq_some hfound) hc hsame]
  rw [Toml.Text.RoundTrips, savedToml]
  dsimp only
  rw [← savedText, hfind]

theorem parse_savedText (hdistinct : (configs.map savedText).Nodup) (hc : c ∈ configs) :
    (savedToml configs).parse (savedText c) = .ok (savedDocument c).sorted :=
  savedToml_roundTrips hdistinct hc

theorem fromStr_savedText (hdistinct : (configs.map savedText).Nodup) (hc : c ∈ configs)
    (hdoc : c.toDocument = .ok (savedDocument c)) :
    fromStr (savedToml configs) (savedText c) = .ok c.canon :=
  fromStr_print hdoc (savedToml_roundTrips hdistinct hc)

def stockProvider (id : String) (t : ProviderType) : ProviderConfig :=
  { id := id, providerType := t }

/-- The stock configuration with these providers. -/
def routerWith (providers : List ProviderConfig) : RouterConfig := { providers := providers }

def addTo (p : ProviderConfig) (c : RouterConfig) : RouterConfig :=
  { c with providers := c.providers ++ [p] }

end Samples

/-- With a full disk the caller is told that nothing was saved, while the new provider is there;
and where all goes well it is handed out with the new provider in it. -/
theorem update_not_atomic :
    ¬ UpdatesAtomically (routerWith []) (addTo (stockProvider "openai" .openai))
        (updateWith (savedToml []) (.failed "No space left on device" (some ""))
          (addTo (stockProvider "openai" .openai)) ⟨routerWith [], none⟩) ∧
    ¬ UpdatesAtomically (routerWith []) (addTo (stockProvider "openai" .openai))
        (updateWith (savedToml []) .written
          (addTo (stockProvider "openai" .openai)) ⟨routerWith [], none⟩) := by
  constructor
  · intro h
    exact absurd (h.1 _ rfl) (by decide)
  · intro h
    exact absurd (h.2 _ rfl).1 (by decide)

section Interleaving

variable {ι : Type} [DecidableEq ι] {toml : Toml.Text} {change : ι → RouterConfig → RouterConfig}

/-- The second step of an update, when the lock is released. -/
def store (toml : Toml.Text) (outcome : WriteOutcome) (snapshot : RouterConfig)
    (disk : Option String) : Bool × Option String :=
  let (saved, disk) := saveToDisk toml outcome snapshot disk
  (saved.isOk, disk)

/-- An update on its own is the two steps of one call. -/
theorem run_updateWith (toml : Toml.Text) (outcome : WriteOutcome) (i : ι) (s : ConfigStore) :
    ∃ t, WriteBehind.run change (store toml) (WriteBehind.start ι s.memory s.disk)
        [.swap i, .write i outcome] = some t ∧
      (updateWith toml outcome (change i) s).2 = ⟨t.memory, t.disk⟩ ∧
      t.calls i = .finished (updateWith toml outcome (change i) s).1.isOk := by
  obtain ⟨t, hrun, hmemory, hdisk, hcall⟩ :
      ∃ t, WriteBehind.run change (store toml) (WriteBehind.start ι s.memory s.disk)
          [.swap i, .write i outcome] = some t ∧ t.memory = change i s.memory ∧
        t.disk = (store toml outcome (change i s.memory) s.disk).2 ∧
        t.calls i = .finished (store toml outcome (change i s.memory) s.disk).1 :=
    WriteBehind.run_alone i outcome s.memory s.disk
  refine ⟨t, hrun, ?_, ?_⟩
  · rw [hmemory, hdisk]
    rfl
  · rw [hcall, updateWith, store]
    cases saveToDisk toml outcome (change i s.memory) s.disk with
    | mk saved disk => cases saved <;> rfl

/-- The file as it was found, or as an update has left it. -/
def OnDisk (toml : Toml.Text) (disk : Option String) (c : RouterConfig) : Prop :=
  DiskAgrees toml disk c ∨ SavedAs toml disk c

theorem store_ok (outcome : WriteOutcome) (snapshot : RouterConfig) (disk : Option String)
    (h : (store toml outcome snapshot disk).1 = true) :
    OnDisk toml (store toml outcome snapshot disk).2 snapshot := by
  cases hsaved : (saveToDisk toml outcome snapshot disk).1 with
  | error e =>
    rw [store] at h
    dsimp only at h
    rw [hsaved] at h
    cases h
  | ok u => exact .inr (saveToDisk_ok hsaved)

/-- The file reads as what is in memory once every call is through, if no call saves after the one
that changed the memory last has saved. Only where there is no call does it matter what the file
was before. -/
theorem disk_agrees_of_allInOrder {memory : RouterConfig} {disk : Option String}
    {actions : List (WriteBehind.Action ι WriteOutcome)}
    {t : WriteBehind.State ι RouterConfig (Option String)}
    (hdisk : IsEmpty ι → DiskAgrees toml disk memory)
    (horder : WriteBehind.AllInOrder change (store toml) (WriteBehind.start ι memory disk) actions)
    (hrun : WriteBehind.run change (store toml) (WriteBehind.start ι memory disk) actions = some t)
    (hdone : ∀ i, t.calls i = .finished true)
    (hprint : ∀ doc, t.memory.toDocument = .ok doc → toml.RoundTrips doc) :
    DiskAgrees toml t.disk t.memory := by
  have hstart : WriteBehind.Sound (OnDisk toml) (WriteBehind.start ι memory disk) :=
    WriteBehind.sound_start fun hempty => .inl (hdisk hempty)
  have hsound := WriteBehind.sound_run store_ok hstart horder hrun
  rcases hsound.stored hdone with h | h
  · exact h
  · exact h.diskAgrees hprint

/-- Two administrators, each of whom adds a provider. -/
def addsProvider : Bool → RouterConfig → RouterConfig
  | false => addTo (stockProvider "openai" .openai)
  | true => addTo (stockProvider "groq" .groq)

def noProviders : RouterConfig := routerWith []

def oneProvider : RouterConfig := routerWith [stockProvider "openai" .openai]

def twoProviders : RouterConfig :=
  routerWith [stockProvider "openai" .openai, stockProvider "groq" .groq]

def providersToml : Toml.Text := savedToml [noProviders, oneProvider, twoProviders]

theorem providers_distinct :
    ([noProviders, oneProvider, twoProviders].map savedText).Nodup := by
  decide +kernel

theorem mem_twoProviders : twoProviders ∈ [noProviders, oneProvider, twoProviders] :=
  List.mem_cons_of_mem _ (List.mem_cons_of_mem _ List.mem_cons_self)

theorem diskAgrees_noProviders :
    DiskAgrees providersToml (some (savedText noProviders)) noProviders :=
  ⟨_, _, rfl, fromStr_savedText providers_distinct List.mem_cons_self rfl, rfl⟩

theorem disk_agrees_sample :
    ∃ t, WriteBehind.run addsProvider (store providersToml)
        (WriteBehind.start Bool noProviders (some (savedText noProviders)))
        [.swap false, .swap true, .write false .written, .write true .written] = some t ∧
      DiskAgrees providersToml t.disk t.memory := by
  refine ⟨_, rfl, ?_⟩
  have horder : WriteBehind.AllInOrder addsProvider (store providersToml)
      (WriteBehind.start Bool noProviders (some (savedText noProviders)))
      [.swap false, .swap true, .write false .written, .write true .written] := by
    refine ⟨trivial, fun _ h => ?_⟩
    cases h
    refine ⟨trivial, fun _ h => ?_⟩
    cases h
    refine ⟨?_, fun _ h => ?_⟩
    · rintro _ ⟨⟩
      exact .inr ⟨_, rfl⟩
    cases h
    refine ⟨?_, fun _ _ => trivial⟩
    rintro _ ⟨⟩
    exact .inl rfl
  refine disk_agrees_of_allInOrder (fun _ => diskAgrees_noProviders) horder rfl ?_ ?_
  · intro i
    cases i <;> rfl
  · intro doc hdoc
    cases hdoc
    exact savedToml_roundTrips (c := twoProviders) providers_distinct mem_twoProviders

theorem not_diskAgrees_oneProvider :
    ¬ DiskAgrees providersToml (some (savedText oneProvider)) twoProviders := by
  have hone : fromStr providersToml (savedText oneProvider) = .ok oneProvider.canon :=
    fromStr_savedText providers_distinct (List.mem_cons_of_mem _ List.mem_cons_self) rfl
  intro h
  obtain ⟨text, c, ⟨⟩, hread, hsame⟩ := h
  rw [hone] at hread
  cases hread
  exact absurd hsame (by decide)

/-- The second one saves first: the first one's file is left, without the second provider. -/
theorem update_lost :
    ∃ t, WriteBehind.run addsProvider (store providersToml)
        (WriteBehind.start Bool noProviders (some (savedText noProviders)))
        [.swap false, .swap true, .write true .written, .write false .written] = some t ∧
      DiskAgrees providersToml (some (savedText noProviders)) noProviders ∧
      (∀ i, t.calls i = .finished true) ∧ ¬ DiskAgrees providersToml t.disk t.memory := by
  refine ⟨_, rfl, diskAgrees_noProviders, ?_, not_diskAgrees_oneProvider⟩
  intro i
  cases i <;> rfl

end Interleaving

end TokenDealer
