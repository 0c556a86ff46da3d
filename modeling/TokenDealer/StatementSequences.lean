import TokenDealer.Autocommit
import TokenDealer.CredentialSoundness
import TokenDealer.Discovery
import TokenDealer.LogRetention

set_option autoImplicit true

namespace TokenDealer

section Users

/-- The four statements that delete a user. -/
def Tables.deleteUserStatements (id : String) : List (Tables → Except StoreError Tables) :=
  [fun t => .ok (t.deleteApiKeysWhere fun k => k.userId = id),
    fun t => .ok (t.deleteSessionsWhere fun s => s.userId = id),
    fun t => .ok (t.deleteUsageWhere fun r => r.userId = id),
    fun t => t.deleteUserRow id]

def Tables.runDeleteUser (faults : Nat → Except StoreError Unit) (id : String) (t : Tables) :
    Except StoreError Unit × Tables :=
  Autocommit.run faults (deleteUserStatements id) t

/-- The tables on the way to the deletion of a user. -/
def Tables.deleteUserStages (id : String) (t : Tables) : List Tables :=
  let t₁ := t.deleteApiKeysWhere fun k => k.userId = id
  let t₂ := t₁.deleteSessionsWhere fun s => s.userId = id
  [t, t₁, t₂, t₂.deleteUsageWhere fun r => r.userId = id]

/-- The rows of everyone else are there as before, and so are the users. -/
structure Tables.KeepsOthers (id : String) (t t' : Tables) : Prop where
  users : t'.users = t.users
  apiKeys : ∀ k, k.userId ≠ id → (k ∈ t'.apiKeys.rows ↔ k ∈ t.apiKeys.rows)
  sessions : ∀ s, s.userId ≠ id → (s ∈ t'.sessions.rows ↔ s ∈ t.sessions.rows)
  tokenUsage : ∀ r, r.userId ≠ id → (r ∈ t'.tokenUsage.rows ↔ r ∈ t.tokenUsage.rows)

end Users

section Models

/-- A discovered model with the time of its discovery. -/
structure DiscoveredModel extends ProviderModelRow where
  discoveredAt : String
  deriving DecidableEq, Repr

abbrev ProviderModels := Sql.KeyTable DiscoveredModel.toProviderModelRow

namespace ProviderModels

def deleteProvider (providerId : String) (table : ProviderModels) : ProviderModels :=
  ⟨table.table.deleteWhere fun r => r.providerId = providerId⟩

/-- A model that is there already gets the new time. -/
def insertModel (providerId : String) (model : String × Utc) (table : ProviderModels) :
    ProviderModels :=
  table.upsert ⟨⟨providerId, model.1⟩, Calendar.sqlTimestamp model.2⟩

/-- The list of a provider is deleted, then written model by model, each at its own time. -/
def upsertStatements (providerId : String) (models : List (String × Utc)) :
    List (ProviderModels → Except StoreError ProviderModels) :=
  (fun table => .ok (deleteProvider providerId table)) ::
    models.map fun model table => .ok (insertModel providerId model table)

def upsertForProvider (faults : Nat → Except StoreError Unit) (providerId : String)
    (models : List (String × Utc)) (table : ProviderModels) :
    Except StoreError Nat × ProviderModels :=
  let (result, table) := Autocommit.run faults (upsertStatements providerId models) table
  (result.map fun _ => models.length, table)

/-- The models that are stored for a provider. -/
def Lists (table : ProviderModels) (providerId modelId : String) : Prop :=
  (table.find ⟨providerId, modelId⟩).isSome = true

end ProviderModels

end Models

namespace LogStore

variable {foreignKeys : Bool}

def deleteAttempts (db : LogStore foreignKeys) : LogStore foreignKeys :=
  { db with
    attempts := []
    attempts_request := fun _ _ h => absurd h List.not_mem_nil }

def clearStatements : List (LogStore foreignKeys → Except StoreError (LogStore foreignKeys)) :=
  [fun db => .ok db.deleteAttempts, fun db => db.deleteRequestsWhere fun _ => true]

def clearAll (faults : Nat → Except StoreError Unit) (db : LogStore foreignKeys) :
    Except StoreError Unit × LogStore foreignKeys :=
  Autocommit.run faults clearStatements db

end LogStore

section Stages

variable {faults : Nat → Except StoreError Unit} {e : StoreError}

namespace Tables

variable {t t' : Tables} {id : String}

theorem runDeleteUser_error (h : t.runDeleteUser faults id = (.error e, t')) :
    t' ∈ t.deleteUserStages id := by
  obtain ⟨i, hi, hfront⟩ := Autocommit.run_error_take h
  have hcount : i < 4 := hi
  have hcases : i = 0 ∨ i = 1 ∨ i = 2 ∨ i = 3 := by omega
  rw [deleteUserStages]
  rcases hcases with rfl | rfl | rfl | rfl
  · cases hfront
    exact List.mem_cons_self
  · cases hfront
    exact List.mem_cons_of_mem _ List.mem_cons_self
  · cases hfront
    exact List.mem_cons_of_mem _ (List.mem_cons_of_mem _ List.mem_cons_self)
  · cases hfront
    exact List.mem_cons_of_mem _ (List.mem_cons_of_mem _ (List.mem_cons_of_mem _
      List.mem_cons_self))

/-- Without faults the statements delete the user. -/
theorem runDeleteUser_noFaults (t : Tables) (id : String) :
    ∃ t', t.deleteUser id = .ok t' ∧
      t.runDeleteUser Autocommit.noFaults id = (.ok (), t') := by
  obtain ⟨t', hdeleted, -⟩ := deleteUser_eq_ok t id
  refine ⟨t', hdeleted, ?_⟩
  rw [deleteUser] at hdeleted
  simp only [runDeleteUser, deleteUserStatements, Autocommit.run, Autocommit.noFaults, Except.bind,
    hdeleted]

theorem KeepsOthers.refl (t : Tables) (id : String) : KeepsOthers id t t :=
  ⟨rfl, fun _ _ => Iff.rfl, fun _ _ => Iff.rfl, fun _ _ => Iff.rfl⟩

theorem mem_deleteWhere_of_ne {table : Sql.Table ρ clash} {owner : ρ → String} (r : ρ)
    (hne : owner r ≠ id) :
    r ∈ (table.deleteWhere fun r => owner r = id).rows ↔ r ∈ table.rows :=
  Sql.Table.mem_deleteWhere.trans (and_iff_left (decide_eq_false hne))

theorem KeepsOthers.deleteApiKeys (h : KeepsOthers id t t') :
    KeepsOthers id t (t'.deleteApiKeysWhere fun k => k.userId = id) :=
  { h with apiKeys := fun k hk => (mem_deleteWhere_of_ne k hk).trans (h.apiKeys k hk) }

theorem KeepsOthers.deleteSessions (h : KeepsOthers id t t') :
    KeepsOthers id t (t'.deleteSessionsWhere fun s => s.userId = id) :=
  { h with sessions := fun s hs => (mem_deleteWhere_of_ne s hs).trans (h.sessions s hs) }

theorem KeepsOthers.deleteUsage (h : KeepsOthers id t t') :
    KeepsOthers id t (t'.deleteUsageWhere fun r => r.userId = id) :=
  { h with tokenUsage := fun r hr => (mem_deleteWhere_of_ne r hr).trans (h.tokenUsage r hr) }

theorem keepsOthers_of_stage (h : t' ∈ t.deleteUserStages id) : KeepsOthers id t t' := by
  have hnone := KeepsOthers.refl t id
  have hkeys := hnone.deleteApiKeys
  have hsessions := hkeys.deleteSessions
  rw [deleteUserStages] at h
  simp only [List.mem_cons, List.not_mem_nil, or_false] at h
  rcases h with rfl | rfl | rfl | rfl
  · exact hnone
  · exact hkeys
  · exact hsessions
  · exact hsessions.deleteUsage

end Tables

namespace ProviderModels

variable {table table' : ProviderModels} {providerId p m : String}

theorem find_deleteProvider :
    (table.deleteProvider providerId).find ⟨p, m⟩ =
      if p = providerId then none else table.find ⟨p, m⟩ := by
  rw [deleteProvider, Sql.KeyTable.find, Sql.Table.deleteWhere, List.find?_filter,
    Sql.KeyTable.find]
  by_cases hp : p = providerId
  · rw [if_pos hp, List.find?_eq_none]
    intro r hr
    simp only [Bool.not_eq_true', decide_eq_true_eq, decide_eq_false_iff_not]
    rintro ⟨hne, heq⟩
    exact hne ((congrArg ProviderModelRow.providerId heq).trans hp)
  · rw [if_neg hp]
    congr 1
    funext r
    rw [decide_eq_decide, Bool.not_eq_true', decide_eq_false_iff_not, decide_eq_true_eq]
    apply and_iff_right_of_imp
    intro heq hsame
    exact hp ((congrArg ProviderModelRow.providerId heq).symm.trans hsame)

theorem find_insertModel (model : String × Utc) :
    (table.insertModel providerId model).find ⟨p, m⟩ =
      if providerId = p ∧ model.1 = m then
        some ⟨⟨providerId, model.1⟩, Calendar.sqlTimestamp model.2⟩
      else table.find ⟨p, m⟩ := by
  rw [insertModel, Sql.KeyTable.find_upsert]
  simp only [ProviderModelRow.mk.injEq]

theorem find_insertModels (hp : p ≠ providerId) (models : List (String × Utc))
    (table : ProviderModels) :
    (models.foldl (fun table model => insertModel providerId model table) table).find ⟨p, m⟩ =
      table.find ⟨p, m⟩ := by
  induction models generalizing table with
  | nil => rfl
  | cons model models ih =>
    rw [List.foldl_cons, ih, find_insertModel, if_neg fun h => hp h.1.symm]

/-- What some of the list has written. -/
theorem lists_insertModels (models : List (String × Utc)) (table : ProviderModels) :
    Lists (models.foldl (fun table model => insertModel providerId model table) table)
        providerId m ↔ m ∈ models.map Prod.fst ∨ Lists table providerId m := by
  induction models generalizing table with
  | nil => simp
  | cons model models ih =>
    rw [List.foldl_cons, ih, List.map_cons, List.mem_cons, Lists, find_insertModel, Lists]
    by_cases hm : model.1 = m
    · rw [if_pos ⟨rfl, hm⟩]
      simp [hm]
    · rw [if_neg fun h => hm h.2]
      simp [Ne.symm hm]

/-- A failed update has left the list of the provider, or a front of the new one in its place. -/
theorem upsertForProvider_error {models : List (String × Utc)}
    (h : upsertForProvider faults providerId models table = (.error e, table')) :
    (∀ p m, p ≠ providerId → table'.find ⟨p, m⟩ = table.find ⟨p, m⟩) ∧
      (table' = table ∨ ∃ front back, models = front ++ back ∧ back ≠ [] ∧
        ∀ m, Lists table' providerId m ↔ m ∈ front.map Prod.fst) := by
  have hrun : Autocommit.run faults (upsertStatements providerId models) table =
      (.error e, table') := by
    rw [upsertForProvider] at h
    generalize Autocommit.run faults (upsertStatements providerId models) table = after at h ⊢
    obtain ⟨result, after⟩ := after
    cases result with
    | error e' =>
      cases h
      rfl
    | ok u => cases h
  obtain ⟨front, failed, rest, hstatements, hfront⟩ := Autocommit.run_error hrun
  cases front with
  | nil =>
    cases hfront
    exact ⟨fun _ _ _ => rfl, .inl rfl⟩
  | cons first front =>
    obtain ⟨rfl, htail⟩ := List.cons.inj hstatements
    obtain ⟨written, left, rfl, rfl, hleft⟩ := List.map_eq_append_iff.mp htail
    have hwritten : Autocommit.run (ε := StoreError) Autocommit.noFaults
        (written.map fun model table => .ok (insertModel providerId model table))
        (deleteProvider providerId table) = (.ok (), table') := hfront
    cases (Autocommit.run_pure (insertModel providerId) written _).symm.trans hwritten
    refine ⟨?_, .inr ⟨written, left, rfl, ?_, ?_⟩⟩
    · intro p m hp
      rw [find_insertModels hp, find_deleteProvider, if_neg hp]
    · rintro rfl
      cases hleft
    · intro m
      rw [lists_insertModels, Lists, find_deleteProvider, if_pos rfl]
      exact or_iff_left nofun

end ProviderModels

namespace LogStore

theorem clearAll_error {db db' : LogStore foreignKeys}
    (h : db.clearAll faults = (.error e, db')) : db' = db ∨ db' = db.deleteAttempts := by
  obtain ⟨i, hi, hfront⟩ := Autocommit.run_error_take h
  have hcount : i < 2 := hi
  have hcases : i = 0 ∨ i = 1 := by omega
  rcases hcases with rfl | rfl
  · cases hfront
    exact .inl rfl
  · cases hfront
    exact .inr rfl

end LogStore

end Stages

/-- An operation that fails keeps what its statements have done so far, and nothing of it reaches
beyond the rows that it is about. -/
theorem failed_operation_keeps_front (faults : Nat → Except StoreError Unit) :
    (∀ (id : String) (t t' : Tables) (e : StoreError),
      t.runDeleteUser faults id = (.error e, t') →
        t' ∈ t.deleteUserStages id ∧ Tables.KeepsOthers id t t') ∧
    (∀ (providerId : String) (models : List (String × Utc)) (table table' : ProviderModels)
      (e : StoreError),
      ProviderModels.upsertForProvider faults providerId models table = (.error e, table') →
        (∀ p m, p ≠ providerId → table'.find ⟨p, m⟩ = table.find ⟨p, m⟩) ∧
        (table' = table ∨ ∃ front back, models = front ++ back ∧ back ≠ [] ∧
          ∀ m, table'.Lists providerId m ↔ m ∈ front.map Prod.fst)) ∧
    ∀ (foreignKeys : Bool) (db db' : LogStore foreignKeys) (e : StoreError),
      db.clearAll faults = (.error e, db') → db' = db ∨ db' = db.deleteAttempts := by
  refine ⟨?_, ?_, ?_⟩
  · intro id t t' e h
    have hstage := Tables.runDeleteUser_error h
    exact ⟨hstage, Tables.keepsOthers_of_stage hstage⟩
  · intro providerId models table table' e h
    exact ProviderModels.upsertForProvider_error h
  · intro foreignKeys db db' e h
    exact LogStore.clearAll_error h

/-- The second statement finds the database locked. -/
def lockedAtSecond : Nat → Except StoreError Unit
  | 1 => .error (.message "database is locked")
  | _ => .ok ()

/-- A user who could not be deleted has lost the key. -/
theorem failed_deletion_drops_key :
    ¬ ∀ (faults : Nat → Except StoreError Unit) (id : String) (t t' : Tables) (e : StoreError),
      t.runDeleteUser faults id = (.error e, t') → t' = t := by
  intro hall
  have hsame := hall lockedAtSecond "u1" (Tables.run Tables.sampleStoreTools Tables.sampleOps) _ _
    rfl
  have hkeys := congrArg (fun t => t.apiKeys.rows.length) hsame
  revert hkeys
  decide +kernel

end TokenDealer
