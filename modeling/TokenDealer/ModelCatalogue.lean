import Mathlib.Data.List.Induction
import TokenDealer.Admin
import TokenDealer.StatementSequences
import TokenDealer.TierAssignment

set_option autoImplicit true

namespace TokenDealer

open Json

/-- What a provider answers when it is asked for its models: its body as a text, and as the JSON it
reads as. -/
structure ModelsAnswer where
  status : Nat
  reason : Option String
  text : String
  json : Except String Value

namespace ProviderAdapter

/-- The names in a list of objects, each after what is done to it. -/
def namesIn (list name : String) (edit : String → String) (v : Value) : List String :=
  ((((v.get list).bind Value.asArray).getD []).filterMap fun m => m.getStr name).map edit

def readModels (front : String) (read : Value → List String)
    (sent : Except String ModelsAnswer) : AppResult (List String) :=
  match sent with
  | .error e => .error (.internal s!"{front}models list: {e}")
  | .ok answer =>
    if 200 ≤ answer.status ∧ answer.status < 300 then
      match answer.json with
      | .error e => .error (.internal s!"{front}models parse: {e}")
      | .ok v => .ok (read v)
    else
      let reason := answer.reason.getD ""
      let text := String.ofList (answer.text.toList.take 200)
      .error (.internal s!"{front}models list {answer.status} {reason}: {text}")

def listModels (adapter : ProviderAdapter) : Except String ModelsAnswer → AppResult (List String) :=
  match adapter.kind with
  | .anthropic => readModels "anthropic " (namesIn "data" "id" fun s => s)
  | .google => readModels "google "
      (namesIn "models" "name" fun s => (Str.stripPrefix "models/" s).getD s)
  | _ => readModels "" (namesIn "data" "id" fun s => s)

end ProviderAdapter

namespace ModelCatalogue

/-- A discovery looks its providers up one by one, and waits for what each of them answers. -/
inductive DiscoveryTask where
  | waiting
  | running (left : List String) (upserted : Nat)
  | asking (id : String) (adapter : ProviderAdapter) (left : List String) (upserted : Nat)
  | finished (result : Except StoreError Nat)

def DiscoveryTask.next (upserted : Nat) : List String → DiscoveryTask
  | [] => finished (.ok upserted)
  | id :: left => running (id :: left) upserted

/-- The providers that a discovery has not been through yet, with its count so far. -/
def DiscoveryTask.remaining : DiscoveryTask → Option (List String × Nat)
  | waiting => none
  | running left upserted => some (left, upserted)
  | asking id _ left upserted => some (id :: left, upserted)
  | finished (.ok upserted) => some ([], upserted)
  | finished (.error _) => none

structure Catalogue where
  registry : ProviderRegistry := fun _ => none
  models : ProviderModels := .empty
  task : DiscoveryTask := .waiting

/-- A process starts with what it has found configured; then providers come and go while its one
discovery goes on. -/
inductive Event where
  | start (configs : List ProviderConfig)
  | add (cfg : ProviderConfig)
  | remove (id : String)
  | discover (ids : List String)
  | lookUp
  | answer (sent : Except String ModelsAnswer) (times : Nat → Utc)
    (faults : Nat → Except StoreError Unit)

/-- The models of a list, each with the time at which it is written. -/
def stamped (times : Nat → Utc) (ids : List String) : List (String × Utc) :=
  ids.zipIdx.map fun (id, i) => (id, times i)

/-- A failed answer is passed over; a failed statement ends the discovery. -/
def Catalogue.answered (c : Catalogue) (id : String) (left : List String) (upserted : Nat)
    (times : Nat → Utc) (faults : Nat → Except StoreError Unit) :
    AppResult (List String) → Catalogue
  | .error _ => { c with task := .next upserted left }
  | .ok ids =>
    let (result, models) := c.models.upsertForProvider faults id (stamped times ids)
    { c with
      models := models
      task := match result with
        | .ok count => .next (upserted + count) left
        | .error e => .finished (.error e) }

def Catalogue.step (c : Catalogue) : Event → Catalogue
  | .start configs =>
    { c with
      registry := match ProviderRegistry.fromConfigs configs with
        | .ok registry => registry
        | .error _ => fun _ => none
      task := .waiting }
  | .add cfg =>
    match c.registry.add cfg with
    | .ok registry => { c with registry := registry }
    | .error _ => c
  | .remove id => { c with registry := (c.registry.remove id).2 }
  | .discover ids =>
    match c.task with
    | .waiting => { c with task := .next 0 ids }
    | _ => c
  | .lookUp =>
    match c.task with
    | .running (id :: left) upserted =>
      match c.registry id with
      | some adapter => { c with task := .asking id adapter left upserted }
      | none => { c with task := .next upserted left }
    | _ => c
  | .answer sent times faults =>
    match c.task with
    | .asking id adapter left upserted =>
      c.answered id left upserted times faults (adapter.listModels sent)
    | _ => c

def runFrom (c : Catalogue) (events : List Event) : Catalogue := events.foldl Catalogue.step c

def run (events : List Event) : Catalogue := runFrom {} events

/-- What of a list gets written before a fault, when its provider is cleared at all. -/
def front (faults : Nat → Except StoreError Unit) (ids : List String) : Option (List String) :=
  match Autocommit.reached faults (ids.length + 1) with
  | 0 => none
  | n + 1 => some (ids.take n)

/-- The list that an event puts in the place of what was stored for a provider. -/
def Event.written (c : Catalogue) : Event → Option (String × List String)
  | .answer sent _ faults =>
    match c.task with
    | .asking id adapter _ _ =>
      match adapter.listModels sent with
      | .ok ids => (front faults ids).map fun written => (id, written)
      | .error _ => none
    | _ => none
  | _ => none

/-- The list that an event brings from a provider. -/
def Event.read (c : Catalogue) : Event → Option (String × List String)
  | .answer sent _ _ =>
    match c.task with
    | .asking id adapter _ _ => (adapter.listModels sent).toOption.map fun ids => (id, ids)
    | _ => none
  | _ => none

def reads (c : Catalogue) : List Event → List (String × List String)
  | [] => []
  | e :: events => (e.read c).toList ++ reads (c.step e) events

/-- The lists that a run has written. -/
def writes (c : Catalogue) : List Event → List (String × List String)
  | [] => []
  | e :: events => (e.written c).toList ++ writes (c.step e) events

/-- The last list of a provider. -/
def lastWritten (writes : List (String × List String)) (id : String) : Option (List String) :=
  (writes.reverse.find? fun w => w.1 = id).map Prod.snd

/-- The models that an answer has so far. -/
structure Shown where
  seen : List ProviderModelRow := []
  models : List Value := []

def modelJson (m : ProviderModelRow) : Value :=
  .object [("id", .string m.name), ("object", .string "model"), ("owned_by", .string m.providerId)]

def Shown.add (shown : Shown) (m : ProviderModelRow) : Shown :=
  if m ∈ shown.seen then shown
  else { seen := m :: shown.seen, models := shown.models ++ [modelJson m] }

/-- The registered providers come in the order of their map. A list that cannot be read counts as
empty. -/
def listModels (registered : List (String × ProviderAdapter))
    (discovered : Except StoreError (List ProviderModelRow)) : Value :=
  let shown : Shown :=
    (registered.map fun (id, adapter) => ⟨id, adapter.defaultModel⟩).foldl Shown.add {}
  let shown := match discovered with
    | .ok rows => rows.foldl Shown.add shown
    | .error _ => shown
  .object [("object", .string "list"), ("data", .array shown.models)]

/-- The entries of a registry in some order. -/
structure Entries (registry : ProviderRegistry) (entries : List (String × ProviderAdapter)) :
    Prop where
  nodup : (entries.map Prod.fst).Nodup
  mem : ∀ id adapter, (id, adapter) ∈ entries ↔ registry id = some adapter

/-- The rows of the table that discovery fills. -/
def Catalogue.rows (c : Catalogue) : List ProviderModelRow :=
  c.models.table.rows.map DiscoveredModel.toProviderModelRow

section Writes

variable {faults : Nat → Except StoreError Unit} {ids : List String} {times : Nat → Utc}
  {table : ProviderModels} {id p m : String} {c : Catalogue} {e : Event}

theorem map_fst_stamped (times : Nat → Utc) (ids : List String) :
    (stamped times ids).map Prod.fst = ids := by
  rw [stamped, List.map_map]
  exact List.zipIdx_map_fst 0 ids

theorem length_stamped (times : Nat → Utc) (ids : List String) :
    (stamped times ids).length = ids.length := by
  rw [stamped, List.length_map, List.length_zipIdx]

/-- A list is written once its provider is cleared. -/
theorem run_upsertStatements (models : List (String × Utc)) :
    Autocommit.run faults (ProviderModels.upsertStatements id models) table =
      match faults 0 with
      | .error e => (.error e, table)
      | .ok _ => Autocommit.run (fun i => faults (i + 1))
          (models.map fun model table => .ok (table.insertModel id model))
          (table.deleteProvider id) := by
  rw [ProviderModels.upsertStatements]
  cases hfault : faults 0 with
  | error e =>
    rw [Autocommit.run, hfault]
    rfl
  | ok u => exact Autocommit.run_cons_ok hfault rfl

/-- What is stored after a list has been written, as far as it got. -/
theorem lists_upsertForProvider :
    (table.upsertForProvider faults id (stamped times ids)).2.Lists p m ↔
      match front faults ids with
      | some written => if p = id then m ∈ written else table.Lists p m
      | none => table.Lists p m := by
  have htable : (table.upsertForProvider faults id (stamped times ids)).2 =
      (Autocommit.run faults (ProviderModels.upsertStatements id (stamped times ids)) table).2 :=
    rfl
  rw [htable, run_upsertStatements, front, Autocommit.reached]
  cases faults 0 with
  | error e => exact Iff.rfl
  | ok u =>
    dsimp only
    rw [(Autocommit.run_pure_reached (ProviderModels.insertModel id) _ _).1, length_stamped]
    by_cases hp : p = id
    · rw [if_pos hp, hp, ProviderModels.lists_insertModels, List.map_take, map_fst_stamped,
        ProviderModels.Lists, ProviderModels.find_deleteProvider, if_pos rfl]
      exact or_iff_left Bool.false_ne_true
    · rw [if_neg hp, ProviderModels.Lists, ProviderModels.find_insertModels hp,
        ProviderModels.find_deleteProvider, if_neg hp, ProviderModels.Lists]

/-- A list that is written without a fault is written as a whole. -/
theorem front_of_ok (h : (table.upsertForProvider faults id (stamped times ids)).1 = .ok count) :
    count = ids.length ∧ front faults ids = some ids := by
  have hresult : (table.upsertForProvider faults id (stamped times ids)).1 =
      (Autocommit.run faults (ProviderModels.upsertStatements id (stamped times ids)) table).1.map
        fun _ => (stamped times ids).length := rfl
  rw [hresult, run_upsertStatements, length_stamped] at h
  rw [front, Autocommit.reached]
  cases hfault : faults 0 with
  | error e =>
    rw [hfault] at h
    cases h
  | ok u =>
    rw [hfault] at h
    dsimp only at h ⊢
    have hall : (Autocommit.run (fun i => faults (i + 1)) ((stamped times ids).map
        fun model table => .ok (table.insertModel id model)) (table.deleteProvider id)).1.isOk =
          true ↔ Autocommit.reached (fun i => faults (i + 1)) ids.length = ids.length := by
      rw [← length_stamped times ids]
      exact (Autocommit.run_pure_reached (ProviderModels.insertModel id) _ _).2
    generalize Autocommit.run (fun i => faults (i + 1)) ((stamped times ids).map
      fun model table => .ok (table.insertModel id model)) (table.deleteProvider id) = after
      at h hall
    obtain ⟨result, after⟩ := after
    cases result with
    | error e => cases h
    | ok u =>
      cases h
      rw [hall.mp rfl, List.take_length]
      exact ⟨rfl, rfl⟩

/-- A step changes what is stored by the list that it writes. -/
theorem lists_step :
    (c.step e).models.Lists p m ↔
      match e.written c with
      | some (id, written) => if p = id then m ∈ written else c.models.Lists p m
      | none => c.models.Lists p m := by
  cases e with
  | start configs | remove id => exact Iff.rfl
  | add cfg =>
    rw [Catalogue.step]
    cases c.registry.add cfg <;> exact Iff.rfl
  | discover ids =>
    rw [Catalogue.step]
    cases c.task <;> exact Iff.rfl
  | lookUp =>
    rw [Catalogue.step]
    split
    · split <;> exact Iff.rfl
    · exact Iff.rfl
  | answer sent times faults =>
    rw [Catalogue.step, Event.written]
    split
    · next id adapter left upserted _ =>
      cases hread : adapter.listModels sent with
      | error e => exact Iff.rfl
      | ok ids =>
        have hmodels : (c.answered id left upserted times faults (.ok ids)).models =
            (c.models.upsertForProvider faults id (stamped times ids)).2 := rfl
        rw [hmodels, lists_upsertForProvider]
        dsimp only
        cases front faults ids <;> exact Iff.rfl
    · exact Iff.rfl

end Writes

section Runs

variable {c : Catalogue} {events : List Event} {e : Event} {p m : String}

theorem runFrom_concat (c : Catalogue) (events : List Event) (e : Event) :
    runFrom c (events ++ [e]) = (runFrom c events).step e := List.foldl_concat _ _ _ _

theorem writes_concat (c : Catalogue) (events : List Event) (e : Event) :
    writes c (events ++ [e]) = writes c events ++ (e.written (runFrom c events)).toList := by
  induction events generalizing c with
  | nil => exact (List.append_nil _).trans (List.nil_append _).symm
  | cons first events ih =>
    rw [List.cons_append, writes, ih, writes, List.append_assoc]
    rfl

theorem lastWritten_concat (writes : List (String × List String)) (w : String × List String)
    (id : String) :
    lastWritten (writes ++ [w]) id = if id = w.1 then some w.2 else lastWritten writes id := by
  rw [lastWritten, List.reverse_concat, List.find?_cons]
  by_cases hid : id = w.1
  · rw [if_pos hid, decide_eq_true hid.symm]
    rfl
  · rw [if_neg hid, decide_eq_false fun h => hid h.symm]
    rfl

/-- What is stored for a provider is the last list that was written for it, if one was. -/
theorem lists_runFrom (c : Catalogue) (events : List Event) :
    (runFrom c events).models.Lists p m ↔
      match lastWritten (writes c events) p with
      | some written => m ∈ written
      | none => c.models.Lists p m := by
  induction events using List.reverseRecOn with
  | nil => exact Iff.rfl
  | append_singleton events e ih =>
    rw [runFrom_concat, lists_step, writes_concat]
    cases e.written (runFrom c events) with
    | none =>
      rw [Option.toList_none, List.append_nil]
      exact ih
    | some w =>
      rw [Option.toList_some, lastWritten_concat]
      dsimp only
      by_cases hp : p = w.1
      · rw [if_pos hp, if_pos hp]
      · rw [if_neg hp, if_neg hp]
        exact ih

theorem lists_run_iff (events : List Event) :
    (run events).models.Lists p m ↔ ∃ written, lastWritten (writes {} events) p = some written ∧
      m ∈ written := by
  rw [run, lists_runFrom]
  cases lastWritten (writes {} events) p with
  | none =>
    refine iff_of_false Bool.false_ne_true ?_
    rintro ⟨written, hwritten, -⟩
    cases hwritten
  | some written =>
    constructor
    · exact fun hm => ⟨written, rfl, hm⟩
    · rintro ⟨_, hwritten, hm⟩
      cases hwritten
      exact hm

end Runs

section Discoveries

/-- What a step means to a discovery that is under way: it goes on, perhaps without a provider, it
stores what a provider has answered, or it fails. -/
inductive Goes (c : Catalogue) (e : Event) : List String → Nat → Prop
  | on (left : List String) (hread : e.read c = none) (hwritten : e.written c = none)
    (hleft : left.Sublist before) (hnext : (c.step e).task.remaining = some (left, upserted)) :
    Goes c e before upserted
  | stores (id : String) (ids : List String) (hread : e.read c = some (id, ids))
    (hwritten : e.written c = some (id, ids))
    (hnext : (c.step e).task.remaining = some (left, upserted + ids.length)) :
    Goes c e (id :: left) upserted
  | fails (error : StoreError) (hnext : (c.step e).task = .finished (.error error)) :
    Goes c e before upserted

variable {c : Catalogue} {events : List Event} {e : Event} {left : List String} {upserted : Nat}

theorem remaining_next (upserted : Nat) (left : List String) :
    (DiscoveryTask.next upserted left).remaining = some (left, upserted) := by
  cases left <;> rfl

theorem goes_answer {id : String} {adapter : ProviderAdapter}
    (sent : Except String ModelsAnswer) (times : Nat → Utc) (faults : Nat → Except StoreError Unit)
    (h : c.task = .asking id adapter left upserted) :
    Goes c (.answer sent times faults) (id :: left) upserted := by
  have hstep : c.step (.answer sent times faults) =
      c.answered id left upserted times faults (adapter.listModels sent) := by
    rw [Catalogue.step, h]
  have hread : (Event.answer sent times faults).read c =
      (adapter.listModels sent).toOption.map fun ids => (id, ids) := by
    rw [Event.read, h]
  have hwritten : (Event.answer sent times faults).written c =
      match adapter.listModels sent with
      | .ok ids => (front faults ids).map fun written => (id, written)
      | .error _ => none := by
    rw [Event.written, h]
  cases hlist : adapter.listModels sent with
  | error e =>
    rw [hlist] at hstep hread hwritten
    refine .on left hread hwritten (List.sublist_cons_self id left) ?_
    rw [hstep]
    exact remaining_next upserted left
  | ok ids =>
    rw [hlist] at hstep hread hwritten
    have htask : (c.step (.answer sent times faults)).task =
        match (c.models.upsertForProvider faults id (stamped times ids)).1 with
        | .ok count => .next (upserted + count) left
        | .error e => .finished (.error e) := by
      rw [hstep]
      rfl
    cases hresult : (c.models.upsertForProvider faults id (stamped times ids)).1 with
    | error e =>
      rw [hresult] at htask
      exact .fails e htask
    | ok count =>
      obtain ⟨rfl, hfront⟩ := front_of_ok hresult
      rw [hresult] at htask
      refine .stores id ids hread ?_ ?_
      · rw [hwritten]
        dsimp only
        rw [hfront]
        rfl
      · rw [htask]
        exact remaining_next _ left

theorem goes_of_remaining (hstart : ∀ configs, e ≠ .start configs)
    (h : c.task.remaining = some (left, upserted)) : Goes c e left upserted := by
  cases e with
  | start configs => exact absurd rfl (hstart configs)
  | add cfg =>
    refine .on left rfl rfl (List.Sublist.refl left) ?_
    rw [Catalogue.step]
    cases c.registry.add cfg <;> exact h
  | remove id => exact .on left rfl rfl (List.Sublist.refl left) h
  | discover ids =>
    refine .on left rfl rfl (List.Sublist.refl left) ?_
    rw [Catalogue.step]
    split
    · next hwaiting =>
      rw [hwaiting] at h
      cases h
    · exact h
  | lookUp =>
    have hnext : ∃ left' : List String, left'.Sublist left ∧
        (c.step .lookUp).task.remaining = some (left', upserted) := by
      rw [Catalogue.step]
      split
      · next id rest count htask =>
        rw [htask] at h
        cases h
        split
        · exact ⟨_, List.Sublist.refl _, rfl⟩
        · exact ⟨rest, List.sublist_cons_self id rest, remaining_next _ rest⟩
      · exact ⟨left, List.Sublist.refl left, h⟩
    obtain ⟨left', hleft, hnext⟩ := hnext
    exact .on left' rfl rfl hleft hnext
  | answer sent times faults =>
    cases htask : c.task with
    | asking id adapter rest count =>
      rw [htask] at h
      cases h
      exact goes_answer sent times faults htask
    | waiting | running | finished =>
      refine .on left ?_ ?_ (List.Sublist.refl left) ?_
      · rw [Event.read, htask]
      · rw [Event.written, htask]
      · rw [Catalogue.step, htask]
        dsimp only
        exact h

theorem run_failed {error : StoreError} (hstart : ∀ configs, .start configs ∉ events)
    (h : c.task = .finished (.error error)) :
    (runFrom c events).task = .finished (.error error) := by
  induction events generalizing c with
  | nil => exact h
  | cons e events ih =>
    have htask : (c.step e).task = .finished (.error error) := by
      cases e with
      | start configs => exact absurd List.mem_cons_self (hstart configs)
      | add cfg =>
        rw [Catalogue.step]
        cases c.registry.add cfg <;> exact h
      | remove id => exact h
      | discover | lookUp | answer =>
        rw [Catalogue.step, h]
        exact h
    exact ih (fun configs hmem => hstart configs (List.mem_cons_of_mem e hmem)) htask

/-- From a state of a discovery to its end without a failed statement: what it has read since is
what it has written, of the providers that were left, and it has counted it all. -/
theorem run_remaining {count : Nat} (hstart : ∀ configs, .start configs ∉ events)
    (h : c.task.remaining = some (left, upserted))
    (hfinished : (runFrom c events).task = .finished (.ok count)) :
    reads c events = writes c events ∧ ((writes c events).map Prod.fst).Sublist left ∧
      count = upserted + ((writes c events).map fun w => w.2.length).sum := by
  induction events generalizing c left upserted with
  | nil =>
    have htask : c.task = .finished (.ok count) := hfinished
    rw [htask] at h
    cases h
    exact ⟨rfl, List.Sublist.refl _, rfl⟩
  | cons e events ih =>
    have hhead : ∀ configs, e ≠ .start configs := by
      rintro configs rfl
      exact hstart configs List.mem_cons_self
    have hrest : ∀ configs, .start configs ∉ events :=
      fun configs hmem => hstart configs (List.mem_cons_of_mem e hmem)
    rw [reads, writes]
    cases goes_of_remaining hhead h with
    | on _ hread hwritten hleft hnext =>
      obtain ⟨hsame, hsub, hcount⟩ := ih hrest hnext hfinished
      rw [hread, hwritten, hsame]
      exact ⟨rfl, hsub.trans hleft, hcount⟩
    | stores id ids hread hwritten hnext =>
      obtain ⟨hsame, hsub, hcount⟩ := ih hrest hnext hfinished
      rw [hread, hwritten, hsame]
      refine ⟨rfl, hsub.cons_cons id, ?_⟩
      rw [hcount, Option.toList_some, List.singleton_append, List.map_cons, List.sum_cons,
        Nat.add_assoc]
    | fails error hnext =>
      have hfailed : (runFrom (c.step e) events).task = .finished (.error error) :=
        run_failed hrest hnext
      cases hfailed.symm.trans hfinished

theorem lastWritten_of_mem {writes : List (String × List String)} {w : String × List String}
    (hnodup : (writes.map Prod.fst).Nodup) (hw : w ∈ writes) :
    lastWritten writes w.1 = some w.2 := by
  induction writes using List.reverseRecOn with
  | nil => cases hw
  | append_singleton writes last ih =>
    rw [lastWritten_concat]
    rw [List.map_append, List.nodup_append] at hnodup
    obtain ⟨hfront, -, hapart⟩ := hnodup
    rcases List.mem_append.mp hw with hold | hlast
    · have hne : w.1 ≠ last.1 :=
        hapart w.1 (List.mem_map_of_mem hold) last.1 List.mem_cons_self
      rw [if_neg hne]
      exact ih hfront hold
    · rw [List.mem_singleton.mp hlast, if_pos rfl]

theorem lastWritten_eq_none {writes : List (String × List String)} {id : String}
    (h : id ∉ writes.map Prod.fst) : lastWritten writes id = none := by
  rw [lastWritten, Option.map_eq_none_iff, List.find?_eq_none]
  intro w hw heq
  exact h (of_decide_eq_true heq ▸ List.mem_map_of_mem (List.mem_reverse.mp hw))

/-- A discovery that ends well has counted what it has read from the providers that it began with,
each at most once. What it has read from a provider is all that is stored for it now; for the other
providers, those that were removed or could not be reached among them, nothing has changed. -/
theorem discovery_ends {count : Nat} (hwaiting : c.task = .waiting) {ids : List String}
    (hids : ids.Nodup) (hstart : ∀ configs, .start configs ∉ events)
    (hfinished : (runFrom c (.discover ids :: events)).task = .finished (.ok count)) :
    ∃ found : List (String × List String),
      found = reads (c.step (.discover ids)) events ∧ (found.map Prod.fst).Sublist ids ∧
      count = (found.map fun w => w.2.length).sum ∧
      (∀ w ∈ found, ∀ m, (runFrom c (.discover ids :: events)).models.Lists w.1 m ↔ m ∈ w.2) ∧
      ∀ p, p ∉ found.map Prod.fst → ∀ m,
        (runFrom c (.discover ids :: events)).models.Lists p m ↔ c.models.Lists p m := by
  have hbegun : (c.step (.discover ids)).task.remaining = some (ids, 0) := by
    rw [Catalogue.step, hwaiting]
    exact remaining_next 0 ids
  have hmodels : (c.step (.discover ids)).models = c.models := by
    rw [Catalogue.step, hwaiting]
  have hrun : runFrom c (.discover ids :: events) = runFrom (c.step (.discover ids)) events := rfl
  rw [hrun] at hfinished ⊢
  generalize c.step (.discover ids) = begun at hbegun hmodels hfinished ⊢
  obtain ⟨hsame, hsub, hcount⟩ := run_remaining hstart hbegun hfinished
  refine ⟨_, rfl, hsame ▸ hsub, ?_, ?_, ?_⟩
  · rw [hsame, hcount, Nat.zero_add]
  · intro w hw m
    rw [lists_runFrom, lastWritten_of_mem (hsub.nodup hids) (hsame ▸ hw)]
  · intro p hp m
    rw [lists_runFrom, lastWritten_eq_none (hsame ▸ hp), hmodels]

/-- OpenAI with one model besides its default one. -/
def sampleAdapter : ProviderAdapter :=
  ⟨.openai, "openai", "https://api.openai.com", "/v1/chat/completions", "gpt-4o"⟩

def sampleCatalogue : Catalogue where
  registry := Function.update (fun _ => none) "openai" (some sampleAdapter)

def sampleAnswer : ModelsAnswer where
  status := 200
  reason := some "OK"
  text := "\x7b\"data\":[\x7b\"id\":\"gpt-4.1\"\x7d]\x7d"
  json := .ok (.object [("data", .array [.object [("id", .string "gpt-4.1")]])])

/-- The provider is removed while it is asked for its models. -/
def sampleEvents : List Event :=
  [.lookUp, .remove "openai",
    .answer (.ok sampleAnswer) (fun _ => Tables.sampleNow) Autocommit.noFaults]

theorem discovery_ends_sample :
    {m | (runFrom sampleCatalogue (.discover ["openai"] :: sampleEvents)).models.Lists "openai" m} =
      {"gpt-4.1"} := by
  have hstart : ∀ configs, .start configs ∉ sampleEvents := by
    intro configs hmem
    simp [sampleEvents] at hmem
  have hfinished : (runFrom sampleCatalogue (.discover ["openai"] :: sampleEvents)).task =
      .finished (.ok 1) := rfl
  obtain ⟨found, hfound, -, -, hstored, -⟩ :=
    discovery_ends rfl (List.nodup_singleton "openai") hstart hfinished
  have hsample : found = [("openai", ["gpt-4.1"])] := hfound
  ext m
  rw [Set.mem_ofPred_eq, hstored ("openai", ["gpt-4.1"]) (hsample ▸ List.mem_singleton.mpr rfl)]
  exact List.mem_singleton

end Discoveries

section Listing

variable {shown : Shown} {rows : List ProviderModelRow}

/-- An answer has these models, each of them once. -/
structure Shown.Has (shown : Shown) (rows : List ProviderModelRow) : Prop where
  models : shown.models = rows.map modelJson
  nodup : rows.Nodup
  seen : ∀ m, m ∈ shown.seen ↔ m ∈ rows

theorem Shown.Has.add (h : shown.Has rows) (m : ProviderModelRow) :
    ∃ rows', (shown.add m).Has rows' ∧ ∀ m', m' ∈ rows' ↔ m' ∈ rows ∨ m' = m := by
  rw [Shown.add]
  by_cases hseen : m ∈ shown.seen
  · rw [if_pos hseen]
    refine ⟨rows, h, ?_⟩
    intro m'
    constructor
    · exact .inl
    · rintro (hrow | rfl)
      · exact hrow
      · exact (h.seen _).mp hseen
  · rw [if_neg hseen]
    refine ⟨rows ++ [m], ⟨?_, ?_, ?_⟩, ?_⟩
    · rw [h.models, List.map_append]
      rfl
    · refine List.nodup_append.mpr ⟨h.nodup, List.nodup_singleton m, ?_⟩
      rintro m' hrow _ hm rfl
      exact hseen ((h.seen _).mpr (List.mem_singleton.mp hm ▸ hrow))
    · intro m'
      rw [List.mem_cons, List.mem_append, List.mem_singleton, h.seen, or_comm]
    · intro m'
      rw [List.mem_append, List.mem_singleton]

theorem Shown.Has.foldl (h : shown.Has rows) (more : List ProviderModelRow) :
    ∃ rows', (more.foldl Shown.add shown).Has rows' ∧
      ∀ m, m ∈ rows' ↔ m ∈ rows ∨ m ∈ more := by
  induction more generalizing shown rows with
  | nil => exact ⟨rows, h, fun m => (or_iff_left List.not_mem_nil).symm⟩
  | cons m more ih =>
    obtain ⟨rows₁, h₁, hmem₁⟩ := h.add m
    obtain ⟨rows₂, h₂, hmem₂⟩ := ih h₁
    refine ⟨rows₂, h₂, ?_⟩
    intro m'
    rw [hmem₂, hmem₁, List.mem_cons, or_assoc]

/-- Every model is shown once, whether a provider has it as its default or it has been found. -/
theorem exists_listModels (registered : List (String × ProviderAdapter))
    (found : List ProviderModelRow) :
    ∃ shown : List ProviderModelRow, listModels registered (.ok found) =
        .object [("object", .string "list"), ("data", .array (shown.map modelJson))] ∧
      shown.Nodup ∧ ∀ m, m ∈ shown ↔
        (∃ entry ∈ registered, m = ⟨entry.1, entry.2.defaultModel⟩) ∨ m ∈ found := by
  have hempty : Shown.Has {} [] := ⟨rfl, List.nodup_nil, fun m => Iff.rfl⟩
  obtain ⟨rows₁, h₁, hmem₁⟩ :=
    hempty.foldl (registered.map fun (id, adapter) => ⟨id, adapter.defaultModel⟩)
  obtain ⟨rows₂, h₂, hmem₂⟩ := h₁.foldl found
  refine ⟨rows₂, ?_, h₂.nodup, ?_⟩
  · rw [listModels]
    dsimp only
    rw [h₂.models]
  · intro m
    rw [hmem₂, hmem₁, or_iff_right List.not_mem_nil, List.mem_map]
    refine or_congr_left (exists_congr fun entry => and_congr_right fun _ => eq_comm)

theorem readModels_ok (front : String) (read : Value → List String) (reason : Option String)
    (text : String) (v : Value) :
    ProviderAdapter.readModels front read (.ok ⟨200, reason, text, .ok v⟩) = .ok (read v) := by
  rw [ProviderAdapter.readModels]
  exact if_pos (by decide : 200 ≤ 200 ∧ 200 < 300)

/-- A router that takes this one for a provider reads the names that are shown. -/
theorem listModels_shown {adapter : ProviderAdapter} (hkind : adapter.kind ≠ .google)
    (reason : Option String) (text : String) (rows : List ProviderModelRow) :
    adapter.listModels (.ok ⟨200, reason, text, .ok (.object [("object", .string "list"),
      ("data", .array (rows.map modelJson))])⟩) = .ok (rows.map ProviderModelRow.name) := by
  have hnames : (rows.map modelJson).filterMap (fun m => m.getStr "id") =
      rows.map ProviderModelRow.name := by
    rw [List.filterMap_map]
    exact List.filterMap_eq_map ▸ rfl
  have hread : ProviderAdapter.namesIn "data" "id" (fun s => s) (.object
      [("object", .string "list"), ("data", .array (rows.map modelJson))]) =
      rows.map ProviderModelRow.name := by
    have hdata : (Value.object [("object", .string "list"),
        ("data", .array (rows.map modelJson))]).get "data" = some (.array (rows.map modelJson)) :=
      rfl
    rw [ProviderAdapter.namesIn, hdata, Option.bind_some, Value.asArray, Option.getD_some, hnames,
      List.map_id']
  rw [ProviderAdapter.listModels]
  cases hkind' : adapter.kind with
  | google => exact absurd hkind' hkind
  | anthropic | kiro | responses | generic | openai =>
    dsimp only
    rw [readModels_ok, hread]

theorem mem_rows_iff {c : Catalogue} : ⟨p, m⟩ ∈ c.rows ↔ c.models.Lists p m := by
  rw [Catalogue.rows, List.mem_map, ProviderModels.Lists, Sql.KeyTable.find, List.find?_isSome]
  refine exists_congr fun r => and_congr_right fun _ => ?_
  exact decide_eq_true_iff.symm

/-- At any moment of any run, however discoveries went and whatever providers came and went
meanwhile, the list of the models has each model once: the default model of each provider that is
registered, and what was last written for a provider, registered or not. Another router that has
this one for a provider reads these names. -/
theorem listed_models (events : List Event) {registered : List (String × ProviderAdapter)}
    (hregistered : Entries (run events).registry registered) :
    ∃ shown : List ProviderModelRow,
      listModels registered (.ok (Discovery.listDiscovered (run events).rows)) =
        .object [("object", .string "list"), ("data", .array (shown.map modelJson))] ∧
      shown.Nodup ∧
      (∀ p m, ⟨p, m⟩ ∈ shown ↔
        (∃ adapter, (run events).registry p = some adapter ∧ adapter.defaultModel = m) ∨
          ∃ written, lastWritten (writes {} events) p = some written ∧ m ∈ written) ∧
      ∀ adapter : ProviderAdapter, adapter.kind ≠ .google → ∀ reason text,
        adapter.listModels (.ok ⟨200, reason, text,
          .ok (listModels registered (.ok (Discovery.listDiscovered (run events).rows)))⟩) =
          .ok (shown.map ProviderModelRow.name) := by
  obtain ⟨shown, hlist, hnodup, hmem⟩ :=
    exists_listModels registered (Discovery.listDiscovered (run events).rows)
  refine ⟨shown, hlist, hnodup, ?_, ?_⟩
  · intro p m
    rw [hmem, ← lists_run_iff, ← mem_rows_iff, Discovery.listDiscovered, List.mem_insertionSort]
    refine or_congr_left ?_
    constructor
    · rintro ⟨⟨id, adapter⟩, hentry, heq⟩
      cases heq
      exact ⟨adapter, (hregistered.mem _ _).mp hentry, rfl⟩
    · rintro ⟨adapter, hadapter, rfl⟩
      exact ⟨(p, adapter), (hregistered.mem _ _).mpr hadapter, rfl⟩
  · intro adapter hkind reason text
    rw [hlist]
    exact listModels_shown hkind reason text shown

def sampleConfig : ProviderConfig := { id := "openai", providerType := .openai }

/-- A provider that is discovered, and then removed. -/
def sampleRun : List Event :=
  [.start [sampleConfig], .discover ["openai"]] ++ sampleEvents

/-- Its model is shown all the same. -/
theorem listed_models_sample :
    ∃ shown : List ProviderModelRow,
      listModels [] (.ok (Discovery.listDiscovered (run sampleRun).rows)) =
        .object [("object", .string "list"), ("data", .array (shown.map modelJson))] ∧
      ⟨"openai", "gpt-4.1"⟩ ∈ shown := by
  have hremoved : (run sampleRun).registry = fun _ => none := by
    have hregistry : (run sampleRun).registry = Function.update
        (Function.update (fun _ => none) "openai" (some sampleAdapter)) "openai" none := rfl
    rw [hregistry, Function.update_idem, Function.update_eq_self_iff]
  have hentries : Entries (run sampleRun).registry [] := by
    rw [hremoved]
    exact ⟨List.nodup_nil, fun _ _ => iff_of_false List.not_mem_nil (Option.some_ne_none _).symm⟩
  obtain ⟨shown, hlist, -, hshown, -⟩ := listed_models sampleRun hentries
  refine ⟨shown, hlist, (hshown _ _).mpr (.inr ⟨["gpt-4.1"], ?_, List.mem_singleton.mpr rfl⟩)⟩
  rfl

end Listing

end ModelCatalogue

end TokenDealer
