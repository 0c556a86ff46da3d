import TokenDealer.TomlCodec
import TokenDealer.TomlShape

set_option autoImplicit true

namespace Toml

namespace Shape

/-- A value of another form. -/
def misfit : Shape → Value
  | leaf => .table []
  | list _ => .table []
  | map _ => .boolean true
  | record _ => .boolean true

mutual

/-- The value without the members that are not read. -/
def prune (s : Shape) : Value → Value
  | .array items =>
    match s with
    | list item => .array (pruneItems item items)
    | _ => .array items
  | .table members =>
    match s with
    | map entry => .table (pruneEntries entry members)
    | record fields => .table (pruneMembers fields members)
    | _ => .table members
  | v => v

def pruneItems (s : Shape) : List Value → List Value
  | [] => []
  | v :: rest => s.prune v :: pruneItems s rest

def pruneEntries (s : Shape) : List (String × Value) → List (String × Value)
  | [] => []
  | (key, v) :: rest => (key, s.prune v) :: pruneEntries s rest

def pruneMembers (fields : List (String × Shape)) :
    List (String × Value) → List (String × Value)
  | [] => []
  | (key, v) :: rest =>
    match Table.get key fields with
    | some s => (key, s.prune v) :: pruneMembers fields rest
    | none => pruneMembers fields rest

end

theorem pruneItems_eq_map (s : Shape) (items : List Value) :
    pruneItems s items = items.map s.prune := by
  induction items with
  | nil => rfl
  | cons v rest ih => rw [pruneItems, ih, List.map_cons]

theorem pruneEntries_eq_map (s : Shape) (members : List (String × Value)) :
    pruneEntries s members = members.map fun m => (m.1, s.prune m.2) := by
  induction members with
  | nil => rfl
  | cons m rest ih =>
    obtain ⟨key, v⟩ := m
    rw [pruneEntries, ih, List.map_cons]

theorem get_pruneMembers {fields : List (String × Shape)} (h : Table.get key fields = some s)
    (members : List (String × Value)) :
    Table.get key (pruneMembers fields members) = (Table.get key members).map s.prune := by
  induction members with
  | nil => rfl
  | cons m rest ih =>
    obtain ⟨k, v⟩ := m
    rw [pruneMembers]
    by_cases hk : k = key
    · subst hk
      rw [h, Table.get_cons_self, Table.get_cons_self]
      rfl
    · rw [Table.get_cons_of_ne hk]
      cases Table.get k fields with
      | none => exact ih
      | some t =>
        dsimp only
        rw [Table.get_cons_of_ne hk]
        exact ih

/-- Somewhere that is read there stands a value of another form. -/
inductive Spoiled : Shape → Value → Prop where
  | misfit (s : Shape) : Spoiled s s.misfit
  | item {s : Shape} {items : List Value} :
    w ∈ items → Spoiled s w → Spoiled (list s) (.array items)
  | entry {s : Shape} {members : List (String × Value)} :
    (key, w) ∈ members → Spoiled s w → Spoiled (map s) (.table members)
  | member {fields : List (String × Shape)} {members : List (String × Value)} :
    Table.get key fields = some s → Table.get key members = some w → Spoiled s w →
      Spoiled (record fields) (.table members)

end Shape

/-- A codec reads what the shape has and nothing else: without the other members it reads the
same, and where one of these has another form it fails. -/
structure Codec.Reads (c : Codec α) (s : Shape) : Prop where
  decode_prune : ∀ v, c.decode (s.prune v) = c.decode v
  spoiled : ∀ {w}, s.Spoiled w → ∀ a, c.decode w ≠ .ok a

structure Fields.Reads (f : Fields α) (fields : List (String × Shape)) : Prop where
  names : f.names = fields.map Prod.fst
  decode_prune : ∀ {members members'},
    (∀ key s, Table.get key fields = some s →
      Table.get key members' = (Table.get key members).map s.prune) →
    f.decode members' = f.decode members
  spoiled : ∀ {members key s w}, Table.get key fields = some s →
    Table.get key members = some w → s.Spoiled w → ∀ a, f.decode members ≠ .ok a

namespace Codec

/-- A value without keys in it. -/
theorem reads_leaf {c : Codec α} (h : ∀ a, c.decode (.table []) ≠ .ok a) : c.Reads .leaf where
  decode_prune v := by cases v <;> rfl
  spoiled hw := by
    cases hw
    exact h

theorem str_reads : str.Reads .leaf := reads_leaf nofun

theorem bool_reads : bool.Reads .leaf := reads_leaf nofun

theorem f64_reads : f64.Reads .leaf := reads_leaf nofun

theorem natBelow_reads : (natBelow bound).Reads .leaf := reads_leaf nofun

theorem u32_reads : u32.Reads .leaf := reads_leaf nofun

theorem u64_reads : u64.Reads .leaf := reads_leaf nofun

theorem enum_reads {name : α → String} {ofName : String → Option α}
    {h : ∀ a, ofName (name a) = some a} : (enum name ofName h).Reads .leaf := reads_leaf nofun

theorem map_ne_ok {r : Except DecodeError α} (h : ∀ a, r ≠ .ok a) (f : α → β) (b : β) :
    r.map f ≠ .ok b := by
  cases r with
  | error e => exact nofun
  | ok a => exact (h a rfl).elim

/-- What is read from what another codec read. -/
theorem Reads.of_decode {c : Codec α} (hc : c.Reads s) {d : Codec β} {f : α → β}
    (h : ∀ v, d.decode v = (c.decode v).map f) : d.Reads s where
  decode_prune v := by rw [h, h, hc.decode_prune]
  spoiled hw b := by
    rw [h]
    exact map_ne_ok (hc.spoiled hw) f b

theorem mapM_ne_ok {read : γ → Except DecodeError α} {items : List γ} (hmem : w ∈ items)
    (hw : ∀ a, read w ≠ .ok a) (as : List α) : items.mapM read ≠ .ok as := by
  induction items generalizing as with
  | nil => cases hmem
  | cons v rest ih =>
    intro h
    simp only [List.mapM_cons, bind_eq_ok] at h
    obtain ⟨a, ha, as', has, -⟩ := h
    cases List.mem_cons.mp hmem with
    | inl he => exact hw a (he ▸ ha)
    | inr hrest => exact ih hrest as' has

theorem mapM_congr_map {read : γ → Except DecodeError α} {f : γ → γ}
    (h : ∀ v, read (f v) = read v) (items : List γ) :
    (items.map f).mapM read = items.mapM read := by
  induction items with
  | nil => rfl
  | cons v rest ih => rw [List.map_cons, List.mapM_cons, List.mapM_cons, h, ih]

theorem Reads.list {c : Codec α} (hc : c.Reads s) : c.list.Reads (.list s) where
  decode_prune v := by
    cases v with
    | array items =>
      rw [Shape.prune, Shape.pruneItems_eq_map]
      exact mapM_congr_map hc.decode_prune items
    | _ => rfl
  spoiled {w} hw as := by
    cases hw with
    | misfit => exact nofun
    | item hmem hw => exact mapM_ne_ok hmem (hc.spoiled hw) as

theorem Reads.table {c : Codec α} (hc : c.Reads s) : c.table.Reads (.map s) where
  decode_prune v := by
    cases v with
    | table members =>
      have hentry : ∀ m : String × Value,
          c.decodeEntry (m.1, s.prune m.2) = c.decodeEntry m := by
        intro m
        rw [decodeEntry, decodeEntry, hc.decode_prune]
      rw [Shape.prune, Shape.pruneEntries_eq_map]
      change (Table.sort _).mapM c.decodeEntry = (Table.sort members).mapM c.decodeEntry
      rw [← Table.map_sort]
      exact mapM_congr_map hentry _
    | _ => rfl
  spoiled {w} hw as := by
    cases hw with
    | misfit =>
      intro h
      cases h
    | entry hmem hw =>
      exact mapM_ne_ok (Table.mem_sort.mpr hmem) (fun p => map_ne_ok (hc.spoiled hw) _ p) as

theorem Reads.listOf {c : Codec α} (hread : c.Reads s) {hc : ∀ a, c.canon a = a} :
    (c.listOf hc).Reads (.list s) := hread.list.of_decode fun _ => rfl

theorem Reads.tableOf {c : Codec α} (hread : c.Reads s) {hc : ∀ a, c.canon a = a} :
    (c.tableOf hc).Reads (.map s) := hread.table.of_decode fun _ => rfl

end Codec

namespace Fields

/-- A field: what stands under its name is read, and something else when nothing does. -/
theorem reads_field {f : Fields α} {missing : Except DecodeError α}
    {read : Value → Except DecodeError α} (hnames : f.names = [name])
    (hdecode : ∀ members, f.decode members = (Table.get name members).elim missing read)
    (hprune : ∀ v, read (s.prune v) = read v)
    (hspoiled : ∀ {w}, s.Spoiled w → ∀ a, read w ≠ .ok a) : f.Reads [(name, s)] where
  names := hnames
  decode_prune {members members'} h := by
    rw [hdecode, hdecode, h name s (Table.get_cons_self ..)]
    cases Table.get name members with
    | none => rfl
    | some v => exact hprune v
  spoiled {members key t w} hkey hget hw := by
    by_cases hk : name = key
    · subst hk
      rw [Table.get_cons_self] at hkey
      cases hkey
      rw [hdecode, hget]
      exact hspoiled hw
    · rw [Table.get_cons_of_ne hk] at hkey
      cases hkey

theorem required_reads {c : Codec α} (hc : c.Reads s) : (required name c).Reads [(name, s)] := by
  apply reads_field rfl _ hc.decode_prune hc.spoiled
  · exact .error (.missingField name)
  · intro members
    cases h : Table.get name members <;> simp [required, h]

theorem withDefault_reads {c : Codec α} (hc : c.Reads s) :
    (withDefault name c d).Reads [(name, s)] := by
  apply reads_field rfl _ hc.decode_prune hc.spoiled
  · exact .ok d
  · intro members
    cases h : Table.get name members <;> simp [withDefault, h]

theorem optional_reads {c : Codec α} (hread : c.Reads s) {hc : ∀ a, c.canon a = a} :
    (optional name c hc).Reads [(name, s)] := by
  apply reads_field rfl _ (fun v => congrArg (Except.map some) (hread.decode_prune v))
    fun hw => Codec.map_ne_ok (hread.spoiled hw) some
  · exact .ok none
  · intro members
    cases h : Table.get name members <;> simp [optional, h]

theorem get_of_not_mem {fields : List (String × Shape)} (h : key ∉ fields.map Prod.fst) :
    Table.get key fields = none := by
  cases hs : Table.get key fields with
  | none => rfl
  | some s => exact (h (List.mem_map_of_mem (Table.mem_of_get hs))).elim

theorem Reads.and {f : Fields α} {g : Fields β} (hf : f.Reads fs) (hg : g.Reads gs)
    {hdisjoint : ∀ key ∈ f.names, key ∉ g.names} : (f.and g hdisjoint).Reads (fs ++ gs) := by
  have hleft : ∀ {key s}, Table.get key fs = some s → Table.get key (fs ++ gs) = some s := by
    intro key s h
    rw [Table.get_append, h]
    rfl
  have hright : ∀ {key s}, Table.get key gs = some s → Table.get key (fs ++ gs) = some s := by
    intro key s h
    have hkey : key ∉ fs.map Prod.fst := by
      rw [← hf.names]
      intro hmem
      apply hdisjoint key hmem
      rw [hg.names]
      exact List.mem_map_of_mem (Table.mem_of_get h)
    rw [Table.get_append, get_of_not_mem hkey, h]
    rfl
  constructor
  · rw [List.map_append, ← hf.names, ← hg.names]
    rfl
  · intro members members' h
    have hfs := hf.decode_prune fun key s hs => h key s (hleft hs)
    have hgs := hg.decode_prune fun key s hs => h key s (hright hs)
    simp only [Fields.and, hfs, hgs]
  · intro members key s w hkey hget hw p hp
    rw [and_decode] at hp
    rw [Table.get_append] at hkey
    cases hs : Table.get key fs with
    | some t =>
      rw [hs] at hkey
      cases hkey
      exact hf.spoiled hs hget hw p.1 hp.1
    | none =>
      rw [hs] at hkey
      exact hg.spoiled hkey hget hw p.2 hp.2

/-- One more field in front. -/
theorem Reads.cons {f : Fields α} {g : Fields β} (hf : f.Reads [(name, s)]) (hg : g.Reads gs)
    {hdisjoint : ∀ key ∈ f.names, key ∉ g.names} :
    (f.and g hdisjoint).Reads ((name, s) :: gs) := hf.and hg

theorem Reads.map {fields : Fields α} (h : fields.Reads shape) {f : α → β} {g : β → α}
    {back : β → β} {hback : ∀ b, f (fields.canon (g b)) = back b} :
    (fields.map f g back hback).Reads shape where
  names := h.names
  decode_prune hget := congrArg (Except.map f) (h.decode_prune hget)
  spoiled hkey hget hw b := Codec.map_ne_ok (h.spoiled hkey hget hw) f b

theorem Reads.decode_pruneMembers {fields : Fields α} (h : fields.Reads shape)
    (members : List (String × Value)) :
    fields.decode (Shape.pruneMembers shape members) = fields.decode members :=
  h.decode_prune fun _ _ hget => Shape.get_pruneMembers hget members

theorem Reads.toCodec {fields : Fields α} (h : fields.Reads shape) :
    fields.toCodec.Reads (.record shape) where
  decode_prune v := by
    cases v with
    | table members =>
      rw [Shape.prune]
      exact h.decode_pruneMembers members
    | _ => rfl
  spoiled {w} hw a := by
    cases hw with
    | misfit => exact nofun
    | member hkey hget hw => exact h.spoiled hkey hget hw a

end Fields

end Toml
