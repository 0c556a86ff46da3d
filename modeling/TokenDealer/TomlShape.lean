import TokenDealer.Toml

set_option autoImplicit true

namespace Toml

namespace Value

def members : Value → List (String × Value)
  | .table members => members
  | _ => []

def items : Value → List Value
  | .array items => items
  | _ => []

end Value

/-- What a reader looks at in a value: no key below it, the items of an array, the entries of a
table with free keys, or the members of a table with certain names. -/
inductive Shape where
  | leaf
  | list (item : Shape)
  | map (entry : Shape)
  | record (fields : List (String × Shape))
  deriving Inhabited

namespace Shape

mutual

/-- The paths of the keys that are not read. What is below such a key is not looked at. -/
def ignored (s : Shape) (path : String) : Value → List String
  | .array items =>
    match s with
    | list item => ignoredItems item path 0 items
    | _ => []
  | .table members =>
    match s with
    | map entry => ignoredEntries entry path members
    | record fields => ignoredMembers fields (fun key => s!"{path}.{key}") members
    | _ => []
  | _ => []

def ignoredItems (s : Shape) (path : String) : Nat → List Value → List String
  | _, [] => []
  | idx, v :: rest => s.ignored s!"{path}[{idx}]" v ++ ignoredItems s path (idx + 1) rest

def ignoredEntries (s : Shape) (path : String) : List (String × Value) → List String
  | [] => []
  | (key, v) :: rest => s.ignored s!"{path}.{key}" v ++ ignoredEntries s path rest

def ignoredMembers (fields : List (String × Shape)) (place : String → String) :
    List (String × Value) → List String
  | [] => []
  | (key, v) :: rest =>
    (match Table.get key fields with
      | some s => s.ignored (place key) v
      | none => [place key]) ++ ignoredMembers fields place rest

end

mutual

/-- What the second of two shapes leaves out and the first does not name. -/
def missed (s t : Shape) (path : String) : Value → List String
  | .array items =>
    match s, t with
    | list a, list b => missedItems a b path 0 items
    | _, _ => t.ignored path (.array items)
  | .table members =>
    match s, t with
    | map a, map b => missedEntries a b path members
    | record fs, record gs => missedMembers fs gs (fun key => s!"{path}.{key}") members
    | _, _ => t.ignored path (.table members)
  | _ => []

def missedItems (s t : Shape) (path : String) : Nat → List Value → List String
  | _, [] => []
  | idx, v :: rest => missed s t s!"{path}[{idx}]" v ++ missedItems s t path (idx + 1) rest

def missedEntries (s t : Shape) (path : String) : List (String × Value) → List String
  | [] => []
  | (key, v) :: rest => missed s t s!"{path}.{key}" v ++ missedEntries s t path rest

def missedMembers (fs gs : List (String × Shape)) (place : String → String) :
    List (String × Value) → List String
  | [] => []
  | (key, v) :: rest =>
    (match Table.get key fs, Table.get key gs with
      | some s, some t => missed s t (place key) v
      | some _, none => [place key]
      | none, some t => t.ignored (place key) v
      | none, none => []) ++ missedMembers fs gs place rest

end

/-- Two lists of fields that are the same without one name are so under every other name. -/
theorem get_eq_of_filter {fs gs : List (String × Shape)}
    (h : fs.filter (fun f => f.1 ≠ name) = gs.filter fun f => f.1 ≠ name) (key : String)
    (hkey : name ≠ key) : Table.get key fs = Table.get key gs := by
  have hfilter : ∀ fields : List (String × Shape),
      Table.get key (fields.filter fun f => f.1 ≠ name) = Table.get key fields := by
    intro fields
    induction fields with
    | nil => rfl
    | cons f rest ih =>
      obtain ⟨k, s⟩ := f
      by_cases hk : k = name
      · subst hk
        rw [List.filter_cons_of_neg (by simp), ih, Table.get_cons_of_ne hkey]
      · rw [List.filter_cons_of_pos (by simpa using hk), Table.get, Table.get, ih]
  rw [← hfilter fs, h, hfilter gs]

theorem ignored_leaf (path : String) (v : Value) : leaf.ignored path v = [] := by
  cases v <;> rfl

section

variable {a b c d a' b' c' d' : List String}

theorem perm_interleave (h : (a ++ c).Perm (a' ++ c')) (hrest : (b ++ d).Perm (b' ++ d')) :
    ((a ++ b) ++ (c ++ d)).Perm ((a' ++ b') ++ (c' ++ d')) := by
  have hswap : ∀ w x y z : List String, ((w ++ x) ++ (y ++ z)).Perm ((w ++ y) ++ (x ++ z)) := by
    intro w x y z
    rw [List.append_assoc, List.append_assoc]
    apply List.Perm.append_left
    rw [← List.append_assoc, ← List.append_assoc]
    exact List.perm_append_comm.append_right z
  calc ((a ++ b) ++ (c ++ d)).Perm ((a ++ c) ++ (b ++ d)) := hswap a b c d
    List.Perm _ ((a' ++ c') ++ (b' ++ d')) := h.append hrest
    List.Perm _ ((a' ++ b') ++ (c' ++ d')) := hswap a' c' b' d'

end

mutual

/-- Each shape with what it misses of the other comes to the same keys. -/
theorem ignored_missed (s t : Shape) (path : String) : (v : Value) →
    (s.ignored path v ++ missed s t path v).Perm (t.ignored path v ++ missed t s path v)
  | .array items => by
    cases s <;> cases t
    case list.list a b =>
      simp only [ignored, missed]
      exact ignoredItems_missed a b path 0 items
    all_goals
      simp only [ignored, missed, List.append_nil, List.nil_append]
      exact .refl _
  | .table members => by
    cases s <;> cases t
    case map.map a b =>
      simp only [ignored, missed]
      exact ignoredEntries_missed a b path members
    case record.record fs gs =>
      simp only [ignored, missed]
      exact ignoredMembers_missed fs gs _ members
    all_goals
      simp only [missed]
      exact List.perm_append_comm
  | .string _ => by simp only [ignored, missed]; exact .refl _
  | .integer _ => by simp only [ignored, missed]; exact .refl _
  | .float _ => by simp only [ignored, missed]; exact .refl _
  | .boolean _ => by simp only [ignored, missed]; exact .refl _
  | .datetime _ => by simp only [ignored, missed]; exact .refl _

theorem ignoredItems_missed (s t : Shape) (path : String) (idx : Nat) : (items : List Value) →
    (ignoredItems s path idx items ++ missedItems s t path idx items).Perm
      (ignoredItems t path idx items ++ missedItems t s path idx items)
  | [] => .refl _
  | v :: rest => by
    simp only [ignoredItems, missedItems]
    exact perm_interleave (ignored_missed s t _ v) (ignoredItems_missed s t path (idx + 1) rest)

theorem ignoredEntries_missed (s t : Shape) (path : String) :
    (members : List (String × Value)) →
    (ignoredEntries s path members ++ missedEntries s t path members).Perm
      (ignoredEntries t path members ++ missedEntries t s path members)
  | [] => .refl _
  | (key, v) :: rest => by
    simp only [ignoredEntries, missedEntries]
    exact perm_interleave (ignored_missed s t _ v) (ignoredEntries_missed s t path rest)

theorem ignoredMembers_missed (fs gs : List (String × Shape)) (place : String → String) :
    (members : List (String × Value)) →
    (ignoredMembers fs place members ++ missedMembers fs gs place members).Perm
      (ignoredMembers gs place members ++ missedMembers gs fs place members)
  | [] => .refl _
  | (key, v) :: rest => by
    simp only [ignoredMembers, missedMembers]
    apply perm_interleave
    · cases Table.get key fs <;> cases Table.get key gs
      case some.some s t => exact ignored_missed s t (place key) v
      case none.none => exact .refl _
      all_goals exact List.perm_append_comm
    · exact ignoredMembers_missed fs gs place rest

end

/-- Two shapes name the same keys of a table when each misses what the other does. -/
theorem ignoredMembers_perm_iff {fs gs : List (String × Shape)} {place : String → String}
    {members : List (String × Value)} :
    (ignoredMembers fs place members).Perm (ignoredMembers gs place members) ↔
      (missedMembers fs gs place members).Perm (missedMembers gs fs place members) := by
  have hall := ignoredMembers_missed fs gs place members
  constructor
  · intro h
    exact (List.perm_append_left_iff _).mp (hall.trans (h.symm.append_right _))
  · intro h
    exact (List.perm_append_right_iff _).mp (hall.trans (h.symm.append_left _))

mutual

theorem missed_self (s : Shape) (path : String) : (v : Value) → missed s s path v = []
  | .array items => by
    cases s with
    | list a =>
      rw [missed]
      exact missedItems_self a path 0 items
    | _ => rfl
  | .table members => by
    cases s with
    | map a =>
      rw [missed]
      exact missedEntries_self a path members
    | record fs =>
      rw [missed]
      exact missedMembers_self fs _ members
    | _ => rfl
  | .string _ => rfl
  | .integer _ => rfl
  | .float _ => rfl
  | .boolean _ => rfl
  | .datetime _ => rfl

theorem missedItems_self (s : Shape) (path : String) (idx : Nat) : (items : List Value) →
    missedItems s s path idx items = []
  | [] => rfl
  | v :: rest => by
    rw [missedItems, missed_self s _ v, missedItems_self s path (idx + 1) rest]
    rfl

theorem missedEntries_self (s : Shape) (path : String) : (members : List (String × Value)) →
    missedEntries s s path members = []
  | [] => rfl
  | (key, v) :: rest => by
    rw [missedEntries, missed_self s _ v, missedEntries_self s path rest]
    rfl

theorem missedMembers_self (fs : List (String × Shape)) (place : String → String) :
    (members : List (String × Value)) → missedMembers fs fs place members = []
  | [] => rfl
  | (key, v) :: rest => by
    rw [missedMembers, missedMembers_self fs place rest, List.append_nil]
    cases Table.get key fs with
    | none => rfl
    | some s => exact missed_self s (place key) v

end

mutual

theorem missed_sublist (s t : Shape) (path : String) : (v : Value) →
    (missed s t path v).Sublist (t.ignored path v)
  | .array items => by
    cases s <;> cases t
    case list.list a b =>
      simp only [ignored, missed]
      exact missedItems_sublist a b path 0 items
    all_goals
      simp only [ignored, missed]
      exact .refl _
  | .table members => by
    cases s <;> cases t
    case map.map a b =>
      simp only [ignored, missed]
      exact missedEntries_sublist a b path members
    case record.record fs gs =>
      simp only [ignored, missed]
      exact missedMembers_sublist fs gs _ members
    all_goals
      simp only [missed]
      exact .refl _
  | .string _ => List.nil_sublist _
  | .integer _ => List.nil_sublist _
  | .float _ => List.nil_sublist _
  | .boolean _ => List.nil_sublist _
  | .datetime _ => List.nil_sublist _

theorem missedItems_sublist (s t : Shape) (path : String) (idx : Nat) : (items : List Value) →
    (missedItems s t path idx items).Sublist (ignoredItems t path idx items)
  | [] => .refl _
  | v :: rest => (missed_sublist s t _ v).append (missedItems_sublist s t path (idx + 1) rest)

theorem missedEntries_sublist (s t : Shape) (path : String) :
    (members : List (String × Value)) →
    (missedEntries s t path members).Sublist (ignoredEntries t path members)
  | [] => .refl _
  | (_, v) :: rest => (missed_sublist s t _ v).append (missedEntries_sublist s t path rest)

theorem missedMembers_sublist (fs gs : List (String × Shape)) (place : String → String) :
    (members : List (String × Value)) →
    (missedMembers fs gs place members).Sublist (ignoredMembers gs place members)
  | [] => .refl _
  | (key, v) :: rest => by
    simp only [ignoredMembers, missedMembers]
    apply List.Sublist.append
    · cases Table.get key fs <;> cases Table.get key gs
      case some.some s t => exact missed_sublist s t (place key) v
      case none.none => exact List.nil_sublist _
      all_goals exact .refl _
    · exact missedMembers_sublist fs gs place rest

end

theorem toList_key (path key : String) :
    (s!"{path}.{key}").toList = path.toList ++ '.' :: key.toList := by
  change (path ++ "." ++ key).toList = _
  rw [String.toList_append, String.toList_append, List.append_assoc]
  rfl

theorem toList_item (path : String) (idx : Nat) :
    (s!"{path}[{idx}]").toList = path.toList ++ '[' :: (toString idx ++ "]").toList := by
  change (path ++ "[" ++ toString idx ++ "]").toList = _
  rw [String.append_assoc, String.toList_append, String.toList_append, List.append_assoc]
  rfl

mutual

/-- What is below a place has a path that begins with that of the place. -/
theorem prefix_of_mem_ignored {s : Shape} {path key : String} : (v : Value) →
    key ∈ s.ignored path v → path.toList <+: key.toList
  | .array items, h => by
    cases s with
    | list item =>
      rw [ignored] at h
      exact prefix_of_mem_ignoredItems 0 items h
    | _ => cases h
  | .table members, h => by
    cases s with
    | map entry =>
      rw [ignored] at h
      exact prefix_of_mem_ignoredEntries members h
    | record fields =>
      rw [ignored] at h
      obtain ⟨m, hm⟩ := prefix_of_mem_ignoredMembers members h
      rw [toList_key] at hm
      exact (List.prefix_append _ _).trans hm
    | _ => cases h
  | .string _, h => nomatch h
  | .integer _, h => nomatch h
  | .float _, h => nomatch h
  | .boolean _, h => nomatch h
  | .datetime _, h => nomatch h

theorem prefix_of_mem_ignoredItems {s : Shape} {path key : String} (idx : Nat) :
    (items : List Value) → key ∈ ignoredItems s path idx items → path.toList <+: key.toList
  | [], h => nomatch h
  | v :: rest, h => by
    rw [ignoredItems] at h
    cases List.mem_append.mp h with
    | inl h =>
      have hv := prefix_of_mem_ignored v h
      rw [toList_item] at hv
      exact (List.prefix_append _ _).trans hv
    | inr h => exact prefix_of_mem_ignoredItems (idx + 1) rest h

theorem prefix_of_mem_ignoredEntries {s : Shape} {path key : String} :
    (members : List (String × Value)) → key ∈ ignoredEntries s path members →
      path.toList <+: key.toList
  | [], h => nomatch h
  | (name, v) :: rest, h => by
    rw [ignoredEntries] at h
    cases List.mem_append.mp h with
    | inl h =>
      have hv := prefix_of_mem_ignored v h
      rw [toList_key] at hv
      exact (List.prefix_append _ _).trans hv
    | inr h => exact prefix_of_mem_ignoredEntries rest h

theorem prefix_of_mem_ignoredMembers {fields : List (String × Shape)}
    {place : String → String} {key : String} :
    (members : List (String × Value)) → key ∈ ignoredMembers fields place members →
      ∃ name, (place name).toList <+: key.toList
  | [], h => nomatch h
  | (name, v) :: rest, h => by
    rw [ignoredMembers] at h
    cases List.mem_append.mp h with
    | inl h =>
      refine ⟨name, ?_⟩
      cases hs : Table.get name fields with
      | some s =>
        rw [hs] at h
        exact prefix_of_mem_ignored v h
      | none =>
        rw [hs] at h
        cases List.mem_singleton.mp h
        exact List.prefix_refl _
    | inr h => exact prefix_of_mem_ignoredMembers rest h

end

section

variable {fs gs : List (String × Shape)} {place : String → String}
  {members : List (String × Value)} {Q : Value → Prop}

theorem mem_missedMembers :
    path ∈ missedMembers fs gs place members ↔
      ∃ m ∈ members, path ∈ missedMembers fs gs place [m] := by
  induction members with
  | nil => simp [missedMembers]
  | cons m rest ih =>
    obtain ⟨key, v⟩ := m
    simp only [List.mem_cons, exists_eq_or_imp]
    rw [← ih]
    simp only [missedMembers, List.append_nil, List.mem_append]

theorem missedMembers_eq_nil :
    missedMembers fs gs place members = [] ↔
      ∀ m ∈ members, missedMembers fs gs place [m] = [] := by
  induction members with
  | nil => exact iff_of_true rfl nofun
  | cons m rest ih =>
    obtain ⟨key, v⟩ := m
    rw [List.forall_mem_cons, ← ih]
    simp only [missedMembers, List.append_nil, List.append_eq_nil_iff]

/-- Nothing is missed of a member that both shapes have the same, or both leave out. -/
theorem missedMember_same (h : Table.get key fs = Table.get key gs) (v : Value) :
    missedMembers fs gs place [(key, v)] = [] := by
  simp only [missedMembers, List.append_nil, h]
  cases Table.get key gs with
  | none => rfl
  | some s => exact missed_self s (place key) v

theorem missedMember_both (hfs : Table.get key fs = some s) (hgs : Table.get key gs = some t)
    (v : Value) : missedMembers fs gs place [(key, v)] = missed s t (place key) v := by
  simp only [missedMembers, List.append_nil, hfs, hgs]

/-- One field is read in two ways. -/
theorem missed_field_eq_nil (hfs : Table.get name fs = some s) (hgs : Table.get name gs = some t)
    (hother : ∀ key, name ≠ key → Table.get key fs = Table.get key gs)
    (h : ∀ path v, missed s t path v = [] ↔ Q v) :
    missed (record fs) (record gs) path v = [] ↔ ∀ w, (name, w) ∈ v.members → Q w := by
  cases v with
  | table members =>
    rw [missed, missedMembers_eq_nil]
    constructor
    · intro hall w hw
      have hmember := hall (name, w) hw
      rw [missedMember_both hfs hgs] at hmember
      exact (h _ w).mp hmember
    · rintro hall ⟨key, w⟩ hw
      by_cases hkey : name = key
      · subst hkey
        rw [missedMember_both hfs hgs]
        exact (h _ w).mpr (hall w hw)
      · exact missedMember_same (hother key hkey) w
  | _ => exact iff_of_true rfl nofun

/-- The first shape has one field more. -/
theorem missed_extra_eq_nil (hfs : Table.get name fs = some s) (hgs : Table.get name gs = none)
    (hother : ∀ key, name ≠ key → Table.get key fs = Table.get key gs) :
    missed (record fs) (record gs) path v = [] ↔ ∀ w, (name, w) ∉ v.members := by
  cases v with
  | table members =>
    rw [missed, missedMembers_eq_nil]
    constructor
    · intro hall w hw
      have hmember := hall (name, w) hw
      simp only [missedMembers, hfs, hgs] at hmember
      cases hmember
    · rintro hall ⟨key, w⟩ hw
      by_cases hkey : name = key
      · subst hkey
        exact (hall w hw).elim
      · exact missedMember_same (hother key hkey) w
  | _ => exact iff_of_true rfl nofun

end

theorem missed_map_eq_nil {Q : Value → Prop} (h : ∀ path v, missed a b path v = [] ↔ Q v) :
    missed (map a) (map b) path v = [] ↔ ∀ m ∈ v.members, Q m.2 := by
  cases v with
  | table members =>
    rw [missed, Value.members]
    induction members with
    | nil => exact iff_of_true rfl nofun
    | cons m rest ih =>
      obtain ⟨key, w⟩ := m
      rw [missedEntries, List.append_eq_nil_iff, h, ih, List.forall_mem_cons]
  | _ => exact iff_of_true rfl nofun

theorem missedItems_eq_nil {Q : Value → Prop} (h : ∀ path v, missed a b path v = [] ↔ Q v)
    (path : String) (idx : Nat) (items : List Value) :
    missedItems a b path idx items = [] ↔ ∀ w ∈ items, Q w := by
  induction items generalizing idx with
  | nil => exact iff_of_true rfl nofun
  | cons w rest ih => rw [missedItems, List.append_eq_nil_iff, h, ih, List.forall_mem_cons]

theorem missed_list_eq_nil {Q : Value → Prop} (h : ∀ path v, missed a b path v = [] ↔ Q v) :
    missed (list a) (list b) path v = [] ↔ ∀ w ∈ v.items, Q w := by
  cases v with
  | array items =>
    rw [missed]
    exact missedItems_eq_nil h path 0 items
  | _ => exact iff_of_true rfl nofun

/-- Fields without keys in them: the other members are ignored. -/
theorem ignored_flat_eq_nil (names : List String) (path : String) (v : Value) :
    (record (names.map fun name => (name, leaf))).ignored path v = [] ↔
      ∀ m ∈ v.members, m.1 ∈ names := by
  cases v with
  | table members =>
    rw [ignored, Value.members]
    induction members with
    | nil => exact iff_of_true rfl nofun
    | cons m rest ih =>
      obtain ⟨key, w⟩ := m
      rw [ignoredMembers, List.append_eq_nil_iff, ih, List.forall_mem_cons, Table.get_keys]
      split
      · next hs =>
        split at hs
        · next hkey =>
          cases hs
          rw [ignored_leaf]
          simp only [hkey, true_and]
        · cases hs
      · next hs =>
        split at hs
        · cases hs
        · next hkey => simp only [hkey, false_and, List.cons_ne_nil]
  | _ => exact iff_of_true rfl nofun

theorem missed_to_leaf (s : Shape) (path : String) (v : Value) : missed s leaf path v = [] := by
  cases v with
  | array items => cases s <;> exact ignored_leaf path (.array items)
  | table members => cases s <;> exact ignored_leaf path (.table members)
  | _ => rfl

/-- A shape that knows all fields and looks into fewer of them has nothing left out. -/
theorem missed_looser (path : String) (v : Value)
    (h : ∀ key, Table.get key fs = Table.get key gs ∨ Table.get key gs = some leaf) :
    missed (record fs) (record gs) path v = [] := by
  cases v with
  | table members =>
    rw [missed, missedMembers_eq_nil]
    rintro ⟨key, w⟩ -
    cases h key with
    | inl hsame => exact missedMember_same hsame w
    | inr hleaf =>
      cases hfs : Table.get key fs with
      | some s =>
        rw [missedMember_both hfs hleaf]
        exact missed_to_leaf s _ w
      | none =>
        simp only [missedMembers, hfs, hleaf]
        rw [ignored_leaf]
        rfl
  | _ => rfl

theorem ignored_map_leaf (path : String) (v : Value) : (map leaf).ignored path v = [] := by
  cases v with
  | table members =>
    rw [ignored]
    induction members with
    | nil => rfl
    | cons m rest ih =>
      obtain ⟨key, w⟩ := m
      rw [ignoredEntries, ignored_leaf, ih]
      rfl
  | _ => rfl

end Shape

end Toml
