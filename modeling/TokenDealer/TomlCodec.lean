import TokenDealer.F64
import TokenDealer.Toml

set_option autoImplicit true

namespace Toml

/-- A number that a document has no room for. -/
inductive EncodeError where
  | outOfRange
  deriving DecidableEq, Repr

/-- A writer and a reader of values. What is written reads back, with the tables in it in order,
and reading does not depend on the order of a table. -/
structure Codec (α : Type) where
  encode : α → Except EncodeError Value
  decode : Value → Except DecodeError α
  canon : α → α
  decode_encode : ∀ {a v}, encode a = .ok v → decode v = .ok (canon a)
  decode_sorted : ∀ v, decode v.sorted = decode v

namespace Codec

/-- A value without parts. -/
def leaf (kind : String) (write : α → Except EncodeError Value) (read : Value → Option α)
    (hread : ∀ {a v}, write a = .ok v → read v = some a)
    (hsorted : ∀ v, read v.sorted = read v) : Codec α where
  encode := write
  decode v :=
    match read v with
    | some a => .ok a
    | none => .error (.invalidType kind)
  canon := id
  decode_encode h := by rw [hread h]; rfl
  decode_sorted v := by rw [hsorted]

theorem asStr_sorted (v : Value) : v.sorted.asStr = v.asStr := by
  cases v <;> rfl

theorem asBool_sorted (v : Value) : v.sorted.asBool = v.asBool := by
  cases v <;> rfl

def str : Codec String :=
  leaf "string" (fun s => .ok (.string s)) Value.asStr (by rintro a v ⟨⟩; rfl) asStr_sorted

def bool : Codec Bool :=
  leaf "boolean" (fun b => .ok (.boolean b)) Value.asBool (by rintro a v ⟨⟩; rfl) asBool_sorted

/-- Integers of a document have 64 bits and a sign. -/
def maxInteger : Nat := 9223372036854775807

def asNatBelow (bound : Nat) : Value → Option Nat
  | .integer n => if 0 ≤ n ∧ n.toNat < bound then some n.toNat else none
  | _ => none

def ofNatBelow (bound n : Nat) : Except EncodeError Value :=
  if n < bound ∧ n ≤ maxInteger then .ok (.integer n) else .error .outOfRange

theorem asNatBelow_ofNatBelow (h : ofNatBelow bound n = .ok v) : asNatBelow bound v = some n := by
  rw [ofNatBelow] at h
  split at h
  · rename_i hn
    cases h
    rw [asNatBelow, Int.toNat_natCast, if_pos ⟨Int.natCast_nonneg n, hn.1⟩]
  · cases h

def natBelow (bound : Nat) : Codec Nat :=
  leaf "integer" (ofNatBelow bound) (asNatBelow bound) asNatBelow_ofNatBelow
    fun v => by cases v <;> rfl

def asF64 : Value → Option F64
  | .float bits => some bits
  | .integer n => some (F64.ofInt n)
  | _ => none

def f64 : Codec F64 :=
  leaf "float" (fun bits => .ok (.float bits)) asF64 (by rintro a v ⟨⟩; rfl)
    fun v => by cases v <;> rfl

/-- The values of one type written as those of another. -/
def map (c : Codec α) (f : α → β) (g : β → α) (canon : β → β)
    (hcanon : ∀ b, f (c.canon (g b)) = canon b) : Codec β where
  encode b := c.encode (g b)
  decode v := (c.decode v).map f
  canon := canon
  decode_encode {b v} h := by rw [c.decode_encode h, ← hcanon b]; rfl
  decode_sorted v := by rw [c.decode_sorted]

def u32 : Codec UInt32 :=
  (natBelow UInt32.size).map UInt32.ofNat UInt32.toNat id fun _ => UInt32.ofNat_toNat

def u64 : Codec UInt64 :=
  (natBelow UInt64.size).map UInt64.ofNat UInt64.toNat id fun _ => UInt64.ofNat_toNat

/-- A value out of a list of names. -/
def enum (name : α → String) (ofName : String → Option α) (h : ∀ a, ofName (name a) = some a) :
    Codec α :=
  leaf "variant" (fun a => .ok (.string (name a))) (fun v => v.asStr.bind ofName)
    (by rintro a v ⟨⟩; exact h a) fun v => by rw [asStr_sorted]

theorem mapM_decode (c : Codec α) {items : List Value} {as : List α}
    (h : as.mapM c.encode = .ok items) : items.mapM c.decode = .ok (as.map c.canon) := by
  induction as generalizing items with
  | nil =>
    cases h
    rfl
  | cons a as ih =>
    simp only [List.mapM_cons, bind_eq_ok] at h
    obtain ⟨v, hv, vs, hvs, hitems⟩ := h
    cases hitems
    rw [List.mapM_cons, c.decode_encode hv, ih hvs]
    rfl

theorem mapM_decode_sorted (c : Codec α) (items : List Value) :
    (items.map Value.sorted).mapM c.decode = items.mapM c.decode := by
  induction items with
  | nil => rfl
  | cons v items ih => rw [List.map_cons, List.mapM_cons, List.mapM_cons, c.decode_sorted, ih]

def list (c : Codec α) : Codec (List α) where
  encode as := (as.mapM c.encode).map .array
  decode
    | .array items => items.mapM c.decode
    | _ => .error (.invalidType "array")
  canon := List.map c.canon
  decode_encode {as v} h := by
    cases hitems : as.mapM c.encode with
    | error e =>
      rw [hitems] at h
      cases h
    | ok items =>
      rw [hitems] at h
      cases h
      exact c.mapM_decode hitems
  decode_sorted v := by
    cases v with
    | array items =>
      rw [Value.sorted, Value.sortedItems_eq_map]
      exact c.mapM_decode_sorted items
    | _ => rfl

/-- One entry of a table with free keys. -/
def decodeEntry (c : Codec α) (m : String × Value) : Except DecodeError (String × α) :=
  (c.decode m.2).map fun a => (m.1, a)

def encodeEntry (c : Codec α) (m : String × α) : Except EncodeError (String × Value) :=
  (c.encode m.2).map fun v => (m.1, v)

theorem decodeEntry_ok {c : Codec α} (h : c.decodeEntry m = .ok p) :
    p.1 = m.1 ∧ c.decode m.2 = .ok p.2 := by
  rw [decodeEntry] at h
  cases hv : c.decode m.2 with
  | error e =>
    rw [hv] at h
    cases h
  | ok a =>
    rw [hv] at h
    cases h
    exact ⟨rfl, rfl⟩

theorem mapM_place {c : Codec α} (hm : c.decode v = .ok a)
    (h : members.mapM c.decodeEntry = .ok as) :
    (Table.place key v members).mapM c.decodeEntry = .ok (Table.place key a as) := by
  have hentry : c.decodeEntry (key, v) = .ok (key, a) := by
    rw [decodeEntry, hm]
    rfl
  induction members generalizing as with
  | nil =>
    cases h
    rw [Table.place, List.mapM_cons, hentry]
    rfl
  | cons m rest ih =>
    simp only [List.mapM_cons, bind_eq_ok] at h
    obtain ⟨p, hp, ps, hps, has⟩ := h
    cases has
    obtain ⟨k, w⟩ := m
    obtain ⟨k', b⟩ := p
    obtain ⟨rfl, -⟩ := decodeEntry_ok hp
    rw [Table.place, Table.place]
    split
    · rw [List.mapM_cons, hp, ih hps]
      rfl
    · rw [List.mapM_cons, hentry, List.mapM_cons, hp, hps]
      rfl

/-- Decoding entry by entry keeps their order. -/
theorem mapM_sort {c : Codec α} (h : members.mapM c.decodeEntry = .ok as) :
    (Table.sort members).mapM c.decodeEntry = .ok (Table.sort as) := by
  induction members generalizing as with
  | nil =>
    cases h
    rfl
  | cons m rest ih =>
    simp only [List.mapM_cons, bind_eq_ok] at h
    obtain ⟨p, hp, ps, hps, has⟩ := h
    cases has
    obtain ⟨hkey, hv⟩ := decodeEntry_ok hp
    rw [Table.sort_cons, Table.sort_cons, hkey]
    exact mapM_place hv (ih hps)

theorem mapM_decodeEntry {c : Codec α} {entries : List (String × α)}
    {members : List (String × Value)} (h : entries.mapM c.encodeEntry = .ok members) :
    members.mapM c.decodeEntry = .ok (entries.map fun m => (m.1, c.canon m.2)) := by
  induction entries generalizing members with
  | nil =>
    cases h
    rfl
  | cons m rest ih =>
    simp only [List.mapM_cons, bind_eq_ok] at h
    obtain ⟨p, hp, ps, hps, hmembers⟩ := h
    cases hmembers
    rw [encodeEntry] at hp
    cases hv : c.encode m.2 with
    | error e =>
      rw [hv] at hp
      cases hp
    | ok v =>
      rw [hv] at hp
      cases hp
      rw [List.mapM_cons, decodeEntry, c.decode_encode hv, ih hps]
      rfl

theorem mapM_decodeEntry_sorted (c : Codec α) (members : List (String × Value)) :
    (Value.sortedMembers members).mapM c.decodeEntry = members.mapM c.decodeEntry := by
  induction members with
  | nil => rfl
  | cons m rest ih =>
    obtain ⟨key, v⟩ := m
    rw [Value.sortedMembers, List.mapM_cons, List.mapM_cons, ih, decodeEntry, decodeEntry,
      c.decode_sorted]

/-- A table with free keys: it has no order of its own, here the entries come in that of the
keys. -/
def table (c : Codec α) : Codec (List (String × α)) where
  encode entries := (entries.mapM c.encodeEntry).map .table
  decode
    | .table members => (Table.sort members).mapM c.decodeEntry
    | _ => .error (.invalidType "table")
  canon entries := Table.sort (entries.map fun m => (m.1, c.canon m.2))
  decode_encode {entries v} h := by
    cases hmembers : entries.mapM c.encodeEntry with
    | error e =>
      rw [hmembers] at h
      cases h
    | ok members =>
      rw [hmembers] at h
      cases h
      exact mapM_sort (mapM_decodeEntry hmembers)
  decode_sorted v := by
    cases v with
    | table members =>
      rw [Value.sorted]
      dsimp only
      rw [Table.sort_sort, ← Value.sortedMembers_sort, c.mapM_decodeEntry_sorted]
    | _ => rfl

/-- A codec with another account of what comes back. -/
def withCanon (c : Codec α) (canon : α → α) (hcanon : ∀ a, c.canon a = canon a) : Codec α :=
  c.map id id canon hcanon

/-- A list of values that come back as they are. -/
def listOf (c : Codec α) (hc : ∀ a, c.canon a = a) : Codec (List α) :=
  c.list.withCanon id fun as => (List.map_congr_left fun a _ => hc a).trans (List.map_id as)

/-- A table of values that come back as they are. -/
def tableOf (c : Codec α) (hc : ∀ a, c.canon a = a) : Codec (List (String × α)) :=
  c.table.withCanon Table.sort fun entries =>
    congrArg Table.sort ((List.map_congr_left fun m _ => by rw [hc]; rfl).trans
      (List.map_id entries))

end Codec

/-- A writer and a reader of some of the members of a table. Reading looks at the members of
these names only, writing writes no others. -/
structure Fields (α : Type) where
  names : List String
  encode : α → Except EncodeError (List (String × Value))
  decode : List (String × Value) → Except DecodeError α
  canon : α → α
  encode_names : ∀ {a members}, encode a = .ok members →
    ∀ key, key ∉ names → Table.get key members = none
  decode_congr : ∀ {members members'},
    (∀ key ∈ names, Table.get key members = Table.get key members') →
      decode members = decode members'
  decode_encode : ∀ {a members}, encode a = .ok members → decode members = .ok (canon a)
  decode_sorted : ∀ members, decode (Value.sortedMembers members) = decode members

namespace Fields

theorem get_sortedMembers (key : String) (members : List (String × Value)) :
    Table.get key (Value.sortedMembers members) = (Table.get key members).map Value.sorted := by
  rw [Value.sortedMembers_eq_map, Table.get_map]

/-- A field that is written. -/
def encodeField (name : String) (c : Codec α) (a : α) :
    Except EncodeError (List (String × Value)) :=
  (c.encode a).map fun v => [(name, v)]

theorem encodeField_ok {c : Codec α} (h : encodeField name c a = .ok members) :
    ∃ v, c.decode v = .ok (c.canon a) ∧ members = [(name, v)] := by
  rw [encodeField] at h
  cases hv : c.encode a with
  | error e =>
    rw [hv] at h
    cases h
  | ok v =>
    rw [hv] at h
    cases h
    exact ⟨v, c.decode_encode hv, rfl⟩

theorem get_encodeField {c : Codec α} (h : encodeField name c a = .ok members)
    (key : String) (hkey : key ∉ [name]) : Table.get key members = none := by
  obtain ⟨v, -, rfl⟩ := encodeField_ok h
  exact Table.get_cons_of_ne (fun he => hkey (List.mem_singleton.mpr he.symm)) v []

/-- A field that has to be there. -/
def required (name : String) (c : Codec α) : Fields α where
  names := [name]
  encode := encodeField name c
  decode members :=
    match Table.get name members with
    | none => .error (.missingField name)
    | some v => c.decode v
  canon := c.canon
  encode_names := get_encodeField
  decode_congr h := by rw [h name (List.mem_singleton_self _)]
  decode_encode h := by
    obtain ⟨v, hv, rfl⟩ := encodeField_ok h
    rw [Table.get_cons_self]
    exact hv
  decode_sorted members := by
    rw [get_sortedMembers]
    cases Table.get name members with
    | none => rfl
    | some v => exact c.decode_sorted v

/-- A field that is written when there is a value, and read as none when it is missing. -/
def optional (name : String) (c : Codec α) (hc : ∀ a, c.canon a = a) : Fields (Option α) where
  names := [name]
  encode
    | none => .ok []
    | some a => encodeField name c a
  decode members :=
    match Table.get name members with
    | none => .ok none
    | some v => (c.decode v).map some
  canon := id
  encode_names {o members} h key hkey := by
    cases o with
    | none =>
      cases h
      rfl
    | some a => exact get_encodeField h key hkey
  decode_congr h := by rw [h name (List.mem_singleton_self _)]
  decode_encode {o members} h := by
    cases o with
    | none =>
      cases h
      rfl
    | some a =>
      obtain ⟨v, hv, rfl⟩ := encodeField_ok h
      rw [Table.get_cons_self]
      dsimp only
      rw [hv, hc]
      rfl
  decode_sorted members := by
    rw [get_sortedMembers]
    cases Table.get name members with
    | none => rfl
    | some v =>
      rw [Option.map_some]
      dsimp only
      rw [c.decode_sorted]

/-- A field that is always written, and has a default when it is missing. -/
def withDefault (name : String) (c : Codec α) (default : α) : Fields α where
  names := [name]
  encode := encodeField name c
  decode members :=
    match Table.get name members with
    | none => .ok default
    | some v => c.decode v
  canon := c.canon
  encode_names := get_encodeField
  decode_congr h := by rw [h name (List.mem_singleton_self _)]
  decode_encode h := by
    obtain ⟨v, hv, rfl⟩ := encodeField_ok h
    rw [Table.get_cons_self]
    exact hv
  decode_sorted members := by
    rw [get_sortedMembers]
    cases Table.get name members with
    | none => rfl
    | some v => exact c.decode_sorted v

/-- Fields side by side: no two of them share a name. -/
def and (f : Fields α) (g : Fields β) (hdisjoint : ∀ key ∈ f.names, key ∉ g.names) :
    Fields (α × β) where
  names := f.names ++ g.names
  encode p := do
    let a ← f.encode p.1
    let b ← g.encode p.2
    pure (a ++ b)
  decode members := do
    let a ← f.decode members
    let b ← g.decode members
    pure (a, b)
  canon p := (f.canon p.1, g.canon p.2)
  encode_names {p members} h key hkey := by
    simp only [bind_eq_ok] at h
    obtain ⟨a, ha, b, hb, hmembers⟩ := h
    cases hmembers
    obtain ⟨hf, hg⟩ := not_or.mp fun h => hkey (List.mem_append.mpr h)
    rw [Table.get_append, f.encode_names ha key hf, g.encode_names hb key hg]
    rfl
  decode_congr h := by
    rw [f.decode_congr fun key hkey => h key (List.mem_append_left _ hkey),
      g.decode_congr fun key hkey => h key (List.mem_append_right _ hkey)]
  decode_encode {p members} h := by
    simp only [bind_eq_ok] at h
    obtain ⟨a, ha, b, hb, hmembers⟩ := h
    cases hmembers
    have hf : f.decode (a ++ b) = f.decode a := by
      apply f.decode_congr
      intro key hkey
      rw [Table.get_append, g.encode_names hb key (hdisjoint key hkey), Option.or_none]
    have hg : g.decode (a ++ b) = g.decode b := by
      apply g.decode_congr
      intro key hkey
      rw [Table.get_append, f.encode_names ha key fun h => hdisjoint key h hkey, Option.none_or]
    rw [hf, hg, f.decode_encode ha, g.decode_encode hb]
    rfl
  decode_sorted members := by rw [f.decode_sorted, g.decode_sorted]

/-- Fields of one record read as another. -/
def map (fields : Fields α) (f : α → β) (g : β → α) (canon : β → β)
    (hcanon : ∀ b, f (fields.canon (g b)) = canon b) : Fields β where
  names := fields.names
  encode b := fields.encode (g b)
  decode members := (fields.decode members).map f
  canon := canon
  encode_names h := fields.encode_names h
  decode_congr h := by rw [fields.decode_congr h]
  decode_encode {b members} h := by rw [fields.decode_encode h, ← hcanon b]; rfl
  decode_sorted members := by rw [fields.decode_sorted]

theorem withDefault_decode {c : Codec α} :
    (withDefault name c d).decode members = .ok a ↔
      Table.get name members = none ∧ d = a ∨
        ∃ v, Table.get name members = some v ∧ c.decode v = .ok a := by
  have hdef : (withDefault name c d).decode members =
      match Table.get name members with
      | none => .ok d
      | some v => c.decode v := rfl
  rw [hdef]
  cases Table.get name members with
  | none => simp only [Except.ok.injEq, true_and, reduceCtorEq, false_and, exists_false, or_false]
  | some v => simp only [reduceCtorEq, false_and, false_or, Option.some.injEq, exists_eq_left']

theorem and_decode {f : Fields α} {g : Fields β} {hdisjoint : ∀ key ∈ f.names, key ∉ g.names} :
    (f.and g hdisjoint).decode members = .ok p ↔
      f.decode members = .ok p.1 ∧ g.decode members = .ok p.2 := by
  simp only [and, bind_eq_ok]
  constructor
  · rintro ⟨a, ha, b, hb, hp⟩
    cases hp
    exact ⟨ha, hb⟩
  · intro h
    exact ⟨p.1, h.1, p.2, h.2, rfl⟩

theorem map_decode {fields : Fields α} {f : α → β} {g : β → α} {back : β → β}
    {hback : ∀ b, f (fields.canon (g b)) = back b} :
    (fields.map f g back hback).decode members = .ok b ↔
      ∃ a, fields.decode members = .ok a ∧ f a = b := by
  have hdef : (fields.map f g back hback).decode members = (fields.decode members).map f := rfl
  rw [hdef]
  cases fields.decode members with
  | error e => exact iff_of_false nofun fun ⟨_, h, _⟩ => nomatch h
  | ok a => simp only [Except.map, Except.ok.injEq, exists_eq_left']

/-- A table with these fields and any others, which are ignored. -/
def toCodec (fields : Fields α) : Codec α where
  encode a := (fields.encode a).map .table
  decode
    | .table members => fields.decode members
    | _ => .error (.invalidType "table")
  canon := fields.canon
  decode_encode {a v} h := by
    cases hmembers : fields.encode a with
    | error e =>
      rw [hmembers] at h
      cases h
    | ok members =>
      rw [hmembers] at h
      cases h
      exact fields.decode_encode hmembers
  decode_sorted v := by
    cases v with
    | table members =>
      rw [Value.sorted]
      dsimp only
      rw [fields.decode_congr fun key _ => Table.get_sort key _, fields.decode_sorted]
    | _ => rfl

theorem toCodec_decode {fields : Fields α} :
    fields.toCodec.decode v = .ok a ↔ ∃ members, v = .table members ∧
      fields.decode members = .ok a := by
  cases v with
  | table members => exact ⟨fun h => ⟨members, rfl, h⟩, fun ⟨_, rfl, h⟩ => h⟩
  | _ => exact iff_of_false nofun fun ⟨_, h, _⟩ => nomatch h

end Fields

end Toml
