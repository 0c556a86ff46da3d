import TokenDealer.Table

set_option autoImplicit true

namespace Toml

inductive Value where
  | string (s : String)
  | integer (n : Int)
  | float (bits : UInt64)
  | boolean (b : Bool)
  | datetime (text : String)
  | array (items : List Value)
  | table (members : List (String × Value))
  deriving Repr, Inhabited

/-- A document is a table. -/
abbrev Document := List (String × Value)

namespace Value

def asStr : Value → Option String
  | .string s => some s
  | _ => none

def asBool : Value → Option Bool
  | .boolean b => some b
  | _ => none

def asArray : Value → Option (List Value)
  | .array items => some items
  | _ => none

def asTable : Value → Option (List (String × Value))
  | .table members => some members
  | _ => none

def get (v : Value) (key : String) : Option Value := v.asTable.bind (Table.get key)

mutual

/-- A value with the members of all its tables in the order of their keys. -/
def sorted : Value → Value
  | .array items => .array (sortedItems items)
  | .table members => .table (Table.sort (sortedMembers members))
  | v => v

def sortedItems : List Value → List Value
  | [] => []
  | v :: rest => v.sorted :: sortedItems rest

def sortedMembers : List (String × Value) → List (String × Value)
  | [] => []
  | (key, v) :: rest => (key, v.sorted) :: sortedMembers rest

end

theorem sortedItems_eq_map (items : List Value) : sortedItems items = items.map sorted := by
  induction items with
  | nil => rfl
  | cons v rest ih => rw [sortedItems, ih, List.map_cons]

theorem sortedMembers_eq_map (members : List (String × Value)) :
    sortedMembers members = members.map fun m => (m.1, m.2.sorted) := by
  induction members with
  | nil => rfl
  | cons m rest ih =>
    obtain ⟨key, v⟩ := m
    rw [sortedMembers, ih, List.map_cons]

theorem sortedMembers_sort (members : List (String × Value)) :
    sortedMembers (Table.sort members) = Table.sort (sortedMembers members) := by
  rw [sortedMembers_eq_map, sortedMembers_eq_map]
  exact Table.map_sort sorted members

mutual

theorem sorted_sorted : (v : Value) → v.sorted.sorted = v.sorted
  | .string _ => rfl
  | .integer _ => rfl
  | .float _ => rfl
  | .boolean _ => rfl
  | .datetime _ => rfl
  | .array items => by rw [sorted, sorted, sortedItems_sortedItems items]
  | .table members => by
    rw [sorted, sorted, sortedMembers_sort, sortedMembers_sortedMembers members, Table.sort_sort]

theorem sortedItems_sortedItems : (items : List Value) →
    sortedItems (sortedItems items) = sortedItems items
  | [] => rfl
  | v :: rest => by
    rw [sortedItems, sortedItems, sorted_sorted v, sortedItems_sortedItems rest]

theorem sortedMembers_sortedMembers : (members : List (String × Value)) →
    sortedMembers (sortedMembers members) = sortedMembers members
  | [] => rfl
  | (key, v) :: rest => by
    rw [sortedMembers, sortedMembers, sorted_sorted v, sortedMembers_sortedMembers rest]

end

theorem get_sorted (v : Value) (key : String) : v.sorted.get key = (v.get key).map sorted := by
  cases v with
  | table members =>
    rw [sorted, get, get, asTable, asTable, Option.bind_some, Option.bind_some, Table.get_sort,
      sortedMembers_eq_map, Table.get_map]
  | _ => rfl

end Value

/-- The document in the order in which a parser hands it over. -/
def Document.sorted (doc : Document) : Document := Table.sort (Value.sortedMembers doc)

theorem Document.get_sorted (key : String) (doc : Document) :
    Table.get key doc.sorted = (Table.get key doc).map Value.sorted := by
  rw [Document.sorted, Table.get_sort, Value.sortedMembers_eq_map, Table.get_map]

theorem Document.sorted_sorted (doc : Document) : doc.sorted.sorted = doc.sorted := by
  rw [Document.sorted, Document.sorted, Value.sortedMembers_sort,
    Value.sortedMembers_sortedMembers, Table.sort_sort]

inductive DecodeError where
  | missingField (name : String)
  | invalidType (name : String)
  | unknownSyntax (message : String)
  deriving DecidableEq, Repr

/-- A sequence of decoding steps succeeds when each of them does. -/
theorem bind_eq_ok {x : Except ε α} {f : α → Except ε β} :
    (x >>= f) = .ok b ↔ ∃ a, x = .ok a ∧ f a = .ok b := by
  cases x with
  | error e => exact iff_of_false nofun fun ⟨_, h, _⟩ => nomatch h
  | ok a => simp only [Except.ok.injEq, exists_eq_left']; rfl

/-- A field that has to be there. -/
def required (members : List (String × Value)) (name : String) (read : Value → Option α) :
    Except DecodeError α :=
  match Table.get name members with
  | none => .error (.missingField name)
  | some v =>
    match read v with
    | some a => .ok a
    | none => .error (.invalidType name)

def optional (members : List (String × Value)) (name : String) (read : Value → Option α) :
    Except DecodeError (Option α) :=
  match Table.get name members with
  | none => .ok none
  | some v =>
    match read v with
    | some a => .ok (some a)
    | none => .error (.invalidType name)

theorem required_eq_ok {members : List (String × Value)} {read : Value → Option α} :
    required members name read = .ok a ↔
      ∃ v, Table.get name members = some v ∧ read v = some a := by
  rw [required]
  cases Table.get name members with
  | none => simp only [reduceCtorEq, false_and, exists_false]
  | some v =>
    cases hr : read v with
    | none => simp only [hr, Option.some.injEq, exists_eq_left', reduceCtorEq]
    | some b => simp only [hr, Except.ok.injEq, Option.some.injEq, exists_eq_left']

/-- Decoding reads a table through its lookups alone. -/
theorem required_congr {members members' : List (String × Value)}
    (h : Table.get name members' = Table.get name members) (read : Value → Option α) :
    required members' name read = required members name read := by
  rw [required, required, h]

theorem optional_congr {members members' : List (String × Value)}
    (h : Table.get name members' = Table.get name members) (read : Value → Option α) :
    optional members' name read = optional members name read := by
  rw [optional, optional, h]

/-- An optional field that is read is the one that is there. -/
theorem bind_get_of_optional {members : List (String × Value)} {read : Value → Option α}
    (h : optional members name read = .ok found) : (Table.get name members).bind read = found := by
  rw [optional] at h
  cases hget : Table.get name members with
  | none =>
    rw [hget] at h
    cases h
    rfl
  | some v =>
    rw [hget] at h
    dsimp only at h
    rw [Option.bind_some]
    split at h
    · next hread =>
      cases h
      exact hread
    · cases h

/-- The printer and the parser of the TOML library, as a program sees them. -/
structure Text where
  print : Document → String
  parse : String → Except DecodeError Document

/-- A document that is printed and parsed comes back, with its tables in order. -/
def Text.RoundTrips (toml : Text) (doc : Document) : Prop :=
  toml.parse (toml.print doc) = .ok doc.sorted

end Toml
