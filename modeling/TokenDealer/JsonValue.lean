import Mathlib.Data.List.Forall2
import Mathlib.Data.Option.Defs
import TokenDealer.Table

set_option autoImplicit true

namespace Json

/-- A number as a JSON library holds it: an unsigned or negative 64-bit integer, or the bits
of a finite double. -/
inductive Number where
  | posInt (n : UInt64)
  | negInt (n : Int64)
  | float (bits : UInt64)
  deriving DecidableEq, Repr

inductive Value where
  | null
  | bool (b : Bool)
  | number (n : Number)
  | string (s : String)
  | array (items : List Value)
  | object (members : List (String × Value))
  deriving Repr, Inhabited

/-- The bits of the double equal to a finite single-precision number. -/
def widenFloat32 (bits : UInt32) : Option UInt64 :=
  let sign := bits.toNat >>> 31 <<< 63
  let exponent := bits.toNat >>> 23 % 256
  let mantissa := bits.toNat % 8388608
  if exponent = 255 then none
  else if exponent ≠ 0 then
    some (UInt64.ofNat (sign + (exponent + 896) <<< 52 + mantissa <<< 29))
  else if mantissa = 0 then some (UInt64.ofNat sign)
  else
    -- a subnormal single is a normal double: its leading bit becomes the implicit one
    let top := Nat.log2 mantissa
    some (UInt64.ofNat (sign + (top + 874) <<< 52 + (mantissa - 1 <<< top) <<< (52 - top)))

def Value.ofU32 (n : UInt32) : Value := .number (.posInt n.toUInt64)

def Value.ofI64 (n : Int64) : Value :=
  .number (if n < 0 then .negInt n else .posInt n.toUInt64)

def Value.ofI8 (n : Int8) : Value := .ofI64 n.toInt64

/-- Infinities and NaN have no JSON number and become null. -/
def Value.ofF32 (bits : UInt32) : Value :=
  match widenFloat32 bits with
  | some double => .number (.float double)
  | none => .null

def Value.ofOption (f : α → Value) : Option α → Value
  | none => .null
  | some a => f a

namespace Value

def get : Value → String → Option Value
  | .object members, key => Table.get key members
  | _, _ => none

/-- Assigning to a member, which overwrites the value a repeated key already has. -/
def set : Value → String → Value → Value
  | .object members, key, value => .object (Table.set key value members)
  | v, _, _ => v

def asStr : Value → Option String
  | .string s => some s
  | _ => none

def asBool : Value → Option Bool
  | .bool b => some b
  | _ => none

def asU64 : Value → Option UInt64
  | .number (.posInt n) => some n
  | _ => none

/-- A text member. -/
def getStr (v : Value) (key : String) : Option String := (v.get key).bind asStr

/-- A count that is not there is zero, and one beyond 32 bits is cut off. -/
def getCount (v : Value) (key : String) : UInt32 := (((v.get key).bind asU64).getD 0).toUInt32

def asArray : Value → Option (List Value)
  | .array items => some items
  | _ => none

def asObject : Value → Option (List (String × Value))
  | .object members => some members
  | _ => none

@[simp] theorem get_object (members : List (String × Value)) (key : String) :
    (Value.object members).get key = Table.get key members := rfl

@[simp] theorem asObject_object (members : List (String × Value)) :
    (Value.object members).asObject = some members := rfl

@[simp] theorem asU64_ofU32 (n : UInt32) : (Value.ofU32 n).asU64 = some n.toUInt64 := rfl

/-- Two values that no lookup tells apart: the members of an object may stand in another order. -/
inductive Agrees : Value → Value → Prop
  | refl (v : Value) : Agrees v v
  | array (h : List.Forall₂ Agrees items items') : Agrees (.array items) (.array items')
  | object (h : ∀ key, Option.Rel Agrees (Table.get key members) (Table.get key members')) :
    Agrees (.object members) (.object members')

namespace Agrees

theorem rel_refl (o : Option Value) : Option.Rel Agrees o o := by
  cases o with
  | none => exact .none
  | some v => exact .some (.refl v)

theorem get (h : Agrees v w) (key : String) : Option.Rel Agrees (v.get key) (w.get key) := by
  cases h with
  | refl => exact rel_refl _
  | array h => exact .none
  | object h => exact h key

theorem asStr (h : Agrees v w) : v.asStr = w.asStr := by
  cases h <;> rfl

theorem asU64 (h : Agrees v w) : v.asU64 = w.asU64 := by
  cases h <;> rfl

theorem bind_eq {o o' : Option Value} (h : Option.Rel Agrees o o') {f g : Value → Option α}
    (hf : ∀ {v w}, Agrees v w → f v = g w) : o.bind f = o'.bind g := by
  cases h with
  | none => rfl
  | some h => exact hf h

theorem map_eq {o o' : Option Value} (h : Option.Rel Agrees o o') {f : Value → α}
    (hf : ∀ {v w}, Agrees v w → f v = f w) : o.map f = o'.map f := by
  cases h with
  | none => rfl
  | some h => exact congrArg some (hf h)

theorem getStr (h : Agrees v w) (key : String) : v.getStr key = w.getStr key :=
  bind_eq (h.get key) asStr

theorem getCount (h : Agrees v w) (key : String) : v.getCount key = w.getCount key := by
  rw [Value.getCount, Value.getCount, bind_eq (h.get key) asU64]

/-- The first of the values in an array. -/
theorem head? {o o' : Option Value} (h : Option.Rel Agrees o o') :
    Option.Rel Agrees ((o.bind Value.asArray).bind List.head?)
      ((o'.bind Value.asArray).bind List.head?) := by
  cases h with
  | none => exact .none
  | some h =>
    cases h with
    | refl => exact rel_refl _
    | array h =>
      cases h with
      | nil => exact .none
      | cons h _ => exact .some h
    | object h => exact .none

end Agrees

mutual

/-- The members of all objects in the order of their keys, as a library hands them over that keeps
no order of its own. -/
def sorted : Value → Value
  | .array items => .array (sortedItems items)
  | .object members => .object (Table.sort (sortedMembers members))
  | v => v

def sortedItems : List Value → List Value
  | [] => []
  | v :: rest => v.sorted :: sortedItems rest

def sortedMembers : List (String × Value) → List (String × Value)
  | [] => []
  | (key, v) :: rest => (key, v.sorted) :: sortedMembers rest

end

mutual

theorem agrees_sorted : (v : Value) → Agrees v.sorted v
  | .null => .refl _
  | .bool _ => .refl _
  | .number _ => .refl _
  | .string _ => .refl _
  | .array items => by
    rw [sorted]
    exact .array (agrees_sortedItems items)
  | .object members => by
    rw [sorted]
    apply Agrees.object
    intro key
    rw [Table.get_sort]
    exact agrees_sortedMembers key members

theorem agrees_sortedItems : (items : List Value) → List.Forall₂ Agrees (sortedItems items) items
  | [] => .nil
  | v :: rest => .cons (agrees_sorted v) (agrees_sortedItems rest)

theorem agrees_sortedMembers (key : String) : (members : List (String × Value)) →
    Option.Rel Agrees (Table.get key (sortedMembers members)) (Table.get key members)
  | [] => .none
  | (k, v) :: rest => by
    rw [sortedMembers, Table.get, Table.get]
    split
    · exact .some (agrees_sorted v)
    · exact agrees_sortedMembers key rest

end

end Value

/-- The printer and the parser of a JSON library, as a program sees them. -/
structure Text where
  print : Value → String
  parse : String → Option Value

/-- What is printed of a value is read as one that no lookup tells from it. -/
def Text.ReadsBack (text : Text) (v : Value) : Prop :=
  ∃ w, text.parse (text.print v) = some w ∧ w.Agrees v

/-- A library that reads some sources and no others. -/
def Text.knowing (print : Value → String) (known : List (String × Value)) : Text where
  print := print
  parse s := Table.get s known

def sampleSource : String := "\x7b\"content\":\"hi\"\x7d"

def sampleObject : Value := .object [("content", .string "hi")]

/-- A library that knows one object. -/
def sampleText : Text where
  print _ := sampleSource
  parse s := if s = sampleSource then some sampleObject else none

theorem parse_sampleSource : sampleText.parse sampleSource = some sampleObject := by
  simp only [sampleText, if_true]

theorem parse_sampleText (h : sampleText.parse s = some v) : v = sampleObject := by
  by_cases hs : s = sampleSource
  · rw [hs, parse_sampleSource] at h
    exact (Option.some.inj h).symm
  · have hnone : sampleText.parse s = none := if_neg hs
    rw [hnone] at h
    cases h

end Json
