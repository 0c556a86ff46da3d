set_option autoImplicit true

/-- An address with a port: four octets, or eight groups and a scope. -/
inductive SocketAddr where
  | v4 (octets : List Nat) (port : Nat)
  | v6 (groups : List Nat) (scopeId port : Nat)
  deriving DecidableEq, Repr

namespace SocketAddr

/-- A reader that fails takes nothing. -/
abbrev Reader (α : Type) := List Char → Option (α × List Char)

def digit (radix : Nat) (c : Char) : Option Nat :=
  let n := c.toNat
  let value :=
    if 48 ≤ n ∧ n ≤ 57 then n - 48
    else if 65 ≤ n ∧ n ≤ 90 then n - 55
    else if 97 ≤ n ∧ n ≤ 122 then n - 87
    else radix
  if value < radix then some value else none

/-- All the digits at the front, and what stands behind them. -/
def readDigits (radix : Nat) : List Char → List Nat × List Char
  | [] => ([], [])
  | c :: cs =>
    match digit radix c with
    | none => ([], c :: cs)
    | some d =>
      let (digits, rest) := readDigits radix cs
      (d :: digits, rest)

def readNumber (radix : Nat) (maxDigits : Option Nat) (allowZeroPrefix : Bool) (bound : Nat) :
    Reader Nat := fun cs =>
  let (digits, rest) := readDigits radix cs
  let value := digits.foldl (fun n d => n * radix + d) 0
  if digits.isEmpty || maxDigits.any (fun most => most < digits.length) then none
  else if !allowZeroPrefix && digits.head? == some 0 && 1 < digits.length then none
  else if value < bound then some (value, rest)
  else none

def readGivenChar (target : Char) : Reader Unit
  | [] => none
  | c :: cs => if c = target then some ((), cs) else none

/-- All but the first of several parts have a separator in front. -/
def readSeparator (sep : Char) (index : Nat) (inner : Reader α) : Reader α := fun cs =>
  if index = 0 then inner cs
  else do
    let (_, rest) ← readGivenChar sep cs
    inner rest

def readOctets : Nat → Nat → Reader (List Nat)
  | _, 0, cs => some ([], cs)
  | index, left + 1, cs => do
    let (octet, rest) ← readSeparator '.' index (readNumber 10 (some 3) false 256) cs
    let (octets, rest) ← readOctets (index + 1) left rest
    some (octet :: octets, rest)

def readIpv4Addr : Reader (List Nat) := readOctets 0 4

/-- Two groups out of four octets. -/
def groupsOfOctets : List Nat → List Nat
  | a :: b :: rest => (a * 256 + b) :: groupsOfOctets rest
  | _ => []

/-- As many groups as there are, up to a number of them. Where two are left, an IPv4 address may
stand for them, which ends the groups. -/
def readGroups : Nat → Nat → List Char → (List Nat × Bool) × List Char
  | _, 0, cs => (([], false), cs)
  | index, left + 1, cs =>
    match if 0 < left then readSeparator ':' index readIpv4Addr cs else none with
    | some (octets, rest) => ((groupsOfOctets octets, true), rest)
    | none =>
      match readSeparator ':' index (readNumber 16 (some 4) true 65536) cs with
      | none => (([], false), cs)
      | some (group, rest) =>
        let ((groups, ipv4), rest) := readGroups (index + 1) left rest
        ((group :: groups, ipv4), rest)

def readIpv6Addr : Reader (List Nat) := fun cs =>
  let ((head, headIpv4), rest) := readGroups 0 8 cs
  if head.length = 8 then some (head, rest)
  else if headIpv4 then none
  else do
    let (_, rest) ← readGivenChar ':' rest
    let (_, rest) ← readGivenChar ':' rest
    let ((tail, _), rest) := readGroups 0 (7 - head.length) rest
    some (head ++ List.replicate (8 - head.length - tail.length) 0 ++ tail, rest)

def readPort : Reader Nat := fun cs => do
  let (_, rest) ← readGivenChar ':' cs
  readNumber 10 none true 65536 rest

def readScopeId : Reader Nat := fun cs => do
  let (_, rest) ← readGivenChar '%' cs
  readNumber 10 none true 4294967296 rest

def readSocketAddrV4 : Reader SocketAddr := fun cs => do
  let (octets, rest) ← readIpv4Addr cs
  let (port, rest) ← readPort rest
  some (.v4 octets port, rest)

def readSocketAddrV6 : Reader SocketAddr := fun cs => do
  let (_, rest) ← readGivenChar '[' cs
  let (groups, rest) ← readIpv6Addr rest
  let (scopeId, rest) := (readScopeId rest).getD (0, rest)
  let (_, rest) ← readGivenChar ']' rest
  let (port, rest) ← readPort rest
  some (.v6 groups scopeId port, rest)

/-- An address is the whole text. -/
def parse (s : String) : Option SocketAddr :=
  match (readSocketAddrV4 s.toList).or (readSocketAddrV6 s.toList) with
  | some (addr, []) => some addr
  | _ => none

example : parse "0.0.0.0:8080" = some (.v4 [0, 0, 0, 0] 8080) ∧ parse "01.0.0.0:80" = none ∧
    parse "localhost:8080" = none ∧ parse "[::1%7]:080" = some (.v6 [0, 0, 0, 0, 0, 0, 0, 1] 7 80) ∧
    parse "[1:2::5.6.7.8]:9" = some (.v6 [1, 2, 0, 0, 0, 0, 1286, 1800] 0 9) := by decide

end SocketAddr
