import TokenDealer.Str

set_option autoImplicit true

namespace Str

/-- What stands before and behind the first occurrence of a separator. -/
def cutAtList [DecidableEq α] (sep : List α) : List α → Option (List α × List α)
  | [] => if sep = [] then some ([], []) else none
  | x :: xs =>
    match dropFront sep (x :: xs) with
    | some rest => some ([], rest)
    | none => (cutAtList sep xs).map fun p => (x :: p.1, p.2)

/-- The last occurrence is the first one from behind. -/
def rsplitOnce (sep s : String) : Option (String × String) :=
  (cutAtList sep.toList.reverse s.toList.reverse).map fun p =>
    (String.ofList p.2.reverse, String.ofList p.1.reverse)

def endsWith (s back : String) : Bool := (dropFront back.toList.reverse s.toList.reverse).isSome

/-- Takes the text away from the front as often as it stands there, up to some number of times. -/
def dropFronts [DecidableEq α] (front : List α) : Nat → List α → List α
  | 0, xs => xs
  | n + 1, xs =>
    match dropFront front xs with
    | some rest => dropFronts front n rest
    | none => xs

def trimEndMatches (back s : String) : String :=
  String.ofList (dropFronts back.toList.reverse s.toList.length s.toList.reverse).reverse

/-- The number counts the characters of an occurrence that are still to be skipped. -/
def replaceList [DecidableEq α] (needle by' : List α) : Nat → List α → List α
  | _, [] => []
  | n + 1, _ :: xs => replaceList needle by' n xs
  | 0, x :: xs =>
    if (dropFront needle (x :: xs)).isSome then
      by' ++ replaceList needle by' (needle.length - 1) xs
    else x :: replaceList needle by' 0 xs

def replace (s needle by' : String) : String :=
  String.ofList (replaceList needle.toList by'.toList 0 s.toList)

example : replace "a-b-c" "-" "--" = "a--b--c" ∧ trimEndMatches "/" "x//" = "x" ∧
    rsplitOnce "#" "a#b#c" = some ("a#b", "c") := by decide

end Str
