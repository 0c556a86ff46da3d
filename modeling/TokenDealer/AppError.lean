set_option autoImplicit true

namespace TokenDealer

inductive AppError where
  | badRequest (message : String)
  | unauthorized (message : String)
  | notFound (message : String)
  | providerError (provider : String) (status : Nat) (message : String)
  | contextTooLong (model : String) (limit : Nat)
  | allProvidersFailed (tier : String)
  | upstreamTimeout (ms : Nat)
  | internal (message : String)
  deriving DecidableEq, Repr

abbrev AppResult (α : Type) := Except AppError α

/-- What arrives of an input before it fails. -/
def received : List (AppResult α) → List α
  | .ok a :: rest => a :: received rest
  | _ => []

/-- The error that an input ends with, if it does not end by itself. -/
def failure : List (AppResult α) → Option AppError
  | [] => none
  | .error e :: _ => some e
  | .ok _ :: rest => failure rest

theorem received_ok (xs : List α) : received (xs.map .ok) = xs := by
  induction xs with
  | nil => rfl
  | cons x xs ih => exact congrArg (x :: ·) ih

theorem received_append (xs : List α) (rest : List (AppResult α)) :
    received (xs.map .ok ++ rest) = xs ++ received rest := by
  induction xs with
  | nil => rfl
  | cons x xs ih => exact congrArg (x :: ·) ih

theorem failure_ok (xs : List α) : failure (xs.map .ok) = none := by
  induction xs with
  | nil => rfl
  | cons x xs ih => exact ih

end TokenDealer
