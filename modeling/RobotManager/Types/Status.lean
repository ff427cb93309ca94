import Mathlib.Tactic.TypeStar

/-!
# Error codes and results

`Status` and `StatusOr` of `types/status.h`.  A `StatusOr` holds a value or the
status explaining why there is none, so it is `Except Status`.
-/

namespace RobotManager

inductive StatusCode where
  | ok
  | invalidArgument
  | failedPrecondition
  | permissionDenied
  | notFound
  | alreadyExists
  | resourceExhausted
  | unavailable
  | deadlineExceeded
  | controllerFault
  | internal
deriving DecidableEq, Repr

structure Status where
  code : StatusCode
  message : String
  vendorCode : Int := 0
deriving DecidableEq, Repr

namespace Status

/-- The static function `Status::Ok`. -/
def Ok : Status := { code := .ok, message := "" }

/-- The predicate `Status::ok`. -/
def ok (status : Status) : Bool := status.code == .ok

@[simp]
theorem ok_Ok : Ok.ok = true := rfl

@[simp]
theorem ok_mk (code : StatusCode) (message : String) (vendorCode : Int) :
    (Status.mk code message vendorCode).ok = (code == .ok) := rfl

end Status

abbrev StatusOr (Value : Type*) := Except Status Value

end RobotManager
