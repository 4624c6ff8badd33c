/-!
# Errors of the gateway and of its database

`AppError` is what every operation answers. A failed SQL statement is an error
of the database layer, and becomes an `AppError` by one conversion.
-/

namespace AsystantGateway

/-- The errors a caller of the gateway can see. -/
inductive AppError
  | authentication
  | invalid
  | inputLimit (estimated : Nat) (limit : UInt32)
  | budget
  | conflict
  | limited
  | provider
  | internal
  deriving DecidableEq, Repr

/-- The ways one SQL statement can fail on a working connection. -/
inductive DieselError
  /-- A primary key is already taken. -/
  | uniqueViolation
  /-- A column breaks its CHECK constraint. -/
  | checkViolation
  /-- A row that was asked for does not exist. -/
  | notFound
  deriving DecidableEq, Repr

/-- Only a taken key is reported as a conflict. -/
def AppError.ofDiesel : DieselError → AppError
  | .uniqueViolation => .conflict
  | .checkViolation => .internal
  | .notFound => .internal

end AsystantGateway
