import WarehouseImport.Json.Value

/-!
# Errors of the warehouse service

A call to the service is refused with one of a few kinds of error, a message, and possibly a list
of details. The message is often a document of its own; `Failure.decodedMessage` reads it.
-/

namespace WarehouseImport

/-- Why the service refused a call. -/
inductive ApiErrorKind where
  | badRequest
  | forbidden
  | notFound
  | conflict
  | tooManyRequests
  | internal
  | unavailable
  deriving DecidableEq, Repr

/-- The status number of a kind of error. -/
def ApiErrorKind.status : ApiErrorKind → Nat
  | .badRequest => 400
  | .forbidden => 403
  | .notFound => 404
  | .conflict => 409
  | .tooManyRequests => 429
  | .internal => 500
  | .unavailable => 503

/-- An error answered by the service. -/
structure ApiError where
  kind : ApiErrorKind
  message : String
  details : List Json
  deriving Repr

/-- The error as shown in a log: the status number in front of the message. -/
def ApiError.shown (e : ApiError) : String := toString e.kind.status ++ " " ++ e.message

end WarehouseImport
