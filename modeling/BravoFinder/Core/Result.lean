import BravoFinder.Core.Domain

namespace BravoFinder

/-!
# Errors
-/

inductive ErrorCode where
  | kUnknown
  | kInvalidArgument
  | kDataMissing
  | kParseError
  | kSerializationError
  | kAirportNotFound
  | kNoRoute
  | kRouteParseError
  | kProcedureNotFound
  | kCacheCorrupt
  | kFormatMismatch
deriving DecidableEq, Repr

/-- An error: its category, and a message for a reader. -/
structure Error where
  code : ErrorCode
  message : Text
deriving DecidableEq

/-- A number in a message. -/
def decimal (value : Nat) : Text :=
  ofString (toString value)

/-- `std::to_string` of an `int`. -/
def toStringInt (value : Int) : Text :=
  if value < 0 then ofString "-" ++ decimal value.natAbs else decimal value.natAbs

end BravoFinder
