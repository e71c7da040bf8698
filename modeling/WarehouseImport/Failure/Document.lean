import WarehouseImport.Failure.Basic
import WarehouseImport.Json.Lenient

/-!
# Parts of failures as documents
-/

namespace WarehouseImport

/-- The document of everything that does not fit, with its sentences. -/
def MismatchReport.document (report : MismatchReport) : Json := .obj [
  ("missing_in_source", Json.ofTexts report.missingInSource),
  ("missing_in_destination", Json.ofTexts report.missingInDestination),
  ("mismatches", .arr (report.mismatches.map fun m =>
    Json.ofTexts [m.column, m.expected, m.actual])),
  ("messages", Json.ofTexts report.messages)]

/-- The parts of an overflow in order; all null if there are none. -/
def Overflow.documents : Option Overflow → Json
  | some overflow => .arr [.str overflow.field, .str overflow.type, Json.ofNat overflow.limit,
      Json.ofNat overflow.length]
  | none => .arr [.null, .null, .null, .null]

end WarehouseImport
