import WarehouseImport.Json.Lenient
import WarehouseImport.Sql.Filter

/-!
# Bindings and filters as documents

Bindings are listed as triples of a name, a type and a value, or a list of values; of a repeated
name the last value counts. A filter is an object; without an operator it asks for equality, and
without a data type it compares texts.
-/

namespace WarehouseImport

namespace Binding

/-- The values that a value stands for when it is taken apart; numbers and flags cannot be. -/
def parts : Json → Except Failure (List Json)
  | .arr parts => .ok parts
  | .str text => .ok (text.toList.map fun c => .str (String.singleton c))
  | .obj members => .ok (members.map fun member => .str member.1)
  | _ => .error .wrongKind

/-- The binding that a triple describes. -/
def ofTriple (triple : Json) : Except Failure Binding := do
  match ← parts triple with
  | [name, type, value] => return ⟨name.text, type.text, .ofDocument value⟩
  | parts => throw (.parameterShape 3 parts.length)

/-- The bindings that a list of triples describes. -/
def ofTriples (triples : Json) : Except Failure (List Binding) := do
  return (← triples.items.mapM ofTriple).foldl Binding.insert []

/-- Bindings as a list of triples. -/
def triples (bindings : List Binding) : Json :=
  .arr (bindings.map fun binding =>
    .arr [.str binding.name, .str binding.type, binding.value.document])

end Binding

/-- The parameters that a list of triples or an object of pairs describes. -/
def Parameters.ofTriples (document : Json) : Except Failure Parameters :=
  match document with
  | .arr triples => Parameters.ofBindings <$> Binding.ofTriples (.arr triples)
  | document => .ok (Parameters.ofDocument document)

namespace FilterSpec

/-- The filter that a document describes. A text in the place of values stands for its
characters. -/
def ofDocument (document : Json) : FilterSpec where
  column := document["column"].asText?
  operator := (document.get? "operator").getD (.str "eq")
  values := (Binding.parts document["values"]).toOption.getD []
  type := (document.get? "data_type").getD (.str "STRING")

/-- The filters that a list of documents describes. -/
def listOfDocument (document : Json) : List FilterSpec := document.items.map ofDocument

end FilterSpec

end WarehouseImport
