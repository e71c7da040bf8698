import WarehouseImport.Failure.Basic

/-!
# Bindings

Values never stand in the text of a statement. The text names a parameter, and a binding gives the
parameter its type and its value, or a list of values of that type.
-/

namespace WarehouseImport

open WarehouseImport.Text

/-- What a parameter stands for. -/
inductive BoundValue where
  | one (value : Json)
  | many (values : List Json)
  deriving Repr

/-- The value as a document. -/
def BoundValue.document : BoundValue → Json
  | .one value => value
  | .many values => .arr values

/-- The value that a document stands for: a list is a list of values. -/
def BoundValue.ofDocument : Json → BoundValue
  | .arr values => .many values
  | value => .one value

/-- A named parameter with its type and value. -/
structure Binding where
  name : String
  type : String
  value : BoundValue
  deriving Repr

namespace Binding

/-- A binding as written to the log: its type and its value. -/
def document (binding : Binding) : Json := .arr [.str binding.type, binding.value.document]

/-- Bindings as shown in a summary. -/
def shownAll (bindings : List Binding) : String :=
  braced (bindings.map fun binding =>
    (quoted binding.name,
      parenthesized [quoted binding.type, binding.value.document.inner]))

/-- Puts a binding in the place of the one of its name, or at the end. -/
def insert (bindings : List Binding) (binding : Binding) : List Binding :=
  Keyed.put Binding.name binding bindings

end Binding

/-- The parameters of a statement: how the log shows them, and the bindings sent, unless they
cannot be made out. -/
structure Parameters where
  document : Json
  bindings : Except Failure (List Binding)

namespace Parameters

/-- No parameters. -/
def none : Parameters := ⟨.null, .ok []⟩

/-- The parameters that bindings give. -/
def ofBindings (bindings : List Binding) : Parameters :=
  ⟨.obj (bindings.map fun binding => (binding.name, binding.document)), .ok bindings⟩

/-- The binding of a name to a pair of a type and a value. -/
def bindingOf (name : String) : Json → Except Failure Binding
  | .arr [.str type, value] => .ok ⟨name, type, .ofDocument value⟩
  | .arr [_, _] => .error .wrongKind
  | .arr items => .error (.parameterShape 2 items.length)
  | _ => .error .wrongKind

/-- The parameters that a document describes: an object of pairs. A document that is not given
stands for no parameters. -/
def ofDocument (document : Json) : Parameters :=
  if document.isGiven then
    match document with
    | .obj members =>
      ⟨document, members.mapM fun member => bindingOf member.1 member.2⟩
    | _ => ⟨document, .error .unnamedParameters⟩
  else none

end Parameters

end WarehouseImport
