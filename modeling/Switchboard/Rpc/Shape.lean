import Switchboard.Param.Value

/-!
# Shapes of payloads

Whether a document has the shape of a declared type. Only the document's own kind counts, and for
scalars the range; what is in an array or an object does not matter.
-/

namespace Switchboard

namespace ParamType

/-- May a document be read as a value of a type? -/
def accepts : ParamType → Json → Bool
  | scalar kind, node => (Value.scalarOfJson? kind node).isSome
  | boxed kind, node => node.isNull || (Value.scalarOfJson? kind node).isSome
  | text, node => node.isNull || node.text?.isSome
  | array _, node => node.items?.isSome
  | object _, node => node.fields?.isSome
  | generic _ _, _ => true
  | context _, _ => true

end ParamType

end Switchboard
