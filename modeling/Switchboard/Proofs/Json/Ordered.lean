import Switchboard.Proofs.Dictionary
import Switchboard.Proofs.Json.Reading

/-!
# Documents that are read

However a text orders and repeats the fields of an object, in the document that is read they stand
in ascending order of their names, one a name (`Json.ordered_of_parse?`). So the number of fields
is the number of names.
-/

namespace Switchboard.Json

/-- The fields of each object within stand in ascending order of their names, one a name. -/
inductive Ordered : Json → Prop where
  | null : Ordered .null
  | bool (b : Bool) : Ordered (.bool b)
  | number (n : Number) : Ordered (.number n)
  | text (s : String) : Ordered (.text s)
  | array {items : List Json} (each : ∀ v ∈ items, Ordered v) : Ordered (.array items)
  | object {fields : List (String × Json)} (sorted : Dictionary.Sorted fields)
      (each : ∀ f ∈ fields, Ordered f.2) : Ordered (.object fields)

/-- The keys of an object are in order. -/
theorem Ordered.sorted {fields : List (String × Json)} (h : Ordered (.object fields)) :
    Dictionary.Sorted fields := by
  cases h with
  | object sorted _ => exact sorted

theorem Ordered.ofFields {fields : List (String × Json)} (each : ∀ f ∈ fields, Ordered f.2) :
    Ordered (.ofFields fields) :=
  .object (Dictionary.sorted_ofPairs fields) fun f hf => each f (Dictionary.mem_ofPairs hf)

/-- Every form of document keeps the order of the keys in it. -/
theorem kept_ordered : Kept Ordered where
  null := .null
  bool := .bool
  text := .text
  number _ := .number _
  array := .array
  ofFields := .ofFields

/-- **A document that is read is in order**, however its text is. -/
theorem ordered_of_parse? {s : String} {doc : Json} (h : parse? s = some doc) : doc.Ordered :=
  kept_ordered.of_parse? h

/-- The least text that is read as an object. -/
theorem parse?_empty_object : parse? "\x7b\x7d" = some (.object []) := by
  simp [parse?, tokens?, step?, beginValue?, deepest]

theorem parse?_empty_array : parse? "[]" = some (.array []) := by
  simp [parse?, tokens?, step?, beginValue?, deepest]

end Switchboard.Json
