import Switchboard.Json.Printer
import Switchboard.Param.Value
import Switchboard.Text.Quoted

/-!
# Values in diagnostics

How a value that could not be bound is shown: by its kind, with what it holds in parentheses.
-/

namespace Switchboard

/-- Numbers are shown positionally from 0.0001 up to below 10 ^ 16. -/
def diagnosticLayout : Number.Layout := ⟨-4, 15, false, false⟩

/-- A number in a diagnostic. -/
def diagnosticNumber {f : Number.Format} (x : Number.Binary f) : String :=
  diagnosticLayout.text "NaN" "inf" x

/-- Items in brackets. -/
def bracketed (items : List String) : String := "[" ++ String.intercalate ", " items ++ "]"

/-- Entries in braces. -/
def braced (entries : List (String × String)) : String :=
  "\x7b" ++ String.intercalate ", " (entries.map fun (k, v) => Text.quoted k ++ ": " ++ v) ++ "\x7d"

/-- Bytes as numbers. -/
def bytesDiagnostic (data : ByteArray) : String :=
  bracketed (data.data.toList.map fun b => toString b.toNat)

mutual

/-- How a document is shown. -/
def Json.diagnostic : Json → String
  | .null => "Null"
  | .bool b => s!"Bool({b})"
  | .number n => s!"Number({n.render})"
  | .text s => s!"String({Text.quoted s})"
  | .array items => "Array " ++ bracketed (Json.diagnosticItems items)
  | .object fields => "Object " ++ braced (Json.diagnosticFields fields)

/-- How the items of an array are shown. -/
def Json.diagnosticItems : List Json → List String
  | [] => []
  | v :: rest => v.diagnostic :: Json.diagnosticItems rest

/-- How the fields of an object are shown. -/
def Json.diagnosticFields : List (String × Json) → List (String × String)
  | [] => []
  | (name, v) :: rest => (name, v.diagnostic) :: Json.diagnosticFields rest

end

/-- How a file is shown. -/
def Upload.diagnostic (u : Upload) : String :=
  "UploadedFile \x7b name: " ++ Text.quoted u.name ++ ", file_name: " ++ Text.quoted u.fileName ++
    ", content_type: " ++ Text.quoted u.contentType ++ ", data: " ++ bytesDiagnostic u.data ++
    " \x7d"

/-- The name of a width in diagnostics. -/
def Width.diagnostic : Width → String
  | .byte => "Byte"
  | .short => "Short"
  | .int => "Int"
  | .long => "Long"

mutual

/-- How a value is shown. -/
def Value.diagnostic : Value → String
  | .null => "Null"
  | .bool b => s!"Bool({b})"
  | .char c => s!"Char({Text.quotedSingle c})"
  | .whole width n => s!"{width.diagnostic}({n})"
  | .single x => s!"Float({diagnosticNumber x})"
  | .double x => s!"Double({diagnosticNumber x})"
  | .text s => s!"Str({Text.quoted s})"
  | .array items => "Array(" ++ bracketed (Value.diagnosticItems items) ++ ")"
  | .json node => s!"Json({node.diagnostic})"
  | .map entries => "Map(" ++ braced (entries.map fun (k, v) => (k, Text.quoted v)) ++ ")"
  | .bytes data => s!"Bytes({bytesDiagnostic data})"
  | .file upload => s!"File({upload.diagnostic})"
  | .files uploads => "Files(" ++ braced (uploads.map fun (k, u) => (k, u.diagnostic)) ++ ")"
  | .context kind => s!"Context({kind.name})"

/-- How the items of an array are shown. -/
def Value.diagnosticItems : List Value → List String
  | [] => []
  | v :: rest => v.diagnostic :: Value.diagnosticItems rest

end

end Switchboard
