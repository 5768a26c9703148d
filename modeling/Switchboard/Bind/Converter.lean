import Switchboard.Http.Request
import Switchboard.Param.Parameter
import Switchboard.Time.Pattern

/-!
# Converters

A converter reads a raw text by the rules of the marker that names it, before a binder sees it.
Where it has no answer the text goes to the binder as it is.
-/

namespace Switchboard

/-- Reads a raw text, for a request, parameter and marker. -/
abbrev Converter := Request → Parameter → Marker → String → Option Value

/-- Reads a date by the pattern of the attribute `format`, as milliseconds since the beginning of
1970. -/
def Converter.date : Converter := fun _ _ m raw =>
  (Time.momentOf? ((m.attribute? "format").getD "%Y-%m-%d") raw).map fun moment =>
    .whole .long moment.toMilliseconds

end Switchboard
