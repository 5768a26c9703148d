import Switchboard.Number.Decimal
import Switchboard.Text.Split

/-!
# Preferred languages

The languages of an `Accept-Language` header, those of larger weight first.
-/

namespace Switchboard.Language

/-- A language and its weight. -/
structure Weighted where
  weight : Number.Double
  language : String
  deriving DecidableEq, Repr

/-- Reads one entry. The first parameter `q=` with a number gives the weight, which is else one. -/
def ofEntry? (entry : String) : Option Weighted :=
  match Text.splitOn ';' (Text.trim entry) with
  | [] => none
  | language :: parameters =>
    let language := Text.trim language
    if language = "" then none
    else
      let weight := parameters.findSome? fun p => (Text.after? "q=" (Text.trim p)).bind Number.read?
      some ⟨weight.getD (.ofInt 1), language⟩

/-- Puts an entry in front of those of smaller weight at the end of a list, which is given and
returned from its end. -/
def insert (x : Weighted) : List Weighted → List Weighted
  | [] => [x]
  | y :: ys => if y.weight.lt x.weight then y :: insert x ys else x :: y :: ys

/-- The languages of a header by descending weight, those of one weight in the order of the header.
This is how up to twenty entries are sorted, and more of them come to the same if their weights are
numbers. With other weights among more than twenty entries nothing is promised, not even a list. -/
def parse (header : String) : List String :=
  let entries := (Text.splitOn ',' header).filterMap ofEntry?
  ((entries.foldl (fun sorted x => insert x sorted) []).reverse).map (·.language)

end Switchboard.Language
