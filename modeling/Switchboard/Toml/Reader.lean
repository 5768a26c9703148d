import Switchboard.Toml.Scalar

/-!
# Reading TOML

A document is a list of lines: headers and pairs of a name and a value, with comments behind them.
Strings of several lines, arrays and inline tables are read as part of the value that they are.
-/

namespace Switchboard.Toml

/-- A space or a tab. -/
def isSpace (c : Char) : Bool := c == ' ' || c == '\t'

/-- A text without the spaces in front. -/
def skipSpaces (cs : List Char) : List Char := cs.dropWhile isSpace

/-- A character that may stand in a comment or a string: a tab, or one that is no control
character. -/
def isPrintable (c : Char) : Bool := c == '\t' || (32 ≤ c.toNat && c.toNat != 127)

/-- What follows a line break. -/
def newline? : List Char → Option (List Char)
  | '\n' :: rest => some rest
  | '\r' :: '\n' :: rest => some rest
  | _ => none

/-- What follows the end of a line: spaces, a comment, and a line break or the end of the text. -/
def endLine? (cs : List Char) : Option (List Char) :=
  let rest := match skipSpaces cs with
    | '#' :: comment => comment.dropWhile isPrintable
    | other => other
  if rest.isEmpty then some [] else newline? rest

/-- Skips spaces, line breaks and comments. -/
def skipGap : (inComment : Bool) → List Char → List Char
  | _, [] => []
  | _, '\n' :: rest => skipGap false rest
  | _, '\r' :: '\n' :: rest => skipGap false rest
  | false, '#' :: rest => skipGap true rest
  | inComment, c :: rest =>
    if isSpace c || (inComment && isPrintable c) then skipGap inComment rest else c :: rest

/-! ## Strings -/

/-- The character that a letter behind a backslash stands for. -/
def escaped? : Char → Option Char
  | '"' => some '"'
  | '\\' => some '\\'
  | 'b' => some '\x08'
  | 'f' => some '\x0c'
  | 'n' => some '\n'
  | 'r' => some '\r'
  | 't' => some '\t'
  | _ => none

/-- The character whose number some hexadecimal digits write. -/
def charOf? (digits : List Char) : Option Char := do
  guard (digits.all (isDigitOf 16))
  let n := ofDigitsBase 16 digits
  guard (n < 0xD800 || (0xDFFF < n && n < 0x110000))
  return Char.ofNat n

/-- The character that an escape stands for, and what follows it. -/
def readEscape? : List Char → Option (Char × List Char)
  | 'u' :: rest =>
    if rest.length < 4 then none else (charOf? (rest.take 4)).map fun c => (c, rest.drop 4)
  | 'U' :: rest =>
    if rest.length < 8 then none else (charOf? (rest.take 8)).map fun c => (c, rest.drop 8)
  | c :: rest => (escaped? c).map fun c => (c, rest)
  | [] => none

/-- Escapes are not empty. -/
theorem length_of_readEscape? {cs rest : List Char} {c : Char}
    (h : readEscape? cs = some (c, rest)) : rest.length < cs.length := by
  unfold readEscape? at h
  split at h
  · split at h
    · cases h
    · simp only [Option.map_eq_some_iff, Prod.mk.injEq] at h
      obtain ⟨_, _, _, rfl⟩ := h
      simp only [List.length_drop, List.length_cons]
      omega
  · split at h
    · cases h
    · simp only [Option.map_eq_some_iff, Prod.mk.injEq] at h
      obtain ⟨_, _, _, rfl⟩ := h
      simp only [List.length_drop, List.length_cons]
      omega
  · simp only [Option.map_eq_some_iff, Prod.mk.injEq] at h
    obtain ⟨_, _, _, rfl⟩ := h
    simp
  · cases h

/-- Reads a string of one line from behind its opening quote. Only one in double quotes has
escapes. -/
def readShort? (quote : Char) (acc : List Char) (cs : List Char) : Option (List Char × List Char) :=
  match cs with
  | [] => none
  | c :: rest =>
    if c = quote then some (acc.reverse, rest)
    else if c = '\\' && quote = '"' then
      match _escape : readEscape? rest with
      | some (e, more) => readShort? quote (e :: acc) more
      | none => none
    else if isPrintable c then readShort? quote (c :: acc) rest
    else none
termination_by cs.length
decreasing_by
  · have := length_of_readEscape? _escape; simp only [List.length_cons]; omega
  · simp

/-- Does a backslash that this follows stand at the end of its line? -/
def breaksLine (cs : List Char) : Bool := (newline? (skipSpaces cs)).isSome

/-- Reads a string of several lines from behind its opening quotes, of which up to two more may
stand before the closing ones. A backslash at the end of a line, where there are escapes at all,
joins it to what follows next; while `joining` spaces and line breaks do not count. -/
def readLong? (quote : Char) (joining : Bool) (acc : List Char) (cs : List Char) :
    Option (List Char × List Char) :=
  match cs with
  | [] => none
  | c :: rest =>
    if joining && (isSpace c || c = '\n') then readLong? quote true acc rest
    else if c = '\r' then
      match rest with
      | '\n' :: more => readLong? quote joining (if joining then acc else '\n' :: acc) more
      | _ => none
    else if c = quote then
      let run := rest.takeWhile (· == quote)
      if 2 ≤ run.length then
        let extra := min (run.length - 2) 2
        some (acc.reverse ++ run.take extra, rest.drop (2 + extra))
      else readLong? quote false (c :: acc) rest
    else if c = '\\' && quote = '"' then
      if breaksLine rest then readLong? quote true acc rest
      else
        match _escape : readEscape? rest with
        | some (e, more) => readLong? quote false (e :: acc) more
        | none => none
    else if c = '\n' || isPrintable c then readLong? quote false (c :: acc) rest
    else none
termination_by cs.length
decreasing_by
  · simp
  · simp only [List.length_cons]; omega
  · simp
  · simp
  · have := length_of_readEscape? _escape; simp only [List.length_cons]; omega
  · simp

/-- Reads a string of several lines, a line break at its start left out. -/
def readParagraph? (quote : Char) (cs : List Char) : Option (List Char × List Char) :=
  readLong? quote false [] ((newline? cs).getD cs)

/-- Reads a string, if one begins here. -/
def readString? : List Char → Option (List Char × List Char)
  | '"' :: '"' :: '"' :: rest => readParagraph? '"' rest
  | '\'' :: '\'' :: '\'' :: rest => readParagraph? '\'' rest
  | '"' :: rest => readShort? '"' [] rest
  | '\'' :: rest => readShort? '\'' [] rest
  | _ => none

/-! ## Names -/

/-- A character of a name without quotes. -/
def isNameChar (c : Char) : Bool := c.isAlphanum || c == '_' || c == '-'

/-- Reads one part of a name, with spaces around it. -/
def readName? (cs : List Char) : Option (String × List Char) := do
  let cs := skipSpaces cs
  let (name, rest) ← match cs with
    | '"' :: rest => readShort? '"' [] rest
    | '\'' :: rest => readShort? '\'' [] rest
    | _ =>
      let name := cs.takeWhile isNameChar
      if name.isEmpty then none else some (name, cs.dropWhile isNameChar)
  return (String.ofList name, skipSpaces rest)

/-- The most parts that a name may have, and the most arrays and tables that may lie in one
another. -/
def deepest : Nat := 79

/-- Reads a name of at most `fuel` parts with dots between them: all parts but the last, and that
one. -/
def readPath? : (fuel : Nat) → List Char → Option ((List String × String) × List Char)
  | 0, _ => none
  | fuel + 1, cs => do
    let (name, rest) ← readName? cs
    match rest with
    | '.' :: more => do
      let ((path, last), rest) ← readPath? fuel more
      return ((name :: path, last), rest)
    | _ => return (([], name), rest)

/-! ## Values -/

/-- A character of a word. -/
def isWordChar (c : Char) : Bool := isNameChar c || c == '+' || c == '.' || c == ':'

/-- Reads a word. A time may follow a date behind a space. -/
def readWord? (cs : List Char) : Option (Toml × List Char) := do
  let word := cs.takeWhile isWordChar
  let rest := cs.dropWhile isWordChar
  let v ← ofWord? word
  match rest with
  | ' ' :: more =>
    let next := more.takeWhile isWordChar
    if isDate word && isTimeWithOffset next then return (.moment, more.dropWhile isWordChar)
    else return (v, rest)
  | _ => return (v, rest)

mutual

/-- Reads a value in which arrays and tables lie no deeper than `depth`. -/
def readValue? : (fuel depth : Nat) → List Char → Option (Toml × List Char)
  | 0, _, _ => none
  | fuel + 1, depth, cs =>
    match cs with
    | '[' :: rest =>
      match depth with
      | 0 => none
      | depth + 1 => readItems? fuel depth [] (skipGap false rest)
    | '\x7b' :: rest =>
      match depth with
      | 0 => none
      | depth + 1 =>
        match skipSpaces rest with
        | '\x7d' :: rest => some (.table [], rest)
        | other => readFields? fuel depth [] other
    | '"' :: _ | '\'' :: _ => (readString? cs).map fun (s, rest) => (.text (String.ofList s), rest)
    | _ => readWord? cs

/-- Reads the items of an array up to its end; `items` came before, the latest first. -/
def readItems? : (fuel depth : Nat) → List Toml → List Char → Option (Toml × List Char)
  | 0, _, _, _ => none
  | fuel + 1, depth, items, cs =>
    match cs with
    | ']' :: rest => some (.array items.reverse, rest)
    | _ => do
      let (v, rest) ← readValue? fuel depth cs
      match skipGap false rest with
      | ',' :: rest => readItems? fuel depth (v :: items) (skipGap false rest)
      | ']' :: rest => return (.array (v :: items).reverse, rest)
      | _ => none

/-- Reads the pairs of an inline table up to its end. -/
def readFields? : (fuel depth : Nat) → Entries → List Char → Option (Toml × List Char)
  | 0, _, _, _ => none
  | fuel + 1, depth, entries, cs => do
    let ((path, key), rest) ← readPath? deepest cs
    match rest with
    | '=' :: rest => do
      let (v, rest) ← readValue? fuel depth (skipSpaces rest)
      let entries ← addPair? path key v entries
      match skipSpaces rest with
      | ',' :: rest => readFields? fuel depth entries rest
      | '\x7d' :: rest => return ((Node.table .named entries).finish, rest)
      | _ => none
    | _ => none

end

/-! ## Documents -/

/-- What has been read: all tables, and the names that lead to the one being filled. -/
structure Draft where
  root : Entries := []
  here : List String := []

namespace Draft

/-- Reads a pair and its line. -/
def readPair? (d : Draft) (cs : List Char) : Option (Draft × List Char) := do
  let ((path, key), rest) ← readPath? deepest cs
  match rest with
  | '=' :: rest => do
    let (v, rest) ← readValue? (2 * rest.length + 2) deepest (skipSpaces rest)
    let rest ← endLine? rest
    let root ← change? false (fun _ entries => addPair? path key v entries) d.here .named d.root
    return ({ d with root }, rest)
  | _ => none

/-- Reads a header and its line. -/
def readHeader? (d : Draft) : List Char → Option (Draft × List Char)
  | '[' :: '[' :: cs => do
    let ((path, key), rest) ← readPath? deepest cs
    match rest with
    | ']' :: ']' :: rest => do
      let rest ← endLine? rest
      let root ← openItem? path key d.root
      return (⟨root, path ++ [key]⟩, rest)
    | _ => none
  | '[' :: cs => do
    let ((path, key), rest) ← readPath? deepest cs
    match rest with
    | ']' :: rest => do
      let rest ← endLine? rest
      let root ← openTable? path key d.root
      return (⟨root, path ++ [key]⟩, rest)
    | _ => none
  | _ => none

/-- Reads at most `fuel` lines up to the end of the text. -/
def readLines? : (fuel : Nat) → Draft → List Char → Option Draft
  | 0, _, _ => none
  | fuel + 1, d, cs => do
    match skipSpaces cs with
    | [] => return d
    | '[' :: rest => do
      let (d, rest) ← d.readHeader? ('[' :: rest)
      readLines? fuel d rest
    | c :: rest => do
      if c = '#' || c = '\n' || c = '\r' then readLines? fuel d (← endLine? (c :: rest))
      else
        let (d, rest) ← d.readPair? (c :: rest)
        readLines? fuel d rest

end Draft

/-- Reads a document, a mark of the order of bytes in front of it left out. -/
def parse? (s : String) : Option Toml := do
  let cs := match s.toList with
    | '\ufeff' :: rest => rest
    | all => all
  let d ← Draft.readLines? (cs.length + 1) {} cs
  return (Node.table .named d.root).finish

end Switchboard.Toml
