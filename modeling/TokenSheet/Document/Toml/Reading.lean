import TokenSheet.Document.Toml.Scalar
import TokenSheet.Document.Toml.Text
import TokenSheet.Document.Toml.Tree

/-!
Reading TOML: values and the lines of a document.

A line opens a table, adds a table to an array of tables, or sets a key in the table that was opened last. The first
fault in the text counts.
-/

namespace TokenSheet.Toml

/-! ## Values -/

/-- The items of an array, up to and with the closing bracket; a comma may follow the last. -/
def items (item : Json.Reader) : Nat → List Char → Except ReadFault (List Document × List Char)
  | 0, _ => throw .malformed
  | fuel + 1, s => do
    match ← orMalformed (skipFiller? (s.length + 1) s) with
    | ']' :: rest => return ([], rest)
    | body => do
      let (first, after) ← item body
      match ← orMalformed (skipFiller? (after.length + 1) after) with
      | ',' :: rest => do
        let (others, after) ← items item fuel rest
        return (first :: others, after)
      | ']' :: rest => return ([first], rest)
      | _ => throw .malformed

/-- A key with its value, and what follows them. -/
def assignment (item : Json.Reader) (s : List Char) :
    Except ReadFault (List String × Document × List Char) := do
  match ← orMalformed (key? (s.length + 1) s) with
  | (key, '=' :: rest) => do
    let (value, after) ← item (skipGap rest)
    return (key, value, after)
  | _ => throw .malformed

/-- The entries of an inline table from the first one on, up to and with the closing brace. -/
def inlineEntries (item : Json.Reader) :
    Nat → Entries → List Char → Except ReadFault (Entries × List Char)
  | 0, _, _ => throw .malformed
  | fuel + 1, done, s => do
    let (key, value, after) ← assignment item (skipGap s)
    let done ← orMalformed (assign? value key done)
    match skipGap after with
    | ',' :: rest => inlineEntries item fuel done rest
    | '\x7d' :: rest => return (done, rest)
    | _ => throw .malformed

/-- One value, nested at most `depth` deep. -/
def value : Nat → Json.Reader
  | 0, _ => throw .malformed
  | depth + 1, s =>
    match s with
    | '[' :: rest => do
      let (found, after) ← items (value depth) (rest.length + 1) rest
      return (.list found, after)
    | '\x7b' :: rest =>
      match skipGap rest with
      | '\x7d' :: after => .ok (.mapping [], after)
      | body => do
        let (entries, after) ← inlineEntries (value depth) (body.length + 1) [] body
        return (Node.toDocument (.table .dotted entries), after)
    | c :: _ =>
      if c == '\x22' || c == '\x27' then do
        let (cs, after) ← orMalformed (string? s)
        return (.text (String.ofList cs), after)
      else scalar s
    | [] => throw .malformed

/-! ## Lines -/

/-- The header of a table, after its opening bracket. -/
def header? (s : List Char) : Option (List String × List Char) := do
  let (path, after) ← key? (s.length + 1) (skipGap s)
  match after with
  | ']' :: rest => return (path, rest)
  | _ => none

/-- The header of a table in an array of tables, after its opening brackets. -/
def arrayHeader? (s : List Char) : Option (List String × List Char) := do
  let (path, after) ← key? (s.length + 1) (skipGap s)
  match after with
  | ']' :: ']' :: rest => return (path, rest)
  | _ => none

/-- The text after the end of a line, which may hold white space and a comment only. -/
def endLine? (s : List Char) : Option (List Char) := do
  match ← skipComment? (skipGap s) with
  | [] => return []
  | '\n' :: rest => return rest
  | _ => none

/-- Reads the lines one after another; `path` is the table that keys belong to. -/
def lines : Nat → List String → Entries → List Char → Except ReadFault Entries
  | 0, _, _, _ => throw .malformed
  | fuel + 1, path, root, s =>
    match skipGap s with
    | [] => .ok root
    | '\n' :: rest => lines fuel path root rest
    | '#' :: rest => do lines fuel path root (← orMalformed (endLine? ('#' :: rest)))
    | '[' :: '[' :: rest => do
      let (path, after) ← orMalformed (arrayHeader? rest)
      let root ← orMalformed (append? path root)
      lines fuel path root (← orMalformed (endLine? after))
    | '[' :: rest => do
      let (path, after) ← orMalformed (header? rest)
      let root ← orMalformed (declare? path root)
      lines fuel path root (← orMalformed (endLine? after))
    | body => do
      let (key, found, after) ← assignment (fun t => value (t.length + 1) t) body
      let root ← orMalformed (assignAt? found key path root)
      lines fuel path root (← orMalformed (endLine? after))

/-- The top-level table of a TOML text. -/
def parse (s : String) : Except ReadFault (List (Key × Document)) := do
  let chars := s.toList
  return Node.toEntries (← lines (chars.length + 1) [] [] chars)

end TokenSheet.Toml
