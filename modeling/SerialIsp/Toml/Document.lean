import SerialIsp.Toml.Node
import SerialIsp.Toml.Numbers
import SerialIsp.Toml.Strings

/-!
# Reading documents

A document is a sequence of lines, each blank, a header that names the table the next keys
belong to, or a key with its value. `Toml.parse` gives the root table of a text, or nothing
when the text is no document. Nesting deeper than `nestingLimit` is refused.
-/

namespace SerialIsp.Toml

open Reader

/-- Brackets and braces, and the names of one key, have to be fewer than this. -/
def nestingLimit : Nat := 80

/-! ## Keys -/

/-- A character of a key without quotes. -/
def isKeyChar (c : Char) : Bool := c.isAlphanum || c = '-' || c = '_'

/-- One name of a key. -/
def keyName : Reader String := do
  match ← peek with
  | some '"' => basicString
  | some '\'' => literalString
  | _ => return String.ofList (← takeSome isKeyChar)

/-- A key: the names before its last one, and the last one. -/
def key : Reader (List String × String) := do
  let first ← padded
  let more ← many do
    char '.'
    padded
  let names := first :: more
  if names.length < nestingLimit then return (names.dropLast, names.getLastD "") else failure
where
  /-- A name with the blanks around it. -/
  padded : Reader String := do
    blanks
    let name ← keyName
    blanks
    return name

/-! ## Values -/

/-- Items between commas, up to a closing character; the last comma may be `trailing`. -/
def separated {α : Type} (close : Char) (trailing : Bool) (item : Reader α) (space : Reader Unit) :
    Reader (List α) := do
  space
  if ← skip close then return []
  let first ← item
  space
  let more ← many do
    char ','
    space
    let next ← item
    space
    return next
  if trailing then
    let _ ← skip ','
    space
  char close
  return first :: more

/-- The table in braces that some keys make. -/
def inlineTable (keys : List ((List String × String) × Node)) : Option Entries :=
  keys.foldlM (fun entries k => Entries.insert k.1.1 k.1.2 k.2 .inline entries) []

/-- A value in which brackets and braces may be nested `room` deep. -/
def value (room : Nat) : Reader Node := do
  match ← peek with
  | some '"' | some '\'' => return .string (← string)
  | some 't' => do word "true"; return .boolean true
  | some 'f' => do word "false"; return .boolean false
  | some '[' =>
    match room with
    | 0 => failure
    | room + 1 =>
      char '['
      return .array (← separated ']' true (value room) gap)
  | some '\x7b' =>
    match room with
    | 0 => failure
    | room + 1 =>
      char '\x7b'
      let keys ← separated '\x7d' false (keyValue room) blanks
      match inlineTable keys with
      | some entries => return .table .inline entries
      | none => failure
  | _ =>
    (return .dateTime (← lexeme dateTime)) <|> (return .float (← lexeme float)) <|>
      (return .integer (← integer))
where
  /-- A key with its value. -/
  keyValue (room : Nat) : Reader ((List String × String) × Node) := do
    let k ← key
    char '='
    blanks
    let v ← value room
    return (k, v)

/-! ## Lines -/

/-- What a line says. -/
inductive Statement where
  | blank
  /-- The next keys belong to this table. -/
  | table (path : List String) (name : String)
  /-- The next keys belong to one more table of this name. -/
  | tableInstance (path : List String) (name : String)
  | entry (path : List String) (name : String) (node : Node)
  deriving Repr

/-- A line, with the blanks before it. -/
def statement : Reader Statement := do
  blanks
  match ← peek with
  | some '#' =>
    comment
    newline <|> atEnd
    return .blank
  | some '\n' | some '\r' =>
    newline
    return .blank
  | some '[' =>
    char '['
    let double ← skip '['
    let (path, name) ← key
    char ']'
    if double then char ']'
    lineTail
    return if double then .tableInstance path name else .table path name
  | some _ =>
    let (path, name) ← key
    char '='
    blanks
    let node ← value (nestingLimit - 1)
    lineTail
    return .entry path name node
  | none => failure

/-- A document as far as it was read: its root table, and the path to the table that keys
    belong to. -/
structure Draft where
  root : Entries := []
  current : List String := []

/-- Takes a line into the document, unless it contradicts a line before it. -/
def Draft.take (d : Draft) : Statement → Option Draft
  | .blank => some d
  | .table path name => do
    let root ← Entries.descend false (Entries.openTable name) path .header d.root
    return { root, current := path ++ [name] }
  | .tableInstance path name => do
    let root ← Entries.descend false (Entries.openInstance name) path .header d.root
    return { root, current := path ++ [name] }
  | .entry path name node => do
    let root ← Entries.descend false (Entries.insert path name node) d.current .header d.root
    return { d with root }

/-- The lines of a text, which may start with a byte order mark. -/
def statements : Reader (List Statement) := do
  let _ ← skip '\uFEFF'
  let lines ← many statement
  blanks
  atEnd
  return lines

/-- The root table of a document. -/
def parse (text : String) : Option Entries := do
  let (lines, _) ← statements text.toList
  let draft ← lines.foldlM Draft.take ({} : Draft)
  return draft.root

end SerialIsp.Toml
