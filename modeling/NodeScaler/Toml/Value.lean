import NodeScaler.Toml.Moment
import NodeScaler.Toml.Node
import NodeScaler.Toml.Number

/-!
# Keys and values

A key is a bare word or a text on one line; dots join keys to a path of at most 79 names.
Arrays may run over several lines and end with a comma, inline tables may not. Values
nest at most 79 arrays and inline tables deep, so reading a value is recursion on the
depth that is left.
-/

namespace NodeScaler.Toml

open Reader

/-- The greatest number of names in a path, and of levels of a value. -/
def deepest : Nat := 79

/-- A character of a bare key. -/
def isBareKey (c : Char) : Bool :=
  c.isAlphanum || c == '_' || c == '-'

/-- One name. -/
def simpleKey : Reader String :=
  String.ofList <$> (quotedLine <|> literalLine <|> run1 isBareKey)

/-- A path of names with dots between them, with the blanks around it: the names in front
of the last one, and the last one. -/
def key : Reader (List String × String) := do
  let names ← separated (spaces *> simpleKey <* spaces) (char '.')
  match names.getLast? with
  | some last => if names.length ≤ deepest then return (names.dropLast, last) else failure
  | none => failure

/-- A setting whose value is read by `value`: the path, the name, and the value. -/
def setting (value : Reader Node) : Reader (List String × String × Node) := do
  let (path, name) ← key
  char '='
  spaces
  let node ← value
  return (path, name, node)

/-- A value of a kind that holds no others. Dates, times, floats and integers begin
alike and are tried in this order. -/
def scalar : Reader Node :=
  .text <$> text <|>
  (moment *> return .moment) <|>
  (float *> return .float) <|>
  .integer <$> integer <|>
  (word ['t', 'r', 'u', 'e'] *> return .boolean true) <|>
  (word ['f', 'a', 'l', 's', 'e'] *> return .boolean false)

/-- An array of elements that `value` reads. -/
def array (value : Reader Node) : Reader Node := do
  char '['
  let elements ← optional
    (separated (filler *> value <* filler) (char ',') <* optional (char ','))
  filler
  char ']'
  return .array (elements.getD [])

/-- An inline table of values that `value` reads. -/
def inlineTable (value : Reader Node) : Reader Node := do
  char '\x7b'
  let settings ← optional (separated (setting (value <* spaces)) (char ','))
  spaces
  char '\x7d'
  let entries ← (settings.getD []).foldlM (fun table (path, name, node) =>
    Table.addSetting path name node .inline table) ([] : Table)
  return .table .inline entries

/-- A value with at most `depth` levels of arrays and inline tables. -/
def nested : Nat → Reader Node
  | 0 => scalar
  | depth + 1 => scalar <|> array (nested depth) <|> inlineTable (nested depth)

/-- A value. -/
def value : Reader Node := nested deepest

end NodeScaler.Toml
