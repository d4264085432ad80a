import NodeScaler.Toml.Value

/-!
# Documents

A document is a sequence of lines: blank lines, comments, headers and settings. A header
opens a section, and the settings after it belong to that section; a header in double
brackets opens one more section of the same path. The settings in front of the first
header belong to the document itself.
-/

namespace NodeScaler.Toml

open Reader

/-- What a line says. -/
inductive Line where
  /-- Nothing. -/
  | blank
  /-- The header of a section. -/
  | header (path : List String) (name : String)
  /-- The header of one more section of its path. -/
  | repeated (path : List String) (name : String)
  /-- A setting of the open section. -/
  | setting (path : List String) (name : String) (value : Node)

/-- A line of the document, up to and with its end. -/
def line : Reader Line := do
  spaces
  match ← peek with
  | some '[' =>
    (do
      word ['[', '[']
      let (path, name) ← key
      word [']', ']']
      lineEnd
      return .repeated path name) <|>
    (do
      char '['
      let (path, name) ← key
      char ']'
      lineEnd
      return .header path name)
  | some c =>
    if c == '#' || c == '\r' || c == '\n' then
      lineEnd
      return .blank
    else
      let (path, name, value) ← setting value
      lineEnd
      return .setting path name value
  | none => failure

/-- What has been read: the document, and the path of the open section. -/
structure Draft where
  /-- The document so far. -/
  root : Table
  /-- The path of the open section. -/
  opened : List String

namespace Draft

/-- Nothing has been read. -/
def start : Draft := ⟨[], []⟩

/-- Adds what a line says, unless it contradicts the lines before. -/
def add (draft : Draft) : Line → Option Draft
  | .blank => some draft
  | .header path name => do
    let root ← Table.alter .implied (fun _ => Table.openSection name) path .header draft.root
    return ⟨root, path ++ [name]⟩
  | .repeated path name => do
    let root ← Table.alter .implied (fun _ => Table.openRepeated name) path .header draft.root
    return ⟨root, path ++ [name]⟩
  | .setting path name value => do
    let root ← Table.alter .implied
      (fun _ => Table.addSetting path name value .header) draft.opened .header draft.root
    return { draft with root }

end Draft

/-- The lines of a document behind an optional byte order mark. -/
def lines : Reader (List Line) := do
  let _ ← optional (char '\uFEFF')
  many line <* spaces

/-- The table that a document stands for, unless the text is no document. -/
def document? (cs : List Char) : Option Table := do
  let lines ← Reader.complete? lines cs
  return (← lines.foldlM Draft.add Draft.start).root

end NodeScaler.Toml
