/-!
# Documents as trees

A document is a table of named nodes. How a table came about decides what may still be
added to it: a table opened by its header is complete apart from that section, one that
is only implied by a longer header can still be opened, one made by a dotted key takes
more dotted keys, and one written inline takes nothing.
-/

namespace NodeScaler.Toml

/-- How a table came about. -/
inductive Origin where
  /-- A header opened it. -/
  | header
  /-- The path of a header leads through it. -/
  | implied
  /-- A dotted key leads through it. -/
  | dotted
  /-- It is a value between braces. -/
  | inline
deriving DecidableEq, Repr

/-- A value, a table, or a row of tables that share a header. -/
inductive Node where
  /-- A text. -/
  | text (value : String)
  /-- An integer. -/
  | integer (value : Int)
  /-- A float. -/
  | float
  /-- A truth value. -/
  | boolean (value : Bool)
  /-- A date, a time, or both. -/
  | moment
  /-- An array. -/
  | array (elements : List Node)
  /-- A table. -/
  | table (origin : Origin) (entries : List (String × Node))
  /-- The tables of a repeated header. -/
  | tables (sections : List (List (String × Node)))
deriving Repr

/-- Named nodes, in the order of their first appearance; no name occurs twice. -/
abbrev Table := List (String × Node)

namespace Table

/-- The node of a name. -/
def get? (table : Table) (name : String) : Option Node := table.lookup name

/-- Gives a name a node, in the place of the node it had. -/
def set (name : String) (node : Node) : Table → Table
  | [] => [(name, node)]
  | (other, old) :: rest =>
    if other = name then (name, node) :: rest else (other, old) :: set name node rest

/-- A path leads on through a table of this origin. The path of a header may pass every
table that is no value; the path of a dotted key may not enter a section that has a
header of its own. -/
def isPassable (made : Origin) : Origin → Bool
  | .implied | .dotted => true
  | .header => made == .implied
  | .inline => false

/-- Changes the table at the end of a path and puts it back. Tables missing on the path
are made with the origin `made`, which is `implied` for headers and `dotted` for dotted
keys. Of tables that share a header the last one is meant. -/
def alter (made : Origin) (change : Origin → Table → Option Table) :
    List String → Origin → Table → Option Table
  | [], origin, table => change origin table
  | name :: path, _, table =>
    match table.get? name with
    | none => do
      return table.set name (.table made (← alter made change path made []))
    | some (.table origin entries) =>
      if isPassable made origin then do
        return table.set name (.table origin (← alter made change path origin entries))
      else none
    | some (.tables sections) => do
      let last ← alter made change path .header (sections.getLast?.getD [])
      return table.set name (.tables (sections.dropLast ++ [last]))
    | some _ => none

/-- Adds a setting with a dotted key. The names in front of the last one lead through
tables that dotted keys make; such a table takes no direct settings from elsewhere. -/
def addSetting (path : List String) (name : String) (value : Node) (origin : Origin)
    (table : Table) : Option Table :=
  alter .dotted (fun reached entries =>
    if (reached == .dotted) == path.isEmpty || (entries.get? name).isSome then none
    else some (entries.set name value)) path origin table

/-- Opens the section of a header at its place: it is new, or so far only implied. -/
def openSection (name : String) (table : Table) : Option Table :=
  match table.get? name with
  | none => some (table.set name (.table .header []))
  | some (.table .implied entries) => some (table.set name (.table .header entries))
  | some _ => none

/-- Opens one more section of a repeated header at its place. -/
def openRepeated (name : String) (table : Table) : Option Table :=
  match table.get? name with
  | none => some (table.set name (.tables [[]]))
  | some (.tables sections) => some (table.set name (.tables (sections ++ [[]])))
  | some _ => none

end Table

end NodeScaler.Toml
