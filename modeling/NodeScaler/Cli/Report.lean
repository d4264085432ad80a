import NodeScaler.Json.Writer
import NodeScaler.Provider.NodeGroup

/-!
# The status of node groups

The status lists the groups with their bounds, their target and their members, either in
lines of text or as indented JSON. Every format but `json` is text.
-/

namespace NodeScaler.Cli

/-- The status of a node group. -/
structure GroupStatus where
  /-- Its name and bounds. -/
  spec : GroupSpec
  /-- Its target. -/
  target : Nat
  /-- The provider identifiers of its members. -/
  nodes : List String
deriving DecidableEq, Repr

/-- The status of a group in JSON. -/
def GroupStatus.json (status : GroupStatus) : Json.Value :=
  .ofFields [("id", .ofText status.spec.name), ("min_size", .ofNat status.spec.minSize),
    ("max_size", .ofNat status.spec.maxSize), ("target_size", .ofNat status.target),
    ("nodes", .array (status.nodes.map .ofText))]

/-- The status of a group in lines: the group, and its members, indented. -/
def GroupStatus.lines (status : GroupStatus) : List String :=
  let sizes := s!"min={status.spec.minSize} max={status.spec.maxSize} target={status.target}"
  s!"{status.spec.name}  {sizes} live={status.nodes.length}" :: status.nodes.map ("  " ++ ·)

/-- What is shown of the groups, with an end to every line. -/
def reportText (format : String) (groups : List GroupStatus) : String :=
  if format = "json" then (Json.Value.array (groups.map GroupStatus.json)).indentedText ++ "\n"
  else String.join ((groups.flatMap GroupStatus.lines).map (· ++ "\n"))

end NodeScaler.Cli
