import NodeScaler.Config.Error
import NodeScaler.Text.Blank
import NodeScaler.Text.Integer

/-!
# Discovery strings of node groups

A node group is announced as `<min>:<max>:<name>`. The name is everything after the
second colon and keeps its blanks and colons; the sizes may stand between blanks. The
checks come in a fixed order and the first that fails is reported: the form, the two
integers, the lower bound of the minimum, the order of the bounds, the name, and last
the width of the sizes.
-/

namespace NodeScaler

/-- The name of a node group and the bounds of its size. -/
structure GroupSpec where
  /-- The name, which is also the identifier of the group. -/
  name : String
  /-- The least size. -/
  minSize : Nat
  /-- The greatest size. -/
  maxSize : Nat
deriving DecidableEq, Repr

/-- What is wrong with a discovery string. -/
inductive SpecFlaw where
  /-- There are fewer than two colons. -/
  | shape
  /-- The minimum is no integer of 64 bits. -/
  | minNotInteger (written : String)
  /-- The maximum is no integer of 64 bits. -/
  | maxNotInteger (written : String)
  /-- The minimum is below the least one allowed. -/
  | minBelow (least : Nat)
  /-- The maximum is below the minimum. -/
  | maxBelowMin
  /-- The name holds blanks only. -/
  | blankName
  /-- A size does not fit into 32 bits. -/
  | outOfRange (size : Int)
deriving DecidableEq, Repr

/-- The text of a flaw. -/
def SpecFlaw.message : SpecFlaw → String
  | shape => "expected <min>:<max>:<name>"
  | minNotInteger written => s!"failed to set min size: {written}, expected integer"
  | maxNotInteger written => s!"failed to set max size: {written}, expected integer"
  | minBelow least => s!"min size must be >= {least}"
  | maxBelowMin => "max size must be greater or equal to min size"
  | blankName => "name must not be blank"
  | outOfRange size => s!"size {size} out of range"

namespace GroupSpec

/-- The parts before and after the first colon. -/
def cutAtColon? (cs : List Char) : Option (List Char × List Char) :=
  match cs.dropWhile (· ≠ ':') with
  | [] => none
  | _ :: rest => some (cs.takeWhile (· ≠ ':'), rest)

/-- The three fields of a discovery string. -/
def fields? (cs : List Char) : Option (List Char × List Char × List Char) := do
  let (least, rest) ← cutAtColon? cs
  let (greatest, name) ← cutAtColon? rest
  return (least, greatest, name)

/-- A size fits into 32 bits. -/
def size (value : Int) : Except SpecFlaw Nat :=
  if 0 ≤ value ∧ value.toNat < Nat.pow 2 32 then .ok value.toNat else .error (.outOfRange value)

/-- Reads a discovery string. With `scaleToZero` the minimum may be zero. -/
def read (written : String) (scaleToZero : Bool) : Except SpecFlaw GroupSpec := do
  let some (least, greatest, name) := fields? written.toList | throw .shape
  let some minimum := Text.readSigned? 64 (Text.trimBlanks least)
    | throw (.minNotInteger (String.ofList least))
  let some maximum := Text.readSigned? 64 (Text.trimBlanks greatest)
    | throw (.maxNotInteger (String.ofList greatest))
  let allowed : Nat := if scaleToZero then 0 else 1
  if minimum < Int.ofNat allowed then throw (.minBelow allowed)
  if maximum < minimum then throw .maxBelowMin
  if name.all Text.isBlank then throw .blankName
  return { name := String.ofList name, minSize := ← size minimum, maxSize := ← size maximum }

/-- Reads a discovery string, reporting a flaw together with the string. -/
def parse (written : String) (scaleToZero : Bool) : Except ConfigError GroupSpec :=
  (read written scaleToZero).mapError fun flaw => .invalidSpec written flaw.message

/-- The one node group that the discovery strings announce; its minimum may be zero. -/
def single : List String → Except ConfigError GroupSpec
  | [] => .error .noNodeGroups
  | [written] => parse written true
  | several => .error (.tooManyNodeGroups several.length)

end GroupSpec

end NodeScaler
