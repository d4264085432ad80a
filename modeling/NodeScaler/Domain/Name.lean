import NodeScaler.Domain.Composition
import NodeScaler.Domain.Direction
import NodeScaler.Domain.Joining
import NodeScaler.Domain.Punycode
import NodeScaler.Domain.Substitute

/-!
# Names of hosts

A name is a row of labels with points between them. It may be given with any characters,
and is sent in ASCII: every character is replaced by what it stands for, letters are
composed with their marks, and a label that still holds other characters than ASCII is
written behind `xn--` in Punycode. A label that is given in that form must be one that would
be written so. A label neither begins with a mark nor holds a joiner out of place, and the
labels of a name with letters from right to left are readable without doubt.
-/

namespace NodeScaler.Domain

/-- The character may not stand in a name: a control, a space, or one with a meaning in an
address. -/
def isForbidden (c : Char) : Bool :=
  c.toNat ≤ 0x20 || c == '\x7f' ||
    ['%', '#', '/', ':', '<', '>', '?', '@', '[', '\\', ']', '^', '|'].contains c

/-- A label of a name. -/
structure Label where
  /-- The label as it is read. -/
  shown : List Char
  /-- The label in ASCII. -/
  written : List Char

/-- What stands in front of a label in Punycode. -/
def codeSign : List Char := ['x', 'n', '-', '-']

/-- The number of characters up to which a label is read in Punycode, and twice the number
up to which it is written so. -/
def codeBound : Nat := 2000

/-- The characters stand for themselves, composed with their marks. -/
def isStable (cs : List Char) : Bool :=
  cs.all (fun c => substitute? c == some [c]) && composed cs == cs

/-- Reads a label whose characters have been replaced. -/
def readLabel? (cs : List Char) : Option Label :=
  match cs with
  | 'x' :: 'n' :: '-' :: '-' :: code =>
    if code.isEmpty || code.getLast? == some '-' || codeBound < code.length then none
    else do
      let shown ← Punycode.decode? code
      if isStable shown then some ⟨shown, cs⟩ else none
  | _ =>
    if cs.all fun c => c.toNat < 128 then some ⟨cs, cs⟩
    else if codeBound < 2 * cs.length then none
    else some ⟨cs, codeSign ++ Punycode.encode cs⟩

/-- The label may stand in a name. -/
def isProper (label : Label) : Bool :=
  !label.shown.any isForbidden && !label.shown.contains '.' && !label.shown.head?.any isMark &&
    joinersMatter [] label.shown

/-- The name in ASCII. -/
def toAscii? (name : List Char) : Option (List Char) := do
  let replaced ← name.mapM substitute?
  let labels ← (Text.splitAt '.' (composed replaced.flatten)).mapM readLabel?
  if !labels.all isProper then none
  else if (labels.any fun label => label.shown.any turns) &&
      !labels.all (fun label => isReadable label.shown) then none
  else some (['.'].intercalate (labels.map Label.written))

end NodeScaler.Domain
