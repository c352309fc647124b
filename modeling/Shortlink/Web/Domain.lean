import Shortlink.Text.Canonical
import Shortlink.Text.Search
import Shortlink.Web.Domain.Direction
import Shortlink.Web.Domain.Joining
import Shortlink.Web.Domain.Mapping
import Shortlink.Web.Punycode

/-!
# Domain names

An internationalised domain name is brought into its one readable form: capital, wide and
other variant characters are replaced, invisible ones dropped, marks composed, and labels
in their ASCII form read. A name that has no such form is refused.
-/

namespace Shortlink.Web.Domain

open Text (canonical)
open Text.Canonical (markClass)

/-! ## Characters -/

/-- ASCII characters that no host holds: controls, the space, and the delimiters of
URLs. -/
def isForbidden (c : Char) : Bool :=
  c.toNat ≤ 0x20 || c.toNat == 0x7F ||
    ['%', '#', '/', ':', '<', '>', '?', '@', '[', '\\', ']', '^', '|'].contains c

/-- What a character of a name stands for; none for one that must not occur. -/
def mapChar? (c : Char) : Option (List Char) :=
  if disallowed.contains c then none
  else if dropped.contains c then some []
  else
    match single.find? c with
    | some target => some [target]
    | none => some ((several.find? c).getD [c])

/-- A character that stands for itself. -/
def isPlain (c : Char) : Bool := mapChar? c == some [c] && !isForbidden c

/-- The characters that a name stands for. -/
def mapAll? (name : List Char) : Option (List Char) :=
  (name.mapM mapChar?).map List.flatten

/-! ## Labels -/

/-- A joiner is in its place between the text before it, in reverse, and the text after
it. -/
def joinerAllowed (c : Char) (before after : List Char) : Bool :=
  match before with
  | [] => false
  | last :: _ =>
    markClass last == vowelKiller ||
      (c == '\u200c' && joinsAt .left before && joinsAt .right after)

/-- Every joiner of a label is in its place; `before` is what has been passed, in
reverse. -/
def joinersAllowed (before : List Char) : List Char → Bool
  | [] => true
  | c :: rest =>
    ((c != '\u200c' && c != '\u200d') || joinerAllowed c before rest) &&
      joinersAllowed (c :: before) rest

/-- The greatest length of a label beyond ASCII. -/
def maxLabel : Nat := 1000

/-- The greatest length of what an ASCII form says about a label. -/
def maxEncoded : Nat := 2000

/-- All characters are ASCII. -/
def isAscii (text : List Char) : Bool := text.all fun c => c.toNat < 128

/-- A label in readable form, beyond ASCII, is allowed. -/
def labelAllowed (label : List Char) : Bool :=
  !(label.head?.any marks.contains) && joinersAllowed [] label && label.length ≤ maxLabel

/-- The readable form of a label whose ASCII form is given without its mark `xn--`. The
form must be one that can be read and that stands for itself. -/
def decodeLabel? (encoded : List Char) : Option (List Char) := do
  if encoded.isEmpty ∨ encoded.getLast? = some '-' ∨ maxEncoded < encoded.length then none
  let label ← Punycode.decode? encoded
  if label.all isPlain ∧ '.' ∉ label ∧ canonical label = label ∧ labelAllowed label then
    some label
  else none

/-- The readable form of a label whose characters have been replaced. -/
def readLabel? (label : List Char) : Option (List Char) :=
  match label with
  | 'x' :: 'n' :: '-' :: '-' :: encoded => decodeLabel? encoded
  | _ => if isAscii label ∨ labelAllowed label then some label else none

/-! ## Names -/

/-- The labels of a name in readable form. -/
def labels? (name : List Char) : Option (List (List Char)) := do
  let mapped ← mapAll? name
  if mapped.any isForbidden then none
  let labels ← (Text.piecesAt '.' (canonical mapped)).mapM readLabel?
  if labels.any runsLeftward ∧ ¬ labels.all keepsDirection then none else some labels

/-- A name in readable form. -/
def readable? (name : List Char) : Option (List Char) :=
  (labels? name).map fun labels => ['.'].intercalate labels

end Shortlink.Web.Domain
