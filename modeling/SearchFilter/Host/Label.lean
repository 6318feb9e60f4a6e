import SearchFilter.Host.Direction
import SearchFilter.Host.Letters
import SearchFilter.Host.Neighbours
import SearchFilter.Host.Punycode
import SearchFilter.Text.Blank
import SearchFilter.Text.CodeRun
import SearchFilter.Text.Composition

/-!
# Labels

The name of a host is a row of labels with dots between them.  On the wire a label consists of ASCII
letters, digits and hyphens; a label with other characters is encoded and marked by `xn--`.

* `isLabel` tells which texts may be labels.
* `labelToAscii?` and `nameToAscii?` give the form of a label and of a whole name on the wire.
-/

namespace SearchFilter.Host

open SearchFilter.Text

/-! ## Labels -/

/-- The most characters that a name or a label may have. -/
def nameLimit : Nat := 253

/-- The most characters of a label on the wire. -/
def labelLimit : Nat := 63

/-- Whether no hyphen stands at an end of a label or in its third and fourth place, where it would
look like a mark of encoding. -/
def hyphensFit (label : List Char) : Bool :=
  (label.drop 2).take 2 != ['-', '-'] && label.head? != some '-' && label.getLast? != some '-'

/-- Whether each character of the rest of a label may stand there, after the characters in `before`,
the last one first. -/
def charactersFit (before : List Char) : List Char → Bool
  | [] => true
  | c :: cs => (isLetter c || fitsBetween before c cs) && charactersFit (c :: before) cs

/-- Whether a text may be a label. -/
def isLabel (label : List Char) : Bool :=
  !label.isEmpty && label.length ≤ nameLimit + 1 && hyphensFit label &&
    !label.head?.any isMark && charactersFit [] label && isComposed label && directionsFit label

/-- The mark of an encoded label. -/
def encodedMark : List Char := "xn--".toList

/-- Whether a label in ASCII letters is one, or stands for one if it is encoded. -/
def isAsciiLabel (label : List Char) : Bool :=
  if encodedMark.isPrefixOf label then
    let code := label.drop encodedMark.length
    !code.isEmpty && code.getLast? != some '-' && (Punycode.decode code).any isLabel
  else isLabel label

/-- A label on the wire. -/
def labelToAscii? (label : List Char) : Option (List Char) :=
  let wire := if label.all isAscii then label else encodedMark ++ Punycode.encode label
  let fits := if label.all isAscii then isAsciiLabel label else isLabel label
  if fits && wire.length ≤ labelLimit then some wire else none

/-! ## Names -/

/-- Whether a character is a dot between labels, in any of its widths. -/
def isDot (c : Char) : Bool :=
  c == '.' || c == '\u3002' || c == '\uFF0E' || c == '\uFF61'

/-- A name on the wire.  A dot may end the name. -/
def nameToAscii? (name : List Char) : Option (List Char) :=
  let labels := pieces isDot name
  let dotted := labels.getLast? == some []
  let ending := if dotted then ['.'] else []
  match (if dotted then labels.dropLast else labels).mapM labelToAscii? with
  | none => none
  | some labels =>
    let wire := ['.'].intercalate labels ++ ending
    if name.length ≤ nameLimit + 1 && wire.length ≤ nameLimit + ending.length then some wire
    else none

end SearchFilter.Host
