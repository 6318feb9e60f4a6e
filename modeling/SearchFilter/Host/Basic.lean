import SearchFilter.Host.Label
import SearchFilter.Host.Numeric
import SearchFilter.Text.CodeRun
import SearchFilter.Text.Percent
import SearchFilter.Text.SmallLetter

/-!
# Hosts

The host of an address is a name or a number.  `Host.normalize?` gives the one form in which it is
sent: names in small letters and in ASCII, numbers as they are, without the brackets that groups
have in an address.
-/

namespace SearchFilter.Host

open SearchFilter.Text

/-- Whether a text stands between brackets. -/
def isBracketed (cs : List Char) : Bool :=
  2 ≤ cs.length && cs.head? == some '[' && cs.getLast? == some ']'

/-- The characters of a name in ASCII that are sent as they are. -/
def staysInName : Char → Bool :=
  Percent.staysBut " #/:<>?@[]^"

/-- The form in which a host is sent, if it is one.  The empty host is. -/
def normalize? (host : List Char) : Option (List Char) :=
  if host.isEmpty then some []
  else if looksLikeQuad host then
    if isDottedQuad host then some host else none
  else if isBracketed host then
    let number := (host.drop 1).dropLast
    if isZonedNumber number then some number else none
  else if host.all isAscii then
    some (Percent.encode staysInName (small host))
  else nameToAscii? (small host)

end SearchFilter.Host
