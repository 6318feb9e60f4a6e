import SearchFilter.Address.Path
import SearchFilter.Failure
import SearchFilter.Host.Basic
import SearchFilter.Number.Numeral
import SearchFilter.QueryString.Decoding
import SearchFilter.Text.Base64
import SearchFilter.Text.CodeRun
import SearchFilter.Text.Letter
import SearchFilter.Text.Percent

/-!
# Addresses

An address has the parts `scheme://user@host:service/path?query#fragment`, and all of them may be
missing.

* `Address.parse` reads an address and brings its parts into the form in which they are sent.
* `Address.text` writes an address.
* `Address.resolve` follows a path below a base address.
* `Address.authorization` is the proof of identity for the name and password in an address.
-/

namespace SearchFilter

open SearchFilter.Text SearchFilter.Number

/-- An address with all parts in the form in which they are sent. -/
structure Address where
  scheme : List Char
  /-- The name of the user, or name and password with a colon between them. -/
  userInfo : List Char
  host : List Char
  /-- The number of the service on the host, unless it is the usual one of the scheme. -/
  service : Option Int
  path : List Char
  query : Option (List Char)
  fragment : Option (List Char)
deriving DecidableEq, Repr

namespace Address

/-! ## Cutting an address into parts -/

/-- The parts of an address as they are written; `authority` is user, host and service. -/
structure Parts where
  scheme : List Char
  authority : List Char
  path : List Char
  query : Option (List Char)
  fragment : Option (List Char)
deriving DecidableEq, Repr

/-- Whether a character is an ASCII letter. -/
def isAsciiLetter (c : Char) : Bool :=
  ('a' ≤ c && c ≤ 'z') || ('A' ≤ c && c ≤ 'Z')

/-- Whether a character may stand in a scheme. -/
def isSchemeChar (c : Char) : Bool :=
  isAsciiLetter c || isAsciiDigit c || c == '+' || c == '.' || c == '-'

/-- The scheme and the rest: what stands before the first colon, if that is empty or has the form of
a scheme. -/
def cutScheme (cs : List Char) : List Char × List Char :=
  let scheme := cs.takeWhile isSchemeChar
  match cs.dropWhile isSchemeChar with
  | ':' :: rest => if scheme.head?.all isAsciiLetter then (scheme, rest) else ([], cs)
  | _ => ([], cs)

/-- The authority, marked by two slashes, and the rest. -/
def cutAuthority : List Char → List Char × List Char
  | '/' :: '/' :: cs =>
    let ends (c : Char) : Bool := c == '/' || c == '?' || c == '#'
    (cs.takeWhile (!ends ·), cs.dropWhile (!ends ·))
  | cs => ([], cs)

/-- The parts of an address. -/
def Parts.ofText (cs : List Char) : Parts :=
  let (scheme, rest) := cutScheme cs
  let (authority, rest) := cutAuthority rest
  let (rest, fragment) := cutAt '#' rest
  let (path, query) := cutAt '?' rest
  ⟨scheme, authority, path, query, fragment⟩

/-- What stands before and after the last `mark`; without a mark everything stands after it. -/
def cutAtLast (mark : Char) (cs : List Char) : List Char × List Char :=
  let after := (cs.reverse.takeWhile (· != mark)).reverse
  ((cs.take (cs.length - after.length)).dropLast, after)

/-- The host of an authority without user, and the text of the service.  A host in brackets reaches
to the last bracket. -/
def cutHost (cs : List Char) : List Char × List Char :=
  let host :=
    if cs.head? == some '[' && cs.contains ']' then (cutAtLast ']' cs).1 ++ [']']
    else cs.takeWhile (· != ':')
  let rest := cs.drop host.length
  (host, if rest.head? == some ':' then rest.drop 1 else rest)

/-! ## The characters of the parts -/

/-- The characters of a path that are sent as they are. -/
def staysInPath : Char → Bool :=
  Percent.staysBut " \"#<>?`\x7b\x7d"

/-- The characters of a query that are sent as they are. -/
def staysInQuery : Char → Bool :=
  Percent.staysBut " \"#<>"

/-- The characters of a fragment that are kept as they are. -/
def staysInFragment : Char → Bool :=
  Percent.staysBut " \"<>`"

/-- The characters of a name and password that are sent as they are. -/
def staysInUserInfo : Char → Bool :=
  Percent.staysBut " \"#<>?`\x7b\x7d/;=@[\\]^|"

/-! ## Putting an address together -/

/-- The usual service of a scheme. -/
def usualService? (scheme : List Char) : Option Int :=
  [("ftp", 21), ("http", 80), ("https", 443), ("ws", 80), ("wss", 443)].lookup
    (String.ofList scheme)

/-- The service that a text names: none if it is empty or the usual one. -/
def serviceOf (scheme text : List Char) : Except Failure (Option Int) :=
  if text.isEmpty then .ok none
  else match readInteger (String.ofList text) with
    | .ok number => .ok (if usualService? scheme == some number then none else some number)
    | .error _ => .error .malformedAddress

/-- The address with the given parts. -/
def ofParts (parts : Parts) : Except Failure Address := do
  let (user, rest) := cutAtLast '@' parts.authority
  let (name, number) := cutHost rest
  let userInfo := Percent.encode staysInUserInfo user
  let service ← serviceOf parts.scheme number
  match Host.normalize? name with
  | none => .error .malformedAddress
  | some host =>
    let hasScheme := !parts.scheme.isEmpty
    let hasHost := !userInfo.isEmpty || !host.isEmpty || service.isSome
    if !isPath hasScheme hasHost parts.path then .error .malformedAddress
    else
      let path := if hasScheme || hasHost then withoutDots parts.path else parts.path
      return ⟨parts.scheme.map lowerChar, userInfo, host, service,
        Percent.encode staysInPath path, parts.query.map (Percent.encode staysInQuery),
        parts.fragment.map (Percent.encode staysInFragment)⟩

/-- The most characters of an address, or of one part. -/
def lengthLimit : Nat := 65536

/-- Whether a character is an ASCII control character. -/
def isControl (c : Char) : Bool :=
  c.toNat < 0x20 || c.toNat = 0x7F

/-- Reads an address. -/
def parse (text : String) : Except Failure Address :=
  let cs := text.toList
  if lengthLimit < cs.length || cs.any isControl then .error .malformedAddress
  else ofParts (Parts.ofText cs)

/-! ## Writing -/

/-- User, host and service, as they are written. -/
def authority (address : Address) : List Char :=
  (if address.userInfo.isEmpty then [] else address.userInfo ++ ['@']) ++
    (if address.host.contains ':' then '[' :: address.host ++ [']'] else address.host) ++
    (address.service.map fun number => ':' :: (signedNumeral number).toList).getD []

/-- An address as it is written. -/
def text (address : Address) : String :=
  let marked (mark : Char) (part : Option (List Char)) : List Char :=
    (part.map (mark :: ·)).getD []
  String.ofList
    ((if address.scheme.isEmpty then [] else address.scheme ++ [':']) ++
      (if address.authority.isEmpty then [] else ['/', '/'] ++ address.authority) ++
      address.path ++ marked '?' address.query ++ marked '#' address.fragment)

/-! ## Targets -/

/-- What is asked of the host: the path, at least a slash, and the query. -/
def target (address : Address) : List Char :=
  (if address.path.isEmpty then ['/'] else address.path) ++
    (address.query.map ('?' :: ·)).getD []

/-- The address with another target. -/
def withTarget (address : Address) (target : List Char) : Except Failure Address :=
  let cut := cutAt '?' target
  let parts : Parts := ⟨address.scheme, address.authority, cut.1, cut.2, address.fragment⟩
  let sizes := [parts.scheme, parts.authority, parts.path, parts.query.getD [],
    parts.fragment.getD []].map List.length
  if sizes.any (lengthLimit < ·) then .error .malformedAddress else ofParts parts

/-- The address with a slash at the end of its target. -/
def directory (address : Address) : Except Failure Address :=
  if address.target.getLast? == some '/' then .ok address
  else address.withTarget (address.target ++ ['/'])

/-- The address of a target below a base. -/
def below (base reference : Address) : Except Failure Address :=
  base.withTarget (base.target ++ reference.target.dropWhile (· == '/'))

/-- The address of a path below a base.  A part that is not encoded may keep it from being sent: the
zone of a numeric host. -/
def resolve (base : Address) (path : String) : Except Failure Address := do
  let address ← base.below (← parse path)
  if address.text.toList.all isAscii then return address else throw .notAscii

/-! ## Schemes -/

/-- Whether the text of an address starts with something that can be taken for a scheme: characters
other than slashes and a colon after them, before the last fragment. -/
def namesScheme (text : String) : Bool :=
  let cs := text.toList
  let named := if cs.contains '#' then (cutAtLast '#' cs).1 else cs
  let name := named.takeWhile fun c => c != '/' && c != ':'
  !name.isEmpty && (named.drop name.length).head? == some ':'

/-- The text of an address without the mark of an empty fragment. -/
def shownText (text : String) : String :=
  (stripSuffix? "#" text).getD text

/-! ## Identity -/

/-- A text with its escapes read. -/
def unescape (cs : List Char) : List Char :=
  QueryString.characters (QueryString.symbols cs)

/-- The proof of identity for the name and password in an address: both with a colon between them,
in base 64. -/
def authorization (address : Address) : Option String :=
  let cut := cutAt ':' address.userInfo
  let name := unescape cut.1
  let password := unescape (cut.2.getD [])
  if name.isEmpty && password.isEmpty then none
  else
    let bytes := (name ++ ':' :: password).flatMap String.utf8EncodeChar
    some ("Basic " ++ String.ofList (Base64.encode bytes))

end Address

end SearchFilter
