import SearchFilter.Text.Blank

/-!
# Paths

The path of an address is a row of steps with slashes between them.  A step `.` means to stay, and
`..` means to go back one step; `withoutDots` carries these out.
-/

namespace SearchFilter.Address

open SearchFilter.Text

/-- The step that stays. -/
def stay : List Char := ['.']

/-- The step that goes back. -/
def back : List Char := ['.', '.']

/-- Takes a step after the steps so far, the last one first.  The start of the path is not left. -/
def take (taken : List (List Char)) (step : List Char) : List (List Char) :=
  if step == stay then taken
  else if step == back then
    if taken == [[]] then taken else taken.drop 1
  else step :: taken

/-- A path with its dots carried out. -/
def withoutDots (path : List Char) : List Char :=
  ['/'].intercalate ((pieces (· == '/') path).foldl take []).reverse

/-- Whether a path can stand in an address: after a host it starts with a slash, and without host
and scheme it does not look as if it started with one of these. -/
def isPath (hasScheme hasHost : Bool) (path : List Char) : Bool :=
  if hasHost then path.isEmpty || path.head? == some '/'
  else hasScheme || !(['/', '/'].isPrefixOf path || [':'].isPrefixOf path)

end SearchFilter.Address
