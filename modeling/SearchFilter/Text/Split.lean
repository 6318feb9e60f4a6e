/-!
# Cutting a text at a separator

Three ways of cutting, all by recursion on the list of characters:

* `splitOn` cuts at every occurrence of a separator, leftmost first and without overlap;
* `cutAt` cuts once, at the first occurrence of one character;
* `stripSuffix?` removes a suffix, if the text has it.

`contains` tells whether one text occurs inside another.
-/

namespace SearchFilter.Text

/-- Adds a character to the first of several pieces. -/
def consToFirst (c : Char) : List (List Char) → List (List Char)
  | [] => [[c]]
  | piece :: rest => (c :: piece) :: rest

/-- Cuts at the occurrences of `separator`, after skipping `skip` characters that belong to an
occurrence already found. -/
def splitSkipping (separator : List Char) : Nat → List Char → List (List Char)
  | _, [] => [[]]
  | skip + 1, _ :: cs => splitSkipping separator skip cs
  | 0, c :: cs =>
    if separator.isPrefixOf (c :: cs) then
      [] :: splitSkipping separator (separator.length - 1) cs
    else consToFirst c (splitSkipping separator 0 cs)

/-- Cuts at every occurrence of `separator`, which must not be empty. -/
def splitOn (separator text : String) : List String :=
  (splitSkipping separator.toList 0 text.toList).map String.ofList

/-- What stands before the first `mark`, and what stands after it if there is one. -/
def cutAt (mark : Char) : List Char → List Char × Option (List Char)
  | [] => ([], none)
  | c :: cs =>
    if c == mark then ([], some cs)
    else
      let cut := cutAt mark cs
      (c :: cut.1, cut.2)

/-- The part before `suffix`, when the text ends with it. -/
def stripSuffix? (suffix text : String) : Option String :=
  if suffix.toList.isSuffixOf text.toList then
    some (String.ofList (text.toList.take (text.toList.length - suffix.toList.length)))
  else none

/-- Whether `part` occurs in a list of characters. -/
def containsChars (part : List Char) : List Char → Bool
  | [] => part.isEmpty
  | c :: cs => part.isPrefixOf (c :: cs) || containsChars part cs

/-- Whether `part` occurs in `text`. -/
def contains (part text : String) : Bool :=
  containsChars part.toList text.toList

/-- Whether `text` begins with `start`. -/
def beginsWith (start text : String) : Bool :=
  start.toList.isPrefixOf text.toList

end SearchFilter.Text
