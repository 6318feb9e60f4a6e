/-!
# Blank characters and words

Parameter text is cut at blank characters.  This file fixes which characters are blank and
gives the two operations that every reader of a parameter uses:

* `strip` drops the blanks at both ends of a text;
* `words` lists the maximal runs of characters that are not blank.

The work is done on lists of characters, by recursion on the list; the functions on `String`
only convert.
-/

namespace SearchFilter.Text

/-- Tab to carriage return, the four information separators, the space, next line, and the
spaces and separators of the general punctuation.  The zero width space is not one of them. -/
def isBlank (c : Char) : Bool :=
  let n := c.toNat
  (9 ≤ n && n ≤ 13) || (28 ≤ n && n ≤ 32) || n == 0x85 || n == 0xA0 || n == 0x1680 ||
    (0x2000 ≤ n && n ≤ 0x200A) || n == 0x2028 || n == 0x2029 || n == 0x202F || n == 0x205F ||
    n == 0x3000

/-! ## Trimming -/

/-- Drops the characters satisfying `p` at the end of a list. -/
def dropTrailing (p : Char → Bool) (cs : List Char) : List Char :=
  (cs.reverse.dropWhile p).reverse

/-- The list without its leading and trailing blanks. -/
def trim (cs : List Char) : List Char :=
  dropTrailing isBlank (cs.dropWhile isBlank)

/-- The text without its leading and trailing blanks. -/
def strip (s : String) : String :=
  String.ofList (trim s.toList)

/-! ## Cutting into words -/

/-- The stretches between the characters satisfying `p`, empty ones included: one more than
there are such characters. -/
def pieces (p : Char → Bool) : List Char → List (List Char)
  | [] => [[]]
  | c :: cs =>
    if p c then [] :: pieces p cs
    else match pieces p cs with
      | [] => [[c]]
      | word :: rest => (c :: word) :: rest

/-- The maximal runs of characters that are not blank. -/
def wordsOf (cs : List Char) : List (List Char) :=
  (pieces isBlank cs).filter (fun word => !word.isEmpty)

/-- The words of a text, in order. -/
def words (s : String) : List String :=
  (wordsOf s.toList).map String.ofList

end SearchFilter.Text
