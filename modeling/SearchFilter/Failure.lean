import SearchFilter.Text.Quoted

/-!
# Failures

Everything that can go wrong between a set of parameters and a page of results, one constructor
for each cause.  `Failure.message` is the only place that holds the wording.
-/

namespace SearchFilter

/-- Why an operation gave no result. -/
inductive Failure where
  /-- A value looks like a date, but the date parser refused it with the given reason. -/
  | unreadableDate (value reason : String)
  /-- A date parser was called directly and refused with the given reason. -/
  | refusedDate (reason : String)
  /-- The process-wide settings have been read and can no longer be changed. -/
  | settingsInUse
  /-- A request was made through a client that is not open. -/
  | clientClosed
  /-- The backend refused the search. -/
  | searchRefused
  /-- No predicate of the registry has this name. -/
  | unknownPredicate (name : String)
  /-- A field part was to be split at an empty separator. -/
  | emptySeparator
  /-- A text does not denote an integer. -/
  | notAnInteger (text : String)
  /-- A numeral has more digits than are converted. -/
  | numeralTooLong (digits : Nat)
  /-- An integer has more digits than are written. -/
  | integerTooLong
  /-- A value that is not a number was to become an integer. -/
  | notANumber
  /-- An infinite number was to become an integer. -/
  | infiniteNumber
  /-- A quotient lies beyond the range of double precision. -/
  | quotientTooLarge
  /-- A sort direction is neither `asc` nor `desc`. -/
  | unknownDirection (text : String)
  /-- An item of a row, at the given place, is not a pair but has the given length. -/
  | notAPair (place length : Nat)
  /-- An index lies outside the list of records. -/
  | indexOutOfRange
  /-- An operation does not apply to a value of this type. -/
  | wrongType
  /-- A value, model or column has no member of the name asked for. -/
  | noSuchMember
  /-- A method of a model gave nothing. -/
  | methodFailed
  /-- A list of the command line was emptied and filled. -/
  | emptiedAndFilled
  /-- A text is not the address of anything. -/
  | malformedAddress
  /-- An address, as it is written, has no scheme. -/
  | noScheme (address : String)
  /-- A text that is sent before the body has characters outside ASCII. -/
  | notAscii
  /-- A response body is not JSON. -/
  | malformedJson
  /-- The server could not be reached. -/
  | connectionFailed
  /-- The server answered with a status outside 200 to 299. -/
  | badStatus (status : Nat)
deriving DecidableEq, Repr

namespace Failure

/-- The most characters of a rejected text that a message about integers shows. -/
def shownLength : Nat := 200

/-- The wording of each failure. -/
def message : Failure → String
  | unreadableDate value reason =>
    "Cannot parse " ++ Text.quoted value ++ " as a date: " ++ reason
  | refusedDate reason => reason
  | settingsInUse => "Settings are read-only once in use; call configure() at startup"
  | clientClosed => "Backend not initialized. Use 'with backend:'"
  | searchRefused => "search failed"
  | unknownPredicate name => "Unknown predicate: " ++ name
  | emptySeparator => "empty separator"
  | notAnInteger text =>
    "invalid literal for int() with base 10: " ++
      String.ofList ((Text.quoted text).toList.take shownLength)
  | numeralTooLong digits =>
    "Exceeds the limit (4300 digits) for integer string conversion: value has " ++
      toString digits ++ " digits; use sys.set_int_max_str_digits() to increase the limit"
  | integerTooLong =>
    "Exceeds the limit (4300 digits) for integer string conversion; " ++
      "use sys.set_int_max_str_digits() to increase the limit"
  | notANumber => "cannot convert float NaN to integer"
  | infiniteNumber => "cannot convert float infinity to integer"
  | quotientTooLarge => "integer division result too large for a float"
  | unknownDirection text => Text.quoted text ++ " is not a valid SortDirection"
  | notAPair place length =>
    "dictionary update sequence element #" ++ toString place ++ " has length " ++
      toString length ++ "; 2 is required"
  | indexOutOfRange => "list index out of range"
  | wrongType => "operation not supported by a value of this type"
  | noSuchMember => "no such member"
  | methodFailed => "a method of the model failed"
  | emptiedAndFilled => "a list is both emptied and filled"
  | malformedAddress => "malformed address"
  | noScheme address => "unknown url type: " ++ Text.quoted address
  | notAscii => "text outside ASCII"
  | malformedJson => "response body is not JSON"
  | connectionFailed => "connection failed"
  | badStatus status => "unexpected response status " ++ toString status

end Failure

end SearchFilter
