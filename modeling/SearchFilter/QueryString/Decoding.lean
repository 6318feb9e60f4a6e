import SearchFilter.Text.Blank
import SearchFilter.Text.Split

/-!
# Pairs of a query string

A query string lists pairs `key=value`, separated by `&`.  In both parts `+` stands for a space and
`%XX` for the byte with that hexadecimal number; bytes spell characters in UTF-8.

Decoding a part takes two steps:

* `symbols` reads percent signs and turns ASCII characters into bytes.  Characters outside ASCII are
  not bytes, they stand for themselves and end a sequence of bytes.
* `characters` decodes the bytes.  It keeps what it still expects of a character that has begun
  (`Pending`); when something else comes, the bytes so far are replaced by one U+FFFD, and what has
  come is looked at afresh.
-/

namespace SearchFilter.QueryString

open SearchFilter.Text

/-! ## Percent signs -/

/-- An element of a text between percent decoding and UTF-8 decoding. -/
inductive Symbol where
  | byte (b : UInt8)
  | char (c : Char)
deriving DecidableEq, Repr

/-- The symbol of a character that is not part of an escape. -/
def Symbol.ofChar (c : Char) : Symbol :=
  if c.toNat < 128 then .byte (UInt8.ofNat c.toNat) else .char c

/-- The value of a hexadecimal digit. -/
def hexDigitValue? (c : Char) : Option Nat :=
  if '0' ≤ c && c ≤ '9' then some (c.toNat - 48)
  else if 'a' ≤ c && c ≤ 'f' then some (c.toNat - 87)
  else if 'A' ≤ c && c ≤ 'F' then some (c.toNat - 55)
  else none

/-- The byte written by two hexadecimal digits. -/
def escapedByte? (high low : Char) : Option UInt8 :=
  match hexDigitValue? high, hexDigitValue? low with
  | some h, some l => some (UInt8.ofNat (16 * h + l))
  | _, _ => none

/-- Reads the escapes of a text; a percent sign without two digits stands for itself. -/
def symbols : List Char → List Symbol
  | [] => []
  | '%' :: high :: low :: rest =>
    match escapedByte? high low with
    | some b => .byte b :: symbols rest
    | none => .ofChar '%' :: symbols (high :: low :: rest)
  | c :: rest => .ofChar c :: symbols rest

/-! ## UTF-8 -/

/-- What is expected of a character that has begun: the bits so far, the range of the next byte, and
how many more bytes follow that one. -/
structure Pending where
  bits : Nat
  least : Nat
  greatest : Nat
  more : Nat

/-- What a byte means at the start of a character. -/
inductive Lead where
  | complete (c : Char)
  | begun (pending : Pending)
  | invalid

/-- The meaning of a first byte.  The ranges of the second byte exclude overlong forms, surrogates
and numbers above U+10FFFF. -/
def lead (b : Nat) : Lead :=
  if b < 0x80 then .complete (Char.ofNat b)
  else if b < 0xC2 then .invalid
  else if b < 0xE0 then .begun ⟨b - 0xC0, 0x80, 0xBF, 0⟩
  else if b < 0xF0 then
    .begun ⟨b - 0xE0, if b = 0xE0 then 0xA0 else 0x80, if b = 0xED then 0x9F else 0xBF, 1⟩
  else if b < 0xF5 then
    .begun ⟨b - 0xF0, if b = 0xF0 then 0x90 else 0x80, if b = 0xF4 then 0x8F else 0xBF, 2⟩
  else .invalid

/-- Stands for bytes that spell no character. -/
def replacement : Char := '\uFFFD'

/-- The replacement of a character that has begun and is not completed. -/
def abandoned (pending : Option Pending) : List Char :=
  if pending.isSome then [replacement] else []

/-- The characters spelled by a list of symbols, after the bytes of a character that has begun. -/
def charactersAfter : Option Pending → List Symbol → List Char
  | pending, [] => abandoned pending
  | pending, .char c :: rest => abandoned pending ++ c :: charactersAfter none rest
  | none, .byte b :: rest =>
    match lead b.toNat with
    | .complete c => c :: charactersAfter none rest
    | .begun next => charactersAfter (some next) rest
    | .invalid => replacement :: charactersAfter none rest
  | some pending, .byte b :: rest =>
    if pending.least ≤ b.toNat && b.toNat ≤ pending.greatest then
      let bits := pending.bits * 64 + b.toNat % 64
      match pending.more with
      | 0 => Char.ofNat bits :: charactersAfter none rest
      | more + 1 => charactersAfter (some ⟨bits, 0x80, 0xBF, more⟩) rest
    else
      replacement :: match lead b.toNat with
        | .complete c => c :: charactersAfter none rest
        | .begun next => charactersAfter (some next) rest
        | .invalid => replacement :: charactersAfter none rest

/-- The characters spelled by a list of symbols. -/
def characters (row : List Symbol) : List Char :=
  charactersAfter none row

/-! ## Pairs -/

/-- A key or value, decoded. -/
def decodePart (cs : List Char) : List Char :=
  characters (symbols (cs.map fun c => if c == '+' then ' ' else c))

/-- The pair written by one piece of a query string; without an equals sign the value is empty. -/
def decodePair (piece : List Char) : List Char × List Char :=
  let cut := cutAt '=' piece
  (decodePart cut.1, decodePart (cut.2.getD []))

/-- The pairs of a query string, in order.  Question marks at the start and empty pieces are
ignored. -/
def decodePairs (query : String) : List (List Char × List Char) :=
  ((pieces (· == '&') (query.toList.dropWhile (· == '?'))).filter
    (fun piece => !piece.isEmpty)).map decodePair

end SearchFilter.QueryString
