import SearchFilter.Text.Quoted

/-!
# Percent-encoding

Characters that an address cannot hold are written as the bytes of their UTF-8 form, each as a
percent sign and two hexadecimal digits.  Which characters stay depends on the part of the address;
the percent sign itself always does, so that what is encoded already stays as it is.
-/

namespace SearchFilter.Text.Percent

/-- A byte as a percent sign and two digits. -/
def encodeByte (b : UInt8) : List Char :=
  '%' :: (hexNumeral 2 b.toNat).map Char.toUpper

/-- A text in which the characters that may not stay are encoded. -/
def encode (stays : Char → Bool) (cs : List Char) : List Char :=
  cs.flatMap fun c => if stays c then [c] else (String.utf8EncodeChar c).flatMap encodeByte

/-- Whether a character is a printable ASCII character that is not excluded. -/
def staysBut (excluded : String) (c : Char) : Bool :=
  0x20 ≤ c.toNat && c.toNat < 0x7F && !excluded.toList.contains c

end SearchFilter.Text.Percent
