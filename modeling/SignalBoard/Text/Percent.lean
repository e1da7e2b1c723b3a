/-
# Percent encoding

How text travels in the target of a request. A character outside the class that may stand as it
is becomes the bytes of its UTF-8 form, each written as a percent sign and two hexadecimal
digits in upper case. The classes differ between a search name, the fields of a form and the
path of an address, so a class is an argument.
-/

namespace SignalBoard.Text

/-- The hexadecimal digit of a number below sixteen, in upper case. -/
def upperHexDigit (n : Nat) : Char :=
  if n < 10 then Char.ofNat ('0'.toNat + n) else Char.ofNat ('A'.toNat + n - 10)

/-- The escape of a byte. -/
def escapeByte (byte : UInt8) : List Char :=
  ['%', upperHexDigit (byte.toNat / 16), upperHexDigit (byte.toNat % 16)]

/-- A character, or the escapes of its bytes if it does not belong to the class. -/
def percentChar (kept : Char → Bool) (c : Char) : List Char :=
  if kept c then [c] else (String.utf8EncodeChar c).flatMap escapeByte

/-- A text with the characters outside the class escaped. -/
def percentEncode (kept : Char → Bool) (cs : List Char) : List Char :=
  cs.flatMap (percentChar kept)

/-- A letter or digit of ASCII. -/
def isWordChar (c : Char) : Bool := c.isAlpha || c.isDigit

/-- What stands as it is in a name that is searched for. -/
def keptInName (c : Char) : Bool := isWordChar c || ['-', '.', '_', '~'].contains c

/-- What stands as it is in a field of a form. -/
def keptInForm (c : Char) : Bool := isWordChar c || ['*', '-', '.', '_'].contains c

/-- Is the character printable ASCII? -/
def isPrintable (c : Char) : Bool := 0x20 < c.toNat && c.toNat < 0x7F

/-- What stands as it is in the path of an address. -/
def keptInPath (c : Char) : Bool :=
  isPrintable c && !(['"', '#', '<', '>', '?', '\x60', '\x7b', '\x7d'].contains c)

/-- What stands as it is in the query of an address. -/
def keptInQuery (c : Char) : Bool :=
  isPrintable c && !(['"', '#', '<', '>', '\x27'].contains c)

/-- A field of a form, in which a plus sign stands for a space. -/
def formField (s : String) : List Char :=
  s.toList.flatMap fun c => if c = ' ' then ['+'] else percentChar keptInForm c

/-- The fields of a form as a query. -/
def formQuery (pairs : List (String × String)) : String :=
  String.ofList (['&'].intercalate
    (pairs.map fun (key, value) => formField key ++ '=' :: formField value))

/-- A text of characters of the class is not changed. -/
theorem percentEncode_eq_self (kept : Char → Bool) (cs : List Char)
    (all : cs.all kept = true) : percentEncode kept cs = cs := by
  induction cs with
  | nil => rfl
  | cons c rest ih =>
      simp only [List.all_cons, Bool.and_eq_true] at all
      simp only [percentEncode, List.flatMap_cons, percentChar, all.1] at ih ⊢
      simpa using ih all.2

/-- Encoding goes through a text piece by piece. -/
theorem percentEncode_append (kept : Char → Bool) (cs ds : List Char) :
    percentEncode kept (cs ++ ds) = percentEncode kept cs ++ percentEncode kept ds := by
  simp [percentEncode]

end SignalBoard.Text
