/-
# Email addresses

An address is a local part, an at sign and a domain. The local part is one or more letters,
digits and marks; the domain is two or more parts with single dots between them, each part one
or more letters, digits and dashes. Letters and digits are those of ASCII.
-/

import SignalBoard.Text.Fields

namespace SignalBoard.Email

/-- The marks that a local part may hold besides letters and digits. -/
def marks : List Char := ".!#$%&'*+/=?^_`\x7b|\x7d~-".toList

/-- May the character stand in a local part? -/
def isLocalChar (c : Char) : Bool := c.isAlphanum || marks.contains c

/-- May the character stand in a part of a domain? -/
def isDomainChar (c : Char) : Bool := c.isAlphanum || c = '-'

/-- Is the text one or more characters of a class? -/
def isRun (ofClass : Char → Bool) (cs : List Char) : Bool := !cs.isEmpty && cs.all ofClass

/-- Is the text a domain? -/
def isDomain (cs : List Char) : Bool :=
  let parts := Text.fields '.' cs
  2 ≤ parts.length && parts.all (isRun isDomainChar)

/-- Is the text an address? Neither part can hold an at sign, so the first one divides them. -/
def isAddress (cs : List Char) : Bool :=
  match cs.dropWhile (· != '@') with
  | _ :: domain => isRun isLocalChar (cs.takeWhile (· != '@')) && isDomain domain
  | [] => false

end SignalBoard.Email
