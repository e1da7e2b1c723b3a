/-
# Lines of TOML texts

What stands between the parts of a TOML text: spaces, line breaks and comments. A reader takes
its part from the start of a text and gives what comes after it.
-/

namespace SignalBoard.Toml

/-- A space or tab. -/
def isSpace (c : Char) : Bool := c = ' ' || c = '\t'

/-- The text without the spaces and tabs in front. -/
def skipSpaces (cs : List Char) : List Char := cs.dropWhile isSpace

/-- Control characters other than the tab stand nowhere on a line. -/
def standsOnLine (c : Char) : Bool := c = '\t' || 0x20 ≤ c.toNat && c.toNat ≠ 0x7F

/-- What comes after a line break. -/
def afterBreak? : List Char → Option (List Char)
  | '\n' :: rest => some rest
  | '\r' :: '\n' :: rest => some rest
  | _ => none

/-- What comes after a mark that must be there. -/
def after? (mark : Char) : List Char → Option (List Char)
  | c :: rest => if c = mark then some rest else none
  | [] => none

/-- What comes after a comment, if there is one. -/
def skipComment? : List Char → Option (List Char)
  | '#' :: rest =>
      let left := rest.dropWhile standsOnLine
      if left.isEmpty || (afterBreak? left).isSome then some left else none
  | cs => some cs

/-- What comes after the end of a line, on which only a comment may be left. -/
def afterLine? (cs : List Char) : Option (List Char) := do
  match ← skipComment? (skipSpaces cs) with
  | [] => some []
  | left => afterBreak? left

/-- What comes after spaces, line breaks and comments. At most `limit` lines are left out. -/
def skipLines? : Nat → List Char → Option (List Char)
  | 0, _ => none
  | limit + 1, cs => do
      let left ← skipComment? (skipSpaces cs)
      match afterBreak? left with
      | some rest => skipLines? limit rest
      | none => some left

end SignalBoard.Toml
