/-
# Quoted string literals

A string literal of the flow language stands between double quotes. A quote, a backslash and a
line feed are written as a backslash and one more character; every other character, control
characters and all of Unicode included, is written as itself. So a literal never holds a line
feed, and a quote inside it always follows a backslash.
-/

namespace SignalBoard.Text

/-- How one character stands inside a literal. -/
def escapeChar (c : Char) : List Char :=
  if c = '"' then ['\\', '"']
  else if c = '\\' then ['\\', '\\']
  else if c = '\n' then ['\\', 'n']
  else [c]

/-- The literal that denotes the characters. -/
def quoteChars (cs : List Char) : List Char :=
  '"' :: cs.flatMap escapeChar ++ ['"']

/-- The literal that denotes the text. -/
def quote (s : String) : List Char :=
  quoteChars s.toList

/-- Escaping a longer text continues after the escapes of its first character. -/
@[simp] theorem quoteChars_cons (c : Char) (cs : List Char) :
    quoteChars (c :: cs) = '"' :: (escapeChar c ++ (cs.flatMap escapeChar ++ ['"'])) := by
  simp [quoteChars]

/-- No character is dropped by escaping. -/
theorem escapeChar_ne_nil (c : Char) : escapeChar c ≠ [] := by
  unfold escapeChar
  split
  · simp
  · split
    · simp
    · split <;> simp

end SignalBoard.Text
