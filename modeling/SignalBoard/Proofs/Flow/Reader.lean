/-
# Reading flow programs back

A reader of the text that plain programs are written as. It reads as far as an expression goes
and gives the rest of the text. What an expression holds is read by a reader that is passed
along, so only the depth of nesting needs fuel and each form has one short rule. The reader
takes more texts than are written; all that matters is that it finds what was written.
-/

import SignalBoard.Proofs.Flow.Plain

namespace SignalBoard.Flow

/-- Reads the beginning of a text and gives the rest. -/
abbrev Reader (α : Type) := List Char → Option (α × List Char)

namespace Reader

variable {α : Type}

/-- Reads a string literal after its opening quote. -/
def quoted : Reader (List Char)
  | [] => none
  | c :: rest =>
      if c = '"' then some ([], rest)
      else if c = '\\' then
        match rest with
        | [] => none
        | d :: rest =>
            (quoted rest).map fun (cs, rest) => ((if d = 'n' then '\n' else d) :: cs, rest)
      else (quoted rest).map fun (cs, rest) => (c :: cs, rest)

/-- Reads items between commas up to a closing mark. -/
def items (item : Reader α) (close : Char) : Nat → Reader (List α)
  | 0, _ => none
  | n + 1, cs =>
      match item cs with
      | some (first, c :: rest) =>
          if c = ',' then
            (items item close n rest).map fun (others, rest) => (first :: others, rest)
          else if c = close then some ([first], rest)
          else none
      | some (_, []) => none
      | none =>
          match cs with
          | [] => none
          | c :: rest => if c = close then some ([], rest) else none

/-- The variable that an expression is, if it is one. -/
def reference? : Expr → Option String
  | .stream (.mk (.variable name) []) => some name
  | _ => none

/-- Reads an argument: an expression or, if that is a variable and an equals sign follows, the
keyword of one. -/
def arg (expr : Reader Expr) : Reader Arg := fun cs =>
  match expr cs with
  | none => none
  | some (value, rest) =>
      match reference? value, rest with
      | some name, '=' :: rest => (expr rest).map fun (value, rest) => (.keyword name value, rest)
      | _, _ => some (.positional value, rest)

/-- Reads an entry of a dictionary. -/
def entry (expr : Reader Expr) : Reader (String × Expr)
  | '"' :: cs =>
      match quoted cs with
      | some (key, ':' :: rest) =>
          (expr rest).map fun (value, rest) => ((String.ofList key, value), rest)
      | _ => none
  | _ => none

/-- Reads the methods called on a stream. -/
def chain (expr : Reader Expr) (limit : Nat) : Nat → Reader (List Call)
  | 0, _ => none
  | n + 1, cs =>
      match cs with
      | '.' :: cs =>
          match cs.dropWhile isWordChar with
          | '(' :: rest =>
              match items (arg expr) ')' limit rest with
              | some (args, rest) =>
                  (chain expr limit n rest).map fun (calls, rest) =>
                    (.mk (String.ofList (cs.takeWhile isWordChar)) args :: calls, rest)
              | none => none
          | _ => none
      | cs => some ([], cs)

/-- Reads a stream after the name that it begins with. -/
def stream (expr : Reader Expr) (limit : Nat) (name : String) : Reader Stream
  | '(' :: cs =>
      match items (arg expr) ')' limit cs with
      | some (args, rest) =>
          (chain expr limit limit rest).map fun (calls, rest) =>
            (.mk (.call (.mk name args)) calls, rest)
      | none => none
  | cs => (chain expr limit limit cs).map fun (calls, rest) => (.mk (.variable name) calls, rest)

/-- Reads an expression that begins with a word. -/
def afterWord (expr : Reader Expr) (limit : Nat) (name : String) : Reader Expr := fun cs =>
  if name = "True" then some (.bool true, cs)
  else if name = "False" then some (.bool false, cs)
  else if name = "None" then some (.absent, cs)
  else if name = "not" then (expr (cs.drop 1)).map fun (operand, rest) => (.negate operand, rest)
  else (stream expr limit name cs).map fun (stream, rest) => (.stream stream, rest)

/-- The number that digits denote. -/
def number (digits : List Char) : Nat := Nat.ofDigitChars 10 digits 0

/-- Reads an expression that is neither in parentheses nor a combination. -/
def atom (expr : Reader Expr) (limit : Nat) : Reader Expr
  | [] => none
  | c :: cs =>
      if c = '"' then
        (quoted cs).map fun (value, rest) => (.str (String.ofList value), rest)
      else if c = '[' then
        (items expr ']' limit cs).map fun (items, rest) => (.list items, rest)
      else if c = '{' then
        (items (entry expr) '}' limit cs).map fun (entries, rest) => (.dict entries, rest)
      else if c = '-' then
        some (.int (-(number (cs.takeWhile isWordChar) : Int)), cs.dropWhile isWordChar)
      else if c.isDigit then
        some (.int (number ((c :: cs).takeWhile isWordChar)), (c :: cs).dropWhile isWordChar)
      else if isWordChar c then
        afterWord expr limit (String.ofList ((c :: cs).takeWhile isWordChar))
          ((c :: cs).dropWhile isWordChar)
      else none

/-- Reads an operand, which may stand in parentheses. -/
def operand (expr : Reader Expr) (limit : Nat) : Reader Expr
  | '(' :: cs =>
      match expr cs with
      | some (e, ')' :: rest) => some (e, rest)
      | _ => none
  | cs => atom expr limit cs

/-- Reads an operator between blanks. -/
def operator : Reader String
  | ' ' :: cs =>
      match cs.dropWhile (· ≠ ' ') with
      | ' ' :: rest =>
          let name := String.ofList (cs.takeWhile (· ≠ ' '))
          if operators.contains name then some (name, rest) else none
      | _ => none
  | _ => none

/-- Reads the operands that follow the first, each after an operator. -/
def operands (expr : Reader Expr) (limit : Nat) : Nat → Reader (List Expr)
  | 0, _ => none
  | n + 1, cs =>
      match operator cs with
      | none => some ([], cs)
      | some (_, rest) =>
          match operand expr limit rest with
          | some (first, rest) =>
              (operands expr limit n rest).map fun (others, rest) => (first :: others, rest)
          | none => none

/-- Reads an expression, given how those that it holds are read. -/
def combination (expr : Reader Expr) (limit : Nat) : Reader Expr := fun cs =>
  match operand expr limit cs with
  | none => none
  | some (first, rest) =>
      match operator rest with
      | none => some (first, rest)
      | some (name, _) =>
          (operands expr limit limit rest).map fun (others, rest) =>
            (.combine name (first :: others), rest)

/-- Reads an expression nested up to a depth. -/
def expr : Nat → Reader Expr
  | 0 => fun _ => none
  | fuel + 1 => combination (expr fuel) fuel

/-- Reads a statement: an expression or, if that is a variable and an assignment follows, the
target of one. -/
def statement (fuel : Nat) : Reader Statement := fun cs =>
  match expr fuel cs with
  | none => none
  | some (value, rest) =>
      match reference? value, rest with
      | some target, ' ' :: '=' :: ' ' :: rest =>
          (expr fuel rest).map fun (value, rest) => (.assign target value, rest)
      | _, _ => some (.expr value, rest)

/-- Reads statements, one a line, up to the end of the text. -/
def statements (fuel : Nat) : Nat → List Char → Option (List Statement)
  | 0, _ => none
  | n + 1, cs =>
      match statement fuel cs with
      | none => if cs.isEmpty then some [] else none
      | some (first, []) => some [first]
      | some (first, _ :: rest) => (statements fuel n rest).map (first :: ·)

end Reader

end SignalBoard.Flow
