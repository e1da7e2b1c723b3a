/-
# The text of a flow expression

Arguments, items and entries are separated by commas without blanks, methods are appended after
a dot, and an operator stands between blanks. An operand that is itself written with an
operator is put in parentheses, so the text shows how operators are grouped.
-/

import SignalBoard.Flow.Expr
import SignalBoard.Number.Text
import SignalBoard.Text.Quoted

namespace SignalBoard.Flow

/-- The texts with a separator between neighbours. -/
def joined (separator : List Char) (texts : List (List Char)) : List Char :=
  separator.intercalate texts

/-- The text in parentheses, if it has to be. -/
def enclosed (needed : Bool) (text : List Char) : List Char :=
  if needed then '(' :: text ++ [')'] else text

mutual

/-- The text of an expression. -/
def Expr.chars : Expr → List Char
  | .stream stream => stream.chars
  | .combine operator operands =>
      joined (' ' :: operator.toList ++ [' ']) (Expr.operandTexts operands)
  | .negate operand => "not ".toList ++ enclosed operand.isCompound operand.chars
  | .str value => Text.quote value
  | .int value => intText value
  | .float value => value.render .flow
  | .bool true => "True".toList
  | .bool false => "False".toList
  | .absent => "None".toList
  | .list items => '[' :: joined [','] (Expr.texts items) ++ [']']
  | .dict entries => '{' :: joined [','] (Expr.entryTexts entries) ++ ['}']
  | .raw text => text.toList

/-- The texts of the items of a list. -/
def Expr.texts : List Expr → List (List Char)
  | [] => []
  | e :: rest => e.chars :: Expr.texts rest

/-- The texts of the operands of an operator, grouped where necessary. -/
def Expr.operandTexts : List Expr → List (List Char)
  | [] => []
  | e :: rest => enclosed e.isCompound e.chars :: Expr.operandTexts rest

/-- The texts of the entries of a dictionary. -/
def Expr.entryTexts : List (String × Expr) → List (List Char)
  | [] => []
  | (key, value) :: rest => (Text.quote key ++ ':' :: value.chars) :: Expr.entryTexts rest

/-- The text of an argument. -/
def Arg.chars : Arg → List Char
  | .positional value => value.chars
  | .keyword name value => name.toList ++ '=' :: value.chars

/-- The texts of the arguments of a call. -/
def Arg.texts : List Arg → List (List Char)
  | [] => []
  | arg :: rest => arg.chars :: Arg.texts rest

/-- The text of a call. -/
def Call.chars : Call → List Char
  | .mk name args => name.toList ++ '(' :: joined [','] (Arg.texts args) ++ [')']

/-- The text of a chain of method calls. -/
def Call.chainChars : List Call → List Char
  | [] => []
  | call :: rest => '.' :: call.chars ++ Call.chainChars rest

/-- The text of what a stream starts from. -/
def Origin.chars : Origin → List Char
  | .call call => call.chars
  | .variable name => name.toList

/-- The text of a stream. -/
def Stream.chars : Stream → List Char
  | .mk origin calls => origin.chars ++ Call.chainChars calls

end

/-- The text of an expression. -/
def Expr.text (e : Expr) : String := String.ofList e.chars

/-- The text of an argument. -/
def Arg.text (arg : Arg) : String := String.ofList arg.chars

/-- The text of a call. -/
def Call.text (call : Call) : String := String.ofList call.chars

/-- Items are written one by one. -/
theorem Expr.texts_eq_map (items : List Expr) : Expr.texts items = items.map Expr.chars := by
  induction items with
  | nil => simp [Expr.texts]
  | cons e rest ih => simp [Expr.texts, ih]

/-- A list is written as its items between brackets. -/
theorem Expr.chars_list (items : List Expr) :
    (Expr.list items).chars = '[' :: joined [','] (items.map Expr.chars) ++ [']'] := by
  rw [Expr.chars, Expr.texts_eq_map]

/-- Arguments are written one by one. -/
theorem Arg.texts_eq_map (args : List Arg) : Arg.texts args = args.map Arg.chars := by
  induction args with
  | nil => simp [Arg.texts]
  | cons arg rest ih => simp [Arg.texts, ih]

end SignalBoard.Flow
