/-
# Checking flow expressions

Some values can be written down but make no program: a call without a name, an empty string
passed by position, a dictionary entry without a key, a variable without a name, an operator
that is blank. The check goes through an expression in the order of its text and names the
first such flaw: a call's name before its arguments, an argument itself before what it
contains, an operator before its operands, a key before its value.
-/

import SignalBoard.Flow.Expr
import SignalBoard.Text.Blank

namespace SignalBoard.Flow

/-- What makes an expression or a program unusable. -/
inductive Flaw where
  | unnamedCall
  /-- An empty string literal is passed by position to the named function. -/
  | emptyArgument (function : String)
  | emptyKey
  | unnamedVariable
  | blankOperator
  | unnamedTarget
  | blankStatement
  | noStatements
deriving DecidableEq, Repr

/-- The wording of a flaw. -/
def Flaw.message : Flaw → String
  | unnamedCall => "function name cannot be empty"
  | emptyArgument function => "positional arguments of " ++ function ++ "() cannot be empty"
  | emptyKey => "dictionary keys cannot be empty"
  | unnamedVariable => "references cannot be empty"
  | blankOperator => "operator in a combinator cannot be empty"
  | unnamedTarget => "assignment targets cannot be empty"
  | blankStatement => "program text cannot be empty"
  | noStatements => "program must contain at least one statement"

/-- Refuses with the flaw if the condition holds. -/
def refuseIf (condition : Bool) (flaw : Flaw) : Except Flaw Unit :=
  if condition then .error flaw else .ok ()

mutual

/-- Checks an expression and everything in it. -/
def Expr.check : Expr → Except Flaw Unit
  | .stream stream => stream.check
  | .combine operator operands => do
      refuseIf (Text.blank operator) .blankOperator
      Expr.checkAll operands
  | .negate operand => operand.check
  | .list items => Expr.checkAll items
  | .dict entries => Expr.checkEntries entries
  | .str _ | .int _ | .float _ | .bool _ | .absent | .raw _ => .ok ()

/-- Checks expressions in order. -/
def Expr.checkAll : List Expr → Except Flaw Unit
  | [] => .ok ()
  | e :: rest => do
      e.check
      Expr.checkAll rest

/-- Checks the entries of a dictionary in order. -/
def Expr.checkEntries : List (String × Expr) → Except Flaw Unit
  | [] => .ok ()
  | (key, value) :: rest => do
      refuseIf key.isEmpty .emptyKey
      value.check
      Expr.checkEntries rest

/-- Checks an argument of the named function. -/
def Arg.check (function : String) : Arg → Except Flaw Unit
  | .positional value => do
      refuseIf value.isEmptyText (.emptyArgument function)
      value.check
  | .keyword _ value => value.check

/-- Checks the arguments of the named function in order. -/
def Arg.checkAll (function : String) : List Arg → Except Flaw Unit
  | [] => .ok ()
  | arg :: rest => do
      arg.check function
      Arg.checkAll function rest

/-- Checks a call. -/
def Call.check : Call → Except Flaw Unit
  | .mk name args => do
      refuseIf name.isEmpty .unnamedCall
      Arg.checkAll name args

/-- Checks calls in order. -/
def Call.checkAll : List Call → Except Flaw Unit
  | [] => .ok ()
  | call :: rest => do
      call.check
      Call.checkAll rest

/-- Checks what a stream starts from. -/
def Origin.check : Origin → Except Flaw Unit
  | .call call => call.check
  | .variable name => refuseIf name.isEmpty .unnamedVariable

/-- Checks a stream. -/
def Stream.check : Stream → Except Flaw Unit
  | .mk origin calls => do
      origin.check
      Call.checkAll calls

end

/-- A call of a function that must have a name. -/
def Call.ofName (name : String) : Except Flaw Call := do
  refuseIf name.isEmpty .unnamedCall
  return .named name

/-- Operands under an operator that must not be blank. -/
def Expr.combination (operator : String) (operands : List Expr) : Except Flaw Expr := do
  refuseIf (Text.blank operator) .blankOperator
  return .combine operator operands

end SignalBoard.Flow
