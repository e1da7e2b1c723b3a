/-
# Flow programs

A program is a sequence of statements, one a line: expressions, assignments to variables, and
lines written by hand that are passed on untouched. A stream is published under a label by a
`publish` call in its chain; charts and rules refer to streams by these labels.
-/

import SignalBoard.Flow.Check
import SignalBoard.Flow.Text

namespace SignalBoard.Flow

/-- The label a call publishes under: the first value passed as `label`, or else the first
argument if it is passed by position. Only a string literal is a label. -/
def Call.label? (call : Call) : Option String :=
  let positional := match call.args with
    | .positional value :: _ => some value
    | _ => none
  match (call.valueOf? "label").or positional with
  | some (.str label) => some label
  | _ => none

/-- The label of the first `publish` call of the chain that has one. -/
def Stream.label? (stream : Stream) : Option String :=
  (stream.calls.filter fun call => call.name = "publish").findSome? Call.label?

/-- The label an expression is published under. -/
def Expr.label? : Expr → Option String
  | .stream s => s.label?
  | _ => none

/-- A statement of a program. -/
inductive Statement where
  | expr (value : Expr)
  | assign (target : String) (value : Expr)
  /-- A line written by hand. -/
  | raw (text : String)

namespace Statement

/-- The text of the statement. -/
def chars : Statement → List Char
  | expr value => value.chars
  | assign target value => target.toList ++ " = ".toList ++ value.chars
  | raw text => text.toList

/-- The text of the statement. -/
def text (statement : Statement) : String := String.ofList statement.chars

/-- The label the statement publishes under. Labels in lines written by hand are not seen. -/
def label? : Statement → Option String
  | expr value => value.label?
  | assign _ value => value.label?
  | raw _ => none

/-- Is the statement a line written by hand? -/
def isRaw : Statement → Bool
  | raw _ => true
  | _ => false

/-- Checks the statement, an assignment's target before its expression. -/
def check : Statement → Except Flaw Unit
  | expr value => value.check
  | assign target value => do
      refuseIf target.isEmpty .unnamedTarget
      value.check
  | raw text => refuseIf (Text.blank text) .blankStatement

/-- Equality of statements with doubles compared as numbers. -/
def agrees : Statement → Statement → Bool
  | expr a, expr b => a == b
  | assign s a, assign t b => s == t && a == b
  | raw s, raw t => s == t
  | _, _ => false

instance : BEq Statement := ⟨agrees⟩

end Statement

/-- A flow program. -/
structure Program where
  statements : List Statement := []
deriving BEq

namespace Program

/-- The program that is a single line written by hand. -/
def ofText (text : String) : Program := ⟨[.raw text]⟩

/-- The program that is a single stream. -/
def ofStream (stream : Stream) : Program := ⟨[.expr (.stream stream)]⟩

/-- Adds statements at the end. -/
def append (program : Program) (statements : List Statement) : Program :=
  ⟨program.statements ++ statements⟩

/-- The text of the program, one statement a line. -/
def chars (program : Program) : List Char :=
  joined ['\n'] (program.statements.map Statement.chars)

/-- The text of the program. -/
def text (program : Program) : String := String.ofList program.chars

/-- Has the program no statements? -/
def isEmpty (program : Program) : Bool := program.statements.isEmpty

/-- The labels of the statements that have one, in order. -/
def labels (program : Program) : List String := program.statements.filterMap Statement.label?

/-- The first statement that publishes under the label. -/
def find? (program : Program) (label : String) : Option Statement :=
  program.statements.find? fun statement => statement.label? = some label

/-- Checks that there are statements, then each of them in order. -/
def check (program : Program) : Except Flaw Unit := do
  refuseIf program.isEmpty .noStatements
  program.statements.forM Statement.check

end Program

end SignalBoard.Flow
