/-
# Flow expressions

A flow program describes how streams of measurements are fetched, combined and published. Its
expressions are literals, lists, dictionaries, operators between any number of operands, and
streams: a function call or a variable, followed by a chain of method calls. The types are
mutually recursive because a stream's arguments are expressions again.
-/

import SignalBoard.Number.Binary64

namespace SignalBoard.Flow

mutual

/-- An expression of a flow program. -/
inductive Expr where
  | stream (stream : Stream)
  /-- One operator written between the operands. -/
  | combine (operator : String) (operands : List Expr)
  /-- The logical complement. -/
  | negate (operand : Expr)
  | str (value : String)
  | int (value : Int)
  | float (value : Binary64)
  | bool (value : Bool)
  /-- The literal for an absent value. -/
  | absent
  | list (items : List Expr)
  /-- Entries in the order given; keys may repeat. -/
  | dict (entries : List (String × Expr))
  /-- Program text that is passed on as it is, such as a function literal. -/
  | raw (text : String)

/-- An argument of a call. -/
inductive Arg where
  | positional (value : Expr)
  | keyword (name : String) (value : Expr)

/-- A named function applied to arguments. -/
inductive Call where
  | mk (name : String) (args : List Arg)

/-- What a stream starts from. -/
inductive Origin where
  | call (call : Call)
  /-- A variable that an earlier statement has assigned. -/
  | variable (name : String)

/-- A stream and the methods called on it, first to last. -/
inductive Stream where
  | mk (origin : Origin) (calls : List Call)

end

namespace Arg

/-- The value passed. -/
def value : Arg → Expr
  | positional value => value
  | keyword _ value => value

/-- The keyword, if the argument is passed by keyword. -/
def keyword? : Arg → Option String
  | positional _ => none
  | keyword name _ => some name

end Arg

namespace Call

/-- The name of the function. -/
def name : Call → String
  | mk name _ => name

/-- The arguments in the order given. -/
def args : Call → List Arg
  | mk _ args => args

/-- A call without arguments. -/
def named (name : String) : Call := mk name []

/-- Adds an argument. -/
def add (call : Call) (arg : Arg) : Call := mk call.name (call.args ++ [arg])

/-- Adds an argument passed by position. -/
def pass (call : Call) (value : Expr) : Call := call.add (.positional value)

/-- Adds an argument passed by keyword. -/
def passAs (call : Call) (keyword : String) (value : Expr) : Call :=
  call.add (.keyword keyword value)

/-- Adds an argument passed by keyword if there is a value for it. -/
def passAs? (call : Call) (keyword : String) : Option Expr → Call
  | some value => call.passAs keyword value
  | none => call

/-- Adds a keyword argument that is written only when it is true. -/
def flag (call : Call) (keyword : String) (enabled : Bool) : Call :=
  if enabled then call.passAs keyword (.bool true) else call

/-- The first value passed by the keyword. -/
def valueOf? (call : Call) (keyword : String) : Option Expr :=
  (call.args.find? fun arg => arg.keyword? = some keyword).map Arg.value

end Call

namespace Stream

/-- What the stream starts from. -/
def origin : Stream → Origin
  | mk origin _ => origin

/-- The methods called on it, first to last. -/
def calls : Stream → List Call
  | mk _ calls => calls

/-- The stream that a function call yields. -/
def ofCall (call : Call) : Stream := mk (.call call) []

/-- The stream that a variable holds. -/
def ofVariable (name : String) : Stream := mk (.variable name) []

/-- Calls one more method. -/
def method (stream : Stream) (call : Call) : Stream := mk stream.origin (stream.calls ++ [call])

end Stream

namespace Expr

/-- Is the expression written with an operator, so that it needs parentheses to stand as an
operand? -/
def isCompound : Expr → Bool
  | combine _ _ => true
  | negate _ => true
  | _ => false

/-- Is the expression the empty string literal? -/
def isEmptyText : Expr → Bool
  | str s => s.isEmpty
  | _ => false

/-- An operator between two operands. -/
def between (operator : String) (left right : Expr) : Expr := combine operator [left, right]

/-- Every operand holds. -/
def all (operands : List Expr) : Expr := combine "and" operands

/-- Some operand holds. -/
def any (operands : List Expr) : Expr := combine "or" operands

end Expr

mutual

/-- Equality of expressions with doubles compared as numbers. -/
def Expr.agrees : Expr → Expr → Bool
  | .stream s, .stream t => s.agrees t
  | .combine p as, .combine q bs => p == q && Expr.allAgree as bs
  | .negate a, .negate b => a.agrees b
  | .str s, .str t => s == t
  | .int m, .int n => m == n
  | .float x, .float y => x == y
  | .bool a, .bool b => a == b
  | .absent, .absent => true
  | .list as, .list bs => Expr.allAgree as bs
  | .dict as, .dict bs => Expr.entriesAgree as bs
  | .raw s, .raw t => s == t
  | _, _ => false

/-- Equality of lists of expressions. -/
def Expr.allAgree : List Expr → List Expr → Bool
  | [], [] => true
  | a :: as, b :: bs => a.agrees b && Expr.allAgree as bs
  | _, _ => false

/-- Equality of dictionaries: the same entries in the same order. -/
def Expr.entriesAgree : List (String × Expr) → List (String × Expr) → Bool
  | [], [] => true
  | (j, a) :: as, (k, b) :: bs => j == k && (a.agrees b && Expr.entriesAgree as bs)
  | _, _ => false

/-- Equality of arguments. -/
def Arg.agrees : Arg → Arg → Bool
  | .positional a, .positional b => a.agrees b
  | .keyword j a, .keyword k b => j == k && a.agrees b
  | _, _ => false

/-- Equality of argument lists. -/
def Arg.allAgree : List Arg → List Arg → Bool
  | [], [] => true
  | a :: as, b :: bs => a.agrees b && Arg.allAgree as bs
  | _, _ => false

/-- Equality of calls. -/
def Call.agrees : Call → Call → Bool
  | .mk f as, .mk g bs => f == g && Arg.allAgree as bs

/-- Equality of chains of calls. -/
def Call.allAgree : List Call → List Call → Bool
  | [], [] => true
  | a :: as, b :: bs => a.agrees b && Call.allAgree as bs
  | _, _ => false

/-- Equality of origins. -/
def Origin.agrees : Origin → Origin → Bool
  | .call a, .call b => a.agrees b
  | .variable a, .variable b => a == b
  | _, _ => false

/-- Equality of streams. -/
def Stream.agrees : Stream → Stream → Bool
  | .mk a as, .mk b bs => a.agrees b && Call.allAgree as bs

end

instance : BEq Expr := ⟨Expr.agrees⟩

instance : BEq Stream := ⟨Stream.agrees⟩

end SignalBoard.Flow
