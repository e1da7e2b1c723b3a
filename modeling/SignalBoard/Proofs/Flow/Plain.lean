/-
# Plain programs

A program is plain when nothing in it was written by hand: no raw text stands in it, every name
is an identifier that means nothing else, and every operator is one of the language and has
operands on both sides. Doubles are left out as well, because a whole one is written like an
integer. Literals and the keys of dictionaries may hold any text.
-/

import SignalBoard.Flow.Program

namespace SignalBoard.Flow

/-- May the character stand in a name? -/
def isWordChar (c : Char) : Bool := c.isAlphanum || c = '_'

/-- The words that are literals or operators, so that they are no names. -/
def reservedWords : List String := ["True", "False", "None", "and", "or", "not"]

/-- Is the text a letter or an underscore, then letters, digits and underscores, and not
reserved? -/
def isIdentifier (name : String) : Bool :=
  match name.toList with
  | [] => false
  | c :: rest => (c.isAlpha || c = '_') && rest.all isWordChar && !reservedWords.contains name

/-- The operators that stand between operands. -/
def operators : List String := ["and", "or", ">", ">=", "<", "<=", "==", "!=", "+", "-", "*", "/"]

mutual

/-- Is the expression plain? -/
def Expr.plain : Expr → Bool
  | .stream stream => stream.plain
  | .combine operator operands =>
      operators.contains operator && decide (2 ≤ operands.length) && Expr.allPlain operands
  | .negate operand => operand.plain
  | .str _ => true
  | .int _ => true
  | .float _ => false
  | .bool _ => true
  | .absent => true
  | .list items => Expr.allPlain items
  | .dict entries => Expr.entriesPlain entries
  | .raw _ => false

/-- Are all expressions plain? -/
def Expr.allPlain : List Expr → Bool
  | [] => true
  | e :: rest => e.plain && Expr.allPlain rest

/-- Are the values of all entries plain? -/
def Expr.entriesPlain : List (String × Expr) → Bool
  | [] => true
  | (_, value) :: rest => value.plain && Expr.entriesPlain rest

/-- Is the argument plain? -/
def Arg.plain : Arg → Bool
  | .positional value => value.plain
  | .keyword name value => isIdentifier name && value.plain

/-- Are all arguments plain? -/
def Arg.allPlain : List Arg → Bool
  | [] => true
  | arg :: rest => arg.plain && Arg.allPlain rest

/-- Is the call plain? -/
def Call.plain : Call → Bool
  | .mk name args => isIdentifier name && Arg.allPlain args

/-- Are all calls plain? -/
def Call.allPlain : List Call → Bool
  | [] => true
  | call :: rest => call.plain && Call.allPlain rest

/-- Is what a stream starts from plain? -/
def Origin.plain : Origin → Bool
  | .call call => call.plain
  | .variable name => isIdentifier name

/-- Is the stream plain? -/
def Stream.plain : Stream → Bool
  | .mk origin calls => origin.plain && Call.allPlain calls

end

/-- Is the statement plain? A line written by hand is not. -/
def Statement.plain : Statement → Bool
  | .expr value => value.plain
  | .assign target value => isIdentifier target && value.plain
  | .raw _ => false

/-- Are all statements plain? -/
def Program.plain (program : Program) : Bool := program.statements.all Statement.plain

theorem Expr.allPlain_iff (items : List Expr) :
    Expr.allPlain items = true ↔ ∀ e ∈ items, e.plain = true := by
  induction items with
  | nil => simp [Expr.allPlain]
  | cons e rest ih => simp [Expr.allPlain, ih]

theorem Expr.entriesPlain_iff (entries : List (String × Expr)) :
    Expr.entriesPlain entries = true ↔ ∀ entry ∈ entries, entry.2.plain = true := by
  induction entries with
  | nil => simp [Expr.entriesPlain]
  | cons entry rest ih =>
      obtain ⟨key, value⟩ := entry
      simp only [Expr.entriesPlain, Bool.and_eq_true, ih, List.forall_mem_cons]

theorem Arg.allPlain_iff (args : List Arg) :
    Arg.allPlain args = true ↔ ∀ arg ∈ args, arg.plain = true := by
  induction args with
  | nil => simp [Arg.allPlain]
  | cons arg rest ih => simp [Arg.allPlain, ih]

theorem Call.allPlain_iff (calls : List Call) :
    Call.allPlain calls = true ↔ ∀ call ∈ calls, call.plain = true := by
  induction calls with
  | nil => simp [Call.allPlain]
  | cons call rest ih => simp [Call.allPlain, ih]

/-- Entries are written one by one. -/
theorem Expr.entryTexts_eq_map (entries : List (String × Expr)) :
    Expr.entryTexts entries =
      entries.map fun entry => Text.quote entry.1 ++ ':' :: entry.2.chars := by
  induction entries with
  | nil => simp [Expr.entryTexts]
  | cons entry rest ih =>
      obtain ⟨key, value⟩ := entry
      simp [Expr.entryTexts, ih]

/-- The text of an expression as an operand. -/
def Expr.operandChars (e : Expr) : List Char := enclosed e.isCompound e.chars

/-- Operands are written one by one. -/
theorem Expr.operandTexts_eq_map (operands : List Expr) :
    Expr.operandTexts operands = operands.map Expr.operandChars := by
  induction operands with
  | nil => simp [Expr.operandTexts]
  | cons e rest ih => simp [Expr.operandTexts, Expr.operandChars, ih]

/-- A chain is written call by call, each after a dot. -/
theorem Call.chainChars_eq_flatMap (calls : List Call) :
    chainChars calls = calls.flatMap fun call => '.' :: call.chars := by
  induction calls with
  | nil => rfl
  | cons call rest ih => rw [chainChars, ih, List.flatMap_cons]

/-- An identifier begins with a letter or an underscore, goes on with word characters and is not
reserved. -/
theorem isIdentifier_iff (name : String) :
    isIdentifier name = true ↔ ∃ c rest, name.toList = c :: rest ∧
      (c.isAlpha = true ∨ c = '_') ∧ (∀ d ∈ rest, isWordChar d = true) ∧
      name ∉ reservedWords := by
  unfold isIdentifier
  split
  case h_1 empty => simp [empty]
  case h_2 c rest split => simp [split, and_assoc]

/-- The characters of an identifier are word characters. -/
theorem isWordChar_of_isIdentifier {name : String} (identifier : isIdentifier name = true) :
    ∀ c ∈ name.toList, isWordChar c = true := by
  obtain ⟨first, rest, chars, start, others, -⟩ := (isIdentifier_iff name).mp identifier
  rw [chars]
  intro c member
  rcases List.mem_cons.mp member with rfl | later
  · rcases start with letter | underscore
    · simp [isWordChar, Char.isAlphanum, letter]
    · simp [isWordChar, underscore]
  · exact others c later

end SignalBoard.Flow
