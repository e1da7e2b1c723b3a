/-
# Expressions without a text

A literal is never written as nothing, a call has its parentheses and a list its brackets, and the
check refuses variables without a name. What is left are operators: with operands between which
they stand they are written, but the check asks for no operand, and without any an operator is
written as nothing at all. Those are the only holes in a program that passes its check and holds no
text written by hand.
-/

import SignalBoard.Proofs.Flow.Flawed
import SignalBoard.Proofs.Flow.Readable

namespace SignalBoard

/-! ## Numbers are written as something -/

theorem natText_ne_nil (n : Nat) : natText n ≠ [] := Nat.toDigits_ne_nil

theorem intText_ne_nil (n : Int) : intText n ≠ [] := by
  cases n with
  | ofNat n => exact natText_ne_nil n
  | negSucc n => exact List.cons_ne_nil _ _

/-- A decimal without an exponent has its digits, or at least its point. -/
theorem Decimal.positional_ne_nil (d : Decimal) : d.positional ≠ [] := by
  unfold positional
  split
  · exact List.append_ne_nil_of_left_ne_nil (natText_ne_nil d.digits) _
  · split
    · exact List.append_ne_nil_of_right_ne_nil _ (List.cons_ne_nil _ _)
    · exact List.cons_ne_nil _ _

/-- A decimal with an exponent has at least the mark of the exponent. -/
theorem Decimal.scientific_ne_nil (d : Decimal) : d.scientific ≠ [] :=
  List.append_ne_nil_of_right_ne_nil _ (List.cons_ne_nil _ _)

/-- A decimal is written as something, whether with an exponent or without. -/
theorem Decimal.written_ne_nil (d : Decimal) (plain : Bool) (fraction : List Char) :
    (if plain then d.positional ++ fraction else d.scientific) ≠ [] := by
  cases plain with
  | true => exact List.append_ne_nil_of_left_ne_nil d.positional_ne_nil fraction
  | false => exact d.scientific_ne_nil

theorem Binary64.render_ne_nil (format : NumberFormat) (x : Binary64) : x.render format ≠ [] := by
  unfold render
  dsimp only
  split
  · decide
  · split
    · exact List.append_ne_nil_of_right_ne_nil _ (by decide)
    · exact List.append_ne_nil_of_right_ne_nil _ (Decimal.written_ne_nil _ _ _)

namespace Flow

/-! ## Nodes written by hand -/

/-- Is the node text that is passed on as it is? -/
def Node.isRaw : Node → Bool
  | statement (.raw _) => true
  | expr (.raw _) => true
  | _ => false

/-- No node at or below the node is text that is passed on as it is. -/
def Node.Unraw (node : Node) : Prop := node.All fun found => found.isRaw = false

/-- Texts between separators are something if the first of them is. -/
theorem joined_ne_nil {separator first : List Char} (others : List (List Char))
    (something : first ≠ []) : joined separator (first :: others) ≠ [] := by
  rw [Reader.joined_cons]
  exact List.append_ne_nil_of_left_ne_nil something _

/-- A call is written with its parentheses. -/
theorem Call.chars_ne_nil (call : Call) : call.chars ≠ [] := by
  obtain ⟨name, args⟩ := call
  rw [Call.chars]
  exact List.append_ne_nil_of_left_ne_nil
    (List.append_ne_nil_of_right_ne_nil _ (List.cons_ne_nil _ _)) _

/-- What a stream starts from is written as something if nothing is wrong with it. -/
theorem Origin.chars_ne_nil {origin : Origin} (fine : ∀ flaw, ¬ (Node.origin origin).Bad flaw) :
    origin.chars ≠ [] := by
  match origin with
  | .call start => exact start.chars_ne_nil
  | .variable name =>
      intro nothing
      obtain rfl : name = "" := String.toList_eq_nil_iff.mp nothing
      exact fine .unnamedVariable .unnamedVariable

namespace Expr

variable {e : Expr}

/-- What is written without an operator is written as something. -/
theorem chars_ne_nil_of_not_isCompound (flawless : (Node.expr e).Flawless)
    (unraw : (Node.expr e).Unraw) (simple : e.isCompound = false) : e.chars ≠ [] := by
  match e with
  | .stream (.mk origin calls) =>
      have fine : (Node.origin origin).Flawless :=
        (Node.all_iff.mp flawless).2 _ List.mem_cons_self
      exact List.append_ne_nil_of_left_ne_nil
        (Origin.chars_ne_nil (Node.all_iff.mp fine).1) (Call.chainChars calls)
  | .raw text => exact Bool.noConfusion (Node.all_iff.mp unraw).1
  | .str value => exact List.cons_ne_nil _ _
  | .int value => exact intText_ne_nil value
  | .float value => exact value.render_ne_nil .flow
  | .bool true | .bool false | .absent => decide
  | .list items => exact List.cons_ne_nil _ _
  | .dict entries => exact List.cons_ne_nil _ _

/-- An operand of an operator is written as something: what has an operator of its own stands in
parentheses. -/
theorem operandChars_ne_nil (flawless : (Node.expr e).Flawless) (unraw : (Node.expr e).Unraw) :
    e.operandChars ≠ [] := by
  unfold operandChars enclosed
  cases compound : e.isCompound with
  | true => exact List.cons_ne_nil _ _
  | false => exact chars_ne_nil_of_not_isCompound flawless unraw compound

/-- Only an operator without operands is written as nothing. -/
theorem chars_eq_nil_iff (flawless : (Node.expr e).Flawless) (unraw : (Node.expr e).Unraw) :
    e.chars = [] ↔ ∃ operator, e = .combine operator [] := by
  constructor
  · intro nothing
    match e with
    | .combine operator [] => exact ⟨operator, rfl⟩
    | .combine operator (first :: others) =>
        have among : Node.expr first ∈ (Node.expr (.combine operator (first :: others))).children :=
          List.mem_cons_self
        have something := operandChars_ne_nil ((Node.all_iff.mp flawless).2 _ among)
          ((Node.all_iff.mp unraw).2 _ among)
        rw [Expr.chars, operandTexts_eq_map, List.map_cons] at nothing
        exact absurd nothing (joined_ne_nil _ something)
    | .negate operand =>
        rw [Expr.chars] at nothing
        exact absurd nothing (List.cons_ne_nil _ _)
    | .stream _ | .raw _ | .str _ | .int _ | .float _ | .bool _ | .absent | .list _ | .dict _ =>
        exact absurd nothing (chars_ne_nil_of_not_isCompound flawless unraw rfl)
  · rintro ⟨operator, rfl⟩
    rfl

end Expr

/-- In a program that passes its check and holds no text written by hand, an expression, wherever
it stands, is written as nothing just if it is an operator without operands. -/
theorem Program.text_eq_empty_iff_no_operands (program : Program) (checked : program.check = .ok ())
    (unraw : (Node.program program).Unraw) {place : List Nat} {value : Expr}
    (within : (Node.program program).At place (.expr value)) :
    value.text = "" ↔ ∃ operator, value = .combine operator [] := by
  have flawless : (Node.program program).Flawless := (Node.check_eq_ok_iff _).mp checked
  rw [Expr.text, ← String.toList_eq_nil_iff, String.toList_ofList]
  exact Expr.chars_eq_nil_iff (flawless.within within) (unraw.within within)

/-- In `f()` the parentheses hold an argument that is an operator without operands. -/
theorem Program.text_eq_empty_iff_no_operands_argument :
    (Program.ofStream (.ofCall (.mk "f" [.positional (.any [])]))).text = "f()" ∧
      ((Expr.any []).text = "" ↔ ∃ operator, Expr.any [] = .combine operator []) := by
  have unraw : (Node.program (.ofStream (.ofCall (.mk "f" [.positional (.any [])])))).Unraw :=
    .only rfl rfl (.only rfl rfl (.only rfl rfl (.only rfl rfl (.only rfl rfl (.only rfl rfl
      (Node.all_iff.mpr ⟨rfl, nofun⟩))))))
  have argument : (Node.program (.ofStream (.ofCall (.mk "f" [.positional (.any [])])))).At
      [0, 0, 0, 0, 0, 0] (.expr (.any [])) :=
    .under rfl (.under rfl (.under rfl (.under rfl (.under rfl (.under rfl (.here _))))))
  exact ⟨rfl, Program.text_eq_empty_iff_no_operands _ rfl unraw argument⟩

/-- A program that is a conjunction of nothing passes its check, though its one expression is
written as nothing. -/
theorem Program.all_of_nothing_unwritten :
    (⟨[.expr (.all [])]⟩ : Program).check = .ok () ∧
      (Node.program ⟨[.expr (.all [])]⟩).Unraw ∧
      (Node.program ⟨[.expr (.all [])]⟩).At [0, 0] (.expr (.all [])) ∧ (Expr.all []).text = "" :=
  ⟨rfl, .only rfl rfl (.only rfl rfl (Node.all_iff.mpr ⟨rfl, nofun⟩)),
    .under rfl (.under rfl (.here _)), rfl⟩

end Flow
end SignalBoard
