/-
# Words of a command line

A command line is a list of words. A word may name options in long or short form, end the
options, or be plain: a command, or the value of the option before it.
-/

namespace SignalBoard.CommandLine

/-- What a word of a command line is, by its form alone. -/
inductive Word where
  /-- Two hyphens: no option follows. -/
  | escape
  /-- An option in long form, perhaps with its value after an equals sign. -/
  | long (name : String) (value? : Option String)
  /-- Options in short form, one letter each. -/
  | cluster (letters : List Char)
  | plain (text : String)
deriving DecidableEq, Repr

/-- Tells what a word is. A single hyphen is plain. -/
def Word.ofText (text : String) : Word :=
  match text.toList with
  | ['-', '-'] => .escape
  | '-' :: '-' :: cs =>
      let value? := match cs.dropWhile (· ≠ '=') with
        | _ :: value => some (String.ofList value)
        | [] => none
      .long (String.ofList (cs.takeWhile (· ≠ '='))) value?
  | '-' :: c :: cs => .cluster (c :: cs)
  | _ => .plain text

/-- A plain word is the text that was given. -/
theorem Word.text_eq_of_ofText_plain {text other : String}
    (h : Word.ofText text = .plain other) : other = text := by
  unfold Word.ofText at h
  split at h <;> simp_all

end SignalBoard.CommandLine
