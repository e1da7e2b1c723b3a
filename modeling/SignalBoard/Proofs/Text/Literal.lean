/-
# Reading quoted literals

A literal ends at the first quote that is not taken together with a backslash before it. Whatever
string a literal is written for, that is the quote written last: a quote and a backslash of the
string stand in pairs with a backslash before them, and a reader that takes pairs is never out of
step with them. So what follows a literal has no say in where it ends.
-/

import SignalBoard.Text.Quoted

namespace SignalBoard.Text

/-! ## Escapes -/

/-- The character that a backslash and the character after it stand for. -/
def escaped? : Char → Option Char
  | '"' => some '"'
  | '\\' => some '\\'
  | 'n' => some '\n'
  | _ => none

/-- Undoes the escapes; nothing but an escape begins with a backslash. -/
def unescape? : List Char → Option (List Char)
  | [] => some []
  | ['\\'] => none
  | '\\' :: d :: rest => do return (← escaped? d) :: (← unescape? rest)
  | c :: rest => do return c :: (← unescape? rest)

/-- A character is written as a pair that stands for it, or else it is written as itself. -/
theorem escapeChar_cases (c : Char) :
    (∃ d, escapeChar c = ['\\', d] ∧ escaped? d = some c ∧ d ≠ '\n') ∨
      (escapeChar c = [c] ∧ c ≠ '"' ∧ c ≠ '\\' ∧ c ≠ '\n') := by
  by_cases quote : c = '"'
  · subst quote
    exact .inl ⟨'"', rfl, rfl, by decide⟩
  by_cases backslash : c = '\\'
  · subst backslash
    exact .inl ⟨'\\', rfl, rfl, by decide⟩
  by_cases lineFeed : c = '\n'
  · subst lineFeed
    exact .inl ⟨'n', rfl, rfl, by decide⟩
  exact .inr ⟨by simp [escapeChar, *], quote, backslash, lineFeed⟩

/-- Escaping is undone. -/
theorem unescape?_flatMap (cs : List Char) : unescape? (cs.flatMap escapeChar) = some cs := by
  induction cs with
  | nil => rfl
  | cons c cs ih =>
      rcases escapeChar_cases c with ⟨d, pair, stands, -⟩ | ⟨single, -, notBackslash, -⟩
      · simp [pair, unescape?, stands, ih]
      · simp [single, unescape?, notBackslash, ih]

/-- What is escaped holds no line feed. -/
theorem lineFeed_not_mem_flatMap (cs : List Char) : '\n' ∉ cs.flatMap escapeChar := by
  intro member
  obtain ⟨c, -, within⟩ := List.mem_flatMap.mp member
  rcases escapeChar_cases c with ⟨d, pair, -, notLineFeed⟩ | ⟨single, -, -, notLineFeed⟩
  · simp [pair, Ne.symm notLineFeed] at within
  · simp [single, Ne.symm notLineFeed] at within

/-! ## Where a literal ends -/

/-- Reads on in a literal, a backslash together with the character after it, up to the first quote
that is not taken so. Gives what was read and what follows. -/
def closing? : List Char → Option (List Char × List Char)
  | [] => none
  | '"' :: rest => some (['"'], rest)
  | '\\' :: d :: rest => (closing? rest).map fun (read, rest) => ('\\' :: d :: read, rest)
  | c :: rest => (closing? rest).map fun (read, rest) => (c :: read, rest)

/-- Reads a literal from its opening quote on. Gives what was read and what follows. -/
def literal? : List Char → Option (List Char × List Char)
  | '"' :: rest => (closing? rest).map fun (read, rest) => ('"' :: read, rest)
  | _ => none

/-- The string that a literal denotes: what stands between its quotes, with the escapes undone. -/
def denoted? (literal : List Char) : Option String :=
  (unescape? literal.tail.dropLast).map String.ofList

/-- What was read and what follows are the text. -/
theorem append_of_closing? {cs read rest : List Char} (closes : closing? cs = some (read, rest)) :
    read ++ rest = cs := by
  fun_induction closing? cs generalizing read with
  | case1 => cases closes
  | case2 after =>
      obtain ⟨rfl, rfl⟩ := Prod.mk.inj (Option.some.inj closes)
      rfl
  | case3 d after ih =>
      obtain ⟨⟨read, rest⟩, closes', same⟩ := Option.map_eq_some_iff.mp closes
      obtain ⟨rfl, rfl⟩ := Prod.mk.inj same
      rw [List.cons_append, List.cons_append, ih closes']
  | case4 c after _ _ ih =>
      obtain ⟨⟨read, rest⟩, closes', same⟩ := Option.map_eq_some_iff.mp closes
      obtain ⟨rfl, rfl⟩ := Prod.mk.inj same
      rw [List.cons_append, ih closes']

/-- What follows the closing quote is no longer than the text that was read on in. -/
theorem length_le_of_closing? {cs read rest : List Char}
    (closes : closing? cs = some (read, rest)) : rest.length ≤ cs.length := by
  rw [← append_of_closing? closes, List.length_append]
  exact Nat.le_add_left _ _

/-- What is escaped is read up to the quote after it. -/
theorem closing?_flatMap (cs rest : List Char) :
    closing? (cs.flatMap escapeChar ++ '"' :: rest) =
      some (cs.flatMap escapeChar ++ ['"'], rest) := by
  induction cs with
  | nil => rfl
  | cons c cs ih =>
      -- A pair is taken whole, even one that ends in a quote; what stands alone is no quote.
      rcases escapeChar_cases c with ⟨d, pair, -, -⟩ | ⟨single, notQuote, notBackslash, -⟩
      · simp [pair, closing?, ih]
      · simp [single, closing?, notBackslash, ih]

/-- A literal is read to its end, whatever follows it. -/
theorem literal?_quote (s : String) (rest : List Char) :
    literal? (quote s ++ rest) = some (quote s, rest) := by
  simp [quote, quoteChars, literal?, closing?_flatMap]

/-- A literal denotes the string that it was written for. -/
theorem denoted?_quote (s : String) : denoted? (quote s) = some s := by
  simp [denoted?, quote, quoteChars, unescape?_flatMap]

/-- A literal is on one line. -/
theorem lineFeed_not_mem_quote (s : String) : '\n' ∉ quote s := by
  have escaped := lineFeed_not_mem_flatMap s.toList
  simp only [quote, quoteChars, List.cons_append, List.mem_cons, List.mem_append, not_or,
    List.not_mem_nil, not_false_iff, and_true]
  exact ⟨by decide, escaped, by decide⟩

/-! ## The literals of a text -/

/-- Reads through a text and gives the strings whose literals stand in it, in order. There are none
if a literal does not end or holds an unknown escape. -/
def literals? : List Char → Option (List String)
  | [] => some []
  | '"' :: rest =>
      match closes : closing? rest with
      | none => none
      | some (read, after) =>
          have := length_le_of_closing? closes
          do return (← denoted? ('"' :: read)) :: (← literals? after)
  | _ :: rest => literals? rest
termination_by cs => cs.length

/-- A literal is read first, and then the rest of the text. -/
theorem literals?_quote (s : String) (rest : List Char) :
    literals? (quote s ++ rest) = (literals? rest).map (s :: ·) := by
  have closes := closing?_flatMap s.toList rest
  have denotes : denoted? ('"' :: (s.toList.flatMap escapeChar ++ ['"'])) = some s :=
    denoted?_quote s
  have whole : quote s ++ rest = '"' :: (s.toList.flatMap escapeChar ++ '"' :: rest) := by
    simp [quote, quoteChars]
  rw [whole, literals?]
  split
  case h_1 unclosed =>
    rw [closes] at unclosed
    cases unclosed
  case h_2 read after closes' =>
    obtain ⟨rfl, rfl⟩ := Prod.mk.inj (Option.some.inj (closes.symm.trans closes'))
    rw [denotes]
    cases literals? rest <;> rfl

/-- Does the character neither begin a literal nor end a line? -/
def isOrdinary (c : Char) : Bool := c ≠ '"' && c ≠ '\n'

/-- The text is written with a literal for each of the strings, in order, and with nothing else that
begins a literal or ends a line. -/
inductive Spells : List Char → List String → Prop
  | nil : Spells [] []
  | ordinary {c : Char} {cs : List Char} {strings : List String} (own : isOrdinary c = true)
      (rest : Spells cs strings) : Spells (c :: cs) strings
  | literal (s : String) {cs : List Char} {strings : List String} (rest : Spells cs strings) :
      Spells (quote s ++ cs) (s :: strings)

namespace Spells

variable {cs ds : List Char} {strings strings' : List String}

/-- A reader of the whole text finds the literals that it was written with. -/
theorem literals?_eq (spells : Spells cs strings) : literals? cs = some strings := by
  induction spells with
  | nil => rw [literals?]
  | @ordinary c cs strings own rest ih =>
      have notQuote : c ≠ '"' := by simpa using (Bool.and_eq_true_iff.mp own).1
      rw [literals?, ih]
      exact notQuote
  | literal s rest ih =>
      rw [literals?_quote, ih]
      rfl

/-- The whole text is on one line. -/
theorem lineFeed_not_mem (spells : Spells cs strings) : '\n' ∉ cs := by
  induction spells with
  | nil => exact List.not_mem_nil
  | ordinary own rest ih =>
      refine List.not_mem_cons_of_ne_of_not_mem ?_ ih
      rintro rfl
      cases own
  | literal s rest ih => exact List.not_mem_append (lineFeed_not_mem_quote s) ih

theorem append (first : Spells cs strings) (second : Spells ds strings') :
    Spells (cs ++ ds) (strings ++ strings') := by
  induction first with
  | nil => exact second
  | ordinary own rest ih => exact .ordinary own ih
  | literal s rest ih =>
      rw [List.append_assoc]
      exact .literal s ih

theorem of_ordinary (each : cs.all isOrdinary = true) : Spells cs [] := by
  induction cs with
  | nil => exact .nil
  | cons c cs ih =>
      obtain ⟨own, later⟩ := Bool.and_eq_true_iff.mp each
      exact .ordinary own (ih later)

/-- What is ordinary may stand in front. -/
theorem ordinary_append (front : List Char) (each : front.all isOrdinary = true)
    (spells : Spells cs strings) : Spells (front ++ cs) strings :=
  (of_ordinary each).append spells

/-- What is ordinary may stand at the end. -/
theorem append_ordinary (spells : Spells cs strings) (back : List Char)
    (each : back.all isOrdinary = true) : Spells (cs ++ back) strings := by
  simpa using spells.append (of_ordinary each)

theorem quote (s : String) : Spells (quote s) [s] := by
  simpa using Spells.literal s .nil

/-- Texts one after another hold their strings one after another. -/
theorem flatMap {α : Type} {items : List α} {text : α → List Char} {held : α → List String}
    (each : ∀ item ∈ items, Spells (text item) (held item)) :
    Spells (items.flatMap text) (items.flatMap held) := by
  induction items with
  | nil => exact .nil
  | cons item items ih =>
      obtain ⟨own, later⟩ := List.forall_mem_cons.mp each
      exact own.append (ih later)

end Spells

end SignalBoard.Text
