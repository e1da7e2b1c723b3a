/-
# Plain programs can be read back

The text of a plain expression is read back as that expression, whatever follows it, as long as
what follows cannot continue it: no letter or digit goes on with a name, no parenthesis or dot
goes on with a stream, and no operator goes on with a combination. The induction is on the fuel
of the reader. One step of it shows that a reader of small expressions makes one of expressions
that hold them, form by form, so equal texts were written from equal programs.
-/

import Mathlib.Data.List.Basic
import SignalBoard.Proofs.Flow.Reader
import SignalBoard.Proofs.Text.Literal

namespace SignalBoard.Flow

/-- The text cannot continue a name, a number or a chain of methods. -/
def EndsAtom (rest : List Char) : Prop :=
  ∀ c ∈ rest.head?, isWordChar c = false ∧ c ≠ '(' ∧ c ≠ '.'

/-- The text cannot continue an expression. -/
def Ends (rest : List Char) : Prop := EndsAtom rest ∧ Reader.operator rest = none

theorem endsAtom_blank (rest : List Char) : EndsAtom (' ' :: rest) := by
  intro c member
  obtain rfl : ' ' = c := by simpa using member
  decide

/-- Nothing continues an expression at the end of the text. -/
theorem ends_nil : Ends [] := ⟨by simp [EndsAtom], rfl⟩

/-- The marks after which an expression does not go on. -/
theorem ends_cons {c : Char} (mark : c ∈ [',', ')', ']', '}', '=', '\n']) (rest : List Char) :
    Ends (c :: rest) := by
  constructor
  · intro d member
    obtain rfl : c = d := by simpa using member
    simp only [List.mem_cons, List.not_mem_nil, or_false] at mark
    rcases mark with rfl | rfl | rfl | rfl | rfl | rfl <;> decide
  · have notBlank : c ≠ ' ' := by
      rintro rfl
      exact absurd mark (by decide)
    unfold Reader.operator
    split
    · simp_all
    · rfl

/-- An equals sign between blanks is no operator. -/
theorem ends_assignment (rest : List Char) : Ends (' ' :: '=' :: ' ' :: rest) :=
  ⟨endsAtom_blank _, rfl⟩

namespace Reader

variable {α : Type} {expr : Reader Expr} {limit : Nat}

/-- What an escape stands for is read from it. -/
theorem eq_of_escaped? {c d : Char} (stands : Text.escaped? d = some c) :
    (if d = 'n' then '\n' else d) = c := by
  unfold Text.escaped? at stands
  split at stands
  case h_1 | h_2 | h_3 => exact Option.some.inj stands
  case h_4 => cases stands

/-- A string literal is read back. -/
theorem quoted_escaped (cs rest : List Char) :
    quoted (cs.flatMap Text.escapeChar ++ '"' :: rest) = some (cs, rest) := by
  induction cs with
  | nil =>
      rw [List.flatMap_nil, List.nil_append, quoted.eq_def]
      rfl
  | cons c cs ih =>
      rcases Text.escapeChar_cases c with
        ⟨d, pair, stands, -⟩ | ⟨single, notQuote, notBackslash, -⟩
      · have restored := eq_of_escaped? stands
        simp [pair, quoted, ih, restored]
      · rw [List.flatMap_cons, single, List.append_assoc, List.singleton_append, quoted.eq_def]
        simp [ih, notQuote, notBackslash]

/-- A word is taken from a text up to where it ends. -/
theorem takeWhile_word {word rest : List Char} (chars : ∀ c ∈ word, isWordChar c = true)
    (ends : ∀ c ∈ rest.head?, isWordChar c = false) :
    (word ++ rest).takeWhile isWordChar = word := by
  rw [List.takeWhile_append_of_pos chars]
  cases rest with
  | nil => simp
  | cons c rest => simp [ends c rfl]

/-- What is left of a text after a word. -/
theorem dropWhile_word {word rest : List Char} (chars : ∀ c ∈ word, isWordChar c = true)
    (ends : ∀ c ∈ rest.head?, isWordChar c = false) :
    (word ++ rest).dropWhile isWordChar = rest := by
  rw [List.dropWhile_append_of_pos chars]
  cases rest with
  | nil => simp
  | cons c rest => simp [ends c rfl]

/-- The texts of several items: the first, then each other one after a separator. -/
theorem joined_cons (separator first : List Char) (others : List (List Char)) :
    joined separator (first :: others) = first ++ others.flatMap (separator ++ ·) := by
  induction others generalizing first with
  | nil => simp [joined, List.intercalate]
  | cons second others ih =>
      have inner := ih second
      simp only [joined, List.intercalate] at inner ⊢
      simp [List.intersperse, inner]

/-- Items between commas are read back when each is read back before a comma and before the
closing mark. -/
theorem items_joined {item : Reader α} {text : α → List Char} {close : Char} {written : List α}
    (different : close ≠ ',')
    (each : ∀ x ∈ written, ∀ c ∈ [',', close], ∀ rest,
      item (text x ++ c :: rest) = some (x, c :: rest))
    (refused : ∀ rest, item (close :: rest) = none) {n : Nat} (enough : written.length < n)
    (rest : List Char) :
    items item close n (joined [','] (written.map text) ++ close :: rest) =
      some (written, rest) := by
  induction written generalizing n with
  | nil =>
      obtain ⟨n, rfl⟩ := Nat.exists_eq_succ_of_ne_zero (Nat.ne_of_gt enough)
      simp [joined, List.intercalate, items, refused]
  | cons x others ih =>
      obtain ⟨n, rfl⟩ := Nat.exists_eq_succ_of_ne_zero (Nat.ne_zero_of_lt enough)
      have first := each x List.mem_cons_self
      rw [List.map_cons, joined_cons, List.append_assoc]
      cases others with
      | nil =>
          have read := first close (by simp) rest
          simp [items, read, different]
      | cons y others =>
          have later := ih (fun z member => each z (.tail _ member)) (n := n)
            (by simpa using enough)
          rw [List.map_cons, joined_cons, List.append_assoc] at later
          have read := first ',' (by simp) (text y ++
            ((others.map text).flatMap ([','] ++ ·) ++ close :: rest))
          simp only [List.map_cons, List.flatMap_cons, List.cons_append, List.append_assoc,
            List.nil_append] at later read ⊢
          simp [items, read, later]

/-- The reader reads the plain expressions up to a size back, in parentheses too, and refuses a
closing mark. An expression counts twice, so that there is fuel for the parentheses. -/
structure Reads (expr : Reader Expr) (size : Nat) : Prop where
  read : ∀ e : Expr, e.plain = true → 2 * sizeOf e ≤ size → ∀ rest, Ends rest →
    expr (e.chars ++ rest) = some (e, rest)
  grouped : ∀ e : Expr, e.plain = true → 2 * sizeOf e + 1 ≤ size → ∀ rest, Ends rest →
    expr ('(' :: (e.chars ++ ')' :: rest)) = some (e, rest)
  refuse : ∀ c ∈ [')', ']'], ∀ rest, expr (c :: rest) = none

/-- A variable is read back. -/
theorem Reads.read_variable {size : Nat} (reads : Reads expr size) {name : String}
    (identifier : isIdentifier name = true) (small : 2 * (sizeOf name + 4) ≤ size)
    {rest : List Char} (ends : Ends rest) :
    expr (name.toList ++ rest) = some (.stream (.mk (.variable name) []), rest) := by
  have whole := reads.read (.stream (.mk (.variable name) []))
    (by simp [Expr.plain, Stream.plain, Origin.plain, Call.allPlain, identifier])
    (by simp; omega) rest ends
  simpa [Expr.chars, Stream.chars, Origin.chars, Call.chainChars] using whole

/-- An argument is read back before a comma and before the end of the call. -/
theorem Reads.read_arg {size : Nat} (reads : Reads expr size) {a : Arg} (plain : a.plain = true)
    (small : 2 * (sizeOf a + 3) ≤ size) {c : Char} (mark : c ∈ [',', ')']) (rest : List Char) :
    arg expr (a.chars ++ c :: rest) = some (a, c :: rest) := by
  have ends : Ends (c :: rest) := ends_cons (by revert mark; simp; grind) rest
  have notEquals : c ≠ '=' := by
    rintro rfl
    exact absurd mark (by decide)
  cases a with
  | positional value =>
      simp only [Arg.plain] at plain
      simp only [Arg.positional.sizeOf_spec] at small
      have read := reads.read value plain (by omega) _ ends
      rw [Arg.chars, arg, read]
      cases reference? value <;> simp [notEquals]
  | keyword name value =>
      simp only [Arg.plain, Bool.and_eq_true] at plain
      simp only [Arg.keyword.sizeOf_spec] at small
      have name' := reads.read_variable plain.1 (by omega)
        (ends_cons (c := '=') (by decide) (value.chars ++ c :: rest))
      have value' := reads.read value plain.2 (by omega) _ ends
      rw [Arg.chars, List.append_assoc, List.cons_append, arg, name']
      simp [reference?, value']

/-- An entry of a dictionary is read back before a comma and before the end of the
dictionary. -/
theorem Reads.read_entry {size : Nat} (reads : Reads expr size) {key : String} {value : Expr}
    (plain : value.plain = true) (small : 2 * sizeOf value ≤ size) {c : Char}
    (mark : c ∈ [',', '}']) (rest : List Char) :
    entry expr ((Text.quote key ++ ':' :: value.chars) ++ c :: rest) =
      some ((key, value), c :: rest) := by
  have ends : Ends (c :: rest) := ends_cons (by revert mark; simp; grind) rest
  have value' := reads.read value plain small _ ends
  have key' := quoted_escaped key.toList (':' :: (value.chars ++ c :: rest))
  simp only [Text.quote, Text.quoteChars, List.cons_append, List.append_assoc,
    List.nil_append] at key' ⊢
  rw [entry, key']
  simp [value', String.ofList_toList]

theorem length_lt_sizeOf {β : Type} [SizeOf β] (written : List β) :
    written.length < sizeOf written := by
  induction written with
  | nil => simp
  | cons x rest ih =>
      simp only [List.length_cons, List.cons.sizeOf_spec]
      omega

/-- The arguments of a call are read back. -/
theorem Reads.read_args {size : Nat} (reads : Reads expr size) {args : List Arg}
    (plain : ∀ a ∈ args, a.plain = true) (small : 2 * (sizeOf args + 2) ≤ size)
    (rest : List Char) :
    items (arg expr) ')' size (joined [','] (Arg.texts args) ++ ')' :: rest) =
      some (args, rest) := by
  rw [Arg.texts_eq_map]
  have lengths := length_lt_sizeOf args
  refine items_joined (by decide) ?_ ?_ (by omega) rest
  · intro a member c mark rest
    have smaller := List.sizeOf_lt_of_mem member
    exact reads.read_arg (plain a member) (by omega) mark rest
  · intro rest
    rw [arg, reads.refuse ')' (by decide)]

/-- A chain of methods is read back. -/
theorem Reads.read_chain {size : Nat} (reads : Reads expr size) {calls : List Call}
    (plain : ∀ call ∈ calls, call.plain = true) (small : 2 * sizeOf calls ≤ size) {n : Nat}
    (enough : calls.length < n) {rest : List Char} (ends : EndsAtom rest) :
    chain expr size n (Call.chainChars calls ++ rest) = some (calls, rest) := by
  induction calls generalizing n with
  | nil =>
      obtain ⟨n, rfl⟩ := Nat.exists_eq_succ_of_ne_zero (Nat.ne_of_gt enough)
      cases rest with
      | nil => simp [Call.chainChars, chain]
      | cons c rest =>
          have notDot : c ≠ '.' := (ends c rfl).2.2
          simp [Call.chainChars, chain, notDot]
  | cons call calls ih =>
      obtain ⟨n, rfl⟩ := Nat.exists_eq_succ_of_ne_zero (Nat.ne_zero_of_lt enough)
      obtain ⟨name, args⟩ := call
      have here := plain (.mk name args) List.mem_cons_self
      simp only [Call.plain, Bool.and_eq_true] at here
      simp only [List.cons.sizeOf_spec, Call.mk.sizeOf_spec] at small
      have chars := isWordChar_of_isIdentifier here.1
      have later := ih (fun other member => plain other (.tail _ member)) (by omega)
        (n := n) (by simpa using enough)
      have args' := reads.read_args ((Arg.allPlain_iff args).mp here.2) (by omega)
        (Call.chainChars calls ++ rest)
      have parenthesis : ∀ c ∈ ('(' :: (joined [','] (Arg.texts args) ++
          ')' :: (Call.chainChars calls ++ rest))).head?, isWordChar c = false := by
        intro c member
        obtain rfl : '(' = c := by simpa using member
        decide
      simp only [Call.chainChars, Call.chars, List.cons_append, List.append_assoc,
        List.nil_append]
      rw [chain, dropWhile_word chars parenthesis, takeWhile_word chars parenthesis]
      simp [args', later, String.ofList_toList]

theorem isDigit_of_mem_natText {n : Nat} {c : Char} (member : c ∈ natText n) :
    c.isDigit = true :=
  Nat.isDigit_of_mem_toDigits (by decide) (by decide) member

theorem isWordChar_of_isDigit {c : Char} (digit : c.isDigit = true) : isWordChar c = true := by
  simp [isWordChar, Char.isAlphanum, digit]

/-- A letter or an underscore is no digit. -/
theorem not_isDigit_of_start {c : Char} (start : c.isAlpha = true ∨ c = '_') :
    c.isDigit = false := by
  rcases start with letter | rfl
  · rw [Bool.eq_false_iff]
    intro digit
    delta Char.isAlpha Char.isUpper Char.isLower at letter
    simp only [Bool.or_eq_true, Bool.and_eq_true, decide_eq_true_eq, UInt32.le_iff_toNat_le,
      ge_iff_le] at letter
    obtain ⟨-, upper⟩ := Char.isDigit_iff_toNat.mp digit
    simp at letter upper
    omega
  · decide

/-- Marks are no word characters. -/
theorem ne_of_isWordChar {c d : Char} (word : isWordChar c = true) (mark : isWordChar d = false) :
    c ≠ d := by
  rintro rfl
  rw [word] at mark
  cases mark

/-- The digits of a number are taken from a text. -/
theorem number_natText {n : Nat} {rest : List Char} (ends : EndsAtom rest) :
    number ((natText n ++ rest).takeWhile isWordChar) = n ∧
      (natText n ++ rest).dropWhile isWordChar = rest := by
  have chars : ∀ c ∈ natText n, isWordChar c = true := fun c member =>
    isWordChar_of_isDigit (isDigit_of_mem_natText member)
  have word : ∀ c ∈ rest.head?, isWordChar c = false := fun c member => (ends c member).1
  rw [takeWhile_word chars word, dropWhile_word chars word]
  exact ⟨Nat.ofDigitChars_ten_toDigits, rfl⟩

/-- A text that begins with a word that is no number is read after the word. -/
theorem atom_word {name : String} (start : ∃ c rest, name.toList = c :: rest ∧
      (c.isAlpha = true ∨ c = '_')) (chars : ∀ c ∈ name.toList, isWordChar c = true)
    {rest : List Char} (ends : ∀ c ∈ rest.head?, isWordChar c = false) :
    atom expr limit (name.toList ++ rest) = afterWord expr limit name rest := by
  obtain ⟨c, others, split, first⟩ := start
  have word : isWordChar c = true := chars c (by simp [split])
  have whole : c :: (others ++ rest) = name.toList ++ rest := by rw [split, List.cons_append]
  rw [← whole, atom, whole, takeWhile_word chars ends, dropWhile_word chars ends,
    if_neg (ne_of_isWordChar word (by decide)), if_neg (ne_of_isWordChar word (by decide)),
    if_neg (ne_of_isWordChar word (by decide)), if_neg (ne_of_isWordChar word (by decide)),
    if_neg (by simp [not_isDigit_of_start first]), if_pos word, String.ofList_toList]

/-- After an identifier stands the rest of a stream. -/
theorem afterWord_of_isIdentifier {name : String} (identifier : isIdentifier name = true)
    (cs : List Char) :
    afterWord expr limit name cs =
      (stream expr limit name cs).map fun (stream, rest) => (.stream stream, rest) := by
  obtain ⟨-, -, -, -, -, free⟩ := (isIdentifier_iff name).mp identifier
  simp only [reservedWords, List.mem_cons, not_or] at free
  rw [afterWord, if_neg free.1, if_neg free.2.1, if_neg free.2.2.1, if_neg free.2.2.2.2.2.1]

/-- A text that begins with an identifier is read as a stream. -/
theorem atom_of_isIdentifier {name : String} (identifier : isIdentifier name = true)
    {rest : List Char} (ends : ∀ c ∈ rest.head?, isWordChar c = false) :
    atom expr limit (name.toList ++ rest) =
      (stream expr limit name rest).map fun (stream, rest) => (.stream stream, rest) := by
  obtain ⟨c, others, split, start, -⟩ := (isIdentifier_iff name).mp identifier
  rw [atom_word ⟨c, others, split, start⟩ (isWordChar_of_isIdentifier identifier) ends,
    afterWord_of_isIdentifier identifier]

/-- A stream is read back. -/
theorem Reads.atom_stream {size : Nat} (reads : Reads expr size) {written : Stream}
    (plain : written.plain = true) (small : 2 * sizeOf (Expr.stream written) ≤ size + 1)
    {rest : List Char} (ends : EndsAtom rest) :
    atom expr size (written.chars ++ rest) = some (.stream written, rest) := by
  obtain ⟨origin, calls⟩ := written
  simp only [Stream.plain, Bool.and_eq_true] at plain
  simp only [Expr.stream.sizeOf_spec, Stream.mk.sizeOf_spec] at small
  have lengths := length_lt_sizeOf calls
  have calls' := reads.read_chain ((Call.allPlain_iff calls).mp plain.2) (by omega)
    (n := size) (by omega) ends
  cases origin with
  | call call =>
      obtain ⟨name, args⟩ := call
      simp only [Origin.plain, Call.plain, Bool.and_eq_true] at plain
      simp only [Origin.call.sizeOf_spec, Call.mk.sizeOf_spec] at small
      have args' := reads.read_args ((Arg.allPlain_iff args).mp plain.1.2) (by omega)
        (Call.chainChars calls ++ rest)
      simp only [Stream.chars, Origin.chars, Call.chars, List.cons_append, List.append_assoc,
        List.nil_append]
      rw [atom_of_isIdentifier plain.1.1 (by simp [isWordChar]), stream, args']
      simp [calls']
  | «variable» name =>
      simp only [Origin.plain] at plain
      -- What follows the name is a dot, or what follows the stream.
      have follows : ∀ c ∈ (Call.chainChars calls ++ rest).head?,
          isWordChar c = false ∧ c ≠ '(' := by
        cases calls with
        | nil => exact fun c member => ⟨(ends c member).1, (ends c member).2.1⟩
        | cons call calls =>
            intro c member
            obtain rfl : '.' = c := by simpa [Call.chainChars] using member
            decide
      simp only [Stream.chars, Origin.chars, List.append_assoc]
      rw [atom_of_isIdentifier plain.1 fun c member => (follows c member).1]
      have notCall : stream expr size name (Call.chainChars calls ++ rest) =
          (chain expr size size (Call.chainChars calls ++ rest)).map fun found =>
            (.mk (.variable name) found.1, found.2) := by
        unfold stream
        split
        case h_1 cs same => exact absurd rfl (follows '(' (by simp [same])).2
        case h_2 => rfl
      rw [notCall, calls']
      rfl

/-- A literal that is a word is read as it is. -/
theorem atom_literal (name : String) {value : Expr}
    (literal : (name, value) ∈ [("True", .bool true), ("False", .bool false), ("None", .absent)])
    {rest : List Char} (ends : EndsAtom rest) :
    atom expr limit (name.toList ++ rest) = some (value, rest) := by
  have word : ∀ c ∈ rest.head?, isWordChar c = false := fun c member => (ends c member).1
  simp only [List.mem_cons, Prod.mk.injEq, List.not_mem_nil, or_false] at literal
  rcases literal with ⟨rfl, rfl⟩ | ⟨rfl, rfl⟩ | ⟨rfl, rfl⟩
  · rw [atom_word ⟨'T', _, rfl, by decide⟩ (List.all_eq_true.mp (by decide)) word]
    rfl
  · rw [atom_word ⟨'F', _, rfl, by decide⟩ (List.all_eq_true.mp (by decide)) word]
    rfl
  · rw [atom_word ⟨'N', _, rfl, by decide⟩ (List.all_eq_true.mp (by decide)) word]
    rfl

/-- An integer is read back. -/
theorem atom_int (value : Int) {rest : List Char} (ends : EndsAtom rest) :
    atom expr limit (intText value ++ rest) = some (.int value, rest) := by
  cases value with
  | ofNat n =>
      obtain ⟨read, left⟩ := number_natText (n := n) ends
      rw [intText]
      cases digits : natText n with
      | nil => exact absurd digits Nat.toDigits_ne_nil
      | cons c others =>
          have digit : c.isDigit = true := isDigit_of_mem_natText (n := n) (by simp [digits])
          have word := isWordChar_of_isDigit digit
          rw [digits, List.cons_append] at read left
          rw [List.cons_append, atom, if_neg (ne_of_isWordChar word (by decide)),
            if_neg (ne_of_isWordChar word (by decide)), if_neg (ne_of_isWordChar word (by decide)),
            if_neg (ne_of_isWordChar word (by decide)), if_pos digit, read, left]
          rfl
  | negSucc n =>
      obtain ⟨read, left⟩ := number_natText (n := n + 1) ends
      rw [intText, List.cons_append, atom, if_neg (by decide), if_neg (by decide),
        if_neg (by decide), if_pos rfl, read, left]
      rfl

/-- A list is read back. -/
theorem Reads.atom_list {size : Nat} (reads : Reads expr size) {written : List Expr}
    (plain : ∀ e ∈ written, e.plain = true) (small : 2 * sizeOf (Expr.list written) ≤ size + 1)
    (rest : List Char) :
    atom expr size ((Expr.list written).chars ++ rest) = some (.list written, rest) := by
  simp only [Expr.list.sizeOf_spec] at small
  have lengths := length_lt_sizeOf written
  have items' : items expr ']' size (joined [','] (written.map Expr.chars) ++ ']' :: rest) =
      some (written, rest) := by
    refine items_joined (by decide) ?_ (reads.refuse ']' (by decide)) (by omega) rest
    intro e member c mark rest
    have smaller := List.sizeOf_lt_of_mem member
    exact reads.read e (plain e member) (by omega) _ (ends_cons (by revert mark; simp; grind) rest)
  simp only [Expr.chars_list, List.cons_append, List.append_assoc, List.nil_append]
  rw [atom, if_neg (by decide), if_pos rfl, items']
  rfl

/-- A dictionary is read back. -/
theorem Reads.atom_dict {size : Nat} (reads : Reads expr size) {entries : List (String × Expr)}
    (plain : ∀ entry ∈ entries, entry.2.plain = true)
    (small : 2 * sizeOf (Expr.dict entries) ≤ size + 1) (rest : List Char) :
    atom expr size ((Expr.dict entries).chars ++ rest) = some (.dict entries, rest) := by
  simp only [Expr.dict.sizeOf_spec] at small
  have lengths := length_lt_sizeOf entries
  have items' : items (entry expr) '}' size (joined [','] (entries.map fun entry =>
      Text.quote entry.1 ++ ':' :: entry.2.chars) ++ '}' :: rest) = some (entries, rest) := by
    refine items_joined (by decide) ?_ (fun rest => rfl) (by omega) rest
    rintro ⟨key, value⟩ member c mark rest
    have smaller := List.sizeOf_lt_of_mem member
    simp only [Prod.mk.sizeOf_spec] at smaller
    have value' : 2 * sizeOf value ≤ size := by omega
    exact reads.read_entry (plain _ member) value' mark rest
  simp only [Expr.chars, Expr.entryTexts_eq_map, List.cons_append, List.append_assoc,
    List.nil_append]
  rw [atom, if_neg (by decide), if_neg (by decide), if_pos rfl, items']
  rfl

/-- An expression that is not written with an operator is read back as an atom. -/
theorem Reads.read_atom {size : Nat} (reads : Reads expr size) {e : Expr} (plain : e.plain = true)
    (simple : e.isCompound = false) (small : 2 * sizeOf e ≤ size + 1) {rest : List Char}
    (ends : EndsAtom rest) : atom expr size (e.chars ++ rest) = some (e, rest) := by
  cases e with
  | stream written =>
      simp only [Expr.plain] at plain
      rw [Expr.chars]
      exact reads.atom_stream plain small ends
  | combine operator operands => cases simple
  | negate operand => cases simple
  | str value =>
      have read := quoted_escaped value.toList rest
      simp only [Expr.chars, Text.quote, Text.quoteChars, List.cons_append, List.append_assoc,
        List.nil_append]
      rw [atom, if_pos rfl, read]
      simp [String.ofList_toList]
  | int value =>
      rw [Expr.chars]
      exact atom_int value ends
  | float value => simp [Expr.plain] at plain
  | bool value =>
      cases value with
      | true => exact atom_literal "True" (by simp) ends
      | false => exact atom_literal "False" (by simp) ends
  | absent => exact atom_literal "None" (by simp) ends
  | list written =>
      simp only [Expr.plain] at plain
      exact reads.atom_list ((Expr.allPlain_iff written).mp plain) small rest
  | dict entries =>
      simp only [Expr.plain] at plain
      exact reads.atom_dict ((Expr.entriesPlain_iff entries).mp plain) small rest
  | raw text => simp [Expr.plain] at plain

/-- What is read as an atom is no text in parentheses, so it is read as an operand too. -/
theorem operand_of_atom {cs : List Char} {found : Expr × List Char}
    (read : atom expr limit cs = some found) : operand expr limit cs = some found := by
  unfold operand
  split
  case h_1 cs =>
    rw [atom] at read
    simp [isWordChar] at read
  case h_2 => exact read

/-- A text in parentheses is read as an operand. -/
theorem Reads.operand_enclosed {size : Nat} (reads : Reads expr size) {e : Expr}
    (plain : e.plain = true) (small : 2 * sizeOf e ≤ size) (rest : List Char) :
    operand expr limit ('(' :: (e.chars ++ ')' :: rest)) = some (e, rest) := by
  rw [operand, reads.read e plain small _ (ends_cons (by decide) rest)]
  rfl

/-- An operand is read back. -/
theorem Reads.read_operand {size : Nat} (reads : Reads expr size) {e : Expr}
    (plain : e.plain = true) (small : 2 * sizeOf e ≤ size) {rest : List Char}
    (ends : EndsAtom rest) : operand expr size (e.operandChars ++ rest) = some (e, rest) := by
  rw [Expr.operandChars, enclosed]
  cases compound : e.isCompound with
  | true =>
      simp only [if_true, List.cons_append, List.append_assoc, List.nil_append]
      exact reads.operand_enclosed plain small rest
  | false =>
      rw [if_neg (by simp)]
      exact operand_of_atom (reads.read_atom plain compound (by omega) ends)

/-- An operator between blanks is read. -/
theorem operator_blanks {name : String} (known : name ∈ operators) (rest : List Char) :
    operator (' ' :: (name.toList ++ ' ' :: rest)) = some (name, rest) := by
  have solid : name.toList.all (fun c => decide (c ≠ ' ')) = true := by
    revert known
    revert name
    decide
  rw [List.all_eq_true] at solid
  rw [operator, List.dropWhile_append_of_pos solid, List.takeWhile_append_of_pos solid]
  simp [known, String.ofList_toList]

/-- The operands after the first are read back. -/
theorem Reads.read_operands {size : Nat} (reads : Reads expr size) {name : String}
    (known : name ∈ operators) {written : List Expr} (plain : ∀ e ∈ written, e.plain = true)
    (small : 2 * sizeOf written ≤ size) {n : Nat} (enough : written.length < n)
    {rest : List Char} (ends : Ends rest) :
    operands expr size n (written.flatMap (fun e =>
      (' ' :: name.toList ++ [' ']) ++ e.operandChars) ++ rest) = some (written, rest) := by
  induction written generalizing n with
  | nil =>
      obtain ⟨n, rfl⟩ := Nat.exists_eq_succ_of_ne_zero (Nat.ne_of_gt enough)
      rw [List.flatMap_nil, List.nil_append, operands, ends.2]
  | cons e others ih =>
      obtain ⟨n, rfl⟩ := Nat.exists_eq_succ_of_ne_zero (Nat.ne_zero_of_lt enough)
      simp only [List.cons.sizeOf_spec] at small
      have later := ih (fun other member => plain other (.tail _ member)) (by omega)
        (n := n) (by simpa using enough)
      -- What follows the operand is a blank, or what follows the combination.
      have blank : EndsAtom (others.flatMap (fun e =>
          (' ' :: name.toList ++ [' ']) ++ e.operandChars) ++ rest) := by
        cases others with
        | nil => exact ends.1
        | cons other others => exact endsAtom_blank _
      have here := reads.read_operand (plain e List.mem_cons_self) (by omega) blank
      have after := operator_blanks known (e.operandChars ++ (others.flatMap (fun e =>
          (' ' :: name.toList ++ [' ']) ++ e.operandChars) ++ rest))
      simp only [List.flatMap_cons, List.cons_append, List.append_assoc, List.nil_append]
        at here after later ⊢
      rw [operands, after]
      simp [here, later]

/-- An operand is read back by the reader itself, in parentheses or not. -/
theorem Reads.read_operandChars {size : Nat} (reads : Reads expr size) {e : Expr}
    (plain : e.plain = true) (small : 2 * sizeOf e + 1 ≤ size) {rest : List Char}
    (ends : Ends rest) : expr (e.operandChars ++ rest) = some (e, rest) := by
  rw [Expr.operandChars, enclosed]
  cases e.isCompound with
  | true =>
      simp only [if_true, List.cons_append, List.append_assoc, List.nil_append]
      exact reads.grouped e plain small rest ends
  | false =>
      rw [if_neg (by simp)]
      exact reads.read e plain (by omega) rest ends

/-- What is read as an operand is the whole expression when no operator follows. -/
theorem combination_of_operand {cs rest : List Char} {e : Expr} (ends : Ends rest)
    (read : operand expr limit cs = some (e, rest)) :
    combination expr limit cs = some (e, rest) := by
  simp only [combination, read, ends.2]

/-- A combination is read back. -/
theorem Reads.read_combine {size : Nat} (reads : Reads expr size) {name : String}
    {written : List Expr} (plain : (Expr.combine name written).plain = true)
    (small : 2 * sizeOf (Expr.combine name written) ≤ size + 1) {rest : List Char}
    (ends : Ends rest) :
    combination expr size ((Expr.combine name written).chars ++ rest) =
      some (.combine name written, rest) := by
  simp only [Expr.plain, Bool.and_eq_true, decide_eq_true_eq, List.contains_iff_mem,
    Expr.allPlain_iff] at plain
  obtain ⟨⟨known, several⟩, plain⟩ := plain
  simp only [Expr.combine.sizeOf_spec] at small
  have lengths := length_lt_sizeOf written
  match written, several with
  | first :: second :: others, _ =>
    simp only [List.cons.sizeOf_spec, List.length_cons] at small lengths
    have here := reads.read_operand (plain first List.mem_cons_self) (by omega)
      (endsAtom_blank (name.toList ++ ' ' :: (second.operandChars ++ (others.flatMap (fun e =>
        (' ' :: name.toList ++ [' ']) ++ e.operandChars) ++ rest))))
    have after := operator_blanks known (second.operandChars ++ (others.flatMap (fun e =>
      (' ' :: name.toList ++ [' ']) ++ e.operandChars) ++ rest))
    have later := reads.read_operands known
      (fun e (member : e ∈ second :: others) => plain e (.tail _ member))
      (by simp only [List.cons.sizeOf_spec]; omega)
      (n := size) (by simp only [List.length_cons]; omega) ends
    rw [Expr.chars, Expr.operandTexts_eq_map, List.map_cons, joined_cons, List.flatMap_map]
    simp only [List.flatMap_cons, List.cons_append, List.append_assoc, List.nil_append]
      at here after later ⊢
    simp [combination, here, after, later]

/-- A complement is read back. -/
theorem Reads.read_negate {size : Nat} (reads : Reads expr size) {e : Expr}
    (plain : e.plain = true) (small : 2 * sizeOf (Expr.negate e) ≤ size + 1) {rest : List Char}
    (ends : Ends rest) :
    combination expr size ((Expr.negate e).chars ++ rest) = some (.negate e, rest) := by
  simp only [Expr.negate.sizeOf_spec] at small
  refine combination_of_operand ends (operand_of_atom ?_)
  have read := reads.read_operandChars plain (by omega) ends
  have whole : (Expr.negate e).chars ++ rest =
      "not".toList ++ ' ' :: (e.operandChars ++ rest) := by
    simp [Expr.chars, Expr.operandChars]
  rw [whole, atom_word ⟨'n', _, rfl, by decide⟩ (List.all_eq_true.mp (by decide))
    fun c member => (endsAtom_blank _ c member).1, afterWord, if_neg (by decide),
    if_neg (by decide), if_neg (by decide), if_pos rfl, List.drop_succ_cons, List.drop_zero, read]
  rfl

/-- A reader of small expressions makes one of expressions that hold them. -/
theorem Reads.succ {size : Nat} (reads : Reads expr size) :
    Reads (combination expr size) (size + 1) where
  read := by
    intro e plain small rest ends
    cases compound : e.isCompound with
    | false =>
        exact combination_of_operand ends
          (operand_of_atom (reads.read_atom plain compound small ends.1))
    | true =>
        cases e with
        | combine name written => exact reads.read_combine plain small ends
        | negate operand => exact reads.read_negate (by simpa [Expr.plain] using plain) small ends
        | _ => cases compound
  grouped := fun e plain small rest ends =>
    combination_of_operand ends (reads.operand_enclosed plain (by omega) rest)
  refuse := by
    intro c mark rest
    have refused : operand expr size (c :: rest) = none := by
      simp only [List.mem_cons, List.not_mem_nil, or_false] at mark
      rcases mark with rfl | rfl <;> simp [operand, atom, isWordChar]
    rw [combination, refused]

/-- With fuel for twice its size, every plain expression is read back. -/
theorem reads_expr (fuel : Nat) : Reads (Reader.expr fuel) fuel := by
  induction fuel with
  | zero =>
      refine ⟨fun e _ small => ?_, fun e _ small => by omega, fun _ _ _ => rfl⟩
      have : sizeOf e ≠ 0 := by cases e <;> simp
      omega
  | succ fuel ih => exact ih.succ

end Reader

end SignalBoard.Flow
