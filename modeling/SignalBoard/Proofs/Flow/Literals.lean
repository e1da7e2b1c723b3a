/-
# The literals of a program in its text

A string of a program, the key of a dictionary and a label are written as literals, everything else
as it is. A literal never ends before its string does and never breaks a line. So whatever the
strings of a program are, a reader of its text meets just them: as long as names and text by hand
hold no quotes and no line feeds, each statement is one line, and the literals read in that line are
the strings and keys of the statement. The induction is over the tree of the program.
-/

import SignalBoard.Proofs.Flow.Labels
import SignalBoard.Proofs.Flow.Node
import SignalBoard.Proofs.Flow.Readable
import SignalBoard.Proofs.Text.Literal
import SignalBoard.Text.Fields

namespace SignalBoard

open Text (Spells isOrdinary)

/-! ## Numbers -/

theorem isOrdinary_of_isDigit {c : Char} (digit : c.isDigit = true) : isOrdinary c = true := by
  have notQuote : c ≠ '"' := by
    rintro rfl
    cases digit
  have notLineFeed : c ≠ '\n' := by
    rintro rfl
    cases digit
  simp [isOrdinary, notQuote, notLineFeed]

theorem all_isOrdinary_natText (n : Nat) : (natText n).all isOrdinary = true :=
  List.all_eq_true.mpr fun _ member =>
    isOrdinary_of_isDigit (Flow.Reader.isDigit_of_mem_natText member)

theorem all_isOrdinary_intText (n : Int) : (intText n).all isOrdinary = true := by
  cases n with
  | ofNat n => exact all_isOrdinary_natText n
  | negSucc n => exact Bool.and_eq_true_iff.mpr ⟨rfl, all_isOrdinary_natText (n + 1)⟩

theorem Decimal.all_isOrdinary_positional (d : Decimal) :
    d.positional.all isOrdinary = true := by
  have digits : d.chars.all isOrdinary = true := all_isOrdinary_natText d.digits
  have mark : isOrdinary '.' = true := rfl
  have zero : isOrdinary '0' = true := rfl
  unfold positional
  split
  · simp [digits, zero]
  · split
    · have before := List.all_eq_true.mp digits
      simp only [List.all_append, List.all_cons, mark, Bool.and_eq_true, List.all_eq_true]
      exact ⟨fun c member => before c (List.mem_of_mem_take member), trivial,
        fun c member => before c (List.mem_of_mem_drop member)⟩
    · simp [digits, mark, zero]

theorem Binary64.all_isOrdinary_render (x : Binary64) :
    (x.render .flow).all isOrdinary = true := by
  have sign : (if x.negative then ['-'] else []).all isOrdinary = true := by
    cases x.negative <;> rfl
  unfold render
  dsimp only
  split
  · rfl
  · rw [apply_ite (List.all · isOrdinary), List.all_append, List.all_append, sign]
    split
    · rfl
    · simpa [NumberFormat.flow] using Decimal.all_isOrdinary_positional _

namespace Flow

/-! ## What a node holds -/

/-- The text of a node. -/
def Node.chars : Node → List Char
  | program p => p.chars
  | statement s => s.chars
  | expr e => e.chars
  | entry key value => Text.quote key ++ ':' :: value.chars
  | arg _ a => a.chars
  | call c => c.chars
  | origin o => o.chars

/-- The string that a node itself holds: a string literal, or the key of an entry. -/
def Node.string? : Node → Option String
  | expr (.str s) => some s
  | entry key _ => some key
  | _ => none

/-- The name or the text of a node itself that is written as it is. -/
def Node.asIs : Node → String
  | statement (.assign target _) => target
  | statement (.raw text) => text
  | expr (.combine operator _) => operator
  | expr (.raw text) => text
  | arg _ (.keyword name _) => name
  | call (.mk name _) => name
  | origin (.variable name) => name
  | _ => ""

/-- What is written as it is, at the node or below it, begins no literal and ends no line. -/
def Node.Tidy (node : Node) : Prop :=
  node.All fun found => found.asIs.toList.all isOrdinary = true

/-- The strings at the node and below it, in the order of the text. -/
def Node.strings (node : Node) : List String :=
  node.string?.toList ++ node.children.attach.flatMap fun child => child.1.strings
termination_by node.size
decreasing_by exact size_lt_of_mem_children child.2

theorem Node.strings_eq (node : Node) :
    node.strings = node.string?.toList ++ node.children.flatMap strings := by
  rw [strings]
  simp

/-! ## What a node is written with -/

/-- Texts with a separator between them hold their strings one after another. -/
theorem spells_joined {α : Type} {separator : List Char}
    (apart : separator.all isOrdinary = true) {items : List α} {text : α → List Char}
    {held : α → List String} (each : ∀ item ∈ items, Spells (text item) (held item)) :
    Spells (joined separator (items.map text)) (items.flatMap held) := by
  cases items with
  | nil => exact .nil
  | cons item items =>
      obtain ⟨own, later⟩ := List.forall_mem_cons.mp each
      rw [List.map_cons, Reader.joined_cons, List.flatMap_map]
      exact own.append (.flatMap fun item among => (later item among).ordinary_append _ apart)

/-- Items between brackets hold their strings one after another. -/
theorem spells_bracketed (opening closing : Char) (first : isOrdinary opening = true)
    (last : isOrdinary closing = true) {α : Type} {items : List α} {text : α → List Char}
    {held : α → List String} (each : ∀ item ∈ items, Spells (text item) (held item)) :
    Spells (opening :: joined [','] (items.map text) ++ [closing]) (items.flatMap held) :=
  (Spells.ordinary first (spells_joined rfl each)).append_ordinary _ (by simpa using last)

theorem spells_enclosed {text : List Char} {held : List String} (needed : Bool)
    (spells : Spells text held) : Spells (enclosed needed text) held := by
  cases needed with
  | false => exact spells
  | true => exact (Spells.ordinary rfl spells).append_ordinary _ rfl

/-- A program is right below no node. -/
theorem Node.ne_program_of_mem_children {node child : Node} (among : child ∈ node.children)
    (p : Program) : child ≠ program p := by
  rintro rfl
  unfold children at among
  split at among <;> simp at among

/-- An expression is written with a literal for each of its strings if the nodes right below it
are. -/
theorem Expr.spells (e : Expr) (own : (Node.expr e).asIs.toList.all isOrdinary = true)
    (each : ∀ child ∈ (Node.expr e).children, Spells child.chars child.strings) :
    Spells e.chars (Node.expr e).strings := by
  rw [Node.strings_eq]
  cases e with
  | stream s =>
      obtain ⟨start, calls⟩ := s
      have start' := each (.origin start) List.mem_cons_self
      have among : ∀ c ∈ calls, Spells ('.' :: c.chars) (Node.call c).strings := fun c member =>
        .ordinary rfl (each (.call c) (.tail _ (List.mem_map_of_mem member)))
      simpa [Node.string?, Node.children, Node.chars, Expr.chars, Stream.chars,
        Call.chainChars_eq_flatMap, List.flatMap_map] using start'.append (.flatMap among)
  | combine operator operands =>
      have among : ∀ e ∈ operands, Spells e.operandChars (Node.expr e).strings := fun e member =>
        spells_enclosed e.isCompound (each (.expr e) (List.mem_map_of_mem member))
      have apart : (' ' :: operator.toList ++ [' ']).all isOrdinary = true :=
        List.all_append.trans (Bool.and_eq_true_iff.mpr ⟨own, rfl⟩)
      simpa [Node.string?, Node.children, Expr.chars, Expr.operandTexts_eq_map,
        List.flatMap_map] using spells_joined apart among
  | negate operand =>
      have operand' := each (.expr operand) List.mem_cons_self
      have negated := (spells_enclosed operand.isCompound operand').ordinary_append
        "not ".toList rfl
      simpa [Node.string?, Node.children, Node.chars, Expr.chars] using negated
  | str s => simpa [Node.string?, Node.children, Expr.chars] using Spells.quote s
  | int n =>
      simpa [Node.string?, Node.children, Expr.chars] using
        Spells.of_ordinary (all_isOrdinary_intText n)
  | float x =>
      simpa [Node.string?, Node.children, Expr.chars] using
        Spells.of_ordinary x.all_isOrdinary_render
  | bool b => cases b <;> exact Spells.of_ordinary rfl
  | absent => exact Spells.of_ordinary rfl
  | list items =>
      have among : ∀ e ∈ items, Spells e.chars (Node.expr e).strings := fun e member =>
        each (.expr e) (List.mem_map_of_mem member)
      simpa [Node.string?, Node.children, Expr.chars_list, List.flatMap_map]
        using spells_bracketed '[' ']' rfl rfl among
  | dict entries =>
      have among : ∀ e ∈ entries, Spells (Text.quote e.1 ++ ':' :: e.2.chars)
          (Node.entry e.1 e.2).strings := fun e member =>
        each (.entry e.1 e.2) (List.mem_map_of_mem member)
      simpa [Node.string?, Node.children, Expr.chars, Expr.entryTexts_eq_map,
        List.flatMap_map] using spells_bracketed '{' '}' rfl rfl among
  | raw text =>
      have asIs : Spells text.toList [] := .of_ordinary own
      simpa [Node.string?, Node.children, Expr.chars] using asIs

/-- A node other than a whole program is written on one line, with a literal for each of its
strings. -/
theorem Node.spells {node : Node} (tidy : node.Tidy) (part : ∀ p, node ≠ program p) :
    Spells node.chars node.strings := by
  induction node using Node.induction with
  | step node ih =>
      obtain ⟨own, below⟩ := all_iff.mp tidy
      -- A program is left out because its lines are apart; it is no part of another node.
      have each : ∀ child ∈ node.children, Spells child.chars child.strings := fun child among =>
        ih child among (below child among) (ne_program_of_mem_children among)
      cases node with
      | program p => exact absurd rfl (part p)
      | expr e => exact e.spells own each
      | statement s =>
          rw [strings_eq]
          cases s with
          | expr value =>
              have value' := each (expr value) List.mem_cons_self
              simpa [string?, children, Node.chars, Statement.chars] using value'
          | assign target value =>
              have value' := each (expr value) List.mem_cons_self
              have assigned := value'.ordinary_append (target.toList ++ " = ".toList)
                (List.all_append.trans (Bool.and_eq_true_iff.mpr ⟨own, rfl⟩))
              simpa [string?, children, Node.chars, Statement.chars] using assigned
          | raw text =>
              have asIs : Spells text.toList [] := .of_ordinary own
              simpa [string?, children, Node.chars, Statement.chars] using asIs
      | entry key value =>
          have value' := each (expr value) List.mem_cons_self
          have keyed := Spells.literal key (.ordinary (rfl : isOrdinary ':' = true) value')
          rw [strings_eq]
          simpa [string?, children, Node.chars] using keyed
      | arg function a =>
          rw [strings_eq]
          cases a with
          | positional value =>
              have value' := each (expr value) List.mem_cons_self
              simpa [string?, children, Node.chars, Arg.chars] using value'
          | keyword name value =>
              have value' := each (expr value) List.mem_cons_self
              have named := Spells.ordinary_append name.toList own
                (.ordinary (rfl : isOrdinary '=' = true) value')
              simpa [string?, children, Node.chars, Arg.chars] using named
      | call c =>
          obtain ⟨name, args⟩ := c
          have among : ∀ a ∈ args, Spells a.chars (arg name a).strings := fun a member =>
            each (arg name a) (List.mem_map_of_mem member)
          have named := Spells.ordinary_append name.toList own
            (spells_bracketed '(' ')' rfl rfl among)
          rw [strings_eq]
          simpa [string?, children, Node.chars, Call.chars, Arg.texts_eq_map, List.flatMap_map]
            using named
      | origin o =>
          rw [strings_eq]
          cases o with
          | call start =>
              have start' := each (call start) List.mem_cons_self
              simpa [string?, children, Node.chars, Origin.chars] using start'
          | «variable» name =>
              have asIs : Spells name.toList [] := .of_ordinary own
              simpa [string?, children, Node.chars, Origin.chars] using asIs

/-! ## Programs -/

/-- The strings below a node are among its own. -/
theorem Node.strings_subset {node child : Node} (among : child ∈ node.children) :
    child.strings ⊆ node.strings := by
  intro s held
  rw [strings_eq node]
  exact List.mem_append_right _ (List.mem_flatMap.mpr ⟨child, among, held⟩)

/-- A label that is given to a call is among the strings of the call. -/
theorem Labelled.mem_strings {label : String} {args : List Arg} (labelled : Labelled args label)
    (name : String) : label ∈ (Node.call (.mk name args)).strings := by
  have own : label ∈ (Node.expr (.str label)).strings := by
    rw [Node.strings_eq]
    exact List.mem_cons_self
  cases labelled with
  | @named before after _ first =>
      have passed : Node.arg name (.keyword "label" (.str label)) ∈
          (Node.call (.mk name (before ++ .keyword "label" (.str label) :: after))).children :=
        List.mem_map_of_mem (List.mem_append_right before List.mem_cons_self)
      exact Node.strings_subset passed (Node.strings_subset List.mem_cons_self own)
  | @placed rest _ unnamed =>
      have passed : Node.arg name (.positional (.str label)) ∈
          (Node.call (.mk name (.positional (.str label) :: rest))).children := List.mem_cons_self
      exact Node.strings_subset passed (Node.strings_subset List.mem_cons_self own)

/-- The labels that a statement publishes are among its strings. -/
theorem Statement.published_subset_strings (statement : Statement) :
    statement.published ⊆ (Node.statement statement).strings := by
  intro label listed
  obtain ⟨⟨name, args⟩, among, -, labelled⟩ := mem_published_iff.mp listed
  have own := labelled.mem_strings name
  match statement with
  | .expr (.stream (.mk start calls)) | .assign _ (.stream (.mk start calls)) =>
      have called : Node.call (.mk name args) ∈ (Node.expr (.stream (.mk start calls))).children :=
        .tail _ (List.mem_map_of_mem among)
      exact Node.strings_subset List.mem_cons_self (Node.strings_subset called own)

namespace Program

variable {program : Program}

/-- A statement of a tidy program is written on one line, with a literal for each of its strings. -/
theorem spells_statement (tidy : (Node.program program).Tidy) {statement : Statement}
    (held : statement ∈ program.statements) :
    Spells statement.chars (Node.statement statement).strings := by
  have below : Node.statement statement ∈ (Node.program program).children :=
    List.mem_map_of_mem held
  exact Node.spells ((Node.all_iff.mp tidy).2 _ below) (Node.ne_program_of_mem_children below)

/-- The lines of the text of a tidy program are its statements. -/
theorem fields_chars (tidy : (Node.program program).Tidy) (some : program.isEmpty = false) :
    Text.fields '\n' program.chars = program.statements.map Statement.chars := by
  refine Text.fields_intercalate ?_ ?_
  · simpa [isEmpty] using some
  · intro line among
    obtain ⟨statement, held, rfl⟩ := List.mem_map.mp among
    exact (spells_statement tidy held).lineFeed_not_mem

/-- The literal of a string is read from its opening quote to its end, whatever follows it, denotes
the string, and holds no line feed. So no string can end its literal early or break a line of a
program: as long as nothing that is written as it is holds a quote or a line feed, the lines of the
text are the statements, and reading through a line gives the strings of its statement, keys and
labels included. -/
theorem literals_delimited :
    (∀ s t : String,
      Text.literal? ((Expr.str s).text ++ t).toList = some ((Expr.str s).text.toList, t.toList) ∧
        Text.denoted? (Expr.str s).text.toList = some s ∧
        '\n' ∉ (Expr.str s).text.toList) ∧
    ∀ program : Program, (Node.program program).Tidy → program.isEmpty = false →
      Text.fields '\n' program.text.toList = program.statements.map Statement.chars ∧
        ∀ statement ∈ program.statements,
          Text.literals? statement.chars = some (Node.statement statement).strings ∧
            statement.published ⊆ (Node.statement statement).strings := by
  constructor
  · intro s t
    have written : (Expr.str s).text.toList = Text.quote s := by simp [Expr.text, Expr.chars]
    rw [String.toList_append, written]
    exact ⟨Text.literal?_quote s t.toList, Text.denoted?_quote s, Text.lineFeed_not_mem_quote s⟩
  · intro program tidy some
    rw [text, String.toList_ofList]
    exact ⟨fields_chars tidy some, fun statement held =>
      ⟨(spells_statement tidy held).literals?_eq, statement.published_subset_strings⟩⟩

/-- A program whose strings hold quotes, backslashes and a line feed: an argument, a label, and the
key and the value of an entry. -/
def ofQuotes : Program :=
  ⟨[.assign "cpu" (.stream (.mk (.call (.mk "data" [.positional (.str "say \"hi\"")]))
      [.mk "publish" [.keyword "label" (.str "a\\")]])),
    .expr (.dict [("\"\n", .str "\\\"")])]⟩

theorem tidy_ofQuotes : (Node.program ofQuotes).Tidy := by
  have string (s : String) : (Node.expr (.str s)).Tidy :=
    Node.all_iff.mpr ⟨rfl, nofun⟩
  have argument : (Node.origin (.call (.mk "data" [.positional (.str "say \"hi\"")]))).Tidy :=
    .only rfl rfl (.only rfl rfl (.only rfl rfl (string _)))
  have label : (Node.call (.mk "publish" [.keyword "label" (.str "a\\")])).Tidy :=
    .only rfl rfl (.only rfl rfl (string _))
  have assigned : (Node.statement ofQuotes.statements[0]).Tidy :=
    .only rfl rfl (Node.all_iff.mpr ⟨rfl,
      List.forall_mem_cons.mpr ⟨argument, List.forall_mem_cons.mpr ⟨label, nofun⟩⟩⟩)
  have keyed : (Node.statement ofQuotes.statements[1]).Tidy :=
    .only rfl rfl (.only rfl rfl (.only rfl rfl (string _)))
  exact Node.all_iff.mpr ⟨rfl,
    List.forall_mem_cons.mpr ⟨assigned, List.forall_mem_cons.mpr ⟨keyed, nofun⟩⟩⟩

theorem literals_delimited_ofQuotes :
    (Node.program ofQuotes).Tidy ∧ ofQuotes.isEmpty = false ∧
      Text.literal? ((Expr.str "\\\"").text ++ "\"").toList =
        some ((Expr.str "\\\"").text.toList, ['"']) ∧
      Text.fields '\n' ofQuotes.text.toList = ofQuotes.statements.map Statement.chars ∧
      Text.literals? ofQuotes.statements[0].chars = some ["say \"hi\"", "a\\"] ∧
      Text.literals? ofQuotes.statements[1].chars = some ["\"\n", "\\\""] := by
  obtain ⟨lines, each⟩ := literals_delimited.2 ofQuotes tidy_ofQuotes rfl
  have assigned := (each _ List.mem_cons_self).1
  have keyed := (each _ (.tail _ List.mem_cons_self)).1
  refine ⟨tidy_ofQuotes, rfl, (literals_delimited.1 _ _).1, lines, assigned.trans ?_,
    keyed.trans ?_⟩
  · simp [Node.strings_eq, Node.children, Node.string?]
  · simp [Node.strings_eq, Node.children, Node.string?]

end Program

end Flow

end SignalBoard
