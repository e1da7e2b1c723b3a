/-
# Published labels

A chain of calls may publish at any place and more than once, under a keyword or by position, and
some of its `publish` calls may have no label at all. Here `Call.Publishes` says in words of its own
when a call publishes under a label, and the labels of a statement are those of all the calls of its
chain. The statement itself is known by the first of them only. So every label of a program is
listed exactly when no statement publishes twice, and a label is found where it is first published
exactly when that statement publishes nothing in front of it.
-/

import SignalBoard.Flow.Method
import SignalBoard.Flow.Program

namespace SignalBoard.Flow

/-- The arguments give the label: the first of those passed as `label` is that text, or there are
none and the very first argument is that text, passed by position. -/
inductive Labelled : List Arg → String → Prop
  | named {before after : List Arg} {label : String}
      (first : ∀ arg ∈ before, arg.keyword? ≠ some "label") :
      Labelled (before ++ .keyword "label" (.str label) :: after) label
  | placed {rest : List Arg} {label : String}
      (unnamed : ∀ arg ∈ rest, arg.keyword? ≠ some "label") :
      Labelled (.positional (.str label) :: rest) label

@[simp]
theorem Arg.keyword?_positional (value : Expr) : (positional value).keyword? = none := rfl

@[simp]
theorem Arg.keyword?_keyword (name : String) (value : Expr) :
    (keyword name value).keyword? = some name := rfl

/-- The call publishes the stream under the label. -/
def Call.Publishes (call : Call) (label : String) : Prop :=
  call.name = "publish" ∧ Labelled call.args label

/-- The label that a call publishes under, if it does. -/
def Call.published? (call : Call) : Option String :=
  if call.name = "publish" then call.label? else none

/-- A value passed as `label` decides, whatever else is passed. -/
theorem Call.label?_named {call : Call} {value : Expr}
    (given : call.valueOf? "label" = some value) :
    call.label? = match value with | .str label => some label | _ => none := by
  cases value <;> simp [label?, given]

/-- Without a value passed as `label`, the first argument decides. -/
theorem Call.label?_placed {call : Call} (given : call.valueOf? "label" = none) :
    call.label? =
      match call.args with | .positional (.str label) :: _ => some label | _ => none := by
  obtain ⟨name, args⟩ := call
  rcases args with _ | ⟨_ | _, rest⟩
  case cons.positional value => cases value <;> simp [label?, given, args]
  all_goals simp [label?, given, args]

/-- The text is the label of the call exactly when its arguments give it. -/
theorem Call.label?_eq_some_iff (call : Call) (label : String) :
    call.label? = some label ↔ Labelled call.args label := by
  constructor
  · intro found
    cases given : call.valueOf? "label" with
    | none =>
        rw [label?_placed given] at found
        have unnamed : ∀ arg ∈ call.args, arg.keyword? ≠ some "label" := by
          simpa [valueOf?] using given
        split at found
        case h_1 args =>
          obtain rfl := Option.some.inj found
          rw [args] at unnamed ⊢
          exact .placed fun arg member => unnamed arg (.tail _ member)
        case h_2 => cases found
    | some value =>
        rw [label?_named given] at found
        obtain rfl : value = .str label := by cases value <;> simp_all
        obtain ⟨arg, held, passed⟩ := Option.map_eq_some_iff.mp given
        obtain ⟨isLabel, before, after, split, first⟩ := List.find?_eq_some_iff_append.mp held
        obtain rfl : arg = .keyword "label" (.str label) := by
          cases arg with
          | positional => simp at isLabel
          | keyword name value =>
              obtain rfl : name = "label" := by simpa using isLabel
              exact congrArg (Arg.keyword "label") passed
        rw [split]
        exact .named fun arg member => by simpa using first arg member
  · intro labelled
    generalize held : call.args = args at labelled
    cases labelled with
    | @named before after _ first =>
        have given : call.valueOf? "label" = some (.str label) := by
          have skipped : before.find? (fun arg => arg.keyword? = some "label") = none := by
            simpa using first
          simp [valueOf?, held, List.find?_append, skipped, Arg.value]
        simp [label?_named given]
    | @placed rest _ unnamed =>
        have given : call.valueOf? "label" = none := by
          simpa [valueOf?, held] using unnamed
        simp [label?_placed given, held]

theorem Call.published?_eq_some_iff (call : Call) (label : String) :
    call.published? = some label ↔ call.Publishes label := by
  simp [published?, Publishes, label?_eq_some_iff]

/-! ## Statements -/

namespace Statement

/-- The calls of the chain of the stream that the statement is, or assigns. -/
def chain : Statement → List Call
  | expr (.stream stream) | assign _ (.stream stream) => stream.calls
  | _ => []

/-- A call of the statement's chain publishes under the label. -/
def Publishes (statement : Statement) (label : String) : Prop :=
  ∃ call ∈ statement.chain, call.Publishes label

/-- The labels of all the calls of the statement's chain, in order. -/
def published (statement : Statement) : List String := statement.chain.filterMap Call.published?

theorem mem_published_iff {statement : Statement} {label : String} :
    label ∈ statement.published ↔ statement.Publishes label := by
  simp [published, Publishes, Call.published?_eq_some_iff]

end Statement

/-- A chain is known by its first label. -/
theorem Stream.label?_eq_head? (stream : Stream) :
    stream.label? = (stream.calls.filterMap Call.published?).head? := by
  rw [label?, List.head?_filterMap]
  induction stream.calls with
  | nil => rfl
  | cons call rest ih =>
      by_cases publishes : call.name = "publish" <;>
        simp [publishes, Call.published?, List.findSome?_cons, ih]

/-- A statement is known by the first label that its chain publishes. -/
theorem Statement.label?_eq_head? (statement : Statement) :
    statement.label? = statement.published.head? := by
  rcases statement with value | ⟨target, value⟩ | text
  case raw => rfl
  all_goals
    cases value with
    | stream stream => exact stream.label?_eq_head?
    | _ => rfl

namespace Program

/-- The labels of all the calls of all the chains of the program, in order. -/
def published (program : Program) : List String := program.statements.flatMap Statement.published

/-- The statement is the first of the program whose chain publishes under the label. -/
def FirstPublishes (program : Program) (label : String) (statement : Statement) : Prop :=
  ∃ before after, program.statements = before ++ statement :: after ∧
    statement.Publishes label ∧ ∀ earlier ∈ before, ¬ earlier.Publishes label

/-- Looking the label up gives the first statement that publishes under it, and none if there is
no such statement. -/
def Finds (program : Program) (label : String) : Prop :=
  ∀ statement, program.find? label = some statement ↔ program.FirstPublishes label statement

theorem firstPublishes_iff {program : Program} {label : String} {statement : Statement} :
    program.FirstPublishes label statement ↔
      program.statements.find? (fun each => label ∈ each.published) = some statement := by
  simp only [List.find?_eq_some_iff_append, FirstPublishes, decide_eq_true_eq,
    Statement.mem_published_iff, Bool.not_eq_true', decide_eq_false_iff_not]
  grind

/-- The listed labels are the first of each statement. -/
theorem labels_eq (program : Program) :
    program.labels = program.statements.filterMap fun each => each.published.head? := by
  simp only [labels, ← Statement.label?_eq_head?]

/-- A label is looked up among the first of each statement. -/
theorem find?_eq (program : Program) (label : String) :
    program.find? label =
      program.statements.find? fun each => each.published.head? = some label := by
  simp only [find?, Statement.label?_eq_head?]

/-- Nothing is listed that is not published, and the order is kept. -/
theorem labels_sublist (program : Program) : program.labels.Sublist program.published := by
  rw [labels_eq, published]
  induction program.statements with
  | nil => exact .slnil
  | cons statement rest ih =>
      rw [List.flatMap_cons]
      cases held : statement.published with
      | nil => simpa [held] using ih
      | cons label others =>
          rw [List.filterMap_cons_some (by rw [held]; rfl)]
          exact .cons_cons label (ih.trans (List.sublist_append_right others _))

/-- Every label is listed exactly when no statement publishes twice: a statement that does has a
label beyond its first, so that the list comes out shorter. -/
theorem labels_eq_published_iff (program : Program) :
    program.labels = program.published ↔
      ∀ statement ∈ program.statements, statement.published.length ≤ 1 := by
  obtain ⟨statements⟩ := program
  induction statements with
  | nil => simp [labels, published]
  | cons statement rest ih =>
      rw [labels_eq, published, List.flatMap_cons, List.forall_mem_cons, ← ih]
      match held : statement.published with
      | [] => simp [held, labels_eq, published]
      | [label] => simp [held, labels_eq, published]
      | label :: second :: others =>
          have shorter := (labels_sublist ⟨rest⟩).length_le
          simp only [labels_eq, published] at shorter
          rw [List.filterMap_cons_some (by rw [held]; rfl)]
          constructor
          · intro same
            have lengths := congrArg List.length same
            simp only [List.length_cons, List.length_append] at lengths
            omega
          · rintro ⟨short, -⟩
            simp at short

/-- Looking a label up keeps the promise exactly when the statement that publishes it first
publishes nothing in front of it. -/
theorem finds_iff (program : Program) (label : String) :
    program.Finds label ↔ ∀ statement, program.FirstPublishes label statement →
      statement.published.head? = some label := by
  have published {each : Statement} (first : each.published.head? = some label) :
      label ∈ each.published := List.mem_of_mem_head? first
  constructor
  · intro finds statement isFirst
    have found := (finds statement).mpr isFirst
    rw [find?_eq] at found
    simpa using List.find?_some found
  · intro inFront statement
    rw [find?_eq, firstPublishes_iff]
    cases held : program.statements.find? fun each => label ∈ each.published with
    | none =>
        have absent := List.find?_eq_none.mp held
        have missed : program.statements.find? (fun each => each.published.head? = some label) =
            none :=
          List.find?_eq_none.mpr fun each member first =>
            absent each member (by simpa using published (by simpa using first))
        rw [missed]
    | some each =>
        have head := inFront each (firstPublishes_iff.mpr held)
        obtain ⟨-, before, after, split, earlier⟩ := List.find?_eq_some_iff_append.mp held
        have found : program.statements.find? (fun each => each.published.head? = some label) =
            some each :=
          List.find?_eq_some_iff_append.mpr ⟨by simpa using head, before, after, split,
            fun other member => by
              have unpublished := earlier other member
              simp only [Bool.not_eq_true', decide_eq_false_iff_not] at unpublished ⊢
              exact fun first => unpublished (published first)⟩
        rw [found]

/-- What is known of the published labels: the list holds the first of each statement, and so all
of them exactly when no statement publishes twice; and a label is found at the first statement that
publishes it exactly when it is the first that this statement publishes. -/
theorem labels_found (program : Program) :
    program.labels = program.statements.filterMap (fun each => each.published.head?) ∧
      (program.labels = program.published ↔
        ∀ statement ∈ program.statements, statement.published.length ≤ 1) ∧
      ∀ label, program.Finds label ↔ ∀ statement, program.FirstPublishes label statement →
        statement.published.head? = some label :=
  ⟨program.labels_eq, program.labels_eq_published_iff, program.finds_iff⟩

end Program

/-- A stream that is published as it is read and once more as a mean. -/
def Statement.twicePublished : Statement :=
  .expr (.stream (.mk (.call (.mk "data" [.positional (.str "cpu")]))
    [Call.publishAs "raw", Call.named "mean", Call.publishAs "mean"]))

/-- Its second label is neither listed nor found. -/
theorem Program.labels_missed :
    (⟨[.twicePublished]⟩ : Program).published = ["raw", "mean"] ∧
      (⟨[.twicePublished]⟩ : Program).labels = ["raw"] ∧
      (⟨[.twicePublished]⟩ : Program).find? "mean" = none ∧
      ¬ (⟨[.twicePublished]⟩ : Program).Finds "mean" := by
  have missed : (⟨[.twicePublished]⟩ : Program).find? "mean" = none := by decide
  have publishes : Statement.twicePublished.Publishes "mean" :=
    Statement.mem_published_iff.mp (by decide)
  refine ⟨by decide, by decide, missed, fun finds => ?_⟩
  have found := (finds .twicePublished).mpr ⟨[], [], rfl, publishes, nofun⟩
  rw [missed] at found
  cases found

end SignalBoard.Flow
