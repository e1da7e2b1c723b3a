/-
# The labels of rules in the text of a detector

A detector is sent with its rules and with the text of its program, and only the text reaches the
service. A label that a rule is for is found by looking through the chains of the program; here it
is followed into the text: a chain is written call by call, a call argument by argument, and a label
as a literal in quotes. So every rule of a detector that is sent is for a label that the text
publishes.
-/

import SignalBoard.Proofs.Flow.Labels
import SignalBoard.Proofs.Flow.Readable
import SignalBoard.Proofs.Reconcile.Payload

namespace SignalBoard

namespace Flow

/-! ## Where a call stands in the text -/

/-- Each of several texts stands in them joined. -/
theorem infix_joined {separator text : List Char} {texts : List (List Char)}
    (among : text ∈ texts) : text <:+: joined separator texts := by
  cases texts with
  | nil => cases among
  | cons first others =>
      rw [Reader.joined_cons]
      rcases List.mem_cons.mp among with rfl | later
      · exact (List.prefix_append text _).isInfix
      · have whole : separator ++ text <:+: others.flatMap (separator ++ ·) :=
          List.infix_of_mem_flatten (List.mem_map_of_mem later)
        have separated : text <:+: separator ++ text := (List.suffix_append separator text).isInfix
        exact (separated.trans whole).trans (List.suffix_append first _).isInfix

/-- A call of a stream's chain stands in the text of the stream. -/
theorem Stream.infix_chars {stream : Stream} {call : Call} (among : call ∈ stream.calls) :
    '.' :: call.chars <:+: stream.chars := by
  obtain ⟨origin, calls⟩ := stream
  have chained : '.' :: call.chars <:+: Call.chainChars calls := by
    rw [Call.chainChars_eq_flatMap]
    exact List.infix_of_mem_flatten (List.mem_map_of_mem among)
  exact chained.trans (List.suffix_append origin.chars _).isInfix

/-- A call of a statement's chain stands in the text of the statement. -/
theorem Statement.infix_chars {statement : Statement} {call : Call}
    (among : call ∈ statement.chain) : '.' :: call.chars <:+: statement.chars := by
  match statement with
  | .expr (.stream stream) => exact Stream.infix_chars among
  | .assign target (.stream stream) =>
      exact (Stream.infix_chars among).trans (List.suffix_append _ stream.chars).isInfix

/-- A call of a program's chains stands in the text of the program. -/
theorem Program.infix_chars {program : Program} {statement : Statement} {call : Call}
    (held : statement ∈ program.statements) (among : call ∈ statement.chain) :
    '.' :: call.chars <:+: program.chars :=
  (Statement.infix_chars among).trans (infix_joined (List.mem_map_of_mem held))

/-! ## Labels that are written -/

/-- The arguments write the label: the first of those passed as `label` is written as that text in
quotes, or there are none and the very first argument, passed by position, is. -/
inductive Written : List Arg → String → Prop
  | named {before after : List Arg} {value : Expr} {label : String}
      (first : ∀ arg ∈ before, arg.keyword? ≠ some "label")
      (quoted : value.chars = Text.quote label) :
      Written (before ++ .keyword "label" value :: after) label
  | placed {value : Expr} {rest : List Arg} {label : String}
      (unnamed : ∀ arg ∈ rest, arg.keyword? ≠ some "label")
      (quoted : value.chars = Text.quote label) : Written (.positional value :: rest) label

/-- Arguments write the label that they give. -/
theorem Labelled.written {args : List Arg} {label : String} (labelled : Labelled args label) :
    Written args label := by
  cases labelled with
  | named first => exact .named first (by rw [Expr.chars])
  | placed unnamed => exact .placed unnamed (by rw [Expr.chars])

/-- The text has a `publish` call of the program's chains in it, with arguments that write the
label. -/
def Program.Writes (program : Program) (label text : String) : Prop :=
  ∃ statement ∈ program.statements, ∃ call ∈ statement.chain,
    call.name = "publish" ∧ Written call.args label ∧ ∃ before after : List Char,
      text.toList = before ++ ".publish(".toList ++ joined [','] (call.args.map Arg.chars) ++
        ')' :: after

/-- The text of a program writes the labels that are listed. -/
theorem Program.writes_of_mem_labels {program : Program} {label : String}
    (listed : label ∈ program.labels) : program.Writes label program.text := by
  obtain ⟨statement, held, known⟩ := List.mem_filterMap.mp listed
  rw [statement.label?_eq_head?] at known
  obtain ⟨call, among, isPublish, labelled⟩ :=
    Statement.mem_published_iff.mp (List.mem_of_head? known)
  refine ⟨statement, held, call, among, isPublish, labelled.written, ?_⟩
  obtain ⟨before, after, whole⟩ := infix_chars held among
  obtain ⟨name, args⟩ := call
  obtain rfl : name = "publish" := isPublish
  refine ⟨before, after, ?_⟩
  rw [text, String.toList_ofList, ← whole, Call.chars, Arg.texts_eq_map]
  simp [Call.args]

end Flow

/-- A rule that is accepted has a label, and says how severe its events are. -/
theorem Rule.check_eq_ok_iff {rule : Rule} : rule.check = .ok () ↔
    Text.blank rule.label = false ∧ ∃ severity, rule.severity = some severity := by
  rw [check, andThen_eq_ok_iff, requireFilled_eq_ok_iff, require_eq_ok_iff,
    Option.isSome_iff_exists]

namespace Detector

variable {detector : Detector}

/-- Unless there are lines written by hand, the rules of a detector that is accepted are for labels
of its program. -/
theorem mem_labels_of_checkLabels (passed : detector.checkLabels = .ok ())
    (seen : ∀ statement ∈ detector.program.statements, statement.isRaw = false) {rule : Rule}
    (among : rule ∈ detector.rules) : rule.label ∈ detector.program.labels := by
  have noHand : detector.program.statements.any Flow.Statement.isRaw = false := by simpa using seen
  rw [checkLabels, noHand, if_neg Bool.false_ne_true] at passed
  dsimp only at passed
  split at passed
  case h_1 => cases passed
  case h_2 none =>
    have listed := List.find?_eq_none.mp none rule among
    simpa using listed

/-- The document of a rule says which label it is for and how severe its events are, and the label
is written in the text by a `publish` call of the program. -/
structure TellsRule (program : Flow.Program) (text : String) (document : Json) : Prop where
  published : ∃ label, document.get? "detectLabel" = some (.str label) ∧
    Text.blank label = false ∧ program.Writes label text
  severe : ∃ severity : Severity, document.get? "severity" = some (.str severity.word)

/-- Every rule of a detector that is sent, in whose program no line is written by hand, is for a
label that is published by the text that is sent with it. -/
theorem tellsRule_of_payload {document : Json} (sent : detector.payload = .ok document)
    (seen : ∀ statement ∈ detector.program.statements, statement.isRaw = false) :
    ∃ text rules, document.get? "programText" = some (.str text) ∧
      document.get? "rules" = some (.arr rules) ∧
      ∀ rule ∈ rules, TellsRule detector.program text rule := by
  have passed : detector.check = .ok () := (checked_return_eq_ok_iff.mp sent).1
  obtain rfl := (checked_return_eq_ok_iff.mp sent).2
  simp only [check, andThen_eq_ok_iff] at passed
  obtain ⟨-, -, each, labels⟩ := passed
  refine ⟨detector.program.text, detector.rules.map Rule.document, ?_, ?_, ?_⟩
  · rw [Detector.document, Json.get?_record (by simp)]
    rfl
  · rw [Detector.document, Json.get?_record (by simp)]
    rfl
  · intro item held
    obtain ⟨rule, among, rfl⟩ := List.mem_map.mp held
    obtain ⟨filled, severity, severe⟩ :=
      Rule.check_eq_ok_iff.mp ((forM_eq_ok_iff _ _).mp each rule among)
    have listed := mem_labels_of_checkLabels labels seen among
    refine ⟨⟨rule.label, ?_, filled, Flow.Program.writes_of_mem_labels listed⟩, severity, ?_⟩
    · rw [Rule.document, Json.get?_record (by simp)]
      rfl
    · rw [Rule.document, Json.get?_record (by simp), severe]
      rfl

/-- A detector for two labels, one of them with quotes in it. One is passed by position, the other
by its name, after another argument. -/
def ofTwoLabels : Detector where
  name := "CPU"
  program := ⟨[.assign "cpu" (.stream (.mk (.call (.mk "data" [.positional (.str "cpu.load")]))
      [.mk "publish" [.positional (.str "\"raw\"")]])),
    .expr (.stream (.mk (.variable "cpu") [.mk "mean" [],
      .mk "publish" [.keyword "enable" (.bool false), .keyword "label" (.str "mean")]]))]⟩
  rules := [{ label := "mean", severity := some .critical },
    { label := "\"raw\"", severity := some .info }]

theorem tellsRule_of_payload_two :
    ofTwoLabels.payload = .ok ofTwoLabels.document ∧
      (∀ statement ∈ ofTwoLabels.program.statements, statement.isRaw = false) ∧
      ∃ text rules, ofTwoLabels.document.get? "programText" = some (.str text) ∧
        ofTwoLabels.document.get? "rules" = some (.arr rules) ∧
        ∀ rule ∈ rules, TellsRule ofTwoLabels.program text rule := by
  have sent : ofTwoLabels.payload = .ok ofTwoLabels.document := payload_eq (by decide +kernel)
  have seen : ∀ statement ∈ ofTwoLabels.program.statements, statement.isRaw = false := by
    simp [ofTwoLabels, Flow.Statement.isRaw]
  exact ⟨sent, seen, tellsRule_of_payload sent seen⟩

end Detector

end SignalBoard
