/-
# Documents of detectors

The document of a detector is made of records: its own, and in it those of its rules, of their
notifications, and of the way it is viewed. Each of them tells what it was made from, and so the
document tells every setting of the detector. Of the program it tells the text.
-/

import SignalBoard.Proofs.Detector.Window
import SignalBoard.Proofs.Document.Record
import SignalBoard.Detector.Basic

namespace SignalBoard

theorem Severity.word_inj {first second : Severity} :
    first.word = second.word ↔ first = second := by
  cases first <;> cases second <;> decide

/-! ## Notifications -/

namespace Notification

/-- The word for a kind of destination. -/
def typeWord : Notification → String
  | email _ => "Email"
  | pagerDuty _ => "PagerDuty"
  | slack _ _ => "Slack"
  | hipChat _ _ => "HipChat"
  | serviceNow _ => "ServiceNow"
  | victorOps _ _ => "VictorOps"
  | webhook _ _ => "Webhook"
  | team _ => "Team"
  | teamEmail _ => "TeamEmail"

/-- A destination is sent under the word for its kind. -/
theorem get?_type (notification : Notification) :
    notification.document.get? "type" = some (.str notification.typeWord) := by
  cases notification <;> rw [document, Json.get?_record (by simp)] <;> rfl

/-- The document of a destination tells the destination. -/
theorem document_inj {first second : Notification} :
    first.document = second.document ↔ first = second := by
  refine ⟨fun same => ?_, congrArg document⟩
  have words : first.typeWord = second.typeWord := by
    have types := congrArg (Json.get? "type") same
    simpa [get?_type] using types
  -- Destinations of two kinds have two words; of one kind, their documents have the same keys.
  cases first <;> cases second <;> simp only [typeWord, String.reduceEq] at words
  all_goals simpa using Json.record_inj same rfl (by simp)

end Notification

/-! ## Rules -/

/-- The document of a rule tells the rule. -/
theorem Rule.document_inj {first second : Rule} :
    first.document = second.document ↔ first = second := by
  refine ⟨fun same => ?_, congrArg document⟩
  have fields := Json.record_inj same rfl (by simp)
  obtain ⟨_⟩ := first
  obtain ⟨_⟩ := second
  simpa [Option.map_inj_right, Severity.word_inj, Json.ofItems?_inj, Notification.document_inj]
    using fields

/-! ## Views -/

/-- The document of a window tells the window. -/
theorem TimeConfig.document_inj {first second : TimeConfig} :
    first.document = second.document ↔ first = second := by
  refine ⟨fun same => ?_, congrArg document⟩
  have fields := Json.record_inj same rfl (by simp)
  obtain ⟨_⟩ := first
  obtain ⟨_⟩ := second
  simpa [Option.map_inj_right, TimeKind.word_inj] using fields

/-- The document of a view tells the view. -/
theorem Visualization.document_inj {first second : Visualization} :
    first.document = second.document ↔ first = second := by
  refine ⟨fun same => ?_, congrArg document⟩
  have fields := Json.record_inj same rfl (by simp)
  obtain ⟨_⟩ := first
  obtain ⟨_⟩ := second
  simpa [Option.map_inj_right, TimeConfig.document_inj] using fields

/-! ## Detectors -/

/-- The detectors have the same settings, and programs of the same text. -/
structure Detector.Alike (first second : Detector) : Prop where
  name : first.name = second.name
  description : first.description = second.description
  text : first.program.text = second.program.text
  rules : first.rules = second.rules
  maxDelay : first.maxDelay = second.maxDelay
  visualization : first.visualization = second.visualization
  tags : first.tags = second.tags
  teams : first.teams = second.teams

/-- The document of a detector tells its settings and the text of its program. -/
theorem Detector.document_eq_iff {first second : Detector} :
    first.document = second.document ↔ first.Alike second := by
  constructor
  · intro same
    have fields := Json.record_inj same rfl (by simp)
    simp only [List.cons.injEq, Prod.mk.injEq, Option.some.injEq, Json.str.injEq,
      Json.arr.injEq, true_and, and_true, implies_true, imp_self, Option.map_inj_right,
      List.map_inj_right, Json.ofString?_inj, Json.ofNat_inj, Json.ofItems?_inj,
      Rule.document_inj, Visualization.document_inj] at fields
    obtain ⟨name, description, text, rules, maxDelay, visualization, tags, teams⟩ := fields
    exact ⟨name, description, text, rules, maxDelay, visualization, tags, teams⟩
  · rintro ⟨name, description, text, rules, maxDelay, visualization, tags, teams⟩
    simp only [document, name, description, text, rules, maxDelay, visualization, tags, teams]

end SignalBoard
