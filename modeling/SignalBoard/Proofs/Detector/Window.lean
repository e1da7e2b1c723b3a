/-
# Windows that mix the two kinds

A range belongs to a relative window, a start and an end to an absolute one, and each of these
settings is refused once the window is of the other kind. Giving the window its kind is never
refused, whatever has been set. So a window has a setting of the other kind just if that setting
was made before the window was last given its kind, and the view of a detector shows what its
window has.
-/

import Mathlib.Data.List.Induction
import SignalBoard.Proofs.Reconcile.Payload

namespace SignalBoard

theorem TimeKind.word_inj {first second : TimeKind} :
    first.word = second.word ↔ first = second := by
  cases first <;> cases second <;> decide

namespace TimeConfig

/-! ## Settings of the other kind -/

/-- The kind a setting gives the window. -/
def Setting.kind? : Setting → Option TimeKind
  | .kind given => some given
  | _ => none

/-- Does the setting belong to windows of the other kind only? -/
def Setting.foreignTo : TimeKind → Setting → Bool
  | .absolute, .range _ => true
  | .relative, .start _ => true
  | .relative, .stop _ => true
  | _, _ => false

/-- Has the window what belongs to windows of the other kind only? -/
def hasForeign (config : TimeConfig) : TimeKind → Bool
  | .absolute => config.range.isSome
  | .relative => config.start.isSome || config.stop.isSome

/-- The window is absolute and has a range, or it is relative and has a start or an end. -/
def Mixed (config : TimeConfig) : Prop :=
  config.kind = some .absolute ∧ config.range ≠ none ∨
    config.kind = some .relative ∧ (config.start ≠ none ∨ config.stop ≠ none)

/-- The window was last given its kind after a setting that belongs to the other kind. -/
def KindTooLate (settings : List Setting) : Prop :=
  ∃ earlier kind later, settings = earlier ++ .kind kind :: later ∧
    (∀ setting ∈ later, setting.kind? = none) ∧ ∃ setting ∈ earlier, setting.foreignTo kind = true

variable {config after : TimeConfig} {setting : Setting} {made : List Setting}

theorem mixed_iff :
    config.Mixed ↔ ∃ kind, config.kind = some kind ∧ config.hasForeign kind = true := by
  constructor
  · rintro (⟨kind, has⟩ | ⟨kind, has⟩)
    · exact ⟨.absolute, kind, Option.isSome_iff_ne_none.mpr has⟩
    · exact ⟨.relative, kind, by simpa [hasForeign, Option.isSome_iff_ne_none] using has⟩
  · rintro ⟨kind, own, has⟩
    cases kind with
    | absolute => exact .inl ⟨own, Option.isSome_iff_ne_none.mp has⟩
    | relative => exact .inr ⟨own, by simpa [hasForeign, Option.isSome_iff_ne_none] using has⟩

/-! ## One setting -/

/-- The window with a setting, refused or not. -/
def put (config : TimeConfig) : Setting → TimeConfig
  | .kind kind => { config with kind := some kind }
  | .range milliseconds => { config with range := some milliseconds }
  | .start milliseconds => { config with start := some milliseconds }
  | .stop milliseconds => { config with stop := some milliseconds }

/-- A setting is made unless it belongs to the other kind than the window is of. -/
theorem set_eq_ok_iff : config.set setting = .ok after ↔
    (∀ kind, config.kind = some kind → setting.foreignTo kind = false) ∧
      config.put setting = after := by
  obtain ⟨kind, range, start, stop⟩ := config
  rcases setting with _ | _ | _ | _ <;> rcases kind with _ | _ | _ <;>
    simp [set, put, Setting.foreignTo, require, bind, Except.bind, pure, Except.pure]

theorem kind_put : (config.put setting).kind = setting.kind?.or config.kind := by
  cases setting <;> rfl

theorem hasForeign_put (kind : TimeKind) :
    (config.put setting).hasForeign kind = (config.hasForeign kind || setting.foreignTo kind) := by
  cases setting <;> cases kind <;> simp [put, hasForeign, Setting.foreignTo]

/-- Giving the kind last is too late if a setting of the other kind is there already. -/
theorem kindTooLate_kind (kind : TimeKind) :
    KindTooLate (made ++ [.kind kind]) ↔ ∃ setting ∈ made, setting.foreignTo kind = true := by
  constructor
  · rintro ⟨earlier, kind', later, split, quiet, foreign⟩
    obtain ⟨-, rfl, same⟩ | ⟨later, rfl, -⟩ := append_cons_eq_concat.mp split
    · cases same
      exact foreign
    · exact absurd (quiet (.kind kind) (by simp)) (by simp [Setting.kind?])
  · intro foreign
    exact ⟨made, kind, [], rfl, nofun, foreign⟩

/-- A setting that gives no kind makes nothing too late. -/
theorem kindTooLate_other (other : setting.kind? = none) :
    KindTooLate (made ++ [setting]) ↔ KindTooLate made := by
  constructor
  · rintro ⟨earlier, kind, later, split, quiet, foreign⟩
    obtain ⟨-, -, rfl⟩ | ⟨later, rfl, rfl⟩ := append_cons_eq_concat.mp split
    · cases other
    · exact ⟨earlier, kind, later, rfl, fun own among => quiet own (by simp [among]), foreign⟩
  · rintro ⟨earlier, kind, later, rfl, quiet, foreign⟩
    refine ⟨earlier, kind, later ++ [setting], by simp, fun own among => ?_, foreign⟩
    rcases List.mem_append.mp among with before | last
    · exact quiet own before
    · obtain rfl := List.mem_singleton.mp last
      exact other

/-! ## All settings -/

/-- One setting more. -/
theorem build_append_singleton {start : TimeConfig} : build (made ++ [setting]) start = .ok after ↔
    ∃ config, build made start = .ok config ∧ config.set setting = .ok after := by
  simp only [build, List.foldlM_append, List.foldlM_cons, List.foldlM_nil, bind_pure]
  cases made.foldlM set start <;> simp [bind, Except.bind]

/-- What settings make of a new window: it has of either kind what was set, and it mixes the kinds
just if its kind came too late. -/
theorem build_spec (built : build made {} = .ok config) :
    (∀ kind, config.hasForeign kind = true ↔ ∃ setting ∈ made, setting.foreignTo kind = true) ∧
      (config.Mixed ↔ KindTooLate made) := by
  induction made using List.reverseRecOn generalizing config with
  | nil =>
      cases built
      constructor
      · intro kind
        cases kind <;> simp [hasForeign]
      · simp [Mixed, KindTooLate]
  | append_singleton made setting ih =>
      obtain ⟨before, earlier, last⟩ := build_append_singleton.mp built
      obtain ⟨foreign, mixed⟩ := ih earlier
      obtain ⟨own, rfl⟩ := set_eq_ok_iff.mp last
      refine ⟨fun kind => ?_, ?_⟩
      · rw [hasForeign_put, Bool.or_eq_true, foreign]
        simp [or_and_right, exists_or]
      · cases gives : setting.kind? with
        | some kind =>
            obtain rfl : setting = .kind kind := by
              cases setting <;> cases gives
              rfl
            rw [kindTooLate_kind, ← foreign, mixed_iff, kind_put]
            simp [Setting.kind?, hasForeign_put, Setting.foreignTo]
        | none =>
            -- The setting was not refused, so it brings nothing foreign to the kind there is.
            rw [kindTooLate_other gives, ← mixed, mixed_iff, mixed_iff, kind_put, gives,
              Option.none_or]
            refine exists_congr fun kind => and_congr_right fun given => ?_
            rw [hasForeign_put, own kind given, Bool.or_false]

/-! ## Windows and the detectors that show them -/

/-- Where the settings of a window begin. -/
inductive Beginning where
  | new
  /-- An absolute window between two instants. -/
  | between (start stop : Instant)

/-- The window to begin with. -/
def Beginning.window : Beginning → Checked TimeConfig
  | new => .ok {}
  | between start stop => absoluteBetween start stop

/-- The settings that the window to begin with is made of. -/
def Beginning.settings : Beginning → List Setting
  | new => []
  | between start stop => [.kind .absolute, .start start.milliseconds, .stop stop.milliseconds]

/-- A window to begin with is made of its settings like any other. -/
theorem Beginning.build_settings {beginning : Beginning} (begun : beginning.window = .ok config) :
    build beginning.settings {} = .ok config := by
  cases beginning with
  | new => exact begun
  | between start stop =>
      rw [window, absoluteBetween, require] at begun
      split at begun
      · exact begun
      · cases begun

/-- The document is of an absolute window and has a range, or of a relative one and has a start or
an end. -/
def ShowsMixed (time : Json) : Prop :=
  time.field "type" = .str "absolute" ∧ time.get? "range" ≠ none ∨
    time.field "type" = .str "relative" ∧ (time.get? "start" ≠ none ∨ time.get? "end" ≠ none)

/-- What the document of a window has for a key. -/
theorem get?_document (key : String) : config.document.get? key =
    (Table.get? key [("type", config.kind.map (.str ·.word)),
      ("range", config.range.map Json.ofNat), ("start", config.start.map .int),
      ("end", config.stop.map .int)]).join :=
  Json.get?_record (by simp) key

/-- The document of a window shows what the window has. -/
theorem showsMixed_document : ShowsMixed config.document ↔ config.Mixed := by
  have kind (kind : TimeKind) :
      config.document.field "type" = .str kind.word ↔ config.kind = some kind := by
    rw [Json.field, get?_document]
    cases config.kind <;> simp [Table.get?, TimeKind.word_inj]
  have range : config.document.get? "range" ≠ none ↔ config.range ≠ none := by
    simp [get?_document, Table.get?]
  have start : config.document.get? "start" ≠ none ↔ config.start ≠ none := by
    simp [get?_document, Table.get?]
  have stop : config.document.get? "end" ≠ none ↔ config.stop ≠ none := by
    simp [get?_document, Table.get?]
  exact or_congr (and_congr (kind .absolute) range)
    (and_congr (kind .relative) (or_congr start stop))

/-- The time a detector is sent with is that of its view. -/
theorem time_of_payload {detector : Detector} {view : Visualization} {document : Json}
    (viewed : detector.visualization = some view) (shown : view.time = some config)
    (sent : detector.payload = .ok document) :
    (document.field "visualizationOptions").field "time" = config.document := by
  obtain rfl := Detector.document_of_payload sent
  have options : detector.document.field "visualizationOptions" = view.document := by
    rw [Json.field, Detector.document, Json.get?_record (by simp), viewed]
    rfl
  rw [options, Json.field, Visualization.document, Json.get?_record (by simp), shown]
  rfl

/-- A window made by settings none of which is refused, begun as a new window or between two
instants, mixes the kinds just if it was last given its kind after a setting of the other kind was
made; and so does the time that any detector with this window in its view is sent with. -/
theorem mixed_iff_kindTooLate (beginning : Beginning) (settings : List Setting)
    {initial config : TimeConfig} (begun : beginning.window = .ok initial)
    (built : build settings initial = .ok config) :
    (config.Mixed ↔ KindTooLate (beginning.settings ++ settings)) ∧
      ∀ (detector : Detector) (view : Visualization) (document : Json),
        detector.visualization = some view → view.time = some config →
        detector.payload = .ok document →
        (ShowsMixed ((document.field "visualizationOptions").field "time") ↔
          KindTooLate (beginning.settings ++ settings)) := by
  have whole : build (beginning.settings ++ settings) {} = .ok config := by
    rw [build, List.foldlM_append]
    have first := beginning.build_settings begun
    rw [build] at first
    rw [first]
    exact built
  have mixed := (build_spec whole).2
  refine ⟨mixed, fun detector view document viewed shown sent => ?_⟩
  rw [time_of_payload viewed shown sent, showsMixed_document, mixed]

/-- A detector with a window between two instants that was made relative afterwards. -/
def lateDetector : Detector where
  name := "load"
  program := .ofText "detect(load)"
  visualization := some ⟨some ⟨some .relative, none, some 0, some 1000⟩, none⟩

/-- The window keeps both instants, and so does the detector's time. -/
theorem mixed_iff_kindTooLate_relative :
    ((⟨some .relative, none, some 0, some 1000⟩ : TimeConfig).Mixed ↔
      KindTooLate [.kind .absolute, .start 0, .stop 1000, .kind .relative]) ∧
    (ShowsMixed ((lateDetector.document.field "visualizationOptions").field "time") ↔
      KindTooLate [.kind .absolute, .start 0, .stop 1000, .kind .relative]) := by
  have begun : (Beginning.between ⟨0, 0⟩ ⟨1, 0⟩).window =
      .ok ⟨some .absolute, none, some 0, some 1000⟩ := rfl
  have built : build [.kind .relative] ⟨some .absolute, none, some 0, some 1000⟩ =
      .ok ⟨some .relative, none, some 0, some 1000⟩ := rfl
  have sent : lateDetector.payload = .ok lateDetector.document := Detector.payload_eq (by decide)
  obtain ⟨window, shown⟩ := mixed_iff_kindTooLate _ _ begun built
  exact ⟨window, shown lateDetector _ _ rfl rfl sent⟩

/-- A range is set, and then the window is made absolute: neither is refused. -/
theorem mixed_of_late_kind :
    build [.range 60000, .kind .absolute] {} = .ok ⟨some .absolute, some 60000, none, none⟩ ∧
      (⟨some .absolute, some 60000, none, none⟩ : TimeConfig).Mixed :=
  ⟨rfl, .inl ⟨rfl, nofun⟩⟩

end TimeConfig
end SignalBoard
