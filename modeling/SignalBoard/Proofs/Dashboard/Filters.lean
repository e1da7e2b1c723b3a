/-
# What the filters of a dashboard may be

Filters are made by settings, their parts by settings of their own, and each setting checks what it
is given when it is made. No part can be taken up before it is complete, and no setting takes back
what another one has given. So, in whatever order they are made, filters show in their document
variables with an alias and a property, conditions with a property and values, and a span that is
two instants in order or an offset back from now. Of the spans these are all that can be taken up;
here an offset is told by its characters, from the first to the last, and not by taking it apart.
-/

import SignalBoard.Dashboard.Filter
import SignalBoard.Proofs.Reconcile.Payload

namespace SignalBoard

/-! ## Texts and offsets -/

/-- The text holds a character that is not white space. -/
def Text.Filled (text : String) : Prop := ∃ c ∈ text.toList, blankChar c = false

theorem Text.filled_iff {text : String} : Filled text ↔ blank text = false := by
  simp [Filled, blank]

/-- The text is a minus sign, one or more digits, and a unit of time. -/
def IsOffset (text : String) : Prop :=
  ∃ (digits : List Char) (unit : Char), text.toList = '-' :: (digits ++ [unit]) ∧ digits ≠ [] ∧
    (∀ c ∈ digits, '0' ≤ c ∧ c ≤ '9') ∧ unit ∈ ['m', 'h', 'd', 'w']

theorem isTimeUnit_iff {c : Char} : isTimeUnit c = true ↔ c ∈ ['m', 'h', 'd', 'w'] := by
  simp [isTimeUnit, or_assoc]

theorem isDigit_iff {c : Char} : c.isDigit = true ↔ '0' ≤ c ∧ c ≤ '9' := by
  simp [Char.isDigit, Char.le_def]

/-- Offsets are recognised exactly. -/
theorem checkOffset_eq_ok_iff {text : String} : checkOffset text = .ok () ↔ IsOffset text := by
  unfold checkOffset IsOffset
  split
  case h_1 rest sign =>
    rw [sign]
    rcases List.eq_nil_or_concat rest with rfl | ⟨amount, last, rfl⟩
    · simp
    · rw [List.concat_eq_append, List.getLast?_concat, List.dropLast_concat]
      simp only [andThen_eq_ok_iff, require_eq_ok_iff, isTimeUnit_iff, Bool.and_eq_true,
        Bool.not_eq_true', List.isEmpty_eq_false_iff, List.all_eq_true, isDigit_iff]
      constructor
      · rintro ⟨unit, some, digits⟩
        exact ⟨amount, last, rfl, some, digits, unit⟩
      · rintro ⟨digits, unit, same, some, each, isUnit⟩
        obtain ⟨rfl, ends⟩ := List.append_inj' (List.cons.inj same).2 rfl
        obtain rfl := List.singleton_inj.mp ends
        exact ⟨isUnit, some, each⟩
  case h_2 noSign =>
    simp only [reduceCtorEq, false_iff]
    rintro ⟨digits, unit, same, -⟩
    exact noSign _ same

/-! ## Spans -/

/-- The span is two instants in order, none before the epoch, or an offset back from now. -/
inductive FilterTime.Sound : FilterTime → Prop
  | instants {start stop : Int} (epoch : 0 ≤ start) (ordered : start ≤ stop) :
      Sound ⟨some (.millis start), some (.millis stop)⟩
  | offset {start : String} (back : IsOffset start) :
      Sound ⟨some (.relative start), some (.relative "Now")⟩

/-- Spans are recognised exactly. -/
theorem FilterTime.check_eq_ok_iff {time : FilterTime} : time.check = .ok () ↔ time.Sound := by
  constructor
  · intro passed
    obtain ⟨_ | first, _ | last⟩ := time
    case some.some =>
      cases first <;> cases last
      case millis.millis start stop =>
        simp only [check, andThen_eq_ok_iff, require_eq_ok_iff, Bool.and_eq_true,
          decide_eq_true_eq] at passed
        exact .instants passed.1.1 passed.2
      case relative.relative start stop =>
        simp only [check, andThen_eq_ok_iff, require_eq_ok_iff, decide_eq_true_eq] at passed
        obtain ⟨back, rfl⟩ := passed
        exact .offset (checkOffset_eq_ok_iff.mp back)
      all_goals cases passed
    all_goals cases passed
  · intro sound
    cases sound with
    | @instants start stop epoch ordered =>
        simp [check, andThen_eq_ok_iff, require_eq_ok_iff, epoch, ordered, epoch.trans ordered]
    | offset back => simp [check, andThen_eq_ok_iff, require_eq_ok_iff,
        checkOffset_eq_ok_iff.mpr back]

/-! ## Runs of settings -/

/-- What holds at first and is kept by every setting that is made holds in the end. -/
theorem keeps_of_foldlM {α β : Type} {set : β → α → Checked β} {invariant : β → Prop}
    {settings : List α} (keeps : ∀ setting ∈ settings, ∀ before after, invariant before →
      set before setting = .ok after → invariant after)
    {first last : β} (holds : invariant first) (made : settings.foldlM set first = .ok last) :
    invariant last := by
  induction settings generalizing first with
  | nil =>
      cases made
      exact holds
  | cons setting rest ih =>
      rw [List.foldlM_cons] at made
      cases done : set first setting with
      | error cause =>
          rw [done] at made
          cases made
      | ok next =>
          rw [done] at made
          have holds := keeps setting List.mem_cons_self first next holds done
          exact ih (fun other later => keeps other (.tail _ later)) holds made

/-! ## Variables -/

namespace FilterVariable

variable {saved after : FilterVariable} {settings : List Setting}

/-- What is given of the alias and the property is not blank. -/
structure Filled (saved : FilterVariable) : Prop where
  shownAs : ∀ text ∈ saved.shownAs, Text.Filled text
  property : ∀ text ∈ saved.property, Text.Filled text

/-- There are an alias and a property, and neither is blank. -/
def Complete (saved : FilterVariable) : Prop :=
  ∃ shownAs property, saved.shownAs = some shownAs ∧ saved.property = some property ∧
    Text.Filled shownAs ∧ Text.Filled property

/-- A setting gives no blank alias or property, and takes none back. -/
theorem filled_set {setting : Setting} (filled : saved.Filled)
    (made : saved.set setting = .ok after) : after.Filled := by
  cases setting with
  | shownAs text =>
      obtain ⟨given, rfl⟩ := checked_return_eq_ok_iff.mp made
      have filledText := Text.filled_iff.mpr (requireFilled_eq_ok_iff.mp given)
      exact ⟨by simpa using filledText, filled.property⟩
  | property text =>
      obtain ⟨given, rfl⟩ := checked_return_eq_ok_iff.mp made
      have filledText := Text.filled_iff.mpr (requireFilled_eq_ok_iff.mp given)
      exact ⟨filled.shownAs, by simpa using filledText⟩
  | _ =>
      cases made
      exact ⟨filled.shownAs, filled.property⟩

theorem filled_build (built : build settings = .ok saved) : saved.Filled :=
  keeps_of_foldlM (fun _ _ _ _ filled made => filled_set filled made) ⟨by simp, by simp⟩ built

/-- Variables that are taken up have what they need. -/
theorem complete_of_check (filled : saved.Filled) (passed : saved.check = .ok ()) :
    saved.Complete := by
  unfold check at passed
  split at passed
  case h_4 shownAs property named placed =>
    exact ⟨shownAs, property, named, placed, filled.shownAs _ named, filled.property _ placed⟩
  all_goals cases passed

/-- The document is of a variable with an alias and a property, neither of them blank. -/
def Documented (document : Json) : Prop :=
  ∃ shownAs property, document.get? "alias" = some (.str shownAs) ∧
    document.get? "property" = some (.str property) ∧
    Text.Filled shownAs ∧ Text.Filled property

theorem Complete.documented (complete : saved.Complete) : Documented saved.document := by
  obtain ⟨shownAs, property, named, placed, filled⟩ := complete
  refine ⟨shownAs, property, ?_, ?_, filled⟩ <;>
    rw [document, Json.get?_record (by simp)] <;> simp [Table.get?, Json.ofString?, named, placed]

end FilterVariable

/-! ## Conditions -/

namespace FilterSource

variable {source after : FilterSource} {settings : List Setting}

/-- Values of a condition: there are some, and none is blank. -/
def FilledValues (texts : List String) : Prop := texts ≠ [] ∧ ∀ text ∈ texts, Text.Filled text

/-- What is given of the property is not blank, nor are the values. -/
structure Filled (source : FilterSource) : Prop where
  property : ∀ text ∈ source.property, Text.Filled text
  value : ∀ texts ∈ source.value, FilledValues texts

/-- There are a property and values, and none of them is blank. -/
def Complete (source : FilterSource) : Prop :=
  ∃ property texts, source.property = some property ∧ source.value = some texts ∧
    Text.Filled property ∧ FilledValues texts

/-- A setting gives no blank property and no blank values, and takes none back. -/
theorem filled_set {setting : Setting} (filled : source.Filled)
    (made : source.set setting = .ok after) : after.Filled := by
  cases setting with
  | property text =>
      obtain ⟨given, rfl⟩ := checked_return_eq_ok_iff.mp made
      have filledText := Text.filled_iff.mpr (requireFilled_eq_ok_iff.mp given)
      exact ⟨by simpa using filledText, filled.value⟩
  | value texts =>
      obtain ⟨given, rfl⟩ := checked_return_eq_ok_iff.mp made
      have values : FilledValues texts := by
        simpa [FilledValues, require_eq_ok_iff, Text.filled_iff] using given
      exact ⟨filled.property, by simpa using values⟩
  | excludes value =>
      cases made
      exact ⟨filled.property, filled.value⟩

theorem filled_build (built : build settings = .ok source) : source.Filled :=
  keeps_of_foldlM (fun _ _ _ _ filled made => filled_set filled made) ⟨by simp, by simp⟩ built

/-- Conditions that are taken up have what they need. -/
theorem complete_of_check (filled : source.Filled) (passed : source.check = .ok ()) :
    source.Complete := by
  unfold check at passed
  split at passed
  case h_4 property texts placed given =>
    exact ⟨property, texts, placed, given, filled.property _ placed, filled.value _ given⟩
  all_goals cases passed

/-- The document is of a condition with a property and values, none of them blank. -/
def Documented (document : Json) : Prop :=
  ∃ property texts, document.get? "property" = some (.str property) ∧
    document.get? "value" = some (.arr (texts.map .str)) ∧
    Text.Filled property ∧ FilledValues texts

theorem Complete.documented (complete : source.Complete) : Documented source.document := by
  obtain ⟨property, texts, placed, given, filled⟩ := complete
  refine ⟨property, texts, ?_, ?_, filled⟩ <;>
    rw [document, Json.get?_record (by simp)] <;>
    simp [Table.get?, Json.ofString?, Json.ofStrings, placed, given]

end FilterSource

/-- The document is of a span that is two instants in order, none before the epoch, or an offset
back from now. -/
inductive FilterTime.Documented (document : Json) : Prop
  | instants {start stop : Int} (begins : document.get? "start" = some (.int start))
      (ends : document.get? "end" = some (.int stop)) (epoch : 0 ≤ start) (ordered : start ≤ stop)
  | offset {start : String} (begins : document.get? "start" = some (.str start))
      (ends : document.get? "end" = some (.str "Now")) (back : IsOffset start)

theorem FilterTime.Sound.documented {time : FilterTime} (sound : time.Sound) :
    Documented time.document := by
  cases sound with
  | instants epoch ordered =>
      refine .instants ?_ ?_ epoch ordered <;> rw [document, Json.get?_record (by simp)] <;> rfl
  | offset back =>
      refine .offset ?_ ?_ back <;> rw [document, Json.get?_record (by simp)] <;> rfl

/-! ## Filters -/

namespace DashboardFilters

variable {filters after : DashboardFilters} {settings : List Setting}

/-- Whatever is taken up was made by settings of its own, none of which was refused. -/
def Setting.Built : Setting → Prop
  | .saved offered => ∀ each ∈ offered, ∃ made, FilterVariable.build made = .ok each
  | .sources conditions => ∀ each ∈ conditions, ∃ made, FilterSource.build made = .ok each
  | .time span => ∃ made, FilterTime.build made = span

/-- Everything that was taken up is complete. -/
structure Complete (filters : DashboardFilters) : Prop where
  saved : ∀ saved ∈ filters.saved, ∀ each ∈ saved, each.Complete
  sources : ∀ sources ∈ filters.sources, ∀ each ∈ sources, each.Complete
  time : ∀ time ∈ filters.time, time.Sound

/-- A setting takes up only what is complete. -/
theorem complete_set {setting : Setting} (complete : filters.Complete) (parts : setting.Built)
    (made : filters.set setting = .ok after) : after.Complete := by
  cases setting with
  | saved saved =>
      obtain ⟨passed, rfl⟩ := checked_return_eq_ok_iff.mp made
      refine ⟨?_, complete.sources, complete.time⟩
      rintro _ ⟨⟩ each among
      obtain ⟨own, built⟩ := parts each among
      exact FilterVariable.complete_of_check (FilterVariable.filled_build built)
        ((forM_eq_ok_iff _ _).mp passed each among)
  | sources sources =>
      obtain ⟨passed, rfl⟩ := checked_return_eq_ok_iff.mp made
      refine ⟨complete.saved, ?_, complete.time⟩
      rintro _ ⟨⟩ each among
      obtain ⟨own, built⟩ := parts each among
      exact FilterSource.complete_of_check (FilterSource.filled_build built)
        ((forM_eq_ok_iff _ _).mp passed each among)
  | time time =>
      obtain ⟨passed, rfl⟩ := checked_return_eq_ok_iff.mp made
      refine ⟨complete.saved, complete.sources, ?_⟩
      rintro _ ⟨⟩
      exact FilterTime.check_eq_ok_iff.mp passed

theorem complete_build (parts : ∀ setting ∈ settings, setting.Built)
    (built : build settings = .ok filters) : filters.Complete :=
  keeps_of_foldlM
    (fun setting among _ _ complete made => complete_set complete (parts setting among) made)
    ⟨by simp, by simp, by simp⟩ built

/-- The document is of filters all of whose parts are complete. -/
structure Documented (document : Json) : Prop where
  saved : ∀ saved, document.get? "variables" = some saved →
    ∃ items, saved = .arr items ∧ ∀ item ∈ items, FilterVariable.Documented item
  sources : ∀ sources, document.get? "sources" = some sources →
    ∃ items, sources = .arr items ∧ ∀ item ∈ items, FilterSource.Documented item
  time : ∀ time, document.get? "time" = some time → FilterTime.Documented time

theorem Complete.documented (complete : filters.Complete) : Documented filters.document := by
  have has (key : String) : filters.document.get? key = _ := Json.get?_record (by simp) key
  constructor
  · intro saved found
    rw [has] at found
    obtain ⟨own, given, rfl⟩ := Option.map_eq_some_iff.mp (by simpa [Table.get?] using found)
    refine ⟨_, rfl, fun item among => ?_⟩
    obtain ⟨each, held, rfl⟩ := List.mem_map.mp among
    exact (complete.saved own given each held).documented
  · intro sources found
    rw [has] at found
    obtain ⟨own, given, rfl⟩ := Option.map_eq_some_iff.mp (by simpa [Table.get?] using found)
    refine ⟨_, rfl, fun item among => ?_⟩
    obtain ⟨each, held, rfl⟩ := List.mem_map.mp among
    exact (complete.sources own given each held).documented
  · intro time found
    rw [has] at found
    obtain ⟨own, given, rfl⟩ := Option.map_eq_some_iff.mp (by simpa [Table.get?] using found)
    exact (complete.time own given).documented

/-- Filters that are made by settings none of which is refused, of parts made likewise, are sent
with complete parts only. And a span is taken up, into whatever filters, exactly if it is two
instants in order, none before the epoch, or an offset back from now; any other is refused as
invalid. -/
theorem documented_of_build :
    (∀ (settings : List Setting) (filters : DashboardFilters),
      (∀ setting ∈ settings, setting.Built) → build settings = .ok filters →
        Documented filters.document) ∧
    ∀ (filters : DashboardFilters) (time : FilterTime),
      (time.Sound → filters.set (.time time) = .ok { filters with time := some time }) ∧
      (¬ time.Sound → ∃ cause, filters.set (.time time) = .error cause) := by
  refine ⟨fun settings filters parts built => (complete_build parts built).documented,
    fun filters time => ⟨fun sound => ?_, fun unsound => ?_⟩⟩
  · exact checked_return_eq_ok_iff.mpr ⟨FilterTime.check_eq_ok_iff.mpr sound, rfl⟩
  · cases made : filters.set (.time time) with
    | error cause => exact ⟨cause, rfl⟩
    | ok after =>
        exact absurd (FilterTime.check_eq_ok_iff.mp (checked_return_eq_ok_iff.mp made).1) unsound

/-- A span is taken up and then another one, in between a variable and a condition. An offset with a
fraction is refused. -/
theorem documented_of_build_region :
    let region : FilterVariable :=
      { shownAs := some "region", property := some "aws_region", required := some true }
    let hosts : FilterSource :=
      { property := some "host", value := some ["a", "b"], excludes := some true }
    let span : FilterTime := ⟨some (.relative "-15m"), some (.relative "Now")⟩
    let broken : FilterTime := ⟨some (.relative "-1.5h"), some (.relative "Now")⟩
    let settings : List Setting := [.time ⟨some (.millis 0), some (.millis 0)⟩, .saved [region],
      .sources [hosts], .time span]
    let filters : DashboardFilters := ⟨some [region], some [hosts], some span⟩
    (∀ setting ∈ settings, setting.Built) ∧ build settings = .ok filters ∧
      Documented filters.document ∧ span.Sound ∧ ¬ broken.Sound ∧
      filters.set (.time span) = .ok filters ∧
      ∃ cause, filters.set (.time broken) = .error cause := by
  intro region hosts span broken settings filters
  have saved : FilterVariable.build [.property "aws_region", .required true, .shownAs "region"] =
      .ok region := by decide +kernel
  have source : FilterSource.build [.value ["a", "b"], .excludes true, .property "host"] =
      .ok hosts := by decide +kernel
  have parts : ∀ setting ∈ settings, setting.Built := by
    simp only [settings, List.forall_mem_cons]
    exact ⟨⟨[.start (.millis 0), .stop (.millis 0)], rfl⟩,
      by simpa [Setting.Built] using ⟨_, saved⟩, by simpa [Setting.Built] using ⟨_, source⟩,
      ⟨[.stop (.relative "Now"), .start (.relative "-15m")], rfl⟩, by simp⟩
  have built : build settings = .ok filters := by decide +kernel
  have sound : span.Sound := FilterTime.check_eq_ok_iff.mp (by decide +kernel)
  have unsound : ¬ broken.Sound := fun sound =>
    absurd (FilterTime.check_eq_ok_iff.mpr sound) (by decide +kernel)
  exact ⟨parts, built, documented_of_build.1 settings filters parts built, sound, unsound,
    (documented_of_build.2 filters span).1 sound, (documented_of_build.2 filters broken).2 unsound⟩

end DashboardFilters

end SignalBoard
