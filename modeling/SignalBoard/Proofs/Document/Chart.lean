/-
# Documents of charts

The options of a chart are sent as one record. The options that all charts of data share stand in it
next to those of the chart's own type, under one word for the type. No two of them have a key in
common, so the record tells all of them, and with them the document of a chart tells every setting
of the chart. Axes and colour scales are left aside here, for not every double is told by what is
sent for it.
-/

import SignalBoard.Chart.Document
import SignalBoard.Proofs.Document.Detector

namespace SignalBoard

/-! ## Words -/

theorem ColorBy.word_inj {first second : ColorBy} :
    first.word = second.word ↔ first = second := by
  cases first <;> cases second <;> decide

theorem SortBy.word_inj {first second : SortBy} : first.word = second.word ↔ first = second := by
  cases first <;> cases second <;> decide

theorem UnitPrefix.word_inj {first second : UnitPrefix} :
    first.word = second.word ↔ first = second := by
  cases first <;> cases second <;> decide

theorem PlotType.word_inj {first second : PlotType} :
    first.word = second.word ↔ first = second := by
  cases first <;> cases second <;> decide

theorem PaletteColor.index_inj {first second : PaletteColor} :
    first.index = second.index ↔ first = second :=
  (Function.LeftInverse.injective PaletteColor.ofNat_ctorIdx).eq_iff

/-! ## Parts of options -/

/-- The document of a window tells the window. -/
theorem TimeWindow.document_inj {first second : TimeWindow} :
    first.document = second.document ↔ first = second := by
  refine ⟨fun same => ?_, congrArg document⟩
  have types := congrArg (Json.get? "type") same
  cases first <;> cases second
  case relative.relative => simpa using Json.record_inj same rfl (by simp)
  case absolute.absolute => simpa using Json.record_inj same rfl (by simp)
  all_goals
    rw [document, document, Json.get?_record (by simp), Json.get?_record (by simp)] at types
    simp [Table.get?] at types

/-- The document of a column tells the column. -/
theorem Column.document_inj {first second : Column} :
    first.document = second.document ↔ first = second := by
  refine ⟨fun same => ?_, congrArg document⟩
  have fields := Json.record_inj same rfl (by simp)
  obtain ⟨_⟩ := first
  obtain ⟨_⟩ := second
  simpa using fields

/-- The document of a style tells the style. -/
theorem SeriesStyle.document_inj {first second : SeriesStyle} :
    first.document = second.document ↔ first = second := by
  refine ⟨fun same => ?_, congrArg document⟩
  have fields := Json.record_inj same rfl (by simp)
  obtain ⟨_⟩ := first
  obtain ⟨_⟩ := second
  simpa [PaletteColor.index_inj, PlotType.word_inj] using fields

theorem ProgramOptions.document_inj {first second : ProgramOptions} :
    first.document = second.document ↔ first = second := by
  refine ⟨fun same => ?_, congrArg document⟩
  have fields := Json.record_inj same rfl (by simp)
  obtain ⟨_⟩ := first
  obtain ⟨_⟩ := second
  simpa using fields

theorem Legend.document_inj {first second : Legend} :
    first.document = second.document ↔ first = second := by
  refine ⟨fun same => ?_, congrArg document⟩
  have fields := Json.record_inj same rfl (by simp)
  obtain ⟨_⟩ := first
  obtain ⟨_⟩ := second
  simpa [and_comm] using fields

theorem markersDocument_inj {first second : Bool} :
    markersDocument first = markersDocument second ↔ first = second := by
  refine ⟨fun same => ?_, congrArg markersDocument⟩
  simpa using Json.record_inj same rfl (by simp)

/-! ## Options -/

/-- The fields of the shared options tell them. -/
theorem DisplayOptions.fields_inj {first second : DisplayOptions} :
    first.fields = second.fields ↔ first = second := by
  refine ⟨fun same => ?_, congrArg fields⟩
  obtain ⟨_⟩ := first
  obtain ⟨_⟩ := second
  simpa [fields, Option.map_inj_right, List.map_inj_right, ColorBy.word_inj, SortBy.word_inj,
    UnitPrefix.word_inj, ProgramOptions.document_inj, SeriesStyle.document_inj] using same

/-- The fields of the options of a list tell them. -/
theorem ListOptions.fields_inj {first second : ListOptions} :
    first.fields = second.fields ↔ first = second := by
  refine ⟨fun same => ?_, congrArg fields⟩
  obtain ⟨shared, own⟩ := List.append_inj same rfl
  obtain ⟨display, _⟩ := first
  obtain ⟨display', _⟩ := second
  obtain rfl : display = display' := DisplayOptions.fields_inj.mp shared
  simpa [Option.map_inj_right] using own

/-- Without a colour scale, the fields of the options of a single value tell them. -/
theorem SingleValueOptions.eq_of_fields_eq {first second : SingleValueOptions}
    (unscaled : first.colorScale = none) (unscaled' : second.colorScale = none)
    (same : first.fields = second.fields) : first = second := by
  obtain ⟨shared, own⟩ := List.append_inj same rfl
  obtain ⟨display, _⟩ := first
  obtain ⟨display', _⟩ := second
  obtain rfl : display = display' := DisplayOptions.fields_inj.mp shared
  obtain rfl := unscaled
  obtain rfl := unscaled'
  simpa [Option.map_inj_right] using own

/-- Without a colour scale, the fields of the options of a heat map tell them. -/
theorem HeatmapOptions.eq_of_fields_eq {first second : HeatmapOptions}
    (unscaled : first.colorScale = none) (unscaled' : second.colorScale = none)
    (same : first.fields = second.fields) : first = second := by
  obtain ⟨shared, -⟩ := List.append_inj same rfl
  obtain ⟨display, _⟩ := first
  obtain ⟨display', _⟩ := second
  obtain rfl : display = display' := DisplayOptions.fields_inj.mp shared
  obtain rfl := unscaled
  obtain rfl := unscaled'
  rfl

/-- Without axes, the fields of the options of a chart over time tell them. -/
theorem TimeSeriesOptions.eq_of_fields_eq {first second : TimeSeriesOptions}
    (unscaled : first.axes.getD [] = []) (unscaled' : second.axes.getD [] = [])
    (same : first.fields = second.fields) : first = second := by
  have columns (one other : List Column) :
      Json.record [("fields", some (.arr (one.map Column.document)))] =
        .record [("fields", some (.arr (other.map Column.document)))] → one = other := by
    intro same
    simpa [List.map_inj_right, Column.document_inj] using Json.record_inj same rfl (by simp)
  obtain ⟨shared, own⟩ := List.append_inj same rfl
  obtain ⟨display, _, axes, _⟩ := first
  obtain ⟨display', _, axes', _⟩ := second
  obtain rfl : display = display' := DisplayOptions.fields_inj.mp shared
  -- No axes and an empty list of them are sent differently: only the list has its key.
  obtain rfl : axes = axes' := by
    cases axes <;> cases axes' <;> simp_all
  simpa [Option.map_inj_right, Option.map_inj_right columns, TimeWindow.document_inj,
    markersDocument_inj, PlotType.word_inj, Legend.document_inj] using own

namespace ChartOptions

/-- No axis and no colour scale is set. -/
def Unscaled : ChartOptions → Prop
  | timeSeries options => options.axes.getD [] = []
  | singleValue options => options.colorScale = none
  | heatmap options => options.colorScale = none
  | list _ | text _ => True

/-- The options of a chart have no key in common, whatever its type. -/
theorem nodup_keys (options : ChartOptions) :
    ((("type", some (.str options.typeWord)) :: options.fields).map Prod.fst).Nodup := by
  cases options <;> simp [fields, TimeSeriesOptions.fields, SingleValueOptions.fields,
    ListOptions.fields, HeatmapOptions.fields, DisplayOptions.fields]

theorem get?_type (options : ChartOptions) :
    options.document.get? "type" = some (.str options.typeWord) := by
  rw [document, Json.get?_record options.nodup_keys]
  simp [Table.get?]

/-- The document of options without axes and a colour scale tells the options. -/
theorem eq_of_document_eq {first second : ChartOptions} (unscaled : first.Unscaled)
    (unscaled' : second.Unscaled) (same : first.document = second.document) : first = second := by
  have words : first.typeWord = second.typeWord := by
    have types := congrArg (Json.get? "type") same
    simpa [get?_type] using types
  have listed (keys : first.fields.map Prod.fst = second.fields.map Prod.fst) :
      first.fields = second.fields := by
    have whole := Json.record_inj same (congrArg (List.cons "type") keys) first.nodup_keys
    exact (List.cons.inj whole).2
  cases first <;> cases second <;> simp only [typeWord, String.reduceEq] at words
  case timeSeries.timeSeries =>
    exact congrArg timeSeries (TimeSeriesOptions.eq_of_fields_eq unscaled unscaled' (listed rfl))
  case singleValue.singleValue =>
    exact congrArg singleValue (SingleValueOptions.eq_of_fields_eq unscaled unscaled' (listed rfl))
  case list.list => exact congrArg list (ListOptions.fields_inj.mp (listed rfl))
  case heatmap.heatmap =>
    exact congrArg heatmap (HeatmapOptions.eq_of_fields_eq unscaled unscaled' (listed rfl))
  case text.text => simpa [fields] using listed rfl

end ChartOptions

/-! ## Charts -/

/-- The charts have the same settings, and programs of the same text. -/
structure Chart.Alike (first second : Chart) : Prop where
  id : first.id = second.id
  name : first.name = second.name
  description : first.description = second.description
  text : first.program.text = second.program.text
  options : first.options = second.options

/-- Without axes and a colour scale, the document of a chart tells its settings and the text of its
program. -/
theorem Chart.document_eq_iff {first second : Chart} (unscaled : first.options.Unscaled)
    (unscaled' : second.options.Unscaled) :
    first.document = second.document ↔ first.Alike second := by
  constructor
  · intro same
    have fields := Json.record_inj same rfl (by simp)
    simp only [List.cons.injEq, Prod.mk.injEq, Option.some.injEq, Json.str.injEq, true_and,
      and_true, Json.ofString?_inj] at fields
    obtain ⟨id, name, description, text, options⟩ := fields
    exact ⟨id, name, description, text, ChartOptions.eq_of_document_eq unscaled unscaled' options⟩
  · rintro ⟨id, name, description, text, options⟩
    simp only [document, id, name, description, text, options]

/-- Documents lose nothing: those of detectors are equal exactly if the detectors are alike, and
those of charts without axes and colour scales exactly if the charts are. -/
theorem document_eq_iff_alike :
    (∀ first second : Detector, first.document = second.document ↔ first.Alike second) ∧
      ∀ first second : Chart, first.options.Unscaled → second.options.Unscaled →
        (first.document = second.document ↔ first.Alike second) :=
  ⟨fun _ _ => Detector.document_eq_iff,
    fun _ _ unscaled unscaled' => Chart.document_eq_iff unscaled unscaled'⟩

/-- A chart and another one whose program is the same text, written by hand. -/
theorem document_eq_iff_alike_handwritten :
    let program : Flow.Program := .ofStream (.mk (.call (.mk "data" [.positional (.str "cpu")]))
      [.mk "publish" [.keyword "label" (.str "cpu")]])
    let options : TimeSeriesOptions :=
      { display := { colorBy := some .metric }, axes := some [], lineMarkers := some true }
    let chart : Chart := { name := "CPU", program, options := .timeSeries options }
    let twin : Chart := { chart with program := .ofText chart.program.text }
    chart.program ≠ twin.program ∧ chart.options.Unscaled ∧ twin.options.Unscaled ∧
      chart.document = twin.document ∧ chart.Alike twin := by
  intro program options chart twin
  have same : chart.document = twin.document := by decide +kernel
  exact ⟨by simp [chart, twin, program, Flow.Program.ofText, Flow.Program.ofStream], rfl, rfl, same,
    (document_eq_iff_alike.2 chart twin rfl rfl).mp same⟩

end SignalBoard
