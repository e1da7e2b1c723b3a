/-
# Updates of different resources commute

An update of a detector or of a dashboard reads and writes what has its name, the charts on its
layout, and what it creates. So an update of another one finds the same before it and after it, and
writes elsewhere. In the other order both succeed as well and leave the same documents, but for the
identifiers that they take.
-/

import SignalBoard.Proofs.Reconcile.Twin

namespace SignalBoard

namespace Store

variable {before after : Store} {kind : Kind} {name : String} {found : Option Json}

/-- No document refers to an identifier that the store gives next, up to that of a number. -/
def Unmentioned (store : Store) (last : Nat) : Prop :=
  ∀ path document, store.documents.get? path = some document →
    ∀ n, store.allocated < n → n ≤ last → ident n ∉ document.refs

/-- Renaming these identifiers alone changes no document. -/
theorem Unmentioned.renameRefs {store : Store} {left right : Nat}
    (unmentioned : store.Unmentioned (store.allocated + left + right)) {path : String}
    {document : Json} (stored : store.documents.get? path = some document) :
    document.renameRefs (exchange store.allocated left right) = document :=
  Json.renameRefs_eq_self fun _ isRef => exchange_of_foreign fun n later bound same =>
    unmentioned path document stored n later bound (same ▸ isRef)

/-- Renaming these identifiers alone takes the store to itself. -/
theorem Unmentioned.get?_exchange {store : Store} {left right : Nat}
    (unmentioned : store.Unmentioned (store.allocated + left + right)) (sound : store.Sound)
    (endpoint id : String) :
    store.documents.get? (endpoint ++ "/" ++ exchange store.allocated left right id) =
      (store.documents.get? (endpoint ++ "/" ++ id)).map
        (Json.renameRefs (exchange store.allocated left right)) := by
  by_cases new : ∃ n, store.allocated < n ∧ n ≤ store.allocated + left + right ∧ id = ident n
  case pos =>
    obtain ⟨n, later, bound, rfl⟩ := new
    have moved : store.allocated < exchangeNumbers store.allocated left right n := by
      simp only [exchangeNumbers, Equiv.coe_fn_mk]
      split_ifs <;> omega
    rw [exchange_ident, sound.get?_fresh moved, sound.get?_fresh later, Option.map_none]
  case neg =>
    have kept : exchange store.allocated left right id = id :=
      exchange_of_foreign fun n later bound same => new ⟨n, later, bound, same⟩
    rw [kept]
    cases stored : store.documents.get? (endpoint ++ "/" ++ id) with
    | none => rfl
    | some document =>
        rw [Option.map_some, unmentioned.renameRefs stored]

/-- What a name identifies is told by the resources that have it. -/
theorem named_of_same (sound : before.Sound) (sound' : after.Sound)
    (same : ∀ id document, document.name? = some name →
      (before.resource? kind id = some document ↔ after.resource? kind id = some document))
    (named : before.named kind name = found.toList) : after.named kind name = found.toList := by
  cases found with
  | none =>
      apply (named_eq_nil_iff sound'.ordered ..).mpr
      intro id document stored isNamed
      exact (named_eq_nil_iff sound.ordered ..).mp named id document
        ((same id document isNamed).mpr stored) isNamed
  | some remote =>
      obtain ⟨id, stored, isNamed⟩ := sound.exists_of_named named
      apply named_eq_singleton sound'.ordered ((same id remote isNamed).mp stored) isNamed
      intro other document stored' isNamed'
      exact sound.eq_of_named named stored ((same other document isNamed').mpr stored') isNamed'

end Store

namespace Resource

/-- The resources are of different kinds or have different names. -/
def Apart (first second : Resource) : Prop :=
  first.kind ≠ second.kind ∨ first.name ≠ second.name

theorem Apart.symm {first second : Resource} (apart : first.Apart second) : second.Apart first :=
  apart.imp Ne.symm Ne.symm

/-- A document of the kind of both does not have the names of both. -/
theorem Apart.ne_name {first second : Resource} (apart : first.Apart second)
    (sameKind : first.kind = second.kind) {document : Json}
    (isFirst : document.name? = some first.name) : document.name? ≠ some second.name :=
  fun isSecond => apart.elim (fun other => other sameKind)
    fun other => other (Option.some.inj (isFirst.symm.trans isSecond))

variable {first second resource : Resource} {found found' : Option Json} {store after : Store}
  {ids ids' : List String} {kind : Kind} {id : String}

/-- Where an update may write is new, or is what it found, or is a chart on the layout of that. -/
theorem Touches.cases (touches : resource.Touches found ids kind id) (sound : store.Sound)
    (named : store.named resource.kind resource.name = found.toList) :
    id ∈ ids ∨ ∃ own remote, store.resource? resource.kind own = some remote ∧
      remote.name? = some resource.name ∧ (kind = resource.kind ∧ id = own ∨
        resource.kind = .dashboard ∧ kind = .chart ∧ id ∈ Layout.chartIds remote) := by
  refine touches.imp_right ?_
  rintro ⟨remote, isFound, old⟩
  obtain rfl := Option.mem_def.mp isFound
  obtain ⟨own, stored, isNamed⟩ := sound.exists_of_named named
  refine ⟨own, remote, stored, isNamed, old.imp_left fun ⟨isKind, isOwn⟩ => ⟨isKind, ?_⟩⟩
  exact Option.some.inj (isOwn.symm.trans (sound.id_of_resource? stored).1)

/-- What was stored where an update may write. -/
theorem Touches.stored (touches : resource.Touches found ids kind id) (sound : store.Sound)
    (consistent : store.Consistent)
    (named : store.named resource.kind resource.name = found.toList) :
    id ∈ ids ∨ (store.resource? kind id).isSome := by
  refine (touches.cases sound named).imp_right ?_
  rintro ⟨own, remote, stored, -, ⟨rfl, rfl⟩ | ⟨isDashboard, rfl, onLayout⟩⟩
  · rw [stored]
    rfl
  · exact consistent.placed own remote (isDashboard ▸ stored) id onLayout

/-- Updates of different resources write in different places. -/
theorem Touches.not_touches (touches : first.Touches found ids kind id) (sound : store.Sound)
    (consistent : store.Consistent) (singular : first.kind ∈ Kind.singular)
    (singular' : second.kind ∈ Kind.singular) (apart : first.Apart second)
    (named : store.named first.kind first.name = found.toList)
    (named' : store.named second.kind second.name = found'.toList)
    (fresh : ∀ id, id ∈ ids ∨ id ∈ ids' → ∀ kind, store.resource? kind id = none)
    (disjoint : id ∈ ids → id ∉ ids') : ¬ second.Touches found' ids' kind id := by
  have notChart : ∀ kind ∈ Kind.singular, kind ≠ .chart := by decide
  intro touches'
  rcases touches.cases sound named with new | ⟨own, remote, stored, isNamed, old⟩
  · rcases touches'.stored sound consistent named' with new' | there
    · exact disjoint new new'
    · rw [fresh id (.inl new) kind] at there
      cases there
  rcases touches'.cases sound named' with new' | ⟨own', remote', stored', isNamed', old'⟩
  · rcases touches.stored sound consistent named with new | there
    · exact disjoint new new'
    · rw [fresh id (.inr new') kind] at there
      cases there
  -- Both found one and the same, which has one kind and one name.
  have clash : first.kind = second.kind → own ≠ own' := by
    rintro sameKind rfl
    rw [sameKind] at stored
    obtain rfl := Option.some.inj (stored.symm.trans stored')
    exact apart.ne_name sameKind isNamed isNamed'
  rcases old with ⟨rfl, rfl⟩ | ⟨isDashboard, rfl, onLayout⟩ <;>
    rcases old' with ⟨isKind, isOwn⟩ | ⟨isDashboard', isChart, onLayout'⟩
  · exact clash isKind isOwn
  · exact notChart _ singular isChart
  · exact notChart _ singular' isKind.symm
  · exact consistent.apart own own' remote remote' (isDashboard ▸ stored) (isDashboard' ▸ stored')
      (clash (isDashboard.trans isDashboard'.symm)) id onLayout onLayout'

/-- An update of a detector or of a dashboard in a consistent store, told by what it found and what
it left. -/
structure Turn (resource : Resource) (found : Option Json) (before after : Store) : Prop where
  singular : resource.kind ∈ Kind.singular
  sound : before.Sound
  consistent : before.Consistent
  named : before.named resource.kind resource.name = found.toList
  settled : resource.Settled found before after
  soundAfter : after.Sound

namespace Turn

theorem updated (turn : resource.Turn found store after) : resource.Updated found store after :=
  turn.settled.updated turn.sound turn.named

theorem consistentAfter (turn : resource.Turn found store after) : after.Consistent :=
  turn.settled.consistent turn.sound turn.consistent turn.soundAfter

/-- An update leaves what has the name of another resource as it is. -/
theorem same (turn : first.Turn found store after) (singular : second.kind ∈ Kind.singular)
    (apart : first.Apart second) (id : String) (document : Json)
    (isNamed : document.name? = some second.name) :
    store.resource? second.kind id = some document ↔
      after.resource? second.kind id = some document := by
  constructor
  · intro stored
    have untouched : ∀ kind' id', first.Touches found
        (store.freshIds (first.taken found store)) kind' id' →
        second.kind.path id ≠ kind'.path id' := by
      rintro kind' id' touches isPath
      obtain ⟨rfl, rfl⟩ := Kind.path_inj isPath
      rcases touches.cases turn.sound turn.named with new | ⟨own, remote, there, named, old⟩
      · exact Store.not_mem_freshIds turn.sound (Store.get?_of_resource? stored) _ new
      rcases old with ⟨isKind, rfl⟩ | ⟨-, isChart, -⟩
      · rw [← isKind, stored] at there
        obtain rfl := Option.some.inj there
        exact apart.ne_name isKind.symm named isNamed
      · rw [isChart] at singular
        exact absurd singular (by decide)
    exact (Store.resource?_congr (turn.updated.elsewhere _ untouched)).trans stored
  · intro stored
    rcases turn.updated.named _ singular id document stored with there | ⟨isKind, isFirst⟩
    · exact there
    · exact absurd isNamed (apart.ne_name isKind.symm isFirst)

/-- Another resource finds the same before and after an update. -/
theorem named_iff (turn : first.Turn found store after) (singular : second.kind ∈ Kind.singular)
    (apart : first.Apart second) :
    store.named second.kind second.name = found'.toList ↔
      after.named second.kind second.name = found'.toList :=
  ⟨Store.named_of_same turn.sound turn.soundAfter (turn.same singular apart),
    Store.named_of_same turn.soundAfter turn.sound fun id document isNamed =>
      (turn.same singular apart id document isNamed).symm⟩

/-- An update leaves the charts of another resource as they are. -/
theorem sameCharts (turn : first.Turn found store after) (singular : second.kind ∈ Kind.singular)
    (apart : first.Apart second)
    (named : store.named second.kind second.name = found'.toList) :
    second.SameCharts found' store after := by
  intro isDashboard remote isFound chartId onLayout
  apply turn.updated.elsewhere
  rintro kind id touches isPath
  obtain ⟨rfl, rfl⟩ := Kind.path_inj isPath
  have fresh : ∀ id, id ∈ store.freshIds (first.taken found store) ∨ id ∈ [] →
      ∀ kind, store.resource? kind id = none := by
    rintro id (member | member) kind
    · exact turn.sound.resource?_of_mem_freshIds member kind
    · cases member
  exact touches.not_touches turn.sound turn.consistent turn.singular singular apart turn.named named
    fresh (fun _ => List.not_mem_nil) (.inr ⟨remote, isFound, .inr ⟨isDashboard, rfl, onLayout⟩⟩)

/-- Nothing has changed where an update does not write, whatever the endpoint. -/
theorem elsewhere (turn : resource.Turn found store after) {endpoint id : String}
    (clean : '/' ∉ id.toList)
    (away : ∀ kind : Kind, endpoint = kind.endpoint →
      ¬ resource.Touches found (store.freshIds (resource.taken found store)) kind id) :
    after.documents.get? (endpoint ++ "/" ++ id) =
      store.documents.get? (endpoint ++ "/" ++ id) := by
  apply turn.updated.elsewhere
  intro kind id' touches isPath
  have clean' : '/' ∉ id'.toList := by
    rcases touches.stored turn.sound turn.consistent turn.named with new | there
    · exact Store.clean_of_mem_freshIds new
    · obtain ⟨document, stored⟩ := Option.isSome_iff_exists.mp there
      exact Store.clean_of_resource? stored
  obtain ⟨isEndpoint, rfl⟩ := split_path clean clean' isPath
  exact away kind isEndpoint touches

/-- What is found in a store whose documents keep their names keeps them. -/
theorem keeps (turn : resource.Turn found store after) {rename : Equiv.Perm String}
    (documents : ∀ path document, store.documents.get? path = some document →
      document.renameRefs rename = document)
    (given : ∀ n ≤ store.allocated, rename (Store.ident n) = Store.ident n) :
    resource.Keeps rename found store := by
  have stored : ∀ remote ∈ found, ∃ id, store.resource? resource.kind id = some remote := by
    intro remote isFound
    obtain rfl := Option.mem_def.mp isFound
    obtain ⟨id, stored, -⟩ := turn.sound.exists_of_named turn.named
    exact ⟨id, stored⟩
  have known : ∀ {kind : Kind} {id document}, store.resource? kind id = some document →
      rename id = id := by
    intro kind id document there
    obtain ⟨-, n, rfl, -, before⟩ := turn.sound.id_of_resource? there
    exact given n before
  constructor
  case document =>
    intro remote isFound
    obtain ⟨id, there⟩ := stored remote isFound
    exact documents _ _ (Store.get?_of_resource? there)
  case own =>
    intro remote isFound id identified
    obtain ⟨own, there⟩ := stored remote isFound
    obtain rfl := Option.some.inj (identified.symm.trans (turn.sound.id_of_resource? there).1)
    exact known there
  case charts =>
    intro isDashboard remote isFound chartId onLayout
    obtain ⟨own, there⟩ := stored remote isFound
    obtain ⟨chart, isChart⟩ := Option.isSome_iff_exists.mp
      (turn.consistent.placed own remote (isDashboard ▸ there) chartId onLayout)
    exact ⟨known isChart, fun document => documents _ document⟩

/-- Two updates of a resource that find the same, with the same charts. -/
theorem mirrors {rename : Equiv.Perm String} {before other last : Store}
    (turn : resource.Turn found before after) (turn' : resource.Turn found other last)
    (same : resource.SameCharts found before other) (keeps : resource.Keeps rename found before)
    (fresh : (before.freshIds (resource.taken found before)).map rename =
      other.freshIds (resource.taken found before))
    (touches : resource.Touches found (before.freshIds (resource.taken found before)) kind id) :
    Store.MirrorsAt rename after last kind id :=
  turn.settled.mirrors turn'.settled turn.sound turn'.sound turn.consistent same keeps fresh touches

end Turn

/-- Charts that are the same in another store keep their names there, too. -/
theorem Keeps.of_same {rename : Equiv.Perm String} (keeps : resource.Keeps rename found store)
    (same : resource.SameCharts found store after) : resource.Keeps rename found after where
  document := keeps.document
  own := keeps.own
  charts := fun isDashboard remote isFound chartId onLayout => by
    rw [same isDashboard remote isFound chartId onLayout]
    exact keeps.charts isDashboard remote isFound chartId onLayout

/-- The renaming after which two updates have taken their identifiers in the other order. -/
noncomputable def exchange (first second : Resource) (found found' : Option Json) (store : Store) :
    Equiv.Perm String :=
  Store.exchange store.allocated (first.taken found store) (second.taken found' store)

/-- Two updates of different resources in both orders. -/
structure Crossing (first second : Resource) (found found' : Option Json)
    (store left both right swapped : Store) : Prop where
  apart : first.Apart second
  early : first.Turn found store left
  late : second.Turn found' left both
  early' : second.Turn found' store right
  late' : first.Turn found right swapped

namespace Crossing

variable {left both right swapped : Store}

theorem symm (crossing : Crossing first second found found' store left both right swapped) :
    Crossing second first found' found store right swapped left both :=
  ⟨crossing.apart.symm, crossing.early', crossing.late', crossing.early, crossing.late⟩

variable (crossing : Crossing first second found found' store left both right swapped)
include crossing

theorem sameCharts : first.SameCharts found store right :=
  crossing.early'.sameCharts crossing.early.singular crossing.apart.symm crossing.early.named

theorem taken_eq : first.taken found right = first.taken found store :=
  taken_eq_of_same crossing.sameCharts

theorem allocated_both : both.allocated =
    store.allocated + first.taken found store + second.taken found' store := by
  rw [crossing.late.updated.allocated, crossing.symm.taken_eq, crossing.early.updated.allocated]

/-- What the first resource takes when it comes first becomes what it takes when it comes last. -/
theorem map_exchange : (store.freshIds (first.taken found store)).map
    (exchange first second found found' store) = right.freshIds (first.taken found right) := by
  rw [crossing.taken_eq]
  exact Store.map_exchange_left rfl crossing.early'.updated.allocated

/-- What the second resource takes when it comes last becomes what it takes when it comes first. -/
theorem map_exchange' : (left.freshIds (second.taken found' left)).map
    (exchange first second found found' store) = store.freshIds (second.taken found' store) := by
  rw [crossing.symm.taken_eq]
  exact Store.map_exchange_right crossing.early.updated.allocated rfl

/-- In either order the two updates write in different places. -/
theorem not_touches
    (touches : first.Touches found (store.freshIds (first.taken found store)) kind id) :
    ¬ second.Touches found' (left.freshIds (second.taken found' left)) kind id := by
  have later : ∀ id ∈ left.freshIds (second.taken found' left), ∃ n, id = Store.ident n ∧
      store.allocated + first.taken found store < n := by
    intro id member
    obtain ⟨n, rfl, new, -⟩ := (Store.mem_freshIds_iff ..).mp member
    rw [crossing.early.updated.allocated] at new
    exact ⟨n, rfl, new⟩
  apply touches.not_touches crossing.early.sound crossing.early.consistent crossing.early.singular
    crossing.late.singular crossing.apart crossing.early.named crossing.early'.named
  · rintro id (member | member) kind
    · exact crossing.early.sound.resource?_of_mem_freshIds member kind
    · obtain ⟨n, rfl, new⟩ := later id member
      rw [Store.resource?_of_clean (Store.slash_not_mem_ident n)]
      exact crossing.early.sound.get?_fresh (by omega) _
  · intro mine yours
    obtain ⟨n, rfl, new⟩ := later _ yours
    obtain ⟨m, same, -, old⟩ := (Store.mem_freshIds_iff ..).mp mine
    obtain rfl := Store.ident_inj same
    omega

variable (unmentioned : store.Unmentioned both.allocated)
include unmentioned

/-- What the first update finds keeps its names. -/
theorem keeps : first.Keeps (exchange first second found found' store) found store := by
  rw [crossing.allocated_both] at unmentioned
  exact crossing.early.keeps (fun _ _ => unmentioned.renameRefs) fun _ => Store.exchange_of_le

/-- What the second update finds keeps its names. -/
theorem keeps' : second.Keeps (exchange first second found found' store) found' left := by
  rw [crossing.allocated_both] at unmentioned
  exact (crossing.early'.keeps (fun _ _ => unmentioned.renameRefs)
    fun _ => Store.exchange_of_le).of_same crossing.symm.sameCharts

/-- Where the first update writes when it comes first, it writes the same when it comes last. -/
theorem mirrors (touches : first.Touches found (store.freshIds (first.taken found store)) kind id) :
    Store.MirrorsAt (exchange first second found found' store) left swapped kind id :=
  crossing.early.mirrors crossing.late' crossing.sameCharts (crossing.keeps unmentioned)
    (crossing.taken_eq ▸ crossing.map_exchange) touches

/-- Where the second update writes when it comes last, it writes the same when it comes first. -/
theorem mirrors'
    (touches : second.Touches found' (left.freshIds (second.taken found' left)) kind id) :
    Store.MirrorsAt (exchange first second found found' store) both right kind id := by
  have same : second.SameCharts found' left store := fun isDashboard remote isFound chartId here =>
    (crossing.symm.sameCharts isDashboard remote isFound chartId here).symm
  refine crossing.late.mirrors crossing.early' same (crossing.keeps' unmentioned) ?_ touches
  rw [crossing.map_exchange', crossing.symm.taken_eq]

theorem touches_iff : first.Touches found (right.freshIds (first.taken found right)) kind
      (exchange first second found found' store id) ↔
    first.Touches found (store.freshIds (first.taken found store)) kind id := by
  rw [← crossing.map_exchange]
  exact (crossing.keeps unmentioned).touches_iff ..

theorem touches_iff' : second.Touches found' (store.freshIds (second.taken found' store)) kind
      (exchange first second found found' store id) ↔
    second.Touches found' (left.freshIds (second.taken found' left)) kind id := by
  rw [← crossing.map_exchange']
  exact (crossing.keeps' unmentioned).touches_iff ..

/-- Two updates of different resources leave the same in both orders, but that the identifiers that
they take change places. -/
theorem equalUpTo :
    Store.EqualUpTo (exchange first second found found' store) both swapped where
  split := by
    intro path document stored
    rcases stored with stored | stored
    · obtain ⟨endpoint, n, isPath, -⟩ := crossing.late.soundAfter.issued path document stored
      exact ⟨endpoint, _, isPath, Store.slash_not_mem_ident n⟩
    · obtain ⟨endpoint, n, isPath, -⟩ := crossing.late'.soundAfter.issued path document stored
      exact ⟨endpoint, _, isPath, Store.slash_not_mem_ident n⟩
  documents := by
    intro endpoint id clean
    have clean' : '/' ∉ (exchange first second found found' store id).toList :=
      Store.slash_not_mem_exchange clean
    have kindOf : ∀ {kind kind' : Kind}, kind.endpoint = kind'.endpoint → kind = kind' := by
      intro kind kind'
      cases kind <;> cases kind' <;> decide
    by_cases here : ∃ kind : Kind, endpoint = kind.endpoint ∧
        first.Touches found (store.freshIds (first.taken found store)) kind id
    case pos =>
      obtain ⟨kind, rfl, touches⟩ := here
      rw [crossing.late.elsewhere clean]
      · exact crossing.mirrors unmentioned touches
      · intro kind' same
        obtain rfl := kindOf same
        exact crossing.not_touches touches
    by_cases there : ∃ kind : Kind, endpoint = kind.endpoint ∧
        second.Touches found' (left.freshIds (second.taken found' left)) kind id
    case pos =>
      obtain ⟨kind, rfl, touches⟩ := there
      rw [crossing.late'.elsewhere clean']
      · exact crossing.mirrors' unmentioned touches
      · intro kind' same
        obtain rfl := kindOf same
        rw [crossing.touches_iff unmentioned]
        exact fun touches' => crossing.not_touches touches' touches
    case neg =>
      have away : ∀ kind : Kind, endpoint = kind.endpoint →
          ¬ first.Touches found (store.freshIds (first.taken found store)) kind id :=
        fun kind same touches => here ⟨kind, same, touches⟩
      have away' : ∀ kind : Kind, endpoint = kind.endpoint →
          ¬ second.Touches found' (left.freshIds (second.taken found' left)) kind id :=
        fun kind same touches => there ⟨kind, same, touches⟩
      rw [crossing.late.elsewhere clean away', crossing.early.elsewhere clean away,
        crossing.late'.elsewhere clean', crossing.early'.elsewhere clean']
      · rw [crossing.allocated_both] at unmentioned
        exact unmentioned.get?_exchange crossing.early.sound endpoint id
      · simpa only [crossing.touches_iff' unmentioned] using away'
      · simpa only [crossing.touches_iff unmentioned] using away

end Crossing

variable {answer : Question → Bool}

/-- A resource whose name identifies at most one stored resource is updated. -/
theorem ensures_turn (singular : resource.kind ∈ Kind.singular) (sound : store.Sound)
    (consistent : store.Consistent) (valid : resource.check = .ok ())
    (named : store.named resource.kind resource.name = found.toList) :
    Plan.Ensures Store.server answer (resource.update {}) store
      fun _ after => resource.Turn found store after :=
  ((ensures_update_settled singular sound consistent valid named).keeping Store.sound_server
    sound).mono fun _ _ ⟨settled, soundAfter⟩ =>
      ⟨singular, sound, consistent, named, settled, soundAfter⟩

/-- An update that succeeds found at most one stored resource. -/
theorem yields_turn (singular : resource.kind ∈ Kind.singular) (sound : store.Sound)
    (consistent : store.Consistent) :
    Plan.Yields Store.server answer (resource.update {}) store
      fun _ after => resource.check = .ok () ∧ ∃ found, resource.Turn found store after :=
  ((yields_update_settled singular sound consistent).keeping Store.sound_server sound).mono
    fun _ _ ⟨⟨valid, found, named, settled⟩, soundAfter⟩ =>
      ⟨valid, found, singular, sound, consistent, named, settled, soundAfter⟩

/-- Updates one resource and then another. -/
def updateBoth (first second : Resource) : Plan Json := do
  let _ ← first.update {}
  second.update {}

/-- Updates of detectors and dashboards of different kinds or names commute. If both succeed in one
order, they succeed in the other, and the stores they leave are equal up to a renaming of the
identifiers that they take, unless a document mentioned one of these before. -/
theorem update_comm (reachable : store.Reachable) (consistent : store.Consistent)
    (singular : first.kind ∈ Kind.singular) (singular' : second.kind ∈ Kind.singular)
    (apart : first.kind ≠ second.kind ∨ first.name ≠ second.name) {reply : Json}
    (ended : ((first.updateBoth second).run Store.server answer store).result = .ok reply)
    (unmentioned : store.Unmentioned
      ((first.updateBoth second).run Store.server answer store).state.allocated) :
    let forth := (first.updateBoth second).run Store.server answer store
    let back := (second.updateBoth first).run Store.server answer store
    (∃ reply, back.result = .ok reply) ∧ ∃ rename : Equiv.Perm String,
      (∀ text, (∀ n, store.allocated < n → n ≤ forth.state.allocated → text ≠ Store.ident n) →
        rename text = text) ∧ Store.EqualUpTo rename forth.state back.state := by
  intro forth back
  have sound := reachable.sound
  have turns : Plan.Yields Store.server answer (first.updateBoth second) store
      fun _ both => ∃ found found' left, first.check = .ok () ∧ second.check = .ok () ∧
        first.Turn found store left ∧ second.Turn found' left both := by
    apply Plan.yields_bind (yields_turn singular sound consistent)
    rintro _ left ⟨valid, found, early⟩
    apply (yields_turn singular' early.soundAfter early.consistentAfter).mono
    rintro _ both ⟨valid', found', late⟩
    exact ⟨found, found', left, valid, valid', early, late⟩
  obtain ⟨found, found', left, valid, valid', early, late⟩ := turns.promised reply ended
  have turnsBack : Plan.Ensures Store.server answer (second.updateBoth first) store
      fun _ swapped =>
        ∃ right, second.Turn found' store right ∧ first.Turn found right swapped := by
    have named := (early.named_iff singular' apart).mpr late.named
    apply Plan.ensures_bind (ensures_turn singular' sound consistent valid' named)
    intro _ right early'
    have named' := (early'.named_iff singular (Apart.symm apart)).mp early.named
    exact (ensures_turn singular early'.soundAfter early'.consistentAfter valid named').mono
      fun _ _ late' => ⟨right, early', late'⟩
  obtain ⟨last, endedToo, right, early', late'⟩ := turnsBack
  have crossing : Crossing first second found found' store left forth.state right back.state :=
    ⟨apart, early, late, early', late'⟩
  refine ⟨⟨last, endedToo⟩, exchange first second found found' store, fun text foreign => ?_,
    crossing.equalUpTo unmentioned⟩
  apply Store.exchange_of_foreign
  rwa [crossing.allocated_both] at foreign

/-- A detector with a program, whatever its name. -/
def watcher (name : String) : Resource :=
  .detector { name, program := { statements := [.raw "load"] } }

/-- A dashboard of which one chart is kept, one added and one dropped, and a new detector. -/
theorem update_comm_newBoard :
    ∃ reply, (((Resource.dashboard .newBoard).updateBoth (watcher "high")).run Store.server
        (fun _ => false) Dashboard.oldStore).result = .ok reply ∧
      let forth := ((Resource.dashboard .newBoard).updateBoth (watcher "high")).run Store.server
        (fun _ => false) Dashboard.oldStore
      let back := ((watcher "high").updateBoth (.dashboard .newBoard)).run Store.server
        (fun _ => false) Dashboard.oldStore
      (∃ reply, back.result = .ok reply) ∧ ∃ rename : Equiv.Perm String,
        (∀ text, (∀ n, Dashboard.oldStore.allocated < n → n ≤ forth.state.allocated →
          text ≠ Store.ident n) → rename text = text) ∧
        Store.EqualUpTo rename forth.state back.state := by
  have reachable : Dashboard.oldStore.Reachable := .request _ .empty
  have consistent : Dashboard.oldStore.Consistent :=
    reachable.sound.consistent (by decide +kernel) (by decide +kernel)
  have succeeds : (((Resource.dashboard .newBoard).updateBoth (watcher "high")).run Store.server
      (fun _ => false) Dashboard.oldStore).result.isOk := by decide +kernel
  obtain ⟨reply, ended⟩ := Plan.exists_value succeeds
  have unmentioned : Dashboard.oldStore.Unmentioned (((Resource.dashboard .newBoard).updateBoth
      (watcher "high")).run Store.server (fun _ => false) Dashboard.oldStore).state.allocated := by
    have given : Dashboard.oldStore.allocated = 4 := by decide +kernel
    have each : ∀ entry ∈ Dashboard.oldStore.documents, ∀ text ∈ entry.2.refs,
        text ∈ (List.range 5).map Store.ident := by decide +kernel
    intro path document stored n later _ isRef
    obtain ⟨m, small, same⟩ := List.mem_map.mp (each _ (Table.mem_of_get? stored) _ isRef)
    obtain rfl := Store.ident_inj same
    rw [List.mem_range] at small
    omega
  exact ⟨reply, ended, update_comm reachable consistent (by decide) (by decide)
    (.inl (by decide)) ended unmentioned⟩

/-- A store with a dashboard whose group has an identifier that was not given yet. -/
def danglingStore : Store :=
  (Store.seed "/dashboard" (.record [("name", some (.str "board")),
    ("groupId", some (.str "id-2")), ("charts", some (.arr []))]) {}).2

/-- Two detectors of these names are brought into it. -/
def danglingRun (name name' : String) : Run Store Json :=
  ((watcher name).updateBoth (watcher name')).run Store.server (fun _ => false) danglingStore

/-- The dashboard says that its group is `id-2`. This becomes one detector in one order and the
other in the other, so it is renamed, but the group of the dashboard is not. -/
theorem not_equalUpTo_danglingRun :
    danglingStore.Reachable ∧ danglingStore.Consistent ∧
      (danglingRun "high" "low").result.isOk = true ∧
      (danglingRun "low" "high").result.isOk = true ∧ ¬ ∃ rename : Equiv.Perm String,
        (∀ text, (∀ n, danglingStore.allocated < n →
          n ≤ (danglingRun "high" "low").state.allocated → text ≠ Store.ident n) →
            rename text = text) ∧
        Store.EqualUpTo rename (danglingRun "high" "low").state
          (danglingRun "low" "high").state := by
  have reachable : danglingStore.Reachable := .seed _ _ .empty
  have given : danglingStore.allocated = 1 := by decide +kernel
  refine ⟨reachable, reachable.sound.consistent (by decide +kernel) (by decide +kernel),
    by decide +kernel, by decide +kernel, ?_⟩
  rintro ⟨rename, foreign, equal⟩
  have own : rename "id-1" = "id-1" := by
    apply foreign
    intro n new _ same
    obtain rfl : 1 = n := Store.ident_inj same
    omega
  have group : ∀ names ∈ [("high", "low"), ("low", "high")],
      ((danglingRun names.1 names.2).state.documents.get? ("/dashboard" ++ "/" ++ "id-1")).bind
        (Json.get? "groupId") = some (.str "id-2") := by decide +kernel
  have named : ∀ names ∈ [("high", "low"), ("low", "high")],
      ((danglingRun names.1 names.2).state.documents.get? ("/detector" ++ "/" ++ "id-2")).bind
        (Json.get? "name") = some (.str names.1) := by decide +kernel
  have groups := equal.bind_get? "/dashboard" (by decide : '/' ∉ "id-1".toList) "groupId"
  rw [own, group ("low", "high") (by decide), group ("high", "low") (by decide)] at groups
  have kept : rename "id-2" = "id-2" := (Json.str.inj (Option.some.inj groups)).symm
  have names := equal.bind_get? "/detector" (by decide : '/' ∉ "id-2".toList) "name"
  rw [kept, named ("low", "high") (by decide), named ("high", "low") (by decide)] at names
  have same : "low" = "high" := Json.str.inj (Option.some.inj names)
  exact absurd same (by decide)

end Resource

end SignalBoard
