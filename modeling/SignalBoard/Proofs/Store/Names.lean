/-
# Names in a store

Dashboards and detectors are found by their names, so no two of a kind may share one. Reading,
deleting and whatever is done to charts gives no dashboard and no detector a name. A request that
does give a name to one of them keeps the names apart if no other of the kind has it.
-/

import SignalBoard.Proofs.Store.Creation
import SignalBoard.Proofs.Store.Success

namespace SignalBoard

/-- The kinds of which no two resources may have the same name. -/
def Kind.singular : List Kind := [.dashboard, .detector]

/-- The request reads, deletes, or is about a chart. -/
inductive Request.Nameless : Request → Prop
  | search (kind : Kind) (name : String) : Nameless (.search kind name)
  | get (path : String) : Nameless (.get path)
  | createChart (query : List (String × String)) (body : Json) :
      Nameless (.post Kind.chart.endpoint query body)
  | putChart (id : String) (body : Json) : Nameless (.put (Kind.chart.path id) body)
  | delete (path : String) : Nameless (.delete path)

namespace Store

variable {before between after store : Store} {kind : Kind} {id name : String} {paths : List String}

/-- The name of the resource of a kind with an identifier. -/
def nameOf? (store : Store) (kind : Kind) (id : String) : Option String :=
  (store.resource? kind id).bind Json.name?

theorem nameOf?_eq {document : Json} (stored : store.resource? kind id = some document) :
    store.nameOf? kind id = document.name? := by
  rw [nameOf?, stored, Option.bind_some]

/-- No two dashboards and no two detectors have the same name. -/
def NamesApart (store : Store) : Prop :=
  ∀ kind ∈ Kind.singular, ∀ id id' name, store.nameOf? kind id = some name →
    store.nameOf? kind id' = some name → id = id'

/-- At most the resource with the identifier has the name. -/
def OnlyAt (store : Store) (kind : Kind) (name id : String) : Prop :=
  ∀ other, store.nameOf? kind other = some name → other = id

/-- The dashboards and the detectors that are left are as they were. -/
def Spares (before after : Store) : Prop :=
  ∀ kind ∈ Kind.singular, ∀ id,
    after.documents.get? (kind.path id) = before.documents.get? (kind.path id) ∨
      after.documents.get? (kind.path id) = none

/-- The dashboards and the detectors that are left have the names that they had. -/
def KeepsNames (before after : Store) : Prop :=
  ∀ kind ∈ Kind.singular, ∀ id name, after.nameOf? kind id = some name →
    before.nameOf? kind id = some name

/-- Of the dashboards and the detectors only one may have another name than it had, a given one. -/
def Retitled (kind : Kind) (id name : String) (before after : Store) : Prop :=
  ∀ kind' ∈ Kind.singular, ∀ id' name', after.nameOf? kind' id' = some name' →
    before.nameOf? kind' id' = some name' ∨ (kind' = kind ∧ id' = id ∧ name' = name)

theorem KeepsNames.refl (store : Store) : store.KeepsNames store := fun _ _ _ _ named => named

theorem KeepsNames.trans (earlier : before.KeepsNames between) (later : between.KeepsNames after) :
    before.KeepsNames after :=
  fun kind singular id name named =>
    earlier kind singular id name (later kind singular id name named)

/-- Names that are kept stay apart. -/
theorem KeepsNames.namesApart (keeps : before.KeepsNames after) (apart : before.NamesApart) :
    after.NamesApart :=
  fun kind singular id id' name named named' => apart kind singular id id' name
    (keeps kind singular id name named) (keeps kind singular id' name named')

/-- No other resource gets the name. -/
theorem KeepsNames.onlyAt (keeps : before.KeepsNames after) (singular : kind ∈ Kind.singular)
    (only : before.OnlyAt kind name id) : after.OnlyAt kind name id :=
  fun other named => only other (keeps kind singular other name named)

theorem KeepsNames.retitled (keeps : before.KeepsNames after) (kind : Kind) (id name : String) :
    Retitled kind id name before after :=
  fun kind' singular id' name' named => .inl (keeps kind' singular id' name' named)

/-- Names stay apart when one is given that no other resource has. -/
theorem Retitled.namesApart (retitled : Retitled kind id name before after)
    (only : before.OnlyAt kind name id) (apart : before.NamesApart) : after.NamesApart := by
  intro kind' singular first second name' named named'
  rcases retitled kind' singular first name' named with known | ⟨rfl, rfl, rfl⟩
  · rcases retitled kind' singular second name' named' with known' | ⟨rfl, rfl, rfl⟩
    · exact apart kind' singular first second name' known known'
    · exact only first known
  · rcases retitled kind' singular second name' named' with known' | ⟨-, same, -⟩
    · exact (only second known').symm
    · exact same.symm

/-- A change of documents at paths of which only one is that of a dashboard or a detector. -/
theorem AgreesOff.retitled (agrees : before.AgreesOff paths after)
    (only : ∀ kind' ∈ Kind.singular, ∀ id', kind'.path id' ∈ paths → kind' = kind ∧ id' = id)
    (named : ∀ other, after.nameOf? kind id = some other → other = name) :
    Retitled kind id name before after := by
  intro kind' singular id' name' given
  by_cases touched : kind'.path id' ∈ paths
  · obtain ⟨rfl, rfl⟩ := only kind' singular id' touched
    exact .inr ⟨rfl, rfl, named name' given⟩
  · have same : after.resource? kind' id' = before.resource? kind' id' :=
      resource?_congr (agrees _ touched)
    rw [nameOf?, same] at given
    exact .inl given

namespace Spares

theorem refl (store : Store) : store.Spares store := fun _ _ _ => .inl rfl

theorem trans (earlier : before.Spares between) (later : between.Spares after) :
    before.Spares after := by
  intro kind singular id
  rcases later kind singular id with same | gone
  · rw [same]
    exact earlier kind singular id
  · exact .inr gone

/-- What is left as it was has the name that it had. -/
theorem keepsNames (spares : before.Spares after) : before.KeepsNames after := by
  intro kind singular id name named
  obtain ⟨document, stored, -⟩ := Option.bind_eq_some_iff.mp named
  rcases spares kind singular id with same | gone
  · rwa [nameOf?, resource?_congr same] at named
  · cases (get?_of_resource? stored).symm.trans gone

end Spares

/-- A store that changes at one path only, which belongs to another kind of resource. -/
theorem spares_set (foreign : kind ∉ Kind.singular) (id : String) (document : Json)
    (store : Store) : store.Spares (store.set (kind.path id) document) := by
  intro kind' singular id'
  have elsewhere : kind'.path id' ≠ kind.path id :=
    Kind.path_ne (fun same : kind' = kind => foreign (same ▸ singular)) id' id
  exact .inl (by rw [get?_set, if_neg elsewhere])

/-- Removing a document leaves the others as they are. -/
theorem spares_remove (path : String) (store : Store) : store.Spares (store.remove path) := by
  intro kind _ id
  rw [get?_remove]
  split
  · exact .inr rfl
  · exact .inl rfl

/-- Changing the list of a group is about the group only. -/
theorem spares_updateMembers (groupId : String) (change : List Json → List Json)
    (store : Store) : store.Spares (perform (updateMembers groupId change) store).2 := by
  rcases updateMembers_snd groupId change store with same | ⟨group, changed, -, -, set⟩
  · rw [same]
    exact .refl store
  · rw [set]
    exact spares_set (by decide) groupId changed store

/-- A deletion leaves what it does not delete as it is. -/
theorem spares_delete (path : String) (store : Store) :
    store.Spares (perform (delete path) store).2 := by
  have drops : ∀ (ids : List String) (store : Store), store.Spares
      (perform (ids.forM fun id => drop (Kind.dashboard.path id)) store).2 := by
    intro ids
    induction ids with
    | nil => exact fun store => .refl store
    | cons id rest ih => exact fun store => (spares_remove _ store).trans (ih _)
  rw [delete, perform_bind, perform_fetch]
  cases store.documents.get? path with
  | none => exact .refl store
  | some removed =>
      have removes := spares_remove path store
      simp only [perform_bind, perform_drop]
      split
      · exact removes.trans (spares_updateMembers _ _ _)
      · split
        · exact removes.trans (drops _ _)
        · exact removes

/-- Reading, deleting and what is done to charts leaves the dashboards and the detectors that are
not deleted as they are. -/
theorem spares_server {request : Request} (nameless : request.Nameless) (store : Store) :
    store.Spares (server request store).2 := by
  rw [server_eq_perform]
  cases nameless with
  | search kind name => exact .refl store
  | get path =>
      rw [answer, fetch_snd]
      exact .refl store
  | createChart query body =>
      have plain : Kind.chart.endpoint = Kind.chart.endpoint ∨
          Kind.chart.endpoint = Kind.detector.endpoint := .inl rfl
      rw [answer, post, if_pos plain, perform_add]
      split
      case h_1 added _ => exact spares_set (by decide) _ added store.allocate
      case h_2 => exact .refl store
  | putChart id body =>
      rw [answer, put, perform_bind, perform_fetch]
      cases store.documents.get? (Kind.chart.path id) with
      | none => exact .refl store
      | some current =>
          simp only [perform_bind, perform_assign]
          cases body.assign "id" (current.field "id") with
          | error refusal => exact .refl store
          | ok updated => exact spares_set (by decide) id updated store
  | delete path =>
      have deletes := spares_delete path store
      rw [answer, perform_bind]
      rcases outcome : perform (delete path) store with ⟨fault | value, after⟩ <;>
        rwa [outcome] at deletes

/-- A store that changes at the path of one resource only. -/
theorem retitled_set {document : Json} (named : document.name? = some name) (kind : Kind)
    (id : String) (store : Store) :
    Retitled kind id name store (store.set (kind.path id) document) := by
  have agrees : store.AgreesOff [kind.path id] (store.set (kind.path id) document) := by
    intro path untouched
    rw [get?_set, if_neg (by simpa using untouched)]
  apply agrees.retitled
  case only => exact fun kind' _ id' same => Kind.path_inj (List.mem_singleton.mp same)
  case named =>
    intro other given
    obtain ⟨now, stored, isNamed⟩ := Option.bind_eq_some_iff.mp given
    have there := get?_of_resource? stored
    rw [get?_set, if_pos rfl] at there
    rw [← Option.some.inj there, named] at isNamed
    exact (Option.some.inj isNamed).symm

/-- A resource that is replaced gets the name of the new document. -/
theorem retitled_put {body : Json} (object : body.isObject = true) (named : body.name? = some name)
    (kind : Kind) (id : String) (store : Store) :
    Retitled kind id name store (server (.put (kind.path id) body) store).2 := by
  rw [server_eq_perform, answer, put, perform_bind, perform_fetch]
  cases stored : store.documents.get? (kind.path id) with
  | none => exact (KeepsNames.refl store).retitled kind id name
  | some current =>
      simp only [perform_bind, perform_assign, Json.assign_eq object, perform_keep, perform_pure]
      have stays : (body.withField "id" (current.field "id")).name? = body.name? :=
        Json.name?_withField object (by decide) _
      exact retitled_set (stays.trans named) kind id store

/-- A detector is created with the name of its document. -/
theorem retitled_post_detector {body : Json} (object : body.isObject = true)
    (named : body.name? = some name) (query : List (String × String)) (store : Store) :
    Retitled .detector (ident (store.allocated + 1)) name store
      (server (.post Kind.detector.endpoint query body) store).2 := by
  rw [server_post (by decide) object]
  have stays : (body.withField "id" (.str (ident (store.allocated + 1)))).name? = body.name? :=
    Json.name?_withField object (by decide) _
  exact retitled_set (stays.trans named) .detector _ store.allocate

namespace Sound

/-- A name that nothing is found by is the name of no resource. -/
theorem onlyAt_of_untaken (sound : store.Sound) (untaken : store.named kind name = [])
    (id : String) : store.OnlyAt kind name id := by
  intro other named
  obtain ⟨document, stored, isNamed⟩ := Option.bind_eq_some_iff.mp named
  exact absurd isNamed ((named_eq_nil_iff sound.ordered ..).mp untaken other document stored)

/-- A name that identifies a resource is the name of that one only. -/
theorem onlyAt_of_named (sound : store.Sound) {remote : Json}
    (alone : store.named kind name = [remote]) (identified : remote.id? = some id) :
    store.OnlyAt kind name id := by
  intro other named
  obtain ⟨document, stored, isNamed⟩ := Option.bind_eq_some_iff.mp named
  obtain ⟨own, storedOwn, -⟩ := sound.exists_of_named alone
  obtain rfl := Option.some.inj (identified.symm.trans (sound.id_of_resource? storedOwn).1)
  exact sound.eq_of_named alone storedOwn stored isNamed

/-- As long as names are apart, a look-up by a name is never ambiguous. -/
theorem length_named_le_one (sound : store.Sound) (apart : store.NamesApart)
    (singular : kind ∈ Kind.singular) (name : String) : (store.named kind name).length ≤ 1 := by
  by_cases there : ∃ id document, store.resource? kind id = some document ∧
      document.name? = some name
  case pos =>
    obtain ⟨id, document, stored, isNamed⟩ := there
    have single : store.named kind name = [document] := by
      apply named_eq_singleton sound.ordered stored isNamed
      intro id' other stored' isNamed'
      exact apart kind singular id' id name ((nameOf?_eq stored').trans isNamed')
        ((nameOf?_eq stored).trans isNamed)
    simp [single]
  case neg =>
    have none : store.named kind name = [] :=
      (named_eq_nil_iff sound.ordered ..).mpr fun id document stored isNamed =>
        there ⟨id, document, stored, isNamed⟩
    simp [none]

end Sound

end Store

end SignalBoard
