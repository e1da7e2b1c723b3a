/-
# The history of a store

A store forgets what is deleted, so no state of it tells which paths were used before. The ledger
kept here does: it has every path at which there was ever a document. Each step of a store enters
at most one path, under the identifier that is given away in it, and a path in the ledger stays
empty once it is. So creating a document never takes the identifier of another one, be it there or
deleted long ago, and never puts a document in the place of another.
-/

import Mathlib.Data.List.Induction
import SignalBoard.Proofs.Integrity.Single
import SignalBoard.Proofs.Store.Replies

namespace SignalBoard.Store

/-- Something done to a store: a document is seeded, or a request is made. -/
inductive Operation where
  | seed (endpoint : String) (document : Json)
  | request (request : Request)

namespace Operation

/-- The store that an operation leaves, whatever it returns. -/
def leave : Operation → Store → Store
  | .seed endpoint document, store => (store.seed endpoint document).2
  | .request asked, store => (server asked store).2

/-- The operation adds documents: it seeds one, or it is a request to create. -/
inductive Creates : Operation → Prop
  | seed (endpoint : String) (document : Json) : Creates (.seed endpoint document)
  | post (path : String) (query : List (String × String)) (body : Json) :
      Creates (.request (.post path query body))

theorem Creates.grows {operation : Operation} (creates : operation.Creates) (store : Store) :
    Grows store (operation.leave store) := by
  cases creates with
  | seed => exact grows_seed ..
  | post => exact grows_post ..

theorem evolves (operation : Operation) (store : Store) :
    Evolves store (operation.leave store) := by
  cases operation with
  | seed => exact evolves_seed ..
  | request => exact evolves_server ..

end Operation

/-- The store after operations on an empty one. -/
def after (operations : List Operation) : Store :=
  operations.foldl (fun store operation => operation.leave store) {}

@[simp] theorem after_concat (operations : List Operation) (operation : Operation) :
    after (operations ++ [operation]) = operation.leave (after operations) := by
  simp [after]

/-- The stores after operations are the ones reached from the empty store. -/
theorem reachable_iff {store : Store} :
    store.Reachable ↔ ∃ operations, after operations = store := by
  constructor
  case mp =>
    intro reachable
    induction reachable with
    | empty => exact ⟨[], rfl⟩
    | seed endpoint document _ ih =>
        obtain ⟨operations, rfl⟩ := ih
        exact ⟨operations ++ [.seed endpoint document], after_concat ..⟩
    | request request _ ih =>
        obtain ⟨operations, rfl⟩ := ih
        exact ⟨operations ++ [.request request], after_concat ..⟩
  case mpr =>
    rintro ⟨operations, rfl⟩
    induction operations using List.reverseRecOn with
    | nil => exact .empty
    | append_singleton operations operation ih =>
        rw [after_concat]
        cases operation with
        | seed endpoint document => exact .seed endpoint document ih
        | request request => exact .request request ih

/-- At some time during the operations there was a document at the path. -/
def EverAt (operations : List Operation) (path : String) : Prop :=
  ∃ past, past <+: operations ∧ ((after past).documents.get? path).isSome

/-- A further operation adds to the paths with a document at some time what it leaves there. -/
theorem everAt_concat {operations : List Operation} {operation : Operation} {path : String} :
    EverAt (operations ++ [operation]) path ↔
      EverAt operations path ∨
        ((operation.leave (after operations)).documents.get? path).isSome := by
  simp only [EverAt, List.prefix_concat_iff, or_and_right, exists_or, exists_eq_left, after_concat]
  exact or_comm

/-- The ledger has every path with a document, each under an identifier that the store gave away,
and no identifier twice. -/
structure Ledger (had : String → Prop) (store : Store) : Prop where
  stored : ∀ path, (store.documents.get? path).isSome → had path
  issued : ∀ path, had path →
    ∃ endpoint n, path = endpoint ++ "/" ++ ident n ∧ 1 ≤ n ∧ n ≤ store.allocated
  apart : ∀ path path', had path → had path' → lastSegment path = lastSegment path' → path = path'

theorem ledger_empty : Ledger (fun _ => False) {} where
  stored := by
    intro path isSome
    cases isSome
  issued _ := False.elim
  apart _ _ := False.elim

variable {first last : Store} {had : String → Prop}

/-- An identifier that was not given away is that of no path in the ledger. -/
theorem Ledger.not_had (ledger : Ledger had first) {path : String} {n : Nat}
    (fresh : first.allocated < n) (identified : lastSegment path = ident n) : ¬ had path := by
  intro entered
  obtain ⟨endpoint, m, rfl, -, given⟩ := ledger.issued path entered
  rw [lastSegment_append endpoint (slash_not_mem_ident m)] at identified
  exact absurd (ident_inj identified) (by omega)

/-- The ledger is carried on from one store to another, perhaps with further paths, and a path in it
that is empty stays empty. -/
def Ledger.Carried (had : String → Prop) (first last : Store) : Prop :=
  ∃ had', (∀ path, had path → had' path) ∧ Ledger had' last ∧
    ∀ path, had path → first.documents.get? path = none → last.documents.get? path = none

/-- The same ledger will do while no path comes into use. -/
theorem Ledger.carried_of_kept (ledger : Ledger had first)
    (kept : ∀ path, first.documents.get? path = none → last.documents.get? path = none)
    (given : first.allocated ≤ last.allocated) : Ledger.Carried had first last := by
  refine ⟨had, fun _ => id, ⟨fun path isSome => ?_, fun path entered => ?_, ledger.apart⟩,
    fun path _ => kept path⟩
  · apply ledger.stored path
    rw [Option.isSome_iff_ne_none] at isSome ⊢
    exact mt (kept path) isSome
  · obtain ⟨endpoint, n, atPath, positive, within⟩ := ledger.issued path entered
    exact ⟨endpoint, n, atPath, positive, within.trans given⟩

/-- A path that comes into use with the next identifier is entered, and was not in the ledger. -/
theorem Ledger.carried_of_add (ledger : Ledger had first) (endpoint : String) (document : Json) :
    Ledger.Carried had first
      (first.allocate.set (endpoint ++ "/" ++ ident (first.allocated + 1)) document) := by
  let fresh := endpoint ++ "/" ++ ident (first.allocated + 1)
  have identified : lastSegment fresh = ident (first.allocated + 1) :=
    lastSegment_append endpoint (slash_not_mem_ident _)
  have apart : ∀ path, had path → lastSegment path ≠ lastSegment fresh :=
    fun path entered same =>
      ledger.not_had (Nat.lt_succ_self _) (same.trans identified) entered
  refine ⟨fun path => path = fresh ∨ had path, fun _ => .inr, ⟨?stored, ?issued, ?apart⟩, ?gone⟩
  case stored =>
    intro path isSome
    rw [get?_set] at isSome
    split at isSome
    case isTrue here => exact .inl here
    case isFalse => exact .inr (ledger.stored path isSome)
  case issued =>
    rintro path (rfl | entered)
    · exact ⟨endpoint, _, rfl, by omega, Nat.le_refl _⟩
    · obtain ⟨endpoint, n, atPath, positive, given⟩ := ledger.issued path entered
      exact ⟨endpoint, n, atPath, positive, Nat.le_succ_of_le given⟩
  case apart =>
    rintro path path' (rfl | entered) (rfl | entered') same
    · rfl
    · exact absurd same.symm (apart path' entered')
    · exact absurd same (apart path entered)
    · exact ledger.apart path path' entered entered' same
  case gone =>
    intro path entered empty
    rw [get?_set, if_neg fun here => apart path entered (congrArg lastSegment here)]
    exact empty

/-- Each step carries the ledger of a store on. -/
theorem Step.carried (step : Step first last) (ledger : Ledger had first) :
    Ledger.Carried had first last := by
  cases step with
  | allocate => exact ledger.carried_of_kept (fun _ empty => empty) (Nat.le_succ _)
  | add endpoint stamped => exact ledger.carried_of_add endpoint _
  | @replace changed old new stored same =>
      refine ledger.carried_of_kept (fun path empty => ?_) (Nat.le_refl _)
      have elsewhere : path ≠ changed := by
        rintro rfl
        cases empty.symm.trans stored
      rw [get?_set, if_neg elsewhere, empty]
  | remove removed =>
      refine ledger.carried_of_kept (fun path empty => ?_) (Nat.le_refl _)
      rw [get?_remove, empty, ite_self]

/-- However a store changes, its ledger is carried on. -/
theorem Evolves.carried (evolves : Evolves first last) (ledger : Ledger had first) :
    Ledger.Carried had first last := by
  induction evolves with
  | refl => exact ⟨had, fun _ => id, ledger, fun _ _ empty => empty⟩
  | tail _ step ih =>
      obtain ⟨had', grown, ledger', gone⟩ := ih
      obtain ⟨had'', grown', ledger'', gone'⟩ := step.carried ledger'
      exact ⟨had'', fun path entered => grown' path (grown path entered), ledger'',
        fun path entered empty => gone' path (grown path entered) (gone path entered empty)⟩

/-- The ledger of a history has every path at which there was a document at some time. -/
theorem exists_ledger (operations : List Operation) :
    ∃ had, (∀ path, EverAt operations path → had path) ∧ Ledger had (after operations) := by
  induction operations using List.reverseRecOn with
  | nil =>
      refine ⟨fun _ => False, ?_, ledger_empty⟩
      rintro path ⟨past, begins, isSome⟩
      obtain rfl := List.prefix_nil.mp begins
      cases isSome
  | append_singleton operations operation ih =>
      obtain ⟨had, entered, ledger⟩ := ih
      obtain ⟨had', grown, ledger', -⟩ := (operation.evolves _).carried ledger
      refine ⟨had', fun path ever => ?_, by rwa [after_concat]⟩
      rcases everAt_concat.mp ever with before | now
      · exact grown path (entered path before)
      · exact ledger'.stored path now

/-- While a store grows, a path keeps what it has, or nothing was ever there and now something is,
or it is that of a group that lists more dashboards. -/
theorem Grows.get?_cases (grows : Grows first last) (ledger : Ledger had first) (path : String) :
    last.documents.get? path = first.documents.get? path ∨
      (¬ had path ∧ (last.documents.get? path).isSome) ∨
      ∃ groupId old new, path = Kind.group.path groupId ∧
        first.documents.get? path = some old ∧ last.documents.get? path = some new ∧
        old.ListsMore new := by
  induction grows with
  | refl => exact .inl rfl
  | @tail between last earlier growth ih =>
      have given := (Grows.evolves earlier).allocated_le
      cases growth with
      | allocate => exact ih
      | @add endpoint added stamped =>
          rw [get?_set]
          split
          case isTrue here =>
            refine .inr (.inl ⟨ledger.not_had (Nat.lt_succ_of_le given) ?_, rfl⟩)
            rw [here, lastSegment_append endpoint (slash_not_mem_ident _)]
          case isFalse => exact ih
      | @list groupId old new stored same longer =>
          rw [get?_set]
          split
          case isFalse => exact ih
          case isTrue here =>
            rw [← here] at stored
            rcases ih with same | ⟨unused, -⟩ | ⟨_, oldest, _, -, before, between, earlier⟩
            · exact .inr (.inr ⟨groupId, old, new, here, same.symm.trans stored, rfl, longer⟩)
            · exact .inr (.inl ⟨unused, rfl⟩)
            · obtain rfl := Option.some.inj (between.symm.trans stored)
              exact .inr (.inr ⟨groupId, oldest, new, here, before, rfl, earlier.trans longer⟩)

/-- A document that is seeded is kept under the identifier that is returned, which is the next
one. -/
theorem seed_of_isObject (endpoint : String) {document : Json} (object : document.isObject = true)
    (store : Store) :
    store.seed endpoint document = (.ok (ident (store.allocated + 1)),
      store.allocate.set (endpoint ++ "/" ++ ident (store.allocated + 1))
        (document.withField "id" (.str (ident (store.allocated + 1))))) := by
  have added := perform_add_object object endpoint store
  have identified := (Json.Stamped.withField_id object (ident (store.allocated + 1))).get?_id
  change perform (add endpoint document >>= fun added => pure (idOf added)) store = _
  simp only [perform_bind, added, perform_pure, idOf, Json.field_of_get? identified]
  rfl

/-- What is put at a path keeps the identifier of what was there. -/
theorem Sound.exists_put (sound : first.Sound) {path : String} {old : Json}
    (stored : first.documents.get? path = some old) (body : Json) :
    ∃ new, (server (.put path body) first).2.documents.get? path = some new ∧
      new.get? "id" = old.get? "id" ∧
      (body.isObject = true → new = body.withField "id" (.str (lastSegment path))) := by
  obtain ⟨endpoint, n, rfl, stamped, -⟩ := sound.issued path old stored
  rw [lastSegment_append endpoint (slash_not_mem_ident n)]
  by_cases object : body.isObject = true
  case pos =>
    refine ⟨body.withField "id" (.str (ident n)), ?_, ?_, fun _ => rfl⟩
    · rw [server_put stored stamped.id?_eq object, get?_set, if_pos rfl]
    · rw [stamped.get?_id, (Json.Stamped.withField_id object (ident n)).get?_id]
  case neg =>
    rcases server_put_cases (endpoint ++ "/" ++ ident n) body first with
      same | ⟨current, updated, stored', assigned, written⟩
    · exact ⟨old, by rw [same, stored], rfl, fun object' => absurd object' object⟩
    · obtain rfl : current = old := Option.some.inj (stored'.symm.trans stored)
      refine ⟨updated, by rw [written, get?_set, if_pos rfl], ?_,
        fun object' => absurd object' object⟩
      rw [Json.get?_of_assign assigned, Json.field_of_get? stamped.get?_id, stamped.get?_id]

/-- What a store promises of its identifiers, after operations on an empty one and for whatever is
done next. -/
structure NeverReuses (operations : List Operation) (operation : Operation) : Prop where
  /-- Every document has the last segment of its path for an identifier, and it was given away. -/
  identified : ∀ path document, (after operations).documents.get? path = some document →
    document.get? "id" = some (.str (lastSegment path)) ∧
      ∃ n, lastSegment path = ident n ∧ 1 ≤ n ∧ n ≤ (after operations).allocated
  /-- No two documents ever had one identifier, not even at different times. -/
  apart : ∀ path path', EverAt operations path → EverAt operations path' →
    lastSegment path = lastSegment path' → path = path'
  /-- A path that is empty after it was used stays empty. -/
  gone : ∀ path, EverAt operations path → (after operations).documents.get? path = none →
    (operation.leave (after operations)).documents.get? path = none
  /-- Creating leaves what there is, puts documents where none ever was, and may have groups list
  more dashboards. -/
  creates : operation.Creates → ∀ path,
    (operation.leave (after operations)).documents.get? path =
        (after operations).documents.get? path ∨
      (¬ EverAt operations path ∧
        ((operation.leave (after operations)).documents.get? path).isSome) ∨
      ∃ groupId old new, path = Kind.group.path groupId ∧
        (after operations).documents.get? path = some old ∧
        (operation.leave (after operations)).documents.get? path = some new ∧ old.ListsMore new
  /-- An object that is seeded is kept where no document ever was. -/
  seeds : ∀ endpoint document, operation = .seed endpoint document → document.isObject = true →
    ∃ id, ((after operations).seed endpoint document).1 = .ok id ∧
      ¬ EverAt operations (endpoint ++ "/" ++ id) ∧
      (operation.leave (after operations)).documents.get? (endpoint ++ "/" ++ id) =
        some (document.withField "id" (.str id))
  /-- What is created is kept where no document ever was. -/
  posts : ∀ path query body reply, operation = .request (.post path query body) →
    (server (.post path query body) (after operations)).1 = .ok reply →
    ∃ own, ¬ EverAt operations own ∧
      (operation.leave (after operations)).documents.get? own = some reply
  /-- Reading changes nothing. -/
  reads : ∀ request, operation = .request request → request.mutates = false →
    operation.leave (after operations) = after operations
  /-- Replacing changes the one document, but for its identifier. -/
  puts : ∀ path body, operation = .request (.put path body) →
    (∀ other, other ≠ path → (operation.leave (after operations)).documents.get? other =
      (after operations).documents.get? other) ∧
    ((after operations).documents.get? path = none →
      (operation.leave (after operations)).documents.get? path = none) ∧
    ∀ old, (after operations).documents.get? path = some old → ∃ new,
      (operation.leave (after operations)).documents.get? path = some new ∧
      new.get? "id" = old.get? "id" ∧
      (body.isObject = true → new = body.withField "id" (.str (lastSegment path)))

/-- A store never gives an identifier twice and never creates in the place of a document, whatever
is done to it. -/
theorem neverReuses (operations : List Operation) (operation : Operation) :
    NeverReuses operations operation := by
  obtain ⟨had, entered, ledger⟩ := exists_ledger operations
  have sound : (after operations).Sound := (reachable_iff.mpr ⟨operations, rfl⟩).sound
  have never : ∀ {path n}, (after operations).allocated < n → lastSegment path = ident n →
      ¬ EverAt operations path := fun fresh identified ever =>
    ledger.not_had fresh identified (entered _ ever)
  constructor
  case identified =>
    intro path document stored
    obtain ⟨endpoint, n, rfl, stamped, positive, given⟩ := sound.issued path document stored
    rw [lastSegment_append endpoint (slash_not_mem_ident n)]
    exact ⟨stamped.get?_id, n, rfl, positive, given⟩
  case apart =>
    intro path path' ever ever' same
    exact ledger.apart path path' (entered path ever) (entered path' ever') same
  case gone =>
    intro path ever empty
    obtain ⟨_, -, -, gone⟩ := (operation.evolves _).carried ledger
    exact gone path (entered path ever) empty
  case creates =>
    intro creates path
    rcases (creates.grows _).get?_cases ledger path with same | ⟨unused, isSome⟩ | longer
    · exact .inl same
    · exact .inr (.inl ⟨fun ever => unused (entered path ever), isSome⟩)
    · exact .inr (.inr longer)
  case seeds =>
    rintro endpoint document rfl object
    have seeded := seed_of_isObject endpoint object (after operations)
    refine ⟨_, congrArg Prod.fst seeded, ?_, ?_⟩
    · exact never (Nat.lt_succ_self _) (lastSegment_append endpoint (slash_not_mem_ident _))
    · rw [Operation.leave, seeded, get?_set, if_pos rfl]
  case posts =>
    rintro path query body reply rfl created
    obtain ⟨endpoint, n, fresh, -, stored⟩ :=
      sound.issued_of_post (Prod.ext created rfl)
    exact ⟨endpoint ++ "/" ++ ident n,
      never fresh (lastSegment_append endpoint (slash_not_mem_ident n)), stored⟩
  case reads =>
    rintro request rfl reads
    exact server_of_reads reads _
  case puts =>
    rintro path body rfl
    refine ⟨fun other different => get?_server_put different body _, fun empty => ?_,
      fun old stored => sound.exists_put stored body⟩
    rcases server_put_cases path body (after operations) with same | ⟨_, _, stored, -⟩
    · rwa [Operation.leave, same]
    · rw [empty] at stored
      cases stored

/-- A chart that is seeded after another one was deleted gets the second identifier. -/
example : after [.seed "/chart" (.obj []), .request (.delete "/chart/id-1"),
    .seed "/chart" (.obj [])] =
      { documents := [("/chart/id-2", .obj [("id", .str "id-2")])], allocated := 2 } := by
  decide +kernel

end SignalBoard.Store
