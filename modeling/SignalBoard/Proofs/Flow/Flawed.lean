/-
# The first flaw of a program

A program is refused just if some node of its tree is bad in itself, however deep it stands, and
what the refusal names is what is wrong with the first bad node in the order of the text. That
holds of the check of every node: one that is bad comes before what is below it, and one that is
not leaves the verdict to the first branch that is refused, since all branches before it have no
bad node at all.
-/

import SignalBoard.Proofs.Flow.Node

namespace SignalBoard.Flow

namespace Node

/-- Neither the node nor any node below it is bad. -/
def Flawless (node : Node) : Prop := node.All fun found => ∀ flaw, ¬ found.Bad flaw

/-- The node at the one place comes before the node at the other in the order of the text: it is
above it, or the branches first part with an earlier one. -/
def Precedes (place place' : List Nat) : Prop := List.Lex (· < ·) place place'

/-- Of two nodes one does not come before the other and after it. -/
theorem Precedes.asymm {place place' : List Nat} (sooner : Precedes place place') :
    ¬ Precedes place' place :=
  Std.Asymm.asymm (r := List.Lex (· < ·)) place place' sooner

/-- The first bad node, among the node and those below it in the order of the text, is bad for
the reason given. -/
def FirstFlaw (node : Node) (flaw : Flaw) : Prop :=
  ∃ place found, node.At place found ∧ found.Bad flaw ∧
    ∀ place' found' flaw', node.At place' found' → found'.Bad flaw' →
      place' = place ∨ Precedes place place'

variable {node : Node} {flaw : Flaw}

/-- A node is bad for one reason. -/
theorem Bad.unique {flaw' : Flaw} (bad : node.Bad flaw) (bad' : node.Bad flaw') : flaw = flaw' :=
  Option.some.inj ((flaw?_eq_some_iff.mpr bad).symm.trans (flaw?_eq_some_iff.mpr bad'))

/-- Nothing is first where nothing is bad. -/
theorem FirstFlaw.not_flawless (first : node.FirstFlaw flaw) : ¬ node.Flawless := by
  obtain ⟨place, found, within, bad, -⟩ := first
  intro flawless
  exact flawless place found within flaw bad

/-- One flaw is first. -/
theorem FirstFlaw.unique {flaw' : Flaw} (first : node.FirstFlaw flaw)
    (first' : node.FirstFlaw flaw') : flaw = flaw' := by
  obtain ⟨place, found, within, bad, before⟩ := first
  obtain ⟨place', found', within', bad', before'⟩ := first'
  obtain rfl : place' = place := by
    rcases before place' found' flaw' within' bad' with same | later
    · exact same
    · rcases before' place found flaw within bad with same | sooner
      · exact same.symm
      · exact absurd sooner later.asymm
  obtain rfl := within.unique within'
  exact bad.unique bad'

/-- A bad node comes before what is below it. -/
theorem Bad.first (bad : node.Bad flaw) : node.FirstFlaw flaw := by
  refine ⟨[], node, .here node, bad, fun place' _ _ _ _ => ?_⟩
  cases place' with
  | nil => exact .inl rfl
  | cons => exact .inr .nil

/-- The first flaw of the first branch that has one is the first flaw of a node that is not bad
itself. -/
theorem FirstFlaw.under {child : Node} {i : Nat} (own : ∀ flaw, ¬ node.Bad flaw)
    (branch : node.children[i]? = some child) (first : child.FirstFlaw flaw)
    (earlier : ∀ j earlier, j < i → node.children[j]? = some earlier → earlier.Flawless) :
    node.FirstFlaw flaw := by
  obtain ⟨place, found, within, bad, before⟩ := first
  refine ⟨i :: place, found, .under branch within, bad, fun place' found' flaw' within' bad' => ?_⟩
  cases within' with
  | here => exact absurd bad' (own flaw')
  | @under _ child' _ j rest branch' rest' =>
      rcases Nat.lt_trichotomy j i with sooner | rfl | later
      · exact absurd bad' (earlier j child' sooner branch' rest found' rest' flaw')
      · obtain rfl := Option.some.inj (branch.symm.trans branch')
        rcases before rest found' flaw' rest' bad' with rfl | later
        · exact .inl rfl
        · exact .inr (.cons later)
      · exact .inr (.rel later)

/-- Nodes checked one after another all pass, or the first that is refused decides. -/
theorem forM_check_cases (nodes : List Node) :
    (nodes.forM Node.check = Except.ok () ∧ ∀ node ∈ nodes, node.check = .ok ()) ∨
      ∃ (i : Nat) (node : Node) (flaw : Flaw), nodes[i]? = some node ∧ node.check = .error flaw ∧
        nodes.forM Node.check = .error flaw ∧
        ∀ (j : Nat) (earlier : Node), j < i → nodes[j]? = some earlier →
          earlier.check = .ok () := by
  induction nodes with
  | nil => exact .inl ⟨rfl, by simp⟩
  | cons node rest ih =>
      have unfolded : (node :: rest).forM Node.check =
          (node.check >>= fun _ => rest.forM Node.check) := rfl
      rcases checked : node.check with flaw | ⟨⟩ <;> rw [checked] at unfolded
      · exact .inr ⟨0, node, flaw, rfl, checked, unfolded, by simp⟩
      · rcases ih with ⟨passed, each⟩ | ⟨i, bad, flaw, at_, refused, whole, earlier⟩
        · refine .inl ⟨unfolded.trans passed, fun own among => ?_⟩
          rcases List.mem_cons.mp among with rfl | later
          · exact checked
          · exact each own later
        · refine .inr ⟨i + 1, bad, flaw, at_, refused, unfolded.trans whole, ?_⟩
          intro j own less at'
          cases j with
          | zero =>
              obtain rfl := Option.some.inj at'
              exact checked
          | succ j => exact earlier j own (Nat.lt_of_succ_lt_succ less) at'

/-- The check of a node passes if nothing is bad at or below it, and otherwise names the first
flaw. -/
theorem check_cases (node : Node) :
    (node.check = .ok () ∧ node.Flawless) ∨
      ∃ flaw, node.check = .error flaw ∧ node.FirstFlaw flaw := by
  induction node using Node.induction with
  | step node ih =>
      rcases own : node.flaw? with _ | flaw
      · have fine : ∀ flaw, ¬ node.Bad flaw := by
          intro flaw bad
          rw [flaw?_eq_some_iff.mpr bad] at own
          cases own
        have whole : node.check = node.children.forM Node.check := by rw [check_eq, own]
        rcases forM_check_cases node.children with
          ⟨passed, each⟩ | ⟨i, child, flaw, branch, refused, passed, earlier⟩
        · refine .inl ⟨whole.trans passed, all_iff.mpr ⟨fine, fun child among => ?_⟩⟩
          rcases ih child among with ⟨-, flawless⟩ | ⟨flaw, refused, -⟩
          · exact flawless
          · rw [each child among] at refused
            cases refused
        · refine .inr ⟨flaw, whole.trans passed, .under fine branch ?_ fun j sooner less at_ => ?_⟩
          · rcases ih child (List.mem_of_getElem? branch) with
              ⟨passed, -⟩ | ⟨flaw', refused', first⟩
            · rw [refused] at passed
              cases passed
            · rw [refused] at refused'
              obtain rfl := Except.error.inj refused'
              exact first
          · rcases ih sooner (List.mem_of_getElem? at_) with ⟨-, flawless⟩ | ⟨flaw, refused', -⟩
            · exact flawless
            · rw [earlier j sooner less at_] at refused'
              cases refused'
      · exact .inr ⟨flaw, by rw [check_eq, own], (flaw?_eq_some_iff.mp own).first⟩

/-- The check of a node passes just if nothing is bad at or below it. -/
theorem check_eq_ok_iff (node : Node) : node.check = .ok () ↔ node.Flawless := by
  rcases check_cases node with ⟨passed, flawless⟩ | ⟨flaw, refused, first⟩
  · exact iff_of_true passed flawless
  · refine iff_of_false ?_ first.not_flawless
    rw [refused]
    nofun

/-- The check of a node refuses it with a flaw just if that flaw is the first. -/
theorem check_eq_error_iff (node : Node) : node.check = .error flaw ↔ node.FirstFlaw flaw := by
  constructor
  · intro refused
    rcases check_cases node with ⟨passed, -⟩ | ⟨flaw', refused', first⟩
    · rw [refused] at passed
      cases passed
    · rw [refused] at refused'
      obtain rfl := Except.error.inj refused'
      exact first
  · intro first
    rcases check_cases node with ⟨-, flawless⟩ | ⟨flaw', refused, first'⟩
    · exact absurd flawless first.not_flawless
    · rw [refused, first'.unique first]

end Node

/-- A program passes its check just if no node of it is bad, at any depth; and it is refused with a
flaw just if that is what is wrong with the first bad node in the order of the text. -/
theorem Program.check_names_first_flaw (program : Program) :
    (program.check = .ok () ↔
      ∀ place node, (Node.program program).At place node → ∀ flaw, ¬ node.Bad flaw) ∧
    ∀ flaw, program.check = .error flaw ↔ (Node.program program).FirstFlaw flaw :=
  ⟨(Node.program program).check_eq_ok_iff, fun _ => (Node.program program).check_eq_error_iff⟩

/-- In `f([], g(""))` the empty argument is at fault, as it is for `g`. -/
example :
    (Program.ofStream (.ofCall (.mk "f" [.positional (.list []),
      .positional (.stream (.ofCall (.mk "g" [.positional (.str "")])))]))).check =
      .error (.emptyArgument "g") := by rfl

end SignalBoard.Flow
