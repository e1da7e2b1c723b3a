/-
# The tree of a program

The parts of a program are of many types: statements, expressions, entries, arguments, calls. Here
they are the nodes of one tree, so that what is done to all parts of a program is one induction. A
node has a place, the numbers of the branches that lead to it from above, and the order of the text
is the order of the places: a node comes before what is below it, and what is below an earlier
branch comes before what is below a later one. Checking a node is checking what is wrong with the
node itself and then the nodes right below it in their order.
-/

import Mathlib.Data.List.Lex
import SignalBoard.Flow.Program

namespace SignalBoard.Flow

/-- A node of the tree of a program. -/
inductive Node where
  | program (program : Program)
  | statement (statement : Statement)
  | expr (value : Expr)
  /-- An entry of a dictionary. -/
  | entry (key : String) (value : Expr)
  /-- An argument of the named function. -/
  | arg (function : String) (arg : Arg)
  | call (call : Call)
  | origin (origin : Origin)

namespace Node

/-- The nodes right below a node, in the order of the text. -/
def children : Node → List Node
  | program ⟨statements⟩ => statements.map statement
  | statement (.expr value) => [expr value]
  | statement (.assign _ value) => [expr value]
  | statement (.raw _) => []
  | expr (.stream (.mk start calls)) => origin start :: calls.map call
  | expr (.combine _ operands) => operands.map expr
  | expr (.negate operand) => [expr operand]
  | expr (.list items) => items.map expr
  | expr (.dict entries) => entries.map fun (key, value) => entry key value
  | expr _ => []
  | entry _ value => [expr value]
  | arg _ (.positional value) => [expr value]
  | arg _ (.keyword _ value) => [expr value]
  | call (.mk name args) => args.map (arg name)
  | origin (.call start) => [call start]
  | origin (.variable _) => []

/-- At a place below a node, or at the node itself, another node is found. -/
inductive At : Node → List Nat → Node → Prop
  | here (node : Node) : At node [] node
  | under {node child found : Node} {i : Nat} {place : List Nat}
      (branch : node.children[i]? = some child) (rest : At child place found) :
      At node (i :: place) found

/-- What is wrong with a node in itself, whatever is below it. -/
inductive Bad : Node → Flaw → Prop
  | noStatements : Bad (program ⟨[]⟩) .noStatements
  | unnamedTarget (value : Expr) : Bad (statement (.assign "" value)) .unnamedTarget
  | blankStatement {text : String} (blank : Text.trim text = "") :
      Bad (statement (.raw text)) .blankStatement
  | unnamedVariable : Bad (origin (.variable "")) .unnamedVariable
  | unnamedCall (args : List Arg) : Bad (call (.mk "" args)) .unnamedCall
  | emptyArgument (function : String) :
      Bad (arg function (.positional (.str ""))) (.emptyArgument function)
  | emptyKey (value : Expr) : Bad (entry "" value) .emptyKey
  | blankOperator {operator : String} (operands : List Expr) (blank : Text.trim operator = "") :
      Bad (expr (.combine operator operands)) .blankOperator

/-! ## Induction over the tree -/

/-- The size of what a node stands for. An entry counts for more than its value. -/
noncomputable def size : Node → Nat
  | program p => sizeOf p
  | statement s => sizeOf s
  | expr e => sizeOf e
  | entry _ value => sizeOf value + 1
  | arg _ a => sizeOf a
  | call c => sizeOf c
  | origin o => sizeOf o

/-- What is right below a node is smaller. -/
theorem size_lt_of_mem_children {node child : Node} (among : child ∈ node.children) :
    child.size < node.size := by
  match node with
  | program ⟨statements⟩ =>
      obtain ⟨own, member, rfl⟩ := List.mem_map.mp among
      have smaller := List.sizeOf_lt_of_mem member
      simp [size]
      omega
  | expr (.stream (.mk start calls)) =>
      rcases List.mem_cons.mp among with rfl | later
      · simp [size]
        omega
      · obtain ⟨own, member, rfl⟩ := List.mem_map.mp later
        have smaller := List.sizeOf_lt_of_mem member
        simp [size]
        omega
  | expr (.combine _ items) | expr (.list items) | call (.mk _ items) =>
      obtain ⟨own, member, rfl⟩ := List.mem_map.mp among
      have smaller := List.sizeOf_lt_of_mem member
      simp [size]
      omega
  | expr (.dict entries) =>
      obtain ⟨⟨key, value⟩, member, rfl⟩ := List.mem_map.mp among
      have smaller := List.sizeOf_lt_of_mem member
      simp [size] at smaller ⊢
      omega
  | statement (.expr _) | statement (.assign _ _) | expr (.negate _) | entry _ _
  | arg _ (.positional _) | arg _ (.keyword _ _) | origin (.call _) =>
      obtain rfl := List.mem_singleton.mp among
      simp +arith [size]

/-- What holds of a node whenever it holds of the nodes right below it holds of all nodes. -/
@[elab_as_elim]
theorem induction {motive : Node → Prop}
    (step : ∀ node, (∀ child ∈ node.children, motive child) → motive node) (node : Node) :
    motive node :=
  step node fun child _ => induction step child
  termination_by node.size
  decreasing_by exact size_lt_of_mem_children ‹_›

/-- Every node at or below the node is of some sort. -/
def All (sort : Node → Prop) (node : Node) : Prop :=
  ∀ place found, node.At place found → sort found

theorem all_iff {sort : Node → Prop} {node : Node} :
    node.All sort ↔ sort node ∧ ∀ child ∈ node.children, child.All sort := by
  constructor
  · intro all
    refine ⟨all [] node (.here node), fun child among place found within => ?_⟩
    obtain ⟨i, branch⟩ := List.mem_iff_getElem?.mp among
    exact all (i :: place) found (.under branch within)
  · rintro ⟨own, each⟩ place found within
    cases within with
    | here => exact own
    | under branch rest => exact each _ (List.mem_of_getElem? branch) _ _ rest

/-- What holds of all nodes holds of all nodes from a place on. -/
theorem All.within {sort : Node → Prop} {node found : Node} {place : List Nat}
    (all : node.All sort) (within : node.At place found) : found.All sort := by
  induction within with
  | here => exact all
  | under branch rest ih => exact ih ((all_iff.mp all).2 _ (List.mem_of_getElem? branch))

/-- What holds of all nodes below an only branch, and of the node itself. -/
theorem All.only {sort : Node → Prop} {node child : Node} (own : sort node)
    (branches : node.children = [child]) (below : child.All sort) : node.All sort := by
  refine all_iff.mpr ⟨own, fun other among => ?_⟩
  rw [branches] at among
  obtain rfl := List.mem_singleton.mp among
  exact below

/-- There is one node at a place. -/
theorem At.unique {node found found' : Node} {place : List Nat} (at_ : node.At place found)
    (at' : node.At place found') : found = found' := by
  induction at_ with
  | here node =>
      cases at'
      rfl
  | under branch rest ih =>
      cases at' with
      | under branch' rest' =>
          obtain rfl := Option.some.inj (branch.symm.trans branch')
          exact ih rest'

/-! ## Checking node by node -/

/-- The flaw of a node in itself, if it has one. -/
def flaw? : Node → Option Flaw
  | program p => if p.isEmpty then some .noStatements else none
  | statement (.assign target _) => if target.isEmpty then some .unnamedTarget else none
  | statement (.raw text) => if Text.blank text then some .blankStatement else none
  | origin (.variable name) => if name.isEmpty then some .unnamedVariable else none
  | call (.mk name _) => if name.isEmpty then some .unnamedCall else none
  | arg function (.positional value) =>
      if value.isEmptyText then some (.emptyArgument function) else none
  | entry key _ => if key.isEmpty then some .emptyKey else none
  | expr (.combine operator _) => if Text.blank operator then some .blankOperator else none
  | _ => none

/-- Checks what a node stands for. -/
def check : Node → Except Flaw Unit
  | program p => p.check
  | statement s => s.check
  | expr e => e.check
  | entry key value => Expr.checkEntries [(key, value)]
  | arg function a => a.check function
  | call c => c.check
  | origin o => o.check

/-- A text is blank just if it trims to nothing. -/
theorem blank_iff (text : String) : Text.blank text = true ↔ Text.trim text = "" := by
  rw [Text.blank_iff_trim, Text.trim, ← String.toList_eq_nil_iff, String.toList_ofList]

/-- A node has a flaw just if it is bad for that reason. -/
theorem flaw?_eq_some_iff {node : Node} {flaw : Flaw} :
    node.flaw? = some flaw ↔ node.Bad flaw := by
  constructor
  · intro found
    match node with
    | program ⟨[]⟩ =>
        obtain rfl := Option.some.inj found
        exact .noStatements
    | statement (.assign target value) =>
        obtain ⟨rfl, rfl⟩ : target = "" ∧ Flaw.unnamedTarget = flaw := by simpa [flaw?] using found
        exact .unnamedTarget value
    | statement (.raw text) =>
        obtain ⟨blank, rfl⟩ : Text.trim text = "" ∧ Flaw.blankStatement = flaw := by
          simpa [flaw?, blank_iff] using found
        exact .blankStatement blank
    | origin (.variable name) =>
        obtain ⟨rfl, rfl⟩ : name = "" ∧ Flaw.unnamedVariable = flaw := by simpa [flaw?] using found
        exact .unnamedVariable
    | call (.mk name args) =>
        obtain ⟨rfl, rfl⟩ : name = "" ∧ Flaw.unnamedCall = flaw := by simpa [flaw?] using found
        exact .unnamedCall args
    | arg function (.positional (.str text)) =>
        obtain ⟨rfl, rfl⟩ : text = "" ∧ Flaw.emptyArgument function = flaw := by
          simpa [flaw?, Expr.isEmptyText] using found
        exact .emptyArgument function
    | entry key value =>
        obtain ⟨rfl, rfl⟩ : key = "" ∧ Flaw.emptyKey = flaw := by simpa [flaw?] using found
        exact .emptyKey value
    | expr (.combine operator operands) =>
        obtain ⟨blank, rfl⟩ : Text.trim operator = "" ∧ Flaw.blankOperator = flaw := by
          simpa [flaw?, blank_iff] using found
        exact .blankOperator operands blank
  · intro bad
    cases bad with
    | blankStatement blank => simp [flaw?, blank_iff, blank]
    | blankOperator _ blank => simp [flaw?, blank_iff, blank]
    | _ => rfl

/-- Refusing comes first. -/
theorem refuseIf_bind (condition : Bool) (flaw : Flaw) (rest : Unit → Except Flaw Unit) :
    (refuseIf condition flaw >>= rest) = if condition then .error flaw else rest () := by
  cases condition <;> rfl

/-- Checking items one after another is checking the nodes that they are. -/
theorem checkEach_eq {α : Type} {checkEach : List α → Except Flaw Unit} {node : α → Node}
    (none : checkEach [] = .ok ())
    (one : ∀ item rest, checkEach (item :: rest) = ((node item).check >>= fun _ => checkEach rest))
    (items : List α) : checkEach items = (items.map node).forM check := by
  induction items with
  | nil => exact none
  | cons item rest ih =>
      rw [one, ih]
      rfl

theorem checkAll_expr (items : List Expr) : Expr.checkAll items = (items.map expr).forM check :=
  checkEach_eq rfl (fun _ _ => rfl) items

theorem checkEntries_eq (entries : List (String × Expr)) :
    Expr.checkEntries entries = (entries.map fun (key, value) => entry key value).forM check := by
  refine checkEach_eq rfl (fun entry rest => ?_) entries
  obtain ⟨key, value⟩ := entry
  show _ = (Expr.checkEntries [(key, value)] >>= fun _ => _)
  simp only [Expr.checkEntries, bind_assoc]
  rfl

theorem checkAll_arg (function : String) (args : List Arg) :
    Arg.checkAll function args = (args.map (arg function)).forM check :=
  checkEach_eq rfl (fun _ _ => rfl) args

theorem checkAll_call (calls : List Call) :
    Call.checkAll calls = (calls.map call).forM check :=
  checkEach_eq rfl (fun _ _ => rfl) calls

theorem forM_singleton (node : Node) : [node].forM check = node.check := bind_pure_unit

/-- A node is checked for a flaw of its own, and then the nodes right below it are. -/
theorem check_eq (node : Node) :
    node.check = match node.flaw? with
      | some flaw => .error flaw
      | none => node.children.forM check := by
  match node with
  | program ⟨statements⟩ =>
      show (refuseIf _ _ >>= fun _ => statements.forM Statement.check) = _
      rw [refuseIf_bind, flaw?, children]
      split
      · rfl
      · exact (List.forM_map (m := Except Flaw) (f := check) (g := statement)).symm
  | statement (.expr value) => exact (forM_singleton (expr value)).symm
  | statement (.assign target value) =>
      show (refuseIf _ _ >>= fun _ => value.check) = _
      rw [refuseIf_bind, flaw?, children, forM_singleton]
      split <;> rfl
  | statement (.raw text) =>
      show refuseIf _ _ = _
      rw [refuseIf, flaw?, children]
      split <;> rfl
  | expr (.stream (.mk start calls)) =>
      show Expr.check _ = _
      rw [Expr.check, Stream.check, checkAll_call]
      rfl
  | expr (.combine operator operands) =>
      show Expr.check _ = _
      rw [Expr.check, refuseIf_bind, flaw?, children, checkAll_expr]
      split <;> rfl
  | expr (.negate operand) =>
      show Expr.check _ = _
      rw [Expr.check, children, forM_singleton]
      rfl
  | expr (.list items) =>
      show Expr.check _ = _
      rw [Expr.check, children, checkAll_expr]
      rfl
  | expr (.dict entries) =>
      show Expr.check _ = _
      rw [Expr.check, children, checkEntries_eq]
      rfl
  | expr (.str _) | expr (.int _) | expr (.float _) | expr (.bool _) | expr .absent
  | expr (.raw _) =>
      show Expr.check _ = _
      rw [Expr.check]
      rfl
  | entry key value =>
      show (Expr.checkEntries [(key, value)]) = _
      rw [Expr.checkEntries, Expr.checkEntries, refuseIf_bind, flaw?, children, forM_singleton]
      split
      · rfl
      · exact bind_pure_unit
  | arg function (.positional value) =>
      show Arg.check function _ = _
      rw [Arg.check, refuseIf_bind, flaw?, children, forM_singleton]
      split <;> rfl
  | arg function (.keyword name value) =>
      show Arg.check function _ = _
      rw [Arg.check, children, forM_singleton]
      rfl
  | call (.mk name args) =>
      show Call.check _ = _
      rw [Call.check, refuseIf_bind, flaw?, children, checkAll_arg]
      split <;> rfl
  | origin (.call start) =>
      show Origin.check _ = _
      rw [Origin.check, children, forM_singleton]
      rfl
  | origin (.variable name) =>
      show Origin.check _ = _
      rw [Origin.check, refuseIf, flaw?, children]
      split <;> rfl

end Node
end SignalBoard.Flow
