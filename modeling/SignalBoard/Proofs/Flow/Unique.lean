/-
# Plain programs are told by their texts

Statements stand on lines of their own, and neither a name nor an expression runs on past the
end of a line: a line feed inside a literal is escaped. So the lines of a plain program are read
back one by one, and two plain programs with the same text are the same program.
-/

import SignalBoard.Proofs.Flow.Readable

namespace SignalBoard.Flow

namespace Reader

/-- A statement is read back at the end of its line. -/
theorem statement_chars {written : Statement} (plain : written.plain = true) {fuel : Nat}
    (enough : 2 * (sizeOf written + 4) ≤ fuel) (rest : List Char)
    (lineEnds : rest = [] ∨ ∃ others, rest = '\n' :: others) :
    statement fuel (written.chars ++ rest) = some (written, rest) := by
  have reads := reads_expr fuel
  have ends : Ends rest := by
    rcases lineEnds with rfl | ⟨others, rfl⟩
    · exact ends_nil
    · exact ends_cons (by decide) others
  cases written with
  | expr value =>
      simp only [Statement.plain] at plain
      simp only [Statement.expr.sizeOf_spec] at enough
      rw [Statement.chars, statement, reads.read value plain (by omega) rest ends]
      rcases lineEnds with rfl | ⟨others, rfl⟩ <;> cases reference? value <;> simp
  | assign target value =>
      simp only [Statement.plain, Bool.and_eq_true] at plain
      simp only [Statement.assign.sizeOf_spec] at enough
      have target' := reads.read_variable plain.1 (by omega)
        (ends_assignment (value.chars ++ rest))
      have value' := reads.read value plain.2 (by omega) rest ends
      have whole : (Statement.assign target value).chars ++ rest =
          target.toList ++ ' ' :: '=' :: ' ' :: (value.chars ++ rest) := by
        simp [Statement.chars]
      rw [whole, statement, target']
      simp [reference?, value']
  | raw text => cases plain

/-- The statements of a plain program are read back. -/
theorem statements_chars {written : List Statement} (plain : ∀ s ∈ written, s.plain = true)
    (fuel : Nat) {n : Nat} (enough : 2 * (sizeOf written + 4) ≤ fuel)
    (lines : written.length < n) :
    statements fuel n (joined ['\n'] (written.map Statement.chars)) = some written := by
  induction written generalizing n with
  | nil =>
      obtain ⟨n, rfl⟩ := Nat.exists_eq_succ_of_ne_zero (Nat.ne_of_gt lines)
      cases fuel with
      | zero => rfl
      | succ fuel => rfl
  | cons first others ih =>
      obtain ⟨n, rfl⟩ := Nat.exists_eq_succ_of_ne_zero (Nat.ne_zero_of_lt lines)
      simp only [List.cons.sizeOf_spec] at enough
      have later := ih (fun s member => plain s (.tail _ member)) (by omega) (n := n)
        (by simpa using lines)
      have small : 2 * (sizeOf first + 4) ≤ fuel := by omega
      have read := statement_chars (plain first List.mem_cons_self) small
      rw [List.map_cons, joined_cons]
      cases others with
      | nil =>
          have here := read [] (.inl rfl)
          rw [List.append_nil] at here
          simp [statements, here]
      | cons second others =>
          rw [List.map_cons, joined_cons] at later
          have here := read _ (.inr ⟨second.chars ++
            (others.map Statement.chars).flatMap (['\n'] ++ ·), rfl⟩)
          simp only [List.map_cons, List.flatMap_cons, List.cons_append, List.nil_append]
            at here later ⊢
          simp [statements, here, later]

/-- Plain statements with the same lines are the same: one reader, with fuel for the larger of
the two, gives both back. -/
theorem eq_of_lines_eq {first second : List Statement} (plain : ∀ s ∈ first, s.plain = true)
    (plain' : ∀ s ∈ second, s.plain = true)
    (same : joined ['\n'] (first.map Statement.chars) =
      joined ['\n'] (second.map Statement.chars)) : first = second := by
  let size := sizeOf first + sizeOf second
  have lengths := length_lt_sizeOf first
  have lengths' := length_lt_sizeOf second
  have read := statements_chars plain (2 * (size + 4)) (n := size) (by omega) (by omega)
  have read' := statements_chars plain' (2 * (size + 4)) (n := size) (by omega) (by omega)
  rw [same, read'] at read
  exact (Option.some.inj read).symm

end Reader

/-- Plain programs with the same text are the same, statement by statement and node by node. -/
theorem Program.eq_of_text_eq {first second : Program} (plain : first.plain = true)
    (plain' : second.plain = true) (same : first.text = second.text) : first = second := by
  obtain ⟨statements⟩ := first
  obtain ⟨statements'⟩ := second
  have chars : joined ['\n'] (statements.map Statement.chars) =
      joined ['\n'] (statements'.map Statement.chars) := by
    simpa [Program.text, Program.chars] using congrArg String.toList same
  have equal : statements = statements' :=
    Reader.eq_of_lines_eq (List.all_eq_true.mp plain) (List.all_eq_true.mp plain') chars
  rw [equal]

/-- A call with an argument, a method on it and a grouped condition, put together step by step
and written out. -/
theorem Program.eq_of_text_eq_alert :
    (⟨[.assign "cpu" (.stream (((Stream.ofCall ((Call.named "data").pass (.str "cpu\n")))).method
        (Call.named "mean"))),
      .expr (Expr.all [.negate (.stream (.ofVariable "cpu")),
        Expr.between ">" (.stream (.ofVariable "cpu")) (.int (-5))])]⟩ : Program) =
    ⟨[.assign "cpu" (.stream (.mk (.call (.mk "data" [.positional (.str "cpu\n")]))
        [.mk "mean" []])),
      .expr (.combine "and" [.negate (.stream (.mk (.variable "cpu") [])),
        .combine ">" [.stream (.mk (.variable "cpu") []), .int (-5)]])]⟩ :=
  Program.eq_of_text_eq (by decide) (by decide) rfl

end SignalBoard.Flow
