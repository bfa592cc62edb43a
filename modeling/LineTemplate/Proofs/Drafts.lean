import LineTemplate.Proofs.Expansion
import LineTemplate.Template.Builder

/-!
Contract: the lines that a draft takes in, one after another.

Owns:
- that a draft takes lines in when all of them are assembled and every statement is
  added to what the ones before it made;
- that statements are those of the lines in their places;
- what a template is made of that is built.

Does not own: what adding a statement does to a draft.
-/

namespace LineTemplate

/-- All lines are assembled, each to the statement in its place. -/
theorem forall₂_of_mapM {assembler : Assembler} {lines : List Text} {statements : List Statement}
    (assembled : lines.mapM assembler = .ok statements) :
    List.Forall₂ (fun line statement => assembler line = .ok statement) lines statements := by
  induction lines generalizing statements with
  | nil =>
      cases assembled
      exact .nil
  | cons line more inductionHypothesis =>
      rw [List.mapM_cons] at assembled
      obtain ⟨statement, first, rest⟩ := bind_eq_ok_iff.mp assembled
      obtain ⟨others, later, same⟩ := bind_eq_ok_iff.mp rest
      cases same
      exact .cons first (inductionHypothesis later)

theorem mem_iff_of_forall₂ {assembler : Assembler} {lines : List Text}
    {statements : List Statement} {statement : Statement}
    (assembled : List.Forall₂ (fun line statement => assembler line = .ok statement) lines
      statements) :
    statement ∈ statements ↔ ∃ line ∈ lines, assembler line = .ok statement := by
  induction assembled with
  | nil => simp
  | cons first _ inductionHypothesis => simp [first, inductionHypothesis, eq_comm]

theorem exists_statement_of_forall₂ {assembler : Assembler} {lines : List Text}
    {statements : List Statement}
    (assembled : List.Forall₂ (fun line statement => assembler line = .ok statement) lines
      statements) {line : Text} (among : line ∈ lines) :
    ∃ statement, assembler line = .ok statement := by
  induction assembled with
  | nil => cases among
  | cons first _ inductionHypothesis =>
      rcases List.mem_cons.mp among with rfl | later
      · exact ⟨_, first⟩
      · exact inductionHypothesis later

namespace Draft

variable {assembler : Assembler} {defaultState : Text}

theorem addLines_cons {draft : Draft} {number : Nat} {line : Text} {more : List Text}
    {statement : Statement} (assembled : assembler line = .ok statement) :
    draft.addLines assembler defaultState number (line :: more) =
      draft.add defaultState statement >>= fun next =>
        next.addLines assembler defaultState (number + 1) more := by
  rw [addLines, assembled]
  dsimp only
  cases draft.add defaultState statement with
  | error cause => rfl
  | ok next => rfl

theorem addLines_eq_ok {draft final : Draft} {number : Nat} {lines : List Text}
    (taken : draft.addLines assembler defaultState number lines = .ok final) :
    ∃ statements, lines.mapM assembler = .ok statements ∧
      statements.foldlM (add defaultState) draft = .ok final := by
  induction lines generalizing draft number with
  | nil => exact ⟨[], rfl, taken⟩
  | cons line more inductionHypothesis =>
      cases assembled : assembler line with
      | error cause =>
          rw [addLines, assembled] at taken
          cases taken
      | ok statement =>
          rw [addLines_cons assembled] at taken
          obtain ⟨next, added, rest⟩ := bind_eq_ok_iff.mp taken
          obtain ⟨statements, all, folded⟩ := inductionHypothesis rest
          refine ⟨statement :: statements, ?_, ?_⟩
          · rw [List.mapM_cons, assembled, all]
            rfl
          · rw [List.foldlM_cons, added]
            exact folded

end Draft

namespace Template

theorem buildWith_eq_ok {assembler : Assembler} {defaultState text : Text}
    {metadata : Option Metadata} {template : Template}
    (built : buildWith assembler defaultState metadata text = .ok template) :
    ∃ draft, Draft.empty.addLines assembler defaultState 1 (Text.lines text) = .ok draft ∧
      template = ⟨metadata, draft.declared, draft.states⟩ := by
  unfold buildWith at built
  split at built
  · cases built
  · rename_i draft taken
    split at built
    · cases built
      exact ⟨draft, taken, rfl⟩
    · cases built

end Template

end LineTemplate
