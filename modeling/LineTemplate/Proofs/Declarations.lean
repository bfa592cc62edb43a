import LineTemplate.Proofs.Captures
import LineTemplate.Proofs.Drafts
import LineTemplate.Template.Grouping

/-!
Contract: what a draft declares, against what the statements added to it capture.

Owns:
- the declaration of a name, and how one more capture changes it;
- that captures of one name have one pattern where none conflicts;
- that declaring captures one by one gives their declarations, up to the first that
  conflicts with an earlier one;
- that taking lines in gives the declarations of their captures, up to the first fault.

Does not own: the order of the faults of a text.
-/

namespace LineTemplate

/-! ### Declarations of captures -/

namespace Statement

variable {name : Text} {earlier : List Variable} {next : Variable}

/-- The declaration of a name that was captured. -/
def declarationOf? (captured : List Variable) (name : Text) : Option Variable :=
  (capturesOf name captured).head?.map fun first =>
    ⟨name, first.pattern, ((capturesOf name captured).flatMap Variable.options).eraseDups⟩

theorem declarationsOf_eq (captured : List Variable) :
    declarationsOf captured =
      (captured.map Variable.name).eraseDups.filterMap (declarationOf? captured) := rfl

theorem name_of_declarationOf? {captured : List Variable} {known : Variable}
    (declared : declarationOf? captured name = some known) : known.name = name := by
  obtain ⟨first, -, rfl⟩ := Option.map_eq_some_iff.mp declared
  rfl

theorem capturesOf_eq_nil_iff {captured : List Variable} :
    capturesOf name captured = [] ↔ name ∉ captured.map Variable.name := by
  simp [capturesOf, List.filter_eq_nil_iff]

theorem declarationOf?_eq_none_iff {captured : List Variable} :
    declarationOf? captured name = none ↔ name ∉ captured.map Variable.name := by
  rw [declarationOf?, Option.map_eq_none_iff, List.head?_eq_none_iff, capturesOf_eq_nil_iff]

theorem capturesOf_concat (earlier : List Variable) (next : Variable) :
    capturesOf next.name (earlier ++ [next]) = capturesOf next.name earlier ++ [next] := by
  simp [capturesOf]

theorem capturesOf_concat_of_ne (other : next.name ≠ name) :
    capturesOf name (earlier ++ [next]) = capturesOf name earlier := by
  simp [capturesOf, other]

theorem declarationOf?_concat_of_ne (other : next.name ≠ name) :
    declarationOf? (earlier ++ [next]) name = declarationOf? earlier name := by
  rw [declarationOf?, capturesOf_concat_of_ne other, declarationOf?]

/-- The first capture of a name is declared as it is. -/
theorem declarationOf?_concat_of_none (new : declarationOf? earlier next.name = none)
    (distinct : next.options.Nodup) : declarationOf? (earlier ++ [next]) next.name = some next := by
  have none : capturesOf next.name earlier = [] :=
    capturesOf_eq_nil_iff.mpr (declarationOf?_eq_none_iff.mp new)
  rw [declarationOf?, capturesOf_concat, none]
  simp [eraseDups_of_nodup distinct]

/-- A further capture of a name adds its options to the declaration. -/
theorem declarationOf?_concat_of_some {known : Variable}
    (declared : declarationOf? earlier next.name = some known) :
    declarationOf? (earlier ++ [next]) next.name =
      some (Draft.mergeOptions known next.options) := by
  obtain ⟨first, found, rfl⟩ := Option.map_eq_some_iff.mp declared
  have head : (capturesOf next.name earlier ++ [next]).head? = some first := by
    rw [List.head?_append, found, Option.some_or]
  rw [declarationOf?, capturesOf_concat, head, Option.map_some, Option.some_inj]
  rw [Draft.mergeOptions, Variable.foldl_addOption_eq rfl, List.flatMap_append,
    List.flatMap_singleton]

theorem filterMap_declarationOf?_concat {names : List Text} (absent : next.name ∉ names) :
    names.filterMap (declarationOf? (earlier ++ [next])) =
      names.filterMap (declarationOf? earlier) :=
  List.filterMap_congr fun _ among =>
    declarationOf?_concat_of_ne fun same => absent (same ▸ among)

theorem name_ne_of_mem_filterMap {names : List Text} (absent : name ∉ names) :
    ∀ known ∈ names.filterMap (declarationOf? earlier), known.name ≠ name := by
  rintro known among rfl
  obtain ⟨other, member, declared⟩ := List.mem_filterMap.mp among
  exact absent (name_of_declarationOf? declared ▸ member)

/-- The conflict of a capture with the first earlier one of its name. -/
def conflict? (earlier : List Variable) (next : Variable) : Option TemplateError :=
  (capturesOf next.name earlier).head?.bind fun first =>
    if first.pattern = next.pattern then none
    else some (.duplicateVariable next.name first.pattern next.pattern)

theorem captureFault?_cons (earlier : List Variable) (next : Variable) (more : List Variable) :
    captureFault? earlier (next :: more) =
      (conflict? earlier next).or (captureFault? (earlier ++ [next]) more) := by
  rw [captureFault?, conflict?]
  cases (capturesOf next.name earlier).head? with
  | none => rfl
  | some first =>
      rw [Option.bind_some]
      dsimp only
      split
      · rfl
      · rfl

theorem conflict?_eq_none_iff :
    conflict? earlier next = none ↔
      ∀ first, (capturesOf next.name earlier).head? = some first →
        first.pattern = next.pattern := by
  rw [conflict?]
  cases (capturesOf next.name earlier).head? with
  | none => simp
  | some first => simp

/-! ### Agreement -/

/-- Captures of one name have one pattern. -/
def Agree (captured : List Variable) : Prop :=
  ∀ single ∈ captured, ∀ other ∈ captured, other.name = single.name →
    other.pattern = single.pattern

theorem agree_nil : Agree [] := by simp [Agree]

theorem head?_capturesOf_of_mem {captured : List Variable} {single : Variable}
    (among : single ∈ captured) (same : single.name = name) :
    ∃ first ∈ captured, first.name = name ∧
      (capturesOf name captured).head? = some first := by
  cases found : (capturesOf name captured).head? with
  | none =>
      rw [List.head?_eq_none_iff, capturesOf_eq_nil_iff] at found
      exact absurd (List.mem_map.mpr ⟨single, among, same⟩) found
  | some first =>
      have filtered := List.mem_filter.mp (List.mem_of_head? found)
      exact ⟨first, filtered.1, by simpa using filtered.2, rfl⟩

/-- Where earlier captures agree, a capture that does not conflict with the first one of
its name conflicts with none. -/
theorem conflict?_eq_none_iff_of_agree (agree : Agree earlier) :
    conflict? earlier next = none ↔
      ∀ other ∈ earlier, other.name = next.name → other.pattern = next.pattern := by
  rw [conflict?_eq_none_iff]
  constructor
  · intro free other among same
    obtain ⟨first, member, named, found⟩ := head?_capturesOf_of_mem among same
    rw [← free first found]
    exact agree first member other among (same.trans named.symm)
  · intro free first found
    have filtered := List.mem_filter.mp (List.mem_of_head? found)
    exact free first filtered.1 (by simpa using filtered.2)

theorem Agree.concat (agree : Agree earlier) (free : conflict? earlier next = none) :
    Agree (earlier ++ [next]) := by
  have fits := (conflict?_eq_none_iff_of_agree agree).mp free
  intro single among other otherAmong same
  rw [List.mem_append, List.mem_singleton] at among otherAmong
  rcases among with among | rfl
  · rcases otherAmong with otherAmong | rfl
    · exact agree single among other otherAmong same
    · exact (fits single among same.symm).symm
  · rcases otherAmong with otherAmong | rfl
    · exact fits other otherAmong same
    · rfl

theorem Agree.append {captured : List Variable} (agree : Agree earlier)
    (free : captureFault? earlier captured = none) : Agree (earlier ++ captured) := by
  induction captured generalizing earlier with
  | nil => rwa [List.append_nil]
  | cons next more inductionHypothesis =>
      rw [captureFault?_cons, Option.or_eq_none_iff] at free
      rw [List.append_cons]
      exact inductionHypothesis (agree.concat free.1) free.2

end Statement

/-- Without a fault, what lines capture agrees. -/
theorem agree_of_firstFault? {assembler : Assembler} {earlier : List Variable} {number : Nat}
    {lines : List Text} (agree : Statement.Agree earlier)
    (free : firstFault? assembler earlier number lines = none) :
    Statement.Agree (earlier ++ lines.flatMap (lineCaptured assembler)) := by
  induction lines generalizing earlier number with
  | nil => rwa [List.flatMap_nil, List.append_nil]
  | cons line more inductionHypothesis =>
      rw [firstFault?, Option.or_eq_none_iff] at free
      rw [List.flatMap_cons, ← List.append_assoc]
      refine inductionHypothesis ?_ free.2
      have first := free.1
      unfold lineFault? at first
      unfold lineCaptured
      cases assembled : assembler line with
      | error cause =>
          rw [assembled] at first
          cases first
      | ok statement =>
          rw [assembled] at first
          exact agree.append first

/-! ### Declaring -/

namespace Draft

open Statement

theorem declareIn_append {next : Variable} {before : List Variable} (more : List Variable)
    (others : ∀ known ∈ before, known.name ≠ next.name) :
    declareIn next (before ++ more) = (declareIn next more).map fun rest => before ++ rest := by
  induction before with
  | nil =>
      rw [List.nil_append]
      cases declareIn next more <;> rfl
  | cons known before inductionHypothesis =>
      obtain ⟨other, others⟩ := List.forall_mem_cons.mp others
      rw [List.cons_append, declareIn, if_neg other, inductionHypothesis others]
      cases declareIn next more <;> rfl

/-- A name that is new is declared after all others. -/
theorem declareIn_of_new {earlier : List Variable} {next : Variable}
    (new : next.name ∉ earlier.map Variable.name) (distinct : next.options.Nodup) :
    declareIn next (declarationsOf earlier) = .ok (declarationsOf (earlier ++ [next])) := by
  have absent : next.name ∉ (earlier.map Variable.name).eraseDups := by
    rwa [List.mem_eraseDups]
  have others : ∀ known ∈ declarationsOf earlier, known.name ≠ next.name :=
    name_ne_of_mem_filterMap absent
  have first : declarationOf? (earlier ++ [next]) next.name = some next :=
    declarationOf?_concat_of_none (declarationOf?_eq_none_iff.mpr new) distinct
  have longer : declarationsOf (earlier ++ [next]) = declarationsOf earlier ++ [next] := by
    rw [declarationsOf_eq, declarationsOf_eq, List.map_append, List.map_singleton,
      eraseDups_concat_of_not_mem new, List.filterMap_append,
      filterMap_declarationOf?_concat absent, List.filterMap_cons_some first, List.filterMap_nil]
  rw [← List.append_nil (declarationsOf earlier), declareIn_append [] others, longer]
  rfl

/-- A name that is declared keeps its place, if the patterns are the same. -/
theorem declareIn_of_declared {earlier : List Variable} {next known : Variable}
    (declared : declarationOf? earlier next.name = some known) :
    declareIn next (declarationsOf earlier) =
      if known.pattern = next.pattern then .ok (declarationsOf (earlier ++ [next]))
      else .error (.duplicateVariable next.name known.pattern next.pattern) := by
  have captured : next.name ∈ earlier.map Variable.name := by
    by_contra new
    rw [declarationOf?_eq_none_iff.mpr new] at declared
    cases declared
  -- The name stands once among the names, so no declaration but its own changes.
  obtain ⟨before, after, names⟩ := List.append_of_mem (List.mem_eraseDups.mpr captured)
  have unrepeated := nodup_eraseDups (earlier.map Variable.name)
  rw [names] at unrepeated
  obtain ⟨-, notAfter, notBefore⟩ := List.nodup_append.mp unrepeated
  have absentBefore : next.name ∉ before := fun among =>
    notBefore _ among _ List.mem_cons_self rfl
  have absentAfter : next.name ∉ after := (List.nodup_cons.mp notAfter).1
  have given : declarationsOf earlier = before.filterMap (declarationOf? earlier) ++
      known :: after.filterMap (declarationOf? earlier) := by
    rw [declarationsOf_eq, names, List.filterMap_append, List.filterMap_cons_some declared]
  have merged : declarationsOf (earlier ++ [next]) = before.filterMap (declarationOf? earlier) ++
      mergeOptions known next.options :: after.filterMap (declarationOf? earlier) := by
    rw [declarationsOf_eq, List.map_append, List.map_singleton, eraseDups_concat_of_mem captured,
      names, List.filterMap_append,
      List.filterMap_cons_some (declarationOf?_concat_of_some declared),
      filterMap_declarationOf?_concat absentBefore, filterMap_declarationOf?_concat absentAfter]
  rw [given, merged, declareIn_append _ (name_ne_of_mem_filterMap absentBefore), declareIn,
    if_pos (name_of_declarationOf? declared)]
  split
  · rfl
  · rfl

/-- One more capture is declared beside or in the declarations of earlier ones, unless it
conflicts with them. -/
theorem declareIn_declarationsOf {earlier : List Variable} {next : Variable}
    (distinct : next.options.Nodup) :
    declareIn next (declarationsOf earlier) =
      (conflict? earlier next).elim (.ok (declarationsOf (earlier ++ [next]))) .error := by
  cases declared : declarationOf? earlier next.name with
  | none =>
      have new := declarationOf?_eq_none_iff.mp declared
      rw [declareIn_of_new new distinct, conflict?, capturesOf_eq_nil_iff.mpr new]
      rfl
  | some known =>
      rw [declareIn_of_declared declared]
      obtain ⟨first, found, rfl⟩ := Option.map_eq_some_iff.mp declared
      rw [conflict?, found, Option.bind_some]
      dsimp only
      split
      · rfl
      · rfl

theorem declareAll_cons (declared : List Variable) (next : Variable) (more : List Variable) :
    declareAll declared (next :: more) =
      declareIn next declared >>= fun known => declareAll known more :=
  List.foldlM_cons

/-- Captures are declared up to the first that conflicts with an earlier one. -/
theorem declareAll_declarationsOf {earlier captured : List Variable}
    (distinct : ∀ next ∈ captured, next.options.Nodup) :
    declareAll (declarationsOf earlier) captured =
      (captureFault? earlier captured).elim
        (.ok (declarationsOf (earlier ++ captured))) .error := by
  induction captured generalizing earlier with
  | nil =>
      rw [List.append_nil]
      rfl
  | cons next more inductionHypothesis =>
      obtain ⟨single, distinct⟩ := List.forall_mem_cons.mp distinct
      rw [declareAll_cons, declareIn_declarationsOf single, captureFault?_cons]
      cases conflict? earlier next with
      | some fault => rfl
      | none =>
          rw [List.append_cons earlier next more]
          exact inductionHypothesis distinct

end Draft

/-! ### Lines -/

/-- All statements that an assembler makes are well formed. -/
def Assembler.WellFormed (assembler : Assembler) : Prop :=
  ∀ line statement, assembler line = .ok statement → statement.WellFormed

theorem Statement.wellFormed_assembleBy (judge : PatternJudge) :
    Assembler.WellFormed (assembleBy judge) := fun _ _ =>
  wellFormed_of_assembleWith

namespace Draft

open Statement

/-- Adding a statement declares what it captures. -/
theorem map_declared_add {statement : Statement} (wellFormed : statement.WellFormed)
    (defaultState : Text) (draft : Draft) :
    (draft.add defaultState statement).map declared =
      declareAll draft.declared statement.captured := by
  unfold add
  cases kind : statement.kind with
  | blank =>
      rw [wellFormed.onlyRules (by simp [kind])]
      rfl
  | stateName =>
      rw [wellFormed.onlyRules (by simp [kind])]
      rfl
  | rule =>
      cases declareAll draft.declared statement.captured with
      | error cause => rfl
      | ok declared => rfl

/-- Lines declare what they capture, up to the first fault. -/
theorem map_declared_addLines {assembler : Assembler} (wellFormed : assembler.WellFormed)
    (defaultState : Text) {draft : Draft} {earlier : List Variable}
    (same : draft.declared = declarationsOf earlier) (number : Nat) (lines : List Text) :
    (draft.addLines assembler defaultState number lines).map declared =
      (firstFault? assembler earlier number lines).elim
        (.ok (declarationsOf (earlier ++ lines.flatMap (lineCaptured assembler)))) .error := by
  -- The draft has declared the captures of the lines before these.
  induction lines generalizing draft earlier number with
  | nil =>
      rw [List.flatMap_nil, List.append_nil, ← same]
      rfl
  | cons line more inductionHypothesis =>
      rw [firstFault?, lineFault?, List.flatMap_cons, ← List.append_assoc, lineCaptured]
      cases assembled : assembler line with
      | error cause =>
          rw [addLines, assembled]
          rfl
      | ok statement =>
          have added := map_declared_add (wellFormed line statement assembled) defaultState draft
          rw [same, declareAll_declarationsOf (wellFormed line statement assembled).options] at added
          rw [addLines_cons assembled]
          dsimp only
          cases fault : captureFault? earlier statement.captured with
          | some fault =>
              rw [fault] at added
              cases outcome : draft.add defaultState statement with
              | error cause =>
                  rw [outcome] at added
                  cases added
                  rfl
              | ok next =>
                  rw [outcome] at added
                  cases added
          | none =>
              rw [fault] at added
              cases outcome : draft.add defaultState statement with
              | error cause =>
                  rw [outcome] at added
                  cases added
              | ok next =>
                  rw [outcome] at added
                  exact inductionHypothesis (Except.ok.inj added) (number + 1)

end Draft

end LineTemplate
