import LineTemplate.Proofs.BuiltTemplates

/-!
Contract: which lines name a state, and which names the states of a template have.

Owns:
- `Text.IsAsciiWord`, and `Text.IsStateWord`, which also allows the letters that differ from
  one of ASCII in case only;
- `Template.names_iff`: the lines that name a state are the state words, and it is such a
  letter exactly that makes the name of a state no word of ASCII.

Does not own: which characters differ in case only.
-/

namespace LineTemplate

namespace Text

/-- A word of unaccented letters, digits and underscores. -/
structure IsAsciiWord (text : Text) : Prop where
  nonempty : text ≠ []
  each : ∀ c ∈ text, isNameChar c = true

/-- A word of such characters and of stray letters. -/
structure IsStateWord (text : Text) : Prop where
  nonempty : text ≠ []
  each : ∀ c ∈ text, isNameChar c = true ∨ isStrayLetter c = true

/-- A text with a letter that is none of ASCII and differs from one in case only. -/
def HoldsStray (text : Text) : Prop := ∃ c ∈ text, isStrayLetter c = true

/-- State words without stray letters are the words of ASCII. -/
theorem isAsciiWord_iff (text : Text) :
    IsAsciiWord text ↔ IsStateWord text ∧ ¬HoldsStray text := by
  constructor
  · rintro ⟨nonempty, each⟩
    refine ⟨⟨nonempty, fun c member => .inl (each c member)⟩, ?_⟩
    rintro ⟨c, member, stray⟩
    have small := toNat_lt_of_isNameChar (each c member)
    rw [isStrayLetter, Bool.or_eq_true, decide_eq_true_eq, decide_eq_true_eq] at stray
    rcases stray with rfl | rfl <;> exact absurd small (by decide)
  · rintro ⟨⟨nonempty, each⟩, unstrayed⟩
    refine ⟨nonempty, fun c member => (each c member).resolve_right fun stray => ?_⟩
    exact unstrayed ⟨c, member, stray⟩

theorem isBareWord_iff (text : Text) : isBareWord text = true ↔ IsStateWord text := by
  have each : (∀ c ∈ text, isLowerWord (fold c) = true) ↔
      ∀ c ∈ text, isNameChar c = true ∨ isStrayLetter c = true :=
    forall₂_congr fun c _ => isLowerWord_fold_iff c
  rw [isBareWord, Bool.and_eq_true, List.all_eq_true, each]
  constructor
  · rintro ⟨nonempty, belongs⟩
    exact ⟨by simpa using nonempty, belongs⟩
  · rintro ⟨nonempty, belongs⟩
    exact ⟨by simpa using nonempty, belongs⟩

end Text

/-! ### Lines -/

namespace Line

theorem kind_eq_bareWord_iff (line : Line) :
    line.kind = .bareWord ↔
      line.isBlank = false ∧ Text.IsStateWord (Text.trimEnd line.text) := by
  rw [← Text.isBareWord_iff, kind]
  by_cases blank : line.isBlank = true
  · simp [blank]
  · rw [if_neg blank]
    by_cases word : Text.isBareWord (Text.trimEnd line.text) = true
    · rw [if_pos word]
      simpa [word] using blank
    · rw [if_neg word]
      split <;> simp [word]

end Line

namespace Statement

variable {judge : PatternJudge} {engine : Engine}

/-- Whatever the engine, the lines that name a state are those of the kind for it. -/
theorem exists_stateName_iff (raw : Text) :
    (∃ statement, assembleWith judge engine raw = .ok statement ∧ statement.kind = .stateName) ↔
      (Line.parse raw).kind = .bareWord := by
  constructor
  · rintro ⟨statement, assembled, isName⟩
    have line := assembleWith_eq_ok_iff.mp assembled
    unfold ofLine at line
    split at line
    · cases line
      cases isName
    · assumption
    · split at line
      · obtain ⟨expansion, -, rfl⟩ := map_eq_ok_iff.mp line
        cases isName
      · cases line
        cases isName
  · intro kind
    refine ⟨⟨.stateName, raw, []⟩, ?_, rfl⟩
    rw [assembleWith_eq_ok_iff, ofLine, kind, Line.text_parse]

/-- A line from which a state name is assembled. -/
def NamesState (judge : PatternJudge) (raw : Text) : Prop :=
  ∃ statement, assembleBy judge raw = .ok statement ∧ statement.kind = .stateName

theorem namesState_iff (judge : PatternJudge) (raw : Text) :
    NamesState judge raw ↔
      (Line.parse raw).isBlank = false ∧ Text.IsStateWord (Text.trimEnd raw) := by
  have kind := Line.kind_eq_bareWord_iff (Line.parse raw)
  rw [Line.text_parse] at kind
  exact (exists_stateName_iff raw).trans kind

end Statement

namespace Template

/-- A line names a state exactly if its content is not white space only and the line is a
state word, but for white space at its end. These are the lines of which the word is one of
ASCII, and those of which it holds a stray letter. The states of a built template have such
words as names too, or the default name. -/
theorem names_iff (judge : PatternJudge) (raw : Text) :
    (Statement.NamesState judge raw ↔
      (Line.parse raw).isBlank = false ∧ Text.IsStateWord (Text.trimEnd raw)) ∧
    ((Statement.NamesState judge raw ↔
        (Line.parse raw).isBlank = false ∧ Text.IsAsciiWord (Text.trimEnd raw)) ↔
      ¬((Line.parse raw).isBlank = false ∧ Text.IsStateWord (Text.trimEnd raw) ∧
        Text.HoldsStray (Text.trimEnd raw))) ∧
    ∀ {defaultState text : Text} {metadata : Option Metadata} {template : Template},
      buildBy judge defaultState metadata text = .ok template →
        ∀ state ∈ template.states, state.name = defaultState ∨ Text.IsStateWord state.name ∧
          (Text.IsAsciiWord state.name ↔ ¬Text.HoldsStray state.name) := by
  have named := Statement.namesState_iff judge raw
  refine ⟨named, ?_, fun built state among => ?_⟩
  · rw [named, Text.isAsciiWord_iff]
    tauto
  · refine (name_of_buildBy built state among).imp_right fun isName => ?_
    have word : Text.IsStateWord state.name := (Text.isBareWord_iff _).mp isName.word
    exact ⟨word, by rw [Text.isAsciiWord_iff, and_iff_right word]⟩

/-- A state that is named by a word with white space behind it. -/
theorem names_of_sample_text :
    (Statement.assembleBy Pattern.judge "Up_2 ".toList =
          .ok ⟨.stateName, "Up_2 ".toList, []⟩ ∧
        buildBy Pattern.judge startState none "Up_2 \na b".toList =
          .ok ⟨none, [], [⟨"Up_2".toList, ["  ^a b".toList]⟩]⟩) ∧
      ((Line.parse "Up_2 ".toList).isBlank = false ∧
        Text.IsStateWord (Text.trimEnd "Up_2 ".toList)) ∧
      ("Up_2".toList = startState ∨ Text.IsStateWord "Up_2".toList ∧
        (Text.IsAsciiWord "Up_2".toList ↔ ¬Text.HoldsStray "Up_2".toList)) :=
  have assembled : Statement.assembleBy Pattern.judge "Up_2 ".toList =
      .ok ⟨.stateName, "Up_2 ".toList, []⟩ :=
    eq_ok_of_toOption (by decide +kernel)
  have built : buildBy Pattern.judge startState none "Up_2 \na b".toList =
      .ok ⟨none, [], [⟨"Up_2".toList, ["  ^a b".toList]⟩]⟩ := eq_ok_of_toOption (by decide +kernel)
  have names := names_iff Pattern.judge "Up_2 ".toList
  ⟨⟨assembled, built⟩, names.1.mp ⟨_, assembled, rfl⟩,
    names.2.2 built ⟨"Up_2".toList, ["  ^a b".toList]⟩ (by simp)⟩

/-- The long s names a state, although it is no letter of ASCII. -/
theorem stray_letter_names_state :
    Statement.assemble "\u017F".toList = .ok ⟨.stateName, "\u017F".toList, []⟩ ∧
      build startState none "\u017F\na b".toList =
        .ok ⟨none, [], [⟨"\u017F".toList, ["  ^a b".toList]⟩]⟩ ∧
      ¬Text.IsAsciiWord (Text.trimEnd "\u017F".toList) ∧
      "\u017F".toList ≠ startState ∧ ¬Text.IsAsciiWord "\u017F".toList := by
  have stray : ¬Text.IsAsciiWord "\u017F".toList := fun word =>
    absurd (word.each '\u017F' (by decide)) (by decide)
  exact ⟨eq_ok_of_toOption (by decide +kernel), eq_ok_of_toOption (by decide +kernel), stray,
    by decide, stray⟩

end Template

end LineTemplate
