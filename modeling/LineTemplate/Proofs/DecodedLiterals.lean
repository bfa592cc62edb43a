import LineTemplate.Proofs.Probes
import LineTemplate.Proofs.Resemblance

/-!
Contract: literal text, read back from its regular expression.

Owns:
- `Literal.ConsistsOf`, the characters and the classes of runs that a text consists of;
- that decoding gives back what a text consists of;
- `Literal.encode_decodes`: two texts have one encoding exactly if they consist of the same.

Does not own: which other texts the regular expression of a literal text matches.

What decoding turns on is that no unit is written with a plus sign in front, not even that of
a plus sign: it is escaped. So a plus sign after a space belongs to the space, whatever the
text goes on with.
-/

namespace LineTemplate

namespace Literal

/-! ### What a text consists of -/

/-- The class of a run of white space. -/
inductive RunClass : (run : Text) → LiteralUnit → Prop where
  | oneSpace : RunClass [' '] .oneSpace
  | severalSpaces (more : Nat) : RunClass (List.replicate (more + 2) ' ') .severalSpaces
  | whiteSpace {run : Text} {c : Char}
      (member : c ∈ run)
      (other : c ≠ ' ') :
      RunClass run .whiteSpace

/-- The solid characters of a text in their order and, between them, the class of each run of
white space that is not part of a longer one. -/
inductive ConsistsOf : Text → List LiteralUnit → Prop where
  | nil : ConsistsOf [] []
  | char {c : Char} {rest : Text} {units : List LiteralUnit}
      (solid : ¬Text.isBlank c)
      (consists : ConsistsOf rest units) :
      ConsistsOf (c :: rest) (.char c :: units)
  | run {run rest : Text} {unit : LiteralUnit} {units : List LiteralUnit}
      (blank : ∀ c ∈ run, Text.isBlank c)
      (whole : ∀ c, rest.head? = some c → ¬Text.isBlank c)
      (isClass : RunClass run unit)
      (consists : ConsistsOf rest units) :
      ConsistsOf (run ++ rest) (unit :: units)

theorem runClass_runUnit {run : Text} (filled : run ≠ []) : RunClass run (runUnit run) := by
  unfold runUnit
  split
  · rename_i one
    rw [one]
    exact .oneSpace
  · rename_i notOne
    split
    · rename_i spaces
      rw [List.all_eq_true] at spaces
      have same : run = List.replicate run.length ' ' :=
        List.eq_replicate_of_mem fun c member => of_decide_eq_true (spaces c member)
      obtain ⟨count, length⟩ :=
        Nat.exists_eq_add_one_of_ne_zero (mt List.length_eq_zero_iff.mp filled)
      cases count with
      | zero =>
          rw [length] at same
          exact absurd same notOne
      | succ more =>
          rw [same, length]
          exact .severalSpaces more
    · rename_i others
      simp only [List.all_eq_true, decide_eq_true_eq, not_forall] at others
      obtain ⟨c, member, other⟩ := others
      exact .whiteSpace member other

theorem RunClass.ne_nil {run : Text} {unit : LiteralUnit} (isClass : RunClass run unit) :
    run ≠ [] := by
  cases isClass with
  | oneSpace => simp
  | severalSpaces more => simp
  | whiteSpace member other => exact List.ne_nil_of_mem member

theorem RunClass.runUnit_eq {run : Text} {unit : LiteralUnit} (isClass : RunClass run unit) :
    runUnit run = unit := by
  cases isClass with
  | oneSpace => rfl
  | severalSpaces more =>
      have several : List.replicate (more + 2) ' ' ≠ [' '] := by simp [List.replicate_succ]
      rw [runUnit, if_neg several, if_pos (by simp)]
  | @whiteSpace run c member other =>
      have notOne : run ≠ [' '] := by
        rintro rfl
        exact other (List.mem_singleton.mp member)
      have notAll : ¬(run.all fun c => c = ' ') = true := by
        rw [List.all_eq_true]
        exact fun spaces => other (of_decide_eq_true (spaces c member))
      rw [runUnit, if_neg notOne, if_neg notAll]

theorem consistsOf_units (text : Text) : ConsistsOf text (units text) := by
  fun_induction units text with
  | case1 => exact .nil
  | case2 first rest blank inductionHypothesis =>
      have whole : ∀ c, (rest.dropWhile Text.isBlank).head? = some c → ¬Text.isBlank c := by
        intro c begins
        have stops := List.head?_dropWhile_not Text.isBlank rest
        rw [begins] at stops
        simpa using stops
      have inside : ∀ c ∈ first :: rest.takeWhile Text.isBlank, Text.isBlank c = true := by
        rw [List.forall_mem_cons]
        exact ⟨blank, fun c member => List.mem_takeWhile_imp member⟩
      have consists := ConsistsOf.run inside whole (runClass_runUnit (List.cons_ne_nil _ _))
        inductionHypothesis
      rwa [List.cons_append, List.takeWhile_append_dropWhile] at consists
  | case3 first rest solid inductionHypothesis =>
      exact .char solid inductionHypothesis

/-- A text consists of its units and of nothing else. -/
theorem ConsistsOf.units_eq {text : Text} {others : List LiteralUnit}
    (consists : ConsistsOf text others) : units text = others := by
  induction consists with
  | nil => rw [units]
  | @char c rest others solid consists inductionHypothesis =>
      rw [units, if_neg solid, inductionHypothesis]
  | @run run rest unit others blank whole isClass consists inductionHypothesis =>
      have known := isClass.runUnit_eq
      obtain ⟨first, more, rfl⟩ := List.exists_cons_of_ne_nil isClass.ne_nil
      rw [List.forall_mem_cons] at blank
      obtain ⟨taken, left⟩ := takeWhile_dropWhile_run blank.2 whole
      rw [List.cons_append, units, if_pos blank.1, taken, left, known, inductionHypothesis]

theorem consistsOf_iff {text : Text} {others : List LiteralUnit} :
    ConsistsOf text others ↔ units text = others := by
  constructor
  · exact ConsistsOf.units_eq
  · rintro rfl
    exact consistsOf_units text

/-! ### Decoding -/

/-- Nothing that is put together of units begins with a plus sign. -/
theorem head?_flatMap_unitPattern_ne (units : List LiteralUnit) :
    (units.flatMap unitPattern).head? ≠ some '+' := by
  cases units with
  | nil => simp
  | cons unit units =>
      rw [List.flatMap_cons]
      cases unit with
      | char c =>
          rw [unitPattern, escapeChar]
          split
          · simp
          · rename_i plain
            intro begins
            have same : c = '+' := Option.some.inj begins
            rw [same] at plain
            exact plain (by decide)
      | oneSpace => simp [unitPattern]
      | severalSpaces => simp [unitPattern]
      | whiteSpace => simp [unitPattern]

theorem decode_escapeChar_append {c : Char} (solid : ¬Text.isBlank c) (rest : Text) :
    decode (escapeChar c ++ rest) = (decode rest).map fun units => .char c :: units := by
  rw [escapeChar]
  split
  · rename_i isMeta
    have notShorthand : c ≠ 's' := by
      rintro rfl
      exact absurd isMeta (by decide)
    show decode ('\\' :: c :: rest) = _
    rw [decode, if_pos isMeta]
    exact fun _ same => absurd same notShorthand
  · rename_i plain
    have notBackslash : c ≠ '\\' := by
      rintro rfl
      exact plain (by decide)
    have notSpace : c ≠ ' ' := by
      rintro rfl
      exact solid (by decide)
    show decode (c :: rest) = _
    rw [decode]
    · simp [plain, solid]
    · exact fun _ same => absurd same notBackslash
    · exact fun _ _ same => absurd same notBackslash
    · exact fun _ same => absurd same notSpace
    · exact fun same => absurd same notSpace

/-- The class of a run is told from what the text goes on with. -/
theorem RunClass.decode_append {run rest : Text} {unit : LiteralUnit}
    (isClass : RunClass run unit) (begins : rest.head? ≠ some '+') :
    decode (unitPattern unit ++ rest) = (decode rest).map fun units => unit :: units := by
  cases isClass with
  | oneSpace =>
      show decode (' ' :: rest) = _
      rw [decode]
      rintro more rfl
      exact begins rfl
  | severalSpaces more => rw [unitPattern, List.cons_append, List.singleton_append, decode]
  | whiteSpace member other => rfl

theorem ConsistsOf.decode_flatMap {text : Text} {units : List LiteralUnit}
    (consists : ConsistsOf text units) : decode (units.flatMap unitPattern) = some units := by
  induction consists with
  | nil => rfl
  | @char c rest units solid consists inductionHypothesis =>
      rw [List.flatMap_cons, unitPattern, decode_escapeChar_append solid, inductionHypothesis]
      rfl
  | @run run rest unit units blank whole isClass consists inductionHypothesis =>
      rw [List.flatMap_cons, isClass.decode_append (head?_flatMap_unitPattern_ne units),
        inductionHypothesis]
      rfl

theorem decode_encode (text : Text) : decode (encode text) = some (units text) :=
  (consistsOf_units text).decode_flatMap

theorem encode_eq_iff {text other : Text} :
    encode text = encode other ↔ units text = units other := by
  constructor
  · intro same
    have decoded := congrArg decode same
    rw [decode_encode, decode_encode] at decoded
    exact Option.some.inj decoded
  · intro same
    rw [encode, encode, same]

/-! ### Matching -/

/-- A run of white space stands for itself. -/
theorem RunClass.runResembles {run : Text} {unit : LiteralUnit} (isClass : RunClass run unit)
    (blank : ∀ c ∈ run, Text.isBlank c) : RunResembles run run := by
  refine ⟨isClass.ne_nil, ?_⟩
  split
  · assumption
  · split
    · rename_i spaces
      rw [List.all_eq_true] at spaces
      exact fun c member => of_decide_eq_true (spaces c member)
    · exact blank

theorem ConsistsOf.resembles {text : Text} {units : List LiteralUnit}
    (consists : ConsistsOf text units) : Resembles text text := by
  induction consists with
  | nil => exact .nil
  | char solid consists inductionHypothesis => exact .char solid inductionHypothesis
  | run blank whole isClass consists inductionHypothesis =>
      exact .run isClass.ne_nil blank whole (isClass.runResembles blank) inductionHypothesis

theorem matches_items (meaning : PropertyMeaning) (text : Text) :
    (Pattern.ofItems (items text)).Matches meaning text := by
  apply (passes_items text (.start text) (.stop text)).mpr
  exact ⟨text, Place.spans_start_stop.mpr rfl, (consistsOf_units text).resembles⟩

/-- The encoding of a text is decoded, to what the text consists of; so two texts have one
encoding exactly if they consist of the same. It is a regular expression that matches the text. -/
theorem encode_decodes (meaning : PropertyMeaning) (text : Text) :
    (∃ found, decode (encode text) = some found) ∧
      (∀ found, decode (encode text) = some found ↔ ConsistsOf text found) ∧
      (∀ other, encode text = encode other ↔
        ∃ shared, ConsistsOf text shared ∧ ConsistsOf other shared) ∧
      ∃ pattern, Pattern.read? (encode text) = some pattern ∧ pattern.isProper = true ∧
        pattern.Matches meaning text := by
  refine ⟨⟨units text, decode_encode text⟩, ?_, ?_, ?_⟩
  · intro found
    rw [decode_encode, Option.some.injEq, consistsOf_iff]
  · intro other
    rw [encode_eq_iff]
    constructor
    · intro same
      exact ⟨units other, consistsOf_iff.mpr same, consistsOf_units other⟩
    · rintro ⟨shared, consists, otherConsists⟩
      rw [consists.units_eq, otherConsists.units_eq]
  · obtain ⟨pattern, read, proper, -⟩ := (readsNames_encode text).exists_pattern List.nodup_nil
    have items := (reads_encode text).read?
    rw [read] at items
    cases items
    exact ⟨_, read, proper, matches_items meaning text⟩

/-- A plus sign of the text is escaped, one behind a space belongs to it. -/
example : decode " \\++".toList = none ∧
    decode " +\\+\\s+s".toList =
      some [.severalSpaces, .char '+', .whiteSpace, .char 's'] := by
  decide

end Literal

end LineTemplate
