import LineTemplate.Pattern.Reader.Group

/-!
Contract: texts with one dollar sign less at their end, and what repetitions and groups
are read of them.

Owns:
- `shorten`, which takes the second of two dollar signs off the end of a text;
- that the beginnings of groups and the repetitions are read alike of a shortened text.

Does not own: the readers that can take the first of the two dollar signs alone.
-/

namespace LineTemplate

namespace PatternReader

/-- A text, without the second of two dollar signs at its end. -/
def shorten : Text → Text
  | ['$', '$'] => ['$']
  | [] => []
  | first :: rest => first :: shorten rest

@[simp] theorem shorten_nil : shorten [] = [] := rfl

/-- Shortening takes off what follows the first character, or the character is the first
of the two dollar signs. -/
theorem shorten_cons_or (first : Char) (rest : Text) :
    shorten (first :: rest) = first :: shorten rest ∨
      first = '$' ∧ rest = ['$'] ∧ shorten (first :: rest) = ['$'] := by
  by_cases dollars : first = '$' ∧ rest = ['$']
  · obtain ⟨rfl, rfl⟩ := dollars
    exact .inr ⟨rfl, rfl, rfl⟩
  · rw [shorten]
    · exact .inl rfl
    · exact fun dollar same => dollars ⟨dollar, same⟩

theorem shorten_cons_of_ne {first : Char} (rest : Text) (different : first ≠ '$') :
    shorten (first :: rest) = first :: shorten rest :=
  (shorten_cons_or first rest).resolve_right fun dollars => different dollars.1

theorem shorten_cons (first : Char) {rest : Text} (longer : rest ≠ ['$']) :
    shorten (first :: rest) = first :: shorten rest :=
  (shorten_cons_or first rest).resolve_right fun dollars => longer dollars.2.1

theorem exists_shorten_cons (first : Char) (rest : Text) :
    ∃ other, shorten (first :: rest) = first :: other := by
  rcases shorten_cons_or first rest with same | ⟨rfl, rfl, same⟩
  · exact ⟨_, same⟩
  · exact ⟨_, same⟩

theorem shorten_dollars (text : Text) : shorten (text ++ ['$', '$']) = text ++ ['$'] := by
  induction text with
  | nil => rfl
  | cons first text inductionHypothesis =>
      have longer : text ++ ['$', '$'] ≠ ['$'] := by
        intro same
        simpa using congrArg List.length same
      rw [List.cons_append, shorten_cons first longer, inductionHypothesis, List.cons_append]

@[simp] theorem shorten_eq_nil_iff (text : Text) : shorten text = [] ↔ text = [] := by
  cases text with
  | nil => simp
  | cons first rest =>
      obtain ⟨other, same⟩ := exists_shorten_cons first rest
      simp [same]

theorem head?_shorten (text : Text) : (shorten text).head? = text.head? := by
  cases text with
  | nil => rfl
  | cons first rest =>
      obtain ⟨other, same⟩ := exists_shorten_cons first rest
      rw [same, List.head?_cons, List.head?_cons]

/-- A text with a shortened form that begins with another character than a dollar sign
begins with the same character. -/
theorem exists_of_shorten_eq_cons {text other : Text} {first : Char} (different : first ≠ '$')
    (same : shorten text = first :: other) :
    ∃ rest, text = first :: rest ∧ other = shorten rest := by
  cases text with
  | nil => cases same
  | cons start rest =>
      obtain ⟨behind, begins⟩ := exists_shorten_cons start rest
      rw [begins, List.cons.injEq] at same
      obtain ⟨rfl, rfl⟩ := same
      rw [shorten_cons_of_ne rest different, List.cons.injEq] at begins
      exact ⟨rest, rfl, begins.2.symm⟩

theorem exists_of_shorten_eq_cons_cons {text other : Text} {first second : Char}
    (different : first ≠ '$') (solid : second ≠ '$')
    (same : shorten text = first :: second :: other) :
    ∃ rest, text = first :: second :: rest ∧ other = shorten rest := by
  obtain ⟨behind, rfl, next⟩ := exists_of_shorten_eq_cons different same
  obtain ⟨rest, rfl, last⟩ := exists_of_shorten_eq_cons solid next.symm
  exact ⟨rest, rfl, last⟩

/-! ### Stretches of characters -/

theorem dropWhile_shorten (test : Char → Bool) (text : Text) :
    (shorten text).dropWhile test = shorten (text.dropWhile test) := by
  fun_induction shorten text with
  | case1 => cases dollar : test '$' <;> simp [List.dropWhile, dollar, shorten]
  | case2 => rfl
  | case3 first rest longer inductionHypothesis =>
      rw [List.dropWhile_cons, List.dropWhile_cons]
      split
      · exact inductionHypothesis
      · rw [shorten]
        exact longer

/-- A stretch that ends before another character than a dollar sign is the same. -/
theorem takeWhile_shorten {test : Char → Bool} {text after : Text} {stop : Char}
    (stops : text.dropWhile test = stop :: after) :
    (shorten text).takeWhile test = text.takeWhile test := by
  fun_induction shorten text with
  | case1 =>
      cases dollar : test '$' with
      | true => simp [List.dropWhile, dollar] at stops
      | false => simp [dollar]
  | case2 => rfl
  | case3 first rest longer inductionHypothesis =>
      cases passes : test first with
      | true =>
          rw [List.dropWhile_cons_of_pos passes] at stops
          rw [List.takeWhile_cons_of_pos passes, List.takeWhile_cons_of_pos passes,
            inductionHypothesis stops]
      | false => simp [passes]

theorem afterNewline_shorten (text : Text) :
    afterNewline (shorten text) = shorten (afterNewline text) := by
  fun_induction shorten text with
  | case1 => rfl
  | case2 => rfl
  | case3 first rest longer inductionHypothesis =>
      by_cases newline : first = '\n'
      · subst newline
        rfl
      · rw [afterNewline.eq_3 _ _ newline, afterNewline.eq_3 _ _ newline, inductionHypothesis]

theorem skip_dollar (verbose : Bool) (rest : Text) :
    skip verbose ('$' :: rest) = '$' :: rest := by
  have solid : Text.isBlank '$' = false := by decide
  simp [skip, solid]

theorem skip_shorten (verbose : Bool) (text : Text) :
    skip verbose (shorten text) = shorten (skip verbose text) := by
  have dollar : Text.isBlank '$' = false := by decide
  fun_induction skip verbose text with
  | case1 => rw [shorten_nil, skip]
  | case2 first rest isVerbose blank inductionHypothesis =>
      have different : first ≠ '$' := by
        rintro rfl
        simp [dollar] at blank
      rw [shorten_cons_of_ne rest different, skip, if_pos isVerbose, if_pos blank,
        inductionHypothesis]
  | case3 rest isVerbose solid inductionHypothesis =>
      rw [shorten_cons_of_ne rest (by decide), skip, if_pos isVerbose, if_neg solid, if_pos rfl,
        afterNewline_shorten, inductionHypothesis]
  | case4 first rest isVerbose solid comment =>
      obtain ⟨other, same⟩ := exists_shorten_cons first rest
      rw [same, skip, if_pos isVerbose, if_neg solid, if_neg comment]
  | case5 first rest plain =>
      obtain ⟨other, same⟩ := exists_shorten_cons first rest
      rw [same, skip, if_neg plain]

theorem trimStart_shorten (text : Text) :
    Text.trimStart (shorten text) = shorten (Text.trimStart text) :=
  dropWhile_shorten _ text

/-! ### Repetitions -/

theorem readDigits_shorten (verbose : Bool) (digits text : Text) :
    readDigits verbose digits (shorten text) =
      ((readDigits verbose digits text).1, shorten (readDigits verbose digits text).2) := by
  have dollar : Text.isDigit '$' = false := by decide
  fun_induction readDigits verbose digits text with
  | case1 => simp [readDigits]
  | case2 digits first rest digit inductionHypothesis =>
      have different : first ≠ '$' := by
        rintro rfl
        simp [dollar] at digit
      rw [shorten_cons_of_ne rest different, readDigits, if_pos digit, skip_shorten,
        inductionHypothesis]
  | case3 digits first rest other =>
      obtain ⟨left, same⟩ := exists_shorten_cons first rest
      rw [same, readDigits, if_neg other]

theorem readCount_shorten (verbose : Bool) (text : Text) :
    readCount verbose (shorten text) =
      ((readCount verbose text).1, shorten (readCount verbose text).2) := by
  simp only [readCount, trimStart_shorten, readDigits_shorten]

theorem readUpper_shorten {verbose : Bool} {least : Option Nat} {text after : Text}
    {repetition : Repetition} (found : readUpper verbose least text = some (repetition, after)) :
    readUpper verbose least (shorten text) = some (repetition, shorten after) := by
  unfold readUpper at found ⊢
  rw [skip_shorten]
  split at found
  · rename_i least rest inside
    obtain ⟨bounds, made, same⟩ := Option.map_eq_some_iff.1 found
    cases same
    rw [inside, shorten_cons_of_ne _ (by decide)]
    simp [made]
  · rename_i least unclosed
    split at found
    · rename_i most rest counted
      obtain ⟨bounds, made, same⟩ := Option.map_eq_some_iff.1 found
      cases same
      have other := readCount_shorten verbose (skip verbose text)
      rw [counted, shorten_cons_of_ne _ (by decide)] at other
      split
      · rename_i closed
        obtain ⟨rest, inside, -⟩ := exists_of_shorten_eq_cons (by decide) closed
        exact absurd inside (unclosed rest)
      · rename_i again _
        cases again
        rw [other]
        simp [made]
      · rename_i impossible
        cases impossible
    · cases found
  · cases found

theorem readBounds_shorten {verbose : Bool} {text after : Text} {repetition : Repetition}
    (found : readBounds verbose text = some (repetition, after)) :
    readBounds verbose (shorten text) = some (repetition, shorten after) := by
  have counted := readCount_shorten verbose (skip verbose text)
  unfold readBounds at found ⊢
  rw [skip_shorten]
  split at found
  · rename_i least rest inside
    rw [inside, shorten_cons_of_ne _ (by decide)] at counted
    rw [counted]
    exact readUpper_shorten found
  · rename_i count rest inside
    obtain ⟨bounds, made, same⟩ := Option.map_eq_some_iff.1 found
    cases same
    rw [inside, shorten_cons_of_ne _ (by decide)] at counted
    rw [counted]
    simp [made]
  · cases found

theorem readLazy_shorten {repetition result : Repetition} {text after : Text}
    (found : readLazy repetition text = (result, after)) :
    readLazy repetition (shorten text) = (result, shorten after) := by
  cases text with
  | nil =>
      cases found
      rfl
  | cons first rest =>
      by_cases question : first = '?'
      · subst question
        cases found
        rfl
      · obtain ⟨other, same⟩ := exists_shorten_cons first rest
        have kept : ∀ behind, readLazy repetition (first :: behind) =
            (repetition, first :: behind) := by
          simp [readLazy, question]
        rw [kept] at found
        cases found
        rw [same, kept]

theorem readRepetition_shorten {verbose : Bool} {text after : Text} {repetition : Repetition}
    (found : readRepetition verbose text = some (repetition, after)) :
    readRepetition verbose (shorten text) = some (repetition, shorten after) := by
  unfold readRepetition at found
  split at found
  · rw [shorten_cons_of_ne _ (by decide), readRepetition,
      readLazy_shorten (Option.some.inj found)]
  · rw [shorten_cons_of_ne _ (by decide), readRepetition,
      readLazy_shorten (Option.some.inj found)]
  · rw [shorten_cons_of_ne _ (by decide), readRepetition,
      readLazy_shorten (Option.some.inj found)]
  · obtain ⟨⟨bounds, remaining⟩, read, same⟩ := Option.map_eq_some_iff.1 found
    rw [shorten_cons_of_ne _ (by decide), readRepetition, readBounds_shorten read,
      Option.map_some]
    dsimp only
    rw [skip_shorten, readLazy_shorten same]
  · cases found

/-! ### Groups -/

theorem readGroupName_shorten {text after : Text} {opening : GroupOpening}
    (found : readGroupName text = some (opening, after)) :
    readGroupName (shorten text) = some (opening, shorten after) := by
  unfold readGroupName at found ⊢
  rw [dropWhile_shorten]
  split at found
  · rename_i rest closed
    rw [closed, shorten_cons_of_ne _ (by decide)]
    dsimp only at found ⊢
    rw [takeWhile_shorten closed]
    split at found
    · rename_i named
      cases found
      exact if_pos named
    · cases found
  · cases found

theorem readFlags_shorten {text after : Text} {opening : GroupOpening}
    (found : readFlags text = some (opening, after)) :
    readFlags (shorten text) = some (opening, shorten after) := by
  unfold readFlags at found ⊢
  dsimp only at found ⊢
  rw [dropWhile_shorten]
  split at found
  · rename_i rest closed
    obtain ⟨settings, made, same⟩ := Option.map_eq_some_iff.1 found
    cases same
    rw [closed, shorten_cons_of_ne _ (by decide), takeWhile_shorten closed]
    simp [made]
  · rename_i rest closed
    rw [closed, shorten_cons_of_ne _ (by decide), takeWhile_shorten closed]
    split at found
    · cases found
    · rename_i filled
      obtain ⟨settings, made, same⟩ := Option.map_eq_some_iff.1 found
      cases same
      simp [filled, made]
  · cases found

theorem readGroup_shorten {verbose : Bool} {text after : Text} {opening : GroupOpening}
    (found : readGroup verbose text = some (opening, after)) :
    readGroup verbose (shorten text) = some (opening, shorten after) := by
  have other := skip_shorten verbose text
  unfold readGroup at found ⊢
  rw [other]
  split at found
  · cases found
  · cases found
  · cases found
  · cases found
  · rename_i rest inside
    rw [inside]
    simp only [shorten_cons_of_ne _ (show '?' ≠ '$' by decide),
      shorten_cons_of_ne _ (show 'P' ≠ '$' by decide),
      shorten_cons_of_ne _ (show '<' ≠ '$' by decide)]
    exact readGroupName_shorten found
  · rename_i rest _ _ inside
    rw [inside, shorten_cons_of_ne _ (by decide), shorten_cons_of_ne _ (by decide)]
    split <;> grind [readGroupName_shorten, → exists_of_shorten_eq_cons]
  · rename_i rest _ _ _ _ _ _ inside
    rw [inside, shorten_cons_of_ne _ (by decide)]
    have named : ∀ more, shorten rest ≠ 'P' :: '<' :: more := by
      intro more same
      obtain ⟨name, begins, -⟩ := exists_of_shorten_eq_cons_cons (by decide) (by decide) same
      simp_all
    split <;> grind [readFlags_shorten, → exists_of_shorten_eq_cons]
  · cases found
    split <;> grind [→ exists_of_shorten_eq_cons]

end PatternReader

end LineTemplate
