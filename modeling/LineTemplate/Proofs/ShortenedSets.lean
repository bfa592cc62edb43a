import LineTemplate.Pattern.Reader.Bracket
import LineTemplate.Proofs.Shortening

/-!
Contract: escapes and sets of characters, read of texts with one dollar sign less at their
end.

Owns:
- that an escape is read alike of a shortened text, unless it takes the first of the two
  dollar signs;
- that a set is read alike of it in any case.

Does not own: the readers of repetitions and groups.
-/

namespace LineTemplate

namespace PatternReader

/-! ### Escapes

Inside an escape the first of the two dollar signs can be read alone. -/

theorem readHexFixed_shorten {verbose : Bool} {count value result : Nat} {text after : Text}
    (found : readHexFixed verbose count value text = some (result, after)) :
    readHexFixed verbose count value (shorten text) = some (result, shorten after) := by
  have dollar : Text.hexValue? '$' = none := by decide
  fun_induction readHexFixed verbose count value text with
  | case1 =>
      cases found
      rw [readHexFixed]
  | case2 => cases found
  | case3 value count first rest inductionHypothesis =>
      obtain ⟨digit, known, read⟩ := Option.bind_eq_some_iff.1 found
      have different : first ≠ '$' := by
        rintro rfl
        cases dollar.symm.trans known
      rw [shorten_cons_of_ne rest different, readHexFixed, known, Option.bind_some, skip_shorten]
      exact inductionHypothesis digit read

theorem readHexBraced_shorten {verbose started : Bool} {value result : Nat} {text after : Text}
    (found : readHexBraced verbose started value text = some (result, after)) :
    readHexBraced verbose started value (shorten text) = some (result, shorten after) := by
  have dollar : Text.hexValue? '$' = none := by decide
  fun_induction readHexBraced verbose started value text with
  | case1 => cases found
  | case2 value rest =>
      cases found
      rw [shorten_cons_of_ne rest (by decide), readHexBraced]
      simp [skip_shorten]
  | case3 => cases found
  | case4 => cases found
  | case5 started value first rest unclosed digit known inductionHypothesis =>
      have different : first ≠ '$' := by
        rintro rfl
        cases dollar.symm.trans known
      rw [shorten_cons_of_ne rest different, readHexBraced, if_neg unclosed, known, skip_shorten]
      exact inductionHypothesis found

theorem readHex_shorten {verbose : Bool} {count : Nat} {text after : Text} {atom : Atom}
    (found : readHex verbose count text = some (atom, after)) :
    readHex verbose count (shorten text) = some (atom, shorten after) := by
  unfold readHex at found ⊢
  rw [skip_shorten]
  split at found
  · cases found
  · rename_i rest inside
    obtain ⟨⟨value, remaining⟩, read, made⟩ := Option.bind_eq_some_iff.1 found
    obtain ⟨c, named, same⟩ := Option.map_eq_some_iff.1 made
    cases same
    rw [inside, shorten_cons_of_ne _ (by decide)]
    simp [skip_shorten, readHexBraced_shorten read, named]
  · rename_i filled unopened
    obtain ⟨⟨value, remaining⟩, read, made⟩ := Option.bind_eq_some_iff.1 found
    obtain ⟨c, named, same⟩ := Option.map_eq_some_iff.1 made
    cases same
    split
    · rename_i empty
      exact absurd ((shorten_eq_nil_iff _).1 empty) filled
    · rename_i opens
      obtain ⟨rest, inside, -⟩ := exists_of_shorten_eq_cons (by decide) opens
      exact absurd inside (unopened rest)
    · simp [readHexFixed_shorten read, named]

theorem readBraced_shorten {verbose : Bool} {text name after : Text}
    (found : readBraced verbose text = some (name, after)) :
    readBraced verbose (shorten text) = some (name, shorten after) := by
  have unclosed : readBraced verbose ['$'] = none := by simp [readBraced, skip]
  fun_induction readBraced verbose text generalizing name with
  | case1 => cases found
  | case2 =>
      cases found
      rw [shorten_cons_of_ne _ (by decide), readBraced, if_pos rfl]
  | case3 first rest other inductionHypothesis =>
      obtain ⟨⟨stem, remaining⟩, read, same⟩ := Option.map_eq_some_iff.1 found
      cases same
      have longer : rest ≠ ['$'] := by
        rintro rfl
        rw [skip_dollar, unclosed] at read
        cases read
      rw [shorten_cons first longer, readBraced, if_neg other, skip_shorten,
        inductionHypothesis read]
      rfl

/-- A property takes its name of one character, or all up to a closing brace. -/
theorem readProperty_shorten {verbose negated : Bool} {text after : Text} {atom : Atom}
    (found : readProperty verbose negated text = some (atom, after)) :
    readProperty verbose negated (shorten text) = some (atom, shorten after) ∨
      after = ['$'] ∧ readProperty verbose negated (shorten text) = some (atom, []) := by
  unfold readProperty at found ⊢
  rw [skip_shorten]
  split at found
  · cases found
  · rename_i rest inside
    obtain ⟨⟨name, remaining⟩, read, same⟩ := Option.map_eq_some_iff.1 found
    simp only [Prod.mk.injEq] at same
    obtain ⟨rfl, rfl⟩ := same
    rw [inside, shorten_cons_of_ne _ (by decide)]
    refine .inl ?_
    simp only [skip_shorten, readBraced_shorten read, Option.map_some]
  · cases found
  · rename_i name rest unopened solid inside
    cases found
    rw [inside]
    rcases shorten_cons_or name rest with other | ⟨rfl, rfl, other⟩
    · rw [other]
      exact .inl (by simp [skip_shorten])
    · rw [other, skip_dollar]
      exact .inr ⟨rfl, by simp [skip]⟩

theorem readBoundaryName_shorten (verbose : Bool) (text : Text) :
    readBoundaryName verbose (shorten text) =
      ((readBoundaryName verbose text).1, shorten (readBoundaryName verbose text).2) := by
  have dollar : isBoundaryChar '$' = false := by decide
  fun_induction readBoundaryName verbose text with
  | case1 => simp [readBoundaryName]
  | case2 first rest belongs name after same inductionHypothesis =>
      have different : first ≠ '$' := by
        rintro rfl
        simp [dollar] at belongs
      rw [shorten_cons_of_ne rest different, readBoundaryName, if_pos belongs, skip_shorten,
        inductionHypothesis, same]
  | case3 first rest other =>
      obtain ⟨left, same⟩ := exists_shorten_cons first rest
      rw [same, readBoundaryName, if_neg other]

theorem readBoundary_shorten {verbose : Bool} {text after : Text} {atom : Atom}
    (found : readBoundary verbose text = some (atom, after)) :
    readBoundary verbose (shorten text) = some (atom, shorten after) := by
  unfold readBoundary at found
  split at found
  · rename_i rest
    rw [shorten_cons_of_ne _ (by decide), readBoundary, skip_shorten]
    split at found
    · cases found
    · rename_i first more inside
      rw [inside]
      obtain ⟨other, same⟩ := exists_shorten_cons first more
      have named := readBoundaryName_shorten verbose (first :: more)
      split at found
      · rename_i belongs
        split at found
        · rename_i name remaining read
          obtain ⟨special, known, made⟩ := Option.map_eq_some_iff.1 found
          cases made
          rw [read, same, shorten_cons_of_ne _ (by decide)] at named
          rw [same]
          simp [belongs, named, known]
        · cases found
      · rename_i other
        cases found
        rw [same]
        simp [other, shorten_cons_of_ne]
  · rename_i unopened
    cases found
    unfold readBoundary
    split
    · rename_i opens
      obtain ⟨rest, inside, -⟩ := exists_of_shorten_eq_cons (by decide) opens
      exact absurd inside (unopened rest)
    · rfl

theorem readEscape_shorten {verbose : Bool} {text after : Text} {atom : Atom}
    (found : readEscape verbose text = some (atom, after)) :
    readEscape verbose (shorten text) = some (atom, shorten after) ∨
      after = ['$'] ∧ readEscape verbose (shorten text) = some (atom, []) := by
  unfold readEscape at found
  split at found
  · cases found
  · rw [shorten_cons_of_ne _ (by decide), readEscape, readHex_shorten found]
    exact .inl rfl
  · rw [shorten_cons_of_ne _ (by decide), readEscape, readHex_shorten found]
    exact .inl rfl
  · rw [shorten_cons_of_ne _ (by decide), readEscape, readHex_shorten found]
    exact .inl rfl
  · rw [shorten_cons_of_ne _ (by decide), readEscape]
    exact readProperty_shorten found
  · rw [shorten_cons_of_ne _ (by decide), readEscape]
    exact readProperty_shorten found
  · rw [shorten_cons_of_ne _ (by decide), readEscape, readBoundary_shorten found]
    exact .inl rfl
  · rename_i first rest _ _ _ _ _ _
    -- The rest is left as it is, so nothing is read of it.
    have single : after = rest ∧ ∀ other, readEscape verbose (first :: other) =
        some (atom, other) := by
      split at found
      · rename_i escapable
        cases found
        refine ⟨rfl, fun other => ?_⟩
        rw [readEscape, if_pos escapable] <;> assumption
      · rename_i unescapable
        obtain ⟨single, known, same⟩ := Option.map_eq_some_iff.1 found
        cases same
        refine ⟨rfl, fun other => ?_⟩
        rw [readEscape, if_neg unescapable, known] <;> first | rfl | assumption
    obtain ⟨rfl, read⟩ := single
    rcases shorten_cons_or first after with other | ⟨rfl, rfl, other⟩
    · rw [other]
      exact .inl (read _)
    · rw [other]
      exact .inr ⟨rfl, read []⟩

/-! ### Sets -/

theorem readMember_shorten {verbose : Bool} {text after : Text} {atom : Atom}
    (longer : after ≠ ['$']) (found : readMember verbose text = some (atom, after)) :
    readMember verbose (shorten text) = some (atom, shorten after) := by
  unfold readMember at found
  split at found
  · cases found
  · rw [shorten_cons_of_ne _ (by decide), readMember]
    exact (readEscape_shorten found).resolve_right fun alone => longer alone.1
  · cases found
    rw [shorten_cons _ longer, readMember]
    assumption

theorem afterHyphen?_shorten (verbose : Bool) (text : Text) :
    afterHyphen? verbose (shorten text) = afterHyphen? verbose text := by
  unfold afterHyphen?
  split
  · rw [dropWhile_shorten]
    split
    · rename_i rest comment
      obtain ⟨behind, inside, rfl⟩ := exists_of_shorten_eq_cons (by decide) comment
      rw [inside, dropWhile_shorten, head?_shorten]
      rfl
    · rename_i plain
      split
      · rename_i rest comment
        rw [comment, shorten_cons_of_ne _ (by decide)] at plain
        exact absurd rfl (plain _)
      · exact head?_shorten _
  · exact head?_shorten text

theorem readRange_shorten {verbose : Bool} {text after : Text} {set : CharSet}
    (longer : after ≠ ['$']) (found : readRange verbose text = some (set, after)) :
    readRange verbose (shorten text) = some (set, shorten after) := by
  unfold readRange at found
  split at found
  · cases found
  · rename_i first afterFirst readFirst
    split at found
    · cases found
    · rename_i rest hyphen
      have other : afterFirst ≠ ['$'] := by
        rintro rfl
        rw [skip_dollar] at hyphen
        cases hyphen
      rw [readRange, readMember_shorten other readFirst]
      simp only [skip_shorten, hyphen, shorten_cons_of_ne _ (show '-' ≠ '$' by decide)]
      rw [afterHyphen?_shorten]
      split at found
      · rename_i literal
        obtain ⟨member, made, same⟩ := Option.map_eq_some_iff.1 found
        cases same
        rw [if_pos literal, made, shorten_cons_of_ne _ (by decide)]
        rfl
      · rename_i ranged
        rw [if_neg ranged]
        split at found
        · cases found
        · rename_i last afterLast readLast
          obtain ⟨member, made, same⟩ := Option.map_eq_some_iff.1 found
          cases same
          rw [readMember_shorten longer readLast]
          simp [made]
    · rename_i filled unhyphened
      obtain ⟨member, made, same⟩ := Option.map_eq_some_iff.1 found
      cases same
      have other : afterFirst ≠ ['$'] := by
        rintro rfl
        exact longer (skip_dollar verbose [])
      rw [readRange, readMember_shorten other readFirst]
      dsimp only
      rw [skip_shorten]
      split
      · rename_i empty
        exact absurd ((shorten_eq_nil_iff _).1 empty) filled
      · rename_i hyphen
        obtain ⟨rest, inside, -⟩ := exists_of_shorten_eq_cons (by decide) hyphen
        exact absurd inside (unhyphened rest)
      · rw [made]
        rfl

theorem readAsciiName_shorten (negated : Bool) (text : Text) :
    readAsciiName negated (shorten text) =
      (readAsciiName negated text).map fun (set, after) => (set, shorten after) := by
  unfold readAsciiName
  rw [dropWhile_shorten]
  split
  · rename_i rest closed
    obtain ⟨after, inside, rfl⟩ := exists_of_shorten_eq_cons_cons (by decide) (by decide) closed
    rw [inside, takeWhile_shorten inside]
    cases asciiClass? (text.takeWhile (· != ':')) <;> rfl
  · rename_i unclosed
    split
    · rename_i rest closed
      rw [closed, shorten_cons_of_ne _ (by decide), shorten_cons_of_ne _ (by decide)] at unclosed
      exact absurd rfl (unclosed _)
    · rfl

theorem readAscii?_shorten (text : Text) :
    readAscii? (shorten text) = (readAscii? text).map fun (set, after) => (set, shorten after) := by
  unfold readAscii?
  split
  · rename_i rest negates
    obtain ⟨after, rfl, rfl⟩ := exists_of_shorten_eq_cons_cons (by decide) (by decide) negates
    exact readAsciiName_shorten true after
  · rename_i rest plain names
    obtain ⟨behind, rfl, rfl⟩ := exists_of_shorten_eq_cons (by decide) names
    split
    · rename_i after negates
      cases negates
      rw [shorten_cons_of_ne _ (by decide)] at plain
      exact absurd rfl (plain _)
    · rename_i after _ same
      cases same
      exact readAsciiName_shorten false behind
    · rename_i other
      exact absurd rfl (other _)
  · rename_i _ other
    split
    · rw [shorten_cons_of_ne _ (by decide)] at other
      exact absurd rfl (other _)
    · rw [shorten_cons_of_ne _ (by decide)] at other
      exact absurd rfl (other _)
    · rfl

theorem readHyphens_shorten (verbose : Bool) (text : Text) :
    readHyphens verbose (shorten text) =
      ((readHyphens verbose text).1, shorten (readHyphens verbose text).2) := by
  fun_induction readHyphens verbose text with
  | case1 => simp [readHyphens]
  | case2 rest members after same inductionHypothesis =>
      rw [shorten_cons_of_ne rest (by decide), readHyphens, if_pos rfl, skip_shorten,
        inductionHypothesis, same]
  | case3 first rest other =>
      obtain ⟨left, same⟩ := exists_shorten_cons first rest
      rw [same, readHyphens, if_neg other]

theorem readNegation_shorten (verbose : Bool) (text : Text) :
    readNegation verbose (shorten text) =
      ((readNegation verbose text).1, shorten (readNegation verbose text).2) := by
  unfold readNegation
  rw [skip_shorten]
  split
  · rename_i rest negates
    obtain ⟨behind, inside, rfl⟩ := exists_of_shorten_eq_cons (by decide) negates
    rw [inside, skip_shorten]
    rfl
  · rename_i plain
    split
    · rename_i rest negates
      rw [negates, shorten_cons_of_ne _ (by decide)] at plain
      exact absurd rfl (plain _)
    · rfl

theorem readFirstMembers_shorten {verbose negated : Bool} {text after : Text}
    {opened : OpenBracket}
    (found : readFirstMembers verbose negated text = some (opened, after)) :
    readFirstMembers verbose negated (shorten text) = some (opened, shorten after) := by
  unfold readFirstMembers at found ⊢
  rw [readHyphens_shorten]
  split at found
  · cases found
  · rename_i rest inside
    rw [inside, shorten_cons_of_ne _ (by decide)]
    split at found
    · cases found
    · rename_i filled
      cases found
      simp only [skip_shorten, List.isEmpty_iff, shorten_eq_nil_iff] at filled ⊢
      rw [if_neg filled]
  · rename_i hyphens rest filled unclosed inside
    cases found
    rw [inside]
    dsimp only
    split
    · rename_i same
      exact absurd ((shorten_eq_nil_iff _).1 (Prod.mk.inj same).2) filled
    · rename_i same
      obtain ⟨none_, closed⟩ := Prod.mk.inj same
      obtain ⟨rest, closes, -⟩ := exists_of_shorten_eq_cons (by decide) closed
      exact absurd closes (unclosed rest none_)
    · rename_i same
      cases same
      rfl

theorem readOpening_shorten {verbose : Bool} {text after : Text} {opened : OpenBracket}
    (found : readOpening verbose text = some (opened, after)) :
    readOpening verbose (shorten text) = some (opened, shorten after) := by
  unfold readOpening at found ⊢
  rw [readNegation_shorten]
  exact readFirstMembers_shorten found

theorem readSetFrom_eq (verbose : Bool) (current : OpenBracket) (outer : List OpenBracket)
    (text : Text) :
    readSetFrom verbose current outer text =
      match skip verbose text with
      | [] => none
      | '[' :: rest =>
          match readAscii? rest with
          | some (set, after) => readSetFrom verbose (current.add set) outer after
          | none =>
              (readOpening verbose rest).bind fun (opened, after) =>
                readSetFrom verbose opened (current :: outer) after
      | ']' :: rest =>
          match outer with
          | [] => some (.set current.negated current.content, rest)
          | parent :: outer =>
              readSetFrom verbose (parent.add (.bracket current.negated current.content)) outer
                rest
      | '&' :: '&' :: rest => readSetFrom verbose (current.operate .intersection) outer rest
      | '-' :: '-' :: rest => readSetFrom verbose (current.operate .difference) outer rest
      | '~' :: '~' :: rest => readSetFrom verbose (current.operate .symmetricDifference) outer rest
      | other =>
          (readRange verbose other).bind fun (set, after) =>
            readSetFrom verbose (current.add set) outer after := by
  rw [readSetFrom]
  split
  case h_1 ends => simp only [ends]
  case h_2 rest opens =>
      split
      · rename_i known
        simp only [opens, known]
      · rename_i unknown
        split
        · rename_i read
          simp only [opens, unknown, read, Option.bind_some]
        · rename_i unread
          simp only [opens, unknown, unread, Option.bind_none]
  case h_3 closes =>
      cases outer with
      | nil => simp only [closes]
      | cons parent outer => simp only [closes]
  case h_4 operates => simp only [operates]
  case h_5 operates => simp only [operates]
  case h_6 operates => simp only [operates]
  case h_7 =>
      split
      · rename_i read
        simp_all
      · rename_i unread
        simp_all

/-- A set does not end before its closing bracket. -/
theorem readSetFrom_dollar (verbose : Bool) (current : OpenBracket) (outer : List OpenBracket) :
    readSetFrom verbose current outer ['$'] = none := by
  have range : readRange verbose ['$'] = none := by simp [readRange, readMember, skip]
  rw [readSetFrom_eq, skip_dollar]
  simp [range]

theorem readSetFrom_shorten {verbose : Bool} {current : OpenBracket} {outer : List OpenBracket}
    {text after : Text} {pattern : Pattern}
    (found : readSetFrom verbose current outer text = some (pattern, after)) :
    readSetFrom verbose current outer (shorten text) = some (pattern, shorten after) := by
  fun_induction readSetFrom verbose current outer text with
  | case1 => cases found
  | case2 current outer text rest opens set after known inductionHypothesis =>
      rw [readSetFrom_eq, skip_shorten, opens, shorten_cons_of_ne _ (by decide)]
      simp only [readAscii?_shorten, known, Option.map_some]
      exact inductionHypothesis found
  | case3 current outer text rest opens unknown opened after read inductionHypothesis =>
      rw [readSetFrom_eq, skip_shorten, opens, shorten_cons_of_ne _ (by decide)]
      simp only [readAscii?_shorten, unknown, Option.map_none, readOpening_shorten read,
        Option.bind_some]
      exact inductionHypothesis found
  | case4 => cases found
  | case5 current text rest closes =>
      cases found
      rw [readSetFrom_eq, skip_shorten, closes, shorten_cons_of_ne _ (by decide)]
      rfl
  | case6 current text rest closes parent outer inductionHypothesis =>
      rw [readSetFrom_eq, skip_shorten, closes, shorten_cons_of_ne _ (by decide)]
      exact inductionHypothesis found
  | case7 current outer text rest operates inductionHypothesis =>
      rw [readSetFrom_eq, skip_shorten, operates, shorten_cons_of_ne _ (by decide),
        shorten_cons_of_ne _ (by decide)]
      exact inductionHypothesis found
  | case8 current outer text rest operates inductionHypothesis =>
      rw [readSetFrom_eq, skip_shorten, operates, shorten_cons_of_ne _ (by decide),
        shorten_cons_of_ne _ (by decide)]
      exact inductionHypothesis found
  | case9 current outer text rest operates inductionHypothesis =>
      rw [readSetFrom_eq, skip_shorten, operates, shorten_cons_of_ne _ (by decide),
        shorten_cons_of_ne _ (by decide)]
      exact inductionHypothesis found
  | case10 current outer text set after filled unopened unclosed unmet unlessened untoggled read
      inductionHypothesis =>
      have longer : after ≠ ['$'] := by
        rintro rfl
        rw [readSetFrom_dollar] at found
        cases found
      have ranged := readRange_shorten longer read
      rw [readSetFrom_eq, skip_shorten]
      split
      · rename_i empty
        exact absurd ((shorten_eq_nil_iff _).1 empty) filled
      · rename_i opens
        obtain ⟨rest, inside, -⟩ := exists_of_shorten_eq_cons (by decide) opens
        exact absurd inside (unopened rest)
      · rename_i closes
        obtain ⟨rest, inside, -⟩ := exists_of_shorten_eq_cons (by decide) closes
        exact absurd inside (unclosed rest)
      · rename_i operates
        obtain ⟨rest, inside, -⟩ := exists_of_shorten_eq_cons_cons (by decide) (by decide) operates
        exact absurd inside (unmet rest)
      · rename_i operates
        obtain ⟨rest, inside, -⟩ := exists_of_shorten_eq_cons_cons (by decide) (by decide) operates
        exact absurd inside (unlessened rest)
      · rename_i operates
        obtain ⟨rest, inside, -⟩ := exists_of_shorten_eq_cons_cons (by decide) (by decide) operates
        exact absurd inside (untoggled rest)
      · rw [ranged]
        exact inductionHypothesis found
  | case11 => cases found

theorem readBracket_shorten {verbose : Bool} {text after : Text} {pattern : Pattern}
    (found : readBracket verbose text = some (pattern, after)) :
    readBracket verbose (shorten text) = some (pattern, shorten after) := by
  obtain ⟨⟨opened, remaining⟩, opening, read⟩ := Option.bind_eq_some_iff.1 found
  rw [readBracket, readOpening_shorten opening]
  exact readSetFrom_shorten read

end PatternReader

end LineTemplate
