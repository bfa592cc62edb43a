import LineTemplate.Toml.Strings
import LineTemplate.Toml.Writer

/-!
Contract: the written forms of a string, read again.

Owns:
- how each character is written in a form with escapes;
- what ends a string over lines, of whose marks up to two may belong to the string;
- that each form is read back as the text, where it fits, and
  `Toml.readString_writeString`: the chosen form always does.

Does not own: where a string stands in a document.

A string over lines is not read one character at a time: marks at its end are taken together
with the three that close it. So the induction over such a string stops at its last marks,
which `dropMarks?_append` sets apart.
-/

namespace LineTemplate.Toml

open StringForm

/-! ### Characters -/

/-- The ways to write a character other than a quotation mark in a form with escapes. What
is behind the backslash cannot be taken for an escaped newline. -/
inductive WritesChar (keepsNewlines : Bool) (c : Char) : Text → Prop
  | printed (printable : isPrintable c = true) (solid : c ≠ '\\') : WritesChar keepsNewlines c [c]
  | newline (keeps : keepsNewlines = true) (same : c = '\n') : WritesChar keepsNewlines c ['\n']
  | escaped (code : Text) (solid : ∀ rest, dropEscapedNewline? (code ++ rest) = none)
      (reads : ∀ rest, readEscape (code ++ rest) = some (c, rest)) :
      WritesChar keepsNewlines c ('\\' :: code)

theorem hexValue?_hexDigit : ∀ value < 16, Text.hexValue? (hexDigit value) = some value := by
  decide

/-- The code of a control character is read back. -/
theorem readCode_control {c : Char} (control : isControl c = true) (rest : Text) :
    readCode 4 ('0' :: '0' :: hexDigit (c.toNat / 16) :: hexDigit (c.toNat % 16) :: rest) =
      some (c, rest) := by
  have small : c.toNat < 128 := by
    simp only [isControl, Bool.or_eq_true, decide_eq_true_eq] at control
    omega
  have zero : Text.hexValue? '0' = some 0 := by decide
  have high := hexValue?_hexDigit (c.toNat / 16) (by omega)
  have low := hexValue?_hexDigit (c.toNat % 16) (by omega)
  have digits : readHex 4 0
      ('0' :: '0' :: hexDigit (c.toNat / 16) :: hexDigit (c.toNat % 16) :: rest) =
        some (c.toNat, rest) := by
    simp only [readHex, zero, high, low, Option.bind_some, Nat.mul_zero, Nat.add_zero, Nat.zero_add]
    rw [Nat.div_add_mod]
  have scalar : Text.scalar? c.toNat = some c := by
    have valid : c.toNat.isValidChar := c.valid
    rw [Text.scalar?, if_pos valid, Char.ofNat_toNat]
  rw [readCode, digits]
  simp only [Option.bind_some, scalar, Option.map_some]

theorem writesChar_escapeChar (keepsNewlines : Bool) (c : Char) :
    WritesChar keepsNewlines c (StringForm.escapeChar keepsNewlines c) := by
  unfold StringForm.escapeChar
  split
  · subst_vars
    exact .escaped ['b'] (fun _ => rfl) (fun _ => rfl)
  split
  · subst_vars
    exact .escaped ['t'] (fun _ => rfl) (fun _ => rfl)
  split
  · split
    · subst_vars
      exact .newline rfl rfl
    · subst_vars
      exact .escaped ['n'] (fun _ => rfl) (fun _ => rfl)
  split
  · subst_vars
    exact .escaped ['f'] (fun _ => rfl) (fun _ => rfl)
  split
  · subst_vars
    exact .escaped ['r'] (fun _ => rfl) (fun _ => rfl)
  split
  · subst_vars
    exact .escaped ['\\'] (fun _ => rfl) (fun _ => rfl)
  · rename_i solid
    split
    · rename_i control
      exact .escaped ['u', '0', '0', _, _] (fun _ => rfl) fun rest => readCode_control control rest
    · rename_i printable
      refine .printed ?_ solid
      simp only [isControl, Bool.or_eq_true, decide_eq_true_eq, not_or, Nat.not_lt] at printable
      simp [isPrintable, printable]

/-! ### Forms on one line -/

/-- The text of a string with a character in front. -/
def prependTo (c : Char) (string : Text × Text) : Text × Text := (c :: string.1, string.2)

theorem readBasic_escape {c : Char} {code after : Text} (read : readEscape code = some (c, after)) :
    readBasic ('\\' :: code) = (readBasic after).map (prependTo c) := by
  rw [readBasic, if_neg (by decide), if_pos rfl]
  split
  · rename_i missing
    rw [read] at missing
    cases missing
  · rename_i other remaining found
    rw [read] at found
    cases found
    rfl

theorem readBasic_printed {c : Char} (unquoted : c ≠ '"') (solid : c ≠ '\\')
    (printable : isPrintable c = true) (rest : Text) :
    readBasic (c :: rest) = (readBasic rest).map (prependTo c) := by
  rw [readBasic, if_neg unquoted, if_neg solid, if_pos printable]
  rfl

/-- Between quotation marks, every text is read back. -/
theorem readBasic_escapeFrom (text rest : Text) :
    readBasic (escapeFrom false 0 0 text ++ '"' :: rest) = some (text, rest) := by
  induction text with
  | nil => rw [escapeFrom, List.nil_append, readBasic, if_pos rfl]
  | cons first text inductionHypothesis =>
      rw [escapeFrom]
      by_cases mark : first = '"'
      · subst mark
        rw [if_pos rfl, if_neg (Nat.lt_irrefl 0), List.cons_append, List.cons_append,
          readBasic_escape rfl, inductionHypothesis]
        rfl
      · have written := writesChar_escapeChar false first
        rw [if_neg mark, List.append_assoc]
        generalize StringForm.escapeChar false first = code at written ⊢
        cases written with
        | printed printable solid =>
            rw [List.singleton_append, readBasic_printed mark solid printable, inductionHypothesis]
            rfl
        | newline keeps => cases keeps
        | escaped code solid reads =>
            rw [List.cons_append, readBasic_escape (reads _), inductionHypothesis]
            rfl

/-- Between apostrophes, a text is read back as it is. -/
theorem readLiteral_append {text : Text} (printable : ∀ c ∈ text, isPrintable c = true)
    (unquoted : '\'' ∉ text) (rest : Text) :
    readLiteral (text ++ '\'' :: rest) = some (text, rest) := by
  induction text with
  | nil => rw [List.nil_append, readLiteral, if_pos rfl]
  | cons first text inductionHypothesis =>
      rw [List.forall_mem_cons] at printable
      rw [List.mem_cons, not_or] at unquoted
      rw [List.cons_append, readLiteral, if_neg (Ne.symm unquoted.1), if_pos printable.1,
        inductionHypothesis printable.2 unquoted.2]
      rfl

/-! ### Marks at the end of lines -/

theorem trailingMarks_replicate {mark : Char} {count : Nat} (few : count ≤ 2) {rest : Text}
    (ended : rest.head? ≠ some mark) :
    trailingMarks mark (List.replicate count mark ++ rest) = (List.replicate count mark, rest) := by
  have other : ∀ first more, rest = first :: more → first ≠ mark := by
    rintro first more rfl same
    exact ended (congrArg some same)
  have counted : count = 0 ∨ count = 1 ∨ count = 2 := by omega
  rcases counted with rfl | rfl | rfl
  · cases rest with
    | nil => rfl
    | cons first rest =>
        cases rest <;> simp [trailingMarks, other first _ rfl]
  · cases rest with
    | nil => simp [trailingMarks]
    | cons first rest => simp [trailingMarks, other first _ rfl]
  · simp [trailingMarks]

/-- What a form over lines ends with. -/
def closing (mark : Char) (rest : Text) : Text := mark :: mark :: mark :: rest

/-- A string that is nothing but marks ends with those that close it. -/
theorem dropMarks?_replicate (mark : Char) (count : Nat) (rest : Text) :
    dropMarks? mark (List.replicate count mark ++ closing mark rest) =
      some (List.replicate count mark ++ rest) := by
  have front : List.replicate count mark ++ closing mark rest =
      mark :: mark :: mark :: (List.replicate count mark ++ rest) := by
    have moved := List.append_assoc (List.replicate count mark) [mark, mark, mark] rest
    have all : List.replicate count mark ++ [mark, mark, mark] =
        [mark, mark, mark] ++ List.replicate count mark := by
      show List.replicate count mark ++ List.replicate 3 mark =
        List.replicate 3 mark ++ List.replicate count mark
      rw [List.replicate_append_replicate, List.replicate_append_replicate, Nat.add_comm]
    rw [all] at moved
    exact moved.symm
  rw [front]
  simp [dropMarks?]

/-- A string that does not begin with three marks is not at its end, unless it is nothing
but marks. -/
theorem dropMarks?_append {mark : Char} {text : Text} (rest : Text)
    (unclosed : dropMarks? mark text = none) :
    (∃ count ≤ 2, text = List.replicate count mark) ∨
      dropMarks? mark (text ++ closing mark rest) = none := by
  rcases text with _ | ⟨first, _ | ⟨second, _ | ⟨third, more⟩⟩⟩
  · exact .inl ⟨0, Nat.zero_le 2, rfl⟩
  · by_cases same : first = mark
    · exact .inl ⟨1, by decide, by rw [same]; rfl⟩
    · right
      simp [dropMarks?, closing, same]
  · by_cases same : first = mark ∧ second = mark
    · exact .inl ⟨2, Nat.le_refl 2, by rw [same.1, same.2]; rfl⟩
    · right
      rw [not_and] at same
      simpa [dropMarks?, closing] using same
  · right
    simpa [dropMarks?] using unclosed

/-! ### Forms over lines -/

theorem dropMarks?_of_ne {mark first : Char} (other : first ≠ mark) (rest : Text) :
    dropMarks? mark (first :: rest) = none := by
  unfold dropMarks?
  split
  · rename_i same
    cases same
    exact if_neg fun marks => other marks.1
  · rfl

theorem readBasicLines_of_marks {text after : Text} (dropped : dropMarks? '"' text = some after) :
    readBasicLines text = some (trailingMarks '"' after) := by
  cases text with
  | nil => cases dropped
  | cons first text => rw [readBasicLines, dropped]

theorem readBasicLines_escape {c : Char} {code after : Text}
    (solid : dropEscapedNewline? code = none) (read : readEscape code = some (c, after)) :
    readBasicLines ('\\' :: code) = (readBasicLines after).map (prependTo c) := by
  rw [readBasicLines, dropMarks?_of_ne (by decide)]
  dsimp only
  rw [if_pos rfl]
  split
  · rename_i found
    rw [solid] at found
    cases found
  · split
    · rename_i missing
      rw [read] at missing
      cases missing
    · rename_i found
      rw [read] at found
      cases found
      rfl

theorem readBasicLines_newline (rest : Text) :
    readBasicLines ('\n' :: rest) = (readBasicLines rest).map (prependTo '\n') := by
  rw [readBasicLines, dropMarks?_of_ne (by decide)]
  dsimp only
  rw [if_neg (by decide)]
  rfl

/-- What may stand in a line is no newline. -/
theorem dropNewline?_of_printable {c : Char} (printable : isPrintable c = true) (rest : Text) :
    dropNewline? (c :: rest) = none := by
  unfold dropNewline?
  split
  · rename_i same
    cases same
    cases printable
  · rename_i same
    cases same
    cases printable
  · rfl

theorem readBasicLines_printed {c : Char} {rest : Text}
    (unmarked : dropMarks? '"' (c :: rest) = none) (solid : c ≠ '\\')
    (printable : isPrintable c = true) :
    readBasicLines (c :: rest) = (readBasicLines rest).map (prependTo c) := by
  have unbroken := dropNewline?_of_printable printable rest
  rw [readBasicLines, unmarked]
  dsimp only
  rw [if_neg solid]
  split
  · rename_i found
    rw [unbroken] at found
    cases found
  · rw [if_pos printable]
    rfl

/-- A form with escapes begins with a mark only where its text does and a mark is allowed. -/
theorem exists_of_escapeFrom_eq_cons {keepsNewlines : Bool} {allowed row : Nat} {text rest : Text}
    (begins : escapeFrom keepsNewlines allowed row text = '"' :: rest) :
    ∃ more, text = '"' :: more ∧ row < allowed ∧
      rest = escapeFrom keepsNewlines allowed (row + 1) more := by
  cases text with
  | nil => cases begins
  | cons first more =>
      rw [escapeFrom] at begins
      by_cases mark : first = '"'
      · subst mark
        rw [if_pos rfl] at begins
        split at begins
        · rename_i fits
          exact ⟨more, rfl, fits, (List.cons.inj begins).2.symm⟩
        · cases begins
      · have written := writesChar_escapeChar keepsNewlines first
        rw [if_neg mark] at begins
        generalize StringForm.escapeChar keepsNewlines first = code at written begins
        cases written with
        | printed => exact absurd (List.cons.inj begins).1 mark
        | newline => cases begins
        | escaped => cases begins

theorem escapeFrom_ne_nil {keepsNewlines : Bool} {allowed row : Nat} (first : Char) (text : Text) :
    escapeFrom keepsNewlines allowed row (first :: text) ≠ [] := by
  have written := writesChar_escapeChar keepsNewlines first
  rw [escapeFrom]
  split
  · split <;> exact List.cons_ne_nil _ _
  · intro nothing
    rw [(List.append_eq_nil_iff.mp nothing).1] at written
    cases written

/-- Only marks are written as nothing but marks. -/
theorem eq_replicate_of_escapeFrom {keepsNewlines : Bool} {allowed row count : Nat} {text : Text}
    (marks : escapeFrom keepsNewlines allowed row text = List.replicate count '"') :
    text = List.replicate count '"' := by
  induction count generalizing row text with
  | zero =>
      cases text with
      | nil => rfl
      | cons first text => exact absurd marks (escapeFrom_ne_nil first text)
  | succ count inductionHypothesis =>
      obtain ⟨more, rfl, -, rest⟩ := exists_of_escapeFrom_eq_cons marks
      rw [inductionHypothesis rest.symm, List.replicate_succ]

/-- No form with escapes begins with more marks than are allowed. -/
theorem le_of_replicate_prefix {keepsNewlines : Bool} {allowed row count : Nat} {text : Text}
    (begins : List.replicate (count + 1) '"' <+: escapeFrom keepsNewlines allowed row text) :
    row + (count + 1) ≤ allowed := by
  induction count generalizing row text with
  | zero =>
      obtain ⟨rest, same⟩ := begins
      obtain ⟨-, -, fits, -⟩ := exists_of_escapeFrom_eq_cons same.symm
      exact fits
  | succ count inductionHypothesis =>
      obtain ⟨rest, same⟩ := begins
      obtain ⟨more, -, -, behind⟩ := exists_of_escapeFrom_eq_cons same.symm
      have later := inductionHypothesis ⟨rest, behind⟩
      omega

theorem dropMarks?_escapeFrom (keepsNewlines : Bool) (row : Nat) (text : Text) :
    dropMarks? '"' (escapeFrom keepsNewlines 2 row text) = none := by
  unfold dropMarks?
  split
  · rename_i first second third rest same
    refine if_neg fun marks => ?_
    have begins : List.replicate 3 '"' <+: escapeFrom keepsNewlines 2 row text := by
      rw [same, marks.1, marks.2.1, marks.2.2]
      exact ⟨rest, rfl⟩
    have few := le_of_replicate_prefix begins
    omega
  · rfl

/-- Between three quotation marks, every text is read back, also behind marks of its own. -/
theorem readBasicLines_escapeFrom (row : Nat) (text : Text) {rest : Text}
    (ended : rest.head? ≠ some '"') :
    readBasicLines (escapeFrom true 2 row text ++ closing '"' rest) = some (text, rest) := by
  induction text generalizing row with
  | nil =>
      have dropped : dropMarks? '"' (closing '"' rest) = some rest := dropMarks?_replicate '"' 0 rest
      rw [escapeFrom, List.nil_append, readBasicLines_of_marks dropped]
      exact congrArg some (trailingMarks_replicate (Nat.zero_le 2) ended)
  | cons first text inductionHypothesis =>
      -- Marks that are all that is left are read together with those that close the string, so
      -- that the induction hypothesis applies only before them.
      rcases dropMarks?_append rest (dropMarks?_escapeFrom true row (first :: text)) with
        ⟨count, few, marks⟩ | unmarked
      · rw [marks, eq_replicate_of_escapeFrom marks,
          readBasicLines_of_marks (dropMarks?_replicate '"' count rest),
          trailingMarks_replicate few ended]
      · rw [escapeFrom] at unmarked ⊢
        by_cases mark : first = '"'
        · subst mark
          rw [if_pos rfl] at unmarked ⊢
          split
          · rename_i fits
            rw [if_pos fits, List.cons_append] at unmarked
            rw [List.cons_append, readBasicLines_printed unmarked (by decide) (by decide),
              inductionHypothesis]
            rfl
          · rw [List.cons_append, List.cons_append, readBasicLines_escape rfl rfl,
              inductionHypothesis]
            rfl
        · have written := writesChar_escapeChar true first
          rw [if_neg mark, List.append_assoc] at unmarked ⊢
          generalize StringForm.escapeChar true first = code at written unmarked ⊢
          cases written with
          | printed printable solid =>
              rw [List.singleton_append] at unmarked ⊢
              rw [readBasicLines_printed unmarked solid printable, inductionHypothesis]
              rfl
          | newline keeps same =>
              rw [List.singleton_append, readBasicLines_newline, inductionHypothesis, same]
              rfl
          | escaped code solid reads =>
              rw [List.cons_append, readBasicLines_escape (solid _) (reads _), inductionHypothesis]
              rfl

theorem readLiteralLines_of_marks {text after : Text}
    (dropped : dropMarks? '\'' text = some after) :
    readLiteralLines text = some (trailingMarks '\'' after) := by
  cases text with
  | nil => cases dropped
  | cons first text => rw [readLiteralLines, dropped]

theorem readLiteralLines_newline (rest : Text) :
    readLiteralLines ('\n' :: rest) = (readLiteralLines rest).map (prependTo '\n') := by
  rw [readLiteralLines, dropMarks?_of_ne (by decide)]
  rfl

theorem readLiteralLines_printed {c : Char} {rest : Text}
    (unmarked : dropMarks? '\'' (c :: rest) = none) (printable : isPrintable c = true) :
    readLiteralLines (c :: rest) = (readLiteralLines rest).map (prependTo c) := by
  have unbroken := dropNewline?_of_printable printable rest
  rw [readLiteralLines, unmarked]
  dsimp only
  split
  · rename_i found
    rw [unbroken] at found
    cases found
  · rw [if_pos printable]
    rfl

theorem dropMarks?_of_not_hasTriple {mark : Char} {text : Text}
    (single : hasTriple mark text = false) : dropMarks? mark text = none := by
  unfold dropMarks?
  split
  · refine if_neg fun marks => ?_
    simp [hasTriple, marks] at single
  · rfl

theorem not_hasTriple_tail {mark first : Char} {text : Text}
    (single : hasTriple mark (first :: text) = false) : hasTriple mark text = false := by
  rcases text with _ | ⟨second, _ | ⟨third, more⟩⟩
  · rfl
  · rfl
  · rw [hasTriple, Bool.or_eq_false_iff] at single
    exact single.2

/-- Between three apostrophes, a text without three of them in a row is read back as it is. -/
theorem readLiteralLines_append {text : Text}
    (printable : ∀ c ∈ text, isPrintable c = true ∨ c = '\n')
    (single : hasTriple '\'' text = false) {rest : Text} (ended : rest.head? ≠ some '\'') :
    readLiteralLines (text ++ closing '\'' rest) = some (text, rest) := by
  induction text with
  | nil =>
      have dropped : dropMarks? '\'' (closing '\'' rest) = some rest :=
        dropMarks?_replicate '\'' 0 rest
      rw [List.nil_append, readLiteralLines_of_marks dropped]
      exact congrArg some (trailingMarks_replicate (Nat.zero_le 2) ended)
  | cons first text inductionHypothesis =>
      rw [List.forall_mem_cons] at printable
      have behind := inductionHypothesis printable.2 (not_hasTriple_tail single)
      rcases dropMarks?_append rest (dropMarks?_of_not_hasTriple single) with
        ⟨count, few, marks⟩ | unmarked
      · rw [marks, readLiteralLines_of_marks (dropMarks?_replicate '\'' count rest),
          trailingMarks_replicate few ended]
      · rw [List.cons_append] at unmarked ⊢
        rcases printable.1 with printed | rfl
        · rw [readLiteralLines_printed unmarked printed, behind]
          rfl
        · rw [readLiteralLines_newline, behind]
          rfl

/-! ### The chosen form -/

/-- The texts that a form holds: those with escapes hold all, the others what they can hold
as it is. -/
def Fits (text : Text) : StringForm → Prop
  | .basic => True
  | .literal => (∀ c ∈ text, isPrintable c = true) ∧ '\'' ∉ text
  | .basicLines => True
  | .literalLines =>
      (∀ c ∈ text, isPrintable c = true ∨ c = '\n') ∧ hasTriple '\'' text = false

/-- Without control characters, a text can be printed but for its newlines. -/
theorem isPrintable_of_not_hasControl {text : Text} (plain : hasControl text = false) :
    ∀ c ∈ text, isPrintable c = true ∨ c = '\n' := by
  intro c member
  rw [hasControl, List.any_eq_false] at plain
  have each := plain c member
  by_cases newline : c = '\n'
  · exact .inr newline
  · left
    by_cases tab : c = '\t'
    · rw [tab]
      rfl
    · have uncontrolled : ¬(c.toNat < 32 ∨ c.toNat = 127) := by
        simpa [isControl, tab, newline] using each
      simp only [isPrintable, Bool.or_eq_true, Bool.and_eq_true, decide_eq_true_eq, bne_iff_ne]
      omega

theorem fits_choose (text : Text) : Fits text (choose text) := by
  unfold choose
  dsimp only
  split
  · trivial
  split
  · rename_i plain
    simp only [Bool.and_eq_true, Bool.not_eq_true'] at plain
    obtain ⟨⟨control, unquoted⟩, single⟩ := plain
    refine ⟨fun c member => ?_, by simpa using unquoted⟩
    refine (isPrintable_of_not_hasControl control c member).resolve_right ?_
    rintro rfl
    simp [member] at single
  split
  · trivial
  split
  · rename_i plain
    simp only [Bool.and_eq_true, Bool.not_eq_true'] at plain
    exact ⟨isPrintable_of_not_hasControl plain.1, plain.2⟩
  split <;> trivial

/-- What a form over lines holds of a text without newlines does not begin with one. -/
theorem dropNewline?_body {form : StringForm} {text : Text} (fits : Fits text form)
    (spans : form.spansLines = true) (unbroken : '\n' ∉ text) {mark : Char}
    (printable : isPrintable mark = true) (rest : Text) :
    dropNewline? (StringForm.body text form ++ closing mark rest) = none := by
  have ends : dropNewline? (closing mark rest) = none := dropNewline?_of_printable printable _
  cases form with
  | basic => cases spans
  | literal => cases spans
  | basicLines =>
      cases text with
      | nil => exact ends
      | cons first text =>
          rw [List.mem_cons, not_or] at unbroken
          rw [StringForm.body, escapeFrom]
          split
          · exact dropNewline?_of_printable (by decide) _
          · have written := writesChar_escapeChar true first
            generalize StringForm.escapeChar true first = code at written ⊢
            cases written with
            | printed printable => exact dropNewline?_of_printable printable _
            | newline _ same => exact absurd same.symm unbroken.1
            | escaped => exact dropNewline?_of_printable (by decide) _
  | literalLines =>
      cases text with
      | nil => exact ends
      | cons first text =>
          rw [List.mem_cons, not_or] at unbroken
          exact dropNewline?_of_printable
            ((fits.1 first List.mem_cons_self).resolve_right (Ne.symm unbroken.1)) _

/-- The newline that a form over lines begins with is not part of its text. -/
theorem dropFirstNewline_opening {form : StringForm} {text : Text} (fits : Fits text form)
    (spans : form.spansLines = true) {mark : Char} (printable : isPrintable mark = true)
    (rest : Text) :
    dropFirstNewline ((if form.spansLines && text.contains '\n' then ['\n'] else []) ++
        (StringForm.body text form ++ closing mark rest)) =
      StringForm.body text form ++ closing mark rest := by
  rw [spans, Bool.true_and]
  split
  · rfl
  · rename_i unbroken
    rw [List.nil_append, dropFirstNewline,
      dropNewline?_body fits spans (by simpa using unbroken) printable rest]
    rfl

/-- Two marks on one line are no three marks. -/
theorem dropMarks?_line {mark : Char} {text rest : Text} (unmarked : text.head? ≠ some mark)
    (ended : rest.head? ≠ some mark) :
    dropMarks? mark (mark :: (text ++ mark :: rest)) = none := by
  cases text with
  | nil =>
      cases rest with
      | nil => rfl
      | cons first rest =>
          have other : first ≠ mark := by simpa using ended
          simp [dropMarks?, other]
  | cons first text =>
      have other : first ≠ mark := by simpa using unmarked
      cases text <;> simp [dropMarks?, other]

/-- A form that fits a text is read back as the text. -/
theorem readString_write {form : StringForm} {text rest : Text} (fits : Fits text form)
    (unquoted : rest.head? ≠ some '"') (unmarked : rest.head? ≠ some '\'') :
    readString (StringForm.write text form ++ rest) = some (text, rest) := by
  cases form with
  | basic =>
      have begins : (escapeFrom false 0 0 text).head? ≠ some '"' := by
        intro same
        obtain ⟨more, same⟩ := List.head?_eq_some_iff.mp same
        obtain ⟨-, -, fits, -⟩ := exists_of_escapeFrom_eq_cons same
        exact absurd fits (Nat.lt_irrefl 0)
      have whole : StringForm.write text .basic ++ rest =
          '"' :: (escapeFrom false 0 0 text ++ '"' :: rest) := by
        simp [StringForm.write, StringForm.marks, StringForm.spansLines, StringForm.body]
      rw [whole, readString, dropMarks?_line begins unquoted]
      dsimp only
      rw [dropMarks?_of_ne (by decide)]
      exact readBasic_escapeFrom text rest
  | literal =>
      have begins : text.head? ≠ some '\'' := by
        intro same
        exact fits.2 (List.mem_of_head? same)
      have whole : StringForm.write text .literal ++ rest = '\'' :: (text ++ '\'' :: rest) := by
        simp [StringForm.write, StringForm.marks, StringForm.spansLines, StringForm.body]
      rw [whole, readString, dropMarks?_of_ne (by decide)]
      dsimp only
      rw [dropMarks?_line begins unmarked]
      exact readLiteral_append fits.1 fits.2 rest
  | basicLines =>
      have whole : StringForm.write text .basicLines ++ rest = closing '"'
          ((if StringForm.basicLines.spansLines && text.contains '\n' then ['\n'] else []) ++
            (StringForm.body text .basicLines ++ closing '"' rest)) := by
        simp [StringForm.write, StringForm.marks, closing]
      have dropped : ∀ after, dropMarks? '"' (closing '"' after) = some after :=
        dropMarks?_replicate '"' 0
      rw [whole, readString, dropped]
      dsimp only
      rw [dropFirstNewline_opening fits rfl (by decide)]
      exact readBasicLines_escapeFrom 0 text unquoted
  | literalLines =>
      have whole : StringForm.write text .literalLines ++ rest = closing '\''
          ((if StringForm.literalLines.spansLines && text.contains '\n' then ['\n'] else []) ++
            (StringForm.body text .literalLines ++ closing '\'' rest)) := by
        simp [StringForm.write, StringForm.marks, closing]
      have dropped : ∀ after, dropMarks? '\'' (closing '\'' after) = some after :=
        dropMarks?_replicate '\'' 0
      have other : ∀ after, dropMarks? '"' (closing '\'' after) = none := fun after =>
        dropMarks?_of_ne (by decide) _
      rw [whole, readString, other, dropped]
      dsimp only
      rw [dropFirstNewline_opening fits rfl (by decide)]
      exact readLiteralLines_append fits.1 fits.2 unmarked

/-- Every text is read back from the form that is chosen for it. -/
theorem readString_writeString (text : Text) {rest : Text} (unquoted : rest.head? ≠ some '"')
    (unmarked : rest.head? ≠ some '\'') :
    readString (writeString text ++ rest) = some (text, rest) :=
  readString_write (fits_choose text) unquoted unmarked

end LineTemplate.Toml
