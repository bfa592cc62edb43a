import Mathlib.Data.List.TakeWhile
import LineTemplate.Annotation.Call

/-!
Contract: where a text is read as a call, and what that says of longer and
shorter texts.

Owns:
- `Call.read?_eq_some_iff`, the form of what is read as a call;
- how the reading of a line changes when text is put before or behind it:
  `LinePiece.read_append`;
- `Text.opensCall`, a condition on neighbouring characters without which no text
  calls a keyword.

Does not own: the texts that expansions give.
-/

namespace LineTemplate

/-! ### The form of a call -/

namespace Call

/-- What is read as a call: the name is a word in lower case that begins with a
letter, and no parenthesis stands among the arguments. -/
structure IsFormed (written : Call) : Prop where
  begins : ∃ first rest, written.name = first :: rest ∧ Text.isLower first
  word : ∀ c ∈ written.name, Text.isLowerWord c
  flat : ∀ c ∈ written.arguments, (c != '(' && c != ')') = true

theorem isFormed_of_read? {text after : Text} {written : Call}
    (found : read? text = some (written, after)) : written.IsFormed := by
  unfold read? at found
  split at found
  · simp at found
  · rename_i first rest
    split at found
    · rename_i lower
      split at found
      · split at found
        · simp only [Option.some.injEq, Prod.mk.injEq] at found
          have belongs : Text.isLowerWord first = true := by simp [Text.isLowerWord, lower]
          obtain ⟨rfl, rfl⟩ := found
          refine ⟨⟨first, rest.takeWhile Text.isLowerWord, ?_, lower⟩, ?_, ?_⟩
          · exact List.takeWhile_cons_of_pos belongs
          · exact fun c member => List.mem_takeWhile_imp member
          · exact fun c member => List.mem_takeWhile_imp (p := fun c => c != '(' && c != ')') member
        · simp at found
      · simp at found
    · simp at found

theorem eq_append_of_read? {text after : Text} {written : Call}
    (found : read? text = some (written, after)) : text = written.text ++ after := by
  unfold read? at found
  split at found
  · simp at found
  · rename_i first rest
    split at found
    · split at found
      · rename_i inside outer
        split at found
        · rename_i remaining inner
          simp only [Option.some.injEq, Prod.mk.injEq] at found
          obtain ⟨rfl, rfl⟩ := found
          have name := List.takeWhile_append_dropWhile (p := Text.isLowerWord) (l := first :: rest)
          have arguments :=
            List.takeWhile_append_dropWhile (p := fun c => c != '(' && c != ')') (l := inside)
          rw [inner] at arguments
          rw [outer] at name
          simp only [text, List.append_assoc, List.cons_append, List.nil_append]
          rw [arguments, name]
        · simp at found
      · simp at found
    · simp at found

theorem read?_of_isFormed {written : Call} (formed : written.IsFormed) (after : Text) :
    read? (written.text ++ after) = some (written, after) := by
  obtain ⟨name, arguments⟩ := written
  obtain ⟨⟨first, rest, rfl, lower⟩, word, flat⟩ := formed
  dsimp only at flat
  have restWord : ∀ c ∈ rest, Text.isLowerWord c := fun c member => word c (by simp [member])
  have opening : Text.isLowerWord '(' = false := by decide
  have belongs : Text.isLowerWord first = true := word first (by simp)
  simp only [text, List.cons_append, List.append_assoc, List.nil_append, read?, lower, if_true]
  rw [List.dropWhile_cons_of_pos belongs, List.takeWhile_cons_of_pos belongs,
    List.dropWhile_append_of_pos restWord, List.takeWhile_append_of_pos restWord,
    List.dropWhile_cons_of_neg (by simp [opening]), List.takeWhile_cons_of_neg (by simp [opening])]
  simp only [List.dropWhile_append_of_pos flat, List.takeWhile_append_of_pos flat]
  rw [List.dropWhile_cons_of_neg (by simp), List.takeWhile_cons_of_neg (by simp)]
  simp

/-- A call is read exactly where a formed one is written. -/
theorem read?_eq_some_iff {text after : Text} {written : Call} :
    read? text = some (written, after) ↔ written.IsFormed ∧ text = written.text ++ after := by
  constructor
  · exact fun found => ⟨isFormed_of_read? found, eq_append_of_read? found⟩
  · rintro ⟨formed, rfl⟩
    exact read?_of_isFormed formed after

/-- What follows a call does not matter for its being read. -/
theorem read?_append {text after : Text} {written : Call} (more : Text)
    (found : read? text = some (written, after)) :
    read? (text ++ more) = some (written, after ++ more) := by
  obtain ⟨formed, rfl⟩ := read?_eq_some_iff.1 found
  exact read?_eq_some_iff.2 ⟨formed, by simp⟩

/-- A call ends with a closing parenthesis, so it lies before any text without
one. -/
theorem read?_of_append (text : Text) {more after : Text} {written : Call}
    (open_ : ')' ∉ more) (found : read? (text ++ more) = some (written, after)) :
    ∃ before, read? text = some (written, before) ∧ after = before ++ more := by
  obtain ⟨formed, same⟩ := read?_eq_some_iff.1 found
  rcases List.append_eq_append_iff.1 same with ⟨inside, called, rfl⟩ | ⟨inside, rfl, rfl⟩
  · have closes : (written.text).getLast? = some ')' := by
      simp [Call.text, List.getLast?_append, List.getLast?_cons]
    rcases List.eq_nil_or_concat inside with rfl | ⟨front, last, rfl⟩
    · exact ⟨[], read?_eq_some_iff.2 ⟨formed, by simpa using called.symm⟩, by simp⟩
    · rw [called] at closes
      simp only [List.concat_eq_append, ← List.append_assoc, List.getLast?_concat,
        Option.some.injEq] at closes
      exact absurd (by simp [closes]) open_
  · exact ⟨inside, read?_eq_some_iff.2 ⟨formed, rfl⟩, rfl⟩

/-- The closing parenthesis of a call is its last character. -/
theorem not_mem_of_text_eq_append {written : Call} (formed : written.IsFormed)
    {front rest : Text} (same : written.text = front ++ rest) (nonempty : rest ≠ []) :
    ')' ∉ front := by
  obtain ⟨init, last, rfl⟩ := List.eq_nil_or_concat rest |>.resolve_left nonempty
  have closed :
      (written.name ++ '(' :: written.arguments) ++ [')'] = (front ++ init) ++ [last] := by
    rw [List.concat_eq_append] at same
    rw [List.append_assoc front, ← same]
    simp [Call.text]
  obtain ⟨body, -⟩ := List.append_inj' closed rfl
  intro member
  have inside : ')' ∈ written.name ++ '(' :: written.arguments := by simp [body, member]
  rcases List.mem_append.1 inside with named | argued
  · exact absurd (formed.word _ named) (by decide)
  · rcases List.mem_cons.1 argued with isOpening | argued
    · exact absurd isOpening (by decide)
    · exact absurd (formed.flat _ argued) (by decide)

/-- A call that only the longer text begins with reaches beyond the shorter one, which
then holds no closing parenthesis. -/
theorem not_mem_of_read?_append {text more after : Text} {written : Call}
    (uncalled : read? text = none) (found : read? (text ++ more) = some (written, after)) :
    ')' ∉ text := by
  obtain ⟨formed, same⟩ := read?_eq_some_iff.1 found
  rcases List.append_eq_append_iff.1 same with ⟨inside, called, rfl⟩ | ⟨inside, called, rfl⟩
  · refine not_mem_of_text_eq_append formed called ?_
    rintro rfl
    have read := read?_of_isFormed formed []
    rw [List.append_nil, called, List.append_nil, uncalled] at read
    exact absurd read (by simp)
  · rw [called, read?_of_isFormed formed] at uncalled
    exact absurd uncalled (by simp)

end Call

/-! ### The reading of a line -/

namespace LinePiece

theorem read_nil (afterWord : Bool) : read afterWord [] = [] := by
  rw [read]

/-- Where no call is read, the first character stands for itself. -/
theorem read_cons_of_none {afterWord : Bool} {first : Char} {rest : Text}
    (plain : afterWord = true ∨ Call.read? (first :: rest) = none) :
    read afterWord (first :: rest) = .char first :: read (Text.isWord first) rest := by
  rw [read]
  rcases plain with rfl | none
  · simp
  · cases afterWord with
    | true => simp
    | false =>
        simp only [Bool.false_eq_true, if_false]
        split <;> simp_all

theorem read_of_call {text after : Text} {written : Call}
    (found : Call.read? text = some (written, after)) :
    read false text = .call written :: read false after := by
  cases text with
  | nil => simp [Call.read?] at found
  | cons first rest =>
      rw [read]
      simp only [Bool.false_eq_true, if_false]
      split <;> simp_all

/-- The pieces of a line are the line. -/
theorem flatMap_text_read (afterWord : Bool) (text : Text) :
    (read afterWord text).flatMap LinePiece.text = text := by
  fun_induction read afterWord text with
  | case1 => rfl
  | case2 first rest inductionHypothesis =>
      simp [inductionHypothesis, LinePiece.text]
  | case3 afterWord first rest _ written after found inductionHypothesis =>
      rw [List.flatMap_cons, inductionHypothesis, Call.eq_append_of_read? found]
      rfl
  | case4 _ first rest _ _ inductionHypothesis =>
      simp [inductionHypothesis, LinePiece.text]

/-- Whether a keyword is called in a text that stands behind a word character or
not. -/
def callsKeyword (afterWord : Bool) (text : Text) : Bool :=
  (read afterWord text).any fun piece => piece.keyword?.isSome

theorem callsKeyword_nil (afterWord : Bool) : callsKeyword afterWord [] = false := by
  rw [callsKeyword, read_nil]
  rfl

theorem callsKeyword_cons_of_none {afterWord : Bool} {first : Char} {rest : Text}
    (plain : afterWord = true ∨ Call.read? (first :: rest) = none) :
    callsKeyword afterWord (first :: rest) = callsKeyword (Text.isWord first) rest := by
  simp [callsKeyword, read_cons_of_none plain, keyword?]

theorem callsKeyword_of_call {text after : Text} {written : Call}
    (found : Call.read? text = some (written, after)) :
    callsKeyword false text =
      ((Keyword.find? written.name).isSome || callsKeyword false after) := by
  simp [callsKeyword, read_of_call found, keyword?]

/-- A keyword that is called has its call somewhere in the text. -/
theorem exists_call_of_callsKeyword {afterWord : Bool} {text : Text}
    (calls : callsKeyword afterWord text = true) :
    ∃ (written : Call) (before after : Text),
      (Keyword.find? written.name).isSome ∧ written.IsFormed ∧
        text = before ++ (written.text ++ after) := by
  fun_induction read afterWord text with
  | case1 afterWord => simp [callsKeyword_nil] at calls
  | case2 first rest inductionHypothesis =>
      rw [callsKeyword_cons_of_none (.inl rfl)] at calls
      obtain ⟨written, before, after, known, formed, rfl⟩ := inductionHypothesis calls
      exact ⟨written, first :: before, after, known, formed, rfl⟩
  | case3 afterWord first rest notAfter written after found inductionHypothesis =>
      rw [(Bool.not_eq_true _).mp notAfter, callsKeyword_of_call found] at calls
      obtain ⟨formed, same⟩ := Call.read?_eq_some_iff.1 found
      by_cases known : (Keyword.find? written.name).isSome
      · exact ⟨written, [], after, known, formed, same⟩
      · rw [Bool.not_eq_true] at known
        rw [known, Bool.false_or] at calls
        obtain ⟨other, before, behind, isKnown, otherFormed, rfl⟩ := inductionHypothesis calls
        exact ⟨other, written.text ++ before, behind, isKnown, otherFormed, by simp [same]⟩
  | case4 afterWord first rest _ uncalled inductionHypothesis =>
      rw [callsKeyword_cons_of_none (.inr uncalled)] at calls
      obtain ⟨written, before, after, known, formed, rfl⟩ := inductionHypothesis calls
      exact ⟨written, first :: before, after, known, formed, rfl⟩

theorem callsKeyword_of_not_mem (afterWord : Bool) {text : Text} (open_ : ')' ∉ text) :
    callsKeyword afterWord text = false := by
  by_contra calls
  rw [Bool.not_eq_false] at calls
  obtain ⟨written, before, after, _, _, rfl⟩ := exists_call_of_callsKeyword calls
  simp [Call.text] at open_

/-! ### Text before and behind -/

theorem callsKeyword_append (afterWord : Bool) {text : Text} (more : Text)
    (calls : callsKeyword afterWord text = true) :
    callsKeyword afterWord (text ++ more) = true := by
  fun_induction read afterWord text with
  | case1 afterWord => simp [callsKeyword_nil] at calls
  | case2 first rest inductionHypothesis =>
      rw [callsKeyword_cons_of_none (.inl rfl)] at calls
      rw [List.cons_append, callsKeyword_cons_of_none (.inl rfl)]
      exact inductionHypothesis calls
  | case3 afterWord first rest notAfter written after found inductionHypothesis =>
      rw [(Bool.not_eq_true _).mp notAfter] at calls ⊢
      rw [callsKeyword_of_call found] at calls
      rw [callsKeyword_of_call (Call.read?_append more found)]
      rcases Bool.or_eq_true_iff.1 calls with known | later
      · simp [known]
      · simp [inductionHypothesis later]
  | case4 afterWord first rest _ uncalled inductionHypothesis =>
      rw [callsKeyword_cons_of_none (.inr uncalled)] at calls
      cases longer : Call.read? ((first :: rest) ++ more) with
      | none =>
          rw [List.cons_append] at longer ⊢
          rw [callsKeyword_cons_of_none (.inr longer)]
          exact inductionHypothesis calls
      | some found =>
          -- Such a call leaves no closing parenthesis to the calls of the shorter text.
          have open_ : ')' ∉ rest := fun member =>
            Call.not_mem_of_read?_append uncalled longer (List.mem_cons_of_mem _ member)
          rw [callsKeyword_of_not_mem _ open_] at calls
          exact absurd calls (by simp)

/-- No call begins in a text and reaches into what follows it. -/
def Uncrossed (text more : Text) : Prop :=
  ∀ rest, rest <:+ text → rest ≠ [] → ∀ written after,
    Call.read? (rest ++ more) = some (written, after) →
      ∃ before, Call.read? rest = some (written, before) ∧ after = before ++ more

theorem Uncrossed.of_suffix {text rest more : Text} (uncrossed : Uncrossed text more)
    (ends : rest <:+ text) : Uncrossed rest more :=
  fun last suffix => uncrossed last (suffix.trans ends)

theorem uncrossed_of_not_mem (text : Text) {more : Text} (open_ : ')' ∉ more) :
    Uncrossed text more :=
  fun rest _ _ _ _ found => Call.read?_of_append rest open_ found

/-- Whether a word character stands before what follows a text. -/
def endsInWord (afterWord : Bool) (text : Text) : Bool :=
  (text.getLast?.map Text.isWord).getD afterWord

theorem endsInWord_cons (afterWord : Bool) (first : Char) (rest : Text) :
    endsInWord afterWord (first :: rest) = endsInWord (Text.isWord first) rest := by
  cases rest with
  | nil => rfl
  | cons next rest => rw [endsInWord, endsInWord, List.getLast?_cons_cons]; rfl

/-- Two texts are read one after the other where no call crosses from one to the other. -/
theorem read_append (afterWord : Bool) {text more : Text} (uncrossed : Uncrossed text more) :
    read afterWord (text ++ more) =
      read afterWord text ++ read (endsInWord afterWord text) more := by
  fun_induction read afterWord text with
  | case1 afterWord => rfl
  | case2 first rest inductionHypothesis =>
      have later := inductionHypothesis (uncrossed.of_suffix (List.suffix_cons first rest))
      rw [List.cons_append, read_cons_of_none (.inl rfl), later, endsInWord_cons]
      rfl
  | case3 afterWord first rest notAfter written after found inductionHypothesis =>
      have split := Call.eq_append_of_read? found
      have later := inductionHypothesis
        (uncrossed.of_suffix ⟨written.text, split.symm⟩)
      have closed : endsInWord afterWord (first :: rest) = endsInWord false after := by
        rw [split, endsInWord, endsInWord, List.getLast?_append]
        cases after.getLast? with
        | none => simp [Call.text, List.getLast?_append, List.getLast?_cons]; decide
        | some last => rfl
      rw [(Bool.not_eq_true _).mp notAfter] at closed ⊢
      rw [read_of_call (Call.read?_append more found), later, closed]
      rfl
  | case4 afterWord first rest _ uncalled inductionHypothesis =>
      have later := inductionHypothesis (uncrossed.of_suffix (List.suffix_cons first rest))
      have still : Call.read? (first :: (rest ++ more)) = none := by
        by_contra read
        obtain ⟨⟨written, after⟩, found⟩ := Option.ne_none_iff_exists'.1 read
        obtain ⟨before, shorter, -⟩ :=
          uncrossed (first :: rest) List.suffix_rfl (by simp) written after found
        rw [uncalled] at shorter
        exact absurd shorter (by simp)
      rw [List.cons_append, read_cons_of_none (.inr still), later, endsInWord_cons]
      rfl

theorem read_of_not_mem (afterWord : Bool) {text : Text} (open_ : ')' ∉ text) :
    read afterWord text = text.map .char := by
  induction text generalizing afterWord with
  | nil => rw [read_nil, List.map_nil]
  | cons first rest inductionHypothesis =>
      have uncalled : Call.read? (first :: rest) = none := by
        by_contra read
        obtain ⟨⟨written, after⟩, found⟩ := Option.ne_none_iff_exists'.1 read
        rw [(Call.read?_eq_some_iff.1 found).2] at open_
        simp [Call.text] at open_
      rw [read_cons_of_none (.inr uncalled), List.map_cons,
        inductionHypothesis _ (List.not_mem_of_not_mem_cons open_)]

/-- Text without a closing parenthesis is read character by character where it is put
behind. -/
theorem read_append_of_not_mem (afterWord : Bool) (text : Text) {more : Text}
    (open_ : ')' ∉ more) :
    read afterWord (text ++ more) = read afterWord text ++ more.map .char := by
  rw [read_append afterWord (uncrossed_of_not_mem text open_), read_of_not_mem _ open_]

/-- Such text calls nothing. -/
theorem callsKeyword_append_of_not_mem (afterWord : Bool) (text : Text) {more : Text}
    (open_ : ')' ∉ more) :
    callsKeyword afterWord (text ++ more) = callsKeyword afterWord text := by
  have silent : ((more.map LinePiece.char).any fun piece => piece.keyword?.isSome) = false := by
    simp [keyword?]
  rw [callsKeyword, read_append_of_not_mem afterWord text open_, List.any_append, silent,
    Bool.or_false, callsKeyword]

theorem callsKeyword_cons_of_not_lower (afterWord : Bool) {first : Char} (rest : Text)
    (notLower : Text.isLower first = false) :
    callsKeyword afterWord (first :: rest) = callsKeyword (Text.isWord first) rest :=
  callsKeyword_cons_of_none (.inr (by simp [Call.read?, notLower]))

end LinePiece

/-! ### Neighbouring characters -/

namespace Text

/-- Whether some opening parenthesis stands behind two characters of the kind that
names of keywords consist of; `run` counts those before the text. -/
def opensCall (run : Nat) : Text → Bool
  | [] => false
  | c :: rest =>
      (c == '(' && 2 ≤ run) || opensCall (if isLowerWord c then run + 1 else 0) rest

/-- How many characters of that kind stand at the end of a text. -/
def runAfter (run : Nat) : Text → Nat
  | [] => run
  | c :: rest => runAfter (if isLowerWord c then run + 1 else 0) rest

theorem opensCall_append (run : Nat) (text more : Text) :
    opensCall run (text ++ more) = (opensCall run text || opensCall (runAfter run text) more) := by
  induction text generalizing run with
  | nil => simp [opensCall, runAfter]
  | cons c rest inductionHypothesis =>
      simp [opensCall, runAfter, inductionHypothesis, Bool.or_assoc]

theorem runAfter_append (run : Nat) (text more : Text) :
    runAfter run (text ++ more) = runAfter (runAfter run text) more := by
  induction text generalizing run with
  | nil => rfl
  | cons c rest inductionHypothesis => exact inductionHypothesis _

theorem runAfter_of_word (run : Nat) {text : Text} (word : ∀ c ∈ text, isLowerWord c) :
    runAfter run text = run + text.length := by
  induction text generalizing run with
  | nil => rfl
  | cons c rest inductionHypothesis =>
      rw [runAfter, if_pos (word c (by simp)),
        inductionHypothesis _ fun c member => word c (by simp [member]), List.length_cons]
      omega

end Text

namespace Keyword

theorem two_le_length_of_find? {name : Text} {keyword : Keyword}
    (found : find? name = some keyword) : 2 ≤ name.length := by
  have long : ∀ keyword ∈ all, 2 ≤ keyword.name.length := by decide
  have same : keyword.name = name := by simpa using List.find?_some found
  rw [← same]
  exact long keyword (List.mem_of_find?_eq_some found)

end Keyword

namespace LinePiece

/-- A call to a keyword is seen from its opening parenthesis and two characters
before it. -/
theorem opensCall_of_callsKeyword (afterWord : Bool) {text : Text}
    (calls : callsKeyword afterWord text = true) (run : Nat) :
    Text.opensCall run text = true := by
  obtain ⟨written, before, after, known, formed, rfl⟩ := exists_call_of_callsKeyword calls
  obtain ⟨keyword, found⟩ := Option.isSome_iff_exists.1 known
  have long := Keyword.two_le_length_of_find? found
  have enough : 2 ≤ Text.runAfter (Text.runAfter run before) written.name := by
    rw [Text.runAfter_of_word _ formed.word]
    omega
  rw [Call.text, List.append_assoc, Text.opensCall_append, Text.opensCall_append, List.cons_append]
  simp [Text.opensCall, enough]

end LinePiece

end LineTemplate
