import LineTemplate.Annotation.Expansion
import LineTemplate.Proofs.WrittenSets

/-!
Contract: pieces of written regular expressions, read wherever they stand.

Owns:
- `Reads`, for the texts that add the same items whatever comes before and after
  them, unless a repetition follows, and `ReadsItem`, for those of one item that
  may be repeated;
- the pieces of which such texts are put together: characters, classes, sets,
  repetitions and groups;
- what a text of such pieces is read as on its own.

Does not own: which texts the engine puts together.
-/

namespace LineTemplate

namespace PatternReader

/-! ### Steps -/

theorem readFrom_nil (state : ReaderState) : readFrom state [] = state.finish? := by
  rw [readFrom]
  split
  · rfl
  · rename_i whole
    simp [skip] at whole

theorem readFrom_of_step {state next : ReaderState} {first : Char} {rest after : Text}
    (spaced : state.verbose = false) (found : step state first rest = some (next, after)) :
    readFrom state (first :: rest) = readFrom next after := by
  rw [readFrom]
  split
  · rename_i whole
    rw [spaced, skip_false] at whole
    cases whole
  · rename_i whole
    rw [spaced, skip_false] at whole
    cases whole
    rw [found]

namespace ReaderState

def addAll (state : ReaderState) (items : List Pattern) : ReaderState :=
  { state with items := items.reverse ++ state.items }

theorem addAll_append (state : ReaderState) (items more : List Pattern) :
    state.addAll (items ++ more) = (state.addAll items).addAll more := by
  simp [addAll]

end ReaderState

/-- No repetition of what stands before a text begins with it. -/
def Settles (text : Text) : Prop := ∀ c ∈ text.head?, startsRepetition c = false

theorem settles_nil : Settles [] := by simp [Settles]

theorem settles_cons {first : Char} (rest : Text) (single : startsRepetition first = false) :
    Settles (first :: rest) := by
  simpa [Settles] using single

theorem Settles.append {text rest : Text} (first : Settles text) (second : Settles rest) :
    Settles (text ++ rest) := by
  cases text with
  | nil => exact second
  | cons c text => exact first

theorem readFrom_ignoreCaseFlag {state : ReaderState} (rest : Text)
    (spaced : state.verbose = false) :
    readFrom state (ignoreCaseFlag ++ rest) =
      readFrom (state.addAll [.flags [(.ignoreCase, true)]]) rest := by
  have settings : flagSettings? ['i'] = some [(.ignoreCase, true)] := by decide
  have opening : readGroup false ('?' :: 'i' :: ')' :: rest) =
      some (.flags [(.ignoreCase, true)], rest) := by
    simp [readGroup, readFlags, endsFlags, settings]
  change readFrom state ('(' :: '?' :: 'i' :: ')' :: rest) = _
  refine readFrom_of_step spaced ?_
  change (readGroup state.verbose ('?' :: 'i' :: ')' :: rest)).map _ = _
  rw [spaced, opening]
  rfl

/-- A text adds items to the branch that is read, whatever comes before it and
whatever comes after it but a repetition. -/
structure Reads (text : Text) (items : List Pattern) : Prop where
  settles : Settles text
  readFrom_append : ∀ (state : ReaderState) (rest : Text), state.verbose = false → Settles rest →
    readFrom state (text ++ rest) = readFrom (state.addAll items) rest

/-- A text adds one item, which a repetition may follow. -/
structure ReadsItem (text : Text) (item : Pattern) : Prop where
  begins : ∃ first rest, text = first :: rest ∧ startsRepetition first = false
  readFrom_append : ∀ (state : ReaderState) (rest : Text), state.verbose = false →
    readFrom state (text ++ rest) = readFrom (state.add item) rest
  repeatable : ∀ settings, item ≠ .flags settings

/-- A text repeats what stands before it. -/
structure Repeats (text : Text) (repetition : Repetition) : Prop where
  starts : text.head?.any startsRepetition = true
  read : ∀ rest, Settles rest → readRepetition false (text ++ rest) = some (repetition, rest)

/-! ### Sequences -/

namespace Reads

theorem nil : Reads [] [] where
  settles := settles_nil
  readFrom_append _ _ _ _ := rfl

theorem append {text more : Text} {items others : List Pattern} (first : Reads text items)
    (second : Reads more others) : Reads (text ++ more) (items ++ others) where
  settles := first.settles.append second.settles
  readFrom_append state rest spaced settled := by
    rw [List.append_assoc, first.readFrom_append state _ spaced (second.settles.append settled),
      second.readFrom_append (state.addAll items) rest spaced settled, ReaderState.addAll_append]

/-- Texts of one item each are read one after the other. -/
theorem flatMap {α : Type} {text : α → Text} {item : α → Pattern}
    (each : ∀ value, Reads (text value) [item value]) (values : List α) :
    Reads (values.flatMap text) (values.map item) := by
  induction values with
  | nil => exact nil
  | cons value values inductionHypothesis =>
      rw [List.flatMap_cons, List.map_cons]
      exact (each value).append inductionHypothesis

/-- The text on its own is the sequence of its items. -/
theorem read? {text : Text} {items : List Pattern} (reads : Reads text items) :
    Pattern.read? text = some (Pattern.ofItems items) := by
  have whole := reads.readFrom_append .start [] rfl settles_nil
  rw [List.append_nil, readFrom_nil] at whole
  rw [Pattern.read?, whole]
  simp [ReaderState.finish?, ReaderState.start, ReaderState.addAll, ReaderState.content,
    Pattern.ofBranches]

theorem ignoreCaseFlag : Reads ignoreCaseFlag [.flags [(.ignoreCase, true)]] where
  settles := settles_cons ['?', 'i', ')'] (by decide)
  readFrom_append state rest spaced _ := readFrom_ignoreCaseFlag rest spaced

end Reads

/-! ### Single items -/

namespace ReadsItem

theorem settles {text : Text} {item : Pattern} (single : ReadsItem text item) : Settles text := by
  obtain ⟨first, rest, rfl, begins⟩ := single.begins
  exact settles_cons rest begins

/-- One item, followed by anything but a repetition. -/
theorem reads {text : Text} {item : Pattern} (single : ReadsItem text item) :
    Reads text [item] where
  settles := single.settles
  readFrom_append state rest spaced _ := single.readFrom_append state rest spaced

/-- A text of one step, which adds one item. -/
theorem of_step {first : Char} {rest : Text} {item : Pattern}
    (single : startsRepetition first = false)
    (found : ∀ (state : ReaderState) (more : Text), state.verbose = false →
      step state first (rest ++ more) = some (state.add item, more))
    (repeatable : ∀ settings, item ≠ .flags settings) : ReadsItem (first :: rest) item where
  begins := ⟨first, rest, rfl, single⟩
  readFrom_append state more spaced := readFrom_of_step spaced (found state more spaced)
  repeatable := repeatable

theorem literal {c : Char} (bare : Literal.isMeta c = false) :
    ReadsItem [c] (.atom (.literal c false)) := by
  have other : ∀ special, Literal.isMeta special = true → c ≠ special := by
    rintro special known rfl
    rw [known] at bare
    exact absurd bare (by decide)
  have single : startsRepetition c = false := by
    simp [startsRepetition, other '*' (by decide), other '+' (by decide), other '?' (by decide),
      other '\x7b' (by decide)]
  refine of_step single (fun state more _ => ?_) (by simp)
  unfold step
  rw [if_neg (other '(' (by decide)), if_neg (other ')' (by decide)),
    if_neg (other '|' (by decide)), if_neg (other '[' (by decide)), single,
    if_neg Bool.false_ne_true,
    if_neg (other '\\' (by decide)), if_neg (other '.' (by decide)), if_neg (other '^' (by decide)),
    if_neg (other '$' (by decide))]
  rfl

theorem escape {c : Char} {atom : Atom}
    (found : ∀ rest, readEscape false (c :: rest) = some (atom, rest)) :
    ReadsItem ['\\', c] (.atom atom) := by
  refine of_step (by decide) (fun state more spaced => ?_) (by simp)
  rw [List.cons_append, List.nil_append]
  simp [step, startsRepetition, spaced, found]

theorem escapeChar (c : Char) : ReadsItem (Literal.escapeChar c) (.atom (.literal c false)) := by
  cases special : Literal.isMeta c with
  | false =>
      rw [Literal.escapeChar, special]
      exact literal special
  | true =>
      rw [Literal.escapeChar, special]
      refine escape fun rest => ?_
      have escapable : "\\.+*?()|[]\x7b\x7d^$#&-~".toList.all isEscapable = true := by decide
      exact readEscape_of_isEscapable
        (List.all_eq_true.1 escapable c (by simpa [Literal.isMeta] using special)) rest

theorem lineStart : ReadsItem ['^'] (.atom (.assertion .lineStart)) :=
  of_step (by decide) (fun _ _ _ => rfl) (by simp)

theorem lineEnd : ReadsItem ['$'] (.atom (.assertion .lineEnd)) :=
  of_step (by decide) (fun _ _ _ => rfl) (by simp)

theorem set {members : List SetMember} (whole : SetMember.areWhole members = true) :
    ReadsItem ('[' :: (members.flatMap SetMember.text ++ [']']))
      (.set false (CharSet.ofMembers (members.map SetMember.set))) := by
  refine of_step (by decide) (fun state more spaced => ?_) (by simp)
  change (readBracket state.verbose _).map _ = _
  rw [spaced, List.append_assoc, List.singleton_append, readBracket_members whole]
  rfl

end ReadsItem

/-! ### Repetitions -/

theorem step_of_startsRepetition (state : ReaderState) {first : Char} (rest : Text)
    (starts : startsRepetition first = true) :
    step state first rest =
      (readRepetition state.verbose (first :: rest)).bind fun (repetition, after) =>
        (state.repeat? repetition).map fun state => (state, after) := by
  have other : ∀ special, startsRepetition special = false → first ≠ special := by
    rintro special single rfl
    rw [starts] at single
    exact absurd single (by decide)
  unfold step
  rw [if_neg (other '(' (by decide)), if_neg (other ')' (by decide)),
    if_neg (other '|' (by decide)), if_neg (other '[' (by decide)), if_pos starts]

theorem repeat?_add (state : ReaderState) {item : Pattern} (repetition : Repetition)
    (repeatable : ∀ settings, item ≠ .flags settings) :
    (state.add item).repeat? repetition =
      some (state.add
        (.repeated item repetition.least repetition.most repetition.greedy)) := by
  cases item with
  | flags settings => exact absurd rfl (repeatable settings)
  | _ => rfl

/-- Nothing that settles makes a repetition take little. -/
theorem readLazy_of_settles {repetition : Repetition} {rest : Text} (settled : Settles rest) :
    readLazy repetition rest = (repetition, rest) := by
  unfold readLazy
  split
  · exact absurd (settled '?' (by simp)) (by decide)
  · rfl

namespace Repeats

theorem sign {c : Char} {repetition : Repetition} (starts : startsRepetition c = true)
    (found : ∀ rest, readRepetition false (c :: rest) = some (readLazy repetition rest)) :
    Repeats [c] repetition where
  starts := by simpa using starts
  read rest settled := by
    rw [List.singleton_append, found, readLazy_of_settles settled]

theorem star : Repeats ['*'] ⟨0, none, true⟩ := sign (by decide) fun _ => rfl

theorem plus : Repeats ['+'] ⟨1, none, true⟩ := sign (by decide) fun _ => rfl

theorem optional : Repeats ['?'] ⟨0, some 1, true⟩ := sign (by decide) fun _ => rfl

theorem braces {bounds : Text} {repetition : Repetition}
    (found : ∀ rest, readBounds false (bounds ++ rest) = some (repetition, rest)) :
    Repeats ('\x7b' :: bounds) repetition where
  starts := rfl
  read rest settled := by
    rw [List.cons_append, readRepetition, found, Option.map_some]
    dsimp only
    rw [skip_false, readLazy_of_settles settled]

/-- A single digit is read as a number of repetitions. -/
theorem readCount_digit {digit next : Char} (known : digit ∈ "0123456789".toList)
    (ends : Text.isDigit next = false) (solid : Text.isBlank next = false) (rest : Text) :
    readCount false (digit :: next :: rest) =
      (some (Nat.ofDigitChars 10 [digit] 0), next :: rest) := by
  have checked : "0123456789".toList.all
      (fun digit => Text.isDigit digit && !Text.isBlank digit) = true := by decide
  obtain ⟨isDigit, visible⟩ : Text.isDigit digit = true ∧ Text.isBlank digit = false := by
    simpa using List.all_eq_true.1 checked digit known
  have digits : readDigits false [] (digit :: next :: rest) = ([digit], next :: rest) := by
    simp [readDigits, isDigit, ends]
  simp [readCount, Text.trimStart, visible, digits, solid]

theorem repetition?_digits {least most : Char} (leastKnown : least ∈ "0123456789".toList)
    (mostKnown : most ∈ "0123456789".toList)
    (ordered : Nat.ofDigitChars 10 [least] 0 ≤ Nat.ofDigitChars 10 [most] 0) :
    repetition? (Nat.ofDigitChars 10 [least] 0) (some (Nat.ofDigitChars 10 [most] 0)) =
      some ⟨Nat.ofDigitChars 10 [least] 0, some (Nat.ofDigitChars 10 [most] 0), true⟩ := by
  have checked : "0123456789".toList.all
      (fun digit => Nat.ofDigitChars 10 [digit] 0 < countLimit) = true := by decide
  have small : ∀ digit ∈ "0123456789".toList, Nat.ofDigitChars 10 [digit] 0 < countLimit := by
    simpa using checked
  exact if_pos ⟨small least leastKnown, small most mostKnown, ordered⟩

theorem times (digit : Char) (known : digit ∈ "0123456789".toList) :
    Repeats ['\x7b', digit, '\x7d']
      ⟨Nat.ofDigitChars 10 [digit] 0, some (Nat.ofDigitChars 10 [digit] 0), true⟩ := by
  refine braces fun rest => ?_
  rw [List.cons_append, List.singleton_append, readBounds, skip_false,
    readCount_digit known (by decide) (by decide)]
  simp [repetition?_digits known known (Nat.le_refl _)]

theorem between (least most : Char) (leastKnown : least ∈ "0123456789".toList)
    (mostKnown : most ∈ "0123456789".toList)
    (ordered : Nat.ofDigitChars 10 [least] 0 ≤ Nat.ofDigitChars 10 [most] 0) :
    Repeats ['\x7b', least, ',', most, '\x7d']
      ⟨Nat.ofDigitChars 10 [least] 0, some (Nat.ofDigitChars 10 [most] 0), true⟩ := by
  refine braces fun rest => ?_
  have other : most ≠ '\x7d' := by
    rintro rfl
    exact absurd mostKnown (by decide)
  have upper : readCount false (most :: '\x7d' :: rest) =
      (some (Nat.ofDigitChars 10 [most] 0), '\x7d' :: rest) :=
    readCount_digit mostKnown (by decide) (by decide) rest
  change readBounds false (least :: ',' :: most :: '\x7d' :: rest) = _
  rw [readBounds, skip_false, readCount_digit leastKnown (by decide) (by decide)]
  simp [readUpper, upper, other, repetition?_digits leastKnown mostKnown ordered]

end Repeats

namespace ReadsItem

theorem repeated {text more : Text} {item : Pattern} {repetition : Repetition}
    (single : ReadsItem text item) (repeats : Repeats more repetition) :
    Reads (text ++ more)
      [.repeated item repetition.least repetition.most repetition.greedy] where
  settles := by
    obtain ⟨first, rest, rfl, begins⟩ := single.begins
    exact settles_cons (rest ++ more) begins
  readFrom_append state rest spaced settled := by
    rw [List.append_assoc, single.readFrom_append state _ spaced]
    have starts := repeats.starts
    cases more with
    | nil => simp at starts
    | cons first more =>
        have read := repeats.read rest settled
        refine readFrom_of_step spaced ?_
        rw [step_of_startsRepetition _ _ (by simpa using starts)]
        change (readRepetition state.verbose (first :: more ++ rest)).bind _ = _
        rw [spaced, read, Option.bind_some]
        dsimp only
        rw [repeat?_add state repetition single.repeatable]
        rfl

end ReadsItem

/-! ### Groups -/

/-- Branches up to a closing parenthesis end up in the innermost group. -/
theorem exists_readFrom_branches {branches : List (Text × List Pattern)}
    (filled : branches ≠ []) (each : ∀ branch ∈ branches, Reads branch.1 branch.2)
    {state : ReaderState} (spaced : state.verbose = false) (fresh : state.items = [])
    (rest : Text) :
    ∃ ended : ReaderState,
      readFrom state (['|'].intercalate (branches.map Prod.fst) ++ ')' :: rest) =
          readFrom ended (')' :: rest) ∧
        ended.surrounding = state.surrounding ∧ ended.verbose = false ∧
        ended.content = Pattern.ofBranches
          (state.branches.reverse ++ branches.map fun branch => Pattern.ofItems branch.2) := by
  have closes : ∀ more, Settles (')' :: more) := fun more => settles_cons more (by decide)
  have splits : ∀ more, Settles ('|' :: more) := fun more => settles_cons more (by decide)
  -- The state is general: every bar leaves one more branch behind it.
  induction branches generalizing state with
  | nil => exact absurd rfl filled
  | cons branch branches inductionHypothesis =>
      have first := each branch (by simp)
      cases branches with
      | nil =>
          refine ⟨state.addAll branch.2, ?_, rfl, spaced, ?_⟩
          · simpa using first.readFrom_append state _ spaced (closes rest)
          · simp [ReaderState.content, ReaderState.addAll, fresh]
      | cons next others =>
          have keeps : (state.addAll branch.2).endBranch.verbose = false := spaced
          obtain ⟨ended, read, around, kept, content⟩ := inductionHypothesis (by simp)
            (fun other member => each other (by simp [member])) keeps rfl
          refine ⟨ended, ?_, around, kept, ?_⟩
          · rw [List.map_cons, List.map_cons, List.intercalate_cons_cons, List.append_assoc,
              List.append_assoc, List.singleton_append,
              first.readFrom_append state _ spaced (splits _), ← read]
            exact readFrom_of_step spaced rfl
          · rw [content]
            simp [ReaderState.endBranch, ReaderState.addAll, fresh]

namespace ReadsItem

/-- A group of branches behind an opening of its own. -/
theorem group_of_readGroup (opening : Text) (kind : GroupKind)
    (branches : List (Text × List Pattern))
    (found : ∀ rest, readGroup false (opening ++ rest) = some (.group kind, rest))
    (keeps : ∀ state : ReaderState, state.verbose = false →
      (state.opened (.group kind)).verbose = false)
    (filled : branches ≠ []) (each : ∀ branch ∈ branches, Reads branch.1 branch.2) :
    ReadsItem ('(' :: (opening ++ (['|'].intercalate (branches.map Prod.fst) ++ [')'])))
      (.group kind
        (Pattern.ofBranches (branches.map fun branch => Pattern.ofItems branch.2))) where
  begins := ⟨'(', _, rfl, by decide⟩
  readFrom_append state rest spaced := by
    obtain ⟨ended, read, around, kept, content⟩ := exists_readFrom_branches filled each
      (keeps state spaced) rfl rest
    have opens :
        step state '(' (opening ++ (['|'].intercalate (branches.map Prod.fst) ++ ')' :: rest)) =
          some (state.opened (.group kind),
            ['|'].intercalate (branches.map Prod.fst) ++ ')' :: rest) := by
      change (readGroup state.verbose _).map _ = _
      rw [spaced, found]
      rfl
    have closes : step ended ')' rest =
        some (state.add (.group kind
          (Pattern.ofBranches (branches.map fun branch => Pattern.ofItems branch.2))), rest) := by
      change ended.close?.map _ = _
      rw [ReaderState.close?, around, content]
      rfl
    rw [List.cons_append, List.append_assoc, List.append_assoc, List.singleton_append,
      readFrom_of_step spaced opens, read, readFrom_of_step kept closes]
  repeatable _ := by simp

/-- A group that only holds branches together. -/
theorem group {branches : List (Text × List Pattern)} (filled : branches ≠ [])
    (each : ∀ branch ∈ branches, Reads branch.1 branch.2) :
    ReadsItem ("(?:".toList ++ (['|'].intercalate (branches.map Prod.fst) ++ [')']))
      (.group (.plain [])
        (Pattern.ofBranches (branches.map fun branch => Pattern.ofItems branch.2))) := by
  have settings : flagSettings? [] = some [] := by decide
  refine group_of_readGroup ['?', ':'] (.plain []) branches (fun rest => ?_)
    (fun state spaced => ?_) filled each
  · simp [readGroup, readFlags, endsFlags, settings]
  · simp [ReaderState.opened, spaced]

theorem capture {name text : Text} {items : List Pattern} (proper : isGroupName name = true)
    (closed : '>' ∉ name) (reads : Reads text items) :
    ReadsItem ("(?P<".toList ++ name ++ ['>'] ++ text ++ [')'])
      (.group (.capture (some name)) (Pattern.ofItems items)) := by
  have opening : ∀ rest, readGroup false ('?' :: 'P' :: '<' :: (name ++ '>' :: rest)) =
      some (.group (.capture (some name)), rest) := by
    intro rest
    have before : ∀ c ∈ name, (c != '>') = true := by
      rintro c member
      rw [bne_iff_ne]
      rintro rfl
      exact closed member
    simp [readGroup, readGroupName, List.dropWhile_append_of_pos before,
      List.takeWhile_append_of_pos before, proper]
  have whole := group_of_readGroup ('?' :: 'P' :: '<' :: (name ++ ['>']))
    (.capture (some name)) [(text, items)]
    (fun rest => by simpa using opening rest) (fun state spaced => spaced) (by simp)
    (by simpa using reads)
  simpa [Pattern.ofBranches] using whole

end ReadsItem

end PatternReader

end LineTemplate
