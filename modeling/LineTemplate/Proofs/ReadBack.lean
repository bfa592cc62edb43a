import LineTemplate.Proofs.BuiltTemplates
import LineTemplate.Proofs.CommentBlock

/-!
Contract: templates, read back from their text.

Owns:
- that a declaration is read as the variable that it declares;
- the lines of a rendered template, and how empty ones part them;
- `Template.build_readsBack`: the text of a built template says what its variables and its
  states are.

Does not own: why the parts of a built template are as they are.

The reader meets the builder at `Template.IsSound`: what is sound is read back, and what is
built is sound.
-/

namespace LineTemplate

/-- What is read back one by one is read back as a list. -/
theorem mapM_map_eq_some {α β : Type} {write : α → β} {read : β → Option α} {values : List α}
    (each : ∀ value ∈ values, read (write value) = some value) :
    (values.map write).mapM read = some values := by
  induction values with
  | nil => rfl
  | cons value values inductionHypothesis =>
      obtain ⟨first, others⟩ := List.forall_mem_cons.mp each
      rw [List.map_cons, List.mapM_cons, first, inductionHypothesis others]
      rfl

/-! ### Declarations -/

/-- Between two texts stands the separator only. -/
theorem Text.mem_of_mem_intercalate {separator : Text} {each : List Text} {c : Char}
    (member : c ∈ separator.intercalate each) : c ∈ separator ∨ ∃ text ∈ each, c ∈ text := by
  induction each with
  | nil => cases member
  | cons first more inductionHypothesis =>
      by_cases nothing : more = []
      · rw [nothing, List.intercalate_singleton] at member
        exact .inr ⟨first, List.mem_cons_self, member⟩
      · rw [List.intercalate_cons_of_ne_nil nothing, List.mem_append, List.mem_append] at member
        rcases member with (inFirst | between) | later
        · exact .inr ⟨first, List.mem_cons_self, inFirst⟩
        · exact .inl between
        · rcases inductionHypothesis later with between | ⟨text, among, inside⟩
          · exact .inl between
          · exact .inr ⟨text, List.mem_cons_of_mem _ among, inside⟩

/-- A text is split at a space behind characters of which none is one. -/
theorem Text.splitAtFirst?_space {before : Text} (absent : ' ' ∉ before) (after : Text) :
    splitAtFirst? [' '] (before ++ ' ' :: after) = some (before, after) := by
  induction before with
  | nil => rfl
  | cons first before inductionHypothesis =>
      have other : (' ' == first) = false := by
        simpa using List.ne_of_not_mem_cons absent
      rw [List.cons_append, splitAtFirst?, List.isPrefixOf?, other]
      dsimp only
      rw [if_neg Bool.false_ne_true, inductionHypothesis (List.not_mem_of_not_mem_cons absent)]
      rfl

namespace ValueOption

theorem ofName?_name (option : ValueOption) : ofName? option.name = some option := by
  cases option <;> decide

theorem not_mem_name (option : ValueOption) {c : Char} (other : Text.isLetter c = false) :
    c ∉ option.name := by
  have letters : option.name.all Text.isLetter = true := by
    cases option <;> decide
  intro member
  rw [List.all_eq_true.mp letters c member] at other
  cases other

end ValueOption

namespace Variable

/-- The options of a declaration as they are written before the name. -/
def optionsText (options : List ValueOption) : Text :=
  [','].intercalate (options.map ValueOption.name)

theorem mapM_splitOn_optionsText {options : List ValueOption} (given : options ≠ []) :
    ((optionsText options).splitOn ',').mapM ValueOption.ofName? = some options := by
  have apart : ∀ name ∈ options.map ValueOption.name, ',' ∉ name := by
    intro name among
    obtain ⟨option, -, rfl⟩ := List.mem_map.mp among
    exact option.not_mem_name (by decide)
  rw [optionsText, List.splitOn_intercalate ',' apart (by simpa using given)]
  exact mapM_map_eq_some fun option _ => option.ofName?_name

theorem not_mem_optionsText (options : List ValueOption) {c : Char}
    (other : Text.isLetter c = false) (single : c ≠ ',') : c ∉ optionsText options := by
  intro member
  rcases Text.mem_of_mem_intercalate member with comma | ⟨name, among, inside⟩
  · exact single (List.mem_singleton.mp comma)
  · obtain ⟨option, -, rfl⟩ := List.mem_map.mp among
    exact option.not_mem_name other inside

theorem insideParentheses?_enclosed (text : Text) :
    insideParentheses? ('(' :: (text ++ [')'])) = some text := by
  have last : (text ++ [')']).getLast? = some ')' := List.getLast?_concat
  rw [insideParentheses?, if_pos last, List.dropLast_concat]

/-- Without options, the name is the first word. -/
theorem readName?_of_noOptions {name : Text} (solid : ' ' ∉ name) (rest : Text) :
    readName? (name ++ ' ' :: '(' :: rest) = some ([], name, '(' :: rest) := by
  rw [readName?, Text.splitAtFirst?_space solid]
  rfl

/-- Behind options, the name is the second word; it does not begin as a pattern does. -/
theorem readName?_of_options {options : List ValueOption} (given : options ≠ [])
    {first : Char} {name : Text} (letter : first ≠ '(') (solid : ' ' ∉ first :: name)
    (rest : Text) :
    readName? (optionsText options ++ ' ' :: (first :: name ++ ' ' :: rest)) =
      some (options, first :: name, rest) := by
  have separate : ' ' ∉ optionsText options := not_mem_optionsText options (by decide) (by decide)
  have split := Text.splitAtFirst?_space solid rest
  rw [readName?, Text.splitAtFirst?_space separate]
  simp only [Option.bind_eq_bind, Option.bind_some, mapM_splitOn_optionsText given]
  split
  · rename_i opening
    simp only [List.cons_append, List.cons.injEq] at opening
    exact absurd opening.1 letter
  · rw [split]
    rfl

/-- What stands before the name in a declaration. -/
def optionsPart (options : List ValueOption) : Text :=
  if options.isEmpty then [] else optionsText options ++ [' ']

theorem definition_eq (captured : Variable) :
    captured.definition = "Value ".toList ++
      (optionsPart captured.options ++
        (captured.name ++ ' ' :: '(' :: (captured.pattern ++ [')']))) := by
  have opening : " (".toList = [' ', '('] := rfl
  unfold definition optionsPart optionsText
  rw [opening]
  simp only [List.append_assoc, List.cons_append, List.nil_append]

theorem readName?_optionsPart {name : Text} (proper : Text.isVariableName name = true)
    (options : List ValueOption) (rest : Text) :
    readName? (optionsPart options ++ (name ++ ' ' :: '(' :: rest)) =
      some (options, name, '(' :: rest) := by
  have solid : ' ' ∉ name := Text.not_mem_of_isVariableName proper (by decide)
  cases options with
  | nil => exact readName?_of_noOptions solid rest
  | cons option options =>
      cases name with
      | nil => cases proper
      | cons first name =>
          have letter : first ≠ '(' := by
            rintro rfl
            cases proper
          rw [optionsPart, List.isEmpty_cons, if_neg Bool.false_ne_true, List.append_assoc]
          exact readName?_of_options (List.cons_ne_nil option options) letter solid _

/-- A declaration is read as the variable that it declares. -/
theorem read?_definition {captured : Variable}
    (proper : Text.isVariableName captured.name = true) :
    read? captured.definition = some captured := by
  have begins : "Value ".toList.isPrefixOf? captured.definition =
      some (optionsPart captured.options ++
        (captured.name ++ ' ' :: '(' :: (captured.pattern ++ [')']))) := by
    rw [List.isPrefixOf?_eq_some_iff_append_eq]
    exact (definition_eq captured).symm
  rw [read?, begins]
  simp only [Option.bind_eq_bind, Option.bind_some, readName?_optionsPart proper,
    insideParentheses?_enclosed]

theorem head?_definition (captured : Variable) : captured.definition.head? = some 'V' := rfl

theorem not_mem_definition {captured : Variable}
    (proper : Text.isVariableName captured.name = true) (unbroken : '\n' ∉ captured.pattern) :
    '\n' ∉ captured.definition := by
  have name : '\n' ∉ captured.name := Text.not_mem_of_isVariableName proper (by decide)
  have options : '\n' ∉ optionsPart captured.options := by
    unfold optionsPart
    split
    · exact List.not_mem_nil
    · rw [List.mem_append, not_or]
      exact ⟨not_mem_optionsText _ (by decide) (by decide), by decide⟩
  rw [definition_eq]
  simp [name, options, unbroken]

end Variable

/-! ### Blocks of lines -/

namespace Template

/-- Empty lines part the declarations from the states, and these from each other. -/
theorem splitOn_blocks {front : List Text} {states : List State} (filled : [] ∉ front)
    (named : ∀ state ∈ states, [] ∉ state.name :: state.statements) :
    (front ++ states.flatMap State.lines).splitOn [] =
      front :: states.map fun state => state.name :: state.statements := by
  induction states generalizing front with
  | nil => simpa using List.splitOn_eq_singleton filled
  | cons state states inductionHypothesis =>
      obtain ⟨first, others⟩ := List.forall_mem_cons.mp named
      rw [List.flatMap_cons, State.lines, List.cons_append, List.splitOn_append_cons_self,
        List.splitOn_eq_singleton filled, inductionHypothesis first others]
      rfl

/-- A template that can be read back: every name of a state and every rule is a line of its
own and not empty, and variables have proper names and patterns without a newline. -/
structure IsReadable (template : Template) : Prop where
  filled : ∀ state ∈ template.states, [] ∉ state.name :: state.statements
  unbroken : ∀ state ∈ template.states, ∀ line ∈ state.name :: state.statements, '\n' ∉ line
  variableNames : ∀ known ∈ template.declared, Text.isVariableName known.name = true
  patterns : ∀ known ∈ template.declared, '\n' ∉ known.pattern

/-- The lines of a template without a block of comments. -/
def bodyLines (template : Template) : List Text :=
  template.declared.map Variable.definition ++ template.states.flatMap State.lines

/-- The lines of the comments of a template. -/
def commentLines (template : Template) : List Text :=
  template.metadata.toList.flatMap fun block => block.render.splitOn '\n'

variable {template : Template}

theorem IsReadable.unbroken_bodyLines (readable : template.IsReadable) :
    ∀ line ∈ template.bodyLines, '\n' ∉ line := by
  intro line among
  rcases List.mem_append.mp among with declared | inState
  · obtain ⟨known, member, rfl⟩ := List.mem_map.mp declared
    exact Variable.not_mem_definition (readable.variableNames known member)
      (readable.patterns known member)
  · obtain ⟨state, member, inside⟩ := List.mem_flatMap.mp inState
    rcases List.mem_cons.mp inside with rfl | behind
    · exact List.not_mem_nil
    · exact readable.unbroken state member line behind

/-- A template is written line by line, its comments first. -/
theorem IsReadable.endedLines_render (readable : template.IsReadable) :
    endedLines template.render = template.commentLines ++ template.bodyLines := by
  have body := endedLines_of_unbroken readable.unbroken_bodyLines
  obtain ⟨metadata, declared, states⟩ := template
  cases metadata with
  | none =>
      rw [← body]
      rfl
  | some metadata =>
      rw [render_withMetadata, endedLines_endLine_append, ← body]
      simp only [commentLines, Option.toList_some, List.flatMap_singleton]
      rfl

/-- Neither a declaration nor an empty line is a comment. -/
theorem dropWhile_bodyLines (template : Template) :
    (template.bodyLines.dropWhile fun line => line.head? = some '#') = template.bodyLines := by
  obtain ⟨metadata, declared, states⟩ := template
  cases declared with
  | nil =>
      cases states with
      | nil => rfl
      | cons state states => rfl
  | cons known declared =>
      exact List.dropWhile_cons_of_neg (by simp [Variable.head?_definition])

theorem head?_of_mem_commentLines
    (commented : ∀ block ∈ template.metadata, block.StaysCommented) :
    ∀ line ∈ template.commentLines, line.head? = some '#' := by
  intro line among
  obtain ⟨block, present, inside⟩ := List.mem_flatMap.mp among
  have stays := commented block (Option.mem_toList.mp present)
  exact block.isCommented_render_iff.mpr stays line inside

/-- Below its comments, a template has the lines of its declarations and its states. -/
theorem IsReadable.linesBelow_render (readable : template.IsReadable)
    (commented : ∀ block ∈ template.metadata, block.StaysCommented) :
    linesBelow template.render = template.bodyLines := by
  have passed : ∀ line ∈ template.commentLines, (decide (line.head? = some '#')) = true :=
    fun line among => decide_eq_true (head?_of_mem_commentLines commented line among)
  rw [linesBelow, readable.endedLines_render, dropWhile_append_eq_iff.mpr passed,
    dropWhile_bodyLines]

/-- A template that can be read back is, from its text. -/
theorem IsReadable.read?_render (readable : template.IsReadable)
    (commented : ∀ block ∈ template.metadata, block.StaysCommented) :
    read? template.render = some (template.declared, template.states) := by
  have solid : [] ∉ template.declared.map Variable.definition := by
    intro among
    obtain ⟨known, -, nothing⟩ := List.mem_map.mp among
    have head := known.head?_definition
    rw [nothing] at head
    cases head
  have parted : (linesBelow template.render).splitOn [] =
      template.declared.map Variable.definition ::
        template.states.map fun state => state.name :: state.statements := by
    rw [readable.linesBelow_render commented]
    exact splitOn_blocks solid readable.filled
  have declarations := mapM_map_eq_some fun known among =>
    Variable.read?_definition (readable.variableNames known among)
  have states : (template.states.map fun state => state.name :: state.statements).mapM
      State.ofBlock? = some template.states := mapM_map_eq_some fun _ _ => rfl
  rw [linesBelow] at parted
  rw [read?, parted]
  simp only [declarations, states, Option.bind_eq_bind, Option.bind_some]

theorem IsSound.isReadable {defaultState text : Text}
    (sound : template.IsSound defaultState text)
    (named : defaultState ≠ []) (unbroken : '\n' ∉ defaultState) : template.IsReadable := by
  refine ⟨?_, ?_, sound.variableNames, sound.patterns⟩
  · intro state among nothing
    rcases List.mem_cons.mp nothing with noName | noRule
    · rcases sound.names state among with same | isName
      · exact named (same ▸ noName.symm)
      · exact isName.nonempty noName.symm
    · obtain ⟨rest, whole⟩ := sound.rules state among [] noRule
      cases whole
  · intro state among line inside
    rcases List.mem_cons.mp inside with rfl | isRule
    · rcases sound.names state among with same | isName
      · rwa [same]
      · exact isName.not_mem (by decide)
    · exact sound.unbroken state among line isRule

variable {judge : PatternJudge} {defaultState text : Text} {metadata : Option Metadata}

theorem staysCommented_of_buildBy
    (built : buildBy judge defaultState metadata text = .ok template)
    (plain : ∀ block ∈ metadata, ∀ value ∈ block.plainFields, '\n' ∉ value) :
    ∀ block ∈ template.metadata, block.StaysCommented := by
  obtain ⟨-, -, same, -⟩ := exists_statements_of_buildBy built
  intro block present
  exact Metadata.staysCommented_of_unbroken (plain block (same ▸ present))

theorem read?_render_of_buildBy (named : defaultState ≠ []) (unbroken : '\n' ∉ defaultState)
    (plain : ∀ block ∈ metadata, ∀ value ∈ block.plainFields, '\n' ∉ value)
    (built : buildBy judge defaultState metadata text = .ok template) :
    read? template.render = some (template.declared, template.states) :=
  ((sound_of_buildBy built).isReadable named unbroken).read?_render
    (staysCommented_of_buildBy built plain)

/-- The text of a template says what its variables and its states are: they are read back,
the comments come first, every rule is a line of its own that begins as finished rules do,
and no template with other variables or states has the same text. -/
structure ReadsBack (template : Template) : Prop where
  read : read? template.render = some (template.declared, template.states)
  lines : endedLines template.render = template.commentLines ++ template.bodyLines
  comments : ∀ line ∈ template.commentLines, line.head? = some '#'
  rules : ∀ state ∈ template.states, ∀ rule ∈ state.statements,
    Line.ruleStart <+: rule ∧ '\n' ∉ rule
  unique : ∀ (judge : PatternJudge) (otherState otherText : Text)
    (otherMetadata : Option Metadata) (other : Template),
    otherState ≠ [] → '\n' ∉ otherState →
    (∀ block ∈ otherMetadata, ∀ value ∈ block.plainFields, '\n' ∉ value) →
    buildBy judge otherState otherMetadata otherText = .ok other →
    other.render = template.render →
    other.declared = template.declared ∧ other.states = template.states

/-- Every built template reads back, if its default state is a line and so are the fields of
its metadata that are written as they are. -/
theorem build_readsBack (named : defaultState ≠ []) (unbroken : '\n' ∉ defaultState)
    (plain : ∀ block ∈ metadata, ∀ value ∈ block.plainFields, '\n' ∉ value)
    (built : buildBy judge defaultState metadata text = .ok template) : template.ReadsBack := by
  have sound := sound_of_buildBy built
  have commented := staysCommented_of_buildBy built plain
  have read := read?_render_of_buildBy named unbroken plain built
  refine ⟨read, (sound.isReadable named unbroken).endedLines_render,
    head?_of_mem_commentLines commented, ?_, ?_⟩
  · intro state among rule inside
    exact ⟨sound.rules state among rule inside, sound.unbroken state among rule inside⟩
  · intro judge otherState otherText otherMetadata other otherNamed otherUnbroken otherPlain
      otherBuilt same
    have again := read?_render_of_buildBy otherNamed otherUnbroken otherPlain otherBuilt
    rw [same, read] at again
    have parts := Prod.ext_iff.mp (Option.some.inj again)
    exact ⟨parts.1.symm, parts.2.symm⟩

/-- Options, a state without rules, a directive and a block of comments are told apart. -/
theorem build_readsBack_commented :
    (startState ≠ [] ∧ '\n' ∉ startState ∧
      (∀ block ∈ some (Metadata.mk "Jane".toList [] [] "first\nsecond".toList []),
        ∀ value ∈ block.plainFields, '\n' ∉ value) ∧
      buildBy Pattern.judge startState (some ⟨"Jane".toList, [], [], "first\nsecond".toList, []⟩)
          "vlan digits(var_id,key,list) up -> Peers\nPeers".toList =
        .ok ⟨some ⟨"Jane".toList, [], [], "first\nsecond".toList, []⟩,
          [⟨"id".toList, "\\d+".toList, [.key, .list]⟩],
          [⟨startState, ["  ^vlan $\x7bid\x7d up -> Peers".toList]⟩,
            ⟨"Peers".toList, []⟩]⟩) ∧
    ReadsBack ⟨some ⟨"Jane".toList, [], [], "first\nsecond".toList, []⟩,
      [⟨"id".toList, "\\d+".toList, [.key, .list]⟩],
      [⟨startState, ["  ^vlan $\x7bid\x7d up -> Peers".toList]⟩, ⟨"Peers".toList, []⟩]⟩ := by
  have named : startState ≠ [] := by decide
  have unbroken : '\n' ∉ startState := by decide
  have plain : ∀ block ∈ some (Metadata.mk "Jane".toList [] [] "first\nsecond".toList []),
      ∀ value ∈ block.plainFields, '\n' ∉ value := by
    intro block present
    cases present
    decide
  have built : buildBy Pattern.judge startState
        (some ⟨"Jane".toList, [], [], "first\nsecond".toList, []⟩)
        "vlan digits(var_id,key,list) up -> Peers\nPeers".toList =
      .ok ⟨some ⟨"Jane".toList, [], [], "first\nsecond".toList, []⟩,
        [⟨"id".toList, "\\d+".toList, [.key, .list]⟩],
        [⟨startState, ["  ^vlan $\x7bid\x7d up -> Peers".toList]⟩,
          ⟨"Peers".toList, []⟩]⟩ :=
    eq_ok_of_toOption (by decide +kernel)
  exact ⟨⟨named, unbroken, plain, built⟩, build_readsBack named unbroken plain built⟩

end Template

end LineTemplate
