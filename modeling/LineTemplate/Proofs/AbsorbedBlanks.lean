import LineTemplate.Proofs.FirstOffenses
import LineTemplate.Proofs.Samples

/-!
Contract: white space beside the anchors of a line.

Owns:
- how a line is read where only white space stands beside an anchor;
- that this white space takes no part in the expansion of the line;
- `expandWith_absorbsBlanks`, which adds that in a line that expands anchors stand at the edges,
  at most one at each.

Does not own: white space between other parts of a line.
-/

namespace LineTemplate

/-! ### Reading -/

namespace Call

/-- The call of the anchor that begins a line. -/
def start : Call := ⟨"start".toList, []⟩

/-- The call of the anchor that ends a line. -/
def stop : Call := ⟨"end".toList, []⟩

theorem isFormed_start : start.IsFormed :=
  ⟨⟨'s', "tart".toList, rfl, by decide⟩, List.all_eq_true.1 (by decide), by simp [start]⟩

theorem isFormed_stop : stop.IsFormed :=
  ⟨⟨'e', "nd".toList, rfl, by decide⟩, List.all_eq_true.1 (by decide), by simp [stop]⟩

/-- A call that reaches over white space into a call behind it ends with the parenthesis that
closes that one. So both open with the same, and what is before it is all name. -/
theorem name_of_reaches {rest blanks init after : Text} {last : Char} {written crossing : Call}
    (formed : written.IsFormed) (crossingFormed : crossing.IsFormed)
    (blank : ∀ c ∈ blanks, Text.isBlank c = true)
    (reaches : crossing.text = rest ++ (init ++ [last]))
    (behind : blanks ++ written.text = init ++ [last] ++ after) :
    crossing.name = rest ++ (blanks ++ written.name) := by
  have body : (crossing.name ++ '(' :: crossing.arguments) ++ [')'] =
      (rest ++ init) ++ [last] := by
    rw [List.append_assoc rest, ← reaches]
    simp [text]
  obtain ⟨reached, closes⟩ := List.append_inj' body rfl
  have closed : last = ')' := (List.cons.inj closes).1.symm
  have open_ : ')' ∉ blanks ++ (written.name ++ '(' :: written.arguments) := by
    simp only [List.mem_append, List.mem_cons, not_or]
    exact ⟨fun member => absurd (blank _ member) (by decide),
      fun member => absurd (formed.word _ member) (by decide), by decide,
      fun member => absurd (formed.flat _ member) (by decide)⟩
  have whole : (blanks ++ (written.name ++ '(' :: written.arguments)) ++ ')' :: [] =
      init ++ ')' :: after := by
    rw [closed] at behind
    simpa [text] using behind
  obtain ⟨rfl, -, -⟩ := (List.append_cons_inj_of_notMem open_ List.not_mem_nil).1 whole
  have nameless : '(' ∉ crossing.name := fun member =>
    absurd (crossingFormed.word _ member) (by decide)
  have flat : '(' ∉ crossing.arguments := fun member =>
    absurd (crossingFormed.flat _ member) (by decide)
  have split : crossing.name ++ '(' :: crossing.arguments =
      (rest ++ (blanks ++ written.name)) ++ '(' :: written.arguments := by
    rw [reached]
    simp
  exact ((List.append_cons_inj_of_notMem nameless flat).1 split).1

end Call

namespace LinePiece

/-- White space is read character by character, and it stands in no word. -/
theorem read_blanks_append {afterWord : Bool} {blanks : Text} (text : Text)
    (blank : ∀ c ∈ blanks, Text.isBlank c = true) (apart : blanks = [] → afterWord = false) :
    read afterWord (blanks ++ text) = blanks.map .char ++ read false text := by
  induction blanks generalizing afterWord with
  | nil => rw [apart rfl]; rfl
  | cons first blanks inductionHypothesis =>
      obtain ⟨isBlank, others⟩ := List.forall_mem_cons.1 blank
      have notLower : Text.isLower first = false := by
        have other := Text.isLowerWord_of_isBlank isBlank
        simp only [Text.isLowerWord, Bool.or_eq_false_iff] at other
        exact other.1.1
      have uncalled : Call.read? (first :: (blanks ++ text)) = none := by
        simp [Call.read?, notLower]
      rw [List.cons_append, read_cons_of_none (.inr uncalled), List.map_cons, List.cons_append,
        inductionHypothesis others fun _ => Text.isWord_of_isBlank isBlank]

/-- No call reaches over white space, nor from behind a character that is in no word, into a
call behind it. -/
theorem uncrossed_blanks_append_call {text blanks : Text} {written : Call}
    (formed : written.IsFormed) (blank : ∀ c ∈ blanks, Text.isBlank c = true)
    (apart : blanks = [] → ∀ c ∈ text.getLast?, Text.isWord c = false) :
    Uncrossed text (blanks ++ written.text) := by
  rintro rest ⟨front, rfl⟩ filled crossing after found
  obtain ⟨crossingFormed, same⟩ := Call.read?_eq_some_iff.1 found
  rcases List.append_eq_append_iff.1 same with ⟨inside, reaches, behind⟩ | ⟨inside, whole, rfl⟩
  · rcases List.eq_nil_or_concat inside with rfl | ⟨init, last, rfl⟩
    · rw [List.append_nil] at reaches
      refine ⟨[], ?_, behind.symm⟩
      rw [← reaches]
      simpa using Call.read?_of_isFormed crossingFormed []
    · rw [List.concat_eq_append] at reaches behind
      have name := Call.name_of_reaches formed crossingFormed blank reaches behind
      have word : ∀ c ∈ rest ++ (blanks ++ written.name), Text.isLowerWord c = true := by
        rw [← name]
        exact crossingFormed.word
      exfalso
      cases blanks with
      | nil =>
          obtain ⟨final, ends⟩ := Option.ne_none_iff_exists'.1 (List.getLast?_eq_none_iff.not.2 filled)
          have lower := word final (List.mem_append_left _ (List.mem_of_getLast? ends))
          have notWord := apart rfl final (List.mem_getLast?_append_of_mem_getLast? ends)
          rw [Text.isWord_of_isLowerWord lower] at notWord
          cases notWord
      | cons first blanks =>
          have lower := word first (by simp)
          rw [Text.isLowerWord_of_isBlank (blank first List.mem_cons_self)] at lower
          cases lower
  · refine ⟨inside, ?_, rfl⟩
    rw [whole]
    exact Call.read?_of_isFormed crossingFormed inside

end LinePiece

/-! ### White space at the ends of a text -/

namespace Text

theorem trimEnd_blanks_append {blanks : Text} (blank : ∀ c ∈ blanks, isBlank c = true)
    (text : Text) :
    trimEnd (blanks ++ text) = if trimEnd text = [] then [] else blanks ++ trimEnd text := by
  induction blanks with
  | nil =>
      split
      · assumption
      · rfl
  | cons first blanks inductionHypothesis =>
      obtain ⟨isBlank, others⟩ := List.forall_mem_cons.1 blank
      rw [List.cons_append, trimEnd_cons, inductionHypothesis others]
      by_cases nothing : trimEnd text = []
      · rw [if_pos nothing, if_pos ⟨rfl, isBlank⟩, if_pos nothing]
      · rw [if_neg nothing, if_neg nothing, if_neg]
        · rfl
        · rintro ⟨both, -⟩
          exact nothing (List.append_eq_nil_iff.1 both).2

theorem trimEnd_append_blanks (text : Text) {blanks : Text}
    (blank : ∀ c ∈ blanks, isBlank c = true) : trimEnd (text ++ blanks) = trimEnd text := by
  have reversed : ∀ c ∈ blanks.reverse, isBlank c = true := fun c member =>
    blank c (List.mem_reverse.1 member)
  rw [trimEnd, trimEnd, List.reverse_append, List.dropWhile_append_of_pos reversed]

theorem trimStart_blanks_append {blanks : Text} (blank : ∀ c ∈ blanks, isBlank c = true)
    (text : Text) : trimStart (blanks ++ text) = trimStart text :=
  List.dropWhile_append_of_pos blank

end Text

namespace Literal

/-- White space before a text stays before what is expanded of it, or is lost as a whole. -/
theorem exists_withoutAnchor_blanks_append {blanks : Text}
    (blank : ∀ c ∈ blanks, Text.isBlank c = true) (text : Text) :
    ∃ rest, (∀ c ∈ rest, Text.isBlank c = true) ∧
      withoutAnchor (blanks ++ text) = rest ++ withoutAnchor text := by
  have anchor : ∀ more, endsWithAnchor (blanks ++ more) = endsWithAnchor more := by
    intro more
    rcases List.eq_nil_or_concat blanks with rfl | ⟨front, last, rfl⟩
    · rfl
    · have isBlank := blank last (by simp)
      rw [List.concat_eq_append, List.append_assoc, List.singleton_append]
      refine endsWithAnchor_append front more ?_ ?_
      · rintro rfl
        exact absurd isBlank (by decide)
      · rintro rfl
        exact absurd isBlank (by decide)
  simp only [withoutAnchor]
  rw [Text.trimEnd_blanks_append blank]
  by_cases nothing : Text.trimEnd text = []
  · rw [if_pos nothing, nothing]
    exact ⟨[], by simp, rfl⟩
  · rw [if_neg nothing, anchor]
    cases endsWithAnchor (Text.trimEnd text) with
    | false => exact ⟨blanks, blank, rfl⟩
    | true =>
        rw [if_pos rfl, if_pos rfl, List.dropLast_append_of_ne_nil nothing,
          Text.trimEnd_blanks_append blank]
        by_cases none : Text.trimEnd (Text.trimEnd text).dropLast = []
        · rw [if_pos none, none]
          exact ⟨[], by simp, rfl⟩
        · rw [if_neg none]
          exact ⟨blanks, blank, rfl⟩

theorem withoutAnchor_blanks_append_eq_nil {blanks text : Text}
    (blank : ∀ c ∈ blanks, Text.isBlank c = true) (nothing : withoutAnchor text = []) :
    withoutAnchor (blanks ++ text) = [] := by
  obtain ⟨rest, isBlank, same⟩ := exists_withoutAnchor_blanks_append blank text
  have trimmed := trimEnd_withoutAnchor (blanks ++ text)
  rw [same, nothing, List.append_nil] at trimmed ⊢
  exact Text.eq_nil_of_isAllBlank (List.all_eq_true.2 isBlank) trimmed

end Literal

/-! ### Expansion -/

namespace AnnotatedText

theorem ofPieces_chars_append (text : Text) (pieces : List LinePiece) :
    ofPieces (text.map .char ++ pieces) =
      ⟨text ++ (ofPieces pieces).leading, (ofPieces pieces).calls⟩ := by
  induction text with
  | nil => rfl
  | cons first rest inductionHypothesis =>
      rw [List.map_cons, List.cons_append, ofPieces, inductionHypothesis]
      rfl

/-- White space behind the anchor that begins a line is absorbed. -/
theorem expandFrom_blanks_append {blanks : Text} (blank : ∀ c ∈ blanks, Text.isBlank c = true)
    (bound : List Text) (before : Text) (calls : List KeywordCall) :
    expandFrom false true bound (blanks ++ before) calls =
      expandFrom false true bound before calls := by
  have absorbed : ∀ role, literalBetween true role (blanks ++ before) =
      literalBetween true role before := by
    intro role
    simp only [literalBetween, if_true, Text.trimStart_blanks_append blank]
  cases calls with
  | nil => rw [expandFrom, expandFrom, absorbed]
  | cons call calls =>
      have placed : isMisplaced false (blanks ++ before) call calls =
          isMisplaced false before call calls := by
        rw [isMisplaced, isMisplaced, Bool.false_and, Bool.false_and]
      rw [expandFrom, expandFrom, absorbed, placed]

/-- White space before the anchor that ends a line is absorbed. -/
theorem literalBetween_append_blanks (afterStart : Bool) (text : Text) {blanks : Text}
    (blank : ∀ c ∈ blanks, Text.isBlank c = true) :
    literalBetween afterStart .lineEnd (text ++ blanks) =
      literalBetween afterStart .lineEnd text := by
  cases afterStart with
  | false => exact Text.trimEnd_append_blanks text blank
  | true =>
      change Text.trimEnd (Text.trimStart (text ++ blanks)) = Text.trimEnd (Text.trimStart text)
      rw [Text.trimStart, Text.trimStart, List.dropWhile_append]
      split
      · rename_i nothing
        rw [List.isEmpty_iff] at nothing
        rw [nothing, List.dropWhile_eq_nil_iff.2 blank]
      · exact Text.trimEnd_append_blanks _ blank

/-- The line of pieces that end with the anchor at its end, where `blanks` stand before that. -/
def stopped (pieces : List LinePiece) (blanks : Text) : AnnotatedText :=
  ofPieces (pieces ++ (blanks.map .char ++ [.call Call.stop]))

theorem stopped_nil (blanks : Text) :
    stopped [] blanks = ⟨blanks, [⟨⟨"end".toList, ['$'], .lineEnd⟩, [], []⟩]⟩ := by
  rw [stopped, List.nil_append, ofPieces_chars_append]
  have known : Keyword.find? Call.stop.name = some ⟨"end".toList, ['$'], .lineEnd⟩ := by decide
  simp only [ofPieces, known, List.append_nil]
  rfl

theorem stopped_call (written : Call) (pieces : List LinePiece) (blanks : Text) :
    stopped (.call written :: pieces) blanks =
      match Keyword.find? written.name with
      | none => ⟨written.text ++ (stopped pieces blanks).leading, (stopped pieces blanks).calls⟩
      | some keyword => ⟨[], ⟨keyword, written.arguments, (stopped pieces blanks).leading⟩ ::
          (stopped pieces blanks).calls⟩ := by
  rw [stopped, List.cons_append, ofPieces]
  cases Keyword.find? written.name <;> rfl

/-- The last call of such a line is that of its anchor. -/
theorem isEmpty_calls_stopped (pieces : List LinePiece) (blanks : Text) :
    (stopped pieces blanks).calls.isEmpty = false := by
  induction pieces with
  | nil => rw [stopped_nil]; rfl
  | cons piece pieces inductionHypothesis =>
      cases piece with
      | char c => exact inductionHypothesis
      | call written =>
          rw [stopped_call]
          cases Keyword.find? written.name with
          | none => exact inductionHypothesis
          | some keyword => rfl

theorem expandFrom_stopped {blanks : Text} (blank : ∀ c ∈ blanks, Text.isBlank c = true)
    (opening afterStart : Bool) (bound : List Text) (front : Text) (pieces : List LinePiece) :
    expandFrom opening afterStart bound (front ++ (stopped pieces blanks).leading)
        (stopped pieces blanks).calls =
      expandFrom opening afterStart bound (front ++ (stopped pieces []).leading)
        (stopped pieces []).calls := by
  induction pieces generalizing opening afterStart bound front with
  | nil =>
      have absorbed := literalBetween_append_blanks afterStart front blank
      rw [stopped_nil, stopped_nil, expandFrom, expandFrom]
      dsimp only
      rw [absorbed, List.append_nil]
      rfl
  | cons piece pieces inductionHypothesis =>
      cases piece with
      | char c =>
          have longer := inductionHypothesis opening afterStart bound (front ++ [c])
          rw [List.append_assoc, List.append_assoc] at longer
          exact longer
      | call written =>
          rw [stopped_call, stopped_call]
          cases Keyword.find? written.name with
          | none =>
              have longer := inductionHypothesis opening afterStart bound (front ++ written.text)
              rw [List.append_assoc, List.append_assoc] at longer
              exact longer
          | some keyword =>
              have placed : isMisplaced opening (front ++ [])
                    ⟨keyword, written.arguments, (stopped pieces blanks).leading⟩
                    (stopped pieces blanks).calls =
                  isMisplaced opening (front ++ [])
                    ⟨keyword, written.arguments, (stopped pieces []).leading⟩
                    (stopped pieces []).calls := by
                rw [isMisplaced, isMisplaced, isEmpty_calls_stopped, isEmpty_calls_stopped,
                  Bool.false_and, Bool.false_and]
              have called : ExpandedPart.ofCall
                    ⟨keyword, written.arguments, (stopped pieces blanks).leading⟩ =
                  ExpandedPart.ofCall ⟨keyword, written.arguments, (stopped pieces []).leading⟩ :=
                rfl
              have later := fun bound => inductionHypothesis false
                (keyword.role = .lineStart) bound []
              simp only [List.nil_append] at later
              dsimp only
              rw [expandFrom, expandFrom, placed, called]
              simp only [later]

/-- The line that begins with its anchor, where `text` stands behind that. -/
theorem ofText_start {blanks : Text} (blank : ∀ c ∈ blanks, Text.isBlank c = true)
    (text : Text) :
    ofText (blanks ++ (Call.start.text ++ text)) =
      ⟨blanks, ⟨⟨"start".toList, ['^'], .lineStart⟩, [], (ofText text).leading⟩ ::
        (ofText text).calls⟩ := by
  have known : Keyword.find? Call.start.name = some ⟨"start".toList, ['^'], .lineStart⟩ := by
    decide
  rw [ofText, LinePiece.ofText, LinePiece.read_blanks_append _ blank fun _ => rfl,
    ofPieces_chars_append,
    LinePiece.read_of_call (Call.read?_of_isFormed Call.isFormed_start text)]
  simp only [ofPieces, known, List.append_nil]
  rfl

theorem ofText_blanks_append {blanks : Text} (blank : ∀ c ∈ blanks, Text.isBlank c = true)
    (text : Text) :
    ofText (blanks ++ text) = ⟨blanks ++ (ofText text).leading, (ofText text).calls⟩ := by
  rw [ofText, LinePiece.ofText, LinePiece.read_blanks_append _ blank fun _ => rfl,
    ofPieces_chars_append]
  rfl

/-- White space around the anchor that begins a line takes no part in the expansion. -/
theorem expand_start {before behind : Text} (blank : ∀ c ∈ before, Text.isBlank c = true)
    (blankBehind : ∀ c ∈ behind, Text.isBlank c = true) (text : Text) :
    (ofText (before ++ (Call.start.text ++ (behind ++ text)))).expand =
      (ofText (Call.start.text ++ text)).expand := by
  have placed : ∀ blanks following, Text.isAllBlank blanks = true →
      isMisplaced true blanks ⟨⟨"start".toList, ['^'], .lineStart⟩, [], following⟩
        (ofText text).calls = false := by
    intro blanks following isBlank
    rw [isMisplaced]
    dsimp only
    rw [isBlank]
    rfl
  have absorbed := fun bound =>
    expandFrom_blanks_append blankBehind bound (ofText text).leading (ofText text).calls
  have called : ExpandedPart.ofCall ⟨⟨"start".toList, ['^'], .lineStart⟩, [],
        behind ++ (ofText text).leading⟩ =
      ExpandedPart.ofCall ⟨⟨"start".toList, ['^'], .lineStart⟩, [], (ofText text).leading⟩ := rfl
  have bare := ofText_start (fun c (member : c ∈ []) => absurd member List.not_mem_nil) text
  rw [List.nil_append] at bare
  rw [ofText_start blank, bare, ofText_blanks_append blankBehind, expand, expand]
  simp only [expandFrom, placed before _ (List.all_eq_true.2 blank), placed [] _ rfl, called,
    decide_true, absorbed, literalBetween]

/-- The line that ends with its anchor, where white space stands before that, or a character that
is in no word. -/
theorem ofText_stop {text blanks : Text} (blank : ∀ c ∈ blanks, Text.isBlank c = true)
    (apart : blanks = [] → ∀ c ∈ text.getLast?, Text.isWord c = false) :
    ofText (text ++ (blanks ++ Call.stop.text)) = stopped (LinePiece.ofText text) blanks := by
  have notWord : blanks = [] → LinePiece.endsInWord false text = false := by
    intro nothing
    rw [LinePiece.endsInWord]
    cases last : text.getLast? with
    | none => rfl
    | some c => exact apart nothing c last
  have uncrossed := LinePiece.uncrossed_blanks_append_call Call.isFormed_stop blank apart
  have called := LinePiece.read_of_call (Call.read?_of_isFormed Call.isFormed_stop [])
  rw [List.append_nil, LinePiece.read_nil] at called
  rw [ofText, LinePiece.ofText, LinePiece.read_append false uncrossed,
    LinePiece.read_blanks_append _ blank notWord, called]
  rfl

end AnnotatedText

/-! ### Edges -/

namespace CallSite

/-- Anchors stand at the edges of their line, at most one at each. -/
structure AnchorsAtEdges (sites : List CallSite) : Prop where
  start : ∀ site ∈ sites, site.keyword.role = .lineStart → Text.isAllBlank site.before = true
  stop : ∀ site ∈ sites, site.keyword.role = .lineEnd → Text.isAllBlank site.after = true
  oneStart : sites.countP (fun site => site.keyword.role = .lineStart) ≤ 1
  oneStop : sites.countP (fun site => site.keyword.role = .lineEnd) ≤ 1

theorem before_of_mem_ofCalls {front before : Text} {calls : List KeywordCall} {site : CallSite}
    (filled : Text.isAllBlank front = false) (member : site ∈ ofCalls front before calls) :
    Text.isAllBlank site.before = false := by
  induction calls generalizing front before with
  | nil => cases member
  | cons call calls inductionHypothesis =>
      rcases List.mem_cons.1 member with rfl | later
      · rw [KeywordCall.siteAt, Text.isAllBlank_append, filled, Bool.false_and]
      · refine inductionHypothesis ?_ later
        rw [Text.isAllBlank_append, Text.isAllBlank_append, filled, Bool.false_and,
          Bool.false_and]

/-- Of two calls, neither stands at the edge that is on the side of the other. -/
theorem pairwise_ofCalls (front before : Text) (calls : List KeywordCall) :
    (ofCalls front before calls).Pairwise fun site later =>
      Text.isAllBlank site.after = false ∧ Text.isAllBlank later.before = false := by
  induction calls generalizing front before with
  | nil => exact .nil
  | cons call calls inductionHypothesis =>
      refine .cons (fun later member => ⟨?_, before_of_mem_ofCalls ?_ member⟩)
        (inductionHypothesis _ _)
      · cases calls with
        | nil => cases member
        | cons next calls =>
            have filled := next.not_isAllBlank_text_append
              (next.following ++ KeywordCall.textFrom calls)
            rw [KeywordCall.siteAt, Text.isAllBlank_append, KeywordCall.textFrom,
              List.flatMap_cons, List.append_assoc]
            exact (congrArg _ filled).trans (Bool.and_false _)
      · have written := call.not_isAllBlank_text_append []
        rw [List.append_nil] at written
        rw [Text.isAllBlank_append, written, Bool.and_false]

/-- A test that no two elements pass is passed by one at most. -/
theorem countP_le_one {test : CallSite → Bool} {sites : List CallSite}
    (apart : sites.Pairwise fun site later => ¬(test site = true ∧ test later = true)) :
    sites.countP test ≤ 1 := by
  induction apart with
  | nil => exact Nat.zero_le 1
  | @cons site sites first _ inductionHypothesis =>
      rw [List.countP_cons]
      cases passed : test site with
      | false => simpa using inductionHypothesis
      | true =>
          have none : sites.countP test = 0 := by
            rw [List.countP_eq_zero]
            exact fun later member also => first later member ⟨passed, also⟩
          rw [none, if_pos rfl]

theorem anchorsAtEdges_of_inOrder {text : Text} (inOrder : InOrder (ofText text)) :
    AnchorsAtEdges (ofText text) := by
  have placed : ∀ site ∈ ofText text, site.isInside = false := by
    intro site member
    obtain ⟨earlier, later, same⟩ := List.append_of_mem member
    have sound := inOrder earlier site later same
    rw [offense?] at sound
    split at sound
    · cases sound
    · rename_i outside
      exact (Bool.not_eq_true _).mp outside
  have start : ∀ site ∈ ofText text, site.keyword.role = .lineStart →
      Text.isAllBlank site.before = true := by
    intro site member role
    simpa [isInside, role] using placed site member
  have stop : ∀ site ∈ ofText text, site.keyword.role = .lineEnd →
      Text.isAllBlank site.after = true := by
    intro site member role
    simpa [isInside, role] using placed site member
  have apart := pairwise_ofCalls [] (AnnotatedText.ofText text).leading
    (AnnotatedText.ofText text).calls
  rw [← ofText_eq_ofCalls] at apart
  refine ⟨start, stop, countP_le_one ?_, countP_le_one ?_⟩
  · refine apart.imp_of_mem fun _ member sides both => ?_
    have filled := sides.2
    rw [start _ member (of_decide_eq_true both.2)] at filled
    cases filled
  · refine apart.imp_of_mem fun member _ sides both => ?_
    have filled := sides.1
    rw [stop _ member (of_decide_eq_true both.1)] at filled
    cases filled

end CallSite

/-! ### Engines -/

/-- What anchors do with the white space around them, and where they stand in a line that
expands. -/
structure AbsorbsBlanks (engine : Engine) : Prop where
  start : ∀ (before behind content : Text) (ignoreCase : Bool),
    Text.isAllBlank before = true → Text.isAllBlank behind = true →
      engine (before ++ "start()".toList ++ behind ++ content) ignoreCase =
        engine ("start()".toList ++ content) ignoreCase
  stop : ∀ (content before other behind : Text) (ignoreCase : Bool),
    Text.isAllBlank before = true → Text.isAllBlank other = true →
      Text.isAllBlank behind = true →
        (before ≠ [] ∧ other ≠ []) ∨ (∀ last ∈ content.getLast?, Text.isWord last = false) →
          engine (content ++ before ++ "end()".toList ++ behind) ignoreCase =
              engine (content ++ other ++ "end()".toList) ignoreCase ∧
            engine (content ++ before ++ "end()".toList ++ behind ++ ['$']) ignoreCase =
              engine (content ++ other ++ "end()".toList) ignoreCase
  edges : ∀ content ignoreCase expansion, engine content ignoreCase = .ok expansion →
    CallSite.AnchorsAtEdges (CallSite.ofText (Literal.withoutAnchor content))

theorem expandWith_congr {judge : PatternJudge} {content other : Text} (ignoreCase : Bool)
    (same : (AnnotatedText.ofText (Literal.withoutAnchor content)).expand =
      (AnnotatedText.ofText (Literal.withoutAnchor other)).expand) :
    expandWith judge content ignoreCase = expandWith judge other ignoreCase := by
  rw [expandWith, expandWith, same]

theorem Literal.withoutAnchor_append_call (front : Text) (written : Call) (rest : Text) :
    withoutAnchor (front ++ (written.text ++ rest)) =
      front ++ (written.text ++ withoutAnchor rest) := by
  have kept := withoutAnchor_append_cons (front ++ (written.name ++ '(' :: written.arguments)) rest
    (by decide : Text.isBlank ')' = false) (by decide) (by decide)
  simpa [Call.text] using kept

theorem expandWith_start (judge : PatternJudge) {before behind : Text}
    (blank : ∀ c ∈ before, Text.isBlank c = true)
    (blankBehind : ∀ c ∈ behind, Text.isBlank c = true) (content : Text) (ignoreCase : Bool) :
    expandWith judge (before ++ (Call.start.text ++ (behind ++ content))) ignoreCase =
      expandWith judge (Call.start.text ++ content) ignoreCase := by
  obtain ⟨rest, restBlank, same⟩ :=
    Literal.exists_withoutAnchor_blanks_append blankBehind content
  have bare := Literal.withoutAnchor_append_call [] Call.start content
  rw [List.nil_append, List.nil_append] at bare
  refine expandWith_congr ignoreCase ?_
  rw [Literal.withoutAnchor_append_call, bare, same, AnnotatedText.expand_start blank restBlank]

/-- What stands behind the anchor that ends a line takes no part, if nothing of it is expanded. -/
theorem expandWith_stop (judge : PatternJudge) {content before behind other : Text}
    (blank : ∀ c ∈ before, Text.isBlank c = true)
    (apart : before = [] → ∀ c ∈ content.getLast?, Text.isWord c = false)
    (blankOther : ∀ c ∈ other, Text.isBlank c = true)
    (apartOther : other = [] → ∀ c ∈ content.getLast?, Text.isWord c = false)
    (nothing : Literal.withoutAnchor behind = []) (ignoreCase : Bool) :
    expandWith judge (content ++ (before ++ (Call.stop.text ++ behind))) ignoreCase =
      expandWith judge (content ++ (other ++ Call.stop.text)) ignoreCase := by
  have whole : ∀ blanks more, Literal.withoutAnchor more = [] →
      Literal.withoutAnchor (content ++ (blanks ++ (Call.stop.text ++ more))) =
        content ++ (blanks ++ Call.stop.text) := by
    intro blanks more none
    rw [← List.append_assoc, Literal.withoutAnchor_append_call, none, List.append_nil,
      List.append_assoc]
  have bare := whole other [] rfl
  rw [List.append_nil] at bare
  refine expandWith_congr ignoreCase ?_
  rw [whole before behind nothing, bare, AnnotatedText.ofText_stop blank apart,
    AnnotatedText.ofText_stop blankOther apartOther]
  exact (AnnotatedText.expandFrom_stopped blank true false [] [] _).trans
    (AnnotatedText.expandFrom_stopped blankOther true false [] [] _).symm

/-- The built-in engine absorbs the white space around anchors, whatever the judge. -/
theorem expandWith_absorbsBlanks (judge : PatternJudge) : AbsorbsBlanks (expandWith judge) where
  start := by
    intro before behind content ignoreCase blank blankBehind
    have text : Call.start.text = "start()".toList := by decide
    have absorbed := expandWith_start judge (List.all_eq_true.1 blank)
      (List.all_eq_true.1 blankBehind) content ignoreCase
    simpa only [text, List.append_assoc] using absorbed
  stop := by
    intro content before other behind ignoreCase blank blankOther blankBehind apart
    have text : Call.stop.text = "end()".toList := by decide
    have first : before = [] → ∀ c ∈ content.getLast?, Text.isWord c = false :=
      fun nothing => apart.resolve_left fun both => both.1 nothing
    have second : other = [] → ∀ c ∈ content.getLast?, Text.isWord c = false :=
      fun nothing => apart.resolve_left fun both => both.2 nothing
    have absorbed : ∀ more, Literal.withoutAnchor more = [] →
        expandWith judge (content ++ before ++ "end()".toList ++ (behind ++ more)) ignoreCase =
          expandWith judge (content ++ other ++ "end()".toList) ignoreCase := by
      intro more nothing
      have dropped := Literal.withoutAnchor_blanks_append_eq_nil (List.all_eq_true.1 blankBehind)
        nothing
      have stops := expandWith_stop judge (List.all_eq_true.1 blank) first
        (List.all_eq_true.1 blankOther) second dropped ignoreCase
      simpa only [text, List.append_assoc] using stops
    have bare := absorbed [] rfl
    have anchored := absorbed ['$'] rfl
    rw [List.append_nil] at bare
    rw [← List.append_assoc] at anchored
    exact ⟨bare, anchored⟩
  edges := by
    intro content ignoreCase expansion expanded
    cases found : contentOffense? content with
    | none => exact CallSite.anchorsAtEdges_of_inOrder (CallSite.firstOffense?_eq_none_iff.1 found)
    | some cause =>
        rw [expandWith_of_contentOffense? found] at expanded
        cases expanded

example : expandWith Pattern.judge " start()\t  vlan  end() $".toList true =
    expandWith Pattern.judge "start()vlan end()".toList true := by
  decide +kernel

end LineTemplate
