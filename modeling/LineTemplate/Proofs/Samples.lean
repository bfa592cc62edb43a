import LineTemplate.Annotation.Sample
import LineTemplate.Proofs.Calls
import LineTemplate.Proofs.References
import LineTemplate.Proofs.Resemblance
import LineTemplate.Proofs.Separation

/-!
Contract: the samples that an expanded line matches.

Owns:
- that the items of a call match what the call stands for;
- that the items of a line match the samples of the line, step by step along its
  calls;
- `writtenMatches_iff_describes`, for the statement of a whole expansion.

Does not own: how the texts of the items are read.
-/

namespace LineTemplate

open PatternReader

variable {meaning : PropertyMeaning}

/-! ### Calls -/

namespace Keyword

/-- The items of a keyword that stands for text match what its pattern does. -/
theorem Consists.passes_iff {keyword : Keyword} {items : List Pattern}
    (consists : keyword.Consists items) (role : keyword.role = .placeholder) (start stop : Place) :
    (Pattern.ofItems items).Passes meaning .initial start stop ↔
      ∃ taken, start.Spans taken stop ∧ Pattern.WrittenMatches meaning keyword.pattern taken := by
  rw [Pattern.passes_iff_matches (Pattern.isAssertionFree_ofItems (consists.free role))]
  have written : ∀ taken, Pattern.WrittenMatches meaning keyword.pattern taken ↔
      (Pattern.ofItems items).Matches meaning taken := by
    intro taken
    simp [Pattern.WrittenMatches, consists.reads.read?]
  simp only [written]

end Keyword

namespace CallArguments

/-- The choice between a keyword's pattern and the alternatives matches what one of them
does. -/
theorem passes_items {keyword : Keyword} {keywordItems : List Pattern}
    (consists : keyword.Consists keywordItems) (role : keyword.role = .placeholder)
    (arguments : CallArguments) (start stop : Place) :
    (Pattern.ofItems (arguments.items keywordItems)).Passes meaning .initial start stop ↔
      ∃ taken, start.Spans taken stop ∧
        (Pattern.WrittenMatches meaning keyword.pattern taken ∨
          taken ∈ arguments.alternatives) := by
  unfold items
  split
  · rename_i none
    simp only [consists.passes_iff role, List.isEmpty_iff.1 none, List.not_mem_nil, or_false]
  · have keeps : ∀ branch ∈ Pattern.ofItems keywordItems ::
        arguments.alternatives.map fun alternative =>
          Pattern.ofItems (Literal.exactItems alternative),
        branch.flagsAfter .initial = .initial := by
      rw [List.forall_mem_cons]
      refine ⟨Pattern.flagsAfter_ofItems fun item member =>
        Pattern.flagsAfter_of_isModest (consists.modest item member), fun branch member => ?_⟩
      obtain ⟨alternative, -, rfl⟩ := List.mem_map.1 member
      exact Pattern.flagsAfter_ofItems fun item member =>
        Pattern.flagsAfter_of_isModest (Literal.isModest_of_mem_exactItems member)
    change (Pattern.ofBranches _).Passes meaning .initial start stop ↔ _
    rw [Pattern.passes_ofBranches (by simp) keeps, List.exists_mem_cons_iff,
      consists.passes_iff role]
    simp only [and_or_left, exists_or]
    refine or_congr Iff.rfl ⟨?_, ?_⟩
    · rintro ⟨_, member, passes⟩
      obtain ⟨alternative, known, rfl⟩ := List.mem_map.1 member
      exact ⟨alternative, (Literal.passes_exactItems alternative start stop).1 passes, known⟩
    · rintro ⟨alternative, spans, known⟩
      exact ⟨_, List.mem_map_of_mem known,
        (Literal.passes_exactItems alternative start stop).2 spans⟩

end CallArguments

namespace KeywordCall

/-- The items of a call that stands for text match what the call stands for. -/
theorem Yields.passes_iff {call : KeywordCall} {part : ExpandedPart} {items : List Pattern}
    (yields : call.Yields part items) (role : call.keyword.role = .placeholder)
    (start stop : Place) :
    (Pattern.ofItems items).Passes meaning .initial start stop ↔
      ∃ taken, start.Spans taken stop ∧ call.StandsFor meaning taken := by
  have standsFor : ∀ {known : CallArguments},
      CallArguments.read call.keyword call.arguments = .ok known → ∀ taken,
        (call.StandsFor meaning taken ↔
          Pattern.WrittenMatches meaning call.keyword.pattern taken ∨
            taken ∈ known.alternatives) := by
    intro known read taken
    simp [StandsFor, read]
  cases yields with
  | anchor isAnchor consists =>
      rw [Keyword.isAnchor, role] at isAnchor
      exact absurd isAnchor (by decide)
  | inline _ read consists =>
      simp only [standsFor read]
      exact CallArguments.passes_items consists role _ start stop
  | capture _ read named pattern consists =>
      simp only [standsFor read]
      exact CallArguments.passes_items consists role _ start stop

theorem Yields.flagsAfter {call : KeywordCall} {part : ExpandedPart} {items : List Pattern}
    (yields : call.Yields part items) :
    ∀ item ∈ items, item.flagsAfter .initial = .initial := by
  have modest : ∀ {keywordItems : List Pattern}, call.keyword.Consists keywordItems →
      ∀ item ∈ keywordItems, item.flagsAfter .initial = .initial :=
    fun consists item member => Pattern.flagsAfter_of_isModest (consists.modest item member)
  cases yields with
  | anchor isAnchor consists => exact modest consists
  | inline role read consists =>
      unfold CallArguments.items
      split
      · exact modest consists
      · rw [List.forall_mem_singleton]
        rfl
  | capture role read named pattern consists =>
      rw [List.forall_mem_singleton]
      rfl

end KeywordCall

/-! ### Lines -/

namespace AnnotatedText

theorem describesFrom_nil_iff {leading sample : Text} :
    DescribesFrom meaning leading [] sample ↔ Literal.Resembles leading sample := by
  constructor
  · rintro ⟨resembles⟩
    exact resembles
  · exact .literal

theorem describesFrom_cons_iff {leading sample : Text} {call : KeywordCall}
    {calls : List KeywordCall} :
    DescribesFrom meaning leading (call :: calls) sample ↔
      ∃ first inside rest, sample = first ++ (inside ++ rest) ∧
        Literal.Resembles leading first ∧ call.StandsFor meaning inside ∧
          DescribesFrom meaning call.following calls rest := by
  constructor
  · rintro ⟨⟩
    rename_i first inside rest resembles stands describes
    exact ⟨first, inside, rest, rfl, resembles, stands, describes⟩
  · rintro ⟨first, inside, rest, rfl, resembles, stands, describes⟩
    exact .call resembles stands describes

/-- The literal text at the end of a line. -/
def lastText (leading : Text) : List KeywordCall → Text
  | [] => leading
  | call :: calls => lastText call.following calls

theorem lastText_append {leading text : Text} {calls : List KeywordCall} (front : Text)
    (whole : calls = [] → leading = text) (ends : lastText leading calls <:+ text) :
    (calls = [] → front ++ leading = front ++ text) ∧
      lastText (front ++ leading) calls <:+ front ++ text := by
  cases calls with
  | nil =>
      rw [whole rfl]
      exact ⟨fun _ => rfl, List.suffix_rfl⟩
  | cons call calls =>
      exact ⟨fun none => absurd none (List.cons_ne_nil call calls),
        ends.trans (List.suffix_append front text)⟩

/-- The literal text behind the last call ends the line; without a call it is the
line. -/
theorem lastText_suffix (pieces : List LinePiece) :
    ((ofPieces pieces).calls = [] →
        (ofPieces pieces).leading = pieces.flatMap LinePiece.text) ∧
      lastText (ofPieces pieces).leading (ofPieces pieces).calls <:+
        pieces.flatMap LinePiece.text := by
  induction pieces with
  | nil => exact ⟨fun _ => rfl, List.suffix_rfl⟩
  | cons piece pieces inductionHypothesis =>
      obtain ⟨whole, ends⟩ := inductionHypothesis
      rw [List.flatMap_cons]
      cases piece with
      | char c => exact lastText_append [c] whole ends
      | call written =>
          rw [ofPieces]
          cases Keyword.find? written.name with
          | none => exact lastText_append written.text whole ends
          | some keyword =>
              exact ⟨fun none => absurd none (List.cons_ne_nil _ _),
                ends.trans (List.suffix_append _ _)⟩

/-- A line without white space at its end has none behind its last call. -/
theorem trimEnd_lastText {text : Text} (trimmed : Text.trimEnd text = text) :
    Text.trimEnd (lastText (ofText text).leading (ofText text).calls) =
      lastText (ofText text).leading (ofText text).calls := by
  refine Text.trimEnd_of_suffix ?_ trimmed
  have ends := (lastText_suffix (LinePiece.ofText text)).2
  rwa [LinePiece.ofText, LinePiece.flatMap_text_read] at ends

/-- Literal text, a call and what follows it match one sample after the other. -/
theorem passes_call_iff {leading following : Text} {call : KeywordCall} {calls : List KeywordCall}
    {part : ExpandedPart} {callItems restItems : List Pattern} {start stop : Place}
    (yields : call.Yields part callItems) (role : call.keyword.role = .placeholder)
    (restPasses : ∀ next, (Pattern.ofItems restItems).Passes meaning .initial next stop ↔
      ∃ taken, next.Spans taken stop ∧ DescribesFrom meaning following calls taken) :
    (Pattern.ofItems (Literal.items leading ++ (callItems ++ restItems))).Passes meaning .initial
        start stop ↔
      ∃ taken, start.Spans taken stop ∧
        DescribesFrom meaning leading (⟨call.keyword, call.arguments, following⟩ :: calls)
          taken := by
  rw [Pattern.passes_ofItems_append Literal.flagsAfter_of_mem_items]
  simp only [Pattern.passes_ofItems_append yields.flagsAfter, Literal.passes_items,
    yields.passes_iff role, restPasses, describesFrom_cons_iff]
  constructor
  · rintro ⟨middle, ⟨first, firstSpans, resembles⟩, next, ⟨inside, insideSpans, stands⟩,
      rest, restSpans, describes⟩
    have spans : start.Spans (first ++ (inside ++ rest)) stop :=
      Place.spans_append.2
        ⟨middle, firstSpans, Place.spans_append.2 ⟨next, insideSpans, restSpans⟩⟩
    exact ⟨_, spans, first, inside, rest, rfl, resembles, stands, describes⟩
  · rintro ⟨_, spans, first, inside, rest, rfl, resembles, stands, describes⟩
    obtain ⟨middle, firstSpans, later⟩ := Place.spans_append.1 spans
    obtain ⟨next, insideSpans, restSpans⟩ := Place.spans_append.1 later
    exact ⟨middle, ⟨first, firstSpans, resembles⟩, next, ⟨inside, insideSpans, stands⟩,
      rest, restSpans, describes⟩

/-- Where the text is over, the anchor of its end takes nothing from literal text. -/
theorem passes_lineEnd_iff {leading : Text} {start stop : Place} (ended : stop.after = []) :
    (Pattern.ofItems (Literal.items leading ++ [.atom (.assertion .lineEnd)])).Passes meaning
        .initial start stop ↔
      ∃ taken, start.Spans taken stop ∧ DescribesFrom meaning leading [] taken := by
  rw [Pattern.passes_ofItems_append Literal.flagsAfter_of_mem_items]
  simp only [Literal.passes_items, describesFrom_nil_iff]
  constructor
  · rintro ⟨middle, ⟨taken, spans, resembles⟩, rfl, -⟩
    exact ⟨taken, spans, resembles⟩
  · rintro ⟨taken, spans, resembles⟩
    refine ⟨stop, ⟨taken, spans, resembles⟩, rfl, ?_⟩
    simp [Assertion.holds, Place.endsLine, ended]

/-- At its beginning, a text matches what it matches behind the anchor of its start. -/
theorem matches_lineStart_iff {items : List Pattern} {sample : Text} :
    (Pattern.ofItems (.atom (.assertion .lineStart) :: items)).Matches meaning sample ↔
      (Pattern.ofItems items).Matches meaning sample := by
  rw [Pattern.Matches, Pattern.passes_ofItems_cons rfl]
  constructor
  · rintro ⟨_, ⟨rfl, -⟩, rest⟩
    exact rest
  · intro rest
    exact ⟨Place.start sample, ⟨rfl, rfl⟩, rest⟩

/-- Behind its first call at most, a line is read as items that match the samples of
what is left of the line. -/
theorem exists_items_passes_iff {afterStart : Bool} {bound : List Text} {before : Text}
    {calls : List KeywordCall} {parts : List ExpandedPart}
    (known : ∀ call ∈ calls, call.keyword ∈ Keyword.all)
    (trimmed : Text.trimEnd (lastText before calls) = lastText before calls)
    (expanded : expandFrom false afterStart bound before calls = .ok parts) :
    ∃ items, Reads (parts.flatMap ExpandedPart.probe) items ∧
      ∀ start stop : Place, stop.after = [] →
        ((Pattern.ofItems items).Passes meaning .initial start stop ↔
          ∃ taken, start.Spans taken stop ∧
            let line := withoutEndFrom (literalBetween afterStart .placeholder before) calls
            DescribesFrom meaning line.leading line.calls taken) := by
  -- The place is general, since every call matches where the text before it stopped.
  induction calls generalizing afterStart bound before parts with
  | nil =>
      cases expanded
      refine ⟨Literal.items _, by simpa [ExpandedPart.probe] using Literal.reads_encode _,
        fun start stop _ => ?_⟩
      simp only [withoutEndFrom, describesFrom_nil_iff]
      exact Literal.passes_items _ start stop
  | cons call calls inductionHypothesis =>
      obtain ⟨placed, part, rest, callExpanded, -, restExpanded, rfl⟩ :=
        expandFrom_cons_eq_ok_iff.1 expanded
      have inTable := known call (by simp)
      cases role : call.keyword.role with
      | placeholder =>
          rw [role] at restExpanded
          obtain ⟨callItems, yields⟩ := KeywordCall.exists_yields inTable callExpanded
          obtain ⟨restItems, restReads, restPasses⟩ := inductionHypothesis
            (fun other member => known other (by simp [member])) trimmed restExpanded
          refine ⟨Literal.items (literalBetween afterStart .placeholder before) ++
            (callItems ++ restItems), ?_, fun start stop ended => ?_⟩
          · rw [List.flatMap_cons, List.flatMap_cons]
            exact (Literal.reads_encode _).append (yields.reads.append restReads)
          · rw [withoutEndFrom, role, if_neg (by decide)]
            exact passes_call_iff yields role fun next => restPasses next stop ended
      | lineStart => simp [isMisplaced, role] at placed
      | lineEnd =>
          -- Nothing follows: only white space may, and the line has none at its end.
          simp only [isMisplaced, role, Bool.not_eq_false', Bool.and_eq_true,
            List.isEmpty_iff] at placed
          obtain ⟨rfl, blank⟩ := placed
          rw [Text.eq_nil_of_isAllBlank blank trimmed] at restExpanded
          cases restExpanded
          have isDollar := ExpandedPart.eq_inline_of_ofCall (by simp [Keyword.isAnchor, role])
            callExpanded
          rw [Keyword.pattern_of_lineEnd inTable role] at isDollar
          subst isDollar
          refine ⟨Literal.items (literalBetween afterStart .lineEnd before) ++
            [.atom (.assertion .lineEnd)], ?_, fun start stop ended => ?_⟩
          · have silent : literalBetween false .placeholder [] = [] := rfl
            have whole := (Literal.reads_encode (literalBetween afterStart .lineEnd before)).append
              ReadsItem.lineEnd.reads
            simpa [ExpandedPart.probe, role, silent, Literal.encode_nil] using whole
          · rw [withoutEndFrom, if_pos role]
            exact passes_lineEnd_iff ended

/-- Where the first call is not that of the start, it does not matter that no call came
before. -/
theorem expandFrom_of_not_lineStart {afterStart : Bool} {bound : List Text} {before : Text}
    {calls : List KeywordCall} (other : ∀ call ∈ calls.head?, call.keyword.role ≠ .lineStart) :
    expandFrom true afterStart bound before calls =
      expandFrom false afterStart bound before calls := by
  cases calls with
  | nil => rfl
  | cons call calls =>
      have same : isMisplaced true before call calls = isMisplaced false before call calls := by
        unfold isMisplaced
        split
        · rfl
        · rename_i role
          exact absurd role (other call rfl)
        · rfl
      rw [expandFrom, expandFrom, same]

/-- A line that begins with the call of its start is read as items that match its
samples. -/
theorem exists_items_matches_iff_of_lineStart {leading : Text} {call : KeywordCall}
    {calls : List KeywordCall} {parts : List ExpandedPart}
    (known : ∀ other ∈ call :: calls, other.keyword ∈ Keyword.all)
    (role : call.keyword.role = .lineStart)
    (trimmed : Text.trimEnd (lastText call.following calls) = lastText call.following calls)
    (expanded : expand ⟨leading, call :: calls⟩ = .ok parts) :
    ∃ items, Reads (parts.flatMap ExpandedPart.probe) items ∧
      ∀ sample, (Pattern.ofItems items).Matches meaning sample ↔
        Describes meaning ⟨leading, call :: calls⟩ sample := by
  obtain ⟨-, part, rest, callExpanded, -, restExpanded, rfl⟩ :=
    expandFrom_cons_eq_ok_iff.1 expanded
  have isCaret := ExpandedPart.eq_inline_of_ofCall (by simp [Keyword.isAnchor, role]) callExpanded
  rw [Keyword.pattern_of_lineStart (known call (by simp)) role] at isCaret
  subst isCaret
  rw [role] at restExpanded
  obtain ⟨items, reads, passes⟩ := exists_items_passes_iff
    (fun other member => known other (by simp [member])) trimmed restExpanded
  refine ⟨.atom (.assertion .lineStart) :: items, ?_, fun sample => ?_⟩
  · have silent : literalBetween false .lineStart leading = [] := rfl
    have whole := ReadsItem.lineStart.reads.append reads
    simpa [ExpandedPart.probe, role, silent, Literal.encode_nil] using whole
  · have started : withoutStart ⟨leading, call :: calls⟩ =
        ⟨Text.trimStart call.following, calls⟩ := if_pos role
    rw [matches_lineStart_iff, Pattern.Matches, passes _ _ rfl, Describes, withoutEdges, started]
    simp [Place.spans_start_stop, literalBetween]

/-- A whole line is read as items that match its samples. -/
theorem exists_items_matches_iff {annotated : AnnotatedText} {parts : List ExpandedPart}
    (known : ∀ call ∈ annotated.calls, call.keyword ∈ Keyword.all)
    (trimmed : Text.trimEnd (lastText annotated.leading annotated.calls) =
      lastText annotated.leading annotated.calls)
    (expanded : annotated.expand = .ok parts) :
    ∃ items, Reads (parts.flatMap ExpandedPart.probe) items ∧
      ∀ sample, (Pattern.ofItems items).Matches meaning sample ↔
        annotated.Describes meaning sample := by
  obtain ⟨leading, calls⟩ := annotated
  by_cases starts : ∃ call ∈ calls.head?, call.keyword.role = .lineStart
  · obtain ⟨call, first, role⟩ := starts
    obtain ⟨calls, rfl⟩ := List.head?_eq_some_iff.1 first
    exact exists_items_matches_iff_of_lineStart known role trimmed expanded
  · have other : ∀ call ∈ calls.head?, call.keyword.role ≠ .lineStart := by
      simpa using starts
    rw [expand, expandFrom_of_not_lineStart other] at expanded
    obtain ⟨items, reads, passes⟩ := exists_items_passes_iff known trimmed expanded
    refine ⟨items, reads, fun sample => ?_⟩
    have kept : withoutStart ⟨leading, calls⟩ = ⟨leading, calls⟩ := by
      cases calls with
      | nil => rfl
      | cons call calls => exact if_neg (other call rfl)
    rw [Pattern.Matches, passes _ _ rfl, Describes, withoutEdges, kept]
    simp [Place.spans_start_stop, literalBetween]

end AnnotatedText

/-- The line of a content has no white space at its end. -/
theorem Literal.trimEnd_withoutAnchor (content : Text) :
    Text.trimEnd (withoutAnchor content) = withoutAnchor content := by
  simp only [withoutAnchor]
  split
  · exact Text.trimEnd_trimEnd _
  · exact Text.trimEnd_trimEnd content

/-- With groups in the place of its references, the statement of a content matches
exactly the samples of the content. -/
theorem writtenMatches_iff_describes {judge : PatternJudge} {content : Text}
    {expansion : Expansion} (expanded : expandWith judge content false = .ok expansion)
    (sample : Text) :
    Pattern.WrittenMatches meaning (withGroups expansion.captured expansion.text) sample ↔
      (AnnotatedText.ofText (Literal.withoutAnchor content)).Describes meaning sample := by
  obtain ⟨parts, found, -, statement, captured⟩ := exists_parts_of_expandWith expanded
  have known : ∀ call ∈ (AnnotatedText.ofText (Literal.withoutAnchor content)).calls,
      call.keyword ∈ Keyword.all :=
    fun call member => AnnotatedText.keyword_mem_of_mem_calls member
  have written : withGroups expansion.captured expansion.text =
      parts.flatMap ExpandedPart.probe := by
    rw [statement, captured]
    exact withGroups_statement known found
  obtain ⟨items, reads, matches_⟩ := AnnotatedText.exists_items_matches_iff known
    (AnnotatedText.trimEnd_lastText (Literal.trimEnd_withoutAnchor content)) found
  rw [written, ← matches_ sample]
  simp [Pattern.WrittenMatches, reads.read?]

/-- A line with both anchors, and a call that may stand for nothing. -/
theorem writtenMatches_anchored_line :
    expandWith Pattern.judge "start() vlan  digits(var_id, or_empty) end()$".toList false =
        .ok (.captures [⟨"id".toList, "(?:\\d+|)".toList, []⟩] "^vlan +$\x7bid\x7d$".toList) ∧
      (Pattern.WrittenMatches (fun _ _ => False)
          (withGroups [⟨"id".toList, "(?:\\d+|)".toList, []⟩] "^vlan +$\x7bid\x7d$".toList)
          "vlan   7".toList ↔
        (AnnotatedText.ofText (Literal.withoutAnchor
          "start() vlan  digits(var_id, or_empty) end()$".toList)).Describes
            (fun _ _ => False) "vlan   7".toList) :=
  have expanded :
      expandWith Pattern.judge "start() vlan  digits(var_id, or_empty) end()$".toList false =
        .ok (.captures [⟨"id".toList, "(?:\\d+|)".toList, []⟩] "^vlan +$\x7bid\x7d$".toList) :=
    eq_ok_of_toOption (by decide +kernel)
  ⟨expanded, writtenMatches_iff_describes expanded "vlan   7".toList⟩

end LineTemplate
