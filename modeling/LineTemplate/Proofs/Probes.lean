import LineTemplate.Proofs.ExpandedItems
import LineTemplate.Proofs.Judges

/-!
Contract: the probe of an expanded line as a regular expression.

Owns:
- the captures and the nesting of the items that calls yield, and so `ReadsNames` for the
  probe of a line;
- which causes an expansion can fail with before the probe is judged;
- `ProbeReads`, what is true of every probe, and that only its size can be wrong.

Does not own: what the probe matches.
-/

namespace LineTemplate

open PatternReader

/-! ### The items of calls -/

namespace Pattern

theorem flatMap_captures_of_isModest {items : List Pattern}
    (modest : ∀ item ∈ items, item.isModest = true) : items.flatMap captures = [] :=
  List.flatMap_eq_nil_iff.2 fun item member => captures_of_isModest (modest item member)

end Pattern

namespace CallArguments

variable {keywordItems : List Pattern} (modest : ∀ item ∈ keywordItems, item.isModest = true)

include modest

theorem fits_items (arguments : CallArguments) :
    ∀ item ∈ arguments.items keywordItems, item.Fits .outside 13 := by
  have fits : ∀ items : List Pattern, (∀ item ∈ items, item.isModest = true) →
      (Pattern.ofItems items).Fits .outside 11 := fun items modest =>
    .ofItems fun item member => Pattern.fits_of_isModest (modest item member)
  unfold items
  split
  · exact fun item member => (Pattern.fits_of_isModest (modest item member)).mono (by decide)
  · rw [List.forall_mem_singleton]
    refine .group (.ofBranches ?_) rfl .outside
    rw [List.forall_mem_cons]
    refine ⟨fits keywordItems modest, fun branch member => ?_⟩
    obtain ⟨alternative, -, rfl⟩ := List.mem_map.1 member
    exact fits _ fun item => Literal.isModest_of_mem_exactItems

theorem captures_items (arguments : CallArguments) :
    (arguments.items keywordItems).flatMap Pattern.captures = [] := by
  unfold items
  split
  · exact Pattern.flatMap_captures_of_isModest modest
  · rw [List.flatMap_singleton, Pattern.captures, Pattern.captures_ofBranches,
      List.flatMap_cons, Pattern.captures_ofItems, Pattern.flatMap_captures_of_isModest modest,
      List.nil_append, List.flatMap_eq_nil_iff]
    intro branch member
    obtain ⟨alternative, -, rfl⟩ := List.mem_map.1 member
    rw [Pattern.captures_ofItems]
    exact Pattern.flatMap_captures_of_isModest fun item => Literal.isModest_of_mem_exactItems

end CallArguments

namespace KeywordCall

theorem Yields.fits {call : KeywordCall} {part : ExpandedPart} {items : List Pattern}
    (yields : call.Yields part items) : ∀ item ∈ items, item.Fits .outside 15 := by
  cases yields with
  | anchor isAnchor consists =>
      exact fun item member =>
        (Pattern.fits_of_isModest (consists.modest item member)).mono (by decide)
  | inline role read consists =>
      exact fun item member =>
        (CallArguments.fits_items consists.modest _ item member).mono (by decide)
  | capture role read named pattern consists =>
      rw [List.forall_mem_singleton]
      exact .group (.ofItems (CallArguments.fits_items consists.modest _)) rfl .outside

theorem Yields.captures {call : KeywordCall} {part : ExpandedPart} {items : List Pattern}
    (yields : call.Yields part items) :
    items.flatMap Pattern.captures = part.boundNames.map some := by
  cases yields with
  | anchor isAnchor consists => exact Pattern.flatMap_captures_of_isModest consists.modest
  | inline role read consists => exact CallArguments.captures_items consists.modest _
  | capture role read named pattern consists =>
      rw [List.flatMap_singleton, Pattern.captures, Pattern.captures_ofItems,
        CallArguments.captures_items consists.modest]
      rfl

end KeywordCall

/-! ### The items of lines -/

/-- A text is read as items that may stand in a regular expression and that capture the
given names. -/
def ReadsNames (text : Text) (names : List Text) : Prop :=
  ∃ items, Reads text items ∧ (∀ item ∈ items, item.Fits .outside 15) ∧
    items.flatMap Pattern.captures = names.map some

namespace ReadsNames

theorem append {text more : Text} {names others : List Text} (first : ReadsNames text names)
    (second : ReadsNames more others) : ReadsNames (text ++ more) (names ++ others) := by
  obtain ⟨items, reads, fits, captures⟩ := first
  obtain ⟨moreItems, moreReads, moreFits, moreCaptures⟩ := second
  refine ⟨items ++ moreItems, reads.append moreReads, List.forall_mem_append.2 ⟨fits, moreFits⟩, ?_⟩
  rw [List.flatMap_append, captures, moreCaptures, List.map_append]

theorem flagText (ignoreCase : Bool) : ReadsNames (flagText ignoreCase) [] := by
  cases ignoreCase with
  | false => exact ⟨[], .nil, by simp, rfl⟩
  | true =>
      refine ⟨_, .ignoreCaseFlag, ?_, rfl⟩
      rw [List.forall_mem_singleton]
      exact ⟨rfl, rfl, Nat.zero_le 15⟩

/-- A text that captures no name twice is a regular expression with these names. -/
theorem exists_pattern {text : Text} {names : List Text} (reads : ReadsNames text names)
    (distinct : names.Nodup) :
    ∃ pattern, Pattern.read? text = some pattern ∧ pattern.isProper = true ∧
      pattern.captures = names.map some := by
  obtain ⟨items, reads, fits, captures⟩ := reads
  have whole : (Pattern.ofItems items).Fits .outside 16 := .ofItems fits
  have bound : (Pattern.ofItems items).captures = names.map some := by
    rw [Pattern.captures_ofItems, captures]
  have apart : (Pattern.ofItems items).captureNames.Nodup := by
    rw [Pattern.captureNames, bound, List.filterMap_map]
    simpa using distinct
  refine ⟨_, reads.read?, ?_, bound⟩
  simp only [Pattern.isProper, Bool.and_eq_true, decide_eq_true_eq]
  exact ⟨⟨Nat.le_trans whole.depth_le (by decide), apart⟩, whole.allowed⟩

end ReadsNames

theorem Literal.readsNames_encode (text : Text) : ReadsNames (encode text) [] := by
  refine ⟨items text, reads_encode text, fun item member => ?_, ?_⟩
  · exact (Pattern.fits_of_isModest (isModest_of_mem_items member)).mono (by decide)
  · exact Pattern.flatMap_captures_of_isModest fun item => isModest_of_mem_items

namespace AnnotatedText

/-- The probe of a line is read as items that may stand in a regular expression and
that capture the names of its parts. -/
theorem readsNames_of_expandFrom {opening afterStart : Bool} {bound : List Text} {before : Text}
    {calls : List KeywordCall} {parts : List ExpandedPart}
    (known : ∀ call ∈ calls, call.keyword ∈ Keyword.all)
    (expanded : expandFrom opening afterStart bound before calls = .ok parts) :
    ReadsNames (parts.flatMap ExpandedPart.probe) (parts.flatMap ExpandedPart.boundNames) := by
  induction calls generalizing opening afterStart bound before parts with
  | nil =>
      cases expanded
      rw [List.flatMap_singleton, List.flatMap_singleton]
      exact Literal.readsNames_encode _
  | cons call calls inductionHypothesis =>
      obtain ⟨-, part, rest, callExpanded, -, restExpanded, rfl⟩ :=
        expandFrom_cons_eq_ok_iff.1 expanded
      obtain ⟨items, yields⟩ := KeywordCall.exists_yields (known call (by simp)) callExpanded
      have called : ReadsNames part.probe part.boundNames :=
        ⟨items, yields.reads, yields.fits, yields.captures⟩
      have later := inductionHypothesis (fun other member => known other (by simp [member]))
        restExpanded
      simp only [List.flatMap_cons]
      exact (Literal.readsNames_encode _).append (called.append later)

end AnnotatedText

/-! ### Causes of failure -/

/-- Whatever a computation fails with, it is not the judgement of the probe. -/
def Unjudged {α : Type} (outcome : Except AnnotationError α) : Prop :=
  ∀ statement reason, outcome ≠ .error (.invalidPattern statement reason)

theorem Unjudged.bind {α β : Type} {first : Except AnnotationError α}
    {next : α → Except AnnotationError β} (unjudged : Unjudged first)
    (later : ∀ value, Unjudged (next value)) : Unjudged (first >>= next) := by
  cases first with
  | error cause => exact fun statement reason same => unjudged statement reason (by cases same; rfl)
  | ok value => exact later value

namespace CallArguments

theorem unjudged_add (keyword : Keyword) (known : CallArguments) (argument : Text) :
    Unjudged (add keyword known argument) := by
  intro statement reason
  unfold add
  split
  · split <;> simp
  · split
    · simp
    · split
      · simp
      · split <;> simp

theorem unjudged_read (keyword : Keyword) (arguments : Text) :
    Unjudged (read keyword arguments) := by
  have each : ∀ (texts : List Text) (known : CallArguments),
      Unjudged (texts.foldlM (add keyword) known) := by
    intro texts
    induction texts with
    | nil => exact fun known statement reason => by simp [pure, Except.pure]
    | cons argument texts inductionHypothesis =>
        intro known
        rw [List.foldlM_cons]
        exact (unjudged_add keyword known argument).bind inductionHypothesis
  exact each (split arguments) empty

end CallArguments

theorem ExpandedPart.unjudged_ofCall (call : KeywordCall) : Unjudged (ofCall call) := by
  refine (CallArguments.unjudged_read _ _).bind fun arguments statement reason => ?_
  split
  · split <;> simp
  · split <;> simp

namespace AnnotatedText

theorem unjudged_expandFrom (opening afterStart : Bool) (bound : List Text) (before : Text)
    (calls : List KeywordCall) : Unjudged (expandFrom opening afterStart bound before calls) := by
  induction calls generalizing opening afterStart bound before with
  | nil => exact fun statement reason => by simp [expandFrom]
  | cons call calls inductionHypothesis =>
      rw [expandFrom]
      split
      · exact fun statement reason => by simp
      · refine (ExpandedPart.unjudged_ofCall call).bind fun part => Unjudged.bind ?_ fun _ =>
          (inductionHypothesis _ _ _ _).bind fun rest statement reason => by simp
        intro statement reason
        cases part with
        | capture captured =>
            rw [ExpandedPart.checkFresh]
            split <;> simp
        | _ => simp [ExpandedPart.checkFresh]

end AnnotatedText

/-! ### The probe -/

/-- The probe of a line is a regular expression with one group for each variable, under
its name and in the order of the variables. -/
structure ProbeReads (parts : List ExpandedPart) (ignoreCase : Bool) (pattern : Pattern) :
    Prop where
  read : Pattern.read? (flagText ignoreCase ++ parts.flatMap ExpandedPart.probe) = some pattern
  proper : pattern.isProper = true
  captures : pattern.captures = (capturedVariables parts).map fun captured => some captured.name
  distinct : ((capturedVariables parts).map Variable.name).Nodup

theorem exists_probeReads {annotated : AnnotatedText} {parts : List ExpandedPart}
    (known : ∀ call ∈ annotated.calls, call.keyword ∈ Keyword.all)
    (expanded : annotated.expand = .ok parts) (ignoreCase : Bool) :
    ∃ pattern, ProbeReads parts ignoreCase pattern := by
  obtain ⟨distinct, -⟩ := AnnotatedText.nodup_boundNames_of_expandFrom expanded
  have reads := (ReadsNames.flagText ignoreCase).append
    (AnnotatedText.readsNames_of_expandFrom known expanded)
  rw [List.nil_append, ← map_name_capturedVariables] at reads
  rw [← map_name_capturedVariables] at distinct
  obtain ⟨pattern, read, proper, captures⟩ := reads.exists_pattern distinct
  exact ⟨pattern, read, proper, by rw [captures, List.map_map]; rfl, distinct⟩

/-- If the calls of a content are in order, its probe is a regular expression that
captures its variables, and a judge that checks sizes can only refuse its size. -/
theorem exists_probeReads_of_expandWith {judge : PatternJudge} {Fits : Pattern → Prop}
    (sized : judge.ChecksSize Fits) {content : Text} {ignoreCase : Bool}
    (inOrder : ∀ cause, expandWith judge content ignoreCase = .error cause →
      ∃ statement reason, cause = .invalidPattern statement reason) :
    ∃ parts pattern,
      (AnnotatedText.ofText (Literal.withoutAnchor content)).expand = .ok parts ∧
        ProbeReads parts ignoreCase pattern ∧
        (∀ expansion, expandWith judge content ignoreCase = .ok expansion →
          expansion.captured = capturedVariables parts) ∧
        ∀ statement reason,
          expandWith judge content ignoreCase = .error (.invalidPattern statement reason) →
            reason = Pattern.Refusal.tooLarge.message ∧ ¬Fits pattern := by
  cases expanded : (AnnotatedText.ofText (Literal.withoutAnchor content)).expand with
  | error cause =>
      have failed : expandWith judge content ignoreCase = .error cause := by
        rw [expandWith, expanded]
        rfl
      obtain ⟨statement, reason, rfl⟩ := inOrder cause failed
      exact absurd expanded (AnnotatedText.unjudged_expandFrom _ _ _ _ _ statement reason)
  | ok parts =>
      obtain ⟨pattern, reads⟩ := exists_probeReads
        (fun call member => AnnotatedText.keyword_mem_of_mem_calls member) expanded ignoreCase
      refine ⟨parts, pattern, rfl, reads, fun expansion given => ?_,
        fun statement reason failed => ?_⟩
      · obtain ⟨others, same, -, -, captured⟩ := exists_parts_of_expandWith given
        rw [expanded] at same
        cases same
        exact captured
      · have judged := judge_of_expandWith_error expanded failed
        rcases sized.cases reads.read reads.proper with ⟨-, accepted⟩ | ⟨tooLarge, refused⟩
        · rw [accepted] at judged
          cases judged
        · rw [refused] at judged
          cases judged
          exact ⟨rfl, tooLarge⟩

/-- A sample line with a call is in order, hence so is its probe. -/
theorem exists_probeReads_sample_line :
    (Pattern.judge.ChecksSize (fun pattern => pattern.weight true ≤ Pattern.weightLimit) ∧
      ∀ cause, expandWith Pattern.judge "vlan digits(var_id) is word()".toList true = .error cause →
        ∃ statement reason, cause = .invalidPattern statement reason) ∧
      ∃ parts pattern,
        (AnnotatedText.ofText
            (Literal.withoutAnchor "vlan digits(var_id) is word()".toList)).expand = .ok parts ∧
          ProbeReads parts true pattern ∧
          (∀ expansion,
            expandWith Pattern.judge "vlan digits(var_id) is word()".toList true = .ok expansion →
              expansion.captured = capturedVariables parts) ∧
          ∀ statement reason,
            expandWith Pattern.judge "vlan digits(var_id) is word()".toList true =
                .error (.invalidPattern statement reason) →
              reason = Pattern.Refusal.tooLarge.message ∧
                ¬pattern.weight true ≤ Pattern.weightLimit := by
  have sized := Pattern.checksSize_judge
  have succeeds : (expandWith Pattern.judge "vlan digits(var_id) is word()".toList true).isOk :=
    by decide +kernel
  have inOrder : ∀ cause,
      expandWith Pattern.judge "vlan digits(var_id) is word()".toList true = .error cause →
        ∃ statement reason, cause = .invalidPattern statement reason := by
    intro cause failed
    rw [failed] at succeeds
    exact absurd succeeds (by simp [Except.isOk, Except.toBool])
  exact ⟨⟨sized, inOrder⟩, exists_probeReads_of_expandWith sized inOrder⟩

end LineTemplate
