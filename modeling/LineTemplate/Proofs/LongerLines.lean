import LineTemplate.Proofs.CallSites
import LineTemplate.Proofs.StatementEnds

/-!
Contract: what text behind a line adds to its expansion.

Owns:
- `AnnotatedText.append`, a line with more literal text behind it, and that text without
  a closing parenthesis only makes the last literal text longer;
- that two such lines expand to the same parts but for the last literal text;
- the number of dollar signs in statements and finished bodies.

Does not own: how a line ends.
-/

namespace LineTemplate

open Literal

/-! ### Longer lines -/

namespace AnnotatedText

/-- A line with more literal text behind it. -/
def append (before : Text) : List KeywordCall → Text → AnnotatedText
  | [], more => ⟨before ++ more, []⟩
  | call :: calls, more =>
      ⟨before, { call with following := (append call.following calls more).leading } ::
        (append call.following calls more).calls⟩

theorem append_leading (front before : Text) (calls : List KeywordCall) (more : Text) :
    append (front ++ before) calls more =
      ⟨front ++ (append before calls more).leading, (append before calls more).calls⟩ := by
  cases calls with
  | nil => simp [append]
  | cons call calls => rfl

theorem ofPieces_chars (text : Text) : ofPieces (text.map .char) = ⟨text, []⟩ := by
  induction text with
  | nil => rfl
  | cons first rest inductionHypothesis =>
      rw [List.map_cons, ofPieces, inductionHypothesis]

/-- Characters behind pieces are literal text behind their line. -/
theorem ofPieces_append_chars (pieces : List LinePiece) (more : Text) :
    ofPieces (pieces ++ more.map .char) =
      append (ofPieces pieces).leading (ofPieces pieces).calls more := by
  induction pieces with
  | nil => exact ofPieces_chars more
  | cons piece pieces inductionHypothesis =>
      cases piece with
      | char c =>
          rw [List.cons_append, ofPieces, ofPieces, inductionHypothesis]
          exact (append_leading [c] _ _ more).symm
      | call written =>
          rw [List.cons_append, ofPieces, ofPieces, inductionHypothesis]
          cases Keyword.find? written.name with
          | none => exact (append_leading written.text _ _ more).symm
          | some keyword => rfl

/-- Text that closes no parenthesis is literal where it is put behind a line. -/
theorem ofText_append (text : Text) {more : Text} (open_ : ')' ∉ more) :
    ofText (text ++ more) = append (ofText text).leading (ofText text).calls more := by
  rw [ofText, LinePiece.ofText, LinePiece.read_append_of_not_mem false text open_,
    ofPieces_append_chars]
  rfl

/-- A line without calls is literal as a whole. -/
theorem ofText_of_not_hasKeywordCall {text : Text} (quiet : hasKeywordCall text = false) :
    ofText text = ⟨text, []⟩ := by
  have uncalled : (ofText text).calls = [] := by
    rwa [hasKeywordCall_eq, Bool.not_eq_false', List.isEmpty_iff] at quiet
  have whole : (LinePiece.ofText text).flatMap LinePiece.text =
      (ofText text).leading ++ KeywordCall.textFrom (ofText text).calls :=
    flatMap_text_eq (LinePiece.ofText text)
  rw [LinePiece.ofText, LinePiece.flatMap_text_read, uncalled] at whole
  have leading : (ofText text).leading = text :=
    (whole.trans (List.append_nil _)).symm
  calc
    ofText text = ⟨(ofText text).leading, (ofText text).calls⟩ := rfl
    _ = ⟨text, []⟩ := by rw [leading, uncalled]

end AnnotatedText

/-! ### Dollar signs -/

namespace Literal

theorem count_dollar_escapeChar (c : Char) : (escapeChar c).count '$' = [c].count '$' := by
  unfold escapeChar
  split <;> simp [List.count_cons]

theorem count_dollar_of_blank {text : Text} (blank : ∀ c ∈ text, Text.isBlank c = true) :
    text.count '$' = 0 := by
  rw [List.count_eq_zero]
  exact fun member => absurd (blank _ member) (by decide)

theorem count_dollar_trimStart (text : Text) :
    (Text.trimStart text).count '$' = text.count '$' := by
  have blank : ∀ c ∈ text.takeWhile Text.isBlank, Text.isBlank c = true :=
    fun c member => List.mem_takeWhile_imp member
  conv_rhs => rw [← List.takeWhile_append_dropWhile (p := Text.isBlank) (l := text)]
  rw [List.count_append, count_dollar_of_blank blank, Nat.zero_add, Text.trimStart]

/-- Escaping neither adds nor loses a dollar sign. -/
theorem count_dollar_encode (text : Text) : (encode text).count '$' = text.count '$' := by
  unfold encode
  fun_induction units text with
  | case1 => rfl
  | case2 first rest blank inductionHypothesis =>
      have run : (unitPattern (runUnit (first :: rest.takeWhile Text.isBlank))).count '$' = 0 := by
        unfold runUnit
        split
        · rfl
        · split <;> rfl
      have solid : first ≠ '$' := by
        rintro rfl
        exact absurd blank (by decide)
      have dropped : (rest.dropWhile Text.isBlank).count '$' = rest.count '$' :=
        count_dollar_trimStart rest
      rw [List.flatMap_cons, List.count_append, run, inductionHypothesis, dropped,
        List.count_cons_of_ne solid, Nat.zero_add]
  | case3 first rest solid inductionHypothesis =>
      rw [List.flatMap_cons, List.count_append, inductionHypothesis, unitPattern,
        count_dollar_escapeChar, ← List.count_append]
      rfl

end Literal

namespace AnnotatedText

/-- Two lines of which one has more text behind it expand to the same parts, but for the
last literal text, which has the dollar signs of the added text more. -/
theorem exists_parts_of_expandFrom_append {opening afterStart : Bool} {bound : List Text}
    {before more : Text} {calls : List KeywordCall} {parts longer : List ExpandedPart}
    (expanded : expandFrom opening afterStart bound before calls = .ok parts)
    (extended : expandFrom opening afterStart bound (append before calls more).leading
      (append before calls more).calls = .ok longer)
    (solid : Text.isAllBlank more = false) :
    ¬EndsLine calls ∧ ¬EndsLine (append before calls more).calls ∧
      ∃ front last end_, parts = front ++ [.literal last] ∧ longer = front ++ [.literal end_] ∧
        end_.count '$' = last.count '$' + more.count '$' := by
  induction calls generalizing opening afterStart bound before parts longer with
  | nil =>
      cases expanded
      cases extended
      refine ⟨by simp [EndsLine], by simp [EndsLine, append], [], _, _, rfl, rfl, ?_⟩
      cases afterStart
      · exact List.count_append
      · simp only [literalBetween, if_true, append, count_dollar_trimStart, List.count_append]
  | cons call calls inductionHypothesis =>
      obtain ⟨placed, part, rest, made, -, later, rfl⟩ := expandFrom_cons_eq_ok_iff.1 expanded
      obtain ⟨still, same, others, again, -, behind, rfl⟩ := expandFrom_cons_eq_ok_iff.1 extended
      have samePart : part = same := Except.ok.inj (made.symm.trans again)
      subst samePart
      obtain ⟨unended, stillUnended, front, last, end_, rfl, rfl, count⟩ :=
        inductionHypothesis later behind
      have inside : call.keyword.role ≠ .lineEnd := by
        -- Behind such a call only white space may stand, in the longer line too.
        intro ends
        obtain ⟨rfl, -⟩ := eq_nil_of_lineEnd call ends placed
        obtain ⟨-, blank⟩ :=
          eq_nil_of_lineEnd { call with following := call.following ++ more } ends still
        rw [Text.isAllBlank, List.all_append, Bool.and_eq_true] at blank
        rw [Text.isAllBlank, blank.2] at solid
        cases solid
      exact ⟨(endsLine_cons_iff call calls inside).not.2 unended,
        (endsLine_cons_iff { call with following := (append call.following calls more).leading }
          (append call.following calls more).calls inside).not.2 stillUnended,
        .literal (literalBetween afterStart call.keyword.role before) :: part :: front, last, end_,
        rfl, rfl, count⟩

end AnnotatedText

end LineTemplate
