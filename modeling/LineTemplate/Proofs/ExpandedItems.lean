import LineTemplate.Proofs.Characters
import LineTemplate.Proofs.Expansion
import LineTemplate.Proofs.KeywordPatterns

/-!
Contract: the parts of an expanded line as items of a regular expression.

Owns:
- the items of literal text and of the choice between a keyword's pattern and its
  alternatives;
- `KeywordCall.Yields`, the part and the items that a call gives, and that the
  probe of the part is read as these items.

Does not own: what the items match, and whether the whole is acceptable.
-/

namespace LineTemplate

open PatternReader

/-! ### Literal text -/

namespace Literal

def unitItem : LiteralUnit → Pattern
  | .char c => .atom (.literal c false)
  | .oneSpace => .atom (.literal ' ' false)
  | .severalSpaces => .repeated (.atom (.literal ' ' false)) 1 none true
  | .whiteSpace => .repeated (.atom (.shorthand .space false)) 1 none true

/-- The items of literal text, white space varying within its class. -/
def items (text : Text) : List Pattern := (units text).map unitItem

/-- The items of a text, white space included as it is. -/
def exactItems (text : Text) : List Pattern := text.map fun c => .atom (.literal c false)

theorem encode_nil : encode [] = [] := by simp [encode, units]

theorem reads_unitPattern (unit : LiteralUnit) : Reads (unitPattern unit) [unitItem unit] := by
  cases unit with
  | char c => exact (ReadsItem.escapeChar c).reads
  | oneSpace => exact (ReadsItem.escapeChar ' ').reads
  | severalSpaces => exact (ReadsItem.escapeChar ' ').repeated .plus
  | whiteSpace => exact SingleFragment.blank.reads.repeated .plus

theorem reads_encode (text : Text) : Reads (encode text) (items text) :=
  .flatMap reads_unitPattern (units text)

theorem reads_escape (text : Text) : Reads (escape text) (exactItems text) :=
  .flatMap (fun c => (ReadsItem.escapeChar c).reads) text

theorem isModest_unitItem (unit : LiteralUnit) : (unitItem unit).isModest = true := by
  cases unit with
  | char c => rfl
  | oneSpace => decide
  | severalSpaces => decide
  | whiteSpace => decide

theorem isModest_of_mem_items {text : Text} {item : Pattern} (member : item ∈ items text) :
    item.isModest = true := by
  obtain ⟨unit, -, rfl⟩ := List.mem_map.1 member
  exact isModest_unitItem unit

theorem flagsAfter_of_mem_items {text : Text} (item : Pattern) (member : item ∈ items text) :
    item.flagsAfter .initial = .initial :=
  Pattern.flagsAfter_of_isModest (isModest_of_mem_items member)

theorem isModest_of_mem_exactItems {text : Text} {item : Pattern}
    (member : item ∈ exactItems text) : item.isModest = true := by
  obtain ⟨c, -, rfl⟩ := List.mem_map.1 member
  rfl

end Literal

/-! ### Calls -/

namespace CallArguments

/-- The items of a keyword's pattern, or the group of the choice between them and the
alternatives. -/
def items (arguments : CallArguments) (keywordItems : List Pattern) : List Pattern :=
  if arguments.alternatives.isEmpty then keywordItems
  else [.group (.plain []) (.ofBranches (.ofItems keywordItems ::
    arguments.alternatives.map fun alternative => .ofItems (Literal.exactItems alternative)))]

theorem reads_pattern {keyword : Keyword} {keywordItems : List Pattern}
    (reads : Reads keyword.pattern keywordItems) (arguments : CallArguments) :
    Reads (pattern keyword arguments) (arguments.items keywordItems) := by
  unfold pattern items
  split
  · exact reads
  · have each : ∀ branch ∈ (keyword.pattern, keywordItems) ::
        arguments.alternatives.map fun alternative =>
          (Literal.escape alternative, Literal.exactItems alternative),
        Reads branch.1 branch.2 := by
      rw [List.forall_mem_cons]
      refine ⟨reads, fun branch member => ?_⟩
      obtain ⟨alternative, -, rfl⟩ := List.mem_map.1 member
      exact Literal.reads_escape alternative
    simpa [Function.comp_def] using (ReadsItem.group (by simp) each).reads

end CallArguments

namespace KeywordCall

/-- The part that a call expands to, with the items of its probe. -/
inductive Yields (call : KeywordCall) : ExpandedPart → List Pattern → Prop where
  | anchor {keywordItems : List Pattern}
      (isAnchor : call.keyword.isAnchor = true)
      (consists : call.keyword.Consists keywordItems) :
      Yields call (.inline call.keyword.pattern) keywordItems
  | inline {known : CallArguments} {keywordItems : List Pattern}
      (role : call.keyword.role = .placeholder)
      (read : CallArguments.read call.keyword call.arguments = .ok known)
      (consists : call.keyword.Consists keywordItems) :
      Yields call (.inline (CallArguments.pattern call.keyword known)) (known.items keywordItems)
  | capture {known : CallArguments} {keywordItems : List Pattern} {captured : Variable}
      (role : call.keyword.role = .placeholder)
      (read : CallArguments.read call.keyword call.arguments = .ok known)
      (named : known.name = some captured.name)
      (pattern : captured.pattern = CallArguments.pattern call.keyword known)
      (consists : call.keyword.Consists keywordItems) :
      Yields call (.capture captured)
        [.group (.capture (some captured.name)) (.ofItems (known.items keywordItems))]

theorem exists_yields {call : KeywordCall} {part : ExpandedPart}
    (known : call.keyword ∈ Keyword.all) (expanded : ExpandedPart.ofCall call = .ok part) :
    ∃ items, call.Yields part items := by
  obtain ⟨keywordItems, consists⟩ := Keyword.exists_consists known
  have placeholder : call.keyword.isAnchor = false → call.keyword.role = .placeholder := by
    intro notAnchor
    simpa [Keyword.isAnchor] using notAnchor
  obtain ⟨arguments, read, ⟨isAnchor, rfl⟩ | ⟨notAnchor, rfl⟩ |
    ⟨notAnchor, captured, named, pattern, rfl⟩⟩ := ExpandedPart.ofCall_eq_ok expanded
  · exact ⟨_, .anchor isAnchor consists⟩
  · exact ⟨_, .inline (placeholder notAnchor) read consists⟩
  · exact ⟨_, .capture (placeholder notAnchor) read named pattern consists⟩

theorem Yields.reads {call : KeywordCall} {part : ExpandedPart} {items : List Pattern}
    (yields : call.Yields part items) : Reads part.probe items := by
  cases yields with
  | anchor isAnchor consists => exact consists.reads
  | inline role read consists => exact CallArguments.reads_pattern consists.reads _
  | @capture known _ captured role read named pattern consists =>
      have proper := CallArguments.isVariableName_of_read read captured.name named
      have inside := CallArguments.reads_pattern consists.reads known
      rw [← pattern] at inside
      exact (ReadsItem.capture (Text.isGroupName_of_isVariableName proper)
        (Text.not_mem_of_isVariableName proper (by decide)) inside).reads

end KeywordCall

end LineTemplate
