import LineTemplate.Pattern.Reader
import Mathlib.Data.List.Basic

/-!
Contract: bracketed sets of characters, read back from a list of their members.

Owns:
- `SetMember`, the members that a set can be written with, and their text;
- which lists of members are told apart again, and the set that is read of them.

Does not own: classes by name, negated sets and sets inside sets.
-/

namespace LineTemplate

namespace PatternReader

/-- Nothing is skipped outside verbose mode. -/
@[simp]
theorem skip_false (text : Text) : skip false text = text := by
  cases text with
  | nil => simp [skip]
  | cons first rest => simp [skip]

theorem readEscape_of_isEscapable {c : Char} (escapable : isEscapable c = true) (rest : Text) :
    readEscape false (c :: rest) = some (.literal c false, rest) := by
  unfold readEscape
  split <;> simp_all <;> exact absurd escapable (by decide)

end PatternReader

/-- A character inside brackets, with a backslash before it or without. -/
structure SetChar where
  c : Char
  escaped : Bool
deriving DecidableEq, Repr

namespace SetChar

def text (member : SetChar) : Text := if member.escaped then ['\\', member.c] else [member.c]

/-- Whether the character is read as itself, if a member may begin where it stands. -/
def isRead (member : SetChar) : Bool :=
  if member.escaped then PatternReader.isEscapable member.c else member.c != '\\'

/-- Whether the character begins a member. The characters that could end the set,
open another one or combine two sets have to be escaped. -/
def isProper (member : SetChar) : Bool :=
  member.isRead && (member.escaped || !(['[', ']', '&', '~', '-'].contains member.c))

def endsRange (member : SetChar) : Bool :=
  member.isRead && (member.escaped || !([']', '-'].contains member.c))

theorem isRead_of_isProper {member : SetChar} (proper : member.isProper = true) :
    member.isRead = true :=
  (Bool.and_eq_true_iff.1 proper).1

def plain (c : Char) : SetChar := ⟨c, false⟩

def behind (c : Char) : SetChar := ⟨c, true⟩

end SetChar

/-- A member of a set as it is written. -/
inductive SetMember where
  | single (member : SetChar)
  | range (first last : SetChar)
  /-- The class of decimal digits. -/
  | digits
deriving DecidableEq, Repr

namespace SetMember

def text : SetMember → Text
  | .single member => member.text
  | .range first last => first.text ++ '-' :: last.text
  | .digits => ['\\', 'd']

def set : SetMember → CharSet
  | .single member => .literal member.c false
  | .range first last => .range first.c false last.c false
  | .digits => .shorthand .digit false

def isProper : SetMember → Bool
  | .single member => member.isProper
  | .range first last => first.isProper && last.endsRange && first.c ≤ last.c
  | .digits => true

def hyphen : SetMember := .single (.plain '-')

/-- Whether a list of members is told apart again: a hyphen stands for itself at the
end only, and every other member is proper. -/
def areProper : List SetMember → Bool
  | [] => true
  | member :: members =>
      if member = hyphen then members.isEmpty else member.isProper && areProper members

/-- Whether a list of members is the whole of a set: the first one is not taken for
the sign of negation, a leading hyphen or a leading bracket. -/
def areWhole (members : List SetMember) : Bool :=
  areProper members &&
    (members.flatMap text).head?.any fun c => !(['^', '-', ']'].contains c)

end SetMember

namespace PatternReader

/-! ### One member -/

/-- Whether a member of a set begins a text inside brackets. -/
def startsMember : Text → Bool
  | [] => false
  | '[' :: _ => false
  | ']' :: _ => false
  | '&' :: '&' :: _ => false
  | '-' :: '-' :: _ => false
  | '~' :: '~' :: _ => false
  | _ => true

/-- Text inside brackets that a single member can stand before: the text does not make
a range of it. -/
def EndsMember (text : Text) : Prop :=
  ∃ next rest, text = next :: rest ∧ (next = '-' → rest.head? = some ']')

theorem readSetFrom_of_readRange {current : OpenBracket} {outer : List OpenBracket}
    {text after : Text} {set : CharSet} (starts : startsMember text = true)
    (read : readRange false text = some (set, after)) :
    readSetFrom false current outer text = readSetFrom false (current.add set) outer after := by
  rw [readSetFrom]
  split
  case h_7 => rw [skip_false, read]
  all_goals
    rename_i whole
    rw [skip_false] at whole
    subst whole
    exact absurd starts (by simp [startsMember])

theorem readSetFrom_close (current : OpenBracket) (rest : Text) :
    readSetFrom false current [] (']' :: rest) =
      some (.set current.negated current.content, rest) := by
  rw [readSetFrom]
  split
  case h_3 =>
      rename_i whole
      rw [skip_false] at whole
      cases whole
      rfl
  case h_7 =>
      rename_i notClosed _ _ _
      exact absurd (skip_false _) (notClosed rest)
  all_goals
    rename_i whole
    rw [skip_false] at whole
    simp at whole

theorem readMember_text {member : SetChar} (isRead : member.isRead = true) (rest : Text) :
    readMember false (member.text ++ rest) = some (.literal member.c false, rest) := by
  obtain ⟨c, escaped⟩ := member
  cases escaped with
  | true => exact readEscape_of_isEscapable isRead rest
  | false =>
      have other : c ≠ '\\' := by
        rintro rfl
        exact absurd isRead (by decide)
      simp [SetChar.text, readMember]

/-- An atom that ends is a member of its own. -/
theorem readRange_of_readMember {text after : Text} (atom : Atom) {set : CharSet}
    (read : readMember false text = some (atom, after)) (ends : EndsMember after)
    (known : setOfAtom? atom = some set) : readRange false text = some (set, after) := by
  obtain ⟨next, rest, rfl, hyphen⟩ := ends
  unfold readRange
  rw [read]
  by_cases isHyphen : next = '-'
  · subst isHyphen
    simp [afterHyphen?, hyphen, known]
  · simp [isHyphen, known]

theorem readRange_range {first last : SetChar} (firstProper : first.isProper = true)
    (ends : last.endsRange = true) (ordered : first.c ≤ last.c) (rest : Text) :
    readRange false (first.text ++ '-' :: (last.text ++ rest)) =
      some (.range first.c false last.c false, rest) := by
  have started : ∀ sign ∈ [']', '-'], afterHyphen? false (last.text ++ rest) ≠ some sign := by
    obtain ⟨c, escaped⟩ := last
    cases escaped with
    | true => simp [afterHyphen?, SetChar.text]
    | false =>
        rintro sign member same
        have isSign : c = sign := by simpa [afterHyphen?, SetChar.text] using same
        have checked : ∀ sign ∈ [']', '-'], (SetChar.plain sign).endsRange = false := by
          rw [List.forall_mem_cons, List.forall_mem_singleton]
          exact ⟨rfl, rfl⟩
        rw [isSign] at ends
        exact absurd ends (by simpa [SetChar.plain] using checked sign member)
  have lastRead : last.isRead = true := (Bool.and_eq_true_iff.1 ends).1
  unfold readRange
  rw [readMember_text (SetChar.isRead_of_isProper firstProper)]
  simp [started, readMember_text lastRead, setOfRange?, ordered]

theorem startsMember_text {member : SetChar} (proper : member.isProper = true) (rest : Text) :
    startsMember (member.text ++ rest) = true := by
  obtain ⟨c, escaped⟩ := member
  cases escaped with
  | true => rfl
  | false =>
      change startsMember (c :: rest) = true
      unfold startsMember
      split <;> simp_all <;> exact absurd proper (by decide)

/-! ### All members -/

namespace OpenBracket

def addAll (opened : OpenBracket) (members : List CharSet) : OpenBracket :=
  { opened with members := members.reverse ++ opened.members }

theorem addAll_cons (opened : OpenBracket) (member : CharSet) (members : List CharSet) :
    (opened.add member).addAll members = opened.addAll (member :: members) := by
  simp [addAll, add]

end OpenBracket

/-- What follows a member ends it. -/
theorem endsMember_members {members : List SetMember} (proper : SetMember.areProper members = true)
    (rest : Text) : EndsMember (members.flatMap SetMember.text ++ ']' :: rest) := by
  cases members with
  | nil => exact ⟨']', rest, rfl, by simp⟩
  | cons member members =>
      rw [SetMember.areProper] at proper
      split at proper
      · rename_i isHyphen
        rw [List.isEmpty_iff.1 proper, isHyphen]
        exact ⟨'-', ']' :: rest, rfl, by simp⟩
      · have first : ∀ member : SetChar, member.isProper = true → ∀ more : Text,
            EndsMember (member.text ++ more) := by
          rintro ⟨c, escaped⟩ proper more
          cases escaped with
          | true => exact ⟨'\\', c :: more, rfl, by simp⟩
          | false =>
              refine ⟨c, more, rfl, ?_⟩
              rintro rfl
              exact absurd proper (by decide)
        rw [Bool.and_eq_true] at proper
        rw [List.flatMap_cons, List.append_assoc]
        cases member with
        | single member => exact first member proper.1 _
        | range start last =>
            have both := proper.1
            rw [SetMember.isProper, Bool.and_eq_true, Bool.and_eq_true] at both
            rw [SetMember.text, List.append_assoc]
            exact first start both.1.1 _
        | digits => exact ⟨'\\', 'd' :: _, rfl, by simp⟩

/-- A list of members that are told apart is read as these members. -/
theorem readSetFrom_members {members : List SetMember} {current : OpenBracket}
    (proper : SetMember.areProper members = true) (rest : Text) :
    readSetFrom false current [] (members.flatMap SetMember.text ++ ']' :: rest) =
      readSetFrom false (current.addAll (members.map SetMember.set)) [] (']' :: rest) := by
  induction members generalizing current with
  | nil => rfl
  | cons member members inductionHypothesis =>
      rw [SetMember.areProper] at proper
      split at proper
      -- A hyphen is the last member, so the closing bracket keeps it from making a range.
      · rename_i isHyphen
        rw [List.isEmpty_iff.1 proper, isHyphen]
        exact readSetFrom_of_readRange rfl
          (readRange_of_readMember (.literal '-' false) rfl ⟨']', rest, rfl, by simp⟩ rfl)
      · rw [Bool.and_eq_true] at proper
        obtain ⟨memberProper, membersProper⟩ := proper
        rw [List.flatMap_cons, List.append_assoc, List.map_cons, ← OpenBracket.addAll_cons,
          ← inductionHypothesis membersProper]
        cases member with
        | single member =>
            exact readSetFrom_of_readRange (startsMember_text memberProper _)
              (readRange_of_readMember _
                (readMember_text (SetChar.isRead_of_isProper memberProper) _)
                (endsMember_members membersProper rest) rfl)
        | range first last =>
            rw [SetMember.isProper, Bool.and_eq_true, Bool.and_eq_true] at memberProper
            obtain ⟨⟨firstProper, lastProper⟩, ordered⟩ := memberProper
            rw [SetMember.text, List.append_assoc, List.cons_append]
            exact readSetFrom_of_readRange (startsMember_text firstProper _)
              (readRange_range firstProper lastProper (of_decide_eq_true ordered) _)
        | digits =>
            exact readSetFrom_of_readRange rfl
              (readRange_of_readMember (.shorthand .digit false) rfl
                (endsMember_members membersProper rest) rfl)

/-- A set is read back from the list of its members. -/
theorem readBracket_members {members : List SetMember}
    (whole : SetMember.areWhole members = true) (rest : Text) :
    readBracket false (members.flatMap SetMember.text ++ ']' :: rest) =
      some (.set false (CharSet.ofMembers (members.map SetMember.set)), rest) := by
  rw [SetMember.areWhole, Bool.and_eq_true] at whole
  obtain ⟨proper, opens⟩ := whole
  have opening : readOpening false (members.flatMap SetMember.text ++ ']' :: rest) =
      some (⟨false, none, []⟩, members.flatMap SetMember.text ++ ']' :: rest) := by
    cases inside : members.flatMap SetMember.text with
    | nil => simp [inside] at opens
    | cons c more =>
        have other : c ≠ '^' ∧ c ≠ '-' ∧ c ≠ ']' := by simpa [inside] using opens
        simp [readOpening, readNegation, readFirstMembers, readHyphens, other]
  rw [readBracket, opening, Option.bind_some]
  dsimp only
  rw [readSetFrom_members proper, readSetFrom_close]
  simp [OpenBracket.addAll, OpenBracket.content]

end PatternReader

end LineTemplate
