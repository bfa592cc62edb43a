import LineTemplate.Pattern.Reader.Group

/-!
Contract: how the classes of characters lie inside each other.

Owns:
- properties of the characters of ASCII, checked one by one;
- the classes that the characters of names belong to;
- the characters that differ in case only from the space, and from those of names.

Does not own: texts of such characters.
-/

namespace LineTemplate

/-- What a table holds is in one of its ranges. -/
theorem CodeRanges.exists_range_of_holdsCode {code : Nat} {ranges : List (Nat × Nat)}
    (holds : holdsCode code ranges = true) :
    ∃ range ∈ ranges, range.1 ≤ code ∧ code ≤ range.2 := by
  induction ranges with
  | nil => cases holds
  | cons range ranges inductionHypothesis =>
      rw [holdsCode] at holds
      split at holds
      · cases holds
      · rename_i atLeast
        split at holds
        · rename_i atMost
          exact ⟨range, List.mem_cons_self, Nat.le_of_not_lt atLeast, atMost⟩
        · obtain ⟨other, member, within⟩ := inductionHypothesis holds
          exact ⟨other, List.mem_cons_of_mem _ member, within⟩

namespace Text

/-- A property of the characters of ASCII is checked one by one. -/
theorem forall_ascii (test : Char → Bool) (checked : ∀ code < 128, test (Char.ofNat code) = true)
    {c : Char} (small : c.toNat < 128) : test c = true := by
  have at_ := checked c.toNat small
  rwa [Char.ofNat_toNat] at at_

theorem toNat_lt_of_isNameChar {c : Char} (belongs : isNameChar c = true) : c.toNat < 128 := by
  simp only [isNameChar, isLetter, isLower, isUpper, isDigit, Bool.or_eq_true, Bool.and_eq_true,
    decide_eq_true_eq, beq_iff_eq, Char.le_def, UInt32.le_iff_toNat_le] at belongs
  rcases belongs with ((⟨_, atMost⟩ | ⟨_, atMost⟩) | ⟨_, atMost⟩) | rfl
  · exact Nat.lt_of_le_of_lt atMost (by decide)
  · exact Nat.lt_of_le_of_lt atMost (by decide)
  · exact Nat.lt_of_le_of_lt atMost (by decide)
  · decide

theorem isNameChar_of_isLowerWord {c : Char} (word : isLowerWord c = true) :
    isNameChar c = true := by
  simp only [isLowerWord, isNameChar, isLetter, Bool.or_eq_true] at word ⊢
  rcases word with (lower | digit) | underscore
  · exact .inl (.inl (.inl lower))
  · exact .inl (.inr digit)
  · exact .inr underscore

theorem isWord_of_isLowerWord {c : Char} (word : isLowerWord c = true) : isWord c = true := by
  have checked : ∀ code < 128,
      (!isLowerWord (Char.ofNat code) || isWord (Char.ofNat code)) = true := by decide +kernel
  have either := forall_ascii (fun c => !isLowerWord c || isWord c) checked
    (toNat_lt_of_isNameChar (isNameChar_of_isLowerWord word))
  simpa [word] using either

/-- White space belongs to no word. -/
theorem isWord_of_isBlank {c : Char} (blank : isBlank c = true) : isWord c = false := by
  have checked : ∀ range ∈ blanks.ranges, ∀ offset < range.2 + 1 - range.1,
      isWord (Char.ofNat (range.1 + offset)) = false := by decide +kernel
  obtain ⟨range, member, atLeast, atMost⟩ := CodeRanges.exists_range_of_holdsCode blank
  have word := checked range member (c.toNat - range.1) (by omega)
  rwa [Nat.add_sub_cancel' atLeast, Char.ofNat_toNat] at word

theorem isLowerWord_of_isBlank {c : Char} (blank : isBlank c = true) : isLowerWord c = false := by
  cases word : isLowerWord c with
  | false => rfl
  | true => exact absurd (isWord_of_isLowerWord word) (by simp [isWord_of_isBlank blank])

theorem isGroupName_of_isVariableName {name : Text} (proper : isVariableName name = true) :
    PatternReader.isGroupName name = true := by
  have checked : ∀ code < 128, (!isNameChar (Char.ofNat code) ||
      (isAlphanumeric (Char.ofNat code) || "_.[]".toList.contains (Char.ofNat code))) = true := by
    decide +kernel
  have checkedLetter : ∀ code < 128,
      (!isLetter (Char.ofNat code) || isAlphabetic (Char.ofNat code)) = true := by
    decide +kernel
  cases name with
  | nil => simp [isVariableName] at proper
  | cons first rest =>
      rw [isVariableName, Bool.and_eq_true, List.all_eq_true] at proper
      obtain ⟨letter, others⟩ := proper
      have belongs : isNameChar first = true := by simp [isNameChar, letter]
      have begins := forall_ascii (fun c => !isLetter c || isAlphabetic c) checkedLetter
        (toNat_lt_of_isNameChar belongs)
      have alphabetic : isAlphabetic first = true := by simpa [letter] using begins
      rw [PatternReader.isGroupName, alphabetic, Bool.or_true, Bool.true_and, List.all_eq_true]
      intro c member
      have either := forall_ascii
        (fun c => !isNameChar c || (isAlphanumeric c || "_.[]".toList.contains c)) checked
        (toNat_lt_of_isNameChar (others c member))
      simpa [others c member] using either

theorem not_mem_of_isVariableName {name : Text} {c : Char} (proper : isVariableName name = true)
    (other : isNameChar c = false) : c ∉ name := by
  intro member
  cases name with
  | nil => simp at member
  | cons first rest =>
      rw [isVariableName, Bool.and_eq_true, List.all_eq_true] at proper
      rcases List.mem_cons.1 member with rfl | inside
      · simp [isNameChar, proper.1] at other
      · rw [proper.2 c inside] at other
        exact absurd other (by decide)

/-! ### Case -/

/-- A code folds to itself, or as far behind the image of an entry of the table as it stands
behind the beginning of the entry. -/
theorem foldCode_cases (code : Nat) (table : List (Nat × Nat × Nat × Nat)) :
    foldCode code table = code ∨ ∃ entry ∈ table, entry.1 ≤ code ∧ code ≤ entry.2.1 ∧
      foldCode code table = entry.2.2.2 + (code - entry.1) := by
  induction table with
  | nil => exact .inl rfl
  | cons entry table inductionHypothesis =>
      obtain ⟨first, last, step, image⟩ := entry
      rw [foldCode]
      split
      · exact .inl rfl
      · rename_i atLeast
        split
        · rename_i atMost
          split
          · exact .inr ⟨_, List.mem_cons_self, Nat.le_of_not_lt atLeast, atMost, rfl⟩
          · exact .inl rfl
        · rcases inductionHypothesis with same | ⟨entry, among, within⟩
          · exact .inl same
          · exact .inr ⟨entry, List.mem_cons_of_mem _ among, within⟩

/-- Only its own code stands for a character other than the null character. -/
theorem eq_toNat_of_ofNat {code : Nat} {c : Char} (made : Char.ofNat code = c)
    (nonnull : c ≠ '\x00') : code = c.toNat := by
  by_cases valid : code.isValidChar
  · rw [Char.ofNat, dif_pos valid] at made
    exact congrArg Char.toNat made
  · rw [Char.ofNat, dif_neg valid] at made
    exact absurd made.symm nonnull

/-- Nothing else folds to the space: the images of the table all come after it. -/
theorem eq_space_of_fold {c : Char} (folded : fold c = ' ') : c = ' ' := by
  have images : ∀ entry ∈ foldings, ' '.toNat < entry.2.2.2 := by decide +kernel
  rcases foldCode_cases c.toNat foldings with same | ⟨entry, among, -, -, folds⟩
  · rwa [fold, same, Char.ofNat_toNat] at folded
  · have above := images entry among
    have space := eq_toNat_of_ofNat folded (by decide)
    omega

/-! ### Names of states -/

/-- The two characters that are no letters of ASCII and differ from one in case only: the
long s and the sign of the kelvin. -/
def isStrayLetter (c : Char) : Bool := c = '\u017F' || c = '\u212A'

/-- Regardless of case, the characters of names are those of ASCII and the stray letters. -/
theorem isLowerWord_fold_iff (c : Char) :
    isLowerWord (fold c) = true ↔ isNameChar c = true ∨ isStrayLetter c = true := by
  constructor
  · intro word
    have small : (fold c).toNat < 128 := toNat_lt_of_isNameChar (isNameChar_of_isLowerWord word)
    rcases foldCode_cases c.toNat foldings with same | ⟨entry, among, atLeast, atMost, folds⟩
    · rw [fold, same, Char.ofNat_toNat] at word
      exact .inl (isNameChar_of_isLowerWord word)
    · have images : ∀ entry ∈ foldings, entry.2.2.2 < 128 →
          (entry.1 = 0x41 ∧ entry.2.1 = 0x5A) ∨ (entry.1 = 0x17F ∧ entry.2.1 = 0x17F) ∨
            (entry.1 = 0x212A ∧ entry.2.1 = 0x212A) := by decide +kernel
      have image : foldCode c.toNat foldings = (fold c).toNat := by
        refine eq_toNat_of_ofNat rfl ?_
        intro null
        rw [null] at word
        cases word
      rcases images entry among (by omega) with ⟨first, last⟩ | ⟨first, last⟩ | ⟨first, last⟩
      · left
        rw [first] at atLeast
        rw [last] at atMost
        have upper : isUpper c = true := by
          simp only [isUpper, Bool.and_eq_true, decide_eq_true_eq, Char.le_def,
            UInt32.le_iff_toNat_le]
          exact ⟨atLeast, atMost⟩
        simp [isNameChar, isLetter, upper]
      · right
        have same : c = Char.ofNat 0x17F := by
          rw [show 0x17F = c.toNat by omega, Char.ofNat_toNat]
        rw [same]
        rfl
      · right
        have same : c = Char.ofNat 0x212A := by
          rw [show 0x212A = c.toNat by omega, Char.ofNat_toNat]
        rw [same]
        rfl
  · have checked : ∀ code < 128,
        (!isNameChar (Char.ofNat code) || isLowerWord (fold (Char.ofNat code))) = true := by
      decide +kernel
    rintro (belongs | stray)
    · have either := forall_ascii (fun c => !isNameChar c || isLowerWord (fold c)) checked
        (toNat_lt_of_isNameChar belongs)
      simpa [belongs] using either
    · rw [isStrayLetter, Bool.or_eq_true, decide_eq_true_eq, decide_eq_true_eq] at stray
      rcases stray with rfl | rfl <;> decide +kernel

end Text

end LineTemplate
