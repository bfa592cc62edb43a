import LineTemplate.Proofs.Items

/-!
Contract: trees that differ only in anchors and flags at the ends of a branch.

Owns:
- `Pattern.Idle`, the items that capture nothing and count no level;
- `Pattern.Alike`, that two trees are both regular expressions or both none;
- that idle items at the beginning of a branch, and an idle one behind an atom at its
  end, leave trees alike.

Does not own: the texts that such trees are read of.
-/

namespace LineTemplate

namespace Pattern

theorem ofItems_cons (item : Pattern) {items : List Pattern} (nonempty : items ≠ []) :
    ofItems (item :: items) = .sequence item (ofItems items) := by
  cases items with
  | nil => exact absurd rfl nonempty
  | cons next more => rfl

theorem ofBranches_cons (branch : Pattern) {branches : List Pattern} (nonempty : branches ≠ []) :
    ofBranches (branch :: branches) = .choice branch (ofBranches branches) := by
  cases branches with
  | nil => exact absurd rfl nonempty
  | cons next more => rfl

/-! ### Idle items -/

/-- An item neither captures nor sets the flag for Unicode, is always allowed and counts
no level. -/
structure Idle (item : Pattern) : Prop where
  captures : item.captures = []
  allowed : ∀ unicode, item.isAllowed unicode = true
  unicode : ∀ unicode, item.unicodeAfter unicode = unicode
  depth : ∀ position, item.depth position = 0

theorem Idle.assertion (place : Assertion) : Idle (.atom (.assertion place)) :=
  ⟨rfl, fun _ => rfl, fun _ => rfl, fun _ => rfl⟩

theorem Idle.ignoreCase : Idle (.flags [(.ignoreCase, true)]) :=
  ⟨rfl, fun _ => rfl, fun _ => rfl, fun _ => rfl⟩

section Beginnings

variable {base : List Pattern} (idle : ∀ item ∈ base, Idle item) (begun : List Pattern)

include idle

theorem captures_idle_append : (ofItems (base ++ begun)).captures = (ofItems begun).captures := by
  have silent : base.flatMap captures = [] :=
    List.flatMap_eq_nil_iff.2 fun item member => (idle item member).captures
  rw [captures_ofItems, captures_ofItems, List.flatMap_append, silent, List.nil_append]

theorem isAllowed_idle_append (unicode : Bool) :
    (ofItems (base ++ begun)).isAllowed unicode = (ofItems begun).isAllowed unicode := by
  induction base with
  | nil => rfl
  | cons item base inductionHypothesis =>
      obtain ⟨first, rest⟩ := List.forall_mem_cons.1 idle
      rw [← inductionHypothesis rest, List.cons_append]
      by_cases alone : base ++ begun = []
      · rw [alone]
        exact first.allowed unicode
      · rw [ofItems_cons item alone, isAllowed, first.allowed, first.unicode, Bool.true_and]

theorem unicodeAfter_idle_append (unicode : Bool) :
    (ofItems (base ++ begun)).unicodeAfter unicode = (ofItems begun).unicodeAfter unicode := by
  induction base with
  | nil => rfl
  | cons item base inductionHypothesis =>
      obtain ⟨first, rest⟩ := List.forall_mem_cons.1 idle
      rw [← inductionHypothesis rest, List.cons_append]
      by_cases alone : base ++ begun = []
      · rw [alone]
        exact first.unicode unicode
      · rw [ofItems_cons item alone, unicodeAfter, first.unicode]

theorem depth_inSequence_idle_append :
    (ofItems (base ++ begun)).depth .inSequence = (ofItems begun).depth .inSequence := by
  induction base with
  | nil => rfl
  | cons item base inductionHypothesis =>
      obtain ⟨first, rest⟩ := List.forall_mem_cons.1 idle
      rw [← inductionHypothesis rest, List.cons_append]
      by_cases alone : base ++ begun = []
      · rw [alone]
        exact first.depth .inSequence
      · rw [ofItems_cons item alone, depth, first.depth, if_pos rfl, Nat.zero_add, Nat.zero_max]

/-- Behind idle items, other items count as they do in a longer list. -/
theorem max_depth_idle_append (nonempty : base ≠ []) (position : ListPosition) :
    max 1 ((ofItems (base ++ begun)).depth position) =
      max 1 ((if position = .inSequence then 0 else 1) + (ofItems begun).depth .inSequence) := by
  cases base with
  | nil => exact absurd rfl nonempty
  | cons item base =>
      obtain ⟨first, rest⟩ := List.forall_mem_cons.1 idle
      rw [← depth_inSequence_idle_append rest, List.cons_append]
      by_cases alone : base ++ begun = []
      · rw [alone]
        change max 1 (item.depth position) = max 1 (_ + 0)
        rw [first.depth]
        split <;> rfl
      · rw [ofItems_cons item alone, depth, first.depth, Nat.zero_max]

end Beginnings

section Endings

variable {final : Pattern} (idle : Idle final) (items : List Pattern)

include idle

theorem isAllowed_append_idle (unicode : Bool) :
    (ofItems (items ++ [final])).isAllowed unicode = (ofItems items).isAllowed unicode := by
  induction items generalizing unicode with
  | nil => exact idle.allowed unicode
  | cons item items inductionHypothesis =>
      rw [List.cons_append, ofItems_cons item (by simp), isAllowed, inductionHypothesis]
      by_cases alone : items = []
      · subst alone
        exact Bool.and_true _
      · rw [ofItems_cons item alone, isAllowed]

theorem unicodeAfter_append_idle (unicode : Bool) :
    (ofItems (items ++ [final])).unicodeAfter unicode = (ofItems items).unicodeAfter unicode := by
  induction items generalizing unicode with
  | nil => exact idle.unicode unicode
  | cons item items inductionHypothesis =>
      rw [List.cons_append, ofItems_cons item (by simp), unicodeAfter, inductionHypothesis]
      by_cases alone : items = []
      · subst alone
        rfl
      · rw [ofItems_cons item alone, unicodeAfter]

theorem depth_inSequence_append_idle (last : Atom) :
    (ofItems (items ++ [.atom last, final])).depth .inSequence =
      (ofItems (items ++ [.atom last])).depth .inSequence := by
  induction items with
  | nil =>
      rw [List.nil_append, ofItems_cons (.atom last) (by simp), depth, if_pos rfl, Nat.zero_add]
      exact (Nat.zero_max _).trans (idle.depth .inSequence)
  | cons item items inductionHypothesis =>
      rw [List.cons_append, List.cons_append, ofItems_cons item (by simp),
        ofItems_cons item (by simp), depth, depth, inductionHypothesis]

/-- Behind an atom, an idle item counts at most the level of the list that it makes. -/
theorem max_depth_append_idle (last : Atom) (position : ListPosition) :
    max 1 ((ofItems (items ++ [.atom last, final])).depth position) =
      max 1 ((ofItems (items ++ [.atom last])).depth position) := by
  have inside := depth_inSequence_append_idle idle
  cases items with
  | nil =>
      have alone := inside [] last
      rw [List.nil_append, ofItems_cons (.atom last) (by simp), depth, if_pos rfl,
        Nat.zero_add] at alone
      rw [List.nil_append, ofItems_cons (.atom last) (by simp), depth, alone]
      change max 1 (_ + 0) = max 1 0
      split <;> rfl
  | cons item items =>
      rw [List.cons_append, List.cons_append, ofItems_cons item (by simp),
        ofItems_cons item (by simp), depth, depth, inside items last]

end Endings

/-! ### Branches -/

/-- Two branches are judged alike, wherever they stand. -/
structure AlikeBranches (one other : Pattern) : Prop where
  captures : one.captures = other.captures
  allowed : ∀ unicode, one.isAllowed unicode = other.isAllowed unicode
  unicode : ∀ unicode, one.unicodeAfter unicode = other.unicodeAfter unicode
  depth : ∀ position, max 1 (one.depth position) = max 1 (other.depth position)

/-- Which idle items a branch begins with makes no difference, if there are any. -/
theorem AlikeBranches.idle_append {base other : List Pattern} (idle : ∀ item ∈ base, Idle item)
    (nonempty : base ≠ []) (otherIdle : ∀ item ∈ other, Idle item) (otherNonempty : other ≠ [])
    (begun : List Pattern) :
    AlikeBranches (ofItems (base ++ begun)) (ofItems (other ++ begun)) where
  captures := by rw [captures_idle_append idle, captures_idle_append otherIdle]
  allowed unicode := by rw [isAllowed_idle_append idle, isAllowed_idle_append otherIdle]
  unicode unicode := by rw [unicodeAfter_idle_append idle, unicodeAfter_idle_append otherIdle]
  depth position := by
    rw [max_depth_idle_append idle begun nonempty,
      max_depth_idle_append otherIdle begun otherNonempty]

/-- Behind an atom at the end of a branch, an idle item makes no difference. -/
theorem AlikeBranches.append_idle {final : Pattern} (idle : Idle final) (items : List Pattern)
    (last : Atom) :
    AlikeBranches (ofItems (items ++ [.atom last, final])) (ofItems (items ++ [.atom last])) where
  captures := by
    rw [captures_ofItems, captures_ofItems]
    simp [idle.captures]
  allowed unicode := by
    have final := isAllowed_append_idle idle (items ++ [atom last]) unicode
    rwa [List.append_assoc] at final
  unicode unicode := by
    have final := unicodeAfter_append_idle idle (items ++ [atom last]) unicode
    rwa [List.append_assoc] at final
  depth := max_depth_append_idle idle items last

/-! ### Whole trees -/

theorem isAllowed_ofBranches_congr {one other : Pattern}
    (allowed : ∀ unicode, one.isAllowed unicode = other.isAllowed unicode)
    (after : ∀ unicode, one.unicodeAfter unicode = other.unicodeAfter unicode)
    (front back : List Pattern) (unicode : Bool) :
    (ofBranches (front ++ one :: back)).isAllowed unicode =
      (ofBranches (front ++ other :: back)).isAllowed unicode := by
  induction front generalizing unicode with
  | nil =>
      by_cases alone : back = []
      · subst alone
        exact allowed unicode
      · rw [List.nil_append, List.nil_append, ofBranches_cons one alone,
          ofBranches_cons other alone, isAllowed, isAllowed, allowed, after]
  | cons branch front inductionHypothesis =>
      rw [List.cons_append, List.cons_append, ofBranches_cons branch (by simp),
        ofBranches_cons branch (by simp), isAllowed, isAllowed, inductionHypothesis]

/-- Two trees are judged alike: beyond two levels they count equally deep. -/
structure Alike (one other : Pattern) : Prop where
  captures : one.captures = other.captures
  allowed : ∀ unicode, one.isAllowed unicode = other.isAllowed unicode
  depth : max 2 (one.depth .outside) = max 2 (other.depth .outside)

namespace Alike

theorem refl (pattern : Pattern) : Alike pattern pattern := ⟨rfl, fun _ => rfl, rfl⟩

theorem symm {one other : Pattern} (alike : Alike one other) : Alike other one :=
  ⟨alike.captures.symm, fun unicode => (alike.allowed unicode).symm, alike.depth.symm⟩

theorem trans {one other third : Pattern} (first : Alike one other) (second : Alike other third) :
    Alike one third :=
  ⟨first.captures.trans second.captures,
    fun unicode => (first.allowed unicode).trans (second.allowed unicode),
    first.depth.trans second.depth⟩

theorem depth_le_iff {one other : Pattern} (alike : Alike one other) :
    one.depth .outside ≤ depthLimit ↔ other.depth .outside ≤ depthLimit := by
  have shallow : 2 ≤ depthLimit := by decide
  have depth := alike.depth
  omega

/-- Trees that are judged alike are both regular expressions or both none. -/
theorem isProper_eq {one other : Pattern} (alike : Alike one other) :
    one.isProper = other.isProper := by
  unfold isProper captureNames
  rw [alike.captures, alike.allowed, decide_eq_decide.2 alike.depth_le_iff]

end Alike

namespace AlikeBranches

variable {one other : Pattern} (alike : AlikeBranches one other)

include alike

theorem depth_inChoice (front back : List Pattern) :
    max 1 ((ofBranches (front ++ one :: back)).depth .inChoice) =
      max 1 ((ofBranches (front ++ other :: back)).depth .inChoice) := by
  induction front with
  | nil =>
      by_cases alone : back = []
      · subst alone
        exact alike.depth .inChoice
      · have first := alike.depth .outside
        rw [List.nil_append, List.nil_append, ofBranches_cons one alone,
          ofBranches_cons other alone, Pattern.depth, Pattern.depth, if_pos rfl]
        omega
  | cons branch front inductionHypothesis =>
      rw [List.cons_append, List.cons_append, ofBranches_cons branch (by simp),
        ofBranches_cons branch (by simp), Pattern.depth, Pattern.depth, if_pos rfl]
      omega

/-- Choices between alike branches are judged alike. -/
theorem ofBranches (front back : List Pattern) :
    Alike (ofBranches (front ++ one :: back)) (ofBranches (front ++ other :: back)) where
  captures := by
    rw [captures_ofBranches, captures_ofBranches]
    simp [alike.captures]
  allowed := isAllowed_ofBranches_congr alike.allowed alike.unicode front back
  depth := by
    have inside := alike.depth_inChoice
    have first := alike.depth .outside
    cases front with
    | nil =>
        by_cases alone : back = []
        · subst alone
          change max 2 (one.depth .outside) = max 2 (other.depth .outside)
          omega
        · rw [List.nil_append, List.nil_append, ofBranches_cons one alone,
            ofBranches_cons other alone, Pattern.depth, Pattern.depth, if_neg (by decide)]
          omega
    | cons branch front =>
        have rest := inside front back
        rw [List.cons_append, List.cons_append, ofBranches_cons branch (by simp),
          ofBranches_cons branch (by simp), Pattern.depth, Pattern.depth, if_neg (by decide)]
        omega

end AlikeBranches

end Pattern

end LineTemplate
