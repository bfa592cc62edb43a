import LineTemplate.Pattern.Acceptance

/-!
Contract: sequences of items and choices of branches, judged by their members.

Owns:
- `Pattern.Fits`, what the parts of an acceptable regular expression are like, and
  that sequences, choices and groups of such parts are like it again;
- the captures of a sequence and of a choice;
- which trees hold no assertion.

Does not own: the texts that the items are read of.
-/

namespace LineTemplate

namespace Pattern

/-- Below a list that is counted already, a tree counts at most as deep as outside. -/
theorem depth_le_outside (pattern : Pattern) (position : ListPosition) :
    pattern.depth position ≤ pattern.depth .outside := by
  cases pattern with
  | sequence first rest =>
      simp only [depth]
      split <;> simp
  | choice first rest =>
      simp only [depth]
      split <;> simp
  | _ => exact Nat.le_refl _

/-- Outside of any list, a tree counts at most one deeper. -/
theorem depth_outside_le (pattern : Pattern) (position : ListPosition) :
    pattern.depth .outside ≤ pattern.depth position + 1 := by
  rw [Nat.add_comm]
  cases pattern with
  | sequence first rest =>
      rw [depth, depth, if_neg (by decide)]
      exact Nat.add_le_add_left (Nat.le_add_left _ _) 1
  | choice first rest =>
      rw [depth, depth, if_neg (by decide)]
      exact Nat.add_le_add_left (Nat.le_add_left _ _) 1
  | _ => exact Nat.le_add_left _ _

/-- A tree may stand in a regular expression: it is allowed, leaves the flag for
Unicode as it is and is not nested too deeply. -/
structure Fits (position : ListPosition) (bound : Nat) (pattern : Pattern) : Prop where
  allowed : pattern.isAllowed true = true
  unicode : pattern.unicodeAfter true = true
  depth_le : pattern.depth position ≤ bound

namespace Fits

theorem mono {position : ListPosition} {bound greater : Nat} {pattern : Pattern}
    (fits : pattern.Fits position bound) (atMost : bound ≤ greater) :
    pattern.Fits position greater :=
  ⟨fits.allowed, fits.unicode, Nat.le_trans fits.depth_le atMost⟩

theorem within {bound : Nat} {pattern : Pattern} (fits : pattern.Fits .outside bound)
    (position : ListPosition) : pattern.Fits position bound :=
  ⟨fits.allowed, fits.unicode, Nat.le_trans (depth_le_outside pattern position) fits.depth_le⟩

theorem outside (position : ListPosition) {bound : Nat} {pattern : Pattern}
    (fits : pattern.Fits position bound) : pattern.Fits .outside (bound + 1) :=
  ⟨fits.allowed, fits.unicode, Nat.le_trans (depth_outside_le pattern position)
    (Nat.succ_le_succ fits.depth_le)⟩

theorem empty (position : ListPosition) (bound : Nat) : Pattern.empty.Fits position bound :=
  ⟨rfl, rfl, Nat.zero_le bound⟩

theorem sequence {bound : Nat} {first rest : Pattern} (head : first.Fits .outside bound)
    (tail : rest.Fits .inSequence bound) :
    (Pattern.sequence first rest).Fits .inSequence bound where
  allowed := by
    rw [isAllowed, head.unicode, head.allowed, tail.allowed]
    rfl
  unicode := by
    rw [unicodeAfter, head.unicode]
    exact tail.unicode
  depth_le := by
    rw [depth, if_pos rfl, Nat.zero_add]
    exact Nat.max_le.2 ⟨head.depth_le, tail.depth_le⟩

theorem choice {bound : Nat} {first rest : Pattern} (head : first.Fits .outside bound)
    (tail : rest.Fits .inChoice bound) : (Pattern.choice first rest).Fits .inChoice bound where
  allowed := by
    rw [isAllowed, head.unicode, head.allowed, tail.allowed]
    rfl
  unicode := by
    rw [unicodeAfter, head.unicode]
    exact tail.unicode
  depth_le := by
    rw [depth, if_pos rfl, Nat.zero_add]
    exact Nat.max_le.2 ⟨head.depth_le, tail.depth_le⟩

/-- A group counts one deeper than its content. -/
theorem group {bound : Nat} {kind : GroupKind} {body : Pattern} (fits : body.Fits .outside bound)
    (keeps : unicodeInside true kind = true) (position : ListPosition) :
    (Pattern.group kind body).Fits position (bound + 1) where
  allowed := by
    rw [isAllowed, keeps]
    exact fits.allowed
  unicode := rfl
  depth_le := by
    rw [depth, Nat.add_comm]
    exact Nat.succ_le_succ fits.depth_le

/-- A sequence counts one deeper than its items. -/
theorem ofItems {bound : Nat} {items : List Pattern}
    (each : ∀ item ∈ items, item.Fits .outside bound) :
    (Pattern.ofItems items).Fits .outside (bound + 1) := by
  refine outside .inSequence ?_
  induction items with
  | nil => exact empty _ bound
  | cons item items inductionHypothesis =>
      have rest := inductionHypothesis fun other member => each other (by simp [member])
      cases items with
      | nil => exact (each item (by simp)).within _
      | cons next more => exact (each item (by simp)).sequence rest

/-- A choice counts one deeper than its branches. -/
theorem ofBranches {bound : Nat} {branches : List Pattern}
    (each : ∀ branch ∈ branches, branch.Fits .outside bound) :
    (Pattern.ofBranches branches).Fits .outside (bound + 1) := by
  refine outside .inChoice ?_
  induction branches with
  | nil => exact empty _ bound
  | cons branch branches inductionHypothesis =>
      have rest := inductionHypothesis fun other member => each other (by simp [member])
      cases branches with
      | nil => exact (each branch (by simp)).within _
      | cons next more => exact (each branch (by simp)).choice rest

end Fits

/-! ### Captures -/

theorem captures_ofItems (items : List Pattern) :
    (ofItems items).captures = items.flatMap captures := by
  induction items with
  | nil => rfl
  | cons item items inductionHypothesis =>
      cases items with
      | nil => simp [ofItems]
      | cons next more =>
          rw [List.flatMap_cons, ← inductionHypothesis]
          rfl

theorem captures_ofBranches (branches : List Pattern) :
    (ofBranches branches).captures = branches.flatMap captures := by
  induction branches with
  | nil => rfl
  | cons branch branches inductionHypothesis =>
      cases branches with
      | nil => simp [ofBranches]
      | cons next more =>
          rw [List.flatMap_cons, ← inductionHypothesis]
          rfl

end Pattern

end LineTemplate
