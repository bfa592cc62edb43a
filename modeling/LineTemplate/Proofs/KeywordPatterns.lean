import LineTemplate.Proofs.Fragments
import LineTemplate.Proofs.Items
import LineTemplate.Proofs.Language

/-!
Contract: the regular expressions of the keywords, read wherever they stand.

Owns:
- `Pattern.isModest`, what the items of a keyword's pattern and of literal text are
  like;
- the items of every keyword's pattern.

Does not own: what a call makes of its keyword's pattern.
-/

namespace LineTemplate

open PatternReader

namespace Pattern

/-- Whether an item may stand anywhere: it is allowed, not nested too deeply,
captures nothing and leaves the flags as they are. -/
def isModest (item : Pattern) : Bool :=
  item.isAllowed true && item.unicodeAfter true && item.depth .outside ≤ 10 &&
    item.captures.isEmpty && item.flagsAfter .initial = .initial

theorem fits_of_isModest {item : Pattern} (modest : item.isModest = true) :
    item.Fits .outside 10 := by
  simp only [isModest, Bool.and_eq_true, decide_eq_true_eq] at modest
  exact ⟨modest.1.1.1.1, modest.1.1.1.2, modest.1.1.2⟩

theorem captures_of_isModest {item : Pattern} (modest : item.isModest = true) :
    item.captures = [] := by
  simp only [isModest, Bool.and_eq_true, List.isEmpty_iff] at modest
  exact modest.1.2

theorem flagsAfter_of_isModest {item : Pattern} (modest : item.isModest = true) :
    item.flagsAfter .initial = .initial := by
  simp only [isModest, Bool.and_eq_true, decide_eq_true_eq] at modest
  exact modest.2

end Pattern

namespace Keyword

/-- The pattern of a keyword is read as some items, which hold no assertion if the
keyword stands for text. -/
structure Consists (keyword : Keyword) (items : List Pattern) : Prop where
  reads : Reads keyword.pattern items
  modest : ∀ item ∈ items, item.isModest = true
  free : keyword.role = .placeholder → ∀ item ∈ items, item.isAssertionFree = true

end Keyword

/-! ### The pieces of the patterns -/

/-- A text with the items that it adds. -/
structure Fragment where
  text : Text
  items : List Pattern
  reads : Reads text items

/-- A text with the one item that it adds, which may be repeated. -/
structure SingleFragment where
  text : Text
  item : Pattern
  reads : ReadsItem text item

namespace Fragment

def append (first second : Fragment) : Fragment :=
  ⟨first.text ++ second.text, first.items ++ second.items, first.reads.append second.reads⟩

instance : Append Fragment := ⟨append⟩

def choice (branches : List Fragment) (filled : branches ≠ []) : SingleFragment where
  text := "(?:".toList ++ (['|'].intercalate (branches.map text) ++ [')'])
  item := .group (.plain []) (Pattern.ofBranches (branches.map fun branch => .ofItems branch.items))
  reads := by
    have each : ∀ branch ∈ branches.map fun branch => (branch.text, branch.items),
        Reads branch.1 branch.2 := by
      intro branch member
      obtain ⟨fragment, -, rfl⟩ := List.mem_map.1 member
      exact fragment.reads
    simpa [Function.comp_def] using ReadsItem.group (by simpa using filled) each

def grouped (fragment : Fragment) : SingleFragment := choice [fragment] (by simp)

end Fragment

namespace SingleFragment

def char (c : Char) : SingleFragment := ⟨_, _, .escapeChar c⟩

def digit : SingleFragment := ⟨['\\', 'd'], .atom (.shorthand .digit false), .escape fun _ => rfl⟩

def blank : SingleFragment := ⟨['\\', 's'], .atom (.shorthand .space false), .escape fun _ => rfl⟩

def solid : SingleFragment := ⟨['\\', 'S'], .atom (.shorthand .space true), .escape fun _ => rfl⟩

def dot : SingleFragment :=
  ⟨['.'], .atom .anyChar, .of_step (by decide) (fun _ _ _ => rfl) (by simp)⟩

def oneOf (members : List SetMember) (whole : SetMember.areWhole members = true := by decide) :
    SingleFragment :=
  ⟨_, _, .set whole⟩

def alone (fragment : SingleFragment) : Fragment := ⟨_, _, fragment.reads.reads⟩

def star (fragment : SingleFragment) : Fragment := ⟨_, _, fragment.reads.repeated .star⟩

def plus (fragment : SingleFragment) : Fragment := ⟨_, _, fragment.reads.repeated .plus⟩

def optional (fragment : SingleFragment) : Fragment := ⟨_, _, fragment.reads.repeated .optional⟩

def times (fragment : SingleFragment) (digit : Char)
    (known : digit ∈ "0123456789".toList := by decide) : Fragment :=
  ⟨_, _, fragment.reads.repeated (.times digit known)⟩

def upToThree (fragment : SingleFragment) : Fragment :=
  ⟨_, _, fragment.reads.repeated (.between '1' '3' (by decide) (by decide) (by decide))⟩

end SingleFragment

namespace Keyword

/-- A keyword that stands for text consists of the items of a fragment with its
pattern. -/
theorem exists_consists_ofPattern {name pattern : String} (fragment : Fragment)
    (written : pattern.toList = fragment.text)
    (modest : fragment.items.all (fun item => item.isModest && item.isAssertionFree) = true) :
    ∃ items, (ofPattern name pattern).Consists items := by
  rw [List.all_eq_true] at modest
  refine ⟨fragment.items, ?_, fun item member => ?_, fun _ item member => ?_⟩
  · rw [ofPattern, written]
    exact fragment.reads
  · exact (Bool.and_eq_true_iff.1 (modest item member)).1
  · exact (Bool.and_eq_true_iff.1 (modest item member)).2

def span (first last : Char) : SetMember := .range (.plain first) (.plain last)

def single (c : Char) : SetMember := .single (.plain c)

def letterSet : SingleFragment := .oneOf [span 'a' 'z', span 'A' 'Z']

def alphanumericSet : SingleFragment := .oneOf [span 'a' 'z', span 'A' 'Z', span '0' '9']

def hexSet : SingleFragment := .oneOf [span '0' '9', span 'a' 'f', span 'A' 'F']

def punctuationSet : SingleFragment :=
  .oneOf [span '!' '/', span ':' '@', .range (.behind '[') (.plain '\x60'), span '\x7b' '~']

def word : Fragment := letterSet.alone ++ alphanumericSet.star

def mixedWord : Fragment :=
  SingleFragment.solid.star ++ alphanumericSet.alone ++ SingleFragment.solid.star

open SingleFragment in
/-- Every keyword's pattern is put together of fragments. -/
theorem exists_consists {keyword : Keyword} (known : keyword ∈ all) :
    ∃ items, keyword.Consists items := by
  have each : ∀ keyword ∈ all, ∃ items, keyword.Consists items := by
    simp only [all, List.forall_mem_cons, List.not_mem_nil, false_imp_iff, implies_true, and_true]
    refine ⟨?letter, ?letters, ?digit, ?digits, ?number, ?mixedNumber, ?word, ?words, ?mixedWord,
      ?mixedWords, ?phrase, ?punct, ?puncts, ?data, ?something, ?everything, ?ipv4Address,
      ?macAddress, ?ws, ?start, ?stop⟩
    case letter => exact exists_consists_ofPattern letterSet.alone (by decide) (by decide)
    case letters => exact exists_consists_ofPattern letterSet.plus (by decide) (by decide)
    case digit => exact exists_consists_ofPattern digit.alone (by decide) (by decide)
    case digits => exact exists_consists_ofPattern digit.plus (by decide) (by decide)
    case number =>
        exact exists_consists_ofPattern
          ((oneOf [single '+', single '-']).optional ++ digit.star ++ (char '.').optional ++
            digit.plus) (by decide) (by decide)
    case mixedNumber =>
        exact exists_consists_ofPattern
          ((oneOf [single '+', single '(', .single (.behind '['), single '$',
                single '-']).optional ++
            digit.alone ++ (oneOf [.digits, single ',']).star ++
            ((char '.').alone ++ digit.plus).grouped.optional ++
            (oneOf [.single (.behind ']'), single ')', single '%', span 'a' 'z',
                span 'A' 'Z']).star)
          (by decide) (by decide)
    case word => exact exists_consists_ofPattern word (by decide) (by decide)
    case words =>
        exact exists_consists_ofPattern (word ++ ((char ' ').alone ++ word).grouped.star)
          (by decide) (by decide)
    case mixedWord => exact exists_consists_ofPattern mixedWord (by decide) (by decide)
    case mixedWords =>
        exact exists_consists_ofPattern
          (mixedWord ++ ((char ' ').plus ++ mixedWord).grouped.star) (by decide) (by decide)
    case phrase =>
        exact exists_consists_ofPattern (word ++ ((char ' ').alone ++ word).grouped.plus)
          (by decide) (by decide)
    case punct => exact exists_consists_ofPattern punctuationSet.alone (by decide) (by decide)
    case puncts => exact exists_consists_ofPattern punctuationSet.plus (by decide) (by decide)
    case data => exact exists_consists_ofPattern solid.star (by decide) (by decide)
    case something => exact exists_consists_ofPattern dot.plus (by decide) (by decide)
    case everything => exact exists_consists_ofPattern dot.star (by decide) (by decide)
    case ipv4Address =>
        exact exists_consists_ofPattern
          ((digit.upToThree ++ (char '.').alone).grouped.times '3' ++ digit.upToThree)
          (by decide) (by decide)
    case macAddress =>
        exact exists_consists_ofPattern
          (Fragment.choice
            [hexSet.times '2' ++
                ((oneOf [single ':', single '-']).alone ++ hexSet.times '2').grouped.times '5',
              hexSet.times '4' ++ ((char '.').alone ++ hexSet.times '4').grouped.times '2']
            (by simp)).alone
          (by decide) (by decide)
    case ws => exact exists_consists_ofPattern blank.plus (by decide) (by decide)
    case start =>
        exact ⟨_, ReadsItem.lineStart.reads, by decide, fun role => absurd role (by decide)⟩
    case stop =>
        exact ⟨_, ReadsItem.lineEnd.reads, by decide, fun role => absurd role (by decide)⟩
  exact each keyword known

end Keyword

end LineTemplate
