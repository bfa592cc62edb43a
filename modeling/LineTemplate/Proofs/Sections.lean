import LineTemplate.Proofs.StringForms
import LineTemplate.Toml.Reader

/-!
Contract: documents that are written as sections, read again.

Owns:
- `Scalar` and `Section`: what is written, its text, and what it adds to a document;
- `ReadsTo`, the reading of whole lines, one line after the other;
- `readDocument_sections`: sections are read as their entries.

Does not own: which sections there are.

Lines are told apart by the document that each of them leaves, not by their text: what one line
does is stated for any text behind it, so that the lines of a section, and then the sections,
are put together by `ReadsTo.append`.
-/

namespace LineTemplate.Toml

/-! ### Keys -/

/-- A key that needs no quotes. -/
def IsBareKey (key : Text) : Prop := key ≠ [] ∧ key.all isBareKeyChar = true

instance (key : Text) : Decidable (IsBareKey key) := by
  unfold IsBareKey
  infer_instance

/-- What a bare key begins with begins nothing else that may stand on a line. -/
theorem ne_of_isBareKeyChar {c other : Char} (bare : isBareKeyChar c = true)
    (unlike : isBareKeyChar other = false) : c ≠ other := by
  rintro rfl
  rw [unlike] at bare
  cases bare

theorem isSpace_of_isBareKeyChar {c : Char} (bare : isBareKeyChar c = true) :
    isSpace c = false := by
  have space : c ≠ ' ' := ne_of_isBareKeyChar bare (by decide)
  have tab : c ≠ '\t' := ne_of_isBareKeyChar bare (by decide)
  simp [isSpace, space, tab]

theorem skipSpaces_cons {first : Char} (solid : isSpace first = false) (rest : Text) :
    skipSpaces (first :: rest) = first :: rest := by
  simp [skipSpaces, solid]

theorem IsBareKey.exists_cons {key : Text} (bare : IsBareKey key) :
    ∃ first more, key = first :: more ∧ isBareKeyChar first = true := by
  obtain ⟨nonempty, each⟩ := bare
  obtain ⟨first, more, rfl⟩ := List.exists_cons_of_ne_nil nonempty
  exact ⟨first, more, rfl, List.all_eq_true.mp each first List.mem_cons_self⟩

theorem readSimpleKey_bare {key rest : Text} (bare : IsBareKey key)
    (ended : rest.takeWhile isBareKeyChar = []) :
    readSimpleKey (key ++ rest) = some (key, rest) := by
  obtain ⟨first, more, rfl, begins⟩ := bare.exists_cons
  have each := List.all_eq_true.mp bare.2
  have taken : ((first :: more) ++ rest).takeWhile isBareKeyChar = first :: more := by
    rw [List.takeWhile_append_of_pos each, ended, List.append_nil]
  have left : ((first :: more) ++ rest).dropWhile isBareKeyChar = rest := by
    rw [List.dropWhile_append_of_pos each]
    have whole := List.takeWhile_append_dropWhile (p := isBareKeyChar) (l := rest)
    rwa [ended, List.nil_append] at whole
  unfold readSimpleKey
  split
  · exact absurd (List.cons.inj ‹_›).1 (ne_of_isBareKeyChar begins (by decide))
  · exact absurd (List.cons.inj ‹_›).1 (ne_of_isBareKeyChar begins (by decide))
  · rw [taken, left]
    rfl

/-- A bare key without a dot behind it is read alone. -/
theorem readKey_bare {key rest : Text} (bare : IsBareKey key)
    (ended : rest.takeWhile isBareKeyChar = []) (single : (skipSpaces rest).head? ≠ some '.') :
    readKey (key ++ rest) = some ([], key, skipSpaces rest) := by
  have solid : skipSpaces (key ++ rest) = key ++ rest := by
    obtain ⟨first, more, rfl, begins⟩ := bare.exists_cons
    exact skipSpaces_cons (isSpace_of_isBareKeyChar begins) _
  have alone : readKeys (nestingLimit - 1) (key ++ rest) = some ([key], skipSpaces rest) := by
    show readKeys (78 + 1) _ = _
    rw [readKeys, solid, readSimpleKey_bare bare ended]
    dsimp only
    split
    · rename_i dotted
      rw [dotted] at single
      exact absurd rfl single
    · rfl
  rw [readKey, alone]
  rfl

/-! ### Values -/

/-- A value on a line of its own. -/
inductive Scalar where
  | string (text : Text)
  | boolean (value : Bool)
deriving DecidableEq, Repr

def Scalar.write : Scalar → Text
  | .string text => writeString text
  | .boolean value => writeBool value

def Scalar.value : Scalar → Value
  | .string text => .string text
  | .boolean value => .boolean value

/-- Every form of a string begins with one of its marks. -/
theorem exists_writeString_eq_cons (text : Text) :
    ∃ mark rest, writeString text = mark :: rest ∧ (mark = '"' ∨ mark = '\'') := by
  unfold writeString StringForm.write
  cases StringForm.choose text
  · exact ⟨_, _, rfl, .inl rfl⟩
  · exact ⟨_, _, rfl, .inr rfl⟩
  · exact ⟨_, _, rfl, .inl rfl⟩
  · exact ⟨_, _, rfl, .inr rfl⟩

/-- A scalar is read back up to the end of its line. -/
theorem readValue_write (scalar : Scalar) (depth : Nat) (rest : Text) :
    readValue (depth + 1) (scalar.write ++ '\n' :: rest) = some (scalar.value, '\n' :: rest) := by
  cases scalar with
  | boolean value => cases value <;> rfl
  | string text =>
      have read : readString (writeString text ++ '\n' :: rest) = some (text, '\n' :: rest) :=
        readString_writeString text (by simp) (by simp)
      obtain ⟨mark, more, written, isMark⟩ := exists_writeString_eq_cons text
      rw [Scalar.write]
      rw [written, List.cons_append] at read ⊢
      obtain rfl | rfl := isMark
      · exact congrArg (Option.map _) read
      · exact congrArg (Option.map _) read

theorem skipSpaces_write (scalar : Scalar) (rest : Text) :
    skipSpaces (scalar.write ++ rest) = scalar.write ++ rest := by
  cases scalar with
  | boolean value => cases value <;> rfl
  | string text =>
      obtain ⟨mark, more, written, isMark⟩ := exists_writeString_eq_cons text
      rw [Scalar.write, written]
      obtain rfl | rfl := isMark <;> exact skipSpaces_cons (by decide) _

/-! ### Lines -/

/-- Reading one line leaves a document, whatever follows the line. -/
structure ReadsLine (before : Document) (line : Text) (after : Document) : Prop where
  solid : ∃ first more, line = first :: more ∧ isSpace first = false
  reads : ∀ rest, readLine before (line ++ rest) = some (after, rest)

/-- Reading lines to the end of a text, each of which is read as a line. -/
inductive ReadsTo : Document → Text → Document → Prop
  | nothing (document : Document) : ReadsTo document [] document
  | line {before between after : Document} {line text : Text}
      (first : ReadsLine before line between) (more : ReadsTo between text after) :
      ReadsTo before (line ++ text) after

theorem ReadsTo.append {before between after : Document} {text more : Text}
    (first : ReadsTo before text between) (second : ReadsTo between more after) :
    ReadsTo before (text ++ more) after := by
  induction first with
  | nothing => exact second
  | line reads _ inductionHypothesis =>
      rw [List.append_assoc]
      exact .line reads (inductionHypothesis second)

theorem ReadsLine.readsTo {before after : Document} {line : Text}
    (reads : ReadsLine before line after) : ReadsTo before line after := by
  have read : ReadsTo before (line ++ []) after := .line reads (.nothing after)
  rwa [List.append_nil] at read

/-- As each line takes at least one character, the length of a text bounds their number. -/
theorem readLines_of_readsTo {before after : Document} {text : Text}
    (reads : ReadsTo before text after) {budget : Nat} (enough : text.length < budget) :
    readLines budget before text = some after := by
  induction reads generalizing budget with
  | nothing =>
      obtain ⟨left, rfl⟩ := Nat.exists_eq_add_one_of_ne_zero (Nat.ne_of_gt enough)
      rfl
  | @line before between after line text first more inductionHypothesis =>
      obtain ⟨left, rfl⟩ : ∃ left, budget = left + 1 :=
        Nat.exists_eq_add_one_of_ne_zero (Nat.ne_of_gt (Nat.zero_lt_of_lt enough))
      obtain ⟨start, others, begins, solid⟩ := first.solid
      have unended : (skipSpaces (line ++ text)).isEmpty = false := by
        rw [begins, List.cons_append, skipSpaces_cons solid]
        rfl
      have shorter : text.length < left := by
        have := congrArg List.length begins
        simp only [List.length_append, List.length_cons] at enough this
        omega
      rw [readLines, unended, first.reads]
      exact inductionHypothesis shorter

theorem readsLine_empty (document : Document) : ReadsLine document ['\n'] document where
  solid := ⟨'\n', [], rfl, by decide⟩
  reads _ := rfl

theorem readLineEnd_newline (rest : Text) : readLineEnd ('\n' :: rest) = some rest := rfl

/-- A line that begins with a bare key holds a pair. -/
theorem readLine_of_isBareKeyChar (document : Document) {first : Char} (rest : Text)
    (bare : isBareKeyChar first = true) :
    readLine document (first :: rest) = readPairLine document (first :: rest) := by
  have differs : ∀ {other : Char}, isBareKeyChar other = false → first ≠ other :=
    ne_of_isBareKeyChar bare
  have unended : dropNewline? (first :: rest) = none := by
    unfold dropNewline?
    split
    · exact absurd (List.cons.inj ‹_›).1 (differs (by decide))
    · exact absurd (List.cons.inj ‹_›).1 (differs (by decide))
    · rfl
  rw [readLine, skipSpaces_cons (isSpace_of_isBareKeyChar bare)]
  split
  · exact absurd (List.cons.inj ‹_›).1 (differs (by decide))
  · exact absurd (List.cons.inj ‹_›).1 (differs (by decide))
  · exact absurd (List.cons.inj ‹_›).1 (differs (by decide))
  · rw [unended]

/-- A pair under a bare key is read as its key and its value. -/
theorem readsLine_writePair {before after : Document} {key : String} {scalar : Scalar}
    (bare : IsBareKey key.toList)
    (added : before.addPair [] key.toList scalar.value = some after) :
    ReadsLine before (writePair key scalar.write) after where
  solid := by
    obtain ⟨first, more, same, begins⟩ := bare.exists_cons
    refine ⟨first, more ++ " = ".toList ++ scalar.write ++ ['\n'], ?_,
      isSpace_of_isBareKeyChar begins⟩
    simp [writePair, same]
  reads rest := by
    let written := scalar.write ++ '\n' :: rest
    have whole : writePair key scalar.write ++ rest =
        key.toList ++ ' ' :: '=' :: ' ' :: written := by
      simp [writePair, written]
    have keyed : readKey (key.toList ++ ' ' :: '=' :: ' ' :: written) =
        some ([], key.toList, '=' :: ' ' :: written) :=
      readKey_bare bare rfl (by simp [skipSpaces, isSpace])
    have blank : skipSpaces (' ' :: written) = written := skipSpaces_write scalar _
    have pair : readPair (readValue (nestingLimit - 1)) (writePair key scalar.write ++ rest) =
        some ([], key.toList, scalar.value, '\n' :: rest) := by
      rw [whole, readPair, keyed]
      dsimp only
      rw [skipSpaces_cons (by decide)]
      simp only [blank]
      exact congrArg (Option.map _) (readValue_write scalar 78 rest)
    -- What begins with a bare key is no comment, no header and no empty line.
    obtain ⟨first, more, same, begins⟩ := bare.exists_cons
    calc
      readLine before (writePair key scalar.write ++ rest) =
          readPairLine before (writePair key scalar.write ++ rest) := by
        rw [whole, same]
        exact readLine_of_isBareKeyChar before _ begins
      _ = some (after, rest) := by
        rw [readPairLine, pair]
        dsimp only
        rw [readLineEnd_newline, added]

/-- A header with a bare name opens a table. -/
theorem readsLine_writeHeader {before after : Document} {name : String}
    (bare : IsBareKey name.toList)
    (opened : before.openHeader false [] name.toList = some after) :
    ReadsLine before (writeHeader name) after where
  solid := ⟨'[', _, rfl, by decide⟩
  reads rest := by
    have whole : writeHeader name ++ rest = '[' :: (name.toList ++ ']' :: '\n' :: rest) := by
      simp [writeHeader]
    have keyed : readKey (name.toList ++ ']' :: '\n' :: rest) =
        some ([], name.toList, ']' :: '\n' :: rest) :=
      readKey_bare bare rfl (by simp [skipSpaces, isSpace])
    have closed : [']'].isPrefixOf? (']' :: '\n' :: rest) = some ('\n' :: rest) := rfl
    have header : readHeader false before (name.toList ++ ']' :: '\n' :: rest) =
        some (after, rest) := by
      rw [readHeader, keyed]
      simp only [Bool.false_eq_true, if_false, closed]
      rw [readLineEnd_newline, opened]
    obtain ⟨first, more, same, begins⟩ := bare.exists_cons
    rw [whole, readLine, skipSpaces_cons (by decide), ← header, same]
    split
    · exact absurd (List.cons.inj ‹_›).1 (by decide)
    · exact absurd (List.cons.inj (List.cons.inj ‹_›).2).1
        (ne_of_isBareKeyChar begins (by decide))
    · exact congrArg (readHeader false before) (List.cons.inj ‹_›).2.symm
    · rename_i single
      exact (single _ rfl).elim

/-! ### Entries -/

theorem lookup_concat {entries : Entries} {key : Text} (value : Value)
    (fresh : entries.lookup key = none) :
    List.lookup key (entries ++ [(key, value)]) = some value := by
  rw [List.lookup_append, fresh, Option.none_or, List.lookup_cons_self]

theorem replace_concat {entries : Entries} {key : Text} (old new : Value)
    (fresh : entries.lookup key = none) :
    Entries.replace key new (entries ++ [(key, old)]) = entries ++ [(key, new)] := by
  have kept : ∀ entry ∈ entries, (if entry.1 = key then (key, new) else entry) = entry := by
    intro entry member
    have other := List.lookup_eq_none_iff.mp fresh entry member
    exact if_neg fun same => by simp [same] at other
  rw [Entries.replace, List.map_append, List.map_congr_left kept, List.map_id']
  simp

/-- A header with a new name opens a table at the end of the document. -/
theorem openHeader_of_fresh {document : Document} {name : Text}
    (fresh : document.root.lookup name = none) :
    document.openHeader false [] name =
      some ⟨document.root ++ [(name, .table .header [])], [name]⟩ := by
  simp [Document.openHeader, Entries.changeAt, Entries.openTable, fresh]

/-- A pair with a new key goes to the end of the table that was opened last. -/
theorem addPair_of_fresh {root done : Entries} {name key : Text} (value : Value)
    (opened : root.lookup name = none) (fresh : done.lookup key = none) :
    Document.addPair [] key value ⟨root ++ [(name, .table .header done)], [name]⟩ =
      some ⟨root ++ [(name, .table .header (done ++ [(key, value)]))], [name]⟩ := by
  have added : Entries.addPair [] key value done = some (done ++ [(key, value)]) := by
    simp [Entries.addPair, Entries.changeAt, Entries.insertFresh, fresh]
  have replaced := replace_concat (.table .header done)
    (.table .header (done ++ [(key, value)])) opened
  simp [Document.addPair, Entries.changeAt, lookup_concat _ opened, added, replaced]

/-- Where no key stands twice, none is there before its entry. -/
theorem lookup_eq_none_of_nodup {before after : Entries} {entry : Text × Value}
    (distinct : ((before ++ entry :: after).map Prod.fst).Nodup) :
    before.lookup entry.1 = none := by
  rw [List.map_append, List.map_cons, List.nodup_append] at distinct
  refine List.lookup_eq_none_iff.mpr fun other member => ?_
  have differs := distinct.2.2 other.1 (List.mem_map_of_mem member) entry.1 List.mem_cons_self
  simpa using Ne.symm differs

/-! ### Sections -/

/-- A table as it is written: its header, and its pairs on the lines below. -/
structure Section where
  name : String
  pairs : List (String × Scalar)
deriving DecidableEq, Repr

namespace Section

def write (each : Section) : Text :=
  writeHeader each.name ++ each.pairs.flatMap fun pair => writePair pair.1 pair.2.write

def pairEntry (pair : String × Scalar) : Text × Value := (pair.1.toList, pair.2.value)

/-- What a section adds to a document. -/
def entry (each : Section) : Text × Value :=
  (each.name.toList, .table .header (each.pairs.map pairEntry))

/-- The name and the keys need no quotes, and no key is there twice. -/
structure IsProper (each : Section) : Prop where
  named : IsBareKey each.name.toList
  keyed : ∀ pair ∈ each.pairs, IsBareKey pair.1.toList
  distinct : ((each.pairs.map pairEntry).map Prod.fst).Nodup

end Section

open Section

theorem readsTo_pairs {root done : Entries} {name : Text} (opened : root.lookup name = none)
    {pairs : List (String × Scalar)} (keyed : ∀ pair ∈ pairs, IsBareKey pair.1.toList)
    (distinct : ((done ++ pairs.map pairEntry).map Prod.fst).Nodup) :
    ReadsTo ⟨root ++ [(name, .table .header done)], [name]⟩
      (pairs.flatMap fun pair => writePair pair.1 pair.2.write)
      ⟨root ++ [(name, .table .header (done ++ pairs.map pairEntry))], [name]⟩ := by
  induction pairs generalizing done with
  | nil =>
      rw [List.map_nil, List.append_nil]
      exact .nothing _
  | cons pair pairs inductionHypothesis =>
      rw [List.map_cons] at distinct ⊢
      have fresh : done.lookup pair.1.toList = none := lookup_eq_none_of_nodup distinct
      have first := readsLine_writePair (keyed pair List.mem_cons_self)
        (addPair_of_fresh pair.2.value opened fresh)
      rw [List.append_cons done] at distinct ⊢
      exact .line first
        (inductionHypothesis (fun other member => keyed other (List.mem_cons_of_mem _ member))
          distinct)

theorem readsTo_section {each : Section} (proper : each.IsProper) {document : Document}
    (fresh : document.root.lookup each.name.toList = none) :
    ReadsTo document each.write ⟨document.root ++ [each.entry], [each.name.toList]⟩ :=
  .line (readsLine_writeHeader proper.named (openHeader_of_fresh fresh))
    (readsTo_pairs fresh proper.keyed proper.distinct)

/-- Sections with an empty line between them are read one after the other. -/
theorem exists_readsTo_sections {sections : List Section}
    (proper : ∀ each ∈ sections, each.IsProper) (document : Document)
    (distinct : ((document.root ++ sections.map entry).map Prod.fst).Nodup) :
    ∃ left, ReadsTo document (['\n'].intercalate (sections.map write))
      ⟨document.root ++ sections.map entry, left⟩ := by
  induction sections generalizing document with
  | nil =>
      simp only [List.map_nil, List.append_nil]
      exact ⟨document.header, .nothing document⟩
  | cons each others inductionHypothesis =>
      have first := readsTo_section (proper each List.mem_cons_self)
        (lookup_eq_none_of_nodup distinct)
      -- Only between two sections is there an empty line.
      cases others with
      | nil =>
          refine ⟨[each.name.toList], ?_⟩
          rw [List.map_singleton, List.intercalate_singleton]
          exact first
      | cons next others =>
          rw [List.map_cons, List.append_cons] at distinct
          obtain ⟨left, more⟩ := inductionHypothesis
            (fun other member => proper other (List.mem_cons_of_mem _ member))
            ⟨document.root ++ [each.entry], [each.name.toList]⟩ distinct
          refine ⟨left, ?_⟩
          show ReadsTo document (['\n'].intercalate (each.write :: next.write :: others.map write))
            ⟨document.root ++ each.entry :: (next :: others).map entry, left⟩
          rw [List.append_cons, List.intercalate_cons_cons]
          exact (first.append (readsLine_empty _).readsTo).append more

theorem dropByteOrderMark_sections (sections : List Section) :
    dropByteOrderMark (['\n'].intercalate (sections.map write)) =
      ['\n'].intercalate (sections.map write) := by
  cases sections with
  | nil => rfl
  | cons each others =>
    cases others with
    | nil => rfl
    | cons other others => rfl

/-- Sections are read as their entries. -/
theorem readDocument_sections {sections : List Section}
    (proper : ∀ each ∈ sections, each.IsProper)
    (distinct : ((sections.map entry).map Prod.fst).Nodup) :
    readDocument (['\n'].intercalate (sections.map write)) = some (sections.map entry) := by
  obtain ⟨left, reads⟩ := exists_readsTo_sections proper .empty distinct
  unfold readDocument
  dsimp only
  rw [dropByteOrderMark_sections, readLines_of_readsTo reads (Nat.lt_succ_self _)]
  rfl

end LineTemplate.Toml
