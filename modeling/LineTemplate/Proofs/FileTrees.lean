import LineTemplate.Files.Tree
import LineTemplate.Proofs.Expansion

/-!
Contract: what writing to a tree changes in it.

Owns:
- the contents of the files of a tree, and trees that differ in one file at most;
- that making directories keeps every file, and that writing changes the one file that
  its path leads to;
- `FileTree.store`, which makes the directories of a path and writes to it, and the paths
  that lead to a file only once that is done.

Does not own: what a program writes.
-/

namespace LineTemplate

namespace FileTree

/-! ### The files of a tree -/

/-- The contents of the file at a place. -/
def contents? (tree : FileTree) (location : Location) : Option Contents :=
  match tree.at? location with
  | some (.file contents) => some contents
  | _ => none

/-- Two trees hold the same files with the same contents. -/
def SameFiles (before after : FileTree) : Prop :=
  ∀ location, after.contents? location = before.contents? location

/-- The file at one place has the given contents; all other files are the same. -/
structure ChangesOnly (before after : FileTree) (place : Location) (contents : Contents) :
    Prop where
  holds : after.contents? place = some contents
  others : ∀ location, location ≠ place → after.contents? location = before.contents? location

theorem SameFiles.refl (tree : FileTree) : SameFiles tree tree := fun _ => rfl

theorem SameFiles.trans {first second third : FileTree} (before : SameFiles first second)
    (after : SameFiles second third) : SameFiles first third :=
  fun location => (after location).trans (before location)

theorem contents?_eq_some_iff {tree : FileTree} {location : Location} {contents : Contents} :
    tree.contents? location = some contents ↔ tree.at? location = some (.file contents) := by
  unfold contents?
  split <;> simp_all

/-! ### Putting something at a place -/

theorem at?_put_of_ne (tree : FileTree) {place location : Location} (entry : Entry)
    (other : location ≠ place) : (tree.put place entry).at? location = tree.at? location := by
  have kept : ∀ entries : List (Location × Entry),
      (entries.filter fun known => known.1 ≠ place).lookup location = entries.lookup location := by
    intro entries
    induction entries with
    | nil => rfl
    | cons known entries inductionHypothesis =>
        by_cases here : known.1 = place
        · have passed : (location == known.1) = false := by simpa [here] using other
          rw [List.filter_cons_of_neg (by simpa using here), List.lookup_cons, passed,
            inductionHypothesis]
        · rw [List.filter_cons_of_pos (by simpa using here), List.lookup_cons, List.lookup_cons,
            inductionHypothesis]
  have passed : (location == place) = false := by simpa using other
  rw [at?, at?, put, List.lookup_cons, passed, kept]

theorem at?_put_self (tree : FileTree) {place : Location} (entry : Entry) (inside : place ≠ []) :
    (tree.put place entry).at? place = some entry := by
  rw [at?, if_neg inside, put, List.lookup_cons, beq_self_eq_true]

/-- Putting something below the root leaves there what was there, or what was put. -/
theorem isSome_at?_put {tree : FileTree} {place location : Location} (entry : Entry)
    (inside : place ≠ []) (there : (tree.at? location).isSome = true) :
    ((tree.put place entry).at? location).isSome = true := by
  by_cases same : location = place
  · subst same
    rw [at?_put_self tree entry inside]
    rfl
  · rwa [at?_put_of_ne tree entry same]

/-! ### Making directories -/

/-- A directory is made where nothing stands. -/
theorem at?_of_makePlace {tree : FileTree} {here place : Location} {path : Text}
    (found : tree.makePlace here path = .ok place) : tree.at? place = none := by
  obtain ⟨⟨directory, name⟩, -, made⟩ := bind_eq_ok_iff.1 found
  dsimp only at made
  split at made
  · cases made
  split at made
  · cases made
  split at made
  · cases made
  · rename_i absent
    cases made
    simpa using absent

theorem sameFiles_put_directory {tree : FileTree} {place : Location}
    (absent : tree.at? place = none) : SameFiles tree (tree.put place .directory) := by
  intro location
  have inside : place ≠ [] := by
    rintro rfl
    simp [at?] at absent
  by_cases same : location = place
  · subst same
    rw [contents?, contents?, at?_put_self tree _ inside, absent]
  · rw [contents?, contents?, at?_put_of_ne tree _ same]

theorem sameFiles_ensureDirectory (tree : FileTree) (here : Location) (path : Text) :
    SameFiles tree (tree.ensureDirectory here path).1 := by
  unfold ensureDirectory makeDirectory
  cases found : tree.makePlace here path with
  | error cause =>
      dsimp only
      split <;> exact SameFiles.refl tree
  | ok place => exact sameFiles_put_directory (at?_of_makePlace found)

theorem sameFiles_ensureFrom (tree : FileTree) (here : Location) (path : Text)
    (above : List Text) : SameFiles tree (tree.ensureFrom here path above).1 := by
  induction above generalizing tree path with
  | nil =>
      unfold ensureFrom
      split
      · exact SameFiles.refl tree
      · exact sameFiles_ensureDirectory tree here path
  | cons nearest above inductionHypothesis =>
      have first := sameFiles_ensureDirectory tree here path
      unfold ensureFrom
      split
      · exact SameFiles.refl tree
      split
      · rename_i same missing
        have below := inductionHypothesis same nearest
        rw [missing] at first
        split
        · rename_i made reached
          rw [reached] at below
          exact (first.trans below).trans (sameFiles_ensureDirectory made here path)
        · exact first.trans below
      · exact first

/-- Making directories keeps every file, also where it fails. -/
theorem sameFiles_ensureDirectories (tree : FileTree) (here : Location) (path : Text) :
    SameFiles tree (tree.ensureDirectories here path).1 :=
  sameFiles_ensureFrom tree here path (Path.directories path)

/-! ### Writing -/

theorem isDirectoryAt_put_file {tree : FileTree} {place location : Location}
    (contents : Contents) (free : tree.isDirectoryAt place = false)
    (directory : tree.isDirectoryAt location = true) :
    (tree.put place (.file contents)).isDirectoryAt location = true := by
  have other : location ≠ place := by
    rintro rfl
    rw [free] at directory
    cases directory
  rwa [isDirectoryAt, at?_put_of_ne tree _ other]

theorem ne_nil_of_not_isDirectoryAt {tree : FileTree} {place : Location}
    (free : tree.isDirectoryAt place = false) : place ≠ [] := by
  rintro rfl
  simp [isDirectoryAt, at?, Entry.kind] at free

/-- What a step needs, and where it leads. -/
theorem step_eq_ok_iff {tree : FileTree} {location next : Location} {segment : Text} :
    tree.step location segment = .ok next ↔
      tree.isDirectoryAt location = true ∧
        (Path.isIdle segment = true ∧ next = location ∨
          Path.isIdle segment = false ∧ segment = ['.', '.'] ∧ next = location.tail ∨
          namesDirectory segment = false ∧ Text.byteSize segment ≤ longestName ∧
            (tree.at? (segment :: location)).isSome = true ∧ next = segment :: location) := by
  unfold step namesDirectory
  grind

/-- A file where no directory is does not stand in the way of a step. -/
theorem step_put_file {tree : FileTree} {place location next : Location} {segment : Text}
    (contents : Contents) (free : tree.isDirectoryAt place = false)
    (stepped : tree.step location segment = .ok next) :
    (tree.put place (.file contents)).step location segment = .ok next := by
  have inside := ne_nil_of_not_isDirectoryAt free
  rw [step_eq_ok_iff] at stepped ⊢
  obtain ⟨directory, idle | up | ⟨named, short, there, same⟩⟩ := stepped
  · exact ⟨isDirectoryAt_put_file contents free directory, .inl idle⟩
  · exact ⟨isDirectoryAt_put_file contents free directory, .inr (.inl up)⟩
  · exact ⟨isDirectoryAt_put_file contents free directory,
      .inr (.inr ⟨named, short, isSome_at?_put _ inside there, same⟩)⟩

theorem walk_cons_eq_ok_iff {tree : FileTree} {location reached : Location} {segment : Text}
    {segments : List Text} :
    tree.walk location (segment :: segments) = .ok reached ↔
      ∃ next, tree.step location segment = .ok next ∧ tree.walk next segments = .ok reached := by
  rw [walk]
  cases tree.step location segment <;> simp

theorem walk_concat_eq_ok_iff {tree : FileTree} {location reached : Location}
    {segments : List Text} {last : Text} :
    tree.walk location (segments ++ [last]) = .ok reached ↔
      ∃ directory, tree.walk location segments = .ok directory ∧
        tree.step directory last = .ok reached := by
  induction segments generalizing location with
  | nil =>
      rw [List.nil_append, walk_cons_eq_ok_iff]
      simp only [walk, Except.ok.injEq, exists_eq_right, exists_eq_left']
  | cons segment segments inductionHypothesis =>
      simp only [List.cons_append, walk_cons_eq_ok_iff, inductionHypothesis]
      constructor
      · rintro ⟨next, stepped, directory, walked, ended⟩
        exact ⟨directory, ⟨next, stepped, walked⟩, ended⟩
      · rintro ⟨directory, ⟨next, stepped, walked⟩, ended⟩
        exact ⟨next, stepped, directory, walked, ended⟩

theorem walk_put_file {tree : FileTree} {place location reached : Location}
    {segments : List Text} (contents : Contents) (free : tree.isDirectoryAt place = false)
    (walked : tree.walk location segments = .ok reached) :
    (tree.put place (.file contents)).walk location segments = .ok reached := by
  induction segments generalizing location with
  | nil => exact walked
  | cons segment segments inductionHypothesis =>
      obtain ⟨next, stepped, rest⟩ := walk_cons_eq_ok_iff.1 walked
      exact walk_cons_eq_ok_iff.2 ⟨next, step_put_file contents free stepped,
        inductionHypothesis rest⟩

end FileTree

/-! ### The place that a path writes -/

/-- Only behind a slash is the last segment of a path empty. -/
theorem Path.exists_segments_concat {path : Text} (nonempty : path ≠ [])
    (open_ : path.getLast? ≠ some '/') :
    ∃ front last, segments path = front ++ [last] ∧ last ≠ [] := by
  unfold segments
  induction path with
  | nil => exact absurd rfl nonempty
  | cons first rest inductionHypothesis =>
      rw [List.splitOn_cons_eq_if_modifyHead]
      by_cases alone : rest = []
      · subst alone
        have solid : (first == '/') = false := by simpa using open_
        exact ⟨[], [first], by simp [solid], by simp⟩
      · have still : rest.getLast? ≠ some '/' := by
          rwa [List.getLast?_cons_of_ne_nil alone] at open_
        obtain ⟨front, last, same, filled⟩ := inductionHypothesis alone still
        rw [same]
        by_cases slash : (first == '/') = true
        · exact ⟨[] :: front, last, by simp [slash], filled⟩
        · cases front with
          | nil => exact ⟨[], first :: last, by simp [slash], by simp⟩
          | cons head front => exact ⟨(first :: head) :: front, last, by simp [slash], filled⟩

namespace FileTree

/-- A path leads to a place that can hold a file: it leads to a directory, and behind
that it names the file. -/
structure NamesFile (tree : FileTree) (here : Location) (path : Text) (front : List Text)
    (name : Text) (directory : Location) : Prop where
  proper : checkPath path = .ok ()
  segments : Path.segments path = front ++ [name]
  walked : tree.walk (origin here path) front = .ok directory
  isDirectory : tree.isDirectoryAt directory = true
  named : namesDirectory name = false
  short : Text.byteSize name ≤ longestName
  free : tree.isDirectoryAt (name :: directory) = false

theorem exists_namesFile_of_writePlace {tree : FileTree} {here place : Location} {path : Text}
    (found : tree.writePlace here path = .ok place) :
    ∃ front name directory, place = name :: directory ∧
      tree.NamesFile here path front name directory := by
  obtain ⟨⟨directory, name⟩, targeted, placed⟩ := bind_eq_ok_iff.1 found
  obtain ⟨_, proper, reached⟩ := bind_eq_ok_iff.1 targeted
  obtain ⟨other, walked, same⟩ := bind_eq_ok_iff.1 reached
  dsimp only at placed same walked
  split at same
  · cases same
  rename_i isDirectory
  split at placed
  · cases placed
  rename_i closed
  split at placed
  · cases placed
  rename_i short
  split at placed
  · cases placed
  rename_i free
  cases same
  cases placed
  have nonempty : path ≠ [] := by
    rintro rfl
    cases proper
  have open_ : path.getLast? ≠ some '/' := fun slash => closed (by simp [slash])
  obtain ⟨front, last, segments, filled⟩ := Path.exists_segments_concat nonempty open_
  have kept : ((Path.segments path).reverse.dropWhile List.isEmpty).reverse = front ++ [last] := by
    rw [segments, List.reverse_concat, List.dropWhile_cons_of_neg (by simpa using filled)]
    simp
  rw [kept] at closed short free ⊢
  rw [kept, List.dropLast_concat] at walked
  simp only [List.getLast?_concat, Option.getD_some, Bool.or_eq_true, not_or] at closed short free ⊢
  exact ⟨front, last, directory, rfl, proper, segments, walked, by simpa using isDirectory,
    by simpa using closed.2, by omega, by simpa using free⟩

namespace NamesFile

variable {tree : FileTree} {here : Location} {path : Text} {front : List Text} {name : Text}
  {directory : Location} (names : tree.NamesFile here path front name directory)

include names

theorem step_eq_ok_iff {next : Location} :
    tree.step directory name = .ok next ↔
      (tree.at? (name :: directory)).isSome = true ∧ next = name :: directory := by
  have notIdle : Path.isIdle name = false ∧ name ≠ ['.', '.'] := by
    simpa [namesDirectory] using names.named
  rw [FileTree.step_eq_ok_iff]
  simp [names.isDirectory, names.named, names.short, notIdle]

theorem locate_eq_ok_iff {place : Location} :
    tree.locate here path = .ok place ↔
      (tree.at? (name :: directory)).isSome = true ∧ place = name :: directory := by
  have walked : tree.locate here path = tree.walk (origin here path) (front ++ [name]) := by
    rw [locate, names.proper, names.segments]
    rfl
  rw [walked, walk_concat_eq_ok_iff, names.walked]
  simp only [Except.ok.injEq, exists_eq_left', names.step_eq_ok_iff]

/-- Such a path leads to what stands at its place. -/
theorem find?_eq : tree.find? here path = tree.at? (name :: directory) := by
  cases there : tree.at? (name :: directory) with
  | some entry =>
      have located := names.locate_eq_ok_iff.2 ⟨by simp [there], rfl⟩
      rw [find?, located]
      exact there
  | none =>
      unfold find?
      split
      · rename_i place located
        have there' := (names.locate_eq_ok_iff.1 located).1
        simp [there] at there'
      · rfl

/-- A file at the place of such a path is in the way of no path to it. -/
theorem put (contents : Contents) :
    (tree.put (name :: directory) (.file contents)).NamesFile here path front name directory where
  proper := names.proper
  segments := names.segments
  walked := walk_put_file contents names.free names.walked
  isDirectory := isDirectoryAt_put_file contents names.free names.isDirectory
  named := names.named
  short := names.short
  free := by simp [isDirectoryAt, at?_put_self, Entry.kind]

/-- The file that is put at the place of such a path is found there. -/
theorem locate_put (contents : Contents) :
    (tree.put (name :: directory) (.file contents)).locate here path = .ok (name :: directory) :=
  (names.put contents).locate_eq_ok_iff.2
    ⟨by simp [at?_put_self], rfl⟩

end NamesFile

/-! ### Storing -/

/-- The tree with the directory that a path lies in, which is made if it is missing. -/
def withParent (tree : FileTree) (here : Location) (path : Text) :
    FileTree × Except FileError Unit :=
  match Path.parent? path with
  | none => (tree, .ok ())
  | some parent => tree.ensureDirectories here parent

/-- The place of the file that storing at a path writes. -/
def storePlace (tree : FileTree) (here : Location) (path : Text) : Except FileError Location :=
  match tree.withParent here path with
  | (_, .error cause) => .error cause
  | (made, .ok ()) => made.writePlace here path

/-- Writes to a path, in a directory that is made if it is missing. -/
def store (tree : FileTree) (here : Location) (path : Text) (contents : Contents) :
    FileTree × Except FileError Unit :=
  match tree.withParent here path with
  | (made, .error cause) => (made, .error cause)
  | (made, .ok ()) => made.write here path contents

theorem sameFiles_withParent (tree : FileTree) (here : Location) (path : Text) :
    SameFiles tree (tree.withParent here path).1 := by
  unfold withParent
  split
  · exact SameFiles.refl tree
  · exact sameFiles_ensureDirectories tree here _

theorem changesOnly_put (tree : FileTree) {place : Location} (contents : Contents)
    (inside : place ≠ []) : ChangesOnly tree (tree.put place (.file contents)) place contents where
  holds := contents?_eq_some_iff.2 (at?_put_self tree _ inside)
  others location other := by rw [contents?, contents?, at?_put_of_ne tree _ other]

theorem SameFiles.changesOnly {before made after : FileTree} {place : Location}
    {contents : Contents} (same : SameFiles before made)
    (changes : ChangesOnly made after place contents) :
    ChangesOnly before after place contents where
  holds := changes.holds
  others location other := (changes.others location other).trans (same location)

/-- Storing that fails keeps every file. -/
theorem sameFiles_store_of_error {tree : FileTree} {here : Location} {path : Text}
    {cause : FileError} (contents : Contents) (failed : tree.storePlace here path = .error cause) :
    (tree.store here path contents).2 = .error cause ∧
      SameFiles tree (tree.store here path contents).1 := by
  have same := sameFiles_withParent tree here path
  unfold storePlace at failed
  unfold store
  split at failed
  · rename_i made other reached
    cases failed
    rw [reached] at same
    exact ⟨rfl, same⟩
  · rename_i made reached
    rw [reached] at same
    rw [write, failed]
    exact ⟨rfl, same⟩

/-- Storing that succeeds writes one file, and the path leads to it. -/
structure Stored (before after : FileTree) (here : Location) (path : Text) (place : Location)
    (contents : Contents) : Prop where
  changes : ChangesOnly before after place contents
  located : after.locate here path = .ok place

theorem stored_of_storePlace {tree : FileTree} {here place : Location} {path : Text}
    (contents : Contents) (found : tree.storePlace here path = .ok place) :
    (tree.store here path contents).2 = .ok () ∧
      Stored tree (tree.store here path contents).1 here path place contents := by
  have same := sameFiles_withParent tree here path
  unfold storePlace at found
  unfold store
  split at found
  · cases found
  · rename_i made reached
    rw [reached] at same
    rw [write, found]
    obtain ⟨front, name, directory, rfl, names⟩ := exists_namesFile_of_writePlace found
    exact ⟨rfl, same.changesOnly (changesOnly_put made contents (by simp)),
      names.locate_put contents⟩

theorem Stored.find? {before after : FileTree} {here place : Location} {path : Text}
    {contents : Contents} (stored : Stored before after here path place contents) :
    after.find? here path = some (.file contents) := by
  rw [FileTree.find?, stored.located]
  exact contents?_eq_some_iff.1 stored.changes.holds

/-- A file that is found is read. -/
theorem read_of_find? {tree : FileTree} {here : Location} {path : Text} {contents : Contents}
    (found : tree.find? here path = some (.file contents)) :
    tree.read here path = .ok contents := by
  unfold FileTree.find? at found
  unfold FileTree.read
  cases located : tree.locate here path with
  | error cause => simp [located] at found
  | ok place =>
      rw [located] at found
      simp only [found]

/-- Storing replaces the contents of a file that its path does not lead to: only the
directories that are made for it open the way. -/
def ReplacesUnseen (tree : FileTree) (here : Location) (path : Text) (contents : Contents) :
    Prop :=
  tree.find? here path = none ∧
    ∃ place old, tree.storePlace here path = .ok place ∧ tree.contents? place = some old ∧
      old ≠ contents

/-! ### Paths that replace unseen files -/

/-- Everything in a tree lies in a directory. -/
def IsRooted (tree : FileTree) : Prop :=
  ∀ name directory, (tree.at? (name :: directory)).isSome = true →
    tree.isDirectoryAt directory = true

theorem IsRooted.isDirectoryAt_of_suffix {tree : FileTree} (rooted : tree.IsRooted)
    {location above : Location} (directory : tree.isDirectoryAt location = true)
    (suffix : above <:+ location) : tree.isDirectoryAt above = true := by
  induction location with
  | nil =>
      rw [List.suffix_nil.1 suffix]
      exact directory
  | cons name location inductionHypothesis =>
      rcases List.suffix_cons_iff.1 suffix with rfl | below
      · exact directory
      · refine inductionHypothesis (rooted name location ?_) below
        rw [isDirectoryAt] at directory
        cases there : tree.at? (name :: location) <;> simp_all

/-- A step that does not lead up leads further down, or nowhere. -/
theorem suffix_of_step {tree : FileTree} {location next : Location} {segment : Text}
    (stepped : tree.step location segment = .ok next) (down : segment ≠ ['.', '.']) :
    location <:+ next := by
  obtain ⟨-, ⟨-, rfl⟩ | ⟨-, up, -⟩ | ⟨-, -, -, rfl⟩⟩ := step_eq_ok_iff.1 stepped
  · exact List.suffix_refl _
  · exact absurd up down
  · exact List.suffix_cons _ _

theorem suffix_of_walk {tree : FileTree} {location reached : Location} {segments : List Text}
    (walked : tree.walk location segments = .ok reached) (down : ['.', '.'] ∉ segments) :
    location <:+ reached := by
  induction segments generalizing location with
  | nil =>
      cases walked
      exact List.suffix_refl _
  | cons segment segments inductionHypothesis =>
      obtain ⟨next, stepped, rest⟩ := walk_cons_eq_ok_iff.1 walked
      simp only [List.mem_cons, not_or] at down
      exact (suffix_of_step stepped (Ne.symm down.1)).trans (inductionHypothesis rest down.2)

/-- A walk down to a directory needs no directory that is not above it. -/
theorem walk_of_walk {tree made : FileTree} (rooted : tree.IsRooted)
    {location reached : Location} {segments : List Text}
    (walked : made.walk location segments = .ok reached) (down : ['.', '.'] ∉ segments)
    (directory : tree.isDirectoryAt reached = true) :
    tree.walk location segments = .ok reached := by
  induction segments generalizing location with
  | nil => exact walked
  | cons segment segments inductionHypothesis =>
      have above := rooted.isDirectoryAt_of_suffix directory (suffix_of_walk walked down)
      obtain ⟨next, stepped, rest⟩ := walk_cons_eq_ok_iff.1 walked
      simp only [List.mem_cons, not_or] at down
      refine walk_cons_eq_ok_iff.2 ⟨next, ?_, inductionHypothesis rest down.2⟩
      obtain ⟨-, idle | ⟨-, up, -⟩ | ⟨named, short, -, rfl⟩⟩ := step_eq_ok_iff.1 stepped
      · exact step_eq_ok_iff.2 ⟨above, .inl idle⟩
      · exact absurd up.symm down.1
      · have there := rooted.isDirectoryAt_of_suffix directory (suffix_of_walk rest down.2)
        refine step_eq_ok_iff.2 ⟨above, .inr (.inr ⟨named, short, ?_, rfl⟩)⟩
        rw [isDirectoryAt] at there
        cases found : tree.at? (segment :: location) <;> simp_all

/-- Only a path that leads up somewhere replaces a file that it does not lead to. -/
theorem ReplacesUnseen.leads_up {tree : FileTree} (rooted : tree.IsRooted) {here : Location}
    {path : Text} {contents : Contents} (replaces : tree.ReplacesUnseen here path contents) :
    ['.', '.'] ∈ Path.segments path := by
  obtain ⟨absent, place, old, found, before, -⟩ := replaces
  by_contra down
  unfold storePlace at found
  split at found
  · cases found
  rename_i made reached
  obtain ⟨front, name, directory, rfl, names⟩ := exists_namesFile_of_writePlace found
  rw [contents?_eq_some_iff] at before
  have isDirectory := rooted name directory (by simp [before])
  have downwards : ['.', '.'] ∉ front := fun up => down (by simp [names.segments, up])
  have here : tree.NamesFile here path front name directory := {
    proper := names.proper
    segments := names.segments
    walked := walk_of_walk rooted names.walked downwards isDirectory
    isDirectory := isDirectory
    named := names.named
    short := names.short
    free := by simp [isDirectoryAt, before, Entry.kind] }
  rw [here.find?_eq, before] at absent
  cases absent

end FileTree
end LineTemplate
