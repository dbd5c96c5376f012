import JavadocTags.CommandLine.Program
import JavadocTags.Proofs.CommandLine.ForceWord
import JavadocTags.Proofs.Files.Writing

/-!
# The only file that is written

An invocation leaves the file tree as it is, or it asks for a configuration file and writes that of
its working directory: where nothing stood, or over a file if a word for force stands on its command
line. Where a link stands in the place of the configuration file, what is written is the file that
the link leads to. From this follows what a whole sequence of invocations touches, in whatever
directories, with whatever words and variables they are made: configuration files of directories in
which one was asked for, and nothing else. What stands in the tree is never removed, every path
leads where it led, and the tree stays a file system.
-/
namespace JavadocTags.CommandLine

/-- An invocation of the program, apart from the file tree that it meets. -/
structure Invocation where
  words : List String
  cwd : Location
  environment : List (String × String)
  toml : Toml.Format

namespace Invocation

def on (i : Invocation) (tree : FileTree) : Surroundings :=
  ⟨tree, i.cwd, i.environment, i.toml⟩

def runOn [Unicode.CharacterNames] (i : Invocation) (tree : FileTree) : Answer × FileTree :=
  run (i.on tree) i.words

/-- Whether an invocation asks for a configuration file, over one that is there if `force` says
so. -/
def IsInit (i : Invocation) (force : Bool) : Prop :=
  ∃ options, readRequest i.words = .run options (.init force)

/-- Whether an invocation asks for a configuration file with force, by one of the words for that. -/
def IsForced (i : Invocation) : Prop :=
  i.IsInit true ∧ ∃ word ∈ i.words, word ∈ forceWords

end Invocation

/-- The place of the configuration file of a directory: its own one, or the one that a link which
stands there leads to. -/
inductive ConfigPlace (tree : FileTree) (directory : Location) : Location → Prop where
  | own (hlink : ∀ target, tree.get? (configIn directory) ≠ some (.link target)) :
      ConfigPlace tree directory (configIn directory)
  | linked {target : Path} {location : Location}
      (hlink : tree.get? (configIn directory) = some (.link target))
      (hleads : tree.locate directory (.named Config.fileName) = .ok location) :
      ConfigPlace tree directory location

section
variable [Unicode.CharacterNames]

def treeAfter (tree : FileTree) (invocations : List Invocation) : FileTree :=
  invocations.foldl (fun tree i => (i.runOn tree).2) tree

/-- What an invocation leaves as it is. -/
structure LeavesOthers (tree : FileTree) (i : Invocation) : Prop where
  elsewhere : ∀ location, (i.runOn tree).2.get? location ≠ tree.get? location →
    ConfigPlace tree i.cwd location ∧ ∃ force, i.IsInit force
  replaced : ∀ location entry, tree.get? location = some entry →
    (i.runOn tree).2.get? location ≠ some entry → i.IsForced
  kept : ∀ location, tree.get? location ≠ none → (i.runOn tree).2.get? location ≠ none
  unchanged : (∀ force, ¬ i.IsInit force) ∨ (i.runOn tree).1.status ≠ .ok Answer.success →
    (i.runOn tree).2 = tree
  sameWays : FileTree.SameWays tree (i.runOn tree).2

/-- What invocations one after the other leave as it is, each of them and all together. -/
structure LeaveOthers (tree : FileTree) (invocations : List Invocation) : Prop where
  each : ∀ before i later, invocations = before ++ i :: later →
    LeavesOthers (treeAfter tree before) i
  elsewhere : ∀ location, (treeAfter tree invocations).get? location ≠ tree.get? location →
    ∃ i ∈ invocations, ConfigPlace tree i.cwd location ∧ ∃ force, i.IsInit force
  replaced : ∀ location entry, tree.get? location = some entry →
    (treeAfter tree invocations).get? location ≠ some entry →
    ∃ i ∈ invocations, ConfigPlace tree i.cwd location ∧ i.IsForced
  kept : ∀ location, tree.get? location ≠ none →
    (treeAfter tree invocations).get? location ≠ none
  sameWays : FileTree.SameWays tree (treeAfter tree invocations)
  fileSystem : tree.IsFileSystem → (∀ i ∈ invocations, tree.get? i.cwd = some .directory) →
    (treeAfter tree invocations).IsFileSystem

end

/-! ## The place that is written -/

section
variable {tree later : FileTree} {directory location : Location}

theorem configPlace_of_locate (h : tree.locate directory (.named Config.fileName) = .ok location) :
    ConfigPlace tree directory location := by
  by_cases hlink : ∃ target, tree.get? (configIn directory) = some (.link target)
  · obtain ⟨target, hlink⟩ := hlink
    exact .linked hlink h
  · have hlink := not_exists.1 hlink
    have hwalk : tree.walkWith (tree.walk 39) directory [Config.fileName] = .ok location := h
    rw [FileTree.walkWith_down (FileTree.isDirectory_of_walkWith hwalk) (by decide) hlink,
      FileTree.walkWith_nil] at hwalk
    cases hwalk
    exact .own hlink

/-- Where the same directories and links stand, a configuration file has the same place. -/
theorem ConfigPlace.of_sameWays (h : ConfigPlace later directory location)
    (hways : FileTree.SameWays tree later) : ConfigPlace tree directory location := by
  cases h with
  | own hlink => exact .own fun target => mt (hways.link _ target).1 (hlink target)
  | linked hlink hleads =>
    exact .linked ((hways.link _ _).2 hlink) (hways.locate_eq_ok_iff.2 hleads)

end

/-! ## One invocation -/

/-- An answer with a tree in which the configuration file of the working directory is written at a
place, where a file stood only if it was to be replaced. -/
structure HasWritten (s : Surroundings) (force : Bool) (place : Location)
    (answered : Answer × FileTree) : Prop where
  forced : s.tree.get? place ≠ none → force = true
  succeeded : answered.1.status = .ok Answer.success
  written : FileTree.WrittenAt s.tree s.cwd (.named Config.fileName) s.toml.starter.toUTF8.toList
    place answered.2

theorem answerInit_cases (options : GeneralOptions) (force : Bool) (s : Surroundings) :
    (answerInit options force s).2 = s.tree ∨
      ∃ place, HasWritten s force place (answerInit options force s) := by
  simp only [answerInit]
  split
  next => exact .inl rfl
  next hfree =>
    cases hwrite : s.tree.write s.cwd (.named Config.fileName) s.toml.starter.toUTF8.toList with
    | error fault => exact .inl rfl
    | ok written =>
        obtain ⟨place, hwritten⟩ := FileTree.exists_writtenAt hwrite
        refine .inr ⟨place, fun hentry => ?_, rfl, hwritten⟩
        obtain ⟨entry, hentry⟩ := Option.ne_none_iff_exists'.1 hentry
        have hexists : s.tree.exists s.cwd (.named Config.fileName) = true := by
          rw [FileTree.exists, FileTree.find?_eq_some_iff.2 ⟨hwritten.leads, hentry⟩]
          rfl
        simpa [hexists] using hfree

section
variable [Unicode.CharacterNames] {tree : FileTree} {i : Invocation} {location : Location}
  {entry : Entry} {invocations : List Invocation}

/-- All that an invocation can do to the file tree. -/
theorem runOn_cases (tree : FileTree) (i : Invocation) :
    (i.runOn tree).2 = tree ∨ ∃ force place, i.IsInit force ∧
      HasWritten (i.on tree) force place (i.runOn tree) := by
  unfold Invocation.IsInit Invocation.runOn run
  cases readRequest i.words with
  | «show» text => exact .inl rfl
  | misused manual misuse => exact .inl rfl
  | run options command =>
      cases command with
      | check check => exact .inl rfl
      | config view => exact .inl rfl
      | init force =>
          refine (answerInit_cases options force (i.on tree)).imp_right fun ⟨place, h⟩ => ?_
          exact ⟨force, place, ⟨options, rfl⟩, h⟩

omit [Unicode.CharacterNames] in
theorem isForced_of_isInit (h : i.IsInit true) : i.IsForced := by
  obtain ⟨options, hrequest⟩ := h
  exact ⟨⟨options, hrequest⟩, exists_forceWord hrequest⟩

theorem leavesOthers_of_eq (h : (i.runOn tree).2 = tree) : LeavesOthers tree i where
  elsewhere location hne := absurd (by rw [h]) hne
  replaced location entry hentry hne := absurd (by rw [h, hentry]) hne
  kept location hsome := by rwa [h]
  unchanged _ := h
  sameWays := by
    rw [h]
    exact FileTree.SameWays.refl tree

theorem leavesOthers_of_written {force : Bool} {place : Location} (hinit : i.IsInit force)
    (h : HasWritten (i.on tree) force place (i.runOn tree)) : LeavesOthers tree i := by
  have hget : ∀ location, (i.runOn tree).2.get? location =
      if location = place then _ else tree.get? location := h.written.get?_eq
  have hplace {location : Location}
      (hne : (i.runOn tree).2.get? location ≠ tree.get? location) : location = place := by
    by_contra hother
    rw [hget, if_neg hother] at hne
    exact hne rfl
  refine ⟨fun location hne => ?_, fun location entry hentry hne => ?_, fun location hsome => ?_,
    fun hidle => ?_, h.written.sameWays⟩
  · rw [hplace hne]
    exact ⟨configPlace_of_locate h.written.leads, force, hinit⟩
  · rw [← hentry] at hne
    obtain rfl := hplace hne
    obtain rfl := h.forced (by rw [Invocation.on, hentry]; exact Option.some_ne_none entry)
    exact isForced_of_isInit hinit
  · rw [hget]
    split
    · exact Option.some_ne_none _
    · exact hsome
  · rcases hidle with hother | hstatus
    · exact absurd hinit (hother force)
    · exact absurd h.succeeded hstatus

theorem leavesOthers (tree : FileTree) (i : Invocation) : LeavesOthers tree i := by
  rcases runOn_cases tree i with hsame | ⟨force, place, hinit, hwritten⟩
  · exact leavesOthers_of_eq hsame
  · exact leavesOthers_of_written hinit hwritten

theorem isFileSystem_runOn (htree : tree.IsFileSystem) (hcwd : tree.get? i.cwd = some .directory) :
    (i.runOn tree).2.IsFileSystem := by
  rcases runOn_cases tree i with hsame | ⟨force, place, _, hwritten⟩
  · rwa [hsame]
  · exact hwritten.written.isFileSystem htree hcwd

/-! ## Invocations one after the other -/

@[simp] theorem treeAfter_nil (tree : FileTree) : treeAfter tree [] = tree := rfl

@[simp] theorem treeAfter_cons (tree : FileTree) (i : Invocation)
    (invocations : List Invocation) :
    treeAfter tree (i :: invocations) = treeAfter (i.runOn tree).2 invocations := rfl

theorem sameWays_treeAfter (tree : FileTree) (invocations : List Invocation) :
    FileTree.SameWays tree (treeAfter tree invocations) := by
  induction invocations generalizing tree with
  | nil => exact FileTree.SameWays.refl tree
  | cons i rest ih => exact (leavesOthers tree i).sameWays.trans (ih _)

/-- What has changed in the end was changed by an invocation that still met it as it was. -/
theorem exists_changing
    (h : (treeAfter tree invocations).get? location ≠ tree.get? location) :
    ∃ i ∈ invocations, ∃ met : FileTree, FileTree.SameWays tree met ∧
      met.get? location = tree.get? location ∧
      (i.runOn met).2.get? location ≠ met.get? location := by
  induction invocations generalizing tree with
  | nil => exact absurd rfl h
  | cons i rest ih =>
      rw [treeAfter_cons] at h
      by_cases hsame : (i.runOn tree).2.get? location = tree.get? location
      · rw [← hsame] at h ⊢
        obtain ⟨later, hmem, met, hways, hlater⟩ := ih h
        refine ⟨later, List.mem_cons_of_mem i hmem, met, ?_, hlater⟩
        exact (leavesOthers tree i).sameWays.trans hways
      · exact ⟨i, List.mem_cons_self, tree, FileTree.SameWays.refl tree, rfl, hsame⟩

theorem exists_init_of_changed
    (h : (treeAfter tree invocations).get? location ≠ tree.get? location) :
    ∃ i ∈ invocations, ConfigPlace tree i.cwd location ∧ ∃ force, i.IsInit force := by
  obtain ⟨i, hmem, met, hways, -, hchanged⟩ := exists_changing h
  obtain ⟨hplace, hinit⟩ := (leavesOthers met i).elsewhere location hchanged
  exact ⟨i, hmem, hplace.of_sameWays hways, hinit⟩

theorem exists_forced_of_replaced (hentry : tree.get? location = some entry)
    (h : (treeAfter tree invocations).get? location ≠ some entry) :
    ∃ i ∈ invocations, ConfigPlace tree i.cwd location ∧ i.IsForced := by
  rw [← hentry] at h
  obtain ⟨i, hmem, met, hways, hmet, hchanged⟩ := exists_changing h
  have hleaves := leavesOthers met i
  rw [hentry] at hmet
  have hreplaced := hleaves.replaced location entry hmet (by rwa [← hmet])
  exact ⟨i, hmem, (hleaves.elsewhere location hchanged).1.of_sameWays hways, hreplaced⟩

theorem get?_treeAfter_ne_none (h : tree.get? location ≠ none) :
    (treeAfter tree invocations).get? location ≠ none := by
  induction invocations generalizing tree with
  | nil => exact h
  | cons i rest ih => exact ih ((leavesOthers tree i).kept location h)

theorem isFileSystem_treeAfter (htree : tree.IsFileSystem)
    (hcwd : ∀ i ∈ invocations, tree.get? i.cwd = some .directory) :
    (treeAfter tree invocations).IsFileSystem := by
  induction invocations generalizing tree with
  | nil => exact htree
  | cons i rest ih =>
      rw [List.forall_mem_cons] at hcwd
      refine ih (isFileSystem_runOn htree hcwd.1) fun later hlater => ?_
      exact ((leavesOthers tree i).sameWays.directory _).1 (hcwd.2 later hlater)

/-- Whatever invocations are made of the program, with any words, in any directories and with any
variables: what is created or changed are configuration files of directories in which one was asked
for, or files that links in their places lead to. One that is there is changed only on demand, and
nothing is removed. A request for a configuration file that is not answered by success, and every
other invocation, leaves the whole tree as it is. -/
theorem only_init_writes (tree : FileTree) (invocations : List Invocation) :
    LeaveOthers tree invocations where
  each before i _ _ := leavesOthers (treeAfter tree before) i
  elsewhere _ := exists_init_of_changed
  replaced _ _ := exists_forced_of_replaced
  kept _ := get?_treeAfter_ne_none
  sameWays := sameWays_treeAfter tree invocations
  fileSystem := isFileSystem_treeAfter

end

/-! ## A linked configuration file, and a shortened word for force -/

open scoped Unicode.CharacterNames

def linkedTree : FileTree :=
  ⟨[([".tagcheck.toml"], .link (.named "notes.txt")), (["notes.txt"], .file [])]⟩

def emptyTree : FileTree :=
  ⟨[([".tagcheck.toml"], .file [])]⟩

theorem isFileSystem_linkedTree : linkedTree.IsFileSystem := by
  refine ⟨by decide, ?_, by decide⟩
  simp only [linkedTree, List.forall_mem_cons]
  exact ⟨⟨by decide, rfl⟩, ⟨by decide, rfl⟩, by simp⟩

theorem starter_ne_nil : Toml.standard.starter.toUTF8.toList ≠ [] := by
  decide +kernel

/-- A file that is not the configuration file is changed along a link, and a configuration file that
is there is changed by a shortened word. -/
theorem linked_file_written :
    (linkedTree.IsFileSystem ∧ ["notes.txt"] ≠ configIn [] ∧
      (run ⟨linkedTree, [], [], Toml.standard⟩ ["init", "--force"]).2.get? ["notes.txt"] ≠
        linkedTree.get? ["notes.txt"]) ∧
    ("--force" ∉ ["init", "--forc"] ∧
      (run ⟨emptyTree, [], [], Toml.standard⟩ ["init", "--forc"]).2.get? (configIn []) ≠
        emptyTree.get? (configIn [])) := by
  have hlinked : (run ⟨linkedTree, [], [], Toml.standard⟩ ["init", "--force"]).2.get?
      ["notes.txt"] = some (.file Toml.standard.starter.toUTF8.toList) := by
    rw [run, readRequest_of_mem_forceWords (by decide)]
    rfl
  have hempty : (run ⟨emptyTree, [], [], Toml.standard⟩ ["init", "--forc"]).2.get?
      (configIn []) = some (.file Toml.standard.starter.toUTF8.toList) := by
    rw [run, readRequest_of_mem_forceWords (by decide)]
    rfl
  have hchanged : some (Entry.file Toml.standard.starter.toUTF8.toList) ≠ some (.file []) := by
    simpa using starter_ne_nil
  refine ⟨⟨isFileSystem_linkedTree, by decide, ?_⟩, by decide, ?_⟩
  · rw [hlinked]
    exact hchanged
  · rw [hempty]
    exact hchanged

end JavadocTags.CommandLine
