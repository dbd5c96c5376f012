import Mathlib.Data.List.Basic
import JavadocTags.Check.Run

/-!
# Walking and reading

Where a path leads to a file, the file is read. Whatever is collected was found under a path that
leads to a file, so it is read under that path.
-/
namespace JavadocTags.FileTree

/-- A tree as file systems have it: every location has an entry of its own and lies in a directory,
and no entry bears the name that leaves a directory. -/
structure IsFileSystem (tree : FileTree) : Prop where
  nodup_locations : (tree.entries.map Prod.fst).Nodup
  in_directory : ∀ entry ∈ tree.entries,
    entry.1 ≠ [] ∧ tree.get? entry.1.dropLast = some .directory
  no_leaving_name : ∀ entry ∈ tree.entries, ".." ∉ entry.1

/-! ## Walking -/

section Walking
variable {tree : FileTree} {follow : Location → List String → Except FileFault Location}
  {location place : Location} {name : String} {rest : List String}

@[simp] theorem walkWith_nil (tree : FileTree)
    (follow : Location → List String → Except FileFault Location) (location : Location) :
    tree.walkWith follow location [] = .ok location :=
  rfl

@[simp] theorem walkWith_up (h : tree.get? location = some .directory) :
    tree.walkWith follow location (".." :: rest) =
      tree.walkWith follow location.dropLast rest := by
  rw [walkWith, h]
  rfl

@[simp] theorem walkWith_link {target : Path} (h : tree.get? location = some .directory)
    (hname : name ≠ "..") (hlink : tree.get? (location ++ [name]) = some (.link target)) :
    tree.walkWith follow location (name :: rest) =
      follow (target.base location) (target.parts ++ rest) := by
  rw [walkWith, h]
  simp only [if_neg hname, hlink]

@[simp] theorem walkWith_down (h : tree.get? location = some .directory) (hname : name ≠ "..")
    (hlink : ∀ target, tree.get? (location ++ [name]) ≠ some (.link target)) :
    tree.walkWith follow location (name :: rest) =
      tree.walkWith follow (location ++ [name]) rest := by
  rw [walkWith, h]
  simp only [if_neg hname]

/-- There is a way on from a directory only. -/
theorem isDirectory_of_walkWith (h : tree.walkWith follow location (name :: rest) = .ok place) :
    tree.get? location = some .directory := by
  rw [walkWith] at h
  split at h
  next => cases h
  next hget => exact hget
  next => cases h

/-- What holds of the location at which a walk starts holds of the one that it leads to, if every
step from a directory keeps it: leaving the directory, going into it, and going on along a link. -/
theorem walk_induction {P : Location → Prop}
    (up : ∀ l, tree.get? l = some .directory → P l → P l.dropLast)
    (down : ∀ l n, tree.get? l = some .directory → n ≠ ".." → P l → P (l ++ [n]))
    (link : ∀ l (target : Path), tree.get? l = some .directory → P l → P (target.base l))
    (links : Nat) {names : List String} (hstart : P location)
    (h : tree.walk links location names = .ok place) : P place := by
  have hwith (follow : Location → List String → Except FileFault Location)
      (hfollow : ∀ l ns, P l → follow l ns = .ok place → P place) {l : Location} (ns : List String)
      (hl : P l) (hplace : tree.walkWith follow l ns = .ok place) : P place := by
    induction ns generalizing l with
    | nil =>
        cases hplace
        exact hl
    | cons n rest ih =>
        have hdirectory := isDirectory_of_walkWith hplace
        by_cases hn : n = ".."
        · subst hn
          rw [walkWith_up hdirectory] at hplace
          exact ih (up l hdirectory hl) hplace
        · by_cases hlink : ∃ target, tree.get? (l ++ [n]) = some (.link target)
          · obtain ⟨target, hlink⟩ := hlink
            rw [walkWith_link hdirectory hn hlink] at hplace
            exact hfollow _ _ (link l target hdirectory hl) hplace
          · rw [walkWith_down hdirectory hn (not_exists.1 hlink)] at hplace
            exact ih (down l n hdirectory hn hl) hplace
  induction links generalizing location names with
  | zero => exact hwith (fun _ _ => .error .tooManyLinks) (fun _ _ _ => nofun) names hstart h
  | succ links ih => exact hwith (tree.walk links) (fun _ _ => ih) names hstart h

end Walking

/-! ## Entries -/

section Entries
variable {tree : FileTree} {location : Location} {entry : Entry}

theorem mem_entries_of_get? (hne : location ≠ []) (h : tree.get? location = some entry) :
    (location, entry) ∈ tree.entries := by
  cases location with
  | nil => exact absurd rfl hne
  | cons name rest =>
      obtain ⟨before, after, hentries, _⟩ := List.lookup_eq_some_iff.1 h
      rw [hentries]
      exact List.mem_append_right _ List.mem_cons_self

theorem get?_of_mem_entries (htree : tree.IsFileSystem) (h : (location, entry) ∈ tree.entries) :
    tree.get? location = some entry := by
  have hkeys := htree.nodup_locations
  have hne := (htree.in_directory _ h).1
  obtain ⟨before, after, hentries⟩ := List.append_of_mem h
  have hlookup : tree.entries.lookup location = some entry := by
    refine List.lookup_eq_some_iff.2 ⟨before, after, hentries, fun other hother => ?_⟩
    rw [hentries, List.map_append, List.map_cons, List.nodup_append] at hkeys
    have hdistinct := hkeys.2.2 other.1 (List.mem_map_of_mem hother) location List.mem_cons_self
    exact bne_iff_ne.2 (Ne.symm hdistinct)
  cases location with
  | nil => exact absurd rfl hne
  | cons name rest => exact hlookup

end Entries

/-! ## Reading -/

variable {tree : FileTree} {cwd location : Location} {entry : Entry} {path : Path}
  {filter : FileFilter} {file : FoundFile} {content : List UInt8}

theorem find?_eq_some_iff :
    tree.find? cwd path = some (location, entry)
      ↔ tree.locate cwd path = .ok location ∧ tree.get? location = some entry := by
  unfold find?
  constructor
  · intro h
    split at h
    next reached hlocate =>
      obtain ⟨found, hget, heq⟩ := Option.map_eq_some_iff.1 h
      obtain ⟨rfl, rfl⟩ := Prod.mk.inj heq
      exact ⟨hlocate, hget⟩
    next => cases h
  · rintro ⟨hlocate, hget⟩
    simp only [hlocate, hget, Option.map_some]

theorem read_of_find? (h : tree.find? cwd path = some (location, .file content)) :
    tree.read cwd path = .ok content := by
  obtain ⟨hlocate, hget⟩ := find?_eq_some_iff.1 h
  simp only [read, hlocate, bind, Except.bind, hget]
  rfl

theorem exists_of_read (h : tree.read cwd path = .ok content) : tree.exists cwd path = true := by
  rw [FileTree.read] at h
  rw [FileTree.exists, FileTree.find?]
  cases hlocate : tree.locate cwd path with
  | error fault =>
      rw [hlocate] at h
      cases h
  | ok location =>
      rw [hlocate] at h
      cases hget : tree.get? location with
      | none =>
          simp only [bind, Except.bind, hget] at h
          cases h
      | some entry => simp only [hget, Option.map_some, Option.isSome_some]

theorem fileAt?_eq_some_iff : tree.fileAt? cwd path = some file ↔
    ∃ location content, tree.find? cwd path = some (location, .file content) ∧
      file = ⟨path, .absolute location⟩ := by
  unfold fileAt?
  split
  next location content hfind =>
    rw [hfind, Option.some.injEq]
    constructor
    · rintro rfl
      exact ⟨location, content, rfl, rfl⟩
    · rintro ⟨_, _, heq, rfl⟩
      cases heq
      rfl
  next hnone =>
    refine iff_of_false nofun ?_
    rintro ⟨location, content, hfind, _⟩
    exact hnone location content hfind

/-- Every file that a path stands for is found where its own path leads. -/
theorem fileAt?_of_mem_filesAt (h : file ∈ tree.filesAt cwd filter path) :
    tree.fileAt? cwd file.path = some file := by
  have hpath {other : Path} (hfile : tree.fileAt? cwd other = some file) : file.path = other := by
    obtain ⟨_, _, _, rfl⟩ := fileAt?_eq_some_iff.1 hfile
    rfl
  unfold filesAt at h
  split at h
  next =>
    obtain ⟨names, _, hfile⟩ := List.mem_filterMap.1 h
    rwa [hpath hfile]
  next =>
    have hfile := Option.mem_toList.1 h
    rwa [hpath hfile]

theorem firstAtPlace_sublist (seen : List Path) (files : List FoundFile) :
    (firstAtPlace seen files).Sublist files := by
  fun_induction firstAtPlace seen files with
  | case1 => exact List.Sublist.slnil
  | case2 seen file rest _ ih => exact ih.cons file
  | case3 seen file rest _ ih => exact ih.cons_cons file

theorem javaSource_of_mem_collect {paths : List Path} (h : file ∈ tree.collect cwd filter paths) :
    ∃ source, tree.javaSource cwd file.path = .ok source := by
  obtain ⟨path, _, hfile⟩ := List.mem_flatMap.1 ((firstAtPlace_sublist _ _).subset h)
  obtain ⟨location, content, hfind, _⟩ := fileAt?_eq_some_iff.1 (fileAt?_of_mem_filesAt hfile)
  rw [javaSource, read_of_find? hfind]
  exact ⟨_, rfl⟩

end JavadocTags.FileTree
