import Mathlib
import JavadocTags.Proofs.Files.Reading

/-!
# What is collected

A path reaches the file it names, and below a directory the files that the filter lets through. What
is collected are the files that some path reaches, each of them once: under the path by which the
first of the paths reaches it, in the order of these first paths, and sorted where they are the same
one. Two paths may reach one file by different names, so what a glob excludes under one path is
still taken under another.
-/
namespace JavadocTags

/-- The order of names is the lexicographic order of lists. -/
theorem Path.partsLe_iff_le (first second : List String) :
    Path.partsLe first second = true ↔ first ≤ second := by
  rw [← not_lt]
  fun_induction Path.partsLe first second with
  | case1 => simp
  | case2 => simp
  | case3 a as bs ih =>
      rw [ih, List.cons_lt_cons_iff]
      simp
  | case4 a as b bs hne =>
      rw [List.cons_lt_cons_iff, decide_eq_true_iff]
      simp only [not_or, not_lt, Ne.symm hne, false_and, not_false_eq_true, and_true]
      exact ⟨le_of_lt, fun hle => lt_of_le_of_ne hle hne⟩

namespace FileTree

/-- A file system without links. -/
structure IsPlain (tree : FileTree) : Prop extends tree.IsFileSystem where
  no_link : ∀ location target, tree.get? location ≠ some (.link target)

/-- How a path reaches the file at a location, and under which path the file is found then. -/
inductive Reaches (tree : FileTree) (cwd : Location) (filter : FileFilter) (path : Path) :
    Location → Path → Prop where
  | named {location : Location} {content : List UInt8}
      (hfile : tree.find? cwd path = some (location, .file content)) :
      Reaches tree cwd filter path location path
  | below {directory names : Location} {content : List UInt8}
      (hdirectory : tree.find? cwd path = some (directory, .directory))
      (hfile : tree.get? (directory ++ names) = some (.file content))
      (hincluded : ∃ glob ∈ filter.includes, Glob.matchesName glob (names.getLastD ""))
      (hkept : ∀ glob ∈ filter.excludes,
        ¬ Glob.matchesName glob (String.intercalate "/" names)) :
      Reaches tree cwd filter path (directory ++ names) (path.below names)

/-- What the path at a turn reaches, and none of the paths before it. -/
structure FirstReached (tree : FileTree) (cwd : Location) (filter : FileFilter) (paths : List Path)
    (turn : Nat) (location : Location) (spelling : Path) : Prop where
  reached : ∃ path, paths[turn]? = some path ∧ tree.Reaches cwd filter path location spelling
  fresh : ∀ earlier ∈ paths.take turn, ∀ other, ¬ tree.Reaches cwd filter earlier location other

/-- Whether a path stands before another among those found: its file was reached at an earlier turn,
or at the same one and comes first in the order of names. -/
def ComesBefore (tree : FileTree) (cwd : Location) (filter : FileFilter) (paths : List Path)
    (first second : Path) : Prop :=
  ∃ turn later location place,
    tree.locate cwd first = .ok location ∧ tree.locate cwd second = .ok place
      ∧ tree.FirstReached cwd filter paths turn location first
      ∧ tree.FirstReached cwd filter paths later place second
      ∧ (turn < later ∨ turn = later ∧ first.parts ≤ second.parts)

/-- The paths of exactly the files that some of the given paths reach, each once and in order. -/
structure Collected (tree : FileTree) (cwd : Location) (filter : FileFilter)
    (paths found : List Path) : Prop where
  leads : ∀ path ∈ found, ∃ location content,
    tree.find? cwd path = some (location, .file content)
  distinct : found.Pairwise fun path other => tree.locate cwd path ≠ tree.locate cwd other
  reached_iff : ∀ location, (∃ path ∈ found, tree.locate cwd path = .ok location)
    ↔ ∃ path ∈ paths, ∃ spelling, tree.Reaches cwd filter path location spelling
  inOrder : found.Pairwise (tree.ComesBefore cwd filter paths)

variable {tree : FileTree} {cwd location directory names : Location} {entry : Entry}
  {path spelling : Path} {paths : List Path} {filter : FileFilter} {seen : List Path}

/-! ## Walking down -/

theorem walkWith_append (htree : tree.IsPlain)
    (f : Location → List String → Except FileFault Location) (first second : List String) :
    tree.walkWith f location (first ++ second) =
      tree.walkWith f location first >>= fun reached => tree.walkWith f reached second := by
  induction first generalizing location with
  | nil => rfl
  | cons name first ih =>
      by_cases hdirectory : tree.get? location = some .directory
      · rw [List.cons_append]
        by_cases hname : name = ".."
        · subst hname
          rw [walkWith_up hdirectory, walkWith_up hdirectory, ih]
        · rw [walkWith_down hdirectory hname (htree.no_link _),
            walkWith_down hdirectory hname (htree.no_link _), ih]
      · rw [List.cons_append, walkWith, walkWith]
        cases hget : tree.get? location with
        | none => rfl
        | some entry =>
            cases entry with
            | directory => exact absurd hget hdirectory
            | file content => rfl
            | link target => rfl

theorem isDirectory_of_child (htree : tree.IsPlain) {name : String}
    (h : tree.get? (location ++ [name]) = some entry) : tree.get? location = some .directory := by
  have hmem := mem_entries_of_get? (by simp) h
  have hparent := (htree.in_directory _ hmem).2
  rwa [List.dropLast_concat] at hparent

theorem isDirectory_of_below (htree : tree.IsPlain) (hnames : names ≠ [])
    (h : tree.get? (location ++ names) = some entry) : tree.get? location = some .directory := by
  induction names generalizing location with
  | nil => exact absurd rfl hnames
  | cons name rest ih =>
      rw [List.append_cons] at h
      cases rest with
      | nil =>
          rw [List.append_nil] at h
          exact isDirectory_of_child htree h
      | cons next rest => exact isDirectory_of_child htree (ih (List.cons_ne_nil _ _) h)

theorem walkWith_names (htree : tree.IsPlain)
    (f : Location → List String → Except FileFault Location)
    (h : tree.get? (location ++ names) = some entry) :
    tree.walkWith f location names = .ok (location ++ names) := by
  induction names generalizing location with
  | nil => rw [walkWith_nil, List.append_nil]
  | cons name rest ih =>
      have hdirectory := isDirectory_of_below htree (List.cons_ne_nil _ _) h
      have hmem := mem_entries_of_get? (by simp) h
      have hname : name ≠ ".." := by
        rintro rfl
        exact htree.no_leaving_name _ hmem (by simp)
      rw [List.append_cons] at h
      rw [walkWith_down hdirectory hname (htree.no_link _), ih h, ← List.append_cons]

/-- An entry below a directory is found under the path of the directory. -/
theorem find?_below (htree : tree.IsPlain) (hdirectory : tree.locate cwd path = .ok directory)
    (hget : tree.get? (directory ++ names) = some entry) :
    tree.find? cwd (path.below names) = some (directory ++ names, entry) := by
  refine find?_eq_some_iff.2 ⟨?_, hget⟩
  have hwalk : tree.walk linkLimit (path.base cwd) path.parts = .ok directory := hdirectory
  show tree.walk linkLimit (path.base cwd) (path.parts ++ names) = _
  rw [linkLimit, walk] at hwalk ⊢
  rw [walkWith_append htree, hwalk]
  exact walkWith_names htree _ hget

/-! ## The files that one path reaches -/

@[simp] theorem relative?_append (directory names : Location) :
    relative? directory (directory ++ names) = some names := by
  induction directory with
  | nil => rfl
  | cons name rest ih => rw [List.cons_append, relative?, if_pos rfl, ih]

theorem eq_append_of_relative? (h : relative? directory location = some names) :
    location = directory ++ names := by
  fun_induction relative? directory location with
  | case1 location => exact Option.some.inj h
  | case2 => cases h
  | case3 a as bs ih => rw [ih h, List.cons_append]
  | case4 => cases h

theorem mem_namesBelow_iff :
    names ∈ tree.namesBelow directory ↔ ∃ entry, (directory ++ names, entry) ∈ tree.entries := by
  rw [namesBelow, List.mem_mergeSort, List.mem_filterMap]
  constructor
  · rintro ⟨⟨found, entry⟩, hmem, hnames⟩
    have hfound : found = directory ++ names := eq_append_of_relative? hnames
    exact ⟨entry, hfound ▸ hmem⟩
  · rintro ⟨entry, hmem⟩
    exact ⟨_, hmem, relative?_append directory names⟩

@[simp] theorem FileFilter.accepts_iff (filter : FileFilter) (names : Location) :
    filter.accepts names = true
      ↔ (∃ glob ∈ filter.includes, Glob.matchesName glob (names.getLastD ""))
        ∧ ∀ glob ∈ filter.excludes, ¬ Glob.matchesName glob (String.intercalate "/" names) := by
  simp [FileFilter.accepts]

theorem mem_filesAt_iff (htree : tree.IsPlain) {file : FoundFile} :
    file ∈ tree.filesAt cwd filter path
      ↔ ∃ location, file.place = .absolute location
          ∧ tree.Reaches cwd filter path location file.path := by
  unfold filesAt
  constructor
  · intro h
    split at h
    next directory hfind =>
      obtain ⟨names, hnames, hfile⟩ := List.mem_filterMap.1 h
      obtain ⟨hbelow, haccepts⟩ := List.mem_filter.1 hnames
      obtain ⟨entry, hmem⟩ := mem_namesBelow_iff.1 hbelow
      have hget := get?_of_mem_entries htree.toIsFileSystem hmem
      have hlocate := (find?_eq_some_iff.1 hfind).1
      obtain ⟨location, content, hfound, rfl⟩ := fileAt?_eq_some_iff.1 hfile
      rw [find?_below htree hlocate hget, Option.some.injEq, Prod.mk.injEq] at hfound
      obtain ⟨rfl, rfl⟩ := hfound
      obtain ⟨hincluded, hkept⟩ := (FileFilter.accepts_iff filter names).1 haccepts
      exact ⟨directory ++ names, rfl, .below hfind hget hincluded hkept⟩
    next =>
      obtain ⟨location, content, hfind, rfl⟩ := fileAt?_eq_some_iff.1 (Option.mem_toList.1 h)
      exact ⟨location, rfl, .named hfind⟩
  · obtain ⟨found, place⟩ := file
    rintro ⟨location, rfl, hreaches⟩
    cases hreaches with
    | named hfile =>
        simp only [hfile]
        exact Option.mem_toList.2 (fileAt?_eq_some_iff.2 ⟨_, _, hfile, rfl⟩)
    | @below directory names content hdirectory hfile hincluded hkept =>
        simp only [hdirectory]
        have hne : directory ++ names ≠ [] := by
          intro hnil
          rw [hnil] at hfile
          cases hfile
        have hbelow := mem_namesBelow_iff.2 ⟨_, mem_entries_of_get? hne hfile⟩
        have haccepts := (FileFilter.accepts_iff filter _).2 ⟨hincluded, hkept⟩
        have hfind := find?_below htree (find?_eq_some_iff.1 hdirectory).1 hfile
        refine List.mem_filterMap.2 ⟨_, List.mem_filter.2 ⟨hbelow, haccepts⟩, ?_⟩
        exact fileAt?_eq_some_iff.2 ⟨_, _, hfind, rfl⟩

theorem find?_of_reaches (htree : tree.IsPlain)
    (h : tree.Reaches cwd filter path location spelling) :
    ∃ content, tree.find? cwd spelling = some (location, .file content) := by
  cases h with
  | named hfile => exact ⟨_, hfile⟩
  | below hdirectory hfile =>
      exact ⟨_, find?_below htree (find?_eq_some_iff.1 hdirectory).1 hfile⟩

theorem pairwise_namesBelow (tree : FileTree) (directory : Location) :
    (tree.namesBelow directory).Pairwise (· ≤ ·) := by
  refine List.Pairwise.imp (fun h => (Path.partsLe_iff_le _ _).1 h)
    (List.pairwise_mergeSort ?_ ?_ _)
  · intro a b c
    simp only [Path.partsLe_iff_le]
    exact le_trans
  · intro a b
    simp only [Bool.or_eq_true, Path.partsLe_iff_le]
    exact le_total a b

theorem append_le_append_left (front : List String) {first second : List String}
    (h : first ≤ second) : front ++ first ≤ front ++ second := by
  induction front with
  | nil => exact h
  | cons name rest ih => exact List.cons_le_cons name ih

theorem pairwise_filesAt (tree : FileTree) (cwd : Location) (filter : FileFilter) (path : Path) :
    (tree.filesAt cwd filter path).Pairwise fun file other =>
      file.path.parts ≤ other.path.parts := by
  unfold filesAt
  split
  next directory _ =>
    refine List.pairwise_filterMap.2 (((pairwise_namesBelow tree directory).filter _).imp ?_)
    intro names others hle file hfile other hother
    obtain ⟨_, _, _, rfl⟩ := fileAt?_eq_some_iff.1 hfile
    obtain ⟨_, _, _, rfl⟩ := fileAt?_eq_some_iff.1 hother
    exact append_le_append_left path.parts hle
  next =>
    cases tree.fileAt? cwd path with
    | none => exact List.Pairwise.nil
    | some file => exact List.pairwise_singleton _ _

/-! ## Taking each file once -/

@[simp] theorem firstAtPlace_append (seen : List Path) (files more : List FoundFile) :
    firstAtPlace seen (files ++ more) =
      firstAtPlace seen files
        ++ firstAtPlace (((firstAtPlace seen files).map (·.place)).reverse ++ seen) more := by
  fun_induction firstAtPlace seen files with
  | case1 seen => rfl
  | case2 seen file rest hseen ih => rw [List.cons_append, firstAtPlace, if_pos hseen, ih]
  | case3 seen file rest hseen ih =>
      rw [List.cons_append, firstAtPlace, if_neg hseen, ih, List.map_cons, List.reverse_cons,
        List.append_assoc, List.cons_append, List.singleton_append]

theorem mem_places_firstAtPlace (seen : List Path) (files : List FoundFile) (place : Path) :
    place ∈ (firstAtPlace seen files).map (·.place)
      ↔ place ∉ seen ∧ place ∈ files.map (·.place) := by
  fun_induction firstAtPlace seen files with
  | case1 => simp
  | case2 seen file rest hseen ih =>
      have hmem : file.place ∈ seen := List.contains_iff_mem.1 hseen
      rw [ih, List.map_cons, List.mem_cons]
      constructor
      · rintro ⟨hfresh, hrest⟩
        exact ⟨hfresh, .inr hrest⟩
      · rintro ⟨hfresh, rfl | hrest⟩
        · exact absurd hmem hfresh
        · exact ⟨hfresh, hrest⟩
  | case3 seen file rest hseen ih =>
      have hmem : file.place ∉ seen := fun h => hseen (List.contains_iff_mem.2 h)
      rw [List.map_cons, List.map_cons, List.mem_cons, List.mem_cons, ih, List.mem_cons]
      by_cases hplace : place = file.place
      · subst hplace
        simp [hmem]
      · simp [hplace]

theorem nodup_places_firstAtPlace (seen : List Path) (files : List FoundFile) :
    ((firstAtPlace seen files).map (·.place)).Nodup := by
  fun_induction firstAtPlace seen files with
  | case1 => exact List.nodup_nil
  | case2 seen file rest hseen ih => exact ih
  | case3 seen file rest hseen ih =>
      refine List.nodup_cons.2 ⟨fun h => ?_, ih⟩
      exact ((mem_places_firstAtPlace _ _ _).1 h).1 List.mem_cons_self

/-- One more path adds the files at places that the paths before it have not reached. -/
theorem collect_concat (tree : FileTree) (cwd : Location) (filter : FileFilter)
    (paths : List Path) (path : Path) :
    tree.collect cwd filter (paths ++ [path]) =
      tree.collect cwd filter paths
        ++ firstAtPlace ((tree.collect cwd filter paths).map (·.place)).reverse
            (tree.filesAt cwd filter path) := by
  simp only [collect, List.flatMap_append, List.flatMap_singleton, firstAtPlace_append,
    List.append_nil]

theorem mem_places_collect (htree : tree.IsPlain) :
    .absolute location ∈ (tree.collect cwd filter paths).map (·.place)
      ↔ ∃ path ∈ paths, ∃ spelling, tree.Reaches cwd filter path location spelling := by
  rw [collect, mem_places_firstAtPlace, List.mem_map]
  simp only [List.not_mem_nil, not_false_eq_true, true_and, List.mem_flatMap,
    mem_filesAt_iff htree]
  constructor
  · rintro ⟨file, ⟨path, hpath, found, hplace, hreaches⟩, hlocation⟩
    obtain rfl : found = location := by
      rw [hplace] at hlocation
      exact (Path.mk.inj hlocation).2
    exact ⟨path, hpath, _, hreaches⟩
  · rintro ⟨path, hpath, spelling, hreaches⟩
    exact ⟨⟨spelling, .absolute location⟩, ⟨path, hpath, location, rfl, hreaches⟩, rfl⟩

/-! ## The order of the files -/

theorem FirstReached.lt_length {turn : Nat}
    (h : tree.FirstReached cwd filter paths turn location spelling) : turn < paths.length := by
  obtain ⟨path, hpath, _⟩ := h.reached
  exact (List.getElem?_eq_some_iff.1 hpath).1

/-- Paths that come later do not change where a file was reached first. -/
theorem FirstReached.concat {turn : Nat} (path : Path)
    (h : tree.FirstReached cwd filter paths turn location spelling) :
    tree.FirstReached cwd filter (paths ++ [path]) turn location spelling := by
  have hturn := h.lt_length
  constructor
  · rw [List.getElem?_append_left hturn]
    exact h.reached
  · rw [List.take_append_of_le_length hturn.le]
    exact h.fresh

/-- What the last path reaches at places that no path before it has reached is reached first by
it. -/
theorem firstReached_last (htree : tree.IsPlain) {file : FoundFile}
    (h : file ∈ firstAtPlace ((tree.collect cwd filter paths).map (·.place)).reverse
      (tree.filesAt cwd filter path)) :
    ∃ location, file.place = .absolute location
      ∧ tree.FirstReached cwd filter (paths ++ [path]) paths.length location file.path := by
  obtain ⟨location, hplace, hreaches⟩ :=
    (mem_filesAt_iff htree).1 ((firstAtPlace_sublist _ _).subset h)
  have hfresh := ((mem_places_firstAtPlace _ _ _).1 (List.mem_map_of_mem h)).1
  rw [List.mem_reverse, hplace, mem_places_collect htree] at hfresh
  refine ⟨location, hplace, ⟨path, List.getElem?_concat_length, hreaches⟩, ?_⟩
  rw [List.take_left]
  exact fun earlier hearlier other hother => hfresh ⟨earlier, hearlier, other, hother⟩

/-- Every collected file is found under the path by which it was reached first. -/
theorem firstReached_of_mem_collect (htree : tree.IsPlain) {file : FoundFile}
    (h : file ∈ tree.collect cwd filter paths) :
    ∃ turn location, file.place = .absolute location
      ∧ tree.FirstReached cwd filter paths turn location file.path := by
  induction paths using List.reverseRecOn with
  | nil => cases h
  | append_singleton paths path ih =>
      rw [collect_concat, List.mem_append] at h
      cases h with
      | inl hbefore =>
          obtain ⟨turn, location, hplace, hfirst⟩ := ih hbefore
          exact ⟨turn, location, hplace, hfirst.concat path⟩
      | inr hlast =>
          obtain ⟨location, hplace, hfirst⟩ := firstReached_last htree hlast
          exact ⟨paths.length, location, hplace, hfirst⟩

theorem FirstReached.locate_eq (htree : tree.IsPlain) {turn : Nat}
    (h : tree.FirstReached cwd filter paths turn location spelling) :
    tree.locate cwd spelling = .ok location := by
  obtain ⟨path, _, hreaches⟩ := h.reached
  obtain ⟨content, hfind⟩ := find?_of_reaches htree hreaches
  exact (find?_eq_some_iff.1 hfind).1

theorem ComesBefore.concat {first second : Path} (path : Path)
    (h : tree.ComesBefore cwd filter paths first second) :
    tree.ComesBefore cwd filter (paths ++ [path]) first second := by
  obtain ⟨turn, later, location, place, hfirst, hsecond, hturn, hlater, horder⟩ := h
  exact ⟨turn, later, location, place, hfirst, hsecond, hturn.concat path, hlater.concat path,
    horder⟩

theorem pairwise_collect (htree : tree.IsPlain) (paths : List Path) :
    (tree.collect cwd filter paths).Pairwise fun file other =>
      tree.ComesBefore cwd filter paths file.path other.path := by
  induction paths using List.reverseRecOn with
  | nil => exact List.Pairwise.nil
  | append_singleton paths path ih =>
      rw [collect_concat, List.pairwise_append]
      refine ⟨ih.imp (ComesBefore.concat path), ?_, ?_⟩
      · -- Two files of the last path are sorted as it gives them.
        have hsorted := (pairwise_filesAt tree cwd filter path).sublist
          (firstAtPlace_sublist ((tree.collect cwd filter paths).map (·.place)).reverse _)
        refine hsorted.imp_of_mem fun hfile hother hle => ?_
        obtain ⟨location, -, hfirst⟩ := firstReached_last htree hfile
        obtain ⟨place, -, hsecond⟩ := firstReached_last htree hother
        exact ⟨_, _, location, place, hfirst.locate_eq htree, hsecond.locate_eq htree, hfirst,
          hsecond, .inr ⟨rfl, hle⟩⟩
      · -- A file of an earlier path was reached at an earlier turn than one of the last path.
        intro file hfile other hother
        obtain ⟨turn, location, -, hfirst⟩ := firstReached_of_mem_collect htree hfile
        obtain ⟨place, -, hsecond⟩ := firstReached_last htree hother
        have hfirst' := hfirst.concat path
        exact ⟨turn, paths.length, location, place, hfirst'.locate_eq htree,
          hsecond.locate_eq htree, hfirst', hsecond, .inl hfirst.lt_length⟩

/-! ## What is collected -/

/-- The place of a collected file is where its path leads. -/
theorem place_of_mem_collect (htree : tree.IsPlain) {file : FoundFile}
    (h : file ∈ tree.collect cwd filter paths) :
    ∃ location content, file.place = .absolute location
      ∧ tree.find? cwd file.path = some (location, .file content) := by
  obtain ⟨turn, location, hplace, hfirst⟩ := firstReached_of_mem_collect htree h
  obtain ⟨path, _, hreaches⟩ := hfirst.reached
  obtain ⟨content, hfind⟩ := find?_of_reaches htree hreaches
  exact ⟨location, content, hplace, hfind⟩

theorem collect_collected (htree : tree.IsPlain) (cwd : Location) (filter : FileFilter)
    (paths : List Path) :
    tree.Collected cwd filter paths ((tree.collect cwd filter paths).map (·.path)) where
  leads := by
    intro path hpath
    obtain ⟨file, hfile, rfl⟩ := List.mem_map.1 hpath
    obtain ⟨location, content, -, hfind⟩ := place_of_mem_collect htree hfile
    exact ⟨location, content, hfind⟩
  distinct := by
    have hplaces := List.pairwise_map.1 (nodup_places_firstAtPlace [] _ :
      ((tree.collect cwd filter paths).map (·.place)).Nodup)
    refine List.pairwise_map.2 (hplaces.imp_of_mem fun hfile hother hne heq => hne ?_)
    obtain ⟨location, _, hplace, hfind⟩ := place_of_mem_collect htree hfile
    obtain ⟨other, _, hotherPlace, hotherFind⟩ := place_of_mem_collect htree hother
    rw [(find?_eq_some_iff.1 hfind).1, (find?_eq_some_iff.1 hotherFind).1] at heq
    rw [hplace, hotherPlace, Except.ok.inj heq]
  reached_iff := by
    intro location
    rw [← mem_places_collect htree, List.mem_map]
    constructor
    · rintro ⟨path, hpath, hlocate⟩
      obtain ⟨file, hfile, rfl⟩ := List.mem_map.1 hpath
      obtain ⟨place, _, hplace, hfind⟩ := place_of_mem_collect htree hfile
      rw [(find?_eq_some_iff.1 hfind).1] at hlocate
      exact ⟨file, hfile, by rw [hplace, Except.ok.inj hlocate]⟩
    · rintro ⟨file, hfile, hplace⟩
      obtain ⟨place, _, hfilePlace, hfind⟩ := place_of_mem_collect htree hfile
      rw [hplace] at hfilePlace
      obtain rfl := (Path.mk.inj hfilePlace).2
      exact ⟨file.path, List.mem_map_of_mem hfile, (find?_eq_some_iff.1 hfind).1⟩
  inOrder := List.pairwise_map.2 (pairwise_collect htree paths)

/-- Two classes and notes, below two directories. -/
def nestedTree : FileTree :=
  ⟨[(["src"], .directory), (["src", "demo"], .directory), (["src", "demo", "A.java"], .file []),
    (["src", "demo", "B.java"], .file []), (["src", "notes.txt"], .file [])]⟩

/-- The outer directory, the inner one with a detour, a path that leads nowhere, and a file. -/
def nestedPaths : List Path :=
  [.ofText "src", .ofText "src/demo/../demo", .ofText "src/none", .ofText "src/notes.txt"]

theorem isPlain_nestedTree : nestedTree.IsPlain := by
  have hin : ∀ entry ∈ nestedTree.entries,
      entry.1 ≠ [] ∧ nestedTree.get? entry.1.dropLast = some .directory := by
    decide
  refine ⟨⟨by decide, hin, by decide⟩, fun location target h => ?_⟩
  cases location with
  | nil => cases h
  | cons name rest =>
      have hmem := mem_entries_of_get? (List.cons_ne_nil name rest) h
      simp [nestedTree] at hmem

theorem namesBelow_nestedTree :
    nestedTree.namesBelow ["src"] =
        [[], ["demo"], ["demo", "A.java"], ["demo", "B.java"], ["notes.txt"]]
      ∧ nestedTree.namesBelow ["src", "demo"] = [[], ["A.java"], ["B.java"]] :=
  ⟨List.mergeSort_of_pairwise (by decide +kernel), List.mergeSort_of_pairwise (by decide +kernel)⟩

theorem collect_nestedTree :
    (nestedTree.collect [] ⟨["*.java"], ["demo/B*"]⟩ nestedPaths).map (·.path) =
      [.ofText "src/demo/A.java", .ofText "src/demo/../demo/B.java", .ofText "src/notes.txt"] := by
  have houter : nestedTree.find? [] (.ofText "src") = some (["src"], .directory) := by
    decide +kernel
  have hinner : nestedTree.find? [] (.ofText "src/demo/../demo") =
      some (["src", "demo"], .directory) := by
    decide +kernel
  have hnone : nestedTree.find? [] (.ofText "src/none") = none := by decide +kernel
  have hnotes : nestedTree.find? [] (.ofText "src/notes.txt") =
      some (["src", "notes.txt"], .file []) := by
    decide +kernel
  simp only [collect, nestedPaths, List.flatMap_cons, List.flatMap_nil, filesAt, houter, hinner,
    hnone, hnotes, namesBelow_nestedTree]
  cbv

/-- A class that is excluded below the outer directory is taken below the inner one; the other class
is not taken again. -/
theorem collect_collected_nestedTree :
    nestedTree.IsPlain ∧
      nestedTree.Collected [] ⟨["*.java"], ["demo/B*"]⟩ nestedPaths
        [.ofText "src/demo/A.java", .ofText "src/demo/../demo/B.java",
          .ofText "src/notes.txt"] := by
  have hcollected :=
    collect_collected isPlain_nestedTree [] ⟨["*.java"], ["demo/B*"]⟩ nestedPaths
  rw [collect_nestedTree] at hcollected
  exact ⟨isPlain_nestedTree, hcollected⟩

end FileTree

end JavadocTags
