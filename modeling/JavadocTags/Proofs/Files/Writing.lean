import JavadocTags.Proofs.Files.Reading
import JavadocTags.Proofs.Outcome

/-!
# Writing a file

A file that is written stands afterwards where its path leads, and everything else stands where it
stood. Neither a directory nor a link is written over, so every path leads where it led before. A
tree that was a file system is one afterwards.
-/
namespace JavadocTags.FileTree

variable {tree later : FileTree} {place location cwd : Location} {entry : Entry} {path : Path}
  {entries : List (Location × Entry)} {content : List UInt8}

theorem lookup_cons_eq_ite (first : Location × Entry) (rest : List (Location × Entry))
    (location : Location) :
    (first :: rest).lookup location =
      if location = first.1 then some first.2 else rest.lookup location := by
  by_cases h : location = first.1
  · rw [if_pos h, List.lookup_cons, beq_iff_eq.2 h]
  · rw [if_neg h, List.lookup_cons, beq_false_of_ne h]

@[simp] theorem lookup_put (place : Location) (entry : Entry) (entries : List (Location × Entry))
    (location : Location) :
    (put place entry entries).lookup location =
      if location = place then some entry else entries.lookup location := by
  fun_induction put place entry entries with
  | case1 => exact lookup_cons_eq_ite _ _ _
  | case2 old rest =>
      rw [lookup_cons_eq_ite, lookup_cons_eq_ite]
      split
      · rfl
      · rfl
  | case3 other old rest hother ih =>
      rw [lookup_cons_eq_ite, lookup_cons_eq_ite, ih]
      by_cases hlocation : location = other
      · rw [if_pos hlocation, if_pos hlocation, if_neg (hlocation ▸ hother)]
      · rw [if_neg hlocation, if_neg hlocation]

theorem mem_put {found : Location × Entry} (h : found ∈ put place entry entries) :
    found = (place, entry) ∨ found ∈ entries := by
  fun_induction put place entry entries with
  | case1 => exact .inl (List.mem_singleton.1 h)
  | case2 old rest =>
      rcases List.mem_cons.1 h with hfound | hrest
      · exact .inl hfound
      · exact .inr (List.mem_cons_of_mem _ hrest)
  | case3 other old rest hother ih =>
      rcases List.mem_cons.1 h with hfound | hrest
      · exact .inr (hfound ▸ List.mem_cons_self)
      · exact (ih hrest).imp_right (List.mem_cons_of_mem _)

theorem nodup_locations_put (h : (entries.map Prod.fst).Nodup) :
    ((put place entry entries).map Prod.fst).Nodup := by
  fun_induction put place entry entries with
  | case1 => exact List.nodup_cons.2 ⟨List.not_mem_nil, List.nodup_nil⟩
  | case2 old rest => exact h
  | case3 other old rest hother ih =>
      obtain ⟨hfresh, hrest⟩ := List.nodup_cons.1 h
      refine List.nodup_cons.2 ⟨fun hmem => ?_, ih hrest⟩
      obtain ⟨found, hfound, hlocation⟩ := List.mem_map.1 hmem
      rcases mem_put hfound with rfl | hold
      · exact hother hlocation.symm
      · exact hfresh (List.mem_map.2 ⟨found, hold, hlocation⟩)

/-- A file is written at the place to which its path leads. -/
structure WrittenAt (tree : FileTree) (cwd : Location) (path : Path) (content : List UInt8)
    (place : Location) (written : FileTree) : Prop where
  leads : tree.locate cwd path = .ok place
  no_directory : tree.get? place ≠ some .directory
  no_link : ∀ target, tree.get? place ≠ some (.link target)
  get?_eq : ∀ location, written.get? location =
    if location = place then some (.file content) else tree.get? location
  entries_eq : written.entries = put place (.file content) tree.entries

theorem exists_writtenAt {written : FileTree} (h : tree.write cwd path content = .ok written) :
    ∃ place, WrittenAt tree cwd path content place written := by
  obtain ⟨place, hplace, h⟩ := exists_of_bind_eq_ok h
  split at h
  next => cases h
  next => cases h
  next hdirectory hlink =>
    cases h
    have hne : place ≠ [] := by
      rintro rfl
      exact hdirectory rfl
    refine ⟨place, hplace, hdirectory, hlink, fun location => ?_, rfl⟩
    cases location with
    | nil => rw [if_neg hne.symm, get?, get?]
    | cons name rest => exact lookup_put place (.file content) tree.entries (name :: rest)

/-! ## The ways through a tree -/

/-- The same directories and the same links stand in two trees. -/
structure SameWays (tree later : FileTree) : Prop where
  directory : ∀ l, tree.get? l = some .directory ↔ later.get? l = some .directory
  link : ∀ l target, tree.get? l = some (.link target) ↔ later.get? l = some (.link target)

namespace SameWays

theorem refl (tree : FileTree) : SameWays tree tree :=
  ⟨fun _ => Iff.rfl, fun _ _ => Iff.rfl⟩

theorem symm (h : SameWays tree later) : SameWays later tree :=
  ⟨fun l => (h.directory l).symm, fun l target => (h.link l target).symm⟩

theorem trans {last : FileTree} (h : SameWays tree later) (h' : SameWays later last) :
    SameWays tree last :=
  ⟨fun l => (h.directory l).trans (h'.directory l),
    fun l target => (h.link l target).trans (h'.link l target)⟩

theorem walkWith_eq_ok {f g : Location → List String → Except FileFault Location}
    (h : SameWays tree later) (hfollow : ∀ l names, f l names = .ok place → g l names = .ok place)
    {names : List String} (hplace : tree.walkWith f location names = .ok place) :
    later.walkWith g location names = .ok place := by
  induction names generalizing location with
  | nil => exact hplace
  | cons name rest ih =>
      have hdirectory := isDirectory_of_walkWith hplace
      have hstays := (h.directory location).1 hdirectory
      by_cases hname : name = ".."
      · subst hname
        rw [walkWith_up hdirectory] at hplace
        rw [walkWith_up hstays]
        exact ih hplace
      · by_cases hlink : ∃ target, tree.get? (location ++ [name]) = some (.link target)
        · obtain ⟨target, hlink⟩ := hlink
          rw [walkWith_link hdirectory hname hlink] at hplace
          rw [walkWith_link hstays hname ((h.link _ target).1 hlink)]
          exact hfollow _ _ hplace
        · have hlink := not_exists.1 hlink
          rw [walkWith_down hdirectory hname hlink] at hplace
          rw [walkWith_down hstays hname fun target => mt (h.link _ target).2 (hlink target)]
          exact ih hplace

theorem walk_eq_ok (h : SameWays tree later) (links : Nat) {names : List String}
    (hplace : tree.walk links location names = .ok place) :
    later.walk links location names = .ok place := by
  induction links generalizing location names with
  | zero => exact h.walkWith_eq_ok (f := fun _ _ => .error .tooManyLinks) (fun _ _ => nofun) hplace
  | succ links ih => exact h.walkWith_eq_ok (fun _ _ => ih) hplace

theorem locate_eq_ok_iff (h : SameWays tree later) :
    tree.locate cwd path = .ok place ↔ later.locate cwd path = .ok place :=
  ⟨h.walk_eq_ok linkLimit, h.symm.walk_eq_ok linkLimit⟩

end SameWays

namespace WrittenAt
variable {written : FileTree}

theorem sameWays (h : WrittenAt tree cwd path content place written) : SameWays tree written := by
  constructor
  · intro l
    rw [h.get?_eq]
    split
    next heq => exact iff_of_false (heq ▸ h.no_directory) nofun
    next => rfl
  · intro l target
    rw [h.get?_eq]
    split
    next heq => exact iff_of_false (heq ▸ h.no_link target) nofun
    next => rfl

/-- A directory, or a name in one. -/
def InDirectory (tree : FileTree) (place : Location) : Prop :=
  tree.get? place = some .directory ∨ ∃ directory name,
    place = directory ++ [name] ∧ tree.get? directory = some .directory ∧ name ≠ ".."

theorem inDirectory_of_locate (htree : tree.IsFileSystem)
    (hcwd : tree.get? cwd = some .directory) (h : tree.locate cwd path = .ok place) :
    InDirectory tree place := by
  have hbase (l : Location) (target : Path) (hl : tree.get? l = some .directory) :
      tree.get? (target.base l) = some .directory := by
    unfold Path.base
    split
    next => exact hl
    next => rfl
    next => rfl
  refine walk_induction ?_ ?_ ?_ linkLimit (.inl (hbase cwd path hcwd)) h
  · intro l hl _
    cases l with
    | nil => exact .inl rfl
    | cons name rest => exact .inl (htree.in_directory _ (mem_entries_of_get? (by simp) hl)).2
  · intro l name hl hname _
    exact .inr ⟨l, name, rfl, hl, hname⟩
  · intro l target hl _
    exact .inl (hbase l target hl)

theorem isFileSystem (h : WrittenAt tree cwd path content place written) (htree : tree.IsFileSystem)
    (hcwd : tree.get? cwd = some .directory) : written.IsFileSystem := by
  have hways := h.sameWays
  obtain ⟨directory, name, rfl, hdirectory, hname⟩ :=
    (inDirectory_of_locate htree hcwd h.leads).resolve_left h.no_directory
  have hparts : ".." ∉ directory := by
    intro hmem
    have hentry := mem_entries_of_get? (List.ne_nil_of_mem hmem) hdirectory
    exact htree.no_leaving_name _ hentry hmem
  constructor
  · rw [h.entries_eq]
    exact nodup_locations_put htree.nodup_locations
  · intro found hfound
    rw [h.entries_eq] at hfound
    rcases mem_put hfound with rfl | hold
    · refine ⟨by simp, (hways.directory _).1 ?_⟩
      rwa [List.dropLast_concat]
    · obtain ⟨hne, hparent⟩ := htree.in_directory found hold
      exact ⟨hne, (hways.directory _).1 hparent⟩
  · intro found hfound
    rw [h.entries_eq] at hfound
    rcases mem_put hfound with rfl | hold
    · simp [hparts, Ne.symm hname]
    · exact htree.no_leaving_name found hold

end WrittenAt

end JavadocTags.FileTree
