import JavadocTags.Proofs.Pattern.AppendedSuffix
import JavadocTags.Proofs.Pattern.TagSearch

/-!
# Tags with several branches

The bar between the branches of a tag leaves the content group to the last of them. So a match by
the last branch goes to the end of the line and has its content in the group, while a match by
another one ends with its branch, and the content is what follows. Both come to the same: the match
begins where some branch occurs first, the branch listed first there is the one that matches, and
the content is what follows that branch, without leading blanks.
-/
namespace JavadocTags.Pattern

open TagPattern (escape suffix sourceOf)

def alternationText (branches : List (List Char)) : List Char :=
  List.intercalate ['|'] (branches.map escape)

def branchNode (branch : List Char) : Node :=
  .sequence (branch.map fun c => .code c.toNat)

def alternationNode (earlier : List (List Char)) (last : List Char) : Node :=
  .alternation (earlier.map branchNode ++ [literalNode last])

def alternationTag (branches : List (List Char)) : String :=
  String.ofList (alternationText branches)

/-- The compiled pattern of such a tag. -/
def alternationPattern (earlier : List (List Char)) (last : List Char) : Pattern :=
  ⟨sourceOf (alternationTag (earlier ++ [last])) false, {}, 1, alternationNode earlier last⟩

/-! ## Reading -/

theorem alternationText_cons (branch : List Char) {rest : List (List Char)} (hrest : rest ≠ []) :
    alternationText (branch :: rest) = escape branch ++ '|' :: alternationText rest := by
  have hmap : rest.map escape ≠ [] := mt List.map_eq_nil_iff.1 hrest
  rw [alternationText, List.map_cons, List.intercalate_cons_of_ne_nil hmap, List.append_assoc,
    List.singleton_append]
  rfl

@[simp] theorem step_bar [Unicode.CharacterNames] (branches items : List Node) (place : Nat) :
    step (readBranches branches items) ⟨place, false, '|'⟩ =
      .ok (readBranches (.sequence items.reverse :: branches) []) :=
  rfl

theorem steps_alternationText [Unicode.CharacterNames] (branches : List Node)
    (earlier : List (List Char)) (last : List Char) (place : Nat) :
    steps (readBranches branches []) (lexemes place (alternationText (earlier ++ [last]))).1 =
        .ok (readBranches ((earlier.map branchNode).reverse ++ branches)
          (last.map fun c => Node.code c.toNat).reverse) ∧
      (lexemes place (alternationText (earlier ++ [last]))).2 = false := by
  induction earlier generalizing branches place with
  | nil =>
      obtain ⟨next, hsteps, hopen⟩ := steps_escape branches [] place last []
      rw [List.append_nil] at hsteps hopen
      rw [List.append_nil] at hsteps
      have hlast : alternationText ([] ++ [last]) = escape last := List.intercalate_singleton
      rw [hlast]
      exact ⟨hsteps, hopen⟩
  | cons branch earlier ih =>
      have htext : alternationText (branch :: earlier ++ [last]) =
          escape branch ++ '|' :: alternationText (earlier ++ [last]) :=
        alternationText_cons branch (by simp)
      obtain ⟨next, hsteps, hopen⟩ := steps_escape branches [] place branch
        ('|' :: alternationText (earlier ++ [last]))
      obtain ⟨hrest, hclosed⟩ := ih (branchNode branch :: branches) (next + 1)
      -- The bar makes a branch of the items read so far and leaves none behind it.
      have hbar := lexemes_cons_of_ne next (c := '|') (by decide)
        (alternationText (earlier ++ [last]))
      rw [htext, hopen, hsteps, hbar, steps, List.foldlM_cons, step_bar, List.append_nil,
        List.reverse_reverse]
      refine ⟨?_, hclosed⟩
      rw [List.map_cons, List.reverse_cons, List.append_assoc]
      exact hrest

@[simp] theorem fault?_branchNode (branch : List Char) (flags : Flags) :
    (branchNode branch).fault? flags = none := by
  rw [branchNode, fault?_sequence, List.findSome?_eq_none_iff]
  intro p hp
  obtain ⟨c, _, rfl⟩ := List.mem_map.1 hp
  rfl

/-- A tag with several branches compiles to the alternation of the branches, the last of which has
the content group. -/
theorem compile_alternation [Unicode.CharacterNames] (earlier : List (List Char))
    (last : List Char) :
    compile (sourceOf (alternationTag (earlier ++ [last])) false) =
      .ok (alternationPattern earlier last) := by
  have htag : (alternationTag (earlier ++ [last])).toList = alternationText (earlier ++ [last]) :=
    String.toList_ofList
  obtain ⟨hsteps, hclosed⟩ := steps_alternationText [] earlier last 0
  rw [← htag] at hsteps hclosed
  rw [List.append_nil] at hsteps
  have hread : readPattern (alternationTag (earlier ++ [last])).toList =
      .ok (readBranches (earlier.map branchNode).reverse
        (last.map fun c => Node.code c.toNat).reverse) :=
    readPattern_eq_ok_iff.2 ⟨hclosed, _, hsteps, rfl, rfl, rfl, List.forall_mem_nil _⟩
  have hcomment : endsInComment (alternationTag (earlier ++ [last])).toList = false :=
    Bool.eq_false_iff.2 fun h => nomatch (endsInComment_iff hsteps).1 h
  have hfault : (readBranches (earlier.map branchNode).reverse
      (last.map fun c => Node.code c.toNat).reverse).frame.body.fault? {} = none := by
    rw [body_eq, fault?_alternation, List.findSome?_eq_none_iff]
    intro p hp
    simp only [readBranches, List.reverse_reverse, List.mem_append, List.mem_map,
      List.mem_singleton] at hp
    obtain ⟨branch, _, rfl⟩ | rfl := hp
    · exact fault?_branchNode branch {}
    · exact fault?_branchNode last {}
  rw [compile_sourceOf hread hfault hcomment rfl, body_push_push]
  simp only [readBranches, List.reverse_reverse]
  rfl

/-! ## Matching -/

/-- A branch that a text begins with, no earlier one of the list having that property. -/
structure FirstListed (branches : List (List Char)) (i : Nat) (branch rest : List Char) : Prop where
  listed : branches[i]? = some branch
  first : ∀ j other, j < i → branches[j]? = some other → ¬ other <+: branch ++ rest

theorem FirstListed.tail {other branch rest : List Char} {branches : List (List Char)} {i : Nat}
    (h : FirstListed (other :: branches) (i + 1) branch rest) :
    ¬ other <+: branch ++ rest ∧ FirstListed branches i branch rest where
  left := h.first 0 other (Nat.succ_pos i) rfl
  right := ⟨h.listed, fun j other hlt hother => h.first (j + 1) other (Nat.succ_lt_succ hlt) hother⟩

theorem exists_firstListed {branches : List (List Char)} {text : List Char}
    (h : ∃ branch ∈ branches, branch <+: text) :
    ∃ i branch rest, text = branch ++ rest ∧ FirstListed branches i branch rest := by
  induction branches with
  | nil =>
      obtain ⟨branch, hmem, -⟩ := h
      cases hmem
  | cons other branches ih =>
      by_cases hother : other <+: text
      · obtain ⟨rest, rfl⟩ := hother
        exact ⟨0, other, rest, rfl, rfl, fun j _ hlt => absurd hlt (Nat.not_lt_zero j)⟩
      · obtain ⟨branch, hmem, hbranch⟩ := h
        have hlater : branch ∈ branches :=
          (List.mem_cons.1 hmem).resolve_left fun heq => hother (heq ▸ hbranch)
        obtain ⟨i, first, rest, rfl, hfirst⟩ := ih ⟨branch, hlater, hbranch⟩
        refine ⟨i + 1, first, rest, rfl, hfirst.listed, fun j earlier hlt hearlier => ?_⟩
        cases j with
        | zero =>
            obtain rfl := Option.some.inj hearlier
            exact hother
        | succ j => exact hfirst.first j earlier (Nat.lt_of_succ_lt_succ hlt) hearlier

section Matching
variable {line : List Char}

@[simp] theorem run_sequence_cons (text : Array Char) (p : Node) (nodes : List Node) (flags : Flags)
    (place : Nat) (marks : Marks) (rest : Rest) :
    (Node.sequence (p :: nodes)).run text flags place marks rest =
      p.run text flags place marks fun reached marks =>
        (Node.sequence nodes).run text flags reached marks rest := by
  cases nodes <;> rfl

theorem run_alternation_cons (text : Array Char) (p : Node) {nodes : List Node}
    (hnodes : nodes ≠ []) (flags : Flags) (place : Nat) (marks : Marks) (rest : Rest) :
    (Node.alternation (p :: nodes)).run text flags place marks rest =
      (p.run text flags place marks rest).or
        ((Node.alternation nodes).run text flags place marks rest) := by
  cases nodes with
  | nil => exact absurd rfl hnodes
  | cons q nodes => rfl

theorem run_branchNode (branch : List Char) (place : Nat) (marks : Marks) (rest : Rest) :
    (branchNode branch).run line.toArray {} place marks rest =
      if branch.isPrefixOf (line.drop place) then rest (place + branch.length) marks else none := by
  induction branch generalizing place with
  | nil => rfl
  | cons c branch ih =>
      have hcons : (branchNode (c :: branch)).run line.toArray {} place marks rest =
          (Node.code c.toNat).run line.toArray {} place marks fun reached marks =>
            (branchNode branch).run line.toArray {} reached marks rest :=
        run_sequence_cons _ _ _ _ _ _ _
      rw [hcons, run_code]
      cases hdrop : line.drop place with
      | nil => rfl
      | cons d tail =>
          have hnext : line.drop (place + 1) = tail := by
            rw [← List.tail_drop, hdrop]
            rfl
          rw [List.isPrefixOf, List.length_cons, Nat.add_comm branch.length, ← Nat.add_assoc]
          simp only [ih, hnext]
          cases hhead : c == d with
          | true => rfl
          | false => rfl

theorem run_alternationNode_eq_none (hline : '\n' ∉ line) {earlier : List (List Char)}
    {last : List Char} {place : Nat} (hplace : place ≤ line.length) (marks : Marks)
    (h : ∀ branch ∈ earlier ++ [last], ¬ branch <+: line.drop place) :
    (alternationNode earlier last).run line.toArray {} place marks
      (fun reached marks => some (reached, marks)) = none := by
  induction earlier with
  | nil =>
      have hlast := h last (List.mem_singleton.2 rfl)
      show (literalNode last).run _ _ _ _ _ = none
      rw [run_literalNode hline last hplace, if_neg (mt List.isPrefixOf_iff_prefix.1 hlast)]
  | cons branch earlier ih =>
      have hbranch := h branch List.mem_cons_self
      have hrest := ih fun other hother => h other (List.mem_cons_of_mem _ hother)
      rw [alternationNode, List.map_cons, List.cons_append, run_alternation_cons _ _ (by simp),
        run_branchNode, if_neg (mt List.isPrefixOf_iff_prefix.1 hbranch)]
      exact hrest

/-- The place that a match by a branch reaches: the end of the line for the last branch, the end of
the branch for another one. -/
def branchStop (line : List Char) (place i length branches : Nat) : Nat :=
  if i + 1 = branches then line.length else place + length

/-- The marks that a match by a branch leaves: the content group takes part in the last branch
only. -/
def branchMarks (line : List Char) (place i branches : Nat) (marks : Marks) : Marks :=
  if i + 1 = branches then
    contentMarks line (place + ((line.drop place).takeWhile Text.isBlank).length) marks
  else marks

/-- Of the branches that stand at a place, the one listed first matches. -/
theorem run_alternationNode_eq_some (hline : '\n' ∉ line) {earlier : List (List Char)}
    {last branch rest : List Char} {i place : Nat} (hplace : place ≤ line.length) (marks : Marks)
    (hdrop : line.drop place = branch ++ rest) (h : FirstListed (earlier ++ [last]) i branch rest) :
    (alternationNode earlier last).run line.toArray {} place marks
        (fun reached marks => some (reached, marks)) =
      some (branchStop line place i branch.length (earlier.length + 1),
        branchMarks line (place + branch.length) i (earlier.length + 1) marks) := by
  have hstarts : branch.isPrefixOf (line.drop place) = true :=
    List.isPrefixOf_iff_prefix.2 ⟨rest, hdrop.symm⟩
  induction earlier generalizing i with
  | nil =>
      have hi : i = 0 := by
        have hlt := (List.getElem?_eq_some_iff.1 h.listed).1
        simpa using hlt
      subst hi
      obtain rfl : last = branch := Option.some.inj h.listed
      show (literalNode last).run _ _ _ _ _ = _
      rw [run_literalNode hline last hplace, if_pos hstarts]
      rfl
  | cons other earlier ih =>
      rw [alternationNode, List.map_cons, List.cons_append, run_alternation_cons _ _ (by simp),
        run_branchNode]
      cases i with
      | zero =>
          obtain rfl : other = branch := Option.some.inj h.listed
          rw [if_pos hstarts]
          simp [branchStop, branchMarks]
      | succ i =>
          obtain ⟨hother, htail⟩ := h.tail
          rw [← hdrop] at hother
          rw [if_neg (mt List.isPrefixOf_iff_prefix.1 hother)]
          simp only [branchStop, branchMarks, List.length_cons, Nat.add_right_cancel_iff] at ih ⊢
          exact ih htail

end Matching

/-! ## Searching -/

/-- The branch that a search finds: none stands further left, and none listed earlier stands at the
same place. -/
structure LeftmostBranch (branches : List (List Char)) (line before : List Char) (i : Nat)
    (branch rest : List Char) : Prop extends FirstListed branches i branch rest where
  eq_append : line = before ++ (branch ++ rest)
  leftmost : ∀ other ∈ branches, ∀ earlier later,
    line = earlier ++ (other ++ later) → before.length ≤ earlier.length

/-- No branch stands in a line further left than the places at which none has been found. -/
theorem le_length_of_not_prefix {branches : List (List Char)} {line : List Char} {place : Nat}
    (h : ∀ i, i < place → ∀ other ∈ branches, ¬ other <+: line.drop i) :
    ∀ other ∈ branches, ∀ earlier later,
      line = earlier ++ (other ++ later) → place ≤ earlier.length := by
  rintro other hother earlier later rfl
  refine Nat.le_of_not_lt fun hlt => ?_
  exact h earlier.length hlt other hother ⟨later, List.drop_left.symm⟩

section Searching
variable {line : List Char} {earlier : List (List Char)} {last : List Char}

theorem matchAt?_alternationNode_eq_none_iff (hline : '\n' ∉ line) {place : Nat}
    (hplace : place ≤ line.length) :
    (alternationNode earlier last).matchAt? {} 1 line.toArray place = none ↔
      ∀ branch ∈ earlier ++ [last], ¬ branch <+: line.drop place := by
  rw [Node.matchAt?, Option.map_eq_none_iff]
  constructor
  · intro h branch hbranch hstarts
    obtain ⟨i, first, rest, hdrop, hfirst⟩ := exists_firstListed ⟨branch, hbranch, hstarts⟩
    rw [run_alternationNode_eq_some hline hplace _ hdrop hfirst] at h
    cases h
  · exact run_alternationNode_eq_none hline hplace _

theorem matchAt?_alternationNode_eq_some (hline : '\n' ∉ line) {place i : Nat}
    {branch rest : List Char} (hplace : place ≤ line.length)
    (hdrop : line.drop place = branch ++ rest)
    (h : FirstListed (earlier ++ [last]) i branch rest) :
    (alternationNode earlier last).matchAt? {} 1 line.toArray place =
      some ⟨place, branchStop line place i branch.length (earlier.length + 1),
        branchMarks line (place + branch.length) i (earlier.length + 1)
          (Array.replicate 1 {})⟩ := by
  rw [Node.matchAt?, run_alternationNode_eq_some hline hplace _ hdrop h]
  rfl

/-- The content of a match is what follows its branch, in the group or not. -/
theorem content_of_firstListed {p : Pattern} (hgroups : p.groups = 1) {place i count : Nat}
    {branch rest : List Char} (hplace : place ≤ line.length)
    (hdrop : line.drop place = branch ++ rest) :
    TagPattern.content p line ⟨place, branchStop line place i branch.length count,
        branchMarks line (place + branch.length) i count (Array.replicate 1 {})⟩ =
      Text.trimStart rest := by
  have hrest : line.drop (place + branch.length) = rest := by
    rw [← List.drop_drop, hdrop, List.drop_left]
  rw [TagPattern.content, hgroups]
  by_cases hlast : i + 1 = count
  · have hbound : place + branch.length +
        ((line.drop (place + branch.length)).takeWhile Text.isBlank).length ≤ line.length := by
      have hbranch := congrArg List.length hdrop
      have hblanks := (List.takeWhile_sublist Text.isBlank (l := rest)).length_le
      rw [List.length_drop, List.length_append] at hbranch
      rw [hrest]
      omega
    rw [branchMarks, if_pos hlast, groupStart?_contentMarks hbound]
    simp only
    rw [← List.drop_drop, drop_length_takeWhile, hrest, Text.trimStart]
  · have hunmarked (stop : Nat) :
        Match.groupStart? ⟨place, stop, Array.replicate 1 {}⟩ 1 = none := rfl
    rw [branchMarks, if_neg hlast, hunmarked, branchStop, if_neg hlast]
    simp only
    rw [hrest]

theorem LeftmostBranch.drop_eq {branches : List (List Char)} {before branch rest : List Char}
    {i : Nat} (h : LeftmostBranch branches line before i branch rest) :
    before.length ≤ line.length ∧ line.drop before.length = branch ++ rest := by
  rw [h.eq_append]
  exact ⟨by rw [List.length_append]; exact Nat.le_add_right _ _, List.drop_left⟩

theorem search?_of_leftmostBranch (hline : '\n' ∉ line) {before branch rest : List Char} {i : Nat}
    (h : LeftmostBranch (earlier ++ [last]) line before i branch rest) :
    (alternationPattern earlier last).search? line =
      some ⟨before.length, branchStop line before.length i branch.length (earlier.length + 1),
        branchMarks line (before.length + branch.length) i (earlier.length + 1)
          (Array.replicate 1 {})⟩ := by
  obtain ⟨hplace, hdrop⟩ := h.drop_eq
  have hmatch := matchAt?_alternationNode_eq_some hline hplace hdrop h.toFirstListed
  cases hsearch : (alternationPattern earlier last).search? line with
  | none =>
      have hnone := Node.of_searchFrom_eq_none hsearch before.length (Nat.zero_le _)
        (by rwa [List.size_toArray, Nat.zero_add])
      exact nomatch hnone.symm.trans hmatch
  | some found =>
      obtain ⟨hfound, -, hlast, hearlier⟩ := Node.of_searchFrom_eq_some hsearch
      rw [List.size_toArray, Nat.zero_add] at hlast
      -- The search has not passed the leftmost branch, and no branch stands further left.
      have hle : found.start ≤ before.length := by
        refine Nat.le_of_not_lt fun hlt => ?_
        exact nomatch (hearlier before.length (Nat.zero_le _) hlt).symm.trans hmatch
      have hge : before.length ≤ found.start := by
        have hsome : ¬ ∀ other ∈ earlier ++ [last], ¬ other <+: line.drop found.start := by
          intro hnone
          exact nomatch ((matchAt?_alternationNode_eq_none_iff hline hlast).2 hnone).symm.trans
            hfound
        simp only [not_forall, not_not] at hsome
        obtain ⟨other, hother, later, hlater⟩ := hsome
        have hleft := h.leftmost other hother (line.take found.start) later
          (by rw [hlater, List.take_append_drop])
        rwa [List.length_take_of_le hlast] at hleft
      have hstart : found.start = before.length := Nat.le_antisymm hle hge
      rw [hstart] at hfound
      exact hfound.symm.trans hmatch

theorem exists_leftmostBranch_of_search? (hline : '\n' ∉ line) {found : Match}
    (h : (alternationPattern earlier last).search? line = some found) :
    ∃ before i branch rest, LeftmostBranch (earlier ++ [last]) line before i branch rest := by
  obtain ⟨hfound, -, hlast, hearlier⟩ := Node.of_searchFrom_eq_some h
  rw [List.size_toArray, Nat.zero_add] at hlast
  have hsome : ∃ other ∈ earlier ++ [last], other <+: line.drop found.start := by
    by_contra hnone
    simp only [not_exists, not_and] at hnone
    exact nomatch ((matchAt?_alternationNode_eq_none_iff hline hlast).2 hnone).symm.trans hfound
  obtain ⟨i, branch, rest, hdrop, hfirst⟩ := exists_firstListed hsome
  refine ⟨line.take found.start, i, branch, rest, hfirst, ?_, ?_⟩
  · rw [← hdrop, List.take_append_drop]
  · rw [List.length_take_of_le hlast]
    refine le_length_of_not_prefix fun place hlt => ?_
    exact (matchAt?_alternationNode_eq_none_iff hline (by omega)).1
      (hearlier place (Nat.zero_le _) hlt)

theorem search?_ne_none_of_infix (hline : '\n' ∉ line) {branch : List Char}
    (hbranch : branch ∈ earlier ++ [last]) (h : branch <:+: line) :
    (alternationPattern earlier last).search? line ≠ none := by
  obtain ⟨before, rest, rfl⟩ := h
  intro hsearch
  have hplace : before.length ≤ (before ++ branch ++ rest).length := by
    rw [List.append_assoc, List.length_append]
    exact Nat.le_add_right _ _
  have hnone := Node.of_searchFrom_eq_none hsearch before.length (Nat.zero_le _)
    (by rwa [List.size_toArray, Nat.zero_add])
  refine (matchAt?_alternationNode_eq_none_iff hline hplace).1 hnone branch hbranch ⟨rest, ?_⟩
  rw [List.append_assoc, List.drop_left]

end Searching

end JavadocTags.Pattern

namespace JavadocTags.TagPattern

open Pattern (LeftmostBranch alternationTag alternationPattern)

theorem alternationTag_ne_empty {branches : List (List Char)} (hbranches : 2 ≤ branches.length) :
    alternationTag branches ≠ "" := by
  intro hempty
  cases branches with
  | nil => cases hbranches
  | cons branch rest =>
      have hrest : rest ≠ [] := by
        rintro rfl
        exact absurd hbranches (by simp)
      have htext := congrArg String.toList hempty
      rw [alternationTag, String.toList_ofList, Pattern.alternationText_cons branch hrest] at htext
      exact absurd htext (by simp)

/-- The match of a line is by its leftmost branch. -/
theorem find_of_leftmostBranch {line : List Char} (hline : '\n' ∉ line)
    {earlier : List (List Char)} {last before branch rest : List Char} {i : Nat}
    (h : LeftmostBranch (earlier ++ [last]) line before i branch rest) :
    find (alternationPattern earlier last) [line] = [⟨0, Text.trimStart rest⟩] := by
  obtain ⟨hplace, hdrop⟩ := h.drop_eq
  rw [find_singleton, findInLine?, Pattern.search?_of_leftmostBranch hline h, Option.map_some,
    Pattern.content_of_firstListed rfl hplace hdrop]
  rfl

/-- A tag that lists at least two texts as its branches compiles, and the search for it is a search
for these texts: a line without line feeds has a match if some branch occurs in it, the match is at
the leftmost place where a branch occurs and by the branch listed first of those that occur there,
and the content is what follows that branch without leading blanks. The last branch reads the line
to its end, another one itself only. -/
theorem alternation_search [Unicode.CharacterNames] {branches : List (List Char)}
    (hbranches : 2 ≤ branches.length) :
    ∃ p, compile (alternationTag branches) false = .ok p ∧ ∀ line, '\n' ∉ line →
      (find p [line] ≠ [] ↔ ∃ branch ∈ branches, branch <:+: line) ∧
      (∀ m, m ∈ find p [line] ↔ ∃ before i branch rest,
        LeftmostBranch branches line before i branch rest ∧ m = ⟨0, Text.trimStart rest⟩) ∧
      ∀ before i branch rest, LeftmostBranch branches line before i branch rest →
        ∃ found, p.search? line = some found ∧ found.start = before.length ∧
          found.stop =
            if i + 1 = branches.length then line.length else before.length + branch.length := by
  have htag := alternationTag_ne_empty hbranches
  have hne : branches ≠ [] := by
    rintro rfl
    cases hbranches
  obtain ⟨earlier, last, rfl⟩ : ∃ earlier last, branches = earlier ++ [last] :=
    ⟨_, _, (List.dropLast_append_getLast hne).symm⟩
  refine ⟨alternationPattern earlier last,
    (compile_eq_ok_iff htag).2 (Pattern.compile_alternation earlier last), fun line hline => ?_⟩
  have hexists (hfind : find (alternationPattern earlier last) [line] ≠ []) :
      ∃ before i branch rest, LeftmostBranch (earlier ++ [last]) line before i branch rest := by
    rw [ne_eq, find_eq_nil_iff, List.forall_mem_singleton] at hfind
    obtain ⟨found, hsearch⟩ := Option.ne_none_iff_exists'.1 hfind
    exact Pattern.exists_leftmostBranch_of_search? hline hsearch
  refine ⟨⟨fun hfind => ?_, ?_⟩, fun m => ⟨fun hm => ?_, ?_⟩, fun before i branch rest h => ?_⟩
  · obtain ⟨before, i, branch, rest, h⟩ := hexists hfind
    refine ⟨branch, List.mem_of_getElem? h.listed, before, rest, ?_⟩
    rw [h.eq_append, List.append_assoc]
  · rintro ⟨branch, hbranch, hinfix⟩ hnil
    have hnone := find_eq_nil_iff.1 hnil line List.mem_cons_self
    exact Pattern.search?_ne_none_of_infix hline hbranch hinfix hnone
  · obtain ⟨before, i, branch, rest, h⟩ := hexists (List.ne_nil_of_mem hm)
    rw [find_of_leftmostBranch hline h] at hm
    exact ⟨before, i, branch, rest, h, List.mem_singleton.1 hm⟩
  · rintro ⟨before, i, branch, rest, h, rfl⟩
    rw [find_of_leftmostBranch hline h]
    exact List.mem_cons_self
  · refine ⟨_, Pattern.search?_of_leftmostBranch hline h, rfl, ?_⟩
    rw [List.length_append]
    rfl

open scoped Unicode.CharacterNames

def sinceBranches : List (List Char) :=
  ["@s".toList, "@since".toList, "@(v)".toList]

theorem alternation_search_sinceBranches :
    2 ≤ sinceBranches.length ∧ alternationTag sinceBranches = "@s|@since|@\\(v\\)" ∧
      ∃ p, compile (alternationTag sinceBranches) false = .ok p ∧
        ⟨0, "ince 1 @(v) 2".toList⟩ ∈ find p ["* @since 1 @(v) 2".toList] ∧
        ⟨0, "@s 2".toList⟩ ∈ find p ["* @(v)  @s 2".toList] ∧
        find p ["* @v 2".toList] = [] := by
  have hlength : 2 ≤ sinceBranches.length := by decide
  obtain ⟨p, hp, hfind⟩ := alternation_search hlength
  refine ⟨hlength, by cbv, p, hp, ?_, ?_, ?_⟩
  · refine ((hfind _ (by decide +kernel)).2.1 _).2
      ⟨"* ".toList, 0, "@s".toList, "ince 1 @(v) 2".toList, ⟨⟨rfl, ?_⟩, rfl, ?_⟩, by cbv⟩
    · exact fun j _ hlt => absurd hlt (Nat.not_lt_zero j)
    · exact Pattern.le_length_of_not_prefix (by decide +kernel)
  · refine ((hfind _ (by decide +kernel)).2.1 _).2
      ⟨"* ".toList, 2, "@(v)".toList, "  @s 2".toList, ⟨⟨rfl, ?_⟩, rfl, ?_⟩, by cbv⟩
    · have hearlier : ∀ j, j < 2 → ∀ other ∈ sinceBranches[j]?,
          ¬ other <+: "@(v)".toList ++ "  @s 2".toList := by decide +kernel
      exact fun j other hlt hother => hearlier j hlt other hother
    · exact Pattern.le_length_of_not_prefix (by decide +kernel)
  · by_contra hfound
    exact absurd ((hfind _ (by decide +kernel)).1.1 hfound) (by decide +kernel)

end JavadocTags.TagPattern
