import JavadocTags.Check.Spec

/-!
# Literal tags

The escaped text of a tag is read as its characters one after the other, and what is added to it as
a repetition of blanks and a group of the rest of the line. Such a pattern always compiles. In a
line without line feeds it matches where the tag occurs first, and the group begins behind the
blanks that follow the tag.
-/
namespace JavadocTags.Pattern

open TagPattern (specialChars escape suffix sourceOf)

def blanksNode : Node :=
  .repetition .greedy 0 none (.set false [.category false .space])

def contentNode : Node :=
  .group (some 1) {} {} (.seq (.repetition .greedy 0 none .any) (.anchor .lineEnd))

def literalNode (tag : List Char) : Node :=
  Node.sequence (tag.map (fun c => Node.code c.toNat) ++ [blanksNode, contentNode])

/-- The state of the reader between items of a pattern that has begun no construct. -/
def readItems (items : List Node) : ReaderState :=
  { frame := { opening := .whole, place := 0, verbose := false, items } }

/-- The same with branches that have ended, the last first. -/
def readBranches (branches items : List Node) : ReaderState :=
  { frame := { opening := .whole, place := 0, verbose := false, branches, items } }

theorem escape_cons (c : Char) (tag : List Char) :
    escape (c :: tag) = (if specialChars.contains c then ['\\', c] else [c]) ++ escape tag :=
  List.flatMap_cons

theorem lexemes_cons_of_ne (place : Nat) {c : Char} (hc : c ≠ '\\') (rest : List Char) :
    lexemes place (c :: rest) =
      (⟨place, false, c⟩ :: (lexemes (place + 1) rest).1, (lexemes (place + 1) rest).2) := by
  rw [lexemes]
  · intro h _
    exact hc h
  · intro d tail h _
    exact hc h

theorem lexemes_escape_cons (place : Nat) (c : Char) (tag rest : List Char) :
    ∃ next, lexemes place (escape (c :: tag) ++ rest) =
      (⟨place, specialChars.contains c, c⟩ :: (lexemes next (escape tag ++ rest)).1,
        (lexemes next (escape tag ++ rest)).2) := by
  rw [escape_cons]
  split
  · rename_i hspecial
    refine ⟨place + 2, ?_⟩
    rw [hspecial]
    rfl
  · rename_i hspecial
    refine ⟨place + 1, ?_⟩
    have hbackslash : c ≠ '\\' := by
      rintro rfl
      exact hspecial rfl
    rw [Bool.not_eq_true] at hspecial
    rw [hspecial, List.singleton_append, List.cons_append]
    exact lexemes_cons_of_ne place hbackslash _

theorem step_escape [Unicode.CharacterNames] (branches items : List Node) (place : Nat) (c : Char) :
    step (readBranches branches items) ⟨place, specialChars.contains c, c⟩ =
      .ok (readBranches branches (.code c.toNat :: items)) := by
  by_cases hspecial : specialChars.contains c = true
  · rw [hspecial]
    simp only [specialChars, List.contains_eq_mem, List.mem_cons, List.not_mem_nil, or_false,
      decide_eq_true_eq] at hspecial
    rcases hspecial with rfl | rfl | rfl | rfl | rfl | rfl | rfl | rfl | rfl | rfl | rfl | rfl |
      rfl | rfl | rfl | rfl | rfl | rfl | rfl | rfl | rfl | rfl | rfl | rfl <;> rfl
  · rw [Bool.not_eq_true] at hspecial
    rw [hspecial]
    simp only [specialChars, List.contains_eq_mem, List.mem_cons, List.not_mem_nil, or_false,
      decide_eq_false_iff_not, not_or] at hspecial
    have hitem : takeItem (readBranches branches items) ⟨place, false, c⟩ =
        .ok (readBranches branches (.code c.toNat :: items)) := by
      unfold takeItem
      simp [Lexeme.isChar, readBranches, hspecial, ReaderState.push, Frame.push]
    have hcheck : checkItem (readBranches branches items) ⟨place, false, c⟩ = .ok () := by
      simp [checkItem, readBranches, Lexeme.isChar, hspecial]
    have hsettle : settle (readBranches branches items) ⟨place, false, c⟩ =
        .ok (readBranches branches items) := rfl
    rw [step, hsettle]
    show (checkItem _ _ >>= fun _ => take _ _) = _
    rw [hcheck]
    exact hitem

theorem steps_escape [Unicode.CharacterNames] (branches items : List Node) (place : Nat)
    (tag rest : List Char) :
    ∃ next, steps (readBranches branches items) (lexemes place (escape tag ++ rest)).1 =
        steps (readBranches branches ((tag.map fun c => Node.code c.toNat).reverse ++ items))
          (lexemes next rest).1 ∧
      (lexemes place (escape tag ++ rest)).2 = (lexemes next rest).2 := by
  induction tag generalizing items place with
  | nil => exact ⟨place, rfl, rfl⟩
  | cons c tag ih =>
      -- The items are kept in reverse, so the characters of `tag` come in front of `c`.
      obtain ⟨middle, hlexemes⟩ := lexemes_escape_cons place c tag rest
      obtain ⟨next, hsteps, hopen⟩ := ih (.code c.toNat :: items) middle
      refine ⟨next, ?_, by rw [hlexemes]; exact hopen⟩
      rw [hlexemes, steps, List.foldlM_cons, step_escape]
      rw [List.map_cons, List.reverse_cons, List.append_assoc]
      exact hsteps

theorem steps_suffix [Unicode.CharacterNames] (items : List Node) (place : Nat) :
    ∃ width, steps (readItems items) (lexemes place suffix.toList).1 =
      .ok { readItems (contentNode :: blanksNode :: items) with widths := [width] } := by
  exact ⟨_, rfl⟩

/-- The pattern of a literal tag is read as its characters, blanks and the rest of the line. -/
theorem readPattern_literal [Unicode.CharacterNames] (tag : List Char) :
    ∃ width, readPattern (escape tag ++ suffix.toList) =
      .ok { readItems (contentNode :: blanksNode :: (tag.map fun c => Node.code c.toNat).reverse)
        with widths := [width] } := by
  obtain ⟨next, hsteps, hopen⟩ := steps_escape [] [] 0 tag suffix.toList
  change steps (readItems []) _ = steps (readItems _) _ at hsteps
  obtain ⟨width, hsuffix⟩ := steps_suffix ((tag.map fun c => Node.code c.toNat).reverse) next
  have hclosed : (lexemes 0 (escape tag ++ suffix.toList)).2 = false := hopen
  refine ⟨width, ?_⟩
  rw [readPattern]
  simp only [hclosed]
  rw [List.append_nil, hsuffix] at hsteps
  show (steps (readItems []) _ >>= fun s => finish s _) = _
  rw [hsteps]
  rfl

theorem fault?_sequence (flags : Flags) (nodes : List Node) :
    (Node.sequence nodes).fault? flags = nodes.findSome? (Node.fault? flags) := by
  induction nodes with
  | nil => rfl
  | cons p rest ih =>
      rw [List.findSome?_cons, ← ih]
      cases rest with
      | nil => cases hfault : p.fault? flags <;> simp [Node.sequence, Node.fault?, hfault]
      | cons q rest => cases hfault : p.fault? flags <;> simp [Node.sequence, Node.fault?, hfault]

theorem compile_literal [Unicode.CharacterNames] (tag : String) :
    compile (sourceOf tag true) = .ok ⟨sourceOf tag true, {}, 1, literalNode tag.toList⟩ := by
  obtain ⟨width, hread⟩ := readPattern_literal tag.toList
  have hsource : (sourceOf tag true).toList = escape tag.toList ++ suffix.toList := by
    rw [sourceOf, String.toList_append]
    simp
  rw [compile, hsource, hread]
  have hbody : (readItems (contentNode :: blanksNode ::
      (tag.toList.map fun c => Node.code c.toNat).reverse)).frame.body =
      literalNode tag.toList := by
    simp [readItems, Frame.body, Frame.branch, Node.alternation, literalNode]
  have hfault : (literalNode tag.toList).fault? {} = none := by
    rw [literalNode, fault?_sequence, List.findSome?_eq_none_iff]
    intro p hp
    simp only [List.mem_append, List.mem_map, List.mem_cons, List.not_mem_nil, or_false] at hp
    rcases hp with ⟨c, _, rfl⟩ | rfl | rfl
    · rfl
    · rfl
    · rfl
  have hflags (items : List Node) : (readItems items).flags = {} := rfl
  simp only [bind, Except.bind, hflags]
  rw [hbody, hfault]
  rfl

section Matching
variable {line : List Char}

theorem runLength_eq (line : List Char) (test : Char → Bool) (place : Nat) :
    runLength line.toArray test (line.length - place) place =
      ((line.drop place).takeWhile test).length := by
  generalize hrest : line.drop place = rest
  induction rest generalizing place with
  | nil =>
      rw [Nat.sub_eq_zero_of_le (List.drop_eq_nil_iff.1 hrest)]
      rfl
  | cons c rest ih =>
      have hlt : place < line.length := by
        have hlength := congrArg List.length hrest
        rw [List.length_drop, List.length_cons] at hlength
        omega
      have hget : line.toArray[place]? = some c := by
        rw [List.getElem?_toArray, ← List.head?_drop, hrest]
        rfl
      have hnext : line.drop (place + 1) = rest := by
        rw [← List.tail_drop, hrest]
        rfl
      have hlimit : line.length - place = line.length - (place + 1) + 1 := by omega
      rw [hlimit, runLength, hget, List.takeWhile_cons]
      simp only
      split
      · rw [ih (place + 1) hnext, List.length_cons]
      · rfl

theorem tryDown_of_some {first extra : Nat} {attempt : Nat → Option (Nat × Marks)}
    {found : Nat × Marks} (h : attempt (first + extra) = some found) :
    tryDown first attempt extra = some found := by
  cases extra with
  | zero => exact h
  | succ extra =>
      rw [tryDown, h]
      rfl

/-- A greedy repetition of a test takes all that it can if what follows accepts that. -/
theorem repeatTest_of_some {test : Char → Bool} {place : Nat} {marks : Marks} {rest : Rest}
    {found : Nat × Marks}
    (h : rest (place + ((line.drop place).takeWhile test).length) marks = some found) :
    repeatTest line.toArray .greedy 0 none test place marks rest = some found := by
  unfold repeatTest
  simp only [List.size_toArray, Option.map_none, Option.getD_none, runLength_eq, Nat.not_lt_zero,
    if_false, Nat.add_zero, Nat.sub_zero]
  exact tryDown_of_some h

def contentMarks (line : List Char) (start : Nat) (marks : Marks) : Marks :=
  (marks.setStart 1 start).setStop 1 line.length

theorem run_contentNode (hline : '\n' ∉ line) {place : Nat} (hplace : place ≤ line.length)
    (marks : Marks) :
    contentNode.run line.toArray {} place marks (fun reached marks => some (reached, marks)) =
      some (line.length, contentMarks line place marks) := by
  have hall : (line.drop place).takeWhile (fun c => false || c != '\n') = line.drop place := by
    have hkept : ∀ c ∈ line.drop place, (false || c != '\n') = true := by
      intro c hc
      rw [Bool.false_or, bne_iff_ne]
      rintro rfl
      exact hline (List.mem_of_mem_drop hc)
    have happend : (line.drop place ++ []).takeWhile (fun c => false || c != '\n') = _ :=
      List.takeWhile_append_of_pos hkept
    rwa [List.append_nil, List.takeWhile_nil, List.append_nil] at happend
  show repeatTest line.toArray .greedy 0 none (fun c => false || c != '\n') place
    (marks.setStart 1 place) (fun reached marks =>
      if Anchor.holds line.toArray {} reached .lineEnd then some (reached, marks.setStop 1 reached)
      else none) = _
  refine repeatTest_of_some ?_
  rw [hall, List.length_drop, Nat.add_sub_cancel' hplace]
  simp [Anchor.holds, contentMarks]

theorem run_blanksNode (hline : '\n' ∉ line) {place : Nat} (hplace : place ≤ line.length)
    (marks : Marks) :
    (Node.seq blanksNode contentNode).run line.toArray {} place marks
        (fun reached marks => some (reached, marks)) =
      some (line.length,
        contentMarks line (place + ((line.drop place).takeWhile Text.isBlank).length) marks) := by
  have htest : admitsSet {} false [.category false .space] = Text.isBlank := by
    funext c
    simp [admitsSet, SetItem.admits, inCategory]
  have hbound : ((line.drop place).takeWhile Text.isBlank).length ≤ line.length - place := by
    rw [← List.length_drop]
    exact (List.takeWhile_sublist _).length_le
  show repeatTest line.toArray .greedy 0 none (admitsSet {} false [.category false .space]) place
    marks (fun reached marks => contentNode.run line.toArray {} reached marks
      (fun reached marks => some (reached, marks))) = _
  rw [htest]
  exact repeatTest_of_some (run_contentNode hline (by omega) marks)

@[simp] theorem literalNode_cons (c : Char) (tag : List Char) :
    literalNode (c :: tag) = .seq (.code c.toNat) (literalNode tag) := by
  cases tag with
  | nil => rfl
  | cons d tag => rfl

theorem run_code (c : Char) (place : Nat) (marks : Marks) (rest : Rest) :
    (Node.code c.toNat).run line.toArray {} place marks rest =
      match line.drop place with
      | [] => none
      | d :: _ => if c == d then rest (place + 1) marks else none := by
  show matchTest line.toArray (admitsCode {} c.toNat) place marks rest = _
  rw [matchTest, List.getElem?_toArray, ← List.head?_drop]
  cases line.drop place with
  | nil => rfl
  | cons d tail =>
      have hadmits : admitsCode {} c.toNat d = (c == d) := by
        show (d.toNat == c.toNat) = (c == d)
        rw [Bool.eq_iff_iff, beq_iff_eq, beq_iff_eq, Char.toNat_inj, eq_comm]
      rw [List.head?_cons]
      simp only [hadmits]

theorem run_literalNode (hline : '\n' ∉ line) (tag : List Char) {place : Nat}
    (hplace : place ≤ line.length) (marks : Marks) :
    (literalNode tag).run line.toArray {} place marks (fun reached marks => some (reached, marks)) =
      if tag.isPrefixOf (line.drop place) then
        some (line.length, contentMarks line
          (place + tag.length + ((line.drop (place + tag.length)).takeWhile Text.isBlank).length)
          marks)
      else none := by
  induction tag generalizing place with
  | nil => exact run_blanksNode hline hplace marks
  | cons c tag ih =>
      rw [literalNode_cons]
      show (Node.code c.toNat).run line.toArray {} place marks (fun reached marks =>
        (literalNode tag).run line.toArray {} reached marks
          (fun reached marks => some (reached, marks))) = _
      rw [run_code]
      cases hdrop : line.drop place with
      | nil => rfl
      | cons d rest =>
          have hnext : line.drop (place + 1) = rest := by
            rw [← List.tail_drop, hdrop]
            rfl
          have hlt : place < line.length := by
            have hlength := congrArg List.length hdrop
            rw [List.length_drop, List.length_cons] at hlength
            omega
          rw [List.isPrefixOf, List.length_cons, Nat.add_comm tag.length, ← Nat.add_assoc]
          simp only [ih (Nat.succ_le_of_lt hlt), hnext]
          cases hhead : c == d with
          | true => rfl
          | false => rfl

end Matching

/-- What stands behind the first occurrence of a tag in a line. -/
def afterFirst? (tag : List Char) : List Char → Option (List Char)
  | [] => if tag.isEmpty then some [] else none
  | c :: rest =>
      if tag.isPrefixOf (c :: rest) then some ((c :: rest).drop tag.length)
      else afterFirst? tag rest

@[simp]
theorem afterFirst?_append (tag rest : List Char) : afterFirst? tag (tag ++ rest) = some rest := by
  cases htext : tag ++ rest with
  | nil =>
      obtain ⟨rfl, rfl⟩ := List.append_eq_nil_iff.1 htext
      rfl
  | cons c tail =>
      have hstarts : tag.isPrefixOf (c :: tail) = true := by
        rw [← htext]
        exact List.isPrefixOf_iff_prefix.2 (List.prefix_append _ _)
      rw [afterFirst?, if_pos hstarts, ← htext, List.drop_left]

theorem afterFirst?_nil_of_not_starts {tag : List Char} (h : ¬ tag <+: []) :
    afterFirst? tag [] = none := by
  cases tag with
  | nil => exact absurd List.prefix_rfl h
  | cons c tag => rfl

theorem afterFirst?_cons_of_not_starts {tag rest : List Char} {c : Char}
    (h : ¬ tag <+: c :: rest) : afterFirst? tag (c :: rest) = afterFirst? tag rest := by
  rw [afterFirst?, if_neg (mt List.isPrefixOf_iff_prefix.1 h)]

/-- An occurrence of a tag, no other one of which begins further left. -/
structure FirstOccurrence (tag line before rest : List Char) : Prop where
  eq_append : line = before ++ (tag ++ rest)
  leftmost : ∀ earlier later, line = earlier ++ (tag ++ later) → before.length ≤ earlier.length

theorem FirstOccurrence.before_eq_nil {tag before rest tail : List Char}
    (h : FirstOccurrence tag (tag ++ tail) before rest) : before = [] :=
  List.length_eq_zero_iff.1 (Nat.le_zero.1 (h.leftmost [] tail rfl))

theorem firstOccurrence_cons_iff {tag tail rest : List Char} {c : Char} (h : ¬ tag <+: c :: tail) :
    (∃ before, FirstOccurrence tag (c :: tail) before rest) ↔
      ∃ before, FirstOccurrence tag tail before rest := by
  constructor
  · rintro ⟨before, hline, hleftmost⟩
    cases before with
    | nil => exact absurd ⟨rest, hline.symm⟩ h
    | cons d before =>
        obtain ⟨rfl, htail⟩ := List.cons.inj hline
        refine ⟨before, htail, fun earlier later heq => ?_⟩
        have hlength := hleftmost (c :: earlier) later (by rw [heq]; rfl)
        rw [List.length_cons, List.length_cons] at hlength
        omega
  · rintro ⟨before, rfl, hleftmost⟩
    refine ⟨c :: before, rfl, fun earlier later heq => ?_⟩
    cases earlier with
    | nil => exact absurd ⟨later, heq.symm⟩ h
    | cons d earlier =>
        have hlength := hleftmost earlier later (List.cons.inj heq).2
        rw [List.length_cons, List.length_cons]
        omega

theorem afterFirst?_eq_some_iff_of_starts {tag line rest : List Char} (h : tag <+: line) :
    afterFirst? tag line = some rest ↔ ∃ before, FirstOccurrence tag line before rest := by
  obtain ⟨tail, rfl⟩ := h
  rw [afterFirst?_append, Option.some.injEq]
  constructor
  · rintro rfl
    exact ⟨[], rfl, fun _ _ _ => Nat.zero_le _⟩
  · rintro ⟨before, hfirst⟩
    have hline := hfirst.eq_append
    rw [hfirst.before_eq_nil] at hline
    exact List.append_cancel_left hline

theorem afterFirst?_eq_some_iff {tag line rest : List Char} :
    afterFirst? tag line = some rest ↔ ∃ before, FirstOccurrence tag line before rest := by
  induction line with
  | nil =>
      by_cases hstarts : tag <+: []
      · exact afterFirst?_eq_some_iff_of_starts hstarts
      · rw [afterFirst?_nil_of_not_starts hstarts]
        constructor
        · intro h
          cases h
        · rintro ⟨before, hline, _⟩
          have htag := (List.append_eq_nil_iff.1 (List.append_eq_nil_iff.1 hline.symm).2).1
          rw [htag] at hstarts
          exact absurd List.nil_prefix hstarts
  | cons c tail ih =>
      by_cases hstarts : tag <+: c :: tail
      · exact afterFirst?_eq_some_iff_of_starts hstarts
      · rw [afterFirst?_cons_of_not_starts hstarts, firstOccurrence_cons_iff hstarts, ih]

theorem afterFirst?_eq_none_iff {tag line : List Char} :
    afterFirst? tag line = none ↔ ¬ tag <:+: line := by
  induction line with
  | nil =>
      rw [List.infix_nil]
      cases tag with
      | nil => simp [afterFirst?]
      | cons c tag => simp [afterFirst?]
  | cons c tail ih =>
      rw [List.infix_cons_iff]
      by_cases hstarts : tag <+: c :: tail
      · rw [afterFirst?, if_pos (List.isPrefixOf_iff_prefix.2 hstarts)]
        simp [hstarts]
      · rw [afterFirst?_cons_of_not_starts hstarts, ih]
        simp [hstarts]

theorem groupStart?_contentMarks {line : List Char} {start : Nat} (h : start ≤ line.length)
    (place stop : Nat) :
    Match.groupStart? ⟨place, stop, contentMarks line start (Array.replicate 1 {})⟩ 1 =
      some start := by
  have hmarks : contentMarks line start (Array.replicate 1 {}) =
      #[⟨some start, some line.length⟩] := rfl
  rw [hmarks]
  simp [Match.groupStart?, Marks.get, Mark.span?, h]

theorem drop_length_takeWhile (test : Char → Bool) (text : List Char) :
    text.drop (text.takeWhile test).length = text.dropWhile test := by
  calc text.drop (text.takeWhile test).length
      = (text.takeWhile test ++ text.dropWhile test).drop (text.takeWhile test).length := by
        rw [List.takeWhile_append_dropWhile]
    _ = text.dropWhile test := List.drop_left

/-- The content that a match of a literal tag leaves: the rest of the line without the blanks behind
the tag. -/
theorem content_matchAt? {line : List Char} (hline : '\n' ∉ line) (tag : String) {place : Nat}
    (hplace : place ≤ line.length) :
    ((literalNode tag.toList).matchAt? {} 1 line.toArray place).map
        (TagPattern.content ⟨sourceOf tag true, {}, 1, literalNode tag.toList⟩ line) =
      if tag.toList.isPrefixOf (line.drop place) then
        some (Text.trimStart ((line.drop place).drop tag.toList.length))
      else none := by
  rw [Node.matchAt?, run_literalNode hline tag.toList hplace]
  by_cases hstarts : tag.toList.isPrefixOf (line.drop place) = true
  · rw [if_pos hstarts, if_pos hstarts]
    simp only [Option.map_some]
    have hbound : place + tag.toList.length +
        ((line.drop (place + tag.toList.length)).takeWhile Text.isBlank).length ≤ line.length := by
      have htag := (List.isPrefixOf_iff_prefix.1 hstarts).length_le
      have hblanks := (List.takeWhile_sublist Text.isBlank
        (l := line.drop (place + tag.toList.length))).length_le
      rw [List.length_drop] at htag hblanks
      omega
    rw [TagPattern.content, groupStart?_contentMarks hbound]
    show some (line.drop (_ + _)) = _
    rw [← List.drop_drop, drop_length_takeWhile, List.drop_drop, Text.trimStart]
  · rw [if_neg hstarts, if_neg hstarts]
    rfl

theorem content_searchFrom {line : List Char} (hline : '\n' ∉ line) (tag : String)
    {more place : Nat} (hplace : place + more = line.length) :
    ((literalNode tag.toList).searchFrom {} 1 line.toArray more place).map
        (TagPattern.content ⟨sourceOf tag true, {}, 1, literalNode tag.toList⟩ line) =
      (afterFirst? tag.toList (line.drop place)).map Text.trimStart := by
  -- `more` counts the places behind `place` that the search has not tried yet.
  induction more generalizing place with
  | zero =>
      rw [Node.searchFrom, content_matchAt? hline tag (by omega),
        List.drop_eq_nil_of_le (by omega : line.length ≤ place)]
      cases tag.toList with
      | nil => rfl
      | cons c tag => rfl
  | succ more ih =>
      have hmatch := content_matchAt? hline tag (show place ≤ line.length by omega)
      obtain ⟨c, hdrop⟩ : ∃ c, line.drop place = c :: line.drop (place + 1) :=
        ⟨line.get ⟨place, by omega⟩, List.drop_eq_getElem_cons (by omega)⟩
      rw [Node.searchFrom]
      by_cases hstarts : tag.toList <+: line.drop place
      · obtain ⟨tail, htail⟩ := hstarts
        rw [if_pos (List.isPrefixOf_iff_prefix.2 ⟨tail, htail⟩), ← htail, List.drop_left] at hmatch
        rw [← htail, afterFirst?_append]
        cases hfound : (literalNode tag.toList).matchAt? {} 1 line.toArray place with
        | none =>
            rw [hfound] at hmatch
            cases hmatch
        | some found =>
            rw [hfound] at hmatch
            exact hmatch
      · rw [if_neg (mt List.isPrefixOf_iff_prefix.1 hstarts), Option.map_eq_none_iff] at hmatch
        rw [hdrop] at hstarts
        rw [hmatch, hdrop, afterFirst?_cons_of_not_starts hstarts]
        exact ih (by omega)

/-- A literal tag is found in a line where it occurs first. -/
theorem findInLine?_literal {line : List Char} (hline : '\n' ∉ line) (tag : String)
    (offset : Nat) :
    TagPattern.findInLine? ⟨sourceOf tag true, {}, 1, literalNode tag.toList⟩ line offset =
      (afterFirst? tag.toList line).map fun rest => ⟨offset, Text.trimStart rest⟩ := by
  have hsearch := content_searchFrom hline tag (Nat.zero_add line.length)
  rw [List.drop_zero] at hsearch
  rw [TagPattern.findInLine?, search?, Node.search?, List.size_toArray]
  calc ((literalNode tag.toList).searchFrom {} 1 line.toArray line.length 0).map
        (fun found => (⟨offset, TagPattern.content _ line found⟩ : TagMatch))
      = (((literalNode tag.toList).searchFrom {} 1 line.toArray line.length 0).map
          (TagPattern.content _ line)).map (TagMatch.mk offset) := by rw [Option.map_map]; rfl
    _ = ((afterFirst? tag.toList line).map Text.trimStart).map (TagMatch.mk offset) := by
        rw [hsearch]
    _ = (afterFirst? tag.toList line).map fun rest => ⟨offset, Text.trimStart rest⟩ := by
        rw [Option.map_map]
        rfl

end JavadocTags.Pattern
