import JavadocTags.Pattern.Basic
import Mathlib.Data.List.Basic

/-!
# The ways in which a pattern matches

A pattern matches at a place in a list of ways, in the order in which they are tried: each has the
place that is reached and the marks that are left. The matcher takes the first way that what follows
accepts, so everything that all ways have in common holds of every match. A way never goes back and
never leaves the text, and it marks the groups of its pattern only.
-/
namespace JavadocTags.Pattern

/-- A way to match: the place reached and the marks left. -/
abbrev Way := Nat × Marks

/-- The first way that what follows accepts. -/
def firstAccepted (ways : List Way) (rest : Rest) : Option (Nat × Marks) :=
  ways.findSome? fun way => rest way.1 way.2

def charWays (text : Array Char) (test : Char → Bool) (place : Nat) (marks : Marks) : List Way :=
  match text[place]? with
  | some c => if test c then [(place + 1, marks)] else []
  | none => []

def testWays (text : Array Char) (mode : Mode) (least : Nat) (most : Option Nat)
    (test : Char → Bool) (place : Nat) (marks : Marks) : List Way :=
  let available := text.size - place
  let count := runLength text test ((most.map (min available)).getD available) place
  if count < least then []
  else
    let places := List.range' (place + least) (count - least + 1)
    match mode with
    | .greedy => places.reverse.map fun reached => (reached, marks)
    | .lazy => places.map fun reached => (reached, marks)
    | .possessive => [(place + count, marks)]

/-- The ways of a round that are tried: a possessive repetition keeps to the first. -/
def triedWays (mode : Mode) (ways : List Way) : List Way :=
  if mode = .possessive then ways.take 1 else ways

/-- The ways to repeat a pattern, given the ways of one round. -/
def roundWays (mode : Mode) (round : Nat → Marks → List Way) (least : Nat) (most : Option Nat) :
    (fuel count : Nat) → (last : Option Nat) → Nat → Marks → List Way
  | 0, _, _, _, _ => []
  | fuel + 1, count, last, place, marks =>
      let tried := triedWays mode (round place marks)
      let again (last : Option Nat) := tried.flatMap fun way =>
        roundWays mode round least most fuel (count + 1) last way.1 way.2
      if count < least then again last
      else if mayRepeat most count last place then
        match mode with
        | .greedy => again (some place) ++ [(place, marks)]
        | .lazy => (place, marks) :: again (some place)
        | .possessive => if tried.isEmpty then [(place, marks)] else again (some place)
      else [(place, marks)]

/-- The ways of a look around: where one is found it reads nothing. -/
def lookWays (negated : Bool) (found : Option Way) (place : Nat) (marks : Marks) : List Way :=
  match found with
  | some way => if negated then [] else [(place, way.2)]
  | none => if negated then [(place, marks)] else []

/-- The ways in which a pattern matches at a place, the preferred first. -/
def Node.ways (text : Array Char) : Node → Flags → Nat → Marks → List Way
  | .empty, _, place, marks => [(place, marks)]
  | .code n, flags, place, marks => charWays text (admitsCode flags n) place marks
  | .notCode n, flags, place, marks => charWays text (fun c => !admitsCode flags n c) place marks
  | .any, flags, place, marks => charWays text (fun c => flags.dotAll || c != '\n') place marks
  | .set negated items, flags, place, marks =>
      charWays text (admitsSet flags negated items) place marks
  | .anchor a, flags, place, marks => if a.holds text flags place then [(place, marks)] else []
  | .seq p q, flags, place, marks =>
      (p.ways text flags place marks).flatMap fun way => q.ways text flags way.1 way.2
  | .alt p q, flags, place, marks => p.ways text flags place marks ++ q.ways text flags place marks
  | .group none on off body, flags, place, marks => body.ways text (flags.within on off) place marks
  | .group (some index) on off body, flags, place, marks =>
      (body.ways text (flags.within on off) place (marks.setStart index place)).map fun way =>
        (way.1, way.2.setStop index way.1)
  | .atomic body, flags, place, marks => (body.ways text flags place marks).take 1
  | .repetition mode least most body, flags, place, marks =>
      match body.test? with
      | some test => testWays text mode least most (test flags) place marks
      | none =>
          roundWays mode (body.ways text flags) least most (least + (text.size - place) + 2) 0 none
            place marks
  | .backreference index, flags, place, marks =>
      match (marks.get index).span? with
      | some (start, stop) =>
          if sameText text flags (stop - start) start place then [(place + (stop - start), marks)]
          else []
      | none => []
  | .conditional index matched unmatched, flags, place, marks =>
      if (marks.get index).span?.isSome then matched.ways text flags place marks
      else unmatched.ways text flags place marks
  | .lookahead negated body, flags, place, marks =>
      lookWays negated (body.ways text flags place marks).head? place marks
  | .lookbehind negated width body, flags, place, marks =>
      lookWays negated
        (if place < width.least then none
        else (body.ways text flags (place - width.least) marks).head?) place marks

/-! ## The matcher takes the first way -/

section Matcher
variable {text : Array Char} {rest : Rest}

@[simp] theorem firstAccepted_singleton (place : Nat) (marks : Marks) (rest : Rest) :
    firstAccepted [(place, marks)] rest = rest place marks := by
  rw [firstAccepted, List.findSome?_singleton]

theorem findSome?_cons_eq_or {α β : Type} (f : α → Option β) (a : α) (rest : List α) :
    (a :: rest).findSome? f = (f a).or (rest.findSome? f) := by
  rw [List.findSome?_cons]
  cases f a <;> rfl

@[simp] theorem firstAccepted_append (ways more : List Way) (rest : Rest) :
    firstAccepted (ways ++ more) rest = (firstAccepted ways rest).or (firstAccepted more rest) :=
  List.findSome?_append

theorem firstAccepted_flatMap (ways : List Way) (next : Way → List Way) (rest : Rest) :
    firstAccepted (ways.flatMap next) rest =
      firstAccepted ways fun reached marks => firstAccepted (next (reached, marks)) rest := by
  induction ways with
  | nil => rfl
  | cons way others ih =>
      rw [List.flatMap_cons, firstAccepted_append, ih]
      exact (findSome?_cons_eq_or (fun way : Way => firstAccepted (next (way.1, way.2)) rest) way
        others).symm

/-- Without a condition on what follows, the first way is the answer. -/
@[simp] theorem firstAccepted_some (ways : List Way) :
    firstAccepted ways (fun reached marks => some (reached, marks)) = ways.head? := by
  cases ways <;> rfl

theorem tryDown_eq (first : Nat) (attempt : Nat → Option (Nat × Marks)) (extra : Nat) :
    tryDown first attempt extra =
      ((List.range' first (extra + 1)).reverse).findSome? attempt := by
  induction extra with
  | zero => simp [tryDown]
  | succ extra ih =>
      have hplaces : List.range' first (extra + 1 + 1) =
          List.range' first (extra + 1) ++ [first + (extra + 1)] := List.range'_1_concat
      rw [tryDown, ih, hplaces, List.reverse_append, List.reverse_singleton, List.singleton_append,
        findSome?_cons_eq_or]

theorem tryUp_eq (attempt : Nat → Option (Nat × Marks)) (first extra : Nat) :
    tryUp attempt first extra = (List.range' first (extra + 1)).findSome? attempt := by
  induction extra generalizing first with
  | zero => simp [tryUp]
  | succ extra ih =>
      have hplaces : List.range' first (extra + 1 + 1) =
          first :: List.range' (first + 1) (extra + 1) := List.range'_succ
      rw [tryUp, ih, hplaces, findSome?_cons_eq_or]

theorem matchTest_eq (test : Char → Bool) (place : Nat) (marks : Marks) (rest : Rest) :
    matchTest text test place marks rest =
      firstAccepted (charWays text test place marks) rest := by
  unfold matchTest charWays
  cases text[place]? with
  | none => rfl
  | some c =>
      simp only
      split
      next => rw [firstAccepted_singleton]
      next => rfl

theorem repeatTest_eq (mode : Mode) (least : Nat) (most : Option Nat) (test : Char → Bool)
    (place : Nat) (marks : Marks) (rest : Rest) :
    repeatTest text mode least most test place marks rest =
      firstAccepted (testWays text mode least most test place marks) rest := by
  unfold repeatTest testWays
  simp only
  split
  next => rfl
  next =>
    cases mode with
    | greedy => simp only [tryDown_eq, firstAccepted, List.findSome?_map]; rfl
    | lazy => simp only [tryUp_eq, firstAccepted, List.findSome?_map]; rfl
    | possessive => exact (firstAccepted_singleton _ _ _).symm

theorem firstAccepted_lookWays (negated : Bool) (found : Option Way) (place : Nat) (marks : Marks)
    (rest : Rest) :
    firstAccepted (lookWays negated found place marks) rest =
      match found with
      | some (_, inner) => if negated then none else rest place inner
      | none => if negated then rest place marks else none := by
  cases found <;> cases negated <;> simp [lookWays, firstAccepted]

section Rounds
variable {round : Matching} {ways : Nat → Marks → List Way}
  (hround : ∀ place marks rest, round place marks rest = firstAccepted (ways place marks) rest)

include hround

theorem repeatGreedy_eq (least : Nat) (most : Option Nat) (rest : Rest)
    (fuel count : Nat) (last : Option Nat) (place : Nat) (marks : Marks) :
    repeatGreedy round least most rest fuel count last place marks =
      firstAccepted (roundWays .greedy ways least most fuel count last place marks) rest := by
  induction fuel generalizing count last place marks with
  | zero => rfl
  | succ fuel ih =>
      simp only [repeatGreedy, roundWays, triedWays, hround, ih, reduceCtorEq, if_false]
      split
      next => rw [firstAccepted_flatMap]
      next =>
        split
        next => rw [firstAccepted_append, firstAccepted_flatMap, firstAccepted_singleton]
        next => rw [firstAccepted_singleton]

theorem repeatLazy_eq (least : Nat) (most : Option Nat) (rest : Rest)
    (fuel count : Nat) (last : Option Nat) (place : Nat) (marks : Marks) :
    repeatLazy round least most rest fuel count last place marks =
      firstAccepted (roundWays .lazy ways least most fuel count last place marks) rest := by
  induction fuel generalizing count last place marks with
  | zero => rfl
  | succ fuel ih =>
      simp only [repeatLazy, roundWays, triedWays, hround, ih, reduceCtorEq, if_false]
      split
      next => rw [firstAccepted_flatMap]
      next =>
        split
        next =>
          rw [← List.singleton_append, firstAccepted_append, firstAccepted_flatMap,
            firstAccepted_singleton]
        next => rw [firstAccepted_singleton, Option.or_none]

theorem repeatPossessive_eq (least : Nat) (most : Option Nat) (rest : Rest)
    (fuel count : Nat) (last : Option Nat) (place : Nat) (marks : Marks) :
    repeatPossessive round least most rest fuel count last place marks =
      firstAccepted (roundWays .possessive ways least most fuel count last place marks) rest := by
  induction fuel generalizing count last place marks with
  | zero => rfl
  | succ fuel ih =>
      simp only [repeatPossessive, roundWays, triedWays, hround, firstAccepted_some, ih, if_true]
      cases ways place marks with
      | nil =>
          split
          next => rfl
          next => split <;> simp [firstAccepted]
      | cons way others =>
          simp only [List.head?_cons, List.take_succ_cons, List.take_zero, List.flatMap_singleton]
          split
          next => rfl
          next => split <;> simp [firstAccepted]

end Rounds

/-- A pattern hands its ways to what follows, one after the other, until one is accepted. -/
theorem Node.run_eq (node : Node) (flags : Flags) (place : Nat) (marks : Marks) (rest : Rest) :
    node.run text flags place marks rest =
      firstAccepted (node.ways text flags place marks) rest := by
  induction node generalizing flags place marks rest with
  | empty => exact (firstAccepted_singleton place marks rest).symm
  | code n => exact matchTest_eq _ place marks rest
  | notCode n => exact matchTest_eq _ place marks rest
  | any => exact matchTest_eq _ place marks rest
  | set negated items => exact matchTest_eq _ place marks rest
  | anchor a =>
      simp only [Node.run, Node.ways]
      split
      next => rw [firstAccepted_singleton]
      next => rfl
  | seq p q ihp ihq => simp only [Node.run, Node.ways, firstAccepted_flatMap, ihp, ihq]
  | alt p q ihp ihq => simp only [Node.run, Node.ways, firstAccepted_append, ihp, ihq]
  | group index on off body ih =>
      cases index with
      | none => exact ih (flags.within on off) place marks rest
      | some index =>
          simp only [Node.run, Node.ways, ih, firstAccepted, List.findSome?_map]
          rfl
  | atomic body ih =>
      -- The body is run with nothing to follow, so its first way is taken, whatever comes later.
      simp only [Node.run, Node.ways, ih, firstAccepted_some]
      cases body.ways text flags place marks with
      | nil => rfl
      | cons way others => exact (firstAccepted_singleton way.1 way.2 rest).symm
  | repetition mode least most body ih =>
      simp only [Node.run, Node.ways]
      cases body.test? with
      | some test => exact repeatTest_eq mode least most (test flags) place marks rest
      | none =>
          have hround := ih flags
          cases mode with
          | greedy => exact repeatGreedy_eq hround least most rest _ 0 none place marks
          | lazy => exact repeatLazy_eq hround least most rest _ 0 none place marks
          | possessive => exact repeatPossessive_eq hround least most rest _ 0 none place marks
  | backreference index =>
      simp only [Node.run, Node.ways]
      cases (marks.get index).span? with
      | none => rfl
      | some span =>
          simp only
          split
          next => rw [firstAccepted_singleton]
          next => rfl
  | conditional index matched unmatched ihm ihu =>
      simp only [Node.run, Node.ways]
      split
      next => exact ihm flags place marks rest
      next => exact ihu flags place marks rest
  | lookahead negated body ih =>
      simp only [Node.run, Node.ways, ih, firstAccepted_some]
      exact (firstAccepted_lookWays negated _ place marks rest).symm
  | lookbehind negated width body ih =>
      simp only [Node.run, Node.ways, ih, firstAccepted_some]
      exact (firstAccepted_lookWays negated _ place marks rest).symm

end Matcher

/-! ## What all ways have in common -/

/-- The capturing groups of a pattern have numbers from one up to a limit. -/
def Node.GroupsBelow (limit : Nat) : Node → Prop
  | .seq p q => p.GroupsBelow limit ∧ q.GroupsBelow limit
  | .alt p q => p.GroupsBelow limit ∧ q.GroupsBelow limit
  | .group (some index) _ _ body => (0 < index ∧ index < limit) ∧ body.GroupsBelow limit
  | .group none _ _ body => body.GroupsBelow limit
  | .atomic body => body.GroupsBelow limit
  | .repetition _ _ _ body => body.GroupsBelow limit
  | .conditional _ matched unmatched => matched.GroupsBelow limit ∧ unmatched.GroupsBelow limit
  | .lookahead _ body => body.GroupsBelow limit
  | .lookbehind _ _ body => body.GroupsBelow limit
  | _ => True

/-- A way that goes forward inside the text and leaves the marks of groups from a limit on. -/
structure Reaches (text : Array Char) (limit place : Nat) (marks : Marks) (way : Way) : Prop where
  forward : place ≤ way.1
  inside : place ≤ text.size → way.1 ≤ text.size
  size_eq : way.2.size = marks.size
  kept : ∀ index, limit ≤ index → way.2.get index = marks.get index

section Common
variable {text : Array Char} {limit place : Nat} {marks : Marks} {way : Way}

theorem Reaches.refl (text : Array Char) (limit place : Nat) (marks : Marks) :
    Reaches text limit place marks (place, marks) :=
  ⟨Nat.le_refl _, id, rfl, fun _ _ => rfl⟩

theorem Reaches.trans {next : Way} (h : Reaches text limit place marks way)
    (hnext : Reaches text limit way.1 way.2 next) : Reaches text limit place marks next where
  forward := Nat.le_trans h.forward hnext.forward
  inside hplace := hnext.inside (h.inside hplace)
  size_eq := hnext.size_eq.trans h.size_eq
  kept index hindex := (hnext.kept index hindex).trans (h.kept index hindex)

/-- A look around leaves its marks and reads nothing. -/
theorem Reaches.look {start : Nat} (h : Reaches text limit start marks way) :
    Reaches text limit place marks (place, way.2) :=
  ⟨Nat.le_refl _, id, h.size_eq, h.kept⟩

theorem Marks.get_modify_of_ne (marks : Marks) {index other : Nat} (f : Mark → Mark)
    (h : index - 1 ≠ other - 1) :
    Marks.get (marks.modify (index - 1) f) other = marks.get other := by
  simp only [Marks.get, Array.getD_eq_getD_getElem?, Array.getElem?_modify, if_neg h]

theorem Marks.get_modify {index : Nat} (hindex : 0 < index ∧ index ≤ marks.size) (f : Mark → Mark) :
    Marks.get (marks.modify (index - 1) f) index = f (marks.get index) := by
  have hlt : index - 1 < marks.size := by omega
  simp only [Marks.get, Array.getD_eq_getD_getElem?, Array.getElem?_modify, if_true,
    Array.getElem?_eq_getElem hlt]
  rfl

@[simp] theorem Marks.get_replicate (groups index : Nat) :
    Marks.get (Array.replicate groups {}) index = {} := by
  simp only [Marks.get, Array.getD_eq_getD_getElem?, Array.getElem?_replicate]
  split <;> rfl

theorem Reaches.setStart {index : Nat} (hindex : 0 < index ∧ index < limit) :
    Reaches text limit place marks (place, marks.setStart index place) where
  forward := Nat.le_refl _
  inside := id
  size_eq := Array.size_modify
  kept other hother := Marks.get_modify_of_ne marks _ (by omega)

theorem Reaches.setStop {index : Nat} (hindex : 0 < index ∧ index < limit)
    (h : Reaches text limit place marks way) :
    Reaches text limit place marks (way.1, way.2.setStop index way.1) where
  forward := h.forward
  inside := h.inside
  size_eq := Array.size_modify.trans h.size_eq
  kept other hother :=
    (Marks.get_modify_of_ne way.2 _ (by omega)).trans (h.kept other hother)

theorem runLength_spec (text : Array Char) (test : Char → Bool) (limit place : Nat) :
    ∀ i, place ≤ i → i < place + runLength text test limit place →
      ∃ c, text[i]? = some c ∧ test c = true := by
  induction limit generalizing place with
  | zero =>
      intro i hle hlt
      rw [runLength] at hlt
      omega
  | succ limit ih =>
      intro i hle hlt
      rw [runLength] at hlt
      split at hlt
      next c hc =>
        split at hlt
        next htest =>
          by_cases hi : i = place
          · exact ⟨c, hi ▸ hc, htest⟩
          · exact ih (place + 1) i (by omega) (by omega)
        next => omega
      next => omega

theorem of_mem_testWays {mode : Mode} {least : Nat} {most : Option Nat} {test : Char → Bool}
    (h : way ∈ testWays text mode least most test place marks) :
    way.2 = marks ∧ place ≤ way.1 ∧
      ∀ i, place ≤ i → i < way.1 → ∃ c, text[i]? = some c ∧ test c = true := by
  have hrun := runLength_spec text test ((most.map (min (text.size - place))).getD
    (text.size - place)) place
  simp only [testWays] at h
  split at h
  next => cases h
  next hcount =>
    suffices hway : way.2 = marks ∧ place ≤ way.1 ∧ way.1 ≤ place + runLength text test
        ((most.map (min (text.size - place))).getD (text.size - place)) place by
      exact ⟨hway.1, hway.2.1, fun i hle hlt => hrun i hle (Nat.lt_of_lt_of_le hlt hway.2.2)⟩
    cases mode with
    | greedy =>
        obtain ⟨reached, hreached, rfl⟩ := List.mem_map.1 h
        have hrange := List.mem_range'_1.1 (List.mem_reverse.1 hreached)
        exact ⟨rfl, by simp only; omega, by simp only; omega⟩
    | lazy =>
        obtain ⟨reached, hreached, rfl⟩ := List.mem_map.1 h
        have hrange := List.mem_range'_1.1 hreached
        exact ⟨rfl, by simp only; omega, by simp only; omega⟩
    | possessive =>
        obtain rfl := List.mem_singleton.1 h
        exact ⟨rfl, Nat.le_add_right _ _, Nat.le_refl _⟩

/-- Places up to which all characters are found lie inside the text. -/
theorem le_size_of_forall {stop : Nat} (h : ∀ i, place ≤ i → i < stop → ∃ c, text[i]? = some c)
    (hplace : place ≤ text.size) : stop ≤ text.size := by
  by_contra hlt
  obtain ⟨c, hc⟩ := h text.size hplace (by omega)
  exact absurd (Array.getElem?_eq_none (Nat.le_refl _)) (by rw [hc]; exact nofun)

theorem reaches_of_mem_testWays {mode : Mode} {least : Nat} {most : Option Nat}
    {test : Char → Bool} (h : way ∈ testWays text mode least most test place marks) :
    Reaches text limit place marks way := by
  obtain ⟨hmarks, hforward, hread⟩ := of_mem_testWays h
  have hinside : place ≤ text.size → way.1 ≤ text.size := by
    refine le_size_of_forall fun i hle hlt => ?_
    obtain ⟨c, hc, -⟩ := hread i hle hlt
    exact ⟨c, hc⟩
  exact ⟨hforward, hinside, by rw [hmarks], fun _ _ => by rw [hmarks]⟩

theorem reaches_of_mem_charWays {test : Char → Bool}
    (h : way ∈ charWays text test place marks) : Reaches text limit place marks way := by
  unfold charWays at h
  split at h
  next c hc =>
    split at h
    next =>
      obtain rfl := List.mem_singleton.1 h
      refine ⟨Nat.le_succ place, fun _ => ?_, rfl, fun _ _ => rfl⟩
      exact (Array.getElem?_eq_some_iff.1 hc).1
    next => cases h
  next => cases h

theorem mem_of_mem_triedWays {mode : Mode} {ways : List Way} (h : way ∈ triedWays mode ways) :
    way ∈ ways := by
  unfold triedWays at h
  split at h
  next => exact List.mem_of_mem_take h
  next => exact h

/-- A repetition goes forward when its rounds do. -/
theorem reaches_of_mem_roundWays {mode : Mode} {round : Nat → Marks → List Way}
    (hround : ∀ place marks, ∀ way ∈ round place marks, Reaches text limit place marks way)
    {least : Nat} {most : Option Nat} {fuel count : Nat} {last : Option Nat}
    (h : way ∈ roundWays mode round least most fuel count last place marks) :
    Reaches text limit place marks way := by
  -- The fuel bounds the rounds; each goes on from where the one before it ended.
  induction fuel generalizing count last place marks with
  | zero => cases h
  | succ fuel ih =>
      have hagain {last : Option Nat} (h : way ∈ (triedWays mode (round place marks)).flatMap
          fun first => roundWays mode round least most fuel (count + 1) last first.1 first.2) :
          Reaches text limit place marks way := by
        obtain ⟨first, hfirst, hlater⟩ := List.mem_flatMap.1 h
        exact (hround place marks first (mem_of_mem_triedWays hfirst)).trans (ih hlater)
      have hhere (h : way = (place, marks)) : Reaches text limit place marks way :=
        h ▸ Reaches.refl text limit place marks
      simp only [roundWays] at h
      split at h
      next => exact hagain h
      next =>
        split at h
        next =>
          cases mode with
          | greedy =>
              exact (List.mem_append.1 h).elim hagain fun h => hhere (List.mem_singleton.1 h)
          | lazy => exact (List.mem_cons.1 h).elim hhere hagain
          | possessive =>
              simp only at h
              split at h
              next => exact hhere (List.mem_singleton.1 h)
              next => exact hagain h
        next => exact hhere (List.mem_singleton.1 h)

theorem le_size_of_sameText {flags : Flags} {length first second : Nat}
    (h : sameText text flags length first second = true) (hsecond : second ≤ text.size) :
    second + length ≤ text.size := by
  induction length generalizing first second with
  | zero => exact hsecond
  | succ length ih =>
      rw [sameText] at h
      split at h
      next a b ha hb =>
        have hlt := (Array.getElem?_eq_some_iff.1 hb).1
        have := ih (Bool.and_eq_true_iff.1 h).2 hlt
        omega
      next => cases h

theorem reaches_of_mem_lookWays {negated : Bool} {found : Option Way} (start : Nat)
    (hfound : ∀ inner ∈ found, Reaches text limit start marks inner)
    (h : way ∈ lookWays negated found place marks) : Reaches text limit place marks way := by
  unfold lookWays at h
  split at h
  next inner =>
    split at h
    next => cases h
    next => exact List.mem_singleton.1 h ▸ (hfound inner rfl).look
  next =>
    split at h
    next => exact List.mem_singleton.1 h ▸ Reaches.refl text limit place marks
    next => cases h

/-- Every way of a pattern goes forward inside the text and marks groups of the pattern only. -/
theorem Node.reaches_of_mem_ways {node : Node} (hgroups : node.GroupsBelow limit) {flags : Flags}
    (h : way ∈ node.ways text flags place marks) : Reaches text limit place marks way := by
  induction node generalizing flags place marks way with
  | empty => exact List.mem_singleton.1 h ▸ Reaches.refl text limit place marks
  | code n => exact reaches_of_mem_charWays h
  | notCode n => exact reaches_of_mem_charWays h
  | any => exact reaches_of_mem_charWays h
  | set negated items => exact reaches_of_mem_charWays h
  | anchor a =>
      simp only [Node.ways] at h
      split at h
      next => exact List.mem_singleton.1 h ▸ Reaches.refl text limit place marks
      next => cases h
  | seq p q ihp ihq =>
      obtain ⟨first, hfirst, hsecond⟩ := List.mem_flatMap.1 h
      exact (ihp hgroups.1 hfirst).trans (ihq hgroups.2 hsecond)
  | alt p q ihp ihq =>
      exact (List.mem_append.1 h).elim (ihp hgroups.1) (ihq hgroups.2)
  | group index on off body ih =>
      cases index with
      | none => exact ih hgroups h
      | some index =>
          obtain ⟨inner, hinner, rfl⟩ := List.mem_map.1 h
          exact (Reaches.setStart hgroups.1).trans ((ih hgroups.2 hinner).setStop hgroups.1)
  | atomic body ih => exact ih hgroups (List.mem_of_mem_take h)
  | repetition mode least most body ih =>
      simp only [Node.ways] at h
      split at h
      next => exact reaches_of_mem_testWays h
      next => exact reaches_of_mem_roundWays (fun _ _ _ => ih hgroups) h
  | backreference index =>
      simp only [Node.ways] at h
      split at h
      next start stop _ =>
        split at h
        next hsame =>
          obtain rfl := List.mem_singleton.1 h
          exact ⟨Nat.le_add_right _ _, le_size_of_sameText hsame, rfl, fun _ _ => rfl⟩
        next => cases h
      next => cases h
  | conditional index matched unmatched ihm ihu =>
      simp only [Node.ways] at h
      split at h
      next => exact ihm hgroups.1 h
      next => exact ihu hgroups.2 h
  | lookahead negated body ih =>
      exact reaches_of_mem_lookWays place (fun inner hinner =>
        ih hgroups (List.mem_of_mem_head? hinner)) h
  | lookbehind negated width body ih =>
      simp only [Node.ways] at h
      refine reaches_of_mem_lookWays (place - width.least) (fun inner hinner => ?_) h
      split at hinner
      next => cases hinner
      next => exact ih hgroups (List.mem_of_mem_head? hinner)

end Common

/-! ## Sequences and alternations -/

section Built
variable {text : Array Char} {flags : Flags} {place : Nat} {marks : Marks} {way : Way}

theorem mem_ways_alternation {nodes : List Node} (hnodes : nodes ≠ []) :
    way ∈ (Node.alternation nodes).ways text flags place marks ↔
      ∃ p ∈ nodes, way ∈ p.ways text flags place marks := by
  induction nodes with
  | nil => exact absurd rfl hnodes
  | cons p rest ih =>
      cases rest with
      | nil => simp [Node.alternation]
      | cons q rest =>
          have hrest := ih (List.cons_ne_nil q rest)
          show way ∈ p.ways text flags place marks ++
            (Node.alternation (q :: rest)).ways text flags place marks ↔ _
          rw [List.mem_append, hrest]
          simp only [List.mem_cons, exists_eq_or_imp]

/-- The ways of a sequence go on from where those of its first part end. -/
theorem ways_sequence_append (items : List Node) {more : List Node} (hmore : more ≠ []) :
    (Node.sequence (items ++ more)).ways text flags place marks =
      ((Node.sequence items).ways text flags place marks).flatMap fun way =>
        (Node.sequence more).ways text flags way.1 way.2 := by
  induction items generalizing place marks with
  | nil => exact (List.flatMap_singleton _ _).symm
  | cons p rest ih =>
      cases rest with
      | nil =>
          cases more with
          | nil => exact absurd rfl hmore
          | cons r more => rfl
      | cons q rest =>
          show (p.ways text flags place marks).flatMap (fun way =>
              (Node.sequence (q :: rest ++ more)).ways text flags way.1 way.2) =
            ((p.ways text flags place marks).flatMap fun way =>
              (Node.sequence (q :: rest)).ways text flags way.1 way.2).flatMap _
          simp only [List.flatMap_assoc, ih]

end Built

/-! ## Searching -/

section Search
variable {node : Node} {flags : Flags} {groups : Nat} {text : Array Char} {found : Match}

/-- A match at a place goes the first way. -/
theorem Node.of_matchAt?_eq_some {place : Nat}
    (h : node.matchAt? flags groups text place = some found) :
    found.start = place ∧
      (found.stop, found.marks) ∈ node.ways text flags place (Array.replicate groups {}) := by
  obtain ⟨way, hway, rfl⟩ := Option.map_eq_some_iff.1 h
  rw [Node.run_eq, firstAccepted_some] at hway
  exact ⟨rfl, List.mem_of_mem_head? hway⟩

theorem Node.of_searchFrom_eq_some {more place : Nat}
    (h : node.searchFrom flags groups text more place = some found) :
    node.matchAt? flags groups text found.start = some found ∧
      place ≤ found.start ∧ found.start ≤ place + more ∧
      ∀ earlier, place ≤ earlier → earlier < found.start →
        node.matchAt? flags groups text earlier = none := by
  have hhere {place : Nat} (h : node.matchAt? flags groups text place = some found) :
      node.matchAt? flags groups text found.start = some found ∧ found.start = place := by
    have hstart := (Node.of_matchAt?_eq_some h).1
    exact ⟨hstart ▸ h, hstart⟩
  induction more generalizing place with
  | zero =>
      obtain ⟨hfound, rfl⟩ := hhere h
      exact ⟨hfound, Nat.le_refl _, Nat.le_refl _, fun earlier hle hlt => by omega⟩
  | succ more ih =>
      rw [Node.searchFrom] at h
      split at h
      next hmatch =>
        cases h
        obtain ⟨hfound, rfl⟩ := hhere hmatch
        exact ⟨hfound, Nat.le_refl _, Nat.le_add_right _ _, fun earlier hle hlt => by omega⟩
      next hnone =>
        obtain ⟨hfound, hle, hlast, hearlier⟩ := ih h
        refine ⟨hfound, by omega, by omega, fun earlier hplace hlt => ?_⟩
        by_cases heq : earlier = place
        · exact heq ▸ hnone
        · exact hearlier earlier (by omega) hlt

theorem Node.of_searchFrom_eq_none {more place : Nat}
    (h : node.searchFrom flags groups text more place = none) :
    ∀ i, place ≤ i → i ≤ place + more → node.matchAt? flags groups text i = none := by
  induction more generalizing place with
  | zero =>
      intro i hle hlast
      obtain rfl : i = place := by omega
      exact h
  | succ more ih =>
      intro i hle hlast
      rw [Node.searchFrom] at h
      split at h
      next => cases h
      next hnone =>
        by_cases heq : i = place
        · exact heq ▸ hnone
        · exact ih h i (by omega) (by omega)

end Search

end JavadocTags.Pattern
