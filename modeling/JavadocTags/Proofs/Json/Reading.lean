import JavadocTags.Json.Reader
import JavadocTags.Proofs.Outcome

/-!
# Reading JSON

Whatever is read of a JSON text leaves less of it. The turns that the reader is given are therefore
enough for every text, however deep its lists and objects lie in one another.
-/
namespace JavadocTags.Json

variable {text rest after : List Char} {fuel : Nat}

theorem of_orMalformed_eq_ok {α : Type} {a? : Option α} {a : α} (h : orMalformed a? = .ok a) :
    a? = some a := by
  cases a? with
  | none => cases h
  | some b => exact congrArg some (Except.ok.inj h)

/-! ## Parts of values -/

theorem length_skipSpace_le (text : List Char) : (skipSpace text).length ≤ text.length :=
  (List.dropWhile_sublist _).length_le

theorem length_lt_of_readUnit? {n : Nat} (h : readUnit? text = some (n, rest)) :
    rest.length < text.length := by
  unfold readUnit? at h
  split at h
  · split at h
    · cases h
      simp only [List.length_cons]
      omega
    · cases h
  · cases h

theorem length_lt_of_readEscapedUnit? {c : Char} (h : readEscapedUnit? text = some (c, rest)) :
    rest.length < text.length := by
  unfold readEscapedUnit? at h
  obtain ⟨⟨high, other⟩, hhigh, h⟩ := Option.bind_eq_some_iff.1 h
  have hother := length_lt_of_readUnit? hhigh
  have hrest {d : Char} {left : List Char} (h : some (d, left) = some (c, rest)) : left = rest :=
    (Prod.mk.inj (Option.some.inj h)).2
  dsimp only at h
  split at h
  · split at h
    · split at h
      next pair =>
        have hpair := length_lt_of_readUnit? pair
        simp only [List.length_cons] at hother
        split at h
        · rw [← hrest h]
          omega
        · rw [← hrest h]
          simp only [List.length_cons]
          omega
      next => exact hrest h ▸ hother
    · exact hrest h ▸ hother
  · split at h <;> exact hrest h ▸ hother

theorem length_lt_of_readString? {done : List Char} {s : String}
    (h : readString? fuel done text = some (s, after)) : after.length < text.length := by
  fun_induction readString? fuel done text with
  | case1 | case2 | case5 | case7 | case8 | case9 => cases h
  | case3 fuel done rest =>
      rw [← (Prod.mk.inj (Option.some.inj h)).2]
      exact Nat.lt_succ_self _
  | case4 fuel done escape u rest hescape _ ih =>
      have hlt := length_lt_of_readEscapedUnit? hescape
      have hstring := ih h
      simp only [List.length_cons]
      omega
  | case6 fuel done e rest _ u _ _ ih =>
      have hstring := ih h
      simp only [List.length_cons]
      omega
  | case10 fuel done c rest _ _ _ ih =>
      have hstring := ih h
      simp only [List.length_cons]
      omega

theorem length_dropWhile_lt {test : Char → Bool} (h : text.takeWhile test ≠ []) :
    (text.dropWhile test).length < text.length := by
  have hsplit := congrArg List.length (List.takeWhile_append_dropWhile (p := test) (l := text))
  rw [List.length_append] at hsplit
  have hpos := List.length_pos_iff.2 h
  omega

theorem length_lt_of_readWhole? {whole : List Char} (h : readWhole? text = some (whole, rest)) :
    rest.length < text.length := by
  unfold readWhole? at h
  split at h
  · rw [← (Prod.mk.inj (Option.some.inj h)).2]
    exact Nat.lt_succ_self _
  · split at h
    next => cases h
    next hdigits =>
      rw [← (Prod.mk.inj (Option.some.inj h)).2]
      exact length_dropWhile_lt hdigits

theorem length_readFraction_le (text : List Char) : (readFraction text).2.length ≤ text.length := by
  unfold readFraction
  split
  · split
    next => exact Nat.le_refl _
    next hdigits => exact Nat.le_succ_of_le (Nat.le_of_lt (length_dropWhile_lt hdigits))
  · exact Nat.le_refl _

theorem length_readExponent_le (text : List Char) : (readExponent text).2.length ≤ text.length := by
  unfold readExponent
  split
  next e rest =>
    split
    · dsimp only
      split
      next => exact Nat.le_refl _
      next digits hdigits =>
        refine Nat.le_succ_of_le (Nat.le_trans (Nat.le_of_lt (length_dropWhile_lt hdigits)) ?_)
        split
        next => exact Nat.le_succ _
        next => exact Nat.le_succ _
        next => exact Nat.le_refl _
    · exact Nat.le_refl _
  · exact Nat.le_refl _

theorem length_lt_of_readUnsigned {negative : Bool} {number : Value}
    (h : readUnsigned negative text = .ok (number, rest)) : rest.length < text.length := by
  obtain ⟨⟨whole, afterWhole⟩, hwhole, h⟩ := exists_of_bind_eq_ok h
  obtain ⟨_, _, h⟩ := exists_of_bind_eq_ok h
  have hrest : (readExponent (readFraction afterWhole).2).2 = rest :=
    (Prod.mk.inj (Except.ok.inj h)).2
  have hlt := length_lt_of_readWhole? (of_orMalformed_eq_ok hwhole)
  have hfraction := length_readFraction_le afterWhole
  have hexponent := length_readExponent_le (readFraction afterWhole).2
  rw [← hrest]
  omega

theorem length_lt_of_readNumber {number : Value} (h : readNumber text = .ok (number, rest)) :
    rest.length < text.length := by
  unfold readNumber at h
  split at h
  next digits =>
    have hlt := length_lt_of_readUnsigned h
    simp only [List.length_cons]
    omega
  next => exact length_lt_of_readUnsigned h

theorem length_lt_of_readWord? {value : Value} (h : readWord? text = some (value, rest)) :
    rest.length < text.length := by
  obtain ⟨⟨word, value⟩, hmem, hword⟩ := List.exists_of_findSome?_eq_some h
  dsimp only at hword
  split at hword
  next hprefix =>
    have hwords : ∀ word ∈ words, 0 < word.1.length := by decide
    have hpos : 0 < word.length := hwords _ hmem
    have hle := (List.isPrefixOf_iff_prefix.1 hprefix).length_le
    rw [← (Prod.mk.inj (Option.some.inj hword)).2, List.length_drop]
    omega
  next => cases hword

/-! ## What is left -/

/-- What is read in so many turns of a value, of the items of a list or of the members of an object
leaves less of the text. -/
structure Shortens (fuel : Nat) : Prop where
  value {text after : List Char} {value : Value} :
    readValue fuel text = .ok (value, after) → after.length < text.length
  items {text after : List Char} {items : List Value} :
    readItems fuel text = .ok (items, after) → after.length < text.length
  members {text after : List Char} {members : List (String × Value)} :
    readMembers fuel text = .ok (members, after) → after.length < text.length

theorem length_lt_of_skipSpace {c : Char} (h : skipSpace text = c :: rest) :
    rest.length < text.length := by
  have hle := length_skipSpace_le text
  rwa [h, List.length_cons] at hle

theorem length_skipSpace_lt {c : Char} (h : skipSpace text = c :: rest) :
    (skipSpace rest).length < text.length :=
  Nat.lt_of_le_of_lt (length_skipSpace_le rest) (length_lt_of_skipSpace h)

theorem Shortens.value_succ (h : Shortens fuel) {value : Value}
    (hread : readValue (fuel + 1) text = .ok (value, after)) : after.length < text.length := by
  rw [readValue.eq_def] at hread
  dsimp only at hread
  split at hread
  next rest =>
    obtain ⟨⟨s, left⟩, hs, hread⟩ := exists_of_bind_eq_ok hread
    cases hread
    exact Nat.lt_succ_of_lt (length_lt_of_readString? (of_orMalformed_eq_ok hs))
  next rest =>
    split at hread
    next left hleft =>
      cases hread
      exact Nat.lt_succ_of_lt (length_lt_of_skipSpace hleft)
    next =>
      obtain ⟨⟨items, left⟩, hitems, hread⟩ := exists_of_bind_eq_ok hread
      cases hread
      exact Nat.lt_succ_of_lt (Nat.lt_of_lt_of_le (h.items hitems) (length_skipSpace_le rest))
  next rest =>
    split at hread
    next left hleft =>
      cases hread
      exact Nat.lt_succ_of_lt (length_lt_of_skipSpace hleft)
    next =>
      obtain ⟨⟨members, left⟩, hmembers, hread⟩ := exists_of_bind_eq_ok hread
      cases hread
      exact Nat.lt_succ_of_lt (Nat.lt_of_lt_of_le (h.members hmembers) (length_skipSpace_le rest))
  next =>
    split at hread
    next word hword =>
      cases hread
      exact length_lt_of_readWord? hword
    next => exact length_lt_of_readNumber hread

theorem Shortens.items_succ (h : Shortens fuel) {items : List Value}
    (hread : readItems (fuel + 1) text = .ok (items, after)) : after.length < text.length := by
  rw [readItems] at hread
  obtain ⟨⟨item, afterItem⟩, hitem, hread⟩ := exists_of_bind_eq_ok hread
  have hlt := h.value hitem
  dsimp only at hread
  split at hread
  next rest hrest =>
    cases hread
    exact Nat.lt_trans (length_lt_of_skipSpace hrest) hlt
  next rest hrest =>
    obtain ⟨⟨others, left⟩, hothers, hread⟩ := exists_of_bind_eq_ok hread
    cases hread
    have hleft : left.length < (skipSpace rest).length := h.items hothers
    have hcomma := length_skipSpace_lt hrest
    dsimp only
    omega
  next => cases hread

theorem Shortens.members_succ (h : Shortens fuel) {members : List (String × Value)}
    (hread : readMembers (fuel + 1) text = .ok (members, after)) : after.length < text.length := by
  rw [readMembers.eq_def] at hread
  dsimp only at hread
  split at hread
  next keyStart =>
    obtain ⟨⟨key, afterKey⟩, hkey, hread⟩ := exists_of_bind_eq_ok hread
    have hafterKey := length_lt_of_readString? (of_orMalformed_eq_ok hkey)
    dsimp only at hread
    split at hread
    next valueStart hcolon =>
      obtain ⟨⟨value, afterValue⟩, hvalue, hread⟩ := exists_of_bind_eq_ok hread
      have hlt := h.value hvalue
      have hstart := length_skipSpace_lt hcolon
      dsimp only at hread
      rw [List.length_cons]
      split at hread
      next rest hrest =>
        cases hread
        have hend := length_lt_of_skipSpace hrest
        omega
      next rest hrest =>
        obtain ⟨⟨others, left⟩, hothers, hread⟩ := exists_of_bind_eq_ok hread
        cases hread
        have hleft : left.length < (skipSpace rest).length := h.members hothers
        have hcomma := length_skipSpace_lt hrest
        dsimp only
        omega
      next => cases hread
    next => cases hread
  next => cases hread

theorem shortens (fuel : Nat) : Shortens fuel := by
  induction fuel with
  | zero => exact ⟨nofun, nofun, nofun⟩
  | succ fuel ih => exact ⟨ih.value_succ, ih.items_succ, ih.members_succ⟩

/-! ## The number of turns -/

theorem readValue_congr {more : Nat}
    (hitems : ∀ start : List Char, start.length < text.length →
      readItems fuel start = readItems more start)
    (hmembers : ∀ start : List Char, start.length < text.length →
      readMembers fuel start = readMembers more start) :
    readValue (fuel + 1) text = readValue (more + 1) text := by
  rw [readValue.eq_def, readValue.eq_def]
  dsimp only
  split
  next => rfl
  next rest =>
    have hstart := Nat.lt_succ_of_le (length_skipSpace_le rest)
    split
    next => rfl
    next => rw [hitems _ hstart]
  next rest =>
    have hstart := Nat.lt_succ_of_le (length_skipSpace_le rest)
    split
    next => rfl
    next => rw [hmembers _ hstart]
  next => rfl

theorem readItems_congr {more : Nat} (hvalue : readValue fuel text = readValue more text)
    (hitems : ∀ start : List Char, start.length < text.length →
      readItems fuel start = readItems more start) :
    readItems (fuel + 1) text = readItems (more + 1) text := by
  rw [readItems, readItems, ← hvalue]
  refine bind_congr_of_ok fun ⟨item, afterItem⟩ hread => ?_
  have hlt := (shortens fuel).value hread
  dsimp only
  split
  next => rfl
  next rest hrest =>
    have hcomma := length_skipSpace_lt hrest
    rw [hitems _ (by omega)]
  next => rfl

theorem readMembers_congr {more : Nat}
    (hvalue : ∀ start : List Char, start.length < text.length →
      readValue fuel start = readValue more start)
    (hmembers : ∀ start : List Char, start.length < text.length →
      readMembers fuel start = readMembers more start) :
    readMembers (fuel + 1) text = readMembers (more + 1) text := by
  rw [readMembers.eq_def, readMembers.eq_def]
  dsimp only
  split
  next keyStart =>
    refine bind_congr_of_ok fun ⟨key, afterKey⟩ hkey => ?_
    have hafterKey := length_lt_of_readString? (of_orMalformed_eq_ok hkey)
    dsimp only
    split
    next valueStart hcolon =>
      have hstart := length_skipSpace_lt hcolon
      rw [List.length_cons] at hvalue hmembers
      rw [← hvalue _ (by omega)]
      refine bind_congr_of_ok fun ⟨value, afterValue⟩ hread => ?_
      have hlt := (shortens fuel).value hread
      dsimp only
      split
      next => rfl
      next rest hrest =>
        have hcomma := length_skipSpace_lt hrest
        rw [hmembers _ (by omega)]
      next => rfl
    next => rfl
  next => rfl

/-- Two turns for each character are enough: any further turns make no difference. -/
theorem read_turns (fuel : Nat) :
    (∀ {text : List Char} {more : Nat}, 2 * text.length < fuel → 2 * text.length < more →
      readValue fuel text = readValue more text) ∧
    (∀ {text : List Char} {more : Nat}, 2 * text.length + 1 < fuel → 2 * text.length + 1 < more →
      readItems fuel text = readItems more text) ∧
    (∀ {text : List Char} {more : Nat}, 2 * text.length < fuel → 2 * text.length < more →
      readMembers fuel text = readMembers more text) := by
  induction fuel with
  | zero => exact ⟨nofun, nofun, nofun⟩
  | succ fuel ih =>
      obtain ⟨ihvalue, ihitems, ihmembers⟩ := ih
      refine ⟨fun {text more} h hmore => ?_, fun {text more} h hmore => ?_,
        fun {text more} h hmore => ?_⟩
      · cases more with
        | zero => cases hmore
        | succ more =>
            exact readValue_congr (fun start hstart => ihitems (by omega) (by omega))
              fun start hstart => ihmembers (by omega) (by omega)
      · cases more with
        | zero => cases hmore
        | succ more =>
            exact readItems_congr (ihvalue (by omega) (by omega))
              fun start hstart => ihitems (by omega) (by omega)
      · cases more with
        | zero => cases hmore
        | succ more =>
            exact readMembers_congr (fun start hstart => ihvalue (by omega) (by omega))
              fun start hstart => ihmembers (by omega) (by omega)

end JavadocTags.Json
