import JavadocTags.Proofs.Pattern.RegularSteps

/-!
# The limits of patterns

Reading a pattern fails for a fault, with two exceptions: a number of a quantifier in braces is too
large, or the options for ASCII and for Unicode classes are both on. The first is found at the
closing brace of the quantifier, the second at a closing parenthesis without an opening one or at
the end. From this the patterns beyond the limits are described by their texts.
-/
namespace JavadocTags.Pattern

/-! ## The end of a quantifier -/

/-- A number of a quantifier in braces is too large. An absent number counts as zero. -/
def TooMany (least most : List Char) : Prop :=
  repetitionLimit ≤ Number.ofDigits 10 least ∨ repetitionLimit ≤ Number.ofDigits 10 most

instance (least most : List Char) : Decidable (TooMany least most) :=
  inferInstanceAs (Decidable (_ ∨ _))

/-- A quantifier with a number that is too large has a number, so that a closing brace ends it. -/
theorem TooMany.continuesBraces {least most : List Char} {comma : Bool} {x : Lexeme}
    (h : TooMany least (if comma then most else least)) (hx : x.isChar '}' = true) :
    continuesBraces least comma x = true := by
  have hnumber : (least.isEmpty && !comma) = false := by
    cases comma with
    | true => simp
    | false =>
        cases least with
        | nil => exact absurd (show TooMany [] [] from h) (by decide)
        | cons c least => rfl
  rw [x.eq_of_isChar hx]
  simp [Pattern.continuesBraces, hnumber]

theorem finishBraces_eq_repetitionTooLarge_iff {s : ReaderState} {place : Nat}
    {least most : List Char} {comma : Bool} :
    finishBraces s place least comma most = .error .repetitionTooLarge ↔
      TooMany least (if comma then most else least) := by
  unfold finishBraces TooMany
  generalize (if comma then most else least) = greatest
  simp only
  split
  next hleast => simp [hleast]
  next hleast =>
    rw [or_iff_right hleast]
    split
    next hempty =>
      rw [List.isEmpty_iff.1 hempty]
      exact iff_of_false (quantify_regular _ _ _).ne_repetitionTooLarge (by decide)
    next =>
      split
      next hmost => simp [hmost]
      next hmost =>
        refine iff_of_false ?_ hmost
        split
        next => exact (Regular.refuse (P := fun _ => True) _ _).ne_repetitionTooLarge
        next => exact (quantify_regular _ _ _).ne_repetitionTooLarge

theorem finishBraces_ne_asciiAndUnicode {s : ReaderState} {place : Nat} {least most : List Char}
    {comma : Bool} : finishBraces s place least comma most ≠ .error .asciiAndUnicode := by
  have hquantify (most : Option Nat) :
      quantify s place (Number.ofDigits 10 least) most ≠ .error .asciiAndUnicode :=
    (quantify_regular _ _ _).ne_asciiAndUnicode
  unfold finishBraces
  generalize (if comma then most else least) = greatest
  intro h
  simp only at h
  split at h
  next => cases h
  next =>
    split at h
    next => exact hquantify _ h
    next =>
      split at h
      next => cases h
      next => split at h <;> [cases h; exact hquantify _ h]

section Step
variable {s t : ReaderState} {x : Lexeme} {place : Nat} {least most : List Char} {comma : Bool}

/-- The reader is in a quantifier in braces that a lexeme goes on with. -/
def GoesOn (s : ReaderState) (x : Lexeme) : Prop :=
  ∃ place least comma most, s.stage = .braces place least comma most ∧
    continuesBraces least comma x = true

theorem settle_regular_of_not_goesOn (h : ¬ GoesOn s x) :
    Regular ReaderState.OutsideBraces (settle s x) :=
  settle_regular fun place least comma most hstage =>
    Bool.eq_false_iff.2 fun hgoes => h ⟨place, least, comma, most, hstage, hgoes⟩

theorem checkItem_ne_repetitionTooLarge : checkItem s x ≠ .error .repetitionTooLarge := by
  unfold checkItem
  intro h
  split at h
  · split at h
    · split at h <;> cases h
    · cases h
  · split at h <;> cases h
  · cases h

/-- Only a closing parenthesis that no parenthesis opens is met with both options on. -/
theorem checkItem_eq_asciiAndUnicode_iff :
    checkItem s x = .error .asciiAndUnicode ↔
      s.stage = .items ∧ s.frame.opening = .whole ∧ x.isChar ')' = true ∧
        (s.flags.ascii && s.flags.unicode) = true := by
  unfold checkItem
  split
  next hstage hopening =>
    simp only [hstage, hopening, true_and]
    split
    next hclosing =>
      simp only [hclosing, true_and]
      split
      next hflags => simp [hflags]
      next hflags => simp [hflags, refuse]
    next hclosing => simp [hclosing]
  next hopening =>
    refine iff_of_false ?_ fun h => by simp [hopening] at h
    split <;> simp [refuse]
  next hother _ => exact iff_of_false nofun fun h => hother h.1 h.2.1

theorem settle_ne_limit {s : ReaderState} {x : Lexeme} :
    settle s x ≠ .error .repetitionTooLarge ∧ settle s x ≠ .error .asciiAndUnicode := by
  by_cases hgoes : GoesOn s x
  · obtain ⟨place, least, comma, most, hstage, hgoes⟩ := hgoes
    have hsettle : settle s x = .ok s := by simp [settle, hstage, hgoes]
    rw [hsettle]
    exact (Regular.ok (P := fun _ => True) trivial).ne_limit
  · exact (settle_regular_of_not_goesOn hgoes).ne_limit

variable [Unicode.CharacterNames]

/-- A lexeme that cannot follow what stands before it is not read. -/
theorem step_of_not_following {e : CompileError}
    (h : (settle s x >>= fun t => checkItem t x) = .error e) : step s x = .error e := by
  rcases of_bind_eq_error h with h | ⟨t, ht, h⟩
  · rw [step, h]
    rfl
  · rw [step, ht]
    exact congrArg (· >>= fun _ => take t x) h

/-- Within a quantifier the lexeme that goes on with it is read right away. -/
theorem step_of_goesOn (hstage : s.stage = .braces place least comma most)
    (hgoes : continuesBraces least comma x = true) : step s x = take s x := by
  have hsettle : settle s x = .ok s := by simp [settle, hstage, hgoes]
  have hcheck : checkItem s x = .ok () := by simp [checkItem, hstage]
  rw [step, hsettle]
  change (checkItem s x >>= fun _ => take s x) = take s x
  rw [hcheck]
  rfl

theorem take_ne_limit (hs : s.OutsideBraces) :
    take s x ≠ .error .repetitionTooLarge ∧ take s x ≠ .error .asciiAndUnicode := by
  by_cases hopening : s.stage = .items ∧ x.isChar '{' = true
  · have htake : take s x = takeItem s x := by simp [take, hopening.1]
    rw [htake, takeItem_brace hopening.2]
    exact (Regular.ok (P := fun _ => True) trivial).ne_limit
  · have hregular := take_regular (x := x) hs fun hitems =>
      Bool.eq_false_iff.2 fun hx => hopening ⟨hitems, hx⟩
    exact hregular.ne_limit

/-- A number is found too large at the closing brace of its quantifier. -/
theorem step_eq_repetitionTooLarge_iff :
    step s x = .error .repetitionTooLarge ↔
      ∃ place least comma most, s.stage = .braces place least comma most ∧
        x.isChar '}' = true ∧ TooMany least (if comma then most else least) := by
  by_cases hgoes : GoesOn s x
  · obtain ⟨place, least, comma, most, hstage, hgoes⟩ := hgoes
    rw [step_of_goesOn hstage hgoes]
    have hescaped : x.escaped = false := by
      simp only [continuesBraces, Bool.and_eq_true, Bool.not_eq_true'] at hgoes
      exact hgoes.1
    by_cases hend : x.char = '}'
    · have hx : x.isChar '}' = true := by simp [Lexeme.isChar, hescaped, hend]
      rw [show take s x = finishBraces s place least comma most by simp [take, hstage, hend],
        finishBraces_eq_repetitionTooLarge_iff]
      refine ⟨fun htoo => ⟨place, least, comma, most, hstage, hx, htoo⟩, ?_⟩
      rintro ⟨_, _, _, _, hstage', -, htoo⟩
      rw [hstage] at hstage'
      cases hstage'
      exact htoo
    · have hx : x.isChar '}' = false := by simp [Lexeme.isChar, hend]
      refine iff_of_false (fun h => ?_) (by simp [hx])
      simp only [take, hstage, hend, if_false] at h
      split at h <;> [cases h; split at h <;> cases h]
  · have hsettle := settle_regular_of_not_goesOn hgoes
    refine iff_of_false (fun h => ?_) ?_
    · rcases of_bind_eq_error h with h | ⟨t, ht, h⟩
      · exact hsettle.ne_repetitionTooLarge h
      · rcases of_bind_eq_error h with h | ⟨_, _, h⟩
        · exact checkItem_ne_repetitionTooLarge h
        · exact (take_ne_limit (hsettle.yields t ht)).1 h
    · rintro ⟨place, least, comma, most, hstage, hx, htoo⟩
      exact hgoes ⟨place, least, comma, most, hstage, htoo.continuesBraces hx⟩

/-- Both options are found on at a closing parenthesis that no parenthesis opens. -/
theorem step_eq_asciiAndUnicode_iff :
    step s x = .error .asciiAndUnicode ↔
      ∃ t, settle s x = .ok t ∧ t.stage = .items ∧ t.frame.opening = .whole ∧
        x.isChar ')' = true ∧ (t.flags.ascii && t.flags.unicode) = true := by
  constructor
  · intro h
    by_cases hgoes : GoesOn s x
    · obtain ⟨place, least, comma, most, hstage, hgoes⟩ := hgoes
      rw [step_of_goesOn hstage hgoes] at h
      simp only [take, hstage] at h
      split at h
      next => exact absurd h finishBraces_ne_asciiAndUnicode
      next => split at h <;> [cases h; split at h <;> cases h]
    · have hsettle := settle_regular_of_not_goesOn hgoes
      rcases of_bind_eq_error h with h | ⟨t, ht, h⟩
      · exact absurd h hsettle.ne_asciiAndUnicode
      · rcases of_bind_eq_error h with h | ⟨_, _, h⟩
        · exact ⟨t, ht, checkItem_eq_asciiAndUnicode_iff.1 h⟩
        · exact absurd h (take_ne_limit (hsettle.yields t ht)).2
  · rintro ⟨t, ht, hcheck⟩
    rw [step, ht]
    change (checkItem t x >>= fun _ => take t x) = _
    rw [checkItem_eq_asciiAndUnicode_iff.2 hcheck]
    rfl

end Step

/-! ## The end of a pattern -/

theorem finish_ne_repetitionTooLarge {s : ReaderState} {here : Nat} :
    finish s here ≠ .error .repetitionTooLarge := by
  intro h
  rcases of_bind_eq_error h with h | ⟨t, _, h⟩
  · exact (settleEnd_faultsOnly here).ne_repetitionTooLarge h
  · split at h
    next =>
      split at h
      next => cases h
      next => split at h <;> cases h
    next => cases h

theorem finish_eq_asciiAndUnicode_iff {s : ReaderState} {here : Nat} :
    finish s here = .error .asciiAndUnicode ↔
      ∃ t, settleEnd s here = .ok t ∧ t.frame.opening = .whole ∧
        (t.flags.ascii && t.flags.unicode) = true := by
  constructor
  · intro h
    rcases of_bind_eq_error h with h | ⟨t, ht, h⟩
    · exact absurd h (settleEnd_faultsOnly here).ne_asciiAndUnicode
    · split at h
      next hopening =>
        split at h
        next hflags => exact ⟨t, ht, hopening, hflags⟩
        next => split at h <;> cases h
      next => cases h
  · rintro ⟨t, ht, hopening, hflags⟩
    simp [finish, ht, bind, Except.bind, hopening, hflags]

/-! ## What a quantifier holds -/

/-- The numbers of a quantifier in braces as far as they are read: the least, whether a comma stands
after it, and the greatest. -/
structure Numerals (least : List Char) (comma : Bool) (most : List Char) : Prop where
  least_digits : ∀ c ∈ least, Number.isDigit c = true
  most_digits : ∀ c ∈ most, Number.isDigit c = true
  most_eq_nil : comma = false → most = []

def numeralsText (least : List Char) (comma : Bool) (most : List Char) : List Char :=
  least ++ (if comma then [','] else []) ++ most

@[simp] theorem numerals_nil : Numerals [] false [] :=
  ⟨nofun, nofun, fun _ => rfl⟩

namespace Numerals
variable {least most : List Char} {c : Char}

theorem digit_least (h : Numerals least false most) (hc : Number.isDigit c = true) :
    Numerals (least ++ [c]) false most := by
  refine ⟨fun d hd => ?_, h.most_digits, h.most_eq_nil⟩
  rw [List.mem_append, List.mem_singleton] at hd
  exact hd.elim (h.least_digits d) fun hd => hd ▸ hc

theorem digit_most (h : Numerals least true most) (hc : Number.isDigit c = true) :
    Numerals least true (most ++ [c]) := by
  refine ⟨h.least_digits, fun d hd => ?_, nofun⟩
  rw [List.mem_append, List.mem_singleton] at hd
  exact hd.elim (h.most_digits d) fun hd => hd ▸ hc

theorem comma (h : Numerals least false most) : Numerals least true most :=
  ⟨h.least_digits, h.most_digits, nofun⟩

/-- An absent number is never too large, so that the least one counts alone without a comma. -/
theorem tooMany_iff {comma : Bool} (h : Numerals least comma most) :
    TooMany least (if comma then most else least) ↔ TooMany least most := by
  cases comma with
  | true => rfl
  | false =>
      rw [h.most_eq_nil rfl]
      exact ⟨fun h => .inl (h.elim id id), fun h => h.imp_right fun h => absurd h (by decide)⟩

end Numerals

section Quantifier
variable {s t : ReaderState} {x : Lexeme} {place : Nat} {least most : List Char} {comma : Bool}

theorem finishBraces_outsideBraces (h : finishBraces s place least comma most = .ok t) :
    t.OutsideBraces := by
  have hyields : Yields ReaderState.OutsideBraces (finishBraces s place least comma most) := by
    refine .ite (.error _) (.ite (quantify_regular _ _ _).yields ?_)
    exact .ite (.error _) (.ite (.refuse _ _) (quantify_regular _ _ _).yields)
  exact hyields t h

variable [Unicode.CharacterNames]

theorem step_digit {c : Char} {start : Nat} (hstage : s.stage = .braces place least comma most)
    (hc : Number.isDigit c = true) :
    step s ⟨start, false, c⟩ = .ok { s with
      stage := if comma then .braces place least true (most ++ [c])
        else .braces place (least ++ [c]) false most } := by
  have hgoes : continuesBraces least comma ⟨start, false, c⟩ = true := by simp [continuesBraces, hc]
  have hend : c ≠ '}' := by rintro rfl; exact absurd hc (by decide)
  have hcomma : c ≠ ',' := by rintro rfl; exact absurd hc (by decide)
  rw [step_of_goesOn hstage hgoes]
  cases comma <;> simp [take, hstage, hend, hcomma]

theorem step_comma {start : Nat} (hstage : s.stage = .braces place least false most) :
    step s ⟨start, false, ','⟩ = .ok { s with stage := .braces place least true most } := by
  rw [step_of_goesOn hstage (by simp [continuesBraces])]
  simp [take, hstage]

/-- A quantifier is either just opened or has got one more digit or its comma. -/
theorem stage_of_step (h : step s x = .ok t) (ht : t.stage = .braces place least comma most) :
    (x.isChar '{' = true ∧ t.stage = .braces x.place [] false []) ∨
      x.escaped = false ∧ ∃ least' comma' most', s.stage = .braces place least' comma' most' ∧
        (Numerals least' comma' most' → Numerals least comma most ∧
          numeralsText least comma most = numeralsText least' comma' most' ++ [x.char]) := by
  by_cases hgoes : GoesOn s x
  · obtain ⟨start, escaped, c⟩ := x
    obtain ⟨place', least', comma', most', hstage, hgoes⟩ := hgoes
    have htake := step_of_goesOn hstage hgoes
    simp only [continuesBraces, Bool.and_eq_true, Bool.not_eq_true', Bool.or_eq_true,
      beq_iff_eq] at hgoes
    obtain ⟨rfl, (hdigit | ⟨rfl, rfl⟩) | ⟨rfl, -⟩⟩ := hgoes
    · rw [step_digit hstage hdigit] at h
      cases h
      refine .inr ⟨rfl, least', comma', most', ?_⟩
      cases comma' with
      | true =>
          cases ht
          exact ⟨hstage, fun hread => ⟨hread.digit_most hdigit, by simp [numeralsText]⟩⟩
      | false =>
          cases ht
          refine ⟨hstage, fun hread => ⟨hread.digit_least hdigit, ?_⟩⟩
          simp [numeralsText, hread.most_eq_nil rfl]
    · rw [step_comma hstage] at h
      cases h
      cases ht
      refine .inr ⟨rfl, least, false, most, hstage, fun hread => ⟨hread.comma, ?_⟩⟩
      simp [numeralsText, hread.most_eq_nil rfl]
    · rw [htake] at h
      simp only [take, hstage, if_true] at h
      exact absurd ht (outsideBraces_iff.1 (finishBraces_outsideBraces h) _ _ _ _)
  · have hsettle := settle_regular_of_not_goesOn hgoes
    obtain ⟨u, hu, h⟩ := exists_of_bind_eq_ok h
    obtain ⟨_, -, h⟩ := exists_of_bind_eq_ok h
    have houtside := hsettle.yields u hu
    by_cases hopening : u.stage = .items ∧ x.isChar '{' = true
    · have htake : take u x = takeItem u x := by simp [take, hopening.1]
      rw [htake, takeItem_brace hopening.2] at h
      cases h
      exact .inl ⟨hopening.2, rfl⟩
    · have hregular := take_regular (x := x) houtside fun hitems =>
        Bool.eq_false_iff.2 fun hx => hopening ⟨hitems, hx⟩
      exact absurd ht (outsideBraces_iff.1 (hregular.yields t h) _ _ _ _)

end Quantifier

/-! ## Texts -/

theorem steps_eq_error_iff [Unicode.CharacterNames] {s : ReaderState} {xs : List Lexeme}
    {e : CompileError} :
    steps s xs = .error e ↔
      ∃ front x back t, xs = front ++ x :: back ∧ steps s front = .ok t ∧ step t x = .error e := by
  induction xs generalizing s with
  | nil => simp [steps, pure, Except.pure]
  | cons first rest ih =>
      constructor
      · intro h
        rcases of_bind_eq_error h with h | ⟨u, hu, h⟩
        · exact ⟨[], first, rest, s, rfl, rfl, h⟩
        · obtain ⟨front, x, back, t, rfl, hfront, hx⟩ := ih.1 h
          refine ⟨first :: front, x, back, t, rfl, ?_, hx⟩
          rw [← hfront]
          exact congrArg (· >>= fun u => steps u front) hu
      · rintro ⟨front, x, back, t, hxs, hfront, hx⟩
        have happend := steps_append s front (x :: back)
        rw [hxs, happend, hfront]
        exact congrArg (· >>= fun u => steps u back) hx

/-- The state that the reader is in after a text at whose end no backslash is left over. -/
structure ReadsTo [Unicode.CharacterNames] (text : List Char) (s : ReaderState) : Prop where
  closed : (lexemes 0 text).2 = false
  steps_eq : steps {} (lexemes 0 text).1 = .ok s

theorem lexemes_eq_cons {place : Nat} {text : List Char} {x : Lexeme} {xs : List Lexeme}
    {isOpen : Bool} (h : lexemes place text = (x :: xs, isOpen)) :
    x.place = place ∧ lexemes place x.text = ([x], false) ∧
      ∃ rest, text = x.text ++ rest ∧ lexemes (place + x.text.length) rest = (xs, isOpen) := by
  fun_cases lexemes place text with
  | case1 => cases h
  | case2 => cases h
  | case3 c rest after isOpen' hrest =>
      cases h
      exact ⟨rfl, rfl, rest, rfl, rfl⟩
  | case4 c rest hlast hpair after isOpen' hrest =>
      have hbackslash : c ≠ '\\' := by
        rintro rfl
        cases rest with
        | nil => exact hlast rfl rfl
        | cons d rest => exact hpair d rest rfl rfl
      rw [lexemes_cons_of_ne place hbackslash] at h
      cases h
      exact ⟨rfl, lexemes_cons_of_ne place hbackslash [], rest, rfl, rfl⟩

theorem lexemes_eq_nil {place : Nat} {text : List Char} {isOpen : Bool}
    (h : lexemes place text = ([], isOpen)) : text = if isOpen then ['\\'] else [] := by
  fun_cases lexemes place text with
  | case1 => cases h; rfl
  | case2 => cases h; rfl
  | case3 c rest after isOpen' hrest => cases h
  | case4 c rest hlast hpair after isOpen' hrest =>
      have hbackslash : c ≠ '\\' := by
        rintro rfl
        cases rest with
        | nil => exact hlast rfl rfl
        | cons d rest => exact hpair d rest rfl rfl
      rw [lexemes_cons_of_ne place hbackslash] at h
      cases h

theorem lexemes_eq_append {front back : List Lexeme} {isOpen : Bool} {place : Nat}
    {text : List Char} (h : lexemes place text = (front ++ back, isOpen)) :
    ∃ before after, text = before ++ after ∧ lexemes place before = (front, false) ∧
      lexemes (place + before.length) after = (back, isOpen) := by
  induction front generalizing place text with
  | nil => exact ⟨[], text, rfl, rfl, h⟩
  | cons x front ih =>
      obtain ⟨-, hx, rest, rfl, hrest⟩ := lexemes_eq_cons h
      obtain ⟨before, after, rfl, hbefore, hafter⟩ := ih hrest
      refine ⟨x.text ++ before, after, (List.append_assoc _ _ _).symm, ?_, ?_⟩
      · rw [lexemes_append (by rw [hx]), hx, hbefore]
        rfl
      · rwa [List.length_append, ← Nat.add_assoc]

theorem lexemes_append_cons {text : List Char} (h : (lexemes 0 text).2 = false) {c : Char}
    (hc : c ≠ '\\') (rest : List Char) :
    lexemes 0 (text ++ c :: rest) =
      ((lexemes 0 text).1 ++ ⟨text.length, false, c⟩ :: (lexemes (text.length + 1) rest).1,
        (lexemes (text.length + 1) rest).2) := by
  rw [lexemes_append h, Nat.zero_add, lexemes_cons_of_ne _ hc]

namespace ReadsTo
variable [Unicode.CharacterNames] {text : List Char} {s t : ReaderState} {c : Char}
  {place : Nat} {least most digits : List Char} {comma : Bool}

theorem next (h : ReadsTo text s) (hc : c ≠ '\\')
    (hstep : step s ⟨text.length, false, c⟩ = .ok t) : ReadsTo (text ++ [c]) t := by
  have hlexemes := lexemes_append_cons h.closed hc []
  refine ⟨by rw [hlexemes]; rfl, ?_⟩
  rw [hlexemes, steps_append, h.steps_eq]
  exact congrArg (· >>= fun u => steps u []) hstep

theorem exists_last (h : ReadsTo text t) (hne : text ≠ []) :
    ∃ before x s, text = before ++ x.text ∧ x.place = before.length ∧ ReadsTo before s ∧
      step s x = .ok t := by
  obtain hnil | ⟨front, x, hfront⟩ := (lexemes 0 text).1.eq_nil_or_concat
  · exact absurd (lexemes_eq_nil (Prod.ext hnil h.closed)) hne
  · have hlexemes : lexemes 0 text = (front ++ [x], false) :=
      Prod.ext (by simpa using hfront) h.closed
    obtain ⟨before, after, rfl, hbefore, hafter⟩ := lexemes_eq_append hlexemes
    obtain ⟨hplace, -, rest, rfl, hrest⟩ := lexemes_eq_cons hafter
    obtain rfl : rest = [] := lexemes_eq_nil hrest
    have hsteps := h.steps_eq
    rw [hlexemes, steps_append] at hsteps
    obtain ⟨s, hs, hlast⟩ := exists_of_bind_eq_ok hsteps
    obtain ⟨u, hstep, hu⟩ := exists_of_bind_eq_ok hlast
    cases hu
    refine ⟨before, x, s, by rw [List.append_nil], hplace.trans (Nat.zero_add _), ⟨?_, ?_⟩, hstep⟩
    · rw [hbefore]
    · rw [hbefore, hs]

theorem exists_digits (h : ReadsTo text s) (hstage : s.stage = .braces place least comma most)
    (hdigits : ∀ c ∈ digits, Number.isDigit c = true) :
    ∃ t, ReadsTo (text ++ digits) t ∧
      t.stage = if comma then .braces place least true (most ++ digits)
        else .braces place (least ++ digits) false most := by
  induction digits generalizing text s least most with
  | nil =>
      refine ⟨s, by rwa [List.append_nil], ?_⟩
      cases comma <;> simp [hstage]
  | cons c digits ih =>
      rw [List.forall_mem_cons] at hdigits
      have hc : c ≠ '\\' := by rintro rfl; exact absurd hdigits.1 (by decide)
      have hnext := h.next hc (step_digit hstage hdigits.1)
      cases comma with
      | true =>
          obtain ⟨t, ht, hstage'⟩ := ih hnext rfl hdigits.2
          exact ⟨t, by simpa using ht, by simpa using hstage'⟩
      | false =>
          obtain ⟨t, ht, hstage'⟩ := ih hnext rfl hdigits.2
          exact ⟨t, by simpa using ht, by simpa using hstage'⟩

end ReadsTo

/-! ## Quantifiers in texts -/

section Limits
variable [Unicode.CharacterNames]

/-- After a text an opening brace begins a quantifier. -/
def OpensQuantifier (before : List Char) : Prop :=
  ∃ s t, ReadsTo before s ∧ step s ⟨before.length, false, '{'⟩ = .ok t ∧
    t.stage = .braces before.length [] false []

theorem OpensQuantifier.exists_readsTo {before least most : List Char} {comma : Bool}
    (h : OpensQuantifier before) (hread : Numerals least comma most) :
    ∃ t, ReadsTo (before ++ '{' :: numeralsText least comma most) t ∧
      t.stage = .braces before.length least comma most := by
  obtain ⟨s, t, hs, hstep, hstage⟩ := h
  obtain ⟨u, hu, hleast⟩ :=
    (hs.next (by decide) hstep).exists_digits hstage hread.least_digits
  cases comma with
  | false =>
      rw [hread.most_eq_nil rfl]
      exact ⟨u, by simpa [numeralsText] using hu, by simpa using hleast⟩
  | true =>
      have hcomma := hu.next (by decide) (step_comma (by simpa using hleast))
      obtain ⟨v, hv, hmost⟩ := hcomma.exists_digits rfl hread.most_digits
      exact ⟨v, by simpa [numeralsText] using hv, by simpa using hmost⟩

/-- In a quantifier in braces the reader has read its opening brace and what it holds of it. -/
theorem exists_opensQuantifier {text : List Char} {t : ReaderState} {place : Nat}
    {least most : List Char} {comma : Bool} (h : ReadsTo text t)
    (hstage : t.stage = .braces place least comma most) :
    ∃ before, OpensQuantifier before ∧ Numerals least comma most ∧
      text = before ++ '{' :: numeralsText least comma most := by
  have hne : text ≠ [] := by
    rintro rfl
    cases h.steps_eq
    cases hstage
  obtain ⟨before, x, s, htext, hplace, hs, hstep⟩ := h.exists_last hne
  rcases stage_of_step hstep hstage with
    ⟨hbrace, hopened⟩ | ⟨hescaped, least', comma', most', hstage', hmore⟩
  · rw [hopened] at hstage
    cases hstage
    obtain rfl : x = ⟨before.length, false, '{'⟩ := by
      rw [x.eq_of_isChar hbrace, hplace]
    exact ⟨before, ⟨s, t, hs, hstep, hopened⟩, numerals_nil, htext⟩
  · have hx : x.text = [x.char] := by simp [Lexeme.text, hescaped]
    have hshorter : before.length < text.length := by simp [htext, hx]
    obtain ⟨front, hopens, hread, hbefore⟩ := exists_opensQuantifier hs hstage'
    obtain ⟨hread, hnumerals⟩ := hmore hread
    refine ⟨front, hopens, hread, ?_⟩
    rw [htext, hx, hnumerals, hbefore, List.append_assoc, List.cons_append]
termination_by text.length

theorem readPattern_of_closed {text : List Char} (h : (lexemes 0 text).2 = false) :
    readPattern text = steps {} (lexemes 0 text).1 >>= fun s => finish s text.length := by
  simp [readPattern, h]

/-- With a backslash left over, the last lexeme ends what stands before it, but is not read. -/
theorem readPattern_of_open {text : List Char} {front : List Lexeme} {x : Lexeme}
    (h : lexemes 0 text = (front ++ [x], true)) :
    readPattern text = steps {} front >>= fun s => settle s x >>= fun t =>
      checkItem t x >>= fun _ => refuse .escapeAtEnd (text.length - 1) := by
  simp [readPattern, h, bind_assoc]

/-- Reading lexemes fails with the failure of a step; what stands before its lexeme is read. -/
theorem exists_step_of_steps {text : List Char} {xs more : List Lexeme} {isOpen : Bool}
    {e : CompileError} (h : steps {} xs = .error e) (hxs : lexemes 0 text = (xs ++ more, isOpen)) :
    ∃ before x after back s, text = before ++ (x.text ++ after) ∧
      lexemes before.length x.text = ([x], false) ∧ ReadsTo before s ∧ step s x = .error e ∧
        lexemes (before.length + x.text.length) after = (back ++ more, isOpen) := by
  obtain ⟨front, x, back, s, rfl, hs, hstep⟩ := steps_eq_error_iff.1 h
  rw [List.append_assoc] at hxs
  obtain ⟨before, rest, rfl, hbefore, hrest⟩ := lexemes_eq_append hxs
  rw [Nat.zero_add] at hrest
  obtain ⟨-, hx, after, rfl, hafter⟩ := lexemes_eq_cons hrest
  exact ⟨before, x, after, back, s, rfl, hx, ⟨by rw [hbefore], by rw [hbefore, hs]⟩, hstep, hafter⟩

/-- Reading a text reaches a lexeme and fails there. A lexeme with nothing but a backslash after it
is not read, and only ends what stands before it. -/
def FailsAtLexeme (text : List Char) (e : CompileError) : Prop :=
  ∃ before x after s, text = before ++ (x.text ++ after) ∧
    lexemes before.length x.text = ([x], false) ∧ ReadsTo before s ∧ step s x = .error e ∧
      (after = ['\\'] → (settle s x >>= fun t => checkItem t x) = .error e)

theorem FailsAtLexeme.of_steps {text : List Char} {xs more : List Lexeme} {isOpen : Bool}
    {e : CompileError} (h : steps {} xs = .error e) (hxs : lexemes 0 text = (xs ++ more, isOpen))
    (hmore : isOpen = true → more ≠ []) : FailsAtLexeme text e := by
  obtain ⟨before, x, after, back, s, htext, hx, hs, hstep, hafter⟩ := exists_step_of_steps h hxs
  refine ⟨before, x, after, s, htext, hx, hs, hstep, ?_⟩
  rintro rfl
  obtain ⟨hback, rfl⟩ := Prod.mk.inj hafter
  exact absurd (List.append_eq_nil_iff.1 hback.symm).2 (hmore rfl)

theorem FailsAtLexeme.of_last {text : List Char} {front : List Lexeme} {x : Lexeme}
    {s : ReaderState} {e : CompileError} (hxs : lexemes 0 text = (front ++ [x], true))
    (hs : steps {} front = .ok s) (hend : (settle s x >>= fun t => checkItem t x) = .error e) :
    FailsAtLexeme text e := by
  obtain ⟨before, rest, rfl, hbefore, hrest⟩ := lexemes_eq_append hxs
  rw [Nat.zero_add] at hrest
  obtain ⟨-, hx, after, rfl, -⟩ := lexemes_eq_cons hrest
  exact ⟨before, x, after, s, rfl, hx, ⟨by rw [hbefore], by rw [hbefore, hs]⟩,
    step_of_not_following hend, fun _ => hend⟩

theorem readPattern_of_failsAtLexeme {text : List Char} {e : CompileError}
    (h : FailsAtLexeme text e) : readPattern text = .error e := by
  obtain ⟨before, x, after, s, rfl, hx, hs, hstep, hlast⟩ := h
  have hxs : lexemes 0 (before ++ (x.text ++ after)) =
      ((lexemes 0 before).1 ++ x :: (lexemes (before.length + x.text.length) after).1,
        (lexemes (before.length + x.text.length) after).2) := by
    rw [lexemes_append hs.closed, Nat.zero_add, lexemes_append (by rw [hx]), hx]
    rfl
  have hfails (back : List Lexeme) : steps {} ((lexemes 0 before).1 ++ x :: back) = .error e :=
    steps_eq_error_iff.2 ⟨_, x, back, s, rfl, hs.steps_eq, hstep⟩
  cases hopen : (lexemes (before.length + x.text.length) after).2 with
  | false =>
      rw [readPattern_of_closed (by rw [hxs, hopen]), hxs, hfails]
      rfl
  | true =>
      obtain hnil | ⟨back, y, hback⟩ :=
        (lexemes (before.length + x.text.length) after).1.eq_nil_or_concat
      · rw [hopen, hnil] at hxs
        have hend := hlast (lexemes_eq_nil (Prod.ext hnil hopen))
        rw [readPattern_of_open hxs, hs.steps_eq]
        change (settle s x >>= fun t => checkItem t x >>= fun _ => _) = _
        rw [← bind_assoc, hend]
        rfl
      · rw [hopen, hback, List.concat_eq_append, ← List.cons_append,
          ← List.append_assoc (lexemes 0 before).1] at hxs
        rw [readPattern_of_open hxs, hfails]
        rfl

/-- Apart from faults, reading fails at a lexeme or at the end. -/
theorem readPattern_eq_error_iff {text : List Char} {e : CompileError}
    (he : ∀ cause place, e ≠ .fault cause place) :
    readPattern text = .error e ↔
      FailsAtLexeme text e ∨ ∃ s, ReadsTo text s ∧ finish s text.length = .error e := by
  constructor
  · intro h
    cases hopen : (lexemes 0 text).2 with
    | false =>
        rw [readPattern_of_closed hopen] at h
        rcases of_bind_eq_error h with h | ⟨s, hs, h⟩
        · have hxs : lexemes 0 text = ((lexemes 0 text).1 ++ [], false) :=
            Prod.ext (List.append_nil _).symm hopen
          exact .inl (.of_steps h hxs nofun)
        · exact .inr ⟨s, ⟨hopen, hs⟩, h⟩
    | true =>
        obtain hnil | ⟨front, x, hfront⟩ := (lexemes 0 text).1.eq_nil_or_concat
        · obtain rfl : text = ['\\'] := lexemes_eq_nil (Prod.ext hnil hopen)
          exact absurd (Except.error.inj h).symm (he _ _)
        · have hxs : lexemes 0 text = (front ++ [x], true) := Prod.ext (by simpa using hfront) hopen
          rw [readPattern_of_open hxs] at h
          rcases of_bind_eq_error h with h | ⟨s, hs, h⟩
          · exact .inl (.of_steps h hxs (by simp))
          · rw [← bind_assoc] at h
            have hend := (of_bind_eq_error h).resolve_right fun ⟨_, _, h⟩ =>
              he _ _ (Except.error.inj h).symm
            exact .inl (.of_last hxs hs hend)
  · rintro (h | ⟨s, hs, hfinish⟩)
    · exact readPattern_of_failsAtLexeme h
    · rw [readPattern_of_closed hs.closed, hs.steps_eq]
      exact hfinish

end Limits

/-! ## The patterns beyond the limits -/

section BeyondLimits
variable [Unicode.CharacterNames] {source : String} {text : List Char}

/-- A text that is no pattern and has no fault either. -/
def BeyondLimits (source : String) : Prop :=
  compile source = .error .repetitionTooLarge ∨ compile source = .error .asciiAndUnicode

/-- Apart from faults, a text is no pattern only if it cannot be read. -/
theorem compile_eq_error_iff {e : CompileError} (he : ∀ cause place, e ≠ .fault cause place) :
    compile source = .error e ↔ readPattern source.toList = .error e := by
  constructor
  · intro h
    unfold compile at h
    rcases of_bind_eq_error h with h | ⟨state, -, h⟩
    · exact h
    · dsimp only at h
      split at h
      next cause _ => exact absurd (Except.error.inj h).symm (he cause none)
      next => cases h
  · intro h
    unfold compile
    rw [h]
    rfl

/-- A quantifier in braces has a number that is too large, and what stands before the quantifier is
read. Nothing but a backslash after it would be a fault that is found first. -/
def RepeatsTooOften (text : List Char) : Prop :=
  ∃ before least comma most after,
    text = before ++ '{' :: (numeralsText least comma most ++ '}' :: after) ∧ after ≠ ['\\'] ∧
      OpensQuantifier before ∧ Numerals least comma most ∧ TooMany least most

/-- The options for ASCII and for Unicode classes are both on at the end of the pattern, or at a
closing parenthesis that no parenthesis opens. -/
def MixesClasses (text : List Char) : Prop :=
  ∃ s, s.frame.opening = .whole ∧ (s.flags.ascii && s.flags.unicode) = true ∧
    ((∃ t, ReadsTo text t ∧ settleEnd t text.length = .ok s) ∨
      ∃ before after t, text = before ++ ')' :: after ∧ ReadsTo before t ∧
        settle t ⟨before.length, false, ')'⟩ = .ok s ∧ s.stage = .items)

theorem readPattern_eq_repetitionTooLarge_iff :
    readPattern text = .error .repetitionTooLarge ↔ RepeatsTooOften text := by
  rw [readPattern_eq_error_iff (e := .repetitionTooLarge) nofun,
    or_iff_left fun ⟨s, _, hfinish⟩ => finish_ne_repetitionTooLarge hfinish]
  constructor
  · rintro ⟨before, x, after, s, rfl, hx, hs, hstep, hlast⟩
    obtain ⟨place, least, comma, most, hstage, hend, htoo⟩ := step_eq_repetitionTooLarge_iff.1 hstep
    obtain ⟨front, hopens, hread, rfl⟩ := exists_opensQuantifier hs hstage
    have htext : x.text = ['}'] := by rw [x.eq_of_isChar hend]; rfl
    refine ⟨front, least, comma, most, after, ?_, fun hafter => ?_, hopens, hread,
      hread.tooMany_iff.1 htoo⟩
    · simp [htext]
    · rcases of_bind_eq_error (hlast hafter) with h | ⟨t, -, h⟩
      · exact settle_ne_limit.1 h
      · exact checkItem_ne_repetitionTooLarge h
  · rintro ⟨before, least, comma, most, after, rfl, hafter, hopens, hread, htoo⟩
    obtain ⟨s, hs, hstage⟩ := hopens.exists_readsTo hread
    refine ⟨_, ⟨_, false, '}'⟩, after, s, ?_, rfl, hs, ?_, fun h => absurd h hafter⟩
    · simp [Lexeme.text]
    · exact step_eq_repetitionTooLarge_iff.2
        ⟨_, _, _, _, hstage, rfl, hread.tooMany_iff.2 htoo⟩

theorem readPattern_eq_asciiAndUnicode_iff :
    readPattern text = .error .asciiAndUnicode ↔ MixesClasses text := by
  rw [readPattern_eq_error_iff (e := .asciiAndUnicode) nofun]
  constructor
  · rintro (⟨before, x, after, t, rfl, hx, ht, hstep, -⟩ | ⟨t, ht, hfinish⟩)
    · obtain ⟨s, hs, hstage, hopening, hend, hflags⟩ := step_eq_asciiAndUnicode_iff.1 hstep
      obtain ⟨hplace, -⟩ := lexemes_eq_cons hx
      obtain rfl : x = ⟨before.length, false, ')'⟩ := by rw [x.eq_of_isChar hend, hplace]
      exact ⟨s, hopening, hflags, .inr ⟨before, after, t, rfl, ht, hs, hstage⟩⟩
    · obtain ⟨s, hs, hopening, hflags⟩ := finish_eq_asciiAndUnicode_iff.1 hfinish
      exact ⟨s, hopening, hflags, .inl ⟨t, ht, hs⟩⟩
  · rintro ⟨s, hopening, hflags, ⟨t, ht, hs⟩ | ⟨before, after, t, rfl, ht, hs, hstage⟩⟩
    · exact .inr ⟨t, ht, finish_eq_asciiAndUnicode_iff.2 ⟨s, hs, hopening, hflags⟩⟩
    · refine .inl ⟨before, ⟨before.length, false, ')'⟩, after, t, rfl, rfl, ht, ?_, fun _ => ?_⟩
      · exact step_eq_asciiAndUnicode_iff.2 ⟨s, hs, hstage, hopening, rfl, hflags⟩
      · rw [hs]
        exact checkItem_eq_asciiAndUnicode_iff.2 ⟨hstage, hopening, rfl, hflags⟩

/-- The texts beyond the limits: a number of repetitions is too large, or the options for two kinds
of classes are both on. -/
theorem beyondLimits_iff :
    BeyondLimits source ↔ RepeatsTooOften source.toList ∨ MixesClasses source.toList := by
  rw [← readPattern_eq_repetitionTooLarge_iff, ← readPattern_eq_asciiAndUnicode_iff]
  exact or_congr (compile_eq_error_iff nofun) (compile_eq_error_iff nofun)

example : compile "a\x7b1,4294967295\x7d" = .error .repetitionTooLarge := by
  rfl

end BeyondLimits

end JavadocTags.Pattern
