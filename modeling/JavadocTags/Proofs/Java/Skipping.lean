import JavadocTags.Proofs.Outcome
import JavadocTags.Proofs.Java.Brackets
import JavadocTags.Proofs.Java.CursorWalk

/-!
# Where skipping stops

A skipper counts brackets of one kind and knows nothing of the other. It stops behind the first
token up to which as many of them have closed as have opened, so a group whose brackets are nested
properly is stepped over as a whole, and a statement ends at the first semicolon, or before the
first closing brace, that is in no group. The cursor is moved there and nowhere back, and nothing
else of it changes.
-/
namespace JavadocTags.Java

variable {opening closing : String} {depth : Nat} {t : Token} {ts ahead rest : List Token}

/-! ## The first match -/

/-- Up to `count` tokens, `depth` brackets more have closed than have opened. -/
def ClosesAt (opening closing : String) (depth : Nat) (ahead : List Token) (count : Nat) : Prop :=
  count ≤ ahead.length ∧
    (ahead.take count).countP (·.text = closing) =
      depth + (ahead.take count).countP (·.text = opening)

/-- Up to `count` tokens, which are some, as many brackets have closed as have opened. -/
def MatchedAt (opening closing : String) (ahead : List Token) (count : Nat) : Prop :=
  0 < count ∧ ClosesAt opening closing 0 ahead count

/-- What is left of some tokens begins where a count first has a property, or is nothing. -/
def LeftAtFirst (holds : Nat → Prop) (ahead left : List Token) : Prop :=
  (∃ count, IsFirst holds count ∧ left = ahead.drop count) ∨ (∀ count, ¬ holds count) ∧ left = []

theorem LeftAtFirst.cons {holds later : Nat → Prop} {left : List Token}
    (h : LeftAtFirst later ahead left) (hzero : ¬ holds 0)
    (hsucc : ∀ count, holds (count + 1) ↔ later count) : LeftAtFirst holds (t :: ahead) left := by
  rcases h with ⟨count, hfirst, hleft⟩ | ⟨hnone, hleft⟩
  · exact .inl ⟨count + 1, hfirst.succ hzero hsucc, hleft⟩
  · exact .inr ⟨forall_not_of_succ hnone hzero hsucc, hleft⟩

@[simp] theorem closesAt_zero_iff : ClosesAt opening closing depth ahead 0 ↔ depth = 0 := by
  simp only [ClosesAt, List.take_zero, List.countP_nil]
  omega

@[simp] theorem closesAt_opening (hne : closing ≠ opening) (h : t.text = opening) (count : Nat) :
    ClosesAt opening closing depth (t :: rest) (count + 1) ↔
      ClosesAt opening closing (depth + 1) rest count := by
  simp only [ClosesAt, List.length_cons, List.take_succ_cons, List.countP_cons, h,
    decide_eq_true_eq, if_neg (Ne.symm hne), if_pos]
  omega

@[simp] theorem closesAt_closing (hne : closing ≠ opening) (h : t.text = closing) (count : Nat) :
    ClosesAt opening closing (depth + 1) (t :: rest) (count + 1) ↔
      ClosesAt opening closing depth rest count := by
  simp only [ClosesAt, List.length_cons, List.take_succ_cons, List.countP_cons, h,
    decide_eq_true_eq, if_neg hne, if_pos]
  omega

@[simp]
theorem closesAt_other (hopening : t.text ≠ opening) (hclosing : t.text ≠ closing) (count : Nat) :
    ClosesAt opening closing depth (t :: rest) (count + 1) ↔
      ClosesAt opening closing depth rest count := by
  simp only [ClosesAt, List.length_cons, List.take_succ_cons, List.countP_cons,
    decide_eq_true_eq, if_neg hopening, if_neg hclosing]
  omega

/-- With brackets open, the skipper stops behind the first token that closes as many. -/
theorem skipBrackets_closes (hne : closing ≠ opening) (hdepth : 1 ≤ depth) :
    LeftAtFirst (ClosesAt opening closing depth ahead) ahead
      (skipBrackets opening closing depth ahead) := by
  fun_induction skipBrackets opening closing depth ahead with
  | case1 depth =>
      refine .inr ⟨fun count hcount => ?_, rfl⟩
      obtain rfl : count = 0 := Nat.le_zero.1 hcount.1
      exact absurd (closesAt_zero_iff.1 hcount) (Nat.ne_of_gt hdepth)
  | case2 depth t rest hopening ih =>
      refine (ih (Nat.le_succ_of_le hdepth)).cons ?_ (closesAt_opening hne hopening)
      rw [closesAt_zero_iff]
      exact Nat.ne_of_gt hdepth
  | case3 t rest hopening hclosing =>
      have hdone := isFirst_zero (closesAt_zero_iff.2 rfl : ClosesAt opening closing 0 rest 0)
      refine .inl ⟨1, hdone.succ ?_ (closesAt_closing hne hclosing), rfl⟩
      rw [closesAt_zero_iff]
      exact Nat.one_ne_zero
  | case4 depth t rest hopening hclosing hone ih =>
      obtain ⟨outer, rfl⟩ := Nat.exists_eq_add_of_le' hdepth
      refine (ih (by omega)).cons ?_ (closesAt_closing hne hclosing)
      rw [closesAt_zero_iff]
      exact Nat.succ_ne_zero outer
  | case5 depth t rest hopening hclosing ih =>
      refine (ih hdepth).cons ?_ (closesAt_other hopening hclosing)
      rw [closesAt_zero_iff]
      exact Nat.ne_of_gt hdepth

/-- From an opening bracket the skipper stops behind the first token up to which as many brackets
have closed as have opened. -/
theorem skipBrackets_matched (hne : closing ≠ opening) (h : t.text = opening) :
    LeftAtFirst (MatchedAt opening closing (t :: rest)) (t :: rest)
      (skipBrackets opening closing 0 (t :: rest)) := by
  rw [skipBrackets, if_pos h]
  refine (skipBrackets_closes hne (Nat.le_refl 1)).cons (fun hzero => ?_) fun count => ?_
  · exact Nat.lt_irrefl 0 hzero.1
  · rw [MatchedAt, closesAt_opening hne h]
    exact and_iff_right (Nat.succ_pos count)

/-! ## Nested groups -/

def bracketKinds : List (String × String) :=
  [("(", ")"), ("\x7b", "\x7d")]

/-- Tokens whose parentheses and braces are nested properly, with none of the `barred` texts outside
of them. -/
inductive Nested : List String → List Token → Prop
  | nil {barred : List String} : Nested barred []
  | token {barred : List String} {t : Token} {ts : List Token} :
      t.text ∉ barred → (∀ kind ∈ bracketKinds, t.text ≠ kind.1 ∧ t.text ≠ kind.2) →
      Nested barred ts → Nested barred (t :: ts)
  | group {barred : List String} {first last : Token} {inner ts : List Token} :
      (first.text, last.text) ∈ bracketKinds → Nested [] inner → Nested barred ts →
      Nested barred (first :: (inner ++ last :: ts))

variable {barred : List String} {kind : String × String}

theorem bracketKinds_distinct : ∀ kind ∈ bracketKinds, ∀ other ∈ bracketKinds,
    kind.1 ≠ other.2 ∧ (kind ≠ other → kind.1 ≠ other.1 ∧ kind.2 ≠ other.2) := by
  decide

/-- Whichever kind is counted, as many of its brackets are open behind nested tokens as before
them. -/
theorem Nested.depthAfter?_append (h : Nested barred ts) (hkind : kind ∈ bracketKinds) (depth : Nat)
    (rest : List Token) :
    depthAfter? kind.1 kind.2 depth (ts ++ rest) = depthAfter? kind.1 kind.2 depth rest := by
  induction h generalizing depth rest with
  | nil => rfl
  | @token barred t ts _ hother _ ih =>
      obtain ⟨hopening, hclosing⟩ := hother kind hkind
      rw [List.cons_append, depthAfter?, if_neg hopening, if_neg hclosing, ih]
  | @group barred first last inner ts hgroup _ _ ihinner ih =>
      have hfirst : first.text ≠ kind.2 := (bracketKinds_distinct _ hgroup _ hkind).1
      have hlast : last.text ≠ kind.1 := (bracketKinds_distinct _ hkind _ hgroup).1.symm
      rw [List.cons_append, List.append_assoc, List.cons_append, depthAfter?]
      by_cases hsame : (first.text, last.text) = kind
      · have hopening : first.text = kind.1 := congrArg Prod.fst hsame
        have hclosing : last.text = kind.2 := congrArg Prod.snd hsame
        rw [if_pos hopening, ihinner, depthAfter?, if_neg hlast, if_pos hclosing,
          if_neg (Nat.succ_ne_zero depth), Nat.add_sub_cancel, ih]
      · obtain ⟨hopening, hclosing⟩ := (bracketKinds_distinct _ hgroup _ hkind).2 hsame
        rw [if_neg hopening, if_neg hfirst, ihinner, depthAfter?, if_neg hlast, if_neg hclosing, ih]

theorem Nested.balanced (h : Nested barred ts) (hkind : kind ∈ bracketKinds) :
    Balanced kind.1 kind.2 ts := by
  have hdepth := h.depthAfter?_append hkind 0 []
  rwa [List.append_nil] at hdepth

/-- Nested tokens without a semicolon outside brackets are a clause. -/
theorem Nested.clause (h : Nested barred ts) (hbarred : ";" ∈ barred) : Clause true ts := by
  induction h with
  | nil => exact .nil
  | @token barred t ts hfree hother _ ih =>
      refine .token (fun hmem => ?_) (ih hbarred)
      simp only [bracketKinds, List.forall_mem_cons] at hother
      simp only [List.mem_cons, List.not_mem_nil, or_false] at hmem
      rcases hmem with hparen | hopen | hclose | hsemi
      · exact hother.1.1 hparen
      · exact hother.2.1.1 hopen
      · exact hother.2.1.2 hclose
      · exact hfree (hsemi ▸ hbarred)
  | @group barred first last inner ts hgroup hinner _ _ ih =>
      have hbalanced := hinner.balanced hgroup
      have hbracketed : Bracketed first.text last.text (first :: (inner ++ [last])) :=
        .intro rfl hbalanced rfl
      have hsplit : first :: (inner ++ last :: ts) = (first :: (inner ++ [last])) ++ ts := by
        rw [List.cons_append, List.append_assoc, List.singleton_append]
      rw [hsplit]
      simp only [bracketKinds, List.mem_cons, List.not_mem_nil, or_false, Prod.mk.injEq] at hgroup
      rcases hgroup with ⟨hopening, hclosing⟩ | ⟨hopening, hclosing⟩
      · rw [hopening, hclosing] at hbracketed
        exact .parentheses hbracketed (ih hbarred)
      · rw [hopening, hclosing] at hbracketed
        exact .braces rfl hbracketed (ih hbarred)

theorem skipStatement_nested (h : Nested [";"] ts) (rest : List Token) :
    skipStatement (ts ++ rest) = skipStatement rest :=
  skipStatement_clause (h.clause (List.mem_singleton_self _)) rest

/-- A closing brace is left to the body that it closes. -/
@[simp] theorem skipStatement_close (h : t.text = "\x7d") (rest : List Token) :
    skipStatement (t :: rest) = t :: rest := by
  rw [skipStatement, h, if_neg (by decide), if_neg (by decide), if_neg (by decide), if_pos rfl]

/-! ## The cursor -/

/-- A walk that starts at a position goes no way back and not past the end. -/
def Onward (ts : List Token) (position stop : Nat) : Prop :=
  position ≤ stop ∧ (position ≤ ts.length → stop ≤ ts.length)

variable {position turns : Nat}

theorem Onward.refl (ts : List Token) (position : Nat) : Onward ts position position :=
  ⟨Nat.le_refl position, id⟩

theorem Onward.trans {middle stop : Nat} (h : Onward ts position middle)
    (hstop : Onward ts middle stop) : Onward ts position stop :=
  ⟨Nat.le_trans h.1 hstop.1, fun hle => hstop.2 (h.2 hle)⟩

/-- A walk leaves the token that it starts on, if there is one. -/
def Past (ts : List Token) (position stop : Nat) : Prop :=
  (ts.length ≤ position ∧ stop = position) ∨ (position < stop ∧ stop ≤ ts.length)

theorem past_succ (h : ¬ ts.length ≤ position) : Past ts position (position + 1) :=
  .inr ⟨Nat.lt_succ_self position, Nat.gt_of_not_le h⟩

theorem Past.of_succ {stop : Nat} (hend : ¬ ts.length ≤ position)
    (h : Past ts (position + 1) stop) : Past ts position stop := by
  unfold Past at h ⊢
  omega

theorem Past.onward {stop : Nat} (h : Past ts position stop) : Onward ts position stop := by
  unfold Past at h
  unfold Onward
  omega

/-- Whatever token it starts on, the walk ends. -/
theorem walkBrackets_past (opening closing : String) (depth : Int)
    (hturns : ts.length - position < turns) :
    Ends (walkBrackets ts opening closing turns depth position) (Past ts position) := by
  induction turns generalizing position depth with
  | zero => exact absurd hturns (Nat.not_lt_zero _)
  | succ turns ih =>
      rw [walkBrackets]
      split
      next hend => exact ends_ok (.inl ⟨hend, rfl⟩)
      next hend =>
        have hnext (depth : Int) : Ends (walkBrackets ts opening closing turns depth (position + 1))
            (Past ts position) :=
          (ih depth (by omega)).imp fun _ => Past.of_succ hend
        split
        · exact hnext _
        · split
          · split
            · exact ends_ok (past_succ hend)
            · exact hnext _
          · exact hnext _

theorem walkStatement_onward (hturns : ts.length - position < turns) :
    Ends (walkStatement ts turns position) (Onward ts position) := by
  induction turns generalizing position with
  | zero => exact absurd hturns (Nat.not_lt_zero _)
  | succ turns ih =>
      rw [walkStatement]
      split
      · exact ends_ok (.refl ts position)
      next hend =>
        have hgroup (opening closing : String) :
            Ends (walkBrackets ts opening closing (turns + 1) 0 position >>= walkStatement ts turns)
              (Onward ts position) := by
          refine (walkBrackets_past opening closing 0 hturns).bind fun middle hmiddle => ?_
          have hfurther : position < middle := by
            unfold Past at hmiddle
            omega
          exact (ih (by omega)).imp fun _ => hmiddle.onward.trans
        have hnext := (past_succ hend).onward
        split
        · exact ends_ok hnext
        · split
          · exact hgroup _ _
          · split
            · exact hgroup _ _
            · split
              · exact ends_ok (.refl ts position)
              · exact (ih (by omega)).imp fun _ => hnext.trans

/-- The cursor moved to where a walk from its position stops. -/
def Cursor.skipBy (c : Cursor) (walk : Nat → Walk Nat) : Walk Cursor := do
  return c.moveTo (← walk c.position)

/-- A skipper takes the cursor to `stop` and changes nothing else of it, however many turns it may
take once they suffice, and leaves the tokens from there on. -/
structure SkipsTo (ts : List Token) (walk : Nat → Nat → Walk Nat)
    (skip : List Token → List Token) (c : Cursor) (stop : Nat) : Prop where
  walked : ∀ turns, ts.length - c.position < turns → ∃ next, c.skipBy (walk turns) = .ok next ∧
    next.position = stop ∧ next.found = c.found ∧ next.members = c.members
  left : skip (ts.drop c.position) = ts.drop stop

/-- A skipper takes the cursor on, if anywhere, and finds no declaration on the way. -/
def OnlyMovesOn (ts : List Token) (walk : Nat → Nat → Walk Nat) (c : Cursor) : Prop :=
  ∀ turns, ts.length - c.position < turns → ∃ next, c.skipBy (walk turns) = .ok next ∧
    c.position ≤ next.position ∧ next.found = c.found

/-- Behind the first match ahead of a position, or at the end if there is none. -/
def AtPartner (opening closing : String) (ts : List Token) (position stop : Nat) : Prop :=
  (∃ count, IsFirst (MatchedAt opening closing (ts.drop position)) count ∧
    stop = position + count) ∨
  (∀ count, ¬ MatchedAt opening closing (ts.drop position) count) ∧ stop = ts.length

variable {walk : Nat → Nat → Walk Nat} {skip : List Token → List Token} {c : Cursor} {stop : Nat}

theorem skipBy_of_ok {w : Nat → Walk Nat} (h : w c.position = .ok stop) :
    ∃ next, c.skipBy w = .ok next ∧
      next.position = stop ∧ next.found = c.found ∧ next.members = c.members := by
  rw [Cursor.skipBy, h]
  exact ⟨c.moveTo stop, rfl, rfl, rfl, rfl⟩

theorem onlyMovesOn_of_onward
    (h : ∀ turns, ts.length - c.position < turns →
      Ends (walk turns c.position) (Onward ts c.position)) : OnlyMovesOn ts walk c := by
  intro turns hturns
  obtain ⟨stop, hstop, honward⟩ := h turns hturns
  obtain ⟨next, hnext, rfl, hfound, -⟩ := skipBy_of_ok hstop
  exact ⟨next, hnext, honward.1, hfound⟩

/-- Where a walk stops that does not leave the tokens is known from what it leaves. -/
theorem skipsTo_of_stops
    (honward : ∀ turns, ts.length - c.position < turns →
      Ends (walk turns c.position) (Onward ts c.position))
    (hstops : ∀ turns, (ts.drop c.position).length < turns →
      StopsBefore ts (walk turns c.position) (skip (ts.drop c.position)))
    (hc : c.position ≤ ts.length) (hstop : stop ≤ ts.length)
    (hleft : skip (ts.drop c.position) = ts.drop stop) : SkipsTo ts walk skip c stop := by
  refine ⟨fun turns hturns => ?_, hleft⟩
  obtain ⟨reached, hreached, hbounds⟩ := honward turns hturns
  obtain ⟨other, hother, hdrop⟩ := hstops turns (by rwa [List.length_drop])
  obtain rfl : reached = other := Except.ok.inj (hreached.symm.trans hother)
  have hlength := congrArg List.length (hdrop.trans hleft)
  have hle := hbounds.2 hc
  rw [List.length_drop, List.length_drop] at hlength
  obtain rfl : reached = stop := by omega
  exact skipBy_of_ok hreached

theorem brackets_skipTo (hne : opening ≠ closing) (hc : c.position < ts.length)
    (hpeek : peek ts c.position = opening) :
    ∃ stop, SkipsTo ts (walkBrackets ts opening closing · 0) (skipBrackets opening closing 0) c
        stop ∧ AtPartner opening closing ts c.position stop := by
  obtain ⟨t, rest, hdrop⟩ := List.exists_cons_of_ne_nil
    (mt at_end_iff.2 (Nat.not_le_of_gt hc) : ts.drop c.position ≠ [])
  have hopening : t.text = opening := by rw [← peek_of_drop hdrop, hpeek]
  have hlength : (t :: rest).length = ts.length - c.position := by rw [← hdrop, List.length_drop]
  have hto (stop : Nat) (hstop : stop ≤ ts.length)
      (hleft : skipBrackets opening closing 0 (ts.drop c.position) = ts.drop stop) :
      SkipsTo ts (walkBrackets ts opening closing · 0) (skipBrackets opening closing 0) c stop := by
    refine skipsTo_of_stops (fun turns hturns => ?_) (fun turns hturns => ?_)
      (Nat.le_of_lt hc) hstop hleft
    · exact (walkBrackets_past opening closing 0 hturns).imp fun _ => Past.onward
    · rw [hdrop] at hturns ⊢
      exact walkBrackets_zero_stops hdrop hopening hturns
  have hmatched : LeftAtFirst (MatchedAt opening closing (t :: rest)) (t :: rest)
      (skipBrackets opening closing 0 (t :: rest)) := skipBrackets_matched hne.symm hopening
  simp only [AtPartner, hdrop]
  rcases hmatched with ⟨count, hfirst, hleft⟩ | ⟨hnone, hleft⟩
  · have hle := hfirst.1.2.1
    refine ⟨c.position + count, hto _ (by omega) ?_, .inl ⟨count, hfirst, rfl⟩⟩
    rw [hdrop, hleft, ← hdrop, List.drop_drop]
  · refine ⟨ts.length, hto _ (Nat.le_refl _) ?_, .inr ⟨hnone, rfl⟩⟩
    rw [hdrop, hleft, List.drop_length]

/-- From the first token of nested tokens, what follows them decides where a statement ends. -/
theorem statement_skipsTo {statement : List Token} (h : Nested [";"] statement)
    (hdrop : ts.drop c.position = statement ++ rest) (hrest : rest ≠ []) {count : Nat}
    (hcount : count ≤ rest.length) (hend : skipStatement rest = rest.drop count) :
    SkipsTo ts (walkStatement ts) skipStatement c (c.position + statement.length + count) := by
  have hlength : ts.length - c.position = statement.length + rest.length := by
    rw [← List.length_drop, hdrop, List.length_append]
  have hpos := List.length_pos_iff.2 hrest
  refine skipsTo_of_stops (fun turns => walkStatement_onward) (fun turns => walkStatement_stops rfl)
    (by omega) (by omega) ?_
  rw [hdrop, skipStatement_nested h, hend, Nat.add_assoc, ← List.drop_drop, hdrop,
    ← List.drop_drop, List.drop_left]

/-- Skipping stops exactly where it should. From an opening bracket the cursor goes just past the
first token up to which as many brackets of that kind have closed as have opened, or to the end.
From the first token of nested tokens without a semicolon outside brackets it goes just past a
semicolon that follows, and up to a closing brace that follows. Wherever the cursor stands, neither
skipper takes it back or finds a declaration. -/
theorem skipping_exact (ts : List Token) (c : Cursor) :
    (∀ opening closing, opening ≠ closing → c.position < ts.length →
      peek ts c.position = opening →
      ∃ stop, SkipsTo ts (walkBrackets ts opening closing · 0) (skipBrackets opening closing 0) c
          stop ∧ AtPartner opening closing ts c.position stop) ∧
    (∀ statement last rest, Nested [";"] statement →
      ts.drop c.position = statement ++ last :: rest →
      (last.text = ";" →
        SkipsTo ts (walkStatement ts) skipStatement c (c.position + statement.length + 1)) ∧
      (last.text = "\x7d" →
        SkipsTo ts (walkStatement ts) skipStatement c (c.position + statement.length))) ∧
    (∀ opening closing, OnlyMovesOn ts (walkBrackets ts opening closing · 0) c) ∧
    OnlyMovesOn ts (walkStatement ts) c := by
  refine ⟨fun opening closing hne hc hpeek => brackets_skipTo hne hc hpeek,
    fun statement last rest hnested hdrop => ⟨fun hlast => ?_, fun hlast => ?_⟩,
    fun opening closing => ?_, ?_⟩
  · exact statement_skipsTo hnested hdrop (List.cons_ne_nil _ _) (Nat.succ_pos _)
      (skipStatement_semicolon hlast rest)
  · exact statement_skipsTo hnested hdrop (List.cons_ne_nil _ _) (Nat.zero_le _)
      (skipStatement_close hlast rest)
  · exact onlyMovesOn_of_onward fun turns hturns =>
      (walkBrackets_past opening closing 0 hturns).imp fun _ => Past.onward
  · exact onlyMovesOn_of_onward fun turns => walkStatement_onward

/-- An initializer with a semicolon in braces, which are in parentheses, and its own semicolon. -/
def groupedTokens : List Token :=
  [⟨"x", 1, 0⟩, ⟨"=", 1, 2⟩, ⟨"(", 1, 4⟩, ⟨"\x7b", 1, 5⟩, ⟨";", 1, 6⟩, ⟨"\x7d", 1, 7⟩, ⟨")", 1, 8⟩,
    ⟨";", 1, 9⟩, ⟨"y", 1, 11⟩]

theorem nested_groupedTokens : Nested [";"] (groupedTokens.take 7) := by
  have hbraces : Nested [] [⟨"\x7b", 1, 5⟩, ⟨";", 1, 6⟩, ⟨"\x7d", 1, 7⟩] :=
    @Nested.group [] ⟨"\x7b", 1, 5⟩ ⟨"\x7d", 1, 7⟩ [⟨";", 1, 6⟩] [] (by decide)
      (.token (by decide) (by decide) .nil) .nil
  exact .token (by decide) (by decide) (.token (by decide) (by decide)
    (@Nested.group [";"] ⟨"(", 1, 4⟩ ⟨")", 1, 8⟩ _ [] (by decide) hbraces .nil))

theorem skipping_exact_groupedTokens :
    Nested [";"] (groupedTokens.take 7) ∧
      SkipsTo groupedTokens (walkStatement groupedTokens) skipStatement ⟨0, [], []⟩ 8 ∧
      ∃ stop, SkipsTo groupedTokens (walkBrackets groupedTokens "(" ")" · 0)
          (skipBrackets "(" ")" 0) ⟨2, [], []⟩ stop ∧ AtPartner "(" ")" groupedTokens 2 stop := by
  have hstatement := (skipping_exact groupedTokens ⟨0, [], []⟩).2.1 _ _ _ nested_groupedTokens rfl
  have hbrackets := (skipping_exact groupedTokens ⟨2, [], []⟩).1 "(" ")" (by decide) (by decide) rfl
  exact ⟨nested_groupedTokens, hstatement.1 rfl, hbrackets⟩

end JavadocTags.Java
