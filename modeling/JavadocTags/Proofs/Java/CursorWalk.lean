import JavadocTags.Proofs.Java.CursorTurns
import JavadocTags.Proofs.Java.TokenTexts

/-!
# The cursor reaches the end

The cursor is compared with the scanner by the tokens that lie before it: where a position is known
only through them, standing at the end and standing past it are the same. Every walk stops where the
corresponding function of the scanner leaves the tokens, if its loops may take more turns than there
are tokens left, and from the lengths of what is left it follows that a member moves the cursor.
-/
namespace JavadocTags.Java

variable {ts rest : List Token} {t : Token} {position turns : Nat}

/-! ## Positions -/

theorem at_end_iff : ts.length ≤ position ↔ ts.drop position = [] :=
  List.drop_eq_nil_iff.symm

theorem drop_add_one (ts : List Token) (position : Nat) :
    ts.drop (position + 1) = (ts.drop position).tail :=
  List.tail_drop.symm

theorem peek_eq (ts : List Token) (position : Nat) :
    peek ts position = nextText (ts.drop position) := by
  rw [peek]
  split
  next h => rw [List.drop_eq_getElem_cons h, nextText_cons]
  next h => rw [List.drop_eq_nil_of_le (Nat.le_of_not_lt h), nextText]

theorem tokenAt_eq (h : ts.drop position = t :: rest) : tokenAt ts position = .ok t := by
  have ht : ts[position]? = some t := by
    rw [← Nat.add_zero position, ← List.getElem?_drop, h]
    rfl
  rw [tokenAt, ht]

theorem not_at_end (h : ts.drop position = t :: rest) : ¬ ts.length ≤ position := by
  rw [at_end_iff, h]
  exact List.cons_ne_nil t rest

theorem peek_of_drop (h : ts.drop position = t :: rest) : peek ts position = t.text := by
  rw [peek_eq, h, nextText_cons]

theorem drop_of_drop (h : ts.drop position = t :: rest) : ts.drop (position + 1) = rest := by
  rw [drop_add_one, h, List.tail_cons]

/-! ## Walks that end -/

/-- A walk ends, breaks off nowhere and has a result of which `post` holds. -/
def Ends {α : Type} (w : Walk α) (post : α → Prop) : Prop :=
  ∃ a, w = .ok a ∧ post a

theorem ends_ok {α : Type} {post : α → Prop} {a : α} (h : post a) : Ends (.ok a) post :=
  ⟨a, rfl, h⟩

@[simp]
theorem ok_bind {α β : Type} (a : α) (next : α → Walk β) : (.ok a : Walk α) >>= next = next a := rfl

theorem Ends.bind {α β : Type} {w : Walk α} {next : α → Walk β} {mid : α → Prop}
    {post : β → Prop} (h : Ends w mid) (hnext : ∀ a, mid a → Ends (next a) post) :
    Ends (w >>= next) post := by
  obtain ⟨a, rfl, ha⟩ := h
  exact hnext a ha

theorem Ends.imp {α : Type} {w : Walk α} {mid post : α → Prop} (h : Ends w mid)
    (himp : ∀ a, mid a → post a) : Ends w post := by
  obtain ⟨a, rfl, ha⟩ := h
  exact ends_ok (himp a ha)

/-! ## Skipping -/

/-- A walk stops where `rest` lies before it. -/
abbrev StopsBefore (ts : List Token) (w : Walk Nat) (rest : List Token) : Prop :=
  Ends w fun stop => ts.drop stop = rest

/-- A loop with more turns than tokens are left takes one of them. -/
theorem exists_turn (h : rest.length < turns) : ∃ left, turns = left + 1 ∧ rest.length ≤ left := by
  cases turns with
  | zero => exact absurd h (Nat.not_lt_zero _)
  | succ left => exact ⟨left, rfl, Nat.le_of_lt_succ h⟩

theorem walkBrackets_stops {opening closing : String} {depth : Nat} (hdepth : 1 ≤ depth)
    (h : ts.drop position = rest) (hturns : rest.length < turns) :
    StopsBefore ts (walkBrackets ts opening closing turns depth position)
      (skipBrackets opening closing depth rest) := by
  fun_induction skipBrackets opening closing depth rest generalizing position turns with
  | case1 depth =>
      obtain ⟨turns, rfl, -⟩ := exists_turn hturns
      rw [walkBrackets, if_pos (at_end_iff.2 h)]
      exact ends_ok h
  | case2 depth t rest hopening ih =>
      obtain ⟨turns, rfl, hless⟩ := exists_turn hturns
      rw [walkBrackets, if_neg (not_at_end h), peek_of_drop h, if_pos hopening]
      exact ih (Nat.le_succ_of_le hdepth) (drop_of_drop h) hless
  | case3 t rest hopening hclosing =>
      obtain ⟨turns, rfl, -⟩ := exists_turn hturns
      rw [walkBrackets, if_neg (not_at_end h), peek_of_drop h, if_neg hopening, if_pos hclosing,
        if_pos (by decide)]
      exact ends_ok (drop_of_drop h)
  | case4 depth t rest hopening hclosing hone ih =>
      obtain ⟨turns, rfl, hless⟩ := exists_turn hturns
      have houter : (depth : Int) - 1 = ((depth - 1 : Nat) : Int) := by omega
      rw [walkBrackets, if_neg (not_at_end h), peek_of_drop h, if_neg hopening, if_pos hclosing,
        houter, if_neg (by omega)]
      exact ih (by omega) (drop_of_drop h) hless
  | case5 depth t rest hopening hclosing ih =>
      obtain ⟨turns, rfl, hless⟩ := exists_turn hturns
      rw [walkBrackets, if_neg (not_at_end h), peek_of_drop h, if_neg hopening, if_neg hclosing]
      exact ih hdepth (drop_of_drop h) hless

theorem walkBrackets_zero_stops {opening closing : String} (h : ts.drop position = t :: rest)
    (hopening : t.text = opening) (hturns : (t :: rest).length < turns) :
    StopsBefore ts (walkBrackets ts opening closing turns 0 position)
      (skipBrackets opening closing 0 (t :: rest)) := by
  obtain ⟨turns, rfl, hless⟩ := exists_turn hturns
  rw [walkBrackets, if_neg (not_at_end h), peek_of_drop h, if_pos hopening, skipBrackets,
    if_pos hopening]
  exact walkBrackets_stops (Nat.le_refl 1) (drop_of_drop h) hless

theorem walkBraces_stops (h : ts.drop position = t :: rest) (hopening : t.text = "\x7b")
    (hturns : (t :: rest).length < turns) :
    StopsBefore ts (walkBraces ts turns position) (skipBraces (t :: rest)) :=
  walkBrackets_zero_stops h hopening hturns

theorem walkParentheses_stops (h : ts.drop position = t :: rest) (hopening : t.text = "(")
    (hturns : (t :: rest).length < turns) :
    StopsBefore ts (walkParentheses ts turns position) (skipParentheses (t :: rest)) :=
  walkBrackets_zero_stops h hopening hturns

theorem walkStatement_stops (h : ts.drop position = rest) (hturns : rest.length < turns) :
    StopsBefore ts (walkStatement ts turns position) (skipStatement rest) := by
  fun_induction skipStatement rest generalizing position turns with
  | case1 =>
      obtain ⟨turns, rfl, -⟩ := exists_turn hturns
      rw [walkStatement, if_pos (at_end_iff.2 h)]
      exact ends_ok h
  | case2 t rest hsemicolon =>
      obtain ⟨turns, rfl, -⟩ := exists_turn hturns
      rw [walkStatement, if_neg (not_at_end h), peek_of_drop h, if_pos hsemicolon]
      exact ends_ok (drop_of_drop h)
  | case3 t rest hsemicolon hbrace ih =>
      obtain ⟨turns, rfl, hless⟩ := exists_turn hturns
      have hskip := Nat.lt_of_le_of_lt (skipBraces_cons_length_le t rest) hless
      rw [walkStatement, if_neg (not_at_end h), peek_of_drop h, if_neg hsemicolon, if_pos hbrace]
      exact (walkBraces_stops h hbrace hturns).bind fun stop hstop => ih hstop hskip
  | case4 t rest hsemicolon hbrace hparen ih =>
      obtain ⟨turns, rfl, hless⟩ := exists_turn hturns
      have hskip := Nat.lt_of_le_of_lt (skipParentheses_cons_length_le t rest) hless
      rw [walkStatement, if_neg (not_at_end h), peek_of_drop h, if_neg hsemicolon, if_neg hbrace,
        if_pos hparen]
      exact (walkParentheses_stops h hparen hturns).bind fun stop hstop => ih hstop hskip
  | case5 t rest hsemicolon hbrace hparen hclose =>
      obtain ⟨turns, rfl, -⟩ := exists_turn hturns
      rw [walkStatement, if_neg (not_at_end h), peek_of_drop h, if_neg hsemicolon, if_neg hbrace,
        if_neg hparen, if_pos hclose]
      exact ends_ok h
  | case6 t rest hsemicolon hbrace hparen hclose ih =>
      obtain ⟨turns, rfl, hless⟩ := exists_turn hturns
      rw [walkStatement, if_neg (not_at_end h), peek_of_drop h, if_neg hsemicolon, if_neg hbrace,
        if_neg hparen, if_neg hclose]
      exact ih (drop_of_drop h) hless

theorem walkQualifiers_stops (h : ts.drop position = rest) (hturns : rest.length < turns) :
    StopsBefore ts (walkQualifiers ts turns position) (skipQualifiers rest) := by
  have hnext : peek ts (position + 1) = nextText rest.tail := by
    rw [peek_eq, drop_add_one, h]
  fun_induction skipQualifiers rest generalizing position turns with
  | case1 dot name rest hqualifier ih =>
      obtain ⟨turns, rfl, hless⟩ := exists_turn hturns
      rw [walkQualifiers, peek_of_drop h, hnext, List.tail_cons, nextText_cons, if_pos hqualifier]
      have hrest := drop_of_drop (drop_of_drop h)
      refine ih hrest (Nat.lt_of_succ_lt hless) ?_
      rw [peek_eq, drop_add_one, hrest]
  | case2 dot name rest hqualifier =>
      obtain ⟨turns, rfl, -⟩ := exists_turn hturns
      rw [walkQualifiers, peek_of_drop h, hnext, List.tail_cons, nextText_cons, if_neg hqualifier]
      exact ends_ok h
  | case3 ts' hshort =>
      obtain ⟨turns, rfl, -⟩ := exists_turn hturns
      rw [walkQualifiers, hnext, if_neg]
      · exact ends_ok h
      · intro hqualifier
        cases ts' with
        | nil => exact absurd hqualifier.2 (by decide : ¬ isIdentifier "" = true)
        | cons dot rest =>
            cases rest with
            | nil => exact absurd hqualifier.2 (by decide : ¬ isIdentifier "" = true)
            | cons name rest => exact hshort dot name rest rfl

theorem walkArguments_stops (h : ts.drop position = rest) (hturns : rest.length < turns) :
    StopsBefore ts (walkArguments ts turns position) (skipArguments rest) := by
  rw [walkArguments, skipArguments, peek_eq, h]
  split
  next hparen =>
    cases rest with
    | nil => exact absurd hparen (by decide)
    | cons t rest => exact walkParentheses_stops h hparen hturns
  next => exact ends_ok h

theorem walkBlock_stops (h : ts.drop position = rest) (hturns : rest.length < turns) :
    StopsBefore ts (walkBlock ts turns position)
      (if nextText rest = "\x7b" then skipBraces rest else rest) := by
  rw [walkBlock, peek_eq, h]
  split
  next hbrace =>
    cases rest with
    | nil => exact absurd hbrace (by decide)
    | cons t rest => exact walkBraces_stops h hbrace hturns
  next => exact ends_ok h

theorem walkAnnotationFrom_stops (h : ts.drop position = t :: rest)
    (hturns : rest.length < turns) :
    StopsBefore ts (walkAnnotationFrom ts turns position) (skipAnnotationBody rest) := by
  have hrest := drop_of_drop h
  rw [walkAnnotationFrom, skipAnnotationBody, peek_eq, hrest]
  split
  · have hname : ts.drop (position + 2) = rest.tail := by rw [drop_add_one, hrest]
    have htail : rest.tail.length < turns :=
      Nat.lt_of_le_of_lt (List.tail_suffix rest).length_le hturns
    have hqualifiers := Nat.lt_of_le_of_lt (skipQualifiers_length_le rest.tail) htail
    exact (walkQualifiers_stops hname htail).bind fun stop hstop =>
      walkArguments_stops hstop hqualifiers
  · exact walkArguments_stops hrest hturns

theorem walkAnnotations_stops (h : ts.drop position = rest) (hturns : rest.length < turns) :
    StopsBefore ts (walkAnnotations ts turns position) (skipAnnotations rest) := by
  fun_induction skipAnnotations rest generalizing position turns with
  | case1 =>
      obtain ⟨turns, rfl, -⟩ := exists_turn hturns
      rw [walkAnnotations, peek_eq, h, if_neg (by decide)]
      exact ends_ok h
  | case2 t rest hat ih =>
      obtain ⟨turns, rfl, hless⟩ := exists_turn hturns
      have hskip := Nat.lt_of_le_of_lt (skipAnnotationBody_length_le rest) hless
      rw [walkAnnotations, peek_of_drop h, if_pos hat]
      exact (walkAnnotationFrom_stops h (Nat.lt_succ_of_lt hless)).bind fun stop hstop =>
        ih hstop hskip
  | case3 t rest hat =>
      obtain ⟨turns, rfl, -⟩ := exists_turn hturns
      rw [walkAnnotations, peek_of_drop h, if_neg hat]
      exact ends_ok h

theorem walkHeader_stops (h : ts.drop position = rest) (hturns : rest.length < turns) :
    StopsBefore ts (walkHeader ts turns position) (skipHeader rest) := by
  fun_induction skipHeader rest generalizing position turns with
  | case1 =>
      obtain ⟨turns, rfl, -⟩ := exists_turn hturns
      rw [walkHeader, if_pos (.inl (at_end_iff.2 h))]
      exact ends_ok h
  | case2 t rest hends =>
      obtain ⟨turns, rfl, -⟩ := exists_turn hturns
      rw [walkHeader, peek_of_drop h, if_pos (.inr hends)]
      exact ends_ok h
  | case3 t rest hends hparen ih =>
      obtain ⟨turns, rfl, hless⟩ := exists_turn hturns
      have hskip := Nat.lt_of_le_of_lt (skipParentheses_cons_length_le t rest) hless
      rw [walkHeader, peek_of_drop h, if_neg (not_or.2 ⟨not_at_end h, hends⟩), if_pos hparen]
      exact (walkParentheses_stops h hparen hturns).bind fun stop hstop => ih hstop hskip
  | case4 t rest hends hparen ih =>
      obtain ⟨turns, rfl, hless⟩ := exists_turn hturns
      rw [walkHeader, peek_of_drop h, if_neg (not_or.2 ⟨not_at_end h, hends⟩), if_neg hparen]
      exact ih (drop_of_drop h) hless

theorem walkCallableTail_stops {isField : Bool} (h : ts.drop position = rest)
    (hturns : rest.length < turns) :
    StopsBefore ts (walkCallableTail ts isField turns position)
      (skipCallableTail isField rest) := by
  fun_induction skipCallableTail isField rest generalizing position turns with
  | case1 =>
      obtain ⟨turns, rfl, -⟩ := exists_turn hturns
      rw [walkCallableTail, if_pos (at_end_iff.2 h)]
      exact ends_ok h
  | case2 t rest hbrace hfield ih =>
      obtain ⟨turns, rfl, hless⟩ := exists_turn hturns
      have hskip := Nat.lt_of_le_of_lt (skipBraces_cons_length_le t rest) hless
      rw [walkCallableTail, if_neg (not_at_end h), peek_of_drop h, if_pos hbrace, if_pos hfield]
      exact (walkBraces_stops h hbrace hturns).bind fun stop hstop => ih hstop hskip
  | case3 t rest hbrace hfield =>
      obtain ⟨turns, rfl, -⟩ := exists_turn hturns
      rw [walkCallableTail, if_neg (not_at_end h), peek_of_drop h, if_pos hbrace, if_neg hfield]
      exact walkBraces_stops h hbrace hturns
  | case4 t rest hbrace hparen ih =>
      obtain ⟨turns, rfl, hless⟩ := exists_turn hturns
      have hskip := Nat.lt_of_le_of_lt (skipParentheses_cons_length_le t rest) hless
      rw [walkCallableTail, if_neg (not_at_end h), peek_of_drop h, if_neg hbrace, if_pos hparen]
      exact (walkParentheses_stops h hparen hturns).bind fun stop hstop => ih hstop hskip
  | case5 t rest hbrace hparen hsemicolon =>
      obtain ⟨turns, rfl, -⟩ := exists_turn hturns
      rw [walkCallableTail, if_neg (not_at_end h), peek_of_drop h, if_neg hbrace, if_neg hparen,
        if_pos hsemicolon]
      exact ends_ok (drop_of_drop h)
  | case6 t rest hbrace hparen hsemicolon hclose =>
      obtain ⟨turns, rfl, -⟩ := exists_turn hturns
      rw [walkCallableTail, if_neg (not_at_end h), peek_of_drop h, if_neg hbrace, if_neg hparen,
        if_neg hsemicolon, if_pos hclose]
      exact ends_ok h
  | case7 t rest hbrace hparen hsemicolon hclose ih =>
      obtain ⟨turns, rfl, hless⟩ := exists_turn hturns
      rw [walkCallableTail, if_neg (not_at_end h), peek_of_drop h, if_neg hbrace, if_neg hparen,
        if_neg hsemicolon, if_neg hclose]
      exact ih (drop_of_drop h) hless

/-! ## Constants and callables -/

/-- A cursor has gone on to where `rest` lies before it and has found some declarations. -/
structure Moved (ts : List Token) (c : Cursor) (found : List Declaration) (rest : List Token)
    (next : Cursor) : Prop where
  found : next.found = c.found ++ found
  rest : ts.drop next.position = rest
  members : next.members = c.members

variable {c next : Cursor}

theorem Moved.of_stop {stop : Nat} (h : ts.drop stop = rest) :
    Moved ts c [] rest (c.moveTo stop) :=
  ⟨(List.append_nil _).symm, h, rfl⟩

theorem Moved.of_moveTo {stop : Nat} {found : List Declaration}
    (h : Moved ts (c.moveTo stop) found rest next) : Moved ts c found rest next :=
  ⟨h.found, h.rest, h.members⟩

/-- What is found after declarations are recorded comes after them. -/
theorem Moved.of_record {stop : Nat} {first found : List Declaration}
    (h : Moved ts ((c.record first).moveTo stop) found rest next) :
    Moved ts c (first ++ found) rest next :=
  ⟨h.found.trans (List.append_assoc _ _ _), h.rest, h.members⟩

theorem walkConstants_at_end (h : ts.drop c.position = []) (hturns : 0 < turns) :
    Ends (walkConstants ts turns c) (Moved ts c [] []) := by
  obtain ⟨turns, rfl⟩ := Nat.exists_eq_add_one.2 hturns
  rw [walkConstants, if_pos (at_end_iff.2 h)]
  exact ends_ok (.of_stop h)

theorem walkConstants_ends (h : ts.drop c.position = rest) (hturns : rest.length < turns) :
    Ends (walkConstants ts turns c)
      (Moved ts c (enumConstants rest).1 (enumConstants rest).2) := by
  fun_induction enumConstants rest generalizing c turns with
  | case1 => exact walkConstants_at_end h hturns
  | case2 t rest hsemicolon =>
      obtain ⟨turns, rfl, -⟩ := exists_turn hturns
      rw [walkConstants, if_neg (not_at_end h), peek_of_drop h, if_pos hsemicolon]
      exact ends_ok (.of_stop (drop_of_drop h))
  | case3 t rest hsemicolon hclose =>
      obtain ⟨turns, rfl, -⟩ := exists_turn hturns
      rw [walkConstants, if_neg (not_at_end h), peek_of_drop h, if_neg hsemicolon, if_pos hclose]
      exact ends_ok (.of_stop h)
  | case4 t rest hsemicolon hclose hcomma ih =>
      obtain ⟨turns, rfl, hless⟩ := exists_turn hturns
      rw [walkConstants, if_neg (not_at_end h), peek_of_drop h, if_neg hsemicolon, if_neg hclose,
        if_pos hcomma]
      exact (ih (drop_of_drop h) hless).imp fun _ => .of_moveTo
  | case5 t rest hsemicolon hclose hcomma hnone =>
      obtain ⟨turns, rfl, hless⟩ := exists_turn hturns
      rw [walkConstants, if_neg (not_at_end h), peek_of_drop h, if_neg hsemicolon, if_neg hclose,
        if_neg hcomma, tokenAt_eq h]
      refine (walkAnnotations_stops h hturns).bind fun named hnamed => ?_
      rw [hnone] at hnamed
      have hpast : ts.drop (named + 1) = [] := by rw [drop_add_one, hnamed, List.tail_nil]
      rw [peek_eq, hnamed, if_neg (by decide)]
      exact (walkConstants_at_end hpast (Nat.zero_lt_of_lt hless)).imp fun _ => .of_moveTo
  | case6 t rest hsemicolon hclose hcomma name after hname hidentifier afterArguments next found
      left =>
      rename_i hrec ih
      obtain ⟨turns, rfl, hless⟩ := exists_turn hturns
      have hafter := skipAnnotations_length_le (t :: rest)
      rw [hname, List.length_cons] at hafter
      have harguments := skipArguments_length_le after
      have htail : next.length ≤ after.length := skipConstantTail_length_le after
      rw [walkConstants, if_neg (not_at_end h), peek_of_drop h, if_neg hsemicolon, if_neg hclose,
        if_neg hcomma, tokenAt_eq h]
      refine (walkAnnotations_stops h hturns).bind fun named hnamed => ?_
      rw [hname] at hnamed
      rw [peek_of_drop hnamed, if_pos hidentifier]
      refine (walkArguments_stops (drop_of_drop hnamed) (by omega)).bind fun block hblock => ?_
      refine (walkBlock_stops hblock (by omega)).bind fun stop hstop => ?_
      rw [hrec] at ih
      exact (ih hstop (by omega)).imp fun _ => .of_record
  | case7 t rest hsemicolon hclose hcomma name after hname hidentifier ih =>
      obtain ⟨turns, rfl, hless⟩ := exists_turn hturns
      have hafter := skipAnnotations_length_le (t :: rest)
      rw [hname] at hafter
      rw [walkConstants, if_neg (not_at_end h), peek_of_drop h, if_neg hsemicolon, if_neg hclose,
        if_neg hcomma, tokenAt_eq h]
      refine (walkAnnotations_stops h hturns).bind fun named hnamed => ?_
      rw [hname] at hnamed
      rw [peek_of_drop hnamed, if_neg hidentifier]
      exact (ih (drop_of_drop hnamed) (Nat.le_trans hafter hless)).imp fun _ => .of_moveTo

theorem walkCallable_ends {enclosing : Option Enclosing} {name : String} {start : Token}
    (h : ts.drop c.position = t :: rest) (hparen : t.text = "(")
    (hturns : (t :: rest).length < turns) :
    Ends (walkCallable ts turns enclosing name start c)
      (Moved ts c (callableDeclaration enclosing name start (t :: rest)).found
        (callableDeclaration enclosing name start (t :: rest)).rest) := by
  have hskip := Nat.le_succ_of_le (skipParentheses_cons_length_le t rest)
  rw [walkCallable]
  refine (walkParentheses_stops h hparen hturns).bind fun parameters hparameters => ?_
  have htail := Nat.lt_of_le_of_lt hskip hturns
  refine (walkCallableTail_stops hparameters htail).bind fun stop hstop => ?_
  exact ends_ok ⟨rfl, hstop, rfl⟩

/-! ## Members and bodies -/

/-- The members that loops have read reach forward. -/
def Cursor.GoesForward (c : Cursor) : Prop :=
  ∀ m ∈ c.members, m.1 < m.2

/-- A cursor has gone through what a step reads and through the body that it opens: it has found
what the scanner reports up to there, whatever bodies are open around. -/
structure Finished (ts : List Token) (c : Cursor) (step : Step) (next : Cursor) : Prop where
  found : ∃ inner, next.found = c.found ++ inner ∧
    ∀ bodies, step.resume bodies = inner ++ scanFrom bodies (ts.drop next.position)
  length_le : (ts.drop next.position).length ≤ step.rest.length
  forward : c.GoesForward → next.GoesForward

theorem Moved.forward {found : List Declaration} (h : Moved ts c found rest next)
    (hc : c.GoesForward) : next.GoesForward := by
  rwa [Cursor.GoesForward, h.members]

theorem Moved.finished {found : List Declaration} (h : Moved ts c found rest next) :
    Finished ts c ⟨found, rest, none⟩ next where
  found := ⟨found, h.found, fun _ => by rw [h.rest]; rfl⟩
  length_le := Nat.le_of_eq (congrArg List.length h.rest)
  forward := h.forward

theorem Moved.closes (h : Moved ts c [] rest next) {e : Enclosing} {left : List Token}
    (hscan : ∀ bodies, scanFrom (e :: bodies) left = scanFrom bodies rest)
    (hle : rest.length ≤ left.length) : Finished ts c ⟨[], left, some e⟩ next where
  found := ⟨[], h.found, fun bodies => by rw [h.rest]; exact hscan bodies⟩
  length_le := by rw [h.rest]; exact hle
  forward := h.forward

theorem Finished.of_moveTo {stop : Nat} {step : Step}
    (h : Finished ts (c.moveTo stop) step next) : Finished ts c step next :=
  ⟨h.found, h.length_le, h.forward⟩

theorem StopsBefore.finished {w : Walk Nat} (h : StopsBefore ts w rest) (c : Cursor) :
    Ends (do return c.moveTo (← w)) (Finished ts c ⟨[], rest, none⟩) :=
  h.bind fun _ hstop => ends_ok (Moved.of_stop hstop).finished

/-- Bodies of which fewer than a number of tokens are left are walked through. -/
def WalksBodies (ts : List Token) (body : Enclosing → Cursor → Walk Cursor) (count : Nat) : Prop :=
  ∀ e c, (ts.drop c.position).length < count →
    Ends (body e c) (Finished ts c ⟨[], ts.drop c.position, some e⟩)

section Members
variable {body : Enclosing → Cursor → Walk Cursor} {count : Nat}
  (hbodies : WalksBodies ts body count)
include hbodies

theorem WalksBodies.of_moved {found : List Declaration} {e : Enclosing}
    (h : Moved ts c found rest next) (hlt : rest.length < count) :
    Ends (body e next) (Finished ts c ⟨found, rest, some e⟩) := by
  have hforward := h.forward
  obtain ⟨hfound, rfl, -⟩ := h
  refine (hbodies e next hlt).imp fun last hlast => ?_
  obtain ⟨inner, hinner, hscan⟩ := hlast.found
  refine ⟨⟨found ++ inner, ?_, fun bodies => ?_⟩, hlast.length_le,
    fun hc => hlast.forward (hforward hc)⟩
  · rw [hinner, hfound, List.append_assoc]
  · rw [List.append_assoc, ← hscan bodies]
    rfl

theorem walkType_ends {kind : Option DeclarationKind} {start : Token}
    (h : ts.drop c.position = rest) (hle : rest.length ≤ count) (hturns : rest.length < turns) :
    Ends (walkType ts body turns kind start c)
      (Finished ts c (typeDeclaration kind start rest)) := by
  have htail := List.length_tail (l := rest)
  have hshorter := skipHeader_length_le rest.tail
  have hheader : StopsBefore ts (walkHeader ts turns (c.position + 1)) (skipHeader rest.tail) :=
    walkHeader_stops ((drop_add_one ts c.position).trans (congrArg List.tail h)) (by omega)
  rw [walkType, typeDeclaration, peek_eq, h]
  refine hheader.bind fun header hstop => ?_
  rw [peek_eq, hstop]
  cases hleft : skipHeader rest.tail with
  | nil =>
      rw [if_neg (by decide : ¬ nextText [] = "\x7b")]
      exact ends_ok (Moved.finished ⟨rfl, hstop.trans hleft, rfl⟩)
  | cons t after =>
      rw [hleft] at hstop hshorter
      rw [List.length_cons] at hshorter
      have hafter := drop_of_drop hstop
      rw [nextText_cons]
      by_cases hbrace : t.text = "\x7b"
      · simp only [if_pos hbrace]
        by_cases henum : kind = some .enumType
        · simp only [if_pos henum]
          have hconstants := enumConstants_length_le after
          refine (walkConstants_ends hafter (by omega)).bind fun b hb => ?_
          exact hbodies.of_moved hb.of_record (by omega)
        · simp only [if_neg henum]
          exact hbodies.of_moved ⟨rfl, hafter, rfl⟩ (by omega)
      · simp only [if_neg hbrace]
        exact ends_ok (Moved.finished ⟨rfl, hstop, rfl⟩)

omit hbodies in
theorem walkMemberFrom_other {enclosing : Option Enclosing} {start : Token}
    (h : ts.drop c.position = t :: rest) (hsign : t.text ≠ "@")
    (hkeyword : ∀ kind, typeKeyword? t.text = some kind →
      isIdentifier (nextText rest) = true → False) (previous : String) :
    walkMemberFrom ts body enclosing start (turns + 1) previous c =
      if t.text = "(" ∧ isIdentifier previous then
        walkCallable ts (turns + 1) enclosing previous start c
      else if t.text = "\x7b" then do return c.moveTo (← walkBraces ts (turns + 1) c.position)
      else if t.text = "=" ∨ t.text = "(" then do
        return c.moveTo (← walkStatement ts (turns + 1) c.position)
      else if t.text = ";" then .ok (c.advance 1)
      else if t.text = "\x7d" then .ok c
      else walkMemberFrom ts body enclosing start turns t.text (c.advance 1) := by
  rw [walkMemberFrom, if_neg (not_at_end h), peek_of_drop h, if_neg fun hat => hsign hat.1,
    if_neg hsign, peek_eq, drop_of_drop h]
  split
  next kind hkind hname => exact (hkeyword kind hkind hname).elim
  next => rfl

theorem walkMemberFrom_annotationType_ends {enclosing : Option Enclosing} {start : Token}
    (h : ts.drop c.position = t :: rest) (hsign : t.text = "@")
    (hinterface : nextText rest = "interface") (hle : (t :: rest).length ≤ count)
    (hturns : (t :: rest).length < turns) (previous : String) :
    Ends (walkMemberFrom ts body enclosing start turns previous c)
      (Finished ts c (typeDeclaration (some .annotationType) start rest.tail)) := by
  obtain ⟨turns, rfl, hless⟩ := exists_turn hturns
  have hrest := drop_of_drop h
  have hafter : ts.drop (c.advance 2).position = rest.tail :=
    (drop_add_one ts (c.position + 1)).trans (congrArg List.tail hrest)
  have htail := List.length_tail (l := rest)
  rw [List.length_cons] at hle hless
  rw [walkMemberFrom, if_neg (not_at_end h), peek_of_drop h, peek_eq, hrest,
    if_pos ⟨hsign, hinterface⟩]
  exact (walkType_ends hbodies hafter (by omega) (by omega)).imp fun _ => .of_moveTo

theorem walkMemberFrom_typeKeyword_ends {enclosing : Option Enclosing} {start : Token}
    {kind : Option DeclarationKind} (h : ts.drop c.position = t :: rest) (hsign : t.text ≠ "@")
    (hkeyword : typeKeyword? t.text = some kind) (hname : isIdentifier (nextText rest) = true)
    (hle : (t :: rest).length ≤ count) (hturns : (t :: rest).length < turns) (previous : String) :
    Ends (walkMemberFrom ts body enclosing start turns previous c)
      (Finished ts c (typeDeclaration kind start rest)) := by
  obtain ⟨turns, rfl, hless⟩ := exists_turn hturns
  rw [List.length_cons] at hle hless
  rw [walkMemberFrom, if_neg (not_at_end h), peek_of_drop h, peek_eq, drop_of_drop h,
    if_neg fun hat => hsign hat.1, if_neg hsign, hkeyword, hname]
  exact (walkType_ends hbodies (drop_of_drop h) (by omega) (by omega)).imp fun _ => .of_moveTo

omit hbodies in
theorem walkMemberFrom_annotationSign {enclosing : Option Enclosing} {start : Token}
    (h : ts.drop c.position = t :: rest) (hsign : t.text = "@")
    (hinterface : nextText rest ≠ "interface") (previous : String) :
    walkMemberFrom ts body enclosing start (turns + 1) previous c =
      walkAnnotationFrom ts (turns + 1) c.position >>= fun stop =>
        walkMemberFrom ts body enclosing start turns previous (c.moveTo stop) := by
  rw [walkMemberFrom, if_neg (not_at_end h), peek_of_drop h, peek_eq, drop_of_drop h,
    if_neg fun hat => hinterface hat.2, if_pos hsign]

omit hbodies in
/-- A bracket, a value, a semicolon or a closing brace is the last that is read of a member. -/
theorem walkMemberFrom_last_ends {enclosing : Option Enclosing} {start : Token} {previous : String}
    (h : ts.drop c.position = t :: rest) (hsign : t.text ≠ "@")
    (hkeyword : ∀ kind, typeKeyword? t.text = some kind →
      isIdentifier (nextText rest) = true → False)
    (hlast : t.text ∈ ["(", "\x7b", "=", ";", "\x7d"]) (hturns : (t :: rest).length < turns) :
    Ends (walkMemberFrom ts body enclosing start turns previous c)
      (Finished ts c (memberFrom enclosing start previous (t :: rest))) := by
  obtain ⟨turns, rfl, -⟩ := exists_turn hturns
  rw [walkMemberFrom_other h hsign hkeyword, memberFrom_other hsign hkeyword]
  split
  next hparen => exact (walkCallable_ends h hparen.1 hturns).imp fun _ => Moved.finished
  next =>
    split
    next hbrace => exact (walkBraces_stops h hbrace hturns).finished c
    next =>
      split
      next => exact (walkStatement_stops h hturns).finished c
      next =>
        split
        next => exact ends_ok (Moved.of_stop (drop_of_drop h)).finished
        next =>
          split
          next => exact ends_ok (Moved.of_stop h).finished
          next => simp_all

theorem walkMemberFrom_ends {enclosing : Option Enclosing} {start : Token} {previous : String}
    (h : ts.drop c.position = rest) (hle : rest.length ≤ count) (hturns : rest.length < turns) :
    Ends (walkMemberFrom ts body enclosing start turns previous c)
      (Finished ts c (memberFrom enclosing start previous rest)) := by
  induction previous, rest using memberFrom.induct generalizing c turns with
  | case1 previous =>
      obtain ⟨turns, rfl, -⟩ := exists_turn hturns
      rw [walkMemberFrom, if_pos (at_end_iff.2 h), memberFrom_nil]
      exact ends_ok (Moved.of_stop h).finished
  | case2 previous t rest hsign hinterface =>
      rw [memberFrom_annotationType hsign hinterface]
      exact walkMemberFrom_annotationType_ends hbodies h hsign hinterface hle hturns previous
  | case3 previous t rest hsign hinterface ih =>
      obtain ⟨turns, rfl, hless⟩ := exists_turn hturns
      have hskip := skipAnnotationBody_length_le rest
      rw [List.length_cons] at hle hless
      rw [walkMemberFrom_annotationSign h hsign hinterface,
        memberFrom_annotationSign hsign hinterface]
      refine (walkAnnotationFrom_stops h (by omega)).bind fun stop hstop => ?_
      exact (ih hstop (by omega) (by omega)).imp fun _ => .of_moveTo
  | case4 previous t rest hsign kind hname hkeyword =>
      rw [memberFrom_typeKeyword hkeyword hname]
      exact walkMemberFrom_typeKeyword_ends hbodies h hsign hkeyword hname hle hturns previous
  | case5 previous t rest hsign hparen hkeyword =>
      exact walkMemberFrom_last_ends h hsign hkeyword (by simp [hparen.1]) hturns
  | case6 previous t rest hsign _ hbrace hkeyword =>
      exact walkMemberFrom_last_ends h hsign hkeyword (by simp [hbrace]) hturns
  | case7 previous t rest hsign _ _ hassign hkeyword =>
      have hlast : t.text ∈ ["(", "\x7b", "=", ";", "\x7d"] := by
        rcases hassign with hassign | hassign <;> simp [hassign]
      exact walkMemberFrom_last_ends h hsign hkeyword hlast hturns
  | case8 previous t rest hsign _ _ _ hsemicolon hkeyword =>
      exact walkMemberFrom_last_ends h hsign hkeyword (by simp [hsemicolon]) hturns
  | case9 previous t rest hsign _ _ _ _ hclose hkeyword =>
      exact walkMemberFrom_last_ends h hsign hkeyword (by simp [hclose]) hturns
  | case10 previous t rest hsign hparen hbrace hassign hsemicolon hclose hkeyword ih =>
      obtain ⟨turns, rfl, hless⟩ := exists_turn hturns
      rw [walkMemberFrom_other h hsign hkeyword, memberFrom_other hsign hkeyword, if_neg hparen,
        if_neg hparen, if_neg hbrace, if_neg hbrace, if_neg hassign, if_neg hassign,
        if_neg hsemicolon, if_neg hsemicolon, if_neg hclose, if_neg hclose]
      exact (ih (drop_of_drop h) (Nat.le_of_succ_le hle) hless).imp fun _ => .of_moveTo

theorem walkMember_ends {enclosing : Option Enclosing} (h : ts.drop c.position = t :: rest)
    (hle : (t :: rest).length ≤ count) (hturns : (t :: rest).length < turns) :
    Ends (walkMember ts body turns enclosing c) (Finished ts c (member enclosing t rest)) := by
  rw [walkMember, tokenAt_eq h, ok_bind, peek_eq, drop_of_drop h, member]
  by_cases hbrace : t.text = "\x7b"
  · rw [if_pos hbrace, if_pos hbrace]
    exact (walkBraces_stops h hbrace hturns).finished c
  · rw [if_neg hbrace, if_neg hbrace]
    by_cases hstatic : t.text = "static" ∧ nextText rest = "\x7b"
    · rw [if_pos hstatic, if_pos hstatic]
      cases rest with
      | nil => exact absurd hstatic.2 (by decide)
      | cons brace rest =>
          have hless := Nat.lt_of_succ_lt hturns
          exact (walkBraces_stops (drop_of_drop h) hstatic.2 hless).finished c
    · rw [if_neg hstatic, if_neg hstatic]
      exact walkMemberFrom_ends hbodies h hle hturns

end Members

/-- A member that does not begin with a closing brace moves the cursor forward. -/
theorem Finished.position_lt {enclosing : Option Enclosing}
    (hmember : Finished ts c (member enclosing t rest) next) (h : ts.drop c.position = t :: rest)
    (hclose : t.text ≠ "\x7d") : c.position < next.position := by
  have hle := hmember.length_le
  have hless := member_length_le enclosing t rest hclose
  have hlength := congrArg List.length h
  rw [List.length_cons] at hlength
  rw [List.length_drop] at hlength hle
  omega

theorem Finished.noteMember {step : Step} (h : Finished ts c step next)
    (hlt : c.position < next.position) : Finished ts c step (next.noteMember c.position) where
  found := h.found
  length_le := h.length_le
  forward hc m hm := by
    obtain hm | hm := List.mem_append.1 hm
    · exact h.forward hc m hm
    · rw [List.mem_singleton.1 hm]
      exact hlt

/-- A body whose first member is a step is walked through by going through the step and then through
the rest of the body. -/
theorem Finished.then {step : Step} {e : Enclosing} {left : List Token} {last : Cursor}
    (h : Finished ts c step next)
    (hlast : Finished ts next ⟨[], ts.drop next.position, some e⟩ last)
    (hscan : ∀ bodies, scanFrom (e :: bodies) left = step.resume (e :: bodies))
    (hle : step.rest.length ≤ left.length) : Finished ts c ⟨[], left, some e⟩ last := by
  obtain ⟨first, hfirst, hstep⟩ := h.found
  obtain ⟨inner, hinner, hbody⟩ := hlast.found
  refine ⟨⟨first ++ inner, ?_, fun bodies => ?_⟩, ?_, fun hc => hlast.forward (h.forward hc)⟩
  · rw [hinner, hfirst, List.append_assoc]
  · rw [List.append_assoc, ← hbody bodies]
    exact (hscan bodies).trans (hstep (e :: bodies))
  · exact Nat.le_trans hlast.length_le (Nat.le_trans h.length_le hle)

/-- The loop over a body ends if it may take more turns than there are tokens left. -/
theorem walksBodies (ts : List Token) (turns : Nat) : WalksBodies ts (walkBody ts turns) turns := by
  induction turns with
  | zero => exact fun e c h => absurd h (Nat.not_lt_zero _)
  | succ turns ih =>
      intro e c hlt
      cases h : ts.drop c.position with
      | nil =>
          rw [walkBody, if_pos (at_end_iff.2 h)]
          refine ends_ok ((Moved.of_stop h).closes (fun bodies => ?_) (Nat.le_refl _))
          rw [scanFrom, scanFrom]
      | cons t rest =>
          have hrest : ts.drop (c.advance 1).position = rest := drop_of_drop h
          rw [h] at hlt
          have hshorter : rest.length < turns := Nat.lt_of_succ_lt_succ hlt
          rw [walkBody, if_neg (not_at_end h), peek_of_drop h]
          by_cases hclose : t.text = "\x7d"
          · rw [if_pos hclose]
            exact ends_ok ((Moved.of_stop hrest).closes
              (fun bodies => scanFrom_close (e :: bodies) hclose rest) (Nat.le_succ _))
          by_cases hsemicolon : t.text = ";"
          · rw [if_neg hclose, if_pos hsemicolon]
            have hbody := ih e (c.advance 1) (by rwa [hrest])
            exact hbody.imp fun last hlast => (Moved.of_stop hrest).finished.then hlast
              (fun bodies => scanFrom_semicolon (e :: bodies) hsemicolon rest) (Nat.le_succ _)
          · rw [if_neg hclose, if_neg hsemicolon]
            refine (walkMember_ends ih h (Nat.le_of_lt_succ hlt) hlt).bind fun next hmember => ?_
            have hless := member_length_le (some e) t rest hclose
            have hmoves := hmember.position_lt h hclose
            rw [if_neg (Nat.ne_of_gt hmoves)]
            have hleft := Nat.le_trans hmember.length_le hless
            have hbody := ih e (next.noteMember c.position) (Nat.lt_of_le_of_lt hleft hshorter)
            refine hbody.imp fun last hlast => (hmember.noteMember hmoves).then hlast
              (fun bodies => ?_) (Nat.le_succ_of_le hless)
            exact scanFrom_member hsemicolon hclose fun h => absurd h (List.cons_ne_nil e bodies)

/-! ## Files -/

theorem scanFrom_stray (h : t.text = ";" ∨ t.text = "\x7d") :
    scanFrom [] (t :: rest) = scanFrom [] rest := by
  obtain h | h := h
  · exact scanFrom_semicolon [] h rest
  · exact scanFrom_close [] h rest

/-- A cursor has gone through the rest of a file. -/
structure Completed (ts : List Token) (c : Cursor) (rest : List Token) (next : Cursor) : Prop where
  found : next.found = c.found ++ scanFrom [] rest
  at_end : ts.length ≤ next.position
  forward : c.GoesForward → next.GoesForward

/-- A file whose first part is a step is gone through by going through the step and then through
the rest of the file. -/
theorem Completed.after {step : Step} {last : Cursor}
    (hlast : Completed ts next (ts.drop next.position) last) (h : Finished ts c step next)
    (hscan : scanFrom [] rest = step.resume []) : Completed ts c rest last := by
  obtain ⟨first, hfirst, hstep⟩ := h.found
  refine ⟨?_, hlast.at_end, fun hc => hlast.forward (h.forward hc)⟩
  rw [hlast.found, hfirst, List.append_assoc, ← hstep [], hscan]

theorem walkFile_ends (h : ts.drop c.position = rest) (hturns : rest.length < turns) :
    Ends (walkFile ts turns c) (Completed ts c rest) := by
  induction turns generalizing c rest with
  | zero => exact absurd hturns (Nat.not_lt_zero _)
  | succ turns ih =>
      cases rest with
      | nil =>
          have hend := at_end_iff.2 h
          rw [walkFile, if_pos hend]
          refine ends_ok ⟨?_, hend, id⟩
          rw [scanFrom, List.append_nil]
      | cons t rest =>
          have hshorter : rest.length < turns := Nat.lt_of_succ_lt_succ hturns
          rw [walkFile, if_neg (not_at_end h), peek_of_drop h]
          by_cases hpreamble : isPreamble t.text = true
          · have hclose : t.text ≠ "\x7d" := isPreamble_ne hpreamble (by decide)
            rw [if_pos hpreamble]
            refine (walkStatement_stops h hturns).bind fun stop hstop => ?_
            have hless := skipStatement_cons_length_le t rest hclose
            rw [← hstop] at hless
            have hfile := ih (c := c.moveTo stop) rfl (Nat.lt_of_le_of_lt hless hshorter)
            refine hfile.imp fun last hlast => hlast.after (Moved.of_stop hstop).finished ?_
            exact scanFrom_statement ⟨rfl, hpreamble⟩ rest
          rw [if_neg hpreamble]
          by_cases hstray : t.text = ";" ∨ t.text = "\x7d"
          · have hrest : ts.drop (c.advance 1).position = rest := drop_of_drop h
            rw [if_pos hstray]
            have hfile := ih (c := c.advance 1) rfl (by rwa [hrest])
            refine hfile.imp fun last hlast => hlast.after (Moved.of_stop hrest).finished ?_
            exact scanFrom_stray hstray
          · obtain ⟨hsemicolon, hclose⟩ := not_or.1 hstray
            rw [if_neg hstray]
            have hwalk : Ends (walkMember ts (walkBody ts turns) (turns + 1) none c)
                (Finished ts c (member none t rest)) :=
              walkMember_ends (walksBodies ts turns) h hshorter hturns
            refine hwalk.bind fun next hmember => ?_
            have hleft := Nat.le_trans hmember.length_le (member_length_le none t rest hclose)
            have hfile := ih (c := next.noteMember c.position) rfl
              (Nat.lt_of_le_of_lt hleft hshorter)
            refine hfile.imp fun last hlast =>
              hlast.after (hmember.noteMember (hmember.position_lt h hclose)) ?_
            exact scanFrom_member hsemicolon hclose fun _ => by simpa using hpreamble

/-- A member that does not begin with a closing brace is walked through, and the cursor moves. -/
theorem walkMember_moves {enclosing : Option Enclosing} (h : c.position < ts.length)
    (hclose : peek ts c.position ≠ "\x7d") (hturns : ts.length < turns) :
    Ends (walkMember ts (walkBody ts turns) (turns + 1) enclosing c) fun next =>
      c.position < next.position := by
  obtain ⟨t, rest, hdrop⟩ := List.exists_cons_of_ne_nil (mt at_end_iff.2 (Nat.not_le.2 h))
  rw [peek_of_drop hdrop] at hclose
  have hlength : (t :: rest).length ≤ turns := by
    rw [← hdrop, List.length_drop]
    omega
  exact (walkMember_ends (walksBodies ts turns) hdrop hlength (Nat.lt_succ_of_le hlength)).imp
    fun _ hmember => hmember.position_lt hdrop hclose

/-- The scanner survives any input: whatever the tokens are, the walk ends once its loops may take
more turns than there are tokens, looks up no token that does not exist and stands at the end or
past it, and what is found is what the scanner reports. A member moves the cursor wherever a loop
may read one, which is at any token but a closing brace, and so each of those that are read reaches
forward. -/
theorem walk_ends (ts : List Token) :
    (∃ c : Cursor, (∀ turns, ts.length < turns → walk ts turns = .ok c) ∧
      ts.length ≤ c.position ∧ (∀ m ∈ c.members, m.1 < m.2) ∧ c.found = scan ts) ∧
    ∀ (c : Cursor) (enclosing : Option Enclosing) (turns : Nat), c.position < ts.length →
      peek ts c.position ≠ "\x7d" → ts.length < turns →
      ∃ next, walkMember ts (walkBody ts turns) (turns + 1) enclosing c = .ok next ∧
        c.position < next.position := by
  have hstart : ts.drop (Cursor.mk 0 [] []).position = ts := List.drop_zero
  obtain ⟨c, hwalk, hfile⟩ := walkFile_ends hstart (Nat.lt_succ_self ts.length)
  refine ⟨⟨c, fun turns hturns => walk_eq_of_le hwalk hturns, hfile.at_end, ?_, hfile.found⟩,
    fun _ _ _ => walkMember_moves⟩
  exact hfile.forward fun m hm => by cases hm

/-- The name of a type is taken without a look, so the cursor may come to stand past the end. -/
example : (walk [⟨"@", 1, 0⟩, ⟨"interface", 1, 1⟩] 3).map Cursor.position = .ok 3 := by
  rfl

end JavadocTags.Java
