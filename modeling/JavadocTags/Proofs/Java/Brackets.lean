import JavadocTags.Java.Scanner

/-!
# Brackets and clauses

What the skipping functions step over, said without them. Brackets of one kind are counted alone,
as the skippers do: tokens that are balanced in parentheses may hold any braces. A clause is what
stands between two points at which a declaration can go on or end: its semicolons and braces are
inside brackets. Each skipper is shown to stop exactly behind the part that it is meant for,
whatever follows.
-/
namespace JavadocTags.Java

/-- The number of brackets of one kind that are open after some tokens, when `depth` are open
before them. There is none if a bracket closes that was not opened. -/
def depthAfter? (opening closing : String) : Nat → List Token → Option Nat
  | depth, [] => some depth
  | depth, t :: rest =>
      if t.text = opening then depthAfter? opening closing (depth + 1) rest
      else if t.text = closing then
        if depth = 0 then none else depthAfter? opening closing (depth - 1) rest
      else depthAfter? opening closing depth rest

def Balanced (opening closing : String) (ts : List Token) : Prop :=
  depthAfter? opening closing 0 ts = some 0

instance (opening closing : String) (ts : List Token) : Decidable (Balanced opening closing ts) :=
  inferInstanceAs (Decidable (depthAfter? opening closing 0 ts = some 0))

inductive Bracketed (opening closing : String) : List Token → Prop
  | intro {first last : Token} {inner : List Token} :
      first.text = opening → Balanced opening closing inner → last.text = closing →
      Bracketed opening closing (first :: (inner ++ [last]))

def Arguments (ts : List Token) : Prop :=
  ts = [] ∨ Bracketed "(" ")" ts

/-- Tokens that hold no semicolon and no closing brace outside brackets. Braces outside
parentheses are admitted, in balanced groups, only where `braces` says so. -/
inductive Clause (braces : Bool) : List Token → Prop
  | nil : Clause braces []
  | token {t : Token} {ts : List Token} :
      t.text ∉ ["(", "\x7b", "\x7d", ";"] → Clause braces ts → Clause braces (t :: ts)
  | parentheses {group ts : List Token} :
      Bracketed "(" ")" group → Clause braces ts → Clause braces (group ++ ts)
  | braces {group ts : List Token} :
      braces = true → Bracketed "\x7b" "\x7d" group → Clause braces ts →
      Clause braces (group ++ ts)

/-- The counter of the skipper runs one ahead of the open brackets: the bracket that it started on
is still open. -/
theorem skipBrackets_append {opening closing : String} {depth left : Nat} {ts : List Token}
    (h : depthAfter? opening closing depth ts = some left) (rest : List Token) :
    skipBrackets opening closing (depth + 1) (ts ++ rest) =
      skipBrackets opening closing (left + 1) rest := by
  induction ts generalizing depth with
  | nil =>
      simp only [depthAfter?, Option.some.injEq] at h
      rw [h, List.nil_append]
  | cons t ts ih =>
      rw [List.cons_append, skipBrackets]
      rw [depthAfter?] at h
      by_cases hopen : t.text = opening
      · rw [if_pos hopen] at h ⊢
        exact ih h
      · rw [if_neg hopen] at h ⊢
        by_cases hclose : t.text = closing
        · rw [if_pos hclose] at h ⊢
          by_cases hzero : depth = 0
          · rw [if_pos hzero] at h
            cases h
          · rw [if_neg hzero] at h
            have hstep := ih h
            rw [if_neg (by omega), ← hstep]
            congr 1
            omega
        · rw [if_neg hclose] at h ⊢
          exact ih h

theorem skipBrackets_bracketed {opening closing : String} {group : List Token}
    (hne : closing ≠ opening) (h : Bracketed opening closing group) (rest : List Token) :
    skipBrackets opening closing 0 (group ++ rest) = rest := by
  obtain ⟨hfirst, hinner, hlast⟩ := h
  rename_i first last inner
  have hbody := skipBrackets_append hinner (last :: rest)
  rw [List.cons_append, List.append_assoc, List.singleton_append, skipBrackets, if_pos hfirst,
    hbody, skipBrackets, hlast, if_neg hne, if_pos rfl, if_pos rfl]

@[simp] theorem skipParentheses_bracketed {group : List Token} (h : Bracketed "(" ")" group)
    (rest : List Token) : skipParentheses (group ++ rest) = rest :=
  skipBrackets_bracketed (by decide) h rest

@[simp] theorem skipBraces_bracketed {group : List Token} (h : Bracketed "\x7b" "\x7d" group)
    (rest : List Token) : skipBraces (group ++ rest) = rest :=
  skipBrackets_bracketed (by decide) h rest

theorem Bracketed.nextText {opening closing : String} {group : List Token}
    (h : Bracketed opening closing group) (rest : List Token) :
    nextText (group ++ rest) = opening := by
  obtain ⟨hfirst, _, _⟩ := h
  exact hfirst

/-- A skipper looks at the first token of a group only before it steps over the group. -/
theorem Bracketed.exists_cons {opening closing : String} {group : List Token}
    (h : Bracketed opening closing group) :
    ∃ first tail, group = first :: tail ∧ first.text = opening := by
  obtain ⟨hfirst, _, _⟩ := h
  exact ⟨_, _, rfl, hfirst⟩

theorem skipArguments_append {arguments rest : List Token} (h : Arguments arguments)
    (hrest : nextText rest ≠ "(") : skipArguments (arguments ++ rest) = rest := by
  unfold skipArguments
  rcases h with rfl | h
  · rw [List.nil_append, if_neg hrest]
  · rw [if_pos (h.nextText rest), skipParentheses_bracketed h]

theorem skipStatement_clause {braces : Bool} {ts : List Token} (h : Clause braces ts)
    (rest : List Token) : skipStatement (ts ++ rest) = skipStatement rest := by
  induction h with
  | nil => rfl
  | @token t ts htext _ ih =>
      simp only [List.mem_cons, List.not_mem_nil, or_false, not_or] at htext
      obtain ⟨hparen, hopen, hclose, hsemi⟩ := htext
      rw [List.cons_append, skipStatement, if_neg hsemi, if_neg hopen, if_neg hparen,
        if_neg hclose, ih]
  | @parentheses group ts hgroup _ ih =>
      obtain ⟨first, tail, rfl, hfirst⟩ := hgroup.exists_cons
      have hskip := skipParentheses_bracketed hgroup (ts ++ rest)
      rw [List.append_assoc, List.cons_append, skipStatement, if_neg (by simp [hfirst]),
        if_neg (by simp [hfirst]), if_pos hfirst, ← List.cons_append, hskip, ih]
  | @braces group ts _ hgroup _ ih =>
      obtain ⟨first, tail, rfl, hfirst⟩ := hgroup.exists_cons
      have hskip := skipBraces_bracketed hgroup (ts ++ rest)
      rw [List.append_assoc, List.cons_append, skipStatement, if_neg (by simp [hfirst]),
        if_pos hfirst, ← List.cons_append, hskip, ih]

@[simp] theorem skipStatement_semicolon {t : Token} (h : t.text = ";") (rest : List Token) :
    skipStatement (t :: rest) = rest := by
  rw [skipStatement, if_pos h]

theorem skipStatement_statement {braces : Bool} {ts : List Token} {last : Token}
    (h : Clause braces ts) (hlast : last.text = ";") (rest : List Token) :
    skipStatement (ts ++ last :: rest) = rest := by
  rw [skipStatement_clause h, skipStatement_semicolon hlast]

theorem skipHeader_clause {ts : List Token} (h : Clause false ts) (rest : List Token) :
    skipHeader (ts ++ rest) = skipHeader rest := by
  induction h with
  | nil => rfl
  | @token t ts htext _ ih =>
      simp only [List.mem_cons, List.not_mem_nil, or_false, not_or] at htext
      obtain ⟨hparen, hopen, hclose, hsemi⟩ := htext
      rw [List.cons_append, skipHeader, if_neg (by simp [hopen, hclose, hsemi]), if_neg hparen, ih]
  | @parentheses group ts hgroup _ ih =>
      obtain ⟨first, tail, rfl, hfirst⟩ := hgroup.exists_cons
      have hskip := skipParentheses_bracketed hgroup (ts ++ rest)
      rw [List.append_assoc, List.cons_append, skipHeader, if_neg (by simp [hfirst]),
        if_pos hfirst, ← List.cons_append, hskip, ih]
  | braces hfalse => cases hfalse

/-- The clause behind a parameter list admits braces exactly when it belongs to an annotation
field. -/
theorem skipCallableTail_clause {isField : Bool} {ts : List Token} (h : Clause isField ts)
    (rest : List Token) :
    skipCallableTail isField (ts ++ rest) = skipCallableTail isField rest := by
  induction h with
  | nil => rfl
  | @token t ts htext _ ih =>
      simp only [List.mem_cons, List.not_mem_nil, or_false, not_or] at htext
      obtain ⟨hparen, hopen, hclose, hsemi⟩ := htext
      rw [List.cons_append, skipCallableTail, if_neg hopen, if_neg hparen, if_neg hsemi,
        if_neg hclose, ih]
  | @parentheses group ts hgroup _ ih =>
      obtain ⟨first, tail, rfl, hfirst⟩ := hgroup.exists_cons
      have hskip := skipParentheses_bracketed hgroup (ts ++ rest)
      rw [List.append_assoc, List.cons_append, skipCallableTail, if_neg (by simp [hfirst]),
        if_pos hfirst, ← List.cons_append, hskip, ih]
  | @braces group ts hbraces hgroup _ ih =>
      obtain ⟨first, tail, rfl, hfirst⟩ := hgroup.exists_cons
      have hskip := skipBraces_bracketed hgroup (ts ++ rest)
      rw [List.append_assoc, List.cons_append, skipCallableTail, if_pos hfirst, if_pos hbraces,
        ← List.cons_append, hskip, ih]

end JavadocTags.Java
