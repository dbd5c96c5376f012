import JavadocTags.Proofs.Java.DeclarationPlaces
import JavadocTags.Proofs.Java.TokenTexts

/-!
# Truncated tokens

Two readings are compared: that of some tokens, and that of the same tokens with more behind them.
As long as nothing past the cut is looked at, both take the same steps, and the tokens behind the
cut follow what the first reading has left. Each look past the cut finds the first reading at its
last token, from which it reports nothing more. The one exception is the keyword of an annotation
type, whose name is taken without a look at it; so truncated tokens must not end in that keyword.
-/
namespace JavadocTags.Java

/-- Tokens from which nothing is reported, in whatever place the scanner reads them: none at all,
or a dot behind which a qualified name broke off. -/
def Spent (ts : List Token) : Prop :=
  ts = [] ∨ ∃ dot : Token, dot.text = "." ∧ ts = [dot]

theorem Spent.of_suffix {ts rest : List Token} (h : Spent ts) (hsuffix : rest <:+ ts) :
    Spent rest := by
  rcases h with rfl | ⟨dot, hdot, rfl⟩
  · exact .inl (List.suffix_nil.1 hsuffix)
  · rcases List.suffix_cons_iff.1 hsuffix with rfl | hsuffix
    · exact .inr ⟨dot, hdot, rfl⟩
    · exact .inl (List.suffix_nil.1 hsuffix)

theorem Spent.of_cons {t : Token} {rest : List Token} (h : Spent (t :: rest)) :
    t.text = "." ∧ rest = [] := by
  rcases h with h | ⟨dot, hdot, h⟩
  · cases h
  · obtain ⟨rfl, rfl⟩ := List.cons.inj h
    exact ⟨hdot, rfl⟩

theorem Reads.suffix {ts rest : List Token} {found : List Declaration} (h : Reads ts found rest) :
    rest <:+ ts := by
  obtain ⟨read, hread, _⟩ := h
  exact ⟨read, hread.symm⟩

/-- What is left of truncated tokens, and what is left if nothing is cut off: the tokens behind the
cut follow, or the truncated ones are spent. -/
inductive CutShort (cut : List Token) : List Token → List Token → Prop
  | follows (left : List Token) : CutShort cut left (left ++ cut)
  | spent {left full : List Token} : Spent left → CutShort cut left full

/-- A skip that looks past the end of truncated tokens only when they are spent. -/
structure Skips (skip : List Token → List Token) : Prop where
  suffix : ∀ ts, skip ts <:+ ts
  cutShort : ∀ ts cut, CutShort cut (skip ts) (skip (ts ++ cut))

/-- Skipping goes on from wherever both readings are. -/
theorem CutShort.skip {cut left full : List Token} {skip : List Token → List Token}
    (h : CutShort cut left full) (hsuffix : skip left <:+ left)
    (hskip : CutShort cut (skip left) (skip (left ++ cut))) :
    CutShort cut (skip left) (skip full) := by
  cases h with
  | follows => exact hskip
  | spent hspent => exact .spent (hspent.of_suffix hsuffix)

theorem Skips.comp {skip next : List Token → List Token} (hnext : Skips next)
    (hskip : Skips skip) : Skips fun ts => next (skip ts) where
  suffix ts := (hnext.suffix _).trans (hskip.suffix ts)
  cutShort ts cut := (hskip.cutShort ts cut).skip (hnext.suffix _) (hnext.cutShort _ cut)

section Skipping

theorem cutShort_skipBrackets (opening closing : String) (depth : Nat) (ts cut : List Token) :
    CutShort cut (skipBrackets opening closing depth ts)
      (skipBrackets opening closing depth (ts ++ cut)) := by
  induction ts generalizing depth with
  | nil => exact .spent (.inl rfl)
  | cons t ts ih =>
      rw [List.cons_append, skipBrackets, skipBrackets]
      split
      · exact ih (depth + 1)
      · split
        · split
          · exact .follows ts
          · exact ih (depth - 1)
        · exact ih depth

theorem skips_skipBraces : Skips skipBraces :=
  ⟨skipBrackets_suffix _ _ 0, cutShort_skipBrackets _ _ 0⟩

theorem skips_skipParentheses : Skips skipParentheses :=
  ⟨skipBrackets_suffix _ _ 0, cutShort_skipBrackets _ _ 0⟩

theorem skips_skipStatement : Skips skipStatement := by
  refine ⟨skipStatement_suffix, fun ts cut => ?_⟩
  fun_induction skipStatement ts with
  | case1 => exact .spent (.inl rfl)
  | case2 t rest hsemicolon =>
      rw [List.cons_append, skipStatement, if_pos hsemicolon]
      exact .follows rest
  | case3 t rest hsemicolon hbrace ih =>
      rw [List.cons_append, skipStatement, if_neg hsemicolon, if_pos hbrace, ← List.cons_append]
      exact (skips_skipBraces.cutShort _ cut).skip (skipStatement_suffix _) ih
  | case4 t rest hsemicolon hbrace hparen ih =>
      rw [List.cons_append, skipStatement, if_neg hsemicolon, if_neg hbrace, if_pos hparen,
        ← List.cons_append]
      exact (skips_skipParentheses.cutShort _ cut).skip (skipStatement_suffix _) ih
  | case5 t rest hsemicolon hbrace hparen hclose =>
      rw [List.cons_append, skipStatement, if_neg hsemicolon, if_neg hbrace, if_neg hparen,
        if_pos hclose]
      exact .follows (t :: rest)
  | case6 t rest hsemicolon hbrace hparen hclose ih =>
      rw [List.cons_append, skipStatement, if_neg hsemicolon, if_neg hbrace, if_neg hparen,
        if_neg hclose]
      exact ih

/-- The only skip that stops in front of a token because of the one behind it. -/
theorem skips_skipQualifiers : Skips skipQualifiers := by
  refine ⟨skipQualifiers_suffix, fun ts cut => ?_⟩
  fun_induction skipQualifiers ts with
  | case1 dot name rest hqualifier ih =>
      rw [List.cons_append, List.cons_append, skipQualifiers, if_pos hqualifier]
      exact ih
  | case2 dot name rest hqualifier =>
      rw [List.cons_append, List.cons_append, skipQualifiers, if_neg hqualifier]
      exact .follows (dot :: name :: rest)
  | case3 ts hshort =>
      cases ts with
      | nil => exact .spent (.inl rfl)
      | cons dot rest =>
          cases rest with
          | cons name rest => exact absurd rfl (hshort dot name rest)
          | nil =>
              cases cut with
              | nil => exact .follows [dot]
              | cons name cut =>
                  by_cases hqualifier : dot.text = "." ∧ isIdentifier name.text
                  · exact .spent (.inr ⟨dot, hqualifier.1, rfl⟩)
                  · rw [List.singleton_append, skipQualifiers, if_neg hqualifier]
                    exact .follows [dot]

/-- A part that is skipped only if it follows. -/
theorem Skips.ifNext (text : String) {skip : List Token → List Token} (h : Skips skip) :
    Skips fun ts => if nextText ts = text then skip ts else ts := by
  have hsuffix : ∀ ts, (if nextText ts = text then skip ts else ts) <:+ ts := by
    intro ts
    split
    · exact h.suffix ts
    · exact List.suffix_rfl
  refine ⟨hsuffix, fun ts cut => ?_⟩
  cases ts with
  | nil => exact .spent (.of_suffix (.inl rfl) (hsuffix []))
  | cons t rest =>
      rw [List.cons_append, nextText_cons, nextText_cons]
      by_cases htext : t.text = text
      · rw [if_pos htext, if_pos htext]
        exact h.cutShort (t :: rest) cut
      · rw [if_neg htext, if_neg htext]
        exact .follows (t :: rest)

theorem skips_skipArguments : Skips skipArguments :=
  skips_skipParentheses.ifNext "("

theorem skips_skipAnnotationBody : Skips skipAnnotationBody := by
  refine ⟨skipAnnotationBody_suffix, fun ts cut => ?_⟩
  unfold skipAnnotationBody
  cases ts with
  | nil => exact .spent (.inl rfl)
  | cons t rest =>
      rw [List.cons_append, nextText_cons, nextText_cons, List.tail_cons, List.tail_cons]
      by_cases hname : isIdentifier t.text = true
      · rw [if_pos hname, if_pos hname]
        exact (skips_skipArguments.comp skips_skipQualifiers).cutShort rest cut
      · rw [if_neg hname, if_neg hname]
        exact skips_skipArguments.cutShort (t :: rest) cut

theorem skips_skipAnnotations : Skips skipAnnotations := by
  refine ⟨skipAnnotations_suffix, fun ts cut => ?_⟩
  fun_induction skipAnnotations ts with
  | case1 => exact .spent (.inl rfl)
  | case2 t rest hat ih =>
      rw [List.cons_append, skipAnnotations, if_pos hat]
      exact (skips_skipAnnotationBody.cutShort rest cut).skip (skipAnnotations_suffix _) ih
  | case3 t rest hat =>
      rw [List.cons_append, skipAnnotations, if_neg hat]
      exact .follows (t :: rest)

theorem skips_skipHeader : Skips skipHeader := by
  refine ⟨skipHeader_suffix, fun ts cut => ?_⟩
  fun_induction skipHeader ts with
  | case1 => exact .spent (.inl rfl)
  | case2 t rest hstop =>
      rw [List.cons_append, skipHeader, if_pos hstop]
      exact .follows (t :: rest)
  | case3 t rest hstop hparen ih =>
      rw [List.cons_append, skipHeader, if_neg hstop, if_pos hparen, ← List.cons_append]
      exact (skips_skipParentheses.cutShort _ cut).skip (skipHeader_suffix _) ih
  | case4 t rest hstop hparen ih =>
      rw [List.cons_append, skipHeader, if_neg hstop, if_neg hparen]
      exact ih

theorem skips_skipCallableTail (isField : Bool) : Skips (skipCallableTail isField) := by
  refine ⟨skipCallableTail_suffix isField, fun ts cut => ?_⟩
  fun_induction skipCallableTail isField ts with
  | case1 => exact .spent (.inl rfl)
  | case2 t rest hbrace hfield ih =>
      rw [List.cons_append, skipCallableTail, if_pos hbrace, if_pos hfield, ← List.cons_append]
      exact (skips_skipBraces.cutShort _ cut).skip (skipCallableTail_suffix _ _) ih
  | case3 t rest hbrace hfield =>
      rw [List.cons_append, skipCallableTail, if_pos hbrace, if_neg hfield, ← List.cons_append]
      exact skips_skipBraces.cutShort _ cut
  | case4 t rest hbrace hparen ih =>
      rw [List.cons_append, skipCallableTail, if_neg hbrace, if_pos hparen, ← List.cons_append]
      exact (skips_skipParentheses.cutShort _ cut).skip (skipCallableTail_suffix _ _) ih
  | case5 t rest hbrace hparen hsemicolon =>
      rw [List.cons_append, skipCallableTail, if_neg hbrace, if_neg hparen, if_pos hsemicolon]
      exact .follows rest
  | case6 t rest hbrace hparen hsemicolon hclose =>
      rw [List.cons_append, skipCallableTail, if_neg hbrace, if_neg hparen, if_neg hsemicolon,
        if_pos hclose]
      exact .follows (t :: rest)
  | case7 t rest hbrace hparen hsemicolon hclose ih =>
      rw [List.cons_append, skipCallableTail, if_neg hbrace, if_neg hparen, if_neg hsemicolon,
        if_neg hclose]
      exact ih

theorem skips_skipConstantTail : Skips skipConstantTail :=
  (skips_skipBraces.ifNext "\x7b").comp skips_skipArguments

end Skipping

/-- The constants read from truncated tokens, and those read if nothing is cut off. -/
inductive Truncates (cut : List Token) :
    List Declaration × List Token → List Declaration × List Token → Prop
  | follows (found : List Declaration) (left : List Token) :
      Truncates cut (found, left) (found, left ++ cut)
  | spent {found later : List Declaration} {left full : List Token} :
      found <+: later → Spent left → Truncates cut (found, left) (later, full)

theorem Truncates.cons {cut : List Token} {short full : List Declaration × List Token}
    (h : Truncates cut short full) (d : Declaration) :
    Truncates cut (d :: short.1, short.2) (d :: full.1, full.2) := by
  cases h with
  | follows found left => exact .follows (d :: found) left
  | spent hfound hleft => exact .spent (List.prefix_cons_inj d |>.2 hfound) hleft

theorem enumConstants_spent {ts : List Token} (h : Spent ts) : enumConstants ts = ([], []) := by
  rcases h with rfl | ⟨dot, hdot, rfl⟩
  · rw [enumConstants]
  · have hskip : skipAnnotations [dot] = [dot] := by
      rw [skipAnnotations, if_neg (by simp [hdot])]
    rw [enumConstants_cons (by simp [hdot]) (by simp [hdot]) (by simp [hdot]), hskip]
    simp only [hdot]
    rw [if_neg (by decide), enumConstants]

theorem enumConstants_cutShort {cut left full : List Token} (h : CutShort cut left full)
    (ih : Truncates cut (enumConstants left) (enumConstants (left ++ cut))) :
    Truncates cut (enumConstants left) (enumConstants full) := by
  cases h with
  | follows => exact ih
  | spent hspent =>
      rw [enumConstants_spent hspent]
      exact .spent List.nil_prefix (.inl rfl)

theorem enumConstants_truncates (ts cut : List Token) :
    Truncates cut (enumConstants ts) (enumConstants (ts ++ cut)) := by
  fun_induction enumConstants ts with
  | case1 => exact .spent List.nil_prefix (.inl rfl)
  | case2 t rest hsemicolon =>
      rw [List.cons_append, enumConstants, if_pos hsemicolon]
      exact .follows [] rest
  | case3 t rest hsemicolon hclose =>
      rw [List.cons_append, enumConstants, if_neg hsemicolon, if_pos hclose]
      exact .follows [] (t :: rest)
  | case4 t rest hsemicolon hclose hcomma ih =>
      rw [List.cons_append, enumConstants, if_neg hsemicolon, if_neg hclose, if_pos hcomma]
      exact ih
  | case5 t rest hsemicolon hclose hcomma hskip => exact .spent List.nil_prefix (.inl rfl)
  | case6 t rest hsemicolon hclose hcomma name after hskip hname _ next found left hrec ih =>
      have hcut := skips_skipAnnotations.cutShort (t :: rest) cut
      have hrest : Truncates cut (enumConstants (skipConstantTail after))
          (enumConstants (skipConstantTail (after ++ cut))) :=
        enumConstants_cutShort (skips_skipConstantTail.cutShort after cut) ih
      have hshort : (found, left) = enumConstants (skipConstantTail after) := hrec.symm
      rw [hskip] at hcut
      rw [List.cons_append, enumConstants_cons hsemicolon hclose hcomma, ← List.cons_append]
      generalize skipAnnotations (t :: rest ++ cut) = full at hcut ⊢
      cases hcut with
      | follows =>
          simp only [List.cons_append, hname, if_true]
          have := hrest.cons (declarationAt t .enumConstant name.text)
          rwa [← hshort] at this
      | spent hspent =>
          rw [hspent.of_cons.1] at hname
          exact absurd hname (by decide)
  | case7 t rest hsemicolon hclose hcomma name after hskip hname ih =>
      have hcut := skips_skipAnnotations.cutShort (t :: rest) cut
      rw [hskip] at hcut
      rw [List.cons_append, enumConstants_cons hsemicolon hclose hcomma, ← List.cons_append]
      generalize skipAnnotations (t :: rest ++ cut) = full at hcut ⊢
      cases hcut with
      | follows =>
          simp only [List.cons_append, if_neg hname]
          exact ih
      | spent hspent =>
          rw [hspent.of_cons.2, enumConstants]
          exact .spent List.nil_prefix (.inl rfl)

/-- A step on truncated tokens, and the step if nothing is cut off. -/
inductive Step.Truncates (cut : List Token) : Step → Step → Prop
  | follows (found : List Declaration) (left : List Token) (opened : Option Enclosing) :
      Step.Truncates cut ⟨found, left, opened⟩ ⟨found, left ++ cut, opened⟩
  | spent {step full : Step} :
      step.found <+: full.found → Spent step.rest → Step.Truncates cut step full

/-- What is found before a skip does not depend on it. -/
theorem Step.Truncates.of_cutShort {cut left full : List Token} (h : CutShort cut left full)
    (found : List Declaration) :
    Step.Truncates cut ⟨found, left, none⟩ ⟨found, full, none⟩ := by
  cases h with
  | follows => exact .follows found left none
  | spent hspent => exact .spent List.prefix_rfl hspent

theorem Truncates.step {cut : List Token} {short full : List Declaration × List Token}
    (h : Truncates cut short full) (found : List Declaration) (opened : Option Enclosing) :
    Step.Truncates cut ⟨found ++ short.1, short.2, opened⟩ ⟨found ++ full.1, full.2, opened⟩ := by
  cases h with
  | follows constants left => exact .follows (found ++ constants) left opened
  | spent hfound hleft => exact .spent ((List.prefix_append_right_inj found).2 hfound) hleft

theorem declared_prefix (kind : Option DeclarationKind) (start : Token) (ts : List Token) :
    kind.toList.map (declarationAt start · (nextText ts)) <+:
      (typeDeclaration kind start ts).found := by
  obtain ⟨constants, hfound, _⟩ := typeDeclaration_reads kind start ts
  exact ⟨constants, hfound.symm⟩

/-- Of a type whose name is not cut off the same is found, but for constants behind the cut. -/
theorem typeDeclaration_truncates (kind : Option DeclarationKind) (start : Token)
    {ts : List Token} (hts : ts ≠ []) (cut : List Token) :
    (typeDeclaration kind start ts).Truncates cut (typeDeclaration kind start (ts ++ cut)) := by
  have hcut := skips_skipHeader.cutShort ts.tail cut
  have hdeclared := declared_prefix kind start (ts ++ cut)
  rw [nextText_append hts] at hdeclared
  rw [← List.tail_append_of_ne_nil hts] at hcut
  cases hheader : skipHeader ts.tail with
  | nil =>
      have hstep : typeDeclaration kind start ts =
          ⟨kind.toList.map (declarationAt start · (nextText ts)), [], none⟩ := by
        rw [typeDeclaration, hheader]
      rw [hstep]
      exact .spent hdeclared (.inl rfl)
  | cons t rest =>
      rw [hheader] at hcut
      generalize hfull : skipHeader (ts ++ cut).tail = full at hcut
      cases hcut with
      | follows =>
          rw [typeDeclaration, typeDeclaration, hheader, hfull, nextText_append hts]
          simp only [List.cons_append]
          by_cases hbrace : t.text = "\x7b"
          · rw [if_pos hbrace, if_pos hbrace]
            by_cases henum : kind = some .enumType
            · rw [if_pos henum, if_pos henum]
              exact (enumConstants_truncates rest cut).step _ _
            · rw [if_neg henum, if_neg henum]
              exact .follows _ rest _
          · rw [if_neg hbrace, if_neg hbrace]
            exact .follows _ (t :: rest) none
      | spent hspent =>
          obtain ⟨hdot, rfl⟩ := hspent.of_cons
          have hstep : typeDeclaration kind start ts =
              ⟨kind.toList.map (declarationAt start · (nextText ts)), [t], none⟩ := by
            rw [typeDeclaration, hheader]
            simp [hdot]
          rw [hstep]
          exact .spent hdeclared hspent

theorem callableDeclaration_truncates (enclosing : Option Enclosing) (name : String)
    (start : Token) (ts cut : List Token) :
    (callableDeclaration enclosing name start ts).Truncates cut
      (callableDeclaration enclosing name start (ts ++ cut)) := by
  have hskips := (skips_skipCallableTail (callableKind enclosing name == .annotationField)).comp
    skips_skipParentheses
  exact .of_cutShort (hskips.cutShort ts cut) _

section Members
variable {e : Option Enclosing} {start : Token} {cut : List Token}

theorem memberFrom_spent {ts : List Token} (h : Spent ts) (previous : String) :
    memberFrom e start previous ts = ⟨[], [], none⟩ := by
  rcases h with rfl | ⟨dot, hdot, rfl⟩
  · exact memberFrom_nil e start previous
  · rw [memberFrom_other (by simp [hdot]) (by simp [hdot, typeKeyword?])]
    simp [hdot]

theorem memberFrom_cutShort {left full : List Token} (h : CutShort cut left full)
    (previous : String)
    (ih : (memberFrom e start previous left).Truncates cut
      (memberFrom e start previous (left ++ cut))) :
    (memberFrom e start previous left).Truncates cut (memberFrom e start previous full) := by
  cases h with
  | follows => exact ih
  | spent hspent =>
      rw [memberFrom_spent hspent]
      exact .spent List.nil_prefix (.inl rfl)

/-- The last two tokens are the keyword of an annotation type. -/
def EndsInAnnotationKeyword (ts : List Token) : Prop :=
  ["@", "interface"] <:+ ts.map Token.text

instance (ts : List Token) : Decidable (EndsInAnnotationKeyword ts) :=
  inferInstanceAs (Decidable (_ <:+ _))

theorem not_endsInAnnotationKeyword_of_suffix {ts rest : List Token}
    (h : ¬ EndsInAnnotationKeyword ts) (hsuffix : rest <:+ ts) :
    ¬ EndsInAnnotationKeyword rest :=
  fun hrest => h (List.IsSuffix.trans hrest (hsuffix.map Token.text))

theorem not_keyword_append {t : Token} {rest : List Token}
    (hkeyword : ∀ kind, typeKeyword? t.text = some kind →
      isIdentifier (nextText rest) = true → False)
    (h : rest ≠ []) (cut : List Token) :
    ∀ kind, typeKeyword? t.text = some kind →
      isIdentifier (nextText (rest ++ cut)) = true → False := by
  intro kind hkind hname
  rw [nextText_append h] at hname
  exact hkeyword kind hkind hname

theorem ne_nil_of_nextText {rest : List Token} {text : String} (h : nextText rest = text)
    (htext : text ≠ "") : rest ≠ [] := by
  rintro rfl
  exact htext h.symm

/-- The name of an annotation type comes before the cut, since its keyword is not the last token. -/
theorem memberFrom_annotationType_truncates {t : Token} {rest : List Token} (previous : String)
    (hend : ¬ EndsInAnnotationKeyword (t :: rest)) (hsign : t.text = "@")
    (hinterface : nextText rest = "interface") (cut : List Token) :
    (memberFrom e start previous (t :: rest)).Truncates cut
      (memberFrom e start previous (t :: rest ++ cut)) := by
  have hrest : rest ≠ [] := ne_nil_of_nextText hinterface (by decide)
  have hname : rest.tail ≠ [] := by
    intro hnil
    obtain ⟨word, tail, rfl⟩ := List.exists_cons_of_ne_nil hrest
    rw [List.tail_cons] at hnil
    subst hnil
    have htexts : ["@", "interface"] = [t, word].map Token.text := by
      rw [List.map_cons, List.map_cons, List.map_nil, hsign]
      exact congrArg (["@", ·]) hinterface.symm
    exact hend ⟨[], htexts⟩
  have hnext : nextText (rest ++ cut) = "interface" := (nextText_append hrest cut).trans hinterface
  rw [List.cons_append, memberFrom_annotationType hsign hinterface,
    memberFrom_annotationType hsign hnext, List.tail_append_of_ne_nil hrest]
  exact typeDeclaration_truncates _ start hname cut

theorem memberFrom_annotationSign_truncates {t : Token} {rest : List Token} {previous : String}
    (hsign : t.text = "@") (hinterface : nextText rest ≠ "interface")
    (ih : (memberFrom e start previous (skipAnnotationBody rest)).Truncates cut
      (memberFrom e start previous (skipAnnotationBody rest ++ cut))) :
    (memberFrom e start previous (t :: rest)).Truncates cut
      (memberFrom e start previous (t :: rest ++ cut)) := by
  rw [memberFrom_annotationSign hsign hinterface]
  by_cases hrest : rest = []
  · subst hrest
    rw [show skipAnnotationBody [] = [] from rfl, memberFrom_nil]
    exact .spent List.nil_prefix (.inl rfl)
  · rw [← nextText_append hrest cut] at hinterface
    rw [List.cons_append, memberFrom_annotationSign hsign hinterface]
    exact memberFrom_cutShort (skips_skipAnnotationBody.cutShort rest cut) previous ih

theorem memberFrom_typeKeyword_truncates {t : Token} {rest : List Token} (previous : String)
    {kind : Option DeclarationKind} (hkind : typeKeyword? t.text = some kind)
    (hname : isIdentifier (nextText rest) = true) (cut : List Token) :
    (memberFrom e start previous (t :: rest)).Truncates cut
      (memberFrom e start previous (t :: rest ++ cut)) := by
  have hrest : rest ≠ [] := by
    rintro rfl
    exact absurd hname (by decide)
  have hfull : isIdentifier (nextText (rest ++ cut)) = true := by rwa [nextText_append hrest]
  rw [List.cons_append, memberFrom_typeKeyword hkind hname, memberFrom_typeKeyword hkind hfull]
  exact typeDeclaration_truncates kind start hrest cut

/-- A member is cut short within whatever kind of token it is read at. -/
theorem memberFrom_truncates (previous : String) {ts : List Token}
    (hend : ¬ EndsInAnnotationKeyword ts) (cut : List Token) :
    (memberFrom e start previous ts).Truncates cut (memberFrom e start previous (ts ++ cut)) := by
  induction previous, ts using memberFrom.induct with
  | case1 previous =>
      rw [memberFrom_nil]
      exact .spent List.nil_prefix (.inl rfl)
  | case2 previous t rest hsign hinterface =>
      exact memberFrom_annotationType_truncates previous hend hsign hinterface cut
  | case3 previous t rest hsign hinterface ih =>
      have hbody := (skipAnnotationBody_suffix rest).trans (List.suffix_cons t rest)
      exact memberFrom_annotationSign_truncates hsign hinterface
        (ih (not_endsInAnnotationKeyword_of_suffix hend hbody))
  | case4 previous t rest hsign kind hname hkind =>
      exact memberFrom_typeKeyword_truncates previous hkind hname cut
  | case5 previous t rest hsign hparen =>
      rw [List.cons_append, memberFrom_parameters hparen.1 hparen.2,
        memberFrom_parameters hparen.1 hparen.2]
      exact callableDeclaration_truncates e previous start (t :: rest) cut
  | case6 previous t rest hsign hparen hbrace =>
      rw [List.cons_append, memberFrom_brace hbrace, memberFrom_brace hbrace]
      exact .of_cutShort (skips_skipBraces.cutShort (t :: rest) cut) []
  | case7 previous t rest hsign hparen hbrace hassign =>
      rw [List.cons_append, memberFrom_value hparen hassign, memberFrom_value hparen hassign]
      exact .of_cutShort (skips_skipStatement.cutShort (t :: rest) cut) []
  | case8 previous t rest hsign hparen hbrace hassign hsemicolon =>
      rw [List.cons_append, memberFrom_semicolon hsemicolon, memberFrom_semicolon hsemicolon]
      exact .follows [] rest none
  | case9 previous t rest hsign hparen hbrace hassign hsemicolon hclose =>
      rw [List.cons_append, memberFrom_close hclose, memberFrom_close hclose]
      exact .follows [] (t :: rest) none
  | case10 previous t rest hsign hparen hbrace hassign hsemicolon hclose hkeyword ih =>
      rw [memberFrom_other hsign hkeyword, if_neg hparen, if_neg hbrace, if_neg hassign,
        if_neg hsemicolon, if_neg hclose]
      by_cases hrest : rest = []
      · rw [hrest, memberFrom_nil]
        exact .spent List.nil_prefix (.inl rfl)
      · rw [List.cons_append, memberFrom_other hsign (not_keyword_append hkeyword hrest cut),
          if_neg hparen, if_neg hbrace, if_neg hassign, if_neg hsemicolon, if_neg hclose]
        exact ih (not_endsInAnnotationKeyword_of_suffix hend (List.suffix_cons t rest))

theorem member_truncates {rest : List Token} (hend : ¬ EndsInAnnotationKeyword (start :: rest))
    (cut : List Token) :
    (member e start rest).Truncates cut (member e start (rest ++ cut)) := by
  have hfrom :
      (memberFrom e start "" (start :: rest)).Truncates cut
        (memberFrom e start "" (start :: (rest ++ cut))) :=
    memberFrom_truncates "" hend cut
  by_cases hbrace : start.text = "\x7b"
  · rw [member, member, if_pos hbrace, if_pos hbrace]
    exact .of_cutShort (skips_skipBraces.cutShort (start :: rest) cut) []
  · rw [member, member, if_neg hbrace, if_neg hbrace]
    by_cases hstatic : start.text = "static" ∧ nextText (rest ++ cut) = "\x7b"
    · rw [if_pos hstatic]
      by_cases hrest : rest = []
      · subst hrest
        rw [if_neg fun h => absurd h.2 (by decide), memberFrom_other (by simp [hstatic.1])
          (by simp [hstatic.1, typeKeyword?])]
        simp only [hstatic.1, memberFrom_nil]
        exact .spent List.nil_prefix (.inl rfl)
      · rw [nextText_append hrest] at hstatic
        rw [if_pos hstatic]
        exact .of_cutShort (skips_skipBraces.cutShort rest cut) []
    · have hshort : ¬ (start.text = "static" ∧ nextText rest = "\x7b") := by
        rintro ⟨htext, hnext⟩
        have hrest : rest ≠ [] := by
          rintro rfl
          exact absurd hnext (by decide)
        exact hstatic ⟨htext, (nextText_append hrest cut).trans hnext⟩
      rw [if_neg hstatic, if_neg hshort]
      exact hfrom

end Members

theorem scanFrom_spent {ts : List Token} (h : Spent ts) (bodies : List Enclosing) :
    scanFrom bodies ts = [] := by
  rcases h with rfl | ⟨dot, hdot, rfl⟩
  · rw [scanFrom]
  · have hmember : member bodies.head? dot [] = ⟨[], [], none⟩ := by
      rw [member, if_neg (by simp [hdot]), if_neg (by simp [hdot]),
        memberFrom_spent (.inr ⟨dot, hdot, rfl⟩)]
    rw [scanFrom_member (by simp [hdot]) (by simp [hdot]) fun _ => by simp [hdot, isPreamble],
      hmember]
    simp [Step.resume, scanFrom]

/-- What a step finds comes first, and a spent step is followed by nothing. -/
theorem Step.Truncates.prefix_resume {cut : List Token} {step full : Step}
    (h : step.Truncates cut full) (bodies : List Enclosing)
    (ih : scanFrom (step.opened.toList ++ bodies) step.rest <+:
      scanFrom (step.opened.toList ++ bodies) (step.rest ++ cut)) :
    step.resume bodies <+: full.resume bodies := by
  cases h with
  | follows found left opened => exact (List.prefix_append_right_inj found).2 ih
  | spent hfound hspent =>
      rw [Step.resume, scanFrom_spent hspent, List.append_nil]
      exact hfound.trans (List.prefix_append _ _)

theorem scanFrom_prefix (bodies : List Enclosing) {ts : List Token}
    (hend : ¬ EndsInAnnotationKeyword ts) (cut : List Token) :
    scanFrom bodies ts <+: scanFrom bodies (ts ++ cut) := by
  induction bodies, ts using scanFrom.induct with
  | case1 bodies =>
      rw [scanFrom]
      exact List.nil_prefix
  | case2 bodies t rest hsemicolon ih =>
      rw [List.cons_append, scanFrom_semicolon bodies hsemicolon,
        scanFrom_semicolon bodies hsemicolon]
      exact ih (not_endsInAnnotationKeyword_of_suffix hend (List.suffix_cons t rest))
  | case3 bodies t rest hsemicolon hclose ih =>
      rw [List.cons_append, scanFrom_close bodies hclose, scanFrom_close bodies hclose]
      exact ih (not_endsInAnnotationKeyword_of_suffix hend (List.suffix_cons t rest))
  | case4 bodies t rest hsemicolon hclose hpreamble ih =>
      have hskip := skips_skipStatement.cutShort (t :: rest) cut
      rw [List.cons_append, scanFrom_statement hpreamble, scanFrom_statement hpreamble,
        ← List.cons_append]
      generalize skipStatement (t :: rest ++ cut) = full at hskip
      cases hskip with
      | follows =>
          exact ih (not_endsInAnnotationKeyword_of_suffix hend (skipStatement_suffix _))
      | spent hspent =>
          rw [scanFrom_spent hspent]
          exact List.nil_prefix
  | case5 bodies t rest hsemicolon hclose hpreamble step ih =>
      have hstep :
          (member bodies.head? t rest).Truncates cut (member bodies.head? t (rest ++ cut)) :=
        member_truncates hend cut
      have hmember : ∀ left, scanFrom bodies (t :: left) =
          (member bodies.head? t left).resume bodies := fun left =>
        scanFrom_member hsemicolon hclose fun hnil => by simpa [hnil] using hpreamble
      rw [List.cons_append, hmember, hmember]
      exact hstep.prefix_resume bodies
        (ih (not_endsInAnnotationKeyword_of_suffix hend (member_reads _ t rest).suffix))

/-- Cutting tokens off cuts declarations off: what is reported for the tokens that remain is the
beginning of what is reported for all, unless they end in the keyword of an annotation type. -/
theorem scan_prefix_of_prefix {remaining ts : List Token} (h : remaining <+: ts)
    (hend : ¬ EndsInAnnotationKeyword remaining) : scan remaining <+: scan ts := by
  obtain ⟨cut, rfl⟩ := h
  exact scanFrom_prefix [] hend cut

/-- A constant of a nested enum, with an annotation whose name is qualified. -/
def annotatedConstant : List Token :=
  ["class", "A", "\x7b", "enum", "B", "\x7b", "@", "C", ".", "D", "X", "\x7d", "\x7d"].zipIdx.map
    fun (text, column) => ⟨text, 1, column⟩

/-- The tokens break off behind the dot of the annotation's name, so that the dot is read as a
token of its own. -/
theorem scan_prefix_of_prefix_annotatedConstant :
    (annotatedConstant.take 9 <+: annotatedConstant ∧
      ¬ EndsInAnnotationKeyword (annotatedConstant.take 9) ∧
      scan annotatedConstant =
        [⟨.classType, "A", 1, 0⟩, ⟨.enumType, "B", 1, 3⟩, ⟨.enumConstant, "X", 1, 6⟩]) ∧
    scan (annotatedConstant.take 9) <+: scan annotatedConstant := by
  have hcut : annotatedConstant.take 9 <+: annotatedConstant := List.take_prefix 9 _
  have hend : ¬ EndsInAnnotationKeyword (annotatedConstant.take 9) := by decide
  exact ⟨⟨hcut, hend, by decide +kernel⟩, scan_prefix_of_prefix hcut hend⟩

/-- The keyword of an annotation type is reported before its name is known. -/
example : ¬ scan [⟨"@", 1, 0⟩, ⟨"interface", 1, 1⟩] <+:
    scan [⟨"@", 1, 0⟩, ⟨"interface", 1, 1⟩, ⟨"X", 1, 11⟩] := by
  decide +kernel

end JavadocTags.Java
