import JavadocTags.Proofs.Java.DeclarationOrder
import JavadocTags.Proofs.Java.TokenTexts

/-!
# The names of declarations

Every name is the text of a token that is read for its declaration, at the start of the declaration
or behind it. Where a type keyword of one word, a parameter list or a constant makes the
declaration, the token has been tested to be an identifier. The name behind `@interface` is the one
that is not tested: there, it is whatever comes next, or nothing at the end.
-/
namespace JavadocTags.Java

/-- Where a declaration takes its name from, among the tokens from its start on. -/
inductive TakesName (ts : List Token) (d : Declaration) : Prop
  | identifier {name : Token} {rest : List Token} :
      name :: rest <:+ ts → isIdentifier name.text = true → d.name = name.text → TakesName ts d
  | annotationType {sign word : Token} {rest : List Token} :
      sign :: word :: rest <:+ ts → sign.text = "@" → word.text = "interface" →
      d.kind = .annotationType → d.name = nextText rest → TakesName ts d

/-- A declaration stands at a token and takes its name from there on. -/
def Declares (ts : List Token) (d : Declaration) : Prop :=
  ∃ start rest, start :: rest <:+ ts ∧ d.place = start.place ∧ TakesName (start :: rest) d

theorem Declares.of_suffix {ts us : List Token} {d : Declaration} (h : Declares us d)
    (hsuffix : us <:+ ts) : Declares ts d := by
  obtain ⟨start, rest, hstart, hplace, hname⟩ := h
  exact ⟨start, rest, hstart.trans hsuffix, hplace, hname⟩

theorem exists_cons_of_nextText {ts : List Token} {text : String} (htext : text ≠ "")
    (h : nextText ts = text) : ∃ t rest, ts = t :: rest ∧ t.text = text := by
  cases ts with
  | nil => exact absurd h.symm htext
  | cons t rest => exact ⟨t, rest, rfl, h⟩

theorem exists_cons_of_isIdentifier {ts : List Token} (h : isIdentifier (nextText ts) = true) :
    ∃ t rest, ts = t :: rest ∧ isIdentifier t.text = true := by
  cases ts with
  | nil => cases h
  | cons t rest => exact ⟨t, rest, rfl, h⟩

theorem declares_of_mem_enumConstants {ts : List Token} {d : Declaration}
    (h : d ∈ (enumConstants ts).1) : Declares ts d := by
  fun_induction enumConstants ts with
  | case1 => cases h
  | case2 => cases h
  | case3 => cases h
  | case4 t rest _ _ _ ih => exact (ih h).of_suffix (List.suffix_cons _ _)
  | case5 => cases h
  | case6 t rest _ _ _ name after hskip hname afterArguments next found left hrec ih =>
      have hsuffix := skipAnnotations_suffix (t :: rest)
      rw [hskip] at hsuffix
      rcases List.mem_cons.1 h with rfl | h
      · exact ⟨t, rest, List.suffix_rfl, rfl, .identifier hsuffix hname rfl⟩
      · rw [hrec] at ih
        exact (ih h).of_suffix ((skipConstantTail_suffix after).trans (suffix_of_cons hsuffix))
  | case7 t rest _ _ _ name after hskip _ ih =>
      have hsuffix := skipAnnotations_suffix (t :: rest)
      rw [hskip] at hsuffix
      exact (ih h).of_suffix (suffix_of_cons hsuffix)

theorem mem_typeDeclaration {kind : Option DeclarationKind} {start : Token} {ts : List Token}
    {d : Declaration} (h : d ∈ (typeDeclaration kind start ts).found) :
    (∃ k, kind = some k ∧ d = declarationAt start k (nextText ts)) ∨ Declares ts d := by
  have hheader := (skipHeader_suffix ts.tail).trans (List.tail_suffix ts)
  have htype (hmem : d ∈ kind.toList.map (declarationAt start · (nextText ts))) :
      ∃ k, kind = some k ∧ d = declarationAt start k (nextText ts) := by
    obtain ⟨k, hk, rfl⟩ := List.mem_map.1 hmem
    exact ⟨k, Option.mem_toList.1 hk, rfl⟩
  unfold typeDeclaration at h
  split at h
  · exact .inl (htype h)
  · rename_i t rest heq
    rw [heq] at hheader
    split at h
    · split at h
      · rcases List.mem_append.1 h with h | h
        · exact .inl (htype h)
        · exact .inr ((declares_of_mem_enumConstants h).of_suffix (suffix_of_cons hheader))
      · exact .inl (htype h)
    · exact .inl (htype h)

/-- The last word of a member, if it can be a name, is the text of one of its tokens. -/
def ReadWord (ts : List Token) (previous : String) : Prop :=
  isIdentifier previous = true → ∃ name rest, name :: rest <:+ ts ∧ name.text = previous

theorem declares_of_mem_memberFrom {enclosing : Option Enclosing} {start : Token}
    {ts later : List Token} {previous : String} {d : Declaration}
    (hprevious : ReadWord (start :: later) previous) (hsuffix : ts <:+ start :: later)
    (h : d ∈ (memberFrom enclosing start previous ts).found) : Declares (start :: later) d := by
  fun_induction memberFrom enclosing start previous ts with
  | case1 => cases h
  | case2 previous t rest hsign hinterface =>
      obtain ⟨word, tail, rfl, hword⟩ := exists_cons_of_nextText (by decide) hinterface
      rcases mem_typeDeclaration h with ⟨k, hkind, rfl⟩ | h
      · obtain rfl := Option.some.inj hkind
        exact ⟨start, later, List.suffix_rfl, rfl, .annotationType hsuffix hsign hword rfl rfl⟩
      · exact h.of_suffix (suffix_of_cons (suffix_of_cons hsuffix))
  | case3 previous t rest _ _ ih =>
      exact ih hprevious ((skipAnnotationBody_suffix _).trans (suffix_of_cons hsuffix)) h
  | case4 previous t rest _ kind hname hkind =>
      obtain ⟨name, tail, rfl, hname⟩ := exists_cons_of_isIdentifier hname
      rcases mem_typeDeclaration h with ⟨k, -, rfl⟩ | h
      · exact ⟨start, later, List.suffix_rfl, rfl,
          .identifier (suffix_of_cons hsuffix) hname rfl⟩
      · exact h.of_suffix (suffix_of_cons hsuffix)
  | case5 previous t rest _ hparen _ =>
      obtain ⟨name, tail, hname, rfl⟩ := hprevious hparen.2
      obtain rfl := List.mem_singleton.1 h
      exact ⟨start, later, List.suffix_rfl, rfl, .identifier hname hparen.2 rfl⟩
  | case6 => cases h
  | case7 => cases h
  | case8 => cases h
  | case9 => cases h
  | case10 previous t rest _ _ _ _ _ _ _ ih =>
      exact ih (fun _ => ⟨t, rest, hsuffix, rfl⟩) (suffix_of_cons hsuffix) h

theorem declares_of_mem_member {enclosing : Option Enclosing} {start : Token}
    {rest : List Token} {d : Declaration} (h : d ∈ (member enclosing start rest).found) :
    Declares (start :: rest) d := by
  unfold member at h
  split at h
  · cases h
  · split at h
    · cases h
    · exact declares_of_mem_memberFrom (fun hempty => by cases hempty) List.suffix_rfl h

theorem declares_of_mem_scanFrom {bodies : List Enclosing} {ts : List Token} {d : Declaration}
    (h : d ∈ scanFrom bodies ts) : Declares ts d := by
  fun_induction scanFrom bodies ts with
  | case1 => cases h
  | case2 bodies t rest _ ih => exact (ih h).of_suffix (List.suffix_cons _ _)
  | case3 bodies t rest _ _ ih => exact (ih h).of_suffix (List.suffix_cons _ _)
  | case4 bodies t rest _ _ _ ih => exact (ih h).of_suffix (skipStatement_suffix _)
  | case5 bodies t rest _ _ _ step ih =>
      rcases List.mem_append.1 h with h | h
      · exact declares_of_mem_member h
      · obtain ⟨read, hread, -⟩ := member_reads bodies.head? t rest
        exact (ih h).of_suffix ⟨read, hread.symm⟩

/-- A place is another one or comes after it. -/
def AtOrBehind (p q : Int × Int) : Prop :=
  p = q ∨ Earlier p q

/-- A name that is an identifier and the text of a token at the start of its declaration or behind
it. -/
structure RealName (ts : List Token) (d : Declaration) : Prop where
  identifier : isIdentifier d.name = true
  token : ∃ t ∈ ts, t.text = d.name ∧ AtOrBehind d.place t.place

/-- An annotation type whose keyword no identifier follows, named by what does follow. -/
structure Nameless (ts : List Token) (d : Declaration) : Prop where
  kind : d.kind = .annotationType
  keyword : ∃ before sign word rest, ts = before ++ sign :: word :: rest ∧ sign.text = "@" ∧
    word.text = "interface" ∧ AtOrBehind d.place sign.place ∧
    isIdentifier (nextText rest) = false ∧ d.name = nextText rest

theorem Nameless.not_realName {ts : List Token} {d : Declaration} (h : Nameless ts d) :
    ¬ RealName ts d := by
  obtain ⟨_, _, _, _, _, _, _, _, _, hnext, hname⟩ := h
  rintro ⟨hidentifier, _⟩
  rw [hname, hnext] at hidentifier
  cases hidentifier

theorem atOrBehind_of_suffix {ts rest : List Token} {start t : Token}
    (hts : ts.Pairwise fun t u => Earlier t.place u.place) (hsuffix : start :: rest <:+ ts)
    (ht : t ∈ start :: rest) : AtOrBehind start.place t.place := by
  have horder := hts.sublist hsuffix.sublist
  rcases List.mem_cons.1 ht with rfl | ht
  · exact .inl rfl
  · exact .inr (List.rel_of_pairwise_cons horder ht)

theorem realName_or_nameless {ts : List Token}
    (hts : ts.Pairwise fun t u => Earlier t.place u.place) {d : Declaration} (h : d ∈ scan ts) :
    RealName ts d ∨ Nameless ts d := by
  obtain ⟨start, later, hstart, hplace, hname⟩ := declares_of_mem_scanFrom h
  have hbehind {t : Token} (ht : t ∈ start :: later) : AtOrBehind d.place t.place := by
    rw [hplace]
    exact atOrBehind_of_suffix hts hstart ht
  have hreal {t : Token} (ht : t ∈ start :: later) (hidentifier : isIdentifier t.text = true)
      (hname : d.name = t.text) : RealName ts d := by
    refine ⟨?_, t, hstart.subset ht, hname.symm, hbehind ht⟩
    rwa [hname]
  cases hname with
  | @identifier name rest hsuffix hidentifier hname =>
      exact .inl (hreal (hsuffix.subset List.mem_cons_self) hidentifier hname)
  | @annotationType sign word rest hsuffix hsign hword hkind hname =>
      by_cases hnext : isIdentifier (nextText rest) = true
      · obtain ⟨t, tail, rfl, hidentifier⟩ := exists_cons_of_isIdentifier hnext
        have hmem := hsuffix.subset (show t ∈ sign :: word :: t :: tail by simp)
        exact .inl (hreal hmem hidentifier hname)
      · obtain ⟨before, hbefore⟩ := hsuffix.trans hstart
        have hmem := hsuffix.subset List.mem_cons_self
        exact .inr ⟨hkind, before, sign, word, rest, hbefore.symm, hsign, hword, hbehind hmem,
          by simpa using hnext, hname⟩

/-- The tokens that the declarations of a source are found among. -/
def sourceTokens (text : List Char) : List Token :=
  tokens (Text.lines (mask (Text.unifyLineEnds text)))

/-- Every declaration of a source has a real name, but for the annotation types whose keyword is not
followed by one. -/
theorem realName_iff (path : String) (text : List Char) {d : Declaration}
    (h : d ∈ (Source.ofText path text).declarations) :
    RealName (sourceTokens text) d ↔ ¬ Nameless (sourceTokens text) d := by
  constructor
  · intro hreal hnameless
    exact hnameless.not_realName hreal
  · intro hnameless
    rcases realName_or_nameless (tokensFrom_pairwise 1 _) h with hreal | hno
    · exact hreal
    · exact absurd hno hnameless

def namedMarker : List Char :=
  "@interface N \x7b int m(); \x7d".toList

theorem realName_iff_namedMarker :
    ⟨.annotationType, "N", 1, 0⟩ ∈ (Source.ofText "" namedMarker).declarations ∧
      (RealName (sourceTokens namedMarker) ⟨.annotationType, "N", 1, 0⟩ ↔
        ¬ Nameless (sourceTokens namedMarker) ⟨.annotationType, "N", 1, 0⟩) := by
  have hmem : ⟨.annotationType, "N", 1, 0⟩ ∈ (Source.ofText "" namedMarker).declarations := by
    decide +kernel
  exact ⟨hmem, realName_iff "" _ hmem⟩

/-- Not every declaration has a real name: without one, the brace behind the keyword is taken. -/
theorem not_realName : ¬ ∀ path text, ∀ d ∈ (Source.ofText path text).declarations,
    RealName (sourceTokens text) d := by
  intro hall
  have hmem : ⟨.annotationType, "\x7b", 1, 0⟩ ∈
      (Source.ofText "" "@interface \x7b\x7d".toList).declarations := by
    decide +kernel
  have hname : isIdentifier "\x7b" = true := (hall "" _ _ hmem).identifier
  revert hname
  decide

end JavadocTags.Java
