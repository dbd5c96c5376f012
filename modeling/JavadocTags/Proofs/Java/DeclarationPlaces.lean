import JavadocTags.Java.Source
import JavadocTags.Proofs.Java.TokenTexts
import JavadocTags.Proofs.Text.Positions

/-!
# Where declarations stand

The scanner only ever steps forward, and what it reports stands at tokens that it steps over, in
their order. A token in turn stands at a character of its text that is no blank, and its line and
column are what reading the text up to there gives.
-/
namespace JavadocTags.Java

section Suffixes

theorem skipBrackets_suffix (opening closing : String) (depth : Nat) (ts : List Token) :
    skipBrackets opening closing depth ts <:+ ts := by
  fun_induction skipBrackets opening closing depth ts with
  | case1 => exact List.suffix_rfl
  | case2 _ t rest _ ih => exact ih.trans (List.suffix_cons _ _)
  | case3 t rest _ _ => exact List.suffix_cons _ _
  | case4 _ t rest _ _ _ ih => exact ih.trans (List.suffix_cons _ _)
  | case5 _ t rest _ _ ih => exact ih.trans (List.suffix_cons _ _)

/-- A bracket skip takes at least the token that it begins with. -/
theorem skipBrackets_cons_suffix (opening closing : String) (depth : Nat) (t : Token)
    (rest : List Token) : skipBrackets opening closing depth (t :: rest) <:+ rest := by
  rw [skipBrackets]
  split
  · exact skipBrackets_suffix ..
  · split
    · split
      · exact List.suffix_rfl
      · exact skipBrackets_suffix ..
    · exact skipBrackets_suffix ..

theorem skipStatement_suffix (ts : List Token) : skipStatement ts <:+ ts := by
  fun_induction skipStatement ts with
  | case1 => exact List.suffix_rfl
  | case2 => exact List.suffix_cons _ _
  | case3 t rest _ _ ih => exact ih.trans (skipBrackets_suffix ..)
  | case4 t rest _ _ _ ih => exact ih.trans (skipBrackets_suffix ..)
  | case5 => exact List.suffix_rfl
  | case6 t rest _ _ _ _ ih => exact ih.trans (List.suffix_cons _ _)

theorem skipQualifiers_suffix (ts : List Token) : skipQualifiers ts <:+ ts := by
  fun_induction skipQualifiers ts with
  | case1 dot name rest _ ih =>
      exact ih.trans ((List.suffix_cons _ _).trans (List.suffix_cons _ _))
  | case2 => exact List.suffix_rfl
  | case3 => exact List.suffix_rfl

theorem skipArguments_suffix (ts : List Token) : skipArguments ts <:+ ts := by
  unfold skipArguments
  split
  · exact skipBrackets_suffix ..
  · exact List.suffix_rfl

theorem skipAnnotationBody_suffix (ts : List Token) : skipAnnotationBody ts <:+ ts := by
  unfold skipAnnotationBody
  refine (skipArguments_suffix _).trans ?_
  split
  · exact (skipQualifiers_suffix _).trans (List.tail_suffix _)
  · exact List.suffix_rfl

theorem skipAnnotations_suffix (ts : List Token) : skipAnnotations ts <:+ ts := by
  fun_induction skipAnnotations ts with
  | case1 => exact List.suffix_rfl
  | case2 t rest _ ih =>
      exact ih.trans ((skipAnnotationBody_suffix _).trans (List.suffix_cons _ _))
  | case3 => exact List.suffix_rfl

theorem skipConstantTail_suffix (ts : List Token) : skipConstantTail ts <:+ ts := by
  unfold skipConstantTail
  split
  · exact (skipBrackets_suffix ..).trans (skipArguments_suffix ts)
  · exact skipArguments_suffix ts

theorem skipHeader_suffix (ts : List Token) : skipHeader ts <:+ ts := by
  fun_induction skipHeader ts with
  | case1 => exact List.suffix_rfl
  | case2 => exact List.suffix_rfl
  | case3 t rest _ _ ih => exact ih.trans (skipBrackets_suffix ..)
  | case4 t rest _ _ ih => exact ih.trans (List.suffix_cons _ _)

theorem skipCallableTail_suffix (isField : Bool) (ts : List Token) :
    skipCallableTail isField ts <:+ ts := by
  fun_induction skipCallableTail isField ts with
  | case1 => exact List.suffix_rfl
  | case2 t rest _ _ ih => exact ih.trans (skipBrackets_suffix ..)
  | case3 t rest _ _ => exact skipBrackets_suffix ..
  | case4 t rest _ _ ih => exact ih.trans (skipBrackets_suffix ..)
  | case5 => exact List.suffix_cons _ _
  | case6 => exact List.suffix_rfl
  | case7 t rest _ _ _ _ ih => exact ih.trans (List.suffix_cons _ _)

theorem suffix_of_cons {t : Token} {rest ts : List Token} (h : t :: rest <:+ ts) : rest <:+ ts :=
  (List.suffix_cons _ _).trans h

theorem suffix_of_cons_cons {t u : Token} {rest ts : List Token} (h : t :: rest <:+ u :: ts) :
    rest <:+ ts := by
  rcases List.suffix_cons_iff.1 h with heq | h
  · obtain ⟨_, rfl⟩ := List.cons.inj heq
    exact List.suffix_rfl
  · exact suffix_of_cons h

end Suffixes

def Token.place (t : Token) : Int × Int :=
  (t.line, t.column)

end JavadocTags.Java

namespace JavadocTags

def Declaration.place (d : Declaration) : Int × Int :=
  (d.line, d.column)

end JavadocTags

namespace JavadocTags.Java

/-- The tokens `ts` are read as far as `rest`, and what is found stands at tokens read on the way,
in their order. -/
def Reads (ts : List Token) (found : List Declaration) (rest : List Token) : Prop :=
  ∃ read, ts = read ++ rest ∧ (found.map Declaration.place).Sublist (read.map Token.place)

theorem Reads.of_suffix {ts rest : List Token} (h : rest <:+ ts) : Reads ts [] rest := by
  obtain ⟨read, rfl⟩ := h
  exact ⟨read, rfl, List.nil_sublist _⟩

theorem Reads.append {ts mid rest : List Token} {found later : List Declaration}
    (h : Reads ts found mid) (hlater : Reads mid later rest) :
    Reads ts (found ++ later) rest := by
  obtain ⟨read, rfl, hfound⟩ := h
  obtain ⟨read', rfl, hlater⟩ := hlater
  refine ⟨read ++ read', (List.append_assoc _ _ _).symm, ?_⟩
  rw [List.map_append, List.map_append]
  exact hfound.append hlater

theorem Reads.of_suffix_left {ts mid rest : List Token} {found : List Declaration}
    (hmid : mid <:+ ts) (h : Reads mid found rest) : Reads ts found rest :=
  (Reads.of_suffix hmid).append h

/-- A declaration at the first token, and what is found further on. -/
theorem Reads.declare {t : Token} {ts rest : List Token} {found : List Declaration}
    (kind : DeclarationKind) (name : String) (h : Reads ts found rest) :
    Reads (t :: ts) (declarationAt t kind name :: found) rest := by
  obtain ⟨read, rfl, hfound⟩ := h
  exact ⟨t :: read, rfl, hfound.cons_cons _⟩

theorem enumConstants_reads (ts : List Token) :
    Reads ts (enumConstants ts).1 (enumConstants ts).2 := by
  fun_induction enumConstants ts with
  | case1 => exact .of_suffix List.suffix_rfl
  | case2 => exact .of_suffix (List.suffix_cons _ _)
  | case3 => exact .of_suffix List.suffix_rfl
  | case4 t rest _ _ _ ih => exact ih.of_suffix_left (List.suffix_cons _ _)
  | case5 => exact .of_suffix (List.nil_suffix)
  | case6 t rest _ _ _ name after hskip _ afterArguments next found left hrec ih =>
      have hafter : after <:+ rest := by
        have hsuffix := skipAnnotations_suffix (t :: rest)
        rw [hskip] at hsuffix
        exact suffix_of_cons_cons hsuffix
      have hnext : next <:+ after := skipConstantTail_suffix after
      rw [hrec] at ih
      exact (ih.of_suffix_left (hnext.trans hafter)).declare _ _
  | case7 t rest _ _ _ name after hskip _ ih =>
      have hsuffix := skipAnnotations_suffix (t :: rest)
      rw [hskip] at hsuffix
      exact ih.of_suffix_left (suffix_of_cons hsuffix)

theorem typeDeclaration_reads (kind : Option DeclarationKind) (start : Token) (ts : List Token) :
    ∃ constants, (typeDeclaration kind start ts).found =
        kind.toList.map (declarationAt start · (nextText ts)) ++ constants ∧
      Reads ts constants (typeDeclaration kind start ts).rest := by
  have hheader := (skipHeader_suffix ts.tail).trans (List.tail_suffix ts)
  unfold typeDeclaration
  split
  · exact ⟨[], (List.append_nil _).symm, .of_suffix List.nil_suffix⟩
  · rename_i t rest heq
    rw [heq] at hheader
    split
    · split
      · exact ⟨_, rfl, (enumConstants_reads rest).of_suffix_left (suffix_of_cons hheader)⟩
      · exact ⟨[], (List.append_nil _).symm, .of_suffix (suffix_of_cons hheader)⟩
    · exact ⟨[], (List.append_nil _).symm, .of_suffix hheader⟩

theorem typeDeclaration_reads_start (kind : Option DeclarationKind) {start : Token}
    {ts later : List Token} (h : ts <:+ later) :
    Reads (start :: later) (typeDeclaration kind start ts).found
      (typeDeclaration kind start ts).rest := by
  obtain ⟨constants, hfound, hreads⟩ := typeDeclaration_reads kind start ts
  rw [hfound]
  cases kind with
  | none => exact hreads.of_suffix_left (h.trans (List.suffix_cons _ _))
  | some kind => exact (hreads.of_suffix_left h).declare _ _

theorem memberFrom_reads (enclosing : Option Enclosing) {start : Token} {ts later : List Token}
    (previous : String) (h : ts <:+ start :: later) :
    Reads (start :: later) (memberFrom enclosing start previous ts).found
      (memberFrom enclosing start previous ts).rest := by
  -- However far the member is read, its declaration stands at `start`, in front of what is read.
  fun_induction memberFrom enclosing start previous ts with
  | case1 => exact .of_suffix List.nil_suffix
  | case2 previous t rest _ _ =>
      exact typeDeclaration_reads_start _
        ((List.tail_suffix _).trans (suffix_of_cons_cons h))
  | case3 previous t rest _ _ ih =>
      exact ih ((skipAnnotationBody_suffix _).trans (suffix_of_cons h))
  | case4 previous t rest _ kind => exact typeDeclaration_reads_start _ (suffix_of_cons_cons h)
  | case5 previous t rest =>
      refine Reads.declare _ _ (.of_suffix ?_)
      exact (skipCallableTail_suffix _ _).trans
        ((skipBrackets_cons_suffix ..).trans (suffix_of_cons_cons h))
  | case6 previous t rest => exact .of_suffix ((skipBrackets_suffix ..).trans h)
  | case7 previous t rest => exact .of_suffix ((skipStatement_suffix _).trans h)
  | case8 => exact .of_suffix (suffix_of_cons h)
  | case9 => exact .of_suffix h
  | case10 previous t rest _ _ _ _ _ _ _ ih => exact ih (suffix_of_cons h)

theorem member_reads (enclosing : Option Enclosing) (start : Token) (rest : List Token) :
    Reads (start :: rest) (member enclosing start rest).found
      (member enclosing start rest).rest := by
  unfold member
  split
  · exact .of_suffix (skipBrackets_suffix ..)
  · split
    · exact .of_suffix ((skipBrackets_suffix ..).trans (List.suffix_cons _ _))
    · exact memberFrom_reads enclosing "" List.suffix_rfl

theorem scanFrom_reads (bodies : List Enclosing) (ts : List Token) :
    Reads ts (scanFrom bodies ts) [] := by
  fun_induction scanFrom bodies ts with
  | case1 => exact .of_suffix List.suffix_rfl
  | case2 bodies t rest _ ih => exact ih.of_suffix_left (List.suffix_cons _ _)
  | case3 bodies t rest _ _ ih => exact ih.of_suffix_left (List.suffix_cons _ _)
  | case4 bodies t rest _ _ _ ih => exact ih.of_suffix_left (skipStatement_suffix _)
  | case5 bodies t rest _ _ _ step ih => exact (member_reads bodies.head? t rest).append ih

theorem scan_places_sublist (ts : List Token) :
    ((scan ts).map Declaration.place).Sublist (ts.map Token.place) := by
  obtain ⟨read, hread, hfound⟩ := scanFrom_reads [] ts
  rw [List.append_nil] at hread
  rwa [← hread] at hfound

theorem exists_token_of_mem_scan {ts : List Token} {d : Declaration} (h : d ∈ scan ts) :
    ∃ t ∈ ts, d.line = t.line ∧ d.column = t.column := by
  have hplace := (scan_places_sublist ts).subset (List.mem_map_of_mem h)
  obtain ⟨t, ht, hplace⟩ := List.mem_map.1 hplace
  obtain ⟨hline, hcolumn⟩ := Prod.mk.inj hplace
  exact ⟨t, ht, hline.symm, hcolumn.symm⟩

/-- A token begins with the character of its line that it stands at, which is no blank. -/
theorem mem_tokensOfLine {t : Token} {line column : Nat} {text : List Char}
    (h : t ∈ tokensOfLine line column text) :
    ∃ before c after, text = before ++ c :: after ∧ Text.isBlank c = false ∧
      t.text.toList.head? = some c ∧ t.line = line ∧ t.column = column + before.length := by
  fun_induction tokensOfLine line column text with
  | case1 => cases h
  | case2 column c rest hblank ih =>
      obtain ⟨before, d, after, rfl, hd, hhead, hline, hcolumn⟩ := ih h
      refine ⟨c :: before, d, after, rfl, hd, hhead, hline, ?_⟩
      rw [hcolumn, List.length_cons]
      omega
  | case3 column c rest hblank tail ih =>
      rcases List.mem_cons.1 h with rfl | h
      · refine ⟨[], c, rest, rfl, by simpa using hblank, ?_, rfl, rfl⟩
        rw [String.toList_ofList]
        rfl
      · obtain ⟨before, d, after, hrest, hd, hhead, hline, hcolumn⟩ := ih h
        refine ⟨c :: tail ++ before, d, after, ?_, hd, hhead, hline, ?_⟩
        · rw [List.append_assoc, ← hrest, List.cons_append, splitLexeme_append]
        · rw [hcolumn, List.length_append, List.length_cons]
          omega

theorem mem_tokensOfLine_position {t : Token} {line : Nat} {text : List Char}
    (htext : '\n' ∉ text) (h : t ∈ tokensOfLine line 0 text) :
    ∃ before c after, text = before ++ c :: after ∧ Text.isBlank c = false ∧
      t.text.toList.head? = some c ∧
      Text.Position.after ⟨line, 0⟩ before = ⟨t.line, t.column⟩ := by
  obtain ⟨before, c, after, rfl, hc, hhead, hline, hcolumn⟩ := mem_tokensOfLine h
  rw [List.mem_append, not_or] at htext
  refine ⟨before, c, after, rfl, hc, hhead, ?_⟩
  rw [Text.Position.after_of_not_mem _ htext.1, hline, hcolumn]

/-- A token begins with the character of the text that it stands at, which is no blank, and its line
and column are the position of that character. -/
theorem mem_tokensFrom {t : Token} {line : Nat} {text : List Char}
    (h : t ∈ tokensFrom line (Text.lines text)) :
    ∃ before c after, text = before ++ c :: after ∧ Text.isBlank c = false ∧
      t.text.toList.head? = some c ∧
      Text.Position.after ⟨line, 0⟩ before = ⟨t.line, t.column⟩ := by
  induction text using Text.lines_induction generalizing line with
  | last first hfirst =>
      rw [Text.lines_of_not_mem hfirst, tokensFrom, tokensFrom, List.append_nil] at h
      exact mem_tokensOfLine_position hfirst h
  | line first rest hfirst ih =>
      rw [Text.lines_append hfirst, tokensFrom, List.mem_append] at h
      rcases h with h | h
      · obtain ⟨before, c, after, hbefore, hc, hhead, hposition⟩ :=
          mem_tokensOfLine_position hfirst h
        refine ⟨before, c, after ++ '\n' :: rest, ?_, hc, hhead, hposition⟩
        rw [hbefore, List.append_assoc]
        rfl
      · obtain ⟨before, c, after, hbefore, hc, hhead, hposition⟩ := ih h
        refine ⟨first ++ '\n' :: before, c, after, ?_, hc, hhead, ?_⟩
        · rw [hbefore, List.append_assoc]
          rfl
        · rw [Text.Position.after_append, Text.Position.after_of_not_mem _ hfirst,
            Text.Position.after_cons, Text.Position.advance_lineFeed]
          exact hposition

/-- A declaration stands at a character of the masked text that is no blank. -/
theorem exists_offset_of_mem_declarations {text : List Char} {d : Declaration}
    (h : d ∈ declarations text) :
    ∃ before c after, mask text = before ++ c :: after ∧ Text.isBlank c = false ∧
      d.line = (Text.Position.origin.after before).line ∧
      d.column = (Text.Position.origin.after before).column := by
  obtain ⟨t, ht, hline, hcolumn⟩ := exists_token_of_mem_scan h
  obtain ⟨before, c, after, hmask, hc, _, hposition⟩ := mem_tokensFrom ht
  refine ⟨before, c, after, hmask, hc, ?_⟩
  rw [hline, hcolumn]
  exact ⟨congrArg (fun p => (p.line : Int)) hposition.symm,
    congrArg (fun p => (p.column : Int)) hposition.symm⟩

end JavadocTags.Java
