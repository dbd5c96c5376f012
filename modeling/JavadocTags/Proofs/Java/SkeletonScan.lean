import JavadocTags.Proofs.Java.Skeleton

/-!
# Scanning a skeleton

Each production of the grammar of skeletons is read by one step of the scanner, or by one step that
opens a body. The main statement is that the scanner reports exactly the declarations of a
compilation unit, in source order and each at its first token.
-/
namespace JavadocTags.Java

theorem isIdentifier_ne {text other : String} (h : isIdentifier text = true)
    (hother : isIdentifier other = false) : text ≠ other := by
  rintro rfl
  rw [h] at hother
  cases hother

theorem skipQualifiers_of_ne {ts : List Token} (h : nextText ts ≠ ".") :
    skipQualifiers ts = ts := by
  unfold skipQualifiers
  split
  · rename_i dot name rest
    rw [if_neg fun hdot => h hdot.1]
  · rfl

theorem skipQualifiers_append {qualifiers rest : List Token} (h : Qualifiers qualifiers)
    (hrest : nextText rest ≠ ".") : skipQualifiers (qualifiers ++ rest) = rest := by
  induction h with
  | nil => exact skipQualifiers_of_ne hrest
  | @cons dot name ts hdot hname _ ih =>
      rw [List.cons_append, List.cons_append, skipQualifiers, if_pos ⟨hdot, hname⟩, ih]

/-- What the scanner needs to know of an annotation: its sign is not that of an annotation type,
and it is stepped over whole unless a dot or a parenthesis follows. -/
theorem Annotation.skip {group : List Token} (h : Annotation group) :
    ∃ sign body, group = sign :: body ∧ sign.text = "@" ∧
      (∀ rest, nextText (body ++ rest) ≠ "interface") ∧
      ∀ rest, nextText rest ≠ "." → nextText rest ≠ "(" →
        skipAnnotationBody (body ++ rest) = rest := by
  obtain ⟨hsign, hname, hinterface, hqualifiers, harguments⟩ := h
  rename_i sign name qualifiers arguments
  refine ⟨sign, _, rfl, hsign, fun rest => hinterface, ?_⟩
  intro rest hdot hparen
  have hnext : nextText (arguments ++ rest) ≠ "." := by
    rcases harguments with rfl | hgroup
    · exact hdot
    · rw [hgroup.nextText]
      decide
  have hskip := skipQualifiers_append hqualifiers hnext
  unfold skipAnnotationBody
  rw [List.cons_append, List.append_assoc, nextText_cons, if_pos hname, List.tail_cons, hskip,
    skipArguments_append harguments hparen]

theorem Annotations.nextText {annotations : List Token} (h : Annotations annotations)
    (rest : List Token) :
    nextText (annotations ++ rest) = "@" ∨ nextText (annotations ++ rest) = nextText rest := by
  cases h with
  | nil => exact .inr rfl
  | cons hgroup _ =>
      obtain ⟨sign, body, rfl, hsign, _⟩ := hgroup.skip
      exact .inl hsign

theorem skipAnnotations_append {annotations : List Token} (h : Annotations annotations)
    {name : Token} (hname : isIdentifier name.text = true) (rest : List Token) :
    skipAnnotations (annotations ++ name :: rest) = name :: rest := by
  induction h with
  | nil => rw [List.nil_append, skipAnnotations, if_neg (isIdentifier_ne hname (by decide))]
  | @cons group ts hgroup hts ih =>
      obtain ⟨sign, body, rfl, hsign, _, hskip⟩ := hgroup.skip
      have hnext := hts.nextText (name :: rest)
      have hbody : skipAnnotationBody (body ++ (ts ++ name :: rest)) = ts ++ name :: rest := by
        apply hskip
        · rcases hnext with hnext | hnext <;> rw [hnext]
          · decide
          · exact isIdentifier_ne hname (by decide)
        · rcases hnext with hnext | hnext <;> rw [hnext]
          · decide
          · exact isIdentifier_ne hname (by decide)
      rw [List.append_assoc, List.cons_append, skipAnnotations, if_pos hsign, hbody, ih]

/-- A constant is read whole if what follows is no part of it. -/
theorem enumConstants_constant {ts : List Token} {d : Declaration} (h : Constant ts d)
    {rest : List Token} (hparen : nextText rest ≠ "(") (hbrace : nextText rest ≠ "\x7b") :
    enumConstants (ts ++ rest) = (d :: (enumConstants rest).1, (enumConstants rest).2) := by
  obtain ⟨hannotations, hname, harguments, hbody⟩ := h
  rename_i annotations arguments body name
  have hskip := skipAnnotations_append hannotations hname (arguments ++ (body ++ rest))
  have hnext : nextText (body ++ rest) ≠ "(" := by
    rcases hbody with rfl | hgroup
    · exact hparen
    · rw [hgroup.nextText]
      decide
  have hafter : skipArguments (arguments ++ (body ++ rest)) = body ++ rest :=
    skipArguments_append harguments hnext
  have hrest : (if nextText (body ++ rest) = "\x7b" then skipBraces (body ++ rest)
      else body ++ rest) = rest := by
    rcases hbody with rfl | hgroup
    · rw [List.nil_append, if_neg hbrace]
    · rw [if_pos (hgroup.nextText rest), skipBraces_bracketed hgroup]
  -- The first token is the sign of an annotation or the name itself.
  obtain ⟨t, tail, heq, hhead, htext⟩ : ∃ t tail,
      annotations ++ name :: (arguments ++ (body ++ rest)) = t :: tail ∧
      annotations.headD name = t ∧ (t.text = "@" ∨ t = name) := by
    cases hannotations with
    | nil => exact ⟨name, _, rfl, rfl, .inr rfl⟩
    | cons hgroup _ =>
        obtain ⟨sign, tail, rfl, hsign, _⟩ := hgroup.skip
        exact ⟨sign, _, rfl, rfl, .inl hsign⟩
  have hne : ∀ other, other ≠ "@" → isIdentifier other = false → t.text ≠ other := by
    intro other hsign hother
    rcases htext with htext | rfl
    · rw [htext]
      exact hsign.symm
    · exact isIdentifier_ne hname hother
  rw [heq] at hskip
  rw [List.append_assoc, List.cons_append, List.append_assoc, heq, enumConstants,
    if_neg (hne _ (by decide) (by decide)), if_neg (hne _ (by decide) (by decide)),
    if_neg (hne _ (by decide) (by decide)), hhead]
  split
  · rename_i hnil
    rw [hskip] at hnil
    cases hnil
  · rename_i hcons
    rw [hskip] at hcons
    obtain ⟨rfl, rfl⟩ := List.cons.inj hcons
    rw [if_pos hname, hafter]
    simp only [hrest]

@[simp] theorem enumConstants_comma {comma : Token} (h : comma.text = ",") (rest : List Token) :
    enumConstants (comma :: rest) = enumConstants rest := by
  rw [enumConstants, if_neg (by simp [h]), if_neg (by simp [h]), if_pos h]

/-- A list of constants is read up to the semicolon or the closing brace behind it. -/
theorem enumConstants_append {ts : List Token} {ds : List Declaration} (h : Constants ts ds)
    {last : Token} (hlast : last.text = ";" ∨ last.text = "\x7d") (rest : List Token) :
    enumConstants (ts ++ last :: rest) =
      (ds ++ (enumConstants (last :: rest)).1, (enumConstants (last :: rest)).2) := by
  induction h with
  | nil => rfl
  | last hconstant =>
      refine enumConstants_constant hconstant ?_ ?_ <;>
        rcases hlast with hlast | hlast <;> rw [nextText_cons, hlast] <;> decide
  | @cons ts more comma d ds hconstant hcomma _ ih =>
      have hparen : nextText (comma :: (more ++ last :: rest)) ≠ "(" := by
        rw [nextText_cons, hcomma]
        decide
      have hbrace : nextText (comma :: (more ++ last :: rest)) ≠ "\x7b" := by
        rw [nextText_cons, hcomma]
        decide
      have hfirst := enumConstants_constant hconstant hparen hbrace
      rw [List.append_assoc, List.cons_append, hfirst, enumConstants_comma hcomma, ih,
        List.cons_append]

/-- A type declaration opens its body behind a start that any members can follow. -/
theorem typeDeclaration_opens {kind : Option DeclarationKind} {start name opening : Token}
    {header begin : List Token} {constants : List Declaration}
    (hheader : Clause false header) (hopening : opening.text = "\x7b")
    (hbegin : ∀ members, BodyStart kind begin constants members) (rest : List Token) :
    typeDeclaration kind start (name :: (header ++ opening :: (begin ++ rest))) =
      ⟨kind.toList.map (declarationAt start · name.text) ++ constants, rest,
        some ⟨kind, name.text⟩⟩ := by
  unfold typeDeclaration
  rw [List.tail_cons, skipHeader_clause hheader, skipHeader_brace hopening]
  simp only [hopening, if_true, nextText_cons]
  cases hbegin [name] with
  | other hkind => rw [if_neg hkind, List.nil_append, List.append_nil]
  | @constants ts members last ds hconstants hlast =>
      have hread := enumConstants_append hconstants (.inl hlast) rest
      have hend : enumConstants (last :: rest) = ([], rest) := by
        rw [enumConstants, if_pos hlast]
      rw [List.append_assoc, List.singleton_append, hread, hend, if_pos rfl, List.append_nil]

/-- A type declaration opens its body at the first member. -/
theorem typeDeclaration_body {kind : Option DeclarationKind} {start name opening closing : Token}
    {header begin members : List Token} {constants : List Declaration}
    (hheader : Clause false header) (hopening : opening.text = "\x7b")
    (hbegin : BodyStart kind begin constants members) (hclosing : closing.text = "\x7d")
    (rest : List Token) :
    typeDeclaration kind start
        (name :: (header ++ opening :: (begin ++ (members ++ closing :: rest)))) =
      ⟨kind.toList.map (declarationAt start · name.text) ++ constants,
        members ++ closing :: rest, some ⟨kind, name.text⟩⟩ := by
  cases hbegin with
  | other hkind => exact typeDeclaration_opens hheader hopening (fun _ => .other hkind) _
  | constants hconstants hlast =>
      exact typeDeclaration_opens hheader hopening (fun _ => .constants hconstants hlast) _
  | @constantsOnly ts ds hconstants =>
      have hread := enumConstants_append hconstants (.inr hclosing) rest
      have hend : enumConstants (closing :: rest) = ([], closing :: rest) := by
        rw [enumConstants, if_neg (by simp [hclosing]), if_pos hclosing]
      unfold typeDeclaration
      rw [List.tail_cons, skipHeader_clause hheader, skipHeader_brace hopening]
      simp only [hopening, if_true, nextText_cons]
      rw [List.nil_append, hread, hend, List.append_nil]

section Members
variable {e : Option Enclosing} {start : Token}

theorem memberFrom_token {t : Token} (h : t.text ∉ decisive) (previous : String)
    (rest : List Token) :
    memberFrom e start previous (t :: rest) = memberFrom e start t.text rest := by
  simp only [decisive, List.mem_cons, List.not_mem_nil, or_false, not_or] at h
  obtain ⟨hclass, hinterface, henum, hrecord, _, _, hsign, hparen, hopen, hclose, hsemi, heq⟩ := h
  have hkeyword : typeKeyword? t.text = none := by
    rw [typeKeyword?, if_neg hclass, if_neg hinterface, if_neg henum, if_neg hrecord]
  rw [memberFrom, if_neg hsign, hkeyword]
  simp only
  rw [if_neg (fun h => hparen h.1), if_neg hopen, if_neg (by simp [heq, hparen]), if_neg hsemi,
    if_neg hclose]

/-- A name is no keyword unless an identifier follows it. -/
theorem memberFrom_name {name : Token} {rest : List Token} (hname : isIdentifier name.text = true)
    (hrest : isIdentifier (nextText rest) = false) (previous : String) :
    memberFrom e start previous (name :: rest) = memberFrom e start name.text rest := by
  have hne : ∀ other, isIdentifier other = false → name.text ≠ other := fun other hother =>
    isIdentifier_ne hname hother
  have hparen := hne "(" (by decide)
  have hassign := hne "=" (by decide)
  rw [memberFrom, if_neg (hne "@" (by decide)), hrest]
  cases typeKeyword? name.text <;>
    · simp only
      rw [if_neg (fun h => hparen h.1), if_neg (hne "\x7b" (by decide)),
        if_neg (by simp [hassign, hparen]), if_neg (hne ";" (by decide)),
        if_neg (hne "\x7d" (by decide))]

theorem memberFrom_annotation {group rest : List Token} (h : Annotation group)
    (hdot : nextText rest ≠ ".") (hparen : nextText rest ≠ "(") (previous : String) :
    memberFrom e start previous (group ++ rest) = memberFrom e start previous rest := by
  obtain ⟨sign, body, rfl, hsign, hinterface, hskip⟩ := h.skip
  rw [List.cons_append, memberFrom, if_pos hsign, if_neg (hinterface rest),
    hskip rest hdot hparen]

/-- Of the deciding texts only the sign of an annotation and `record` can begin a lead. -/
theorem Lead.nextText_ne {lead rest : List Token} (h : Lead lead) {other : String}
    (hother : other ∈ decisive) (hsign : other ≠ "@") (hword : other ≠ "record")
    (hrest : nextText rest ≠ other) :
    nextText (lead ++ rest) ≠ other := by
  cases h with
  | nil => exact hrest
  | token htext _ =>
      rintro rfl
      exact htext hother
  | record hrecord _ _ _ =>
      rw [List.cons_append, nextText_cons, hrecord]
      exact hword.symm
  | annotated hgroup _ _ =>
      obtain ⟨sign, body, rfl, htext, _⟩ := hgroup.skip
      rw [List.append_assoc, List.cons_append, nextText_cons, htext]
      exact hsign.symm

/-- A lead leaves no trace but the last word, which the token behind it replaces. -/
theorem memberFrom_lead {lead : List Token} (h : Lead lead) (rest : List Token)
    (hdot : nextText rest ≠ ".") (hparen : nextText rest ≠ "(") (previous : String) :
    ∃ last, memberFrom e start previous (lead ++ rest) = memberFrom e start last rest := by
  induction h generalizing previous with
  | nil => exact ⟨previous, rfl⟩
  | @token t ts htext _ ih =>
      obtain ⟨last, hlast⟩ := ih t.text
      exact ⟨last, by rw [List.cons_append, memberFrom_token htext, hlast]⟩
  | @record t ts hrecord hne hnext _ ih =>
      obtain ⟨last, hlast⟩ := ih t.text
      refine ⟨last, ?_⟩
      rw [List.cons_append, memberFrom_name (by rw [hrecord]; decide)
        (by rw [nextText_append hne, hnext]), hlast]
  | @annotated group ts hgroup hnext hts ih =>
      obtain ⟨last, hlast⟩ := ih previous
      have hdots : nextText (ts ++ rest) ≠ "." := by
        cases ts with
        | nil => exact hdot
        | cons t ts => exact hnext
      have hparens := hts.nextText_ne (by decide) (by decide) (by decide) hparen
      refine ⟨last, ?_⟩
      rw [List.append_assoc, memberFrom_annotation hgroup hdots hparens, hlast]

theorem memberFrom_keyword {first name : Token} {keyword : List Token}
    {kind : Option DeclarationKind} (h : Keyword first keyword kind)
    (hname : isIdentifier name.text = true) (rest : List Token) (previous : String) :
    memberFrom e start previous (first :: (keyword ++ name :: rest)) =
      typeDeclaration kind start (name :: rest) := by
  cases h with
  | annotationType hsign hword =>
      rw [memberFrom, if_pos hsign, List.cons_append, nextText_cons, if_pos hword]
      rfl
  | _ hword =>
      rw [memberFrom, hword, if_neg (by decide), List.nil_append, nextText_cons, hname]
      rfl

end Members

theorem member_eq_memberFrom {e : Option Enclosing} {start : Token} {rest : List Token}
    (hbrace : start.text ≠ "\x7b")
    (hstatic : ¬ (start.text = "static" ∧ nextText rest = "\x7b")) :
    member e start rest = memberFrom e start "" (start :: rest) := by
  rw [member, if_neg hbrace, if_neg hstatic]

/-- A member is read from behind its lead on. The conditions on `first` hold where it is the token
that the member starts with. -/
theorem scanFrom_lead {bodies : List Enclosing} {lead tail : List Token} {first : Token}
    (hlead : Lead lead) (hdot : first.text ≠ ".") (hparen : first.text ≠ "(")
    (hbrace : first.text ≠ "\x7b")
    (hstart : lead = [] → first.text ≠ ";" ∧ first.text ≠ "\x7d" ∧
      (bodies = [] → isPreamble first.text = false) ∧
      ¬ (first.text = "static" ∧ nextText tail = "\x7b")) :
    ∃ previous, scanFrom bodies (lead ++ first :: tail) =
      (memberFrom bodies.head? (lead.headD first) previous (first :: tail)).resume bodies := by
  obtain ⟨previous, hread⟩ :
      ∃ previous, memberFrom bodies.head? (lead.headD first) "" (lead ++ first :: tail) =
        memberFrom bodies.head? (lead.headD first) previous (first :: tail) :=
    memberFrom_lead hlead (first :: tail) hdot hparen ""
  refine ⟨previous, ?_⟩
  rw [← hread]
  cases hlead with
  | nil =>
      obtain ⟨hsemi, hclose, hpreamble, hstatic⟩ := hstart rfl
      rw [List.nil_append, scanFrom_member hsemi hclose hpreamble,
        member_eq_memberFrom hbrace hstatic]
      rfl
  | @token t ts htext hts =>
      have hnext : nextText (ts ++ first :: tail) ≠ "\x7b" :=
        hts.nextText_ne (by decide) (by decide) (by decide) hbrace
      have hne : ∀ other ∈ decisive, t.text ≠ other := fun other hother heq =>
        htext (heq ▸ hother)
      have hpackage := hne "package" (by decide)
      have himport := hne "import" (by decide)
      rw [List.cons_append, scanFrom_member (hne ";" (by decide)) (hne "\x7d" (by decide))
          (fun _ => by simp [isPreamble, hpackage, himport]),
        member_eq_memberFrom (hne "\x7b" (by decide)) (fun h => hnext h.2)]
      rfl
  | record hrecord _ _ _ =>
      rw [List.cons_append, scanFrom_member (by simp [hrecord]) (by simp [hrecord])
          (fun _ => by rw [hrecord]; decide),
        member_eq_memberFrom (by simp [hrecord]) (by simp [hrecord])]
      rfl
  | annotated hgroup _ _ =>
      obtain ⟨sign, body, rfl, hsign, _⟩ := hgroup.skip
      rw [List.append_assoc, List.cons_append,
        scanFrom_member (by simp [hsign]) (by simp [hsign]) (fun _ => by rw [hsign]; decide),
        member_eq_memberFrom (by simp [hsign]) (by simp [hsign])]
      rfl

/-- The conditions of `scanFrom_lead` hold of a name in a body. -/
theorem scanFrom_named {e : Enclosing} {bodies : List Enclosing} {lead tail : List Token}
    {name : Token} (hlead : Lead lead) (hname : isIdentifier name.text = true)
    (htail : isIdentifier (nextText tail) = false)
    (hstatic : lead = [] → ¬ (name.text = "static" ∧ nextText tail = "\x7b")) :
    scanFrom (e :: bodies) (lead ++ name :: tail) =
      (memberFrom (some e) (lead.headD name) name.text tail).resume (e :: bodies) := by
  have hne : ∀ other, isIdentifier other = false → name.text ≠ other := fun other hother =>
    isIdentifier_ne hname hother
  obtain ⟨previous, hread⟩ : ∃ previous, scanFrom (e :: bodies) (lead ++ name :: tail) =
      (memberFrom (some e) (lead.headD name) previous (name :: tail)).resume (e :: bodies) :=
    scanFrom_lead hlead (hne "." (by decide)) (hne "(" (by decide)) (hne "\x7b" (by decide))
      fun hnil => ⟨hne ";" (by decide), hne "\x7d" (by decide),
        fun h => absurd h (List.cons_ne_nil _ _), hstatic hnil⟩
  rw [hread, memberFrom_name hname htail]

theorem Keyword.text {first : Token} {keyword : List Token} {kind : Option DeclarationKind}
    (h : Keyword first keyword kind) :
    first.text ∈ ["class", "interface", "enum", "record", "@"] := by
  cases h with
  | annotationType hsign _ => simp [hsign]
  | _ hword => simp [hword]

theorem memberFrom_callable {e : Enclosing} {start : Token} {name : String}
    (hname : isIdentifier name = true) {parameters : List Token}
    (hparameters : Bracketed "(" ")" parameters) (rest : List Token) :
    memberFrom (some e) start name (parameters ++ rest) =
      ⟨[declarationAt start (callableKind (some e) name) name],
        skipCallableTail (callableKind (some e) name == .annotationField) rest, none⟩ := by
  have hskip := skipParentheses_bracketed hparameters rest
  obtain ⟨first, tail, rfl, hfirst⟩ := hparameters.exists_cons
  rw [List.cons_append] at hskip ⊢
  rw [memberFrom, hfirst, if_neg (by decide)]
  simp only [typeKeyword?, if_neg (show ¬ "(" = "class" by decide),
    if_neg (show ¬ "(" = "interface" by decide), if_neg (show ¬ "(" = "enum" by decide),
    if_neg (show ¬ "(" = "record" by decide), hname, and_self, if_true, callableDeclaration, hskip]

theorem memberFrom_braces {e : Option Enclosing} {start : Token} {body : List Token}
    (h : Bracketed "\x7b" "\x7d" body) (previous : String) (rest : List Token) :
    memberFrom e start previous (body ++ rest) = ⟨[], rest, none⟩ := by
  have hskip := skipBraces_bracketed h rest
  obtain ⟨first, tail, rfl, hfirst⟩ := h.exists_cons
  rw [List.cons_append] at hskip ⊢
  rw [memberFrom, hfirst, if_neg (by decide)]
  simp [typeKeyword?, hskip]

theorem memberFrom_initializer {e : Option Enclosing} {start equals last : Token}
    {initializer : List Token} (hequals : equals.text = "=") (h : Clause true initializer)
    (hlast : last.text = ";") (previous : String) (rest : List Token) :
    memberFrom e start previous (equals :: (initializer ++ last :: rest)) = ⟨[], rest, none⟩ := by
  have hclause : Clause true (equals :: initializer) := .token (by simp [hequals]) h
  have hskip := skipStatement_statement hclause hlast rest
  rw [List.cons_append] at hskip
  rw [memberFrom, hequals, if_neg (by decide)]
  simp [typeKeyword?, hskip]

/-- The tail of a callable other than an annotation field ends at its semicolon or body. -/
theorem skipCallableTail_ending {clause ending : List Token} (hclause : Clause false clause)
    (hending : (∃ last : Token, last.text = ";" ∧ ending = [last]) ∨
      Bracketed "\x7b" "\x7d" ending) (rest : List Token) :
    skipCallableTail false (clause ++ (ending ++ rest)) = rest := by
  rw [skipCallableTail_clause hclause]
  rcases hending with ⟨last, hlast, rfl⟩ | hbody
  · rw [List.singleton_append, skipCallableTail, hlast, if_neg (by decide), if_neg (by decide),
      if_pos rfl]
  · have hskip := skipBraces_bracketed hbody rest
    obtain ⟨first, tail, rfl, hfirst⟩ := hbody.exists_cons
    rw [List.cons_append] at hskip ⊢
    rw [skipCallableTail, if_pos hfirst, hskip]
    rfl

theorem skipCallableTail_field {clause : List Token} (hclause : Clause true clause) {last : Token}
    (hlast : last.text = ";") (rest : List Token) :
    skipCallableTail true (clause ++ last :: rest) = rest := by
  rw [skipCallableTail_clause hclause, skipCallableTail, hlast, if_neg (by decide),
    if_neg (by decide), if_pos rfl]

section Productions
variable {bodies : List Enclosing} {e : Enclosing} {lead : List Token} {name last : Token}

theorem scanFrom_preamble {t : Token} {clause : List Token}
    (hword : t.text = "package" ∨ t.text = "import") (hclause : Clause true clause)
    (hlast : last.text = ";") (rest : List Token) :
    scanFrom [] (t :: (clause ++ last :: rest)) = scanFrom [] rest := by
  have hne : ∀ other, other ≠ "package" → other ≠ "import" → t.text ≠ other := by
    rintro other hpackage himport rfl
    rcases hword with hword | hword
    · exact hpackage hword
    · exact himport hword
  have hpreamble : isPreamble t.text = true := by
    rcases hword with hword | hword <;> simp [isPreamble, hword]
  have htoken : Clause true (t :: clause) := by
    refine .token ?_ hclause
    simp [hne]
  have hskip := skipStatement_statement htoken hlast rest
  rw [List.cons_append] at hskip
  rw [scanFrom_statement ⟨rfl, hpreamble⟩, hskip]

theorem scanFrom_keyword {kind : Option DeclarationKind} {first : Token} {keyword : List Token}
    (hlead : Lead lead) (hkeyword : Keyword first keyword kind)
    (hname : isIdentifier name.text = true) (tail : List Token) :
    scanFrom bodies (lead ++ first :: (keyword ++ name :: tail)) =
      (typeDeclaration kind (lead.headD first) (name :: tail)).resume bodies := by
  have hne (other : String) (hother : other ∉ ["class", "interface", "enum", "record", "@"]) :
      first.text ≠ other := fun heq => hother (heq ▸ hkeyword.text)
  have hpreamble : isPreamble first.text = false := by
    simp [isPreamble, hne "import" (by decide), hne "package" (by decide)]
  obtain ⟨previous, hread⟩ : ∃ previous,
      scanFrom bodies (lead ++ first :: (keyword ++ name :: tail)) =
        (memberFrom bodies.head? (lead.headD first) previous
          (first :: (keyword ++ name :: tail))).resume bodies :=
    scanFrom_lead hlead (hne "." (by decide)) (hne "(" (by decide)) (hne "\x7b" (by decide))
      fun _ => ⟨hne ";" (by decide), hne "\x7d" (by decide), fun _ => hpreamble,
        fun hstatic => hne "static" (by decide) hstatic.1⟩
  rw [hread, memberFrom_keyword hkeyword hname]

/-- A type declaration reports itself and its constants, and leaves its body open. -/
theorem scanFrom_type {kind : Option DeclarationKind} {first opening closing : Token}
    {keyword header start members : List Token} {constants : List Declaration}
    (hlead : Lead lead) (hkeyword : Keyword first keyword kind)
    (hname : isIdentifier name.text = true) (hheader : Clause false header)
    (hopening : opening.text = "\x7b") (hstart : BodyStart kind start constants members)
    (hclosing : closing.text = "\x7d") (rest : List Token) :
    scanFrom bodies (lead ++ first :: (keyword ++ name :: (header ++ opening ::
        (start ++ (members ++ closing :: rest))))) =
      kind.toList.map (declarationAt (lead.headD first) · name.text) ++ constants ++
        scanFrom (⟨kind, name.text⟩ :: bodies) (members ++ closing :: rest) := by
  rw [scanFrom_keyword hlead hkeyword hname, typeDeclaration_body hheader hopening hstart hclosing]
  rfl

theorem scanFrom_callable {parameters clause ending : List Token}
    (hkind : e.kind ≠ some .annotationType) (hlead : Lead lead)
    (hname : isIdentifier name.text = true) (hparameters : Bracketed "(" ")" parameters)
    (hclause : Clause false clause)
    (hending : (∃ last : Token, last.text = ";" ∧ ending = [last]) ∨
      Bracketed "\x7b" "\x7d" ending) (rest : List Token) :
    scanFrom (e :: bodies) (lead ++ name :: (parameters ++ (clause ++ (ending ++ rest)))) =
      declarationAt (lead.headD name) (if name.text = e.name then .constructor else .method)
        name.text :: scanFrom (e :: bodies) rest := by
  have hparen := hparameters.nextText (clause ++ (ending ++ rest))
  have hcallable : callableKind (some e) name.text =
      if name.text = e.name then .constructor else .method := by
    simp only [callableKind, if_neg hkind]
  have hfield : (callableKind (some e) name.text == .annotationField) = false := by
    rw [hcallable]
    split <;> rfl
  have hskip := skipCallableTail_ending hclause hending rest
  rw [scanFrom_named hlead hname (by rw [hparen]; decide) (fun _ h => by simp [hparen] at h),
    memberFrom_callable hname hparameters, hfield, hskip, hcallable]
  rfl

theorem scanFrom_annotationField {parameters clause : List Token}
    (hkind : e.kind = some .annotationType) (hlead : Lead lead)
    (hname : isIdentifier name.text = true) (hparameters : Bracketed "(" ")" parameters)
    (hclause : Clause true clause) (hlast : last.text = ";") (rest : List Token) :
    scanFrom (e :: bodies) (lead ++ name :: (parameters ++ (clause ++ last :: rest))) =
      declarationAt (lead.headD name) .annotationField name.text ::
        scanFrom (e :: bodies) rest := by
  have hparen := hparameters.nextText (clause ++ last :: rest)
  have hcallable : callableKind (some e) name.text = .annotationField := by
    simp only [callableKind, if_pos hkind]
  have hskip := skipCallableTail_field hclause hlast rest
  rw [scanFrom_named hlead hname (by rw [hparen]; decide) (fun _ h => by simp [hparen] at h),
    memberFrom_callable hname hparameters, hcallable, beq_self_eq_true, hskip]
  rfl

/-- The name of a field is read like any word, whatever further names follow it. -/
theorem scanFrom_fieldNames {more tail : List Token} {first : Token} (hlead : Lead lead)
    (hname : isIdentifier name.text = true) (hmore : Lead more)
    (hnext : isIdentifier (nextText (more ++ [first])) = false)
    (hfirst : first.text = ";" ∨ first.text = "=") :
    ∃ previous, scanFrom (e :: bodies) (lead ++ name :: (more ++ first :: tail)) =
      (memberFrom (some e) (lead.headD name) previous (first :: tail)).resume (e :: bodies) := by
  have hne : ∀ other, other ≠ ";" → other ≠ "=" → first.text ≠ other := by
    rintro other hsemi hequals rfl
    rcases hfirst with hfirst | hfirst
    · exact hsemi hfirst
    · exact hequals hfirst
  have htail := nextText_append (show more ++ [first] ≠ [] by simp) tail
  rw [List.append_assoc, List.singleton_append] at htail
  have hbrace : nextText (more ++ first :: tail) ≠ "\x7b" :=
    hmore.nextText_ne (by decide) (by decide) (by decide) (hne "\x7b" (by decide) (by decide))
  obtain ⟨previous, hread⟩ :
      ∃ previous, memberFrom (some e) (lead.headD name) name.text (more ++ first :: tail) =
        memberFrom (some e) (lead.headD name) previous (first :: tail) :=
    memberFrom_lead hmore (first :: tail) (hne "." (by decide) (by decide))
      (hne "(" (by decide) (by decide)) name.text
  refine ⟨previous, ?_⟩
  rw [scanFrom_named hlead hname (by rw [htail, hnext]) (fun _ h => hbrace h.2), hread]

theorem scanFrom_field {more : List Token} (hlead : Lead lead)
    (hname : isIdentifier name.text = true) (hmore : Lead more)
    (hnext : isIdentifier (nextText (more ++ [last])) = false) (hlast : last.text = ";")
    (rest : List Token) :
    scanFrom (e :: bodies) (lead ++ name :: (more ++ last :: rest)) =
      scanFrom (e :: bodies) rest := by
  obtain ⟨previous, hread⟩ :
      ∃ previous, scanFrom (e :: bodies) (lead ++ name :: (more ++ last :: rest)) =
        (memberFrom (some e) (lead.headD name) previous (last :: rest)).resume (e :: bodies) :=
    scanFrom_fieldNames hlead hname hmore hnext (.inl hlast)
  rw [hread, memberFrom_semicolon hlast]
  rfl

theorem scanFrom_initializedField {equals : Token} {more initializer : List Token}
    (hlead : Lead lead) (hname : isIdentifier name.text = true) (hmore : Lead more)
    (hnext : isIdentifier (nextText (more ++ [equals])) = false) (hequals : equals.text = "=")
    (hinitializer : Clause true initializer) (hlast : last.text = ";") (rest : List Token) :
    scanFrom (e :: bodies) (lead ++ name :: (more ++ equals :: (initializer ++ last :: rest))) =
      scanFrom (e :: bodies) rest := by
  generalize htail : initializer ++ last :: rest = tail
  obtain ⟨previous, hread⟩ :
      ∃ previous, scanFrom (e :: bodies) (lead ++ name :: (more ++ equals :: tail)) =
        (memberFrom (some e) (lead.headD name) previous (equals :: tail)).resume (e :: bodies) :=
    scanFrom_fieldNames hlead hname hmore hnext (.inr hequals)
  rw [hread, ← htail, memberFrom_initializer hequals hinitializer hlast]
  rfl

theorem scanFrom_block {body : List Token} (hbody : Bracketed "\x7b" "\x7d" body)
    (rest : List Token) : scanFrom (e :: bodies) (body ++ rest) = scanFrom (e :: bodies) rest := by
  have hskip := skipBraces_bracketed hbody rest
  obtain ⟨first, tail, rfl, hfirst⟩ := hbody.exists_cons
  rw [List.cons_append] at hskip ⊢
  rw [scanFrom_member (by simp [hfirst]) (by simp [hfirst]) (fun h => by simp at h), member,
    if_pos hfirst, hskip]
  rfl

theorem scanFrom_staticBlock {word : Token} {body : List Token} (hword : word.text = "static")
    (hbody : Bracketed "\x7b" "\x7d" body) (rest : List Token) :
    scanFrom (e :: bodies) (word :: (body ++ rest)) = scanFrom (e :: bodies) rest := by
  have hskip := skipBraces_bracketed hbody rest
  have hbrace := hbody.nextText rest
  rw [scanFrom_member (by simp [hword]) (by simp [hword]) (fun h => by simp at h), member,
    if_neg (by simp [hword]), if_pos ⟨hword, hbrace⟩, hskip]
  rfl

/-- A compact constructor named `static` reads as a static initializer, which reports as little. -/
theorem scanFrom_compactConstructor {body : List Token} (hlead : Lead lead)
    (hname : isIdentifier name.text = true) (hbody : Bracketed "\x7b" "\x7d" body)
    (rest : List Token) :
    scanFrom (e :: bodies) (lead ++ name :: (body ++ rest)) = scanFrom (e :: bodies) rest := by
  by_cases hstatic : lead = [] ∧ name.text = "static"
  · obtain ⟨rfl, hword⟩ := hstatic
    exact scanFrom_staticBlock hword hbody rest
  · have hbrace := hbody.nextText rest
    rw [scanFrom_named hlead hname (by rw [hbrace]; decide) (fun hnil h => hstatic ⟨hnil, h.1⟩),
      memberFrom_braces hbody]
    rfl

end Productions

/-- Reading a skeleton reports its declarations and goes on behind it with the same bodies open.
The induction is on the grammar: a nested body is read with one more body open, which its closing
brace takes away. -/
theorem Skeleton.scanFrom_append {e : Option Enclosing} {ts : List Token} {ds : List Declaration}
    (h : Skeleton e ts ds) {bodies : List Enclosing} (hbodies : bodies.head? = e)
    (rest : List Token) : scanFrom bodies (ts ++ rest) = ds ++ scanFrom bodies rest := by
  induction h generalizing bodies rest with
  | nil => rfl
  | semicolon hsemi _ ih => rw [List.cons_append, scanFrom_semicolon bodies hsemi, ih hbodies]
  | preamble hword hclause hlast _ ih =>
      have hnil : bodies = [] := List.head?_eq_none_iff.1 hbodies
      subst hnil
      simp only [List.append_assoc, List.cons_append]
      rw [scanFrom_preamble hword hclause hlast, ih hbodies]
  | type hlead hkeyword hname hheader hopening hstart _ hclosing _ ihinside ih =>
      simp only [List.append_assoc, List.cons_append]
      rw [scanFrom_type hlead hkeyword hname hheader hopening hstart hclosing, ihinside rfl,
        scanFrom_close _ hclosing, List.tail_cons, ih hbodies, List.append_assoc]
  | callable hkind hlead hname hparameters hclause hending _ ih =>
      obtain ⟨outer, rfl⟩ := List.head?_eq_some_iff.1 hbodies
      simp only [List.append_assoc, List.cons_append]
      rw [scanFrom_callable hkind hlead hname hparameters hclause hending, ih hbodies]
  | annotationField hkind hlead hname hparameters hclause hlast _ ih =>
      obtain ⟨outer, rfl⟩ := List.head?_eq_some_iff.1 hbodies
      simp only [List.append_assoc, List.cons_append]
      rw [scanFrom_annotationField hkind hlead hname hparameters hclause hlast, ih hbodies]
  | field hlead hname hmore hnext hlast _ ih =>
      obtain ⟨outer, rfl⟩ := List.head?_eq_some_iff.1 hbodies
      simp only [List.append_assoc, List.cons_append]
      rw [scanFrom_field hlead hname hmore hnext hlast, ih hbodies]
  | initializedField hlead hname hmore hnext hequals hinitializer hlast _ ih =>
      obtain ⟨outer, rfl⟩ := List.head?_eq_some_iff.1 hbodies
      simp only [List.append_assoc, List.cons_append]
      rw [scanFrom_initializedField hlead hname hmore hnext hequals hinitializer hlast,
        ih hbodies]
  | block hbody _ ih =>
      obtain ⟨outer, rfl⟩ := List.head?_eq_some_iff.1 hbodies
      rw [List.append_assoc, scanFrom_block hbody, ih hbodies]
  | staticBlock hword hbody _ ih =>
      obtain ⟨outer, rfl⟩ := List.head?_eq_some_iff.1 hbodies
      rw [List.cons_append, List.append_assoc, scanFrom_staticBlock hword hbody, ih hbodies]
  | compactConstructor hlead hname hbody _ ih =>
      obtain ⟨outer, rfl⟩ := List.head?_eq_some_iff.1 hbodies
      simp only [List.append_assoc, List.cons_append]
      rw [scanFrom_compactConstructor hlead hname hbody, ih hbodies]

/-- The scanner reports exactly the declarations of a compilation unit. -/
theorem scan_skeleton {ts : List Token} {ds : List Declaration} (h : Skeleton none ts ds) :
    scan ts = ds := by
  have hread := h.scanFrom_append (show ([] : List Enclosing).head? = none from rfl) []
  rw [List.append_nil] at hread
  rw [scan, hread, scanFrom, List.append_nil]

theorem scan_skeleton_sampleUnit :
    Skeleton none sampleUnit sampleDeclarations ∧ scan sampleUnit = sampleDeclarations :=
  ⟨skeleton_sampleUnit, scan_skeleton skeleton_sampleUnit⟩

end JavadocTags.Java
