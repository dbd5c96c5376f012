import JavadocTags.Proofs.Java.Brackets

/-!
# Skeletons of compilation units

A skeleton is what a file looks like once bodies, arguments, initializers and the clauses of headers
are taken for opaque bracketed text. `Skeleton` says which tokens make up such a file, or the
members of one body, and which declarations stand in them; it is a grammar and does not refer to
the scanner. That the scanner reports exactly these declarations is shown in
`Proofs.Java.SkeletonScan`.

A skeleton is more liberal than the language: any tokens may serve as a type, and a member of a
body need not be one that a type of that kind can have. What it does not cover is text whose
brackets do not match.
-/
namespace JavadocTags.Java

/-- The texts that decide what a declaration is, and those that end or begin one. -/
def decisive : List String :=
  ["class", "interface", "enum", "record", "package", "import", "@", "(", "\x7b", "\x7d", ";", "="]

inductive Qualifiers : List Token → Prop
  | nil : Qualifiers []
  | cons {dot name : Token} {ts : List Token} :
      dot.text = "." → isIdentifier name.text = true → Qualifiers ts →
      Qualifiers (dot :: name :: ts)

inductive Annotation : List Token → Prop
  | intro {sign name : Token} {qualifiers arguments : List Token} :
      sign.text = "@" → isIdentifier name.text = true → name.text ≠ "interface" →
      Qualifiers qualifiers → Arguments arguments →
      Annotation (sign :: name :: (qualifiers ++ arguments))

inductive Annotations : List Token → Prop
  | nil : Annotations []
  | cons {group ts : List Token} :
      Annotation group → Annotations ts → Annotations (group ++ ts)

/-- What stands before the keyword or the name of a declaration: modifiers, annotations, type
parameters and a type. A dot cannot follow an annotation. The word `record` is a name, such as that
of a package, where no identifier follows. -/
inductive Lead : List Token → Prop
  | nil : Lead []
  | token {t : Token} {ts : List Token} : t.text ∉ decisive → Lead ts → Lead (t :: ts)
  | record {t : Token} {ts : List Token} :
      t.text = "record" → ts ≠ [] → isIdentifier (nextText ts) = false → Lead ts → Lead (t :: ts)
  | annotated {group ts : List Token} :
      Annotation group → nextText ts ≠ "." → Lead ts → Lead (group ++ ts)

/-- The keyword of a type declaration, which starts at `first`, and the kind that it declares. -/
inductive Keyword (first : Token) : List Token → Option DeclarationKind → Prop
  | classType : first.text = "class" → Keyword first [] (some .classType)
  | interfaceType : first.text = "interface" → Keyword first [] (some .interfaceType)
  | enumType : first.text = "enum" → Keyword first [] (some .enumType)
  | record : first.text = "record" → Keyword first [] none
  | annotationType {word : Token} :
      first.text = "@" → word.text = "interface" → Keyword first [word] (some .annotationType)

/-- A constant of an enumeration: annotations, a name, arguments and a body. -/
inductive Constant : List Token → Declaration → Prop
  | intro {annotations arguments body : List Token} {name : Token} :
      Annotations annotations → isIdentifier name.text = true → Arguments arguments →
      body = [] ∨ Bracketed "\x7b" "\x7d" body →
      Constant (annotations ++ name :: (arguments ++ body))
        (declarationAt (annotations.headD name) .enumConstant name.text)

/-- Constants with commas between them, and perhaps one after the last. -/
inductive Constants : List Token → List Declaration → Prop
  | nil : Constants [] []
  | last {ts : List Token} {d : Declaration} : Constant ts d → Constants ts [d]
  | cons {ts rest : List Token} {comma : Token} {d : Declaration} {ds : List Declaration} :
      Constant ts d → comma.text = "," → Constants rest ds →
      Constants (ts ++ comma :: rest) (d :: ds)

/-- What stands between the opening brace of a body and its members: in an enumeration the
constants, which end at a semicolon or, if there are no members, at the closing brace. -/
inductive BodyStart : Option DeclarationKind → List Token → List Declaration → List Token → Prop
  | other {kind : Option DeclarationKind} {members : List Token} :
      kind ≠ some .enumType → BodyStart kind [] [] members
  | constants {ts members : List Token} {last : Token} {ds : List Declaration} :
      Constants ts ds → last.text = ";" →
      BodyStart (some .enumType) (ts ++ [last]) ds members
  | constantsOnly {ts : List Token} {ds : List Declaration} :
      Constants ts ds → BodyStart (some .enumType) ts ds []

/-- Tokens that are a compilation unit, or the members of a body, with the declarations in them. -/
inductive Skeleton : Option Enclosing → List Token → List Declaration → Prop
  | nil {e : Option Enclosing} : Skeleton e [] []
  | semicolon {e : Option Enclosing} {t : Token} {ts : List Token} {ds : List Declaration} :
      t.text = ";" → Skeleton e ts ds → Skeleton e (t :: ts) ds
  | preamble {t last : Token} {clause ts : List Token} {ds : List Declaration} :
      t.text = "package" ∨ t.text = "import" → Clause true clause → last.text = ";" →
      Skeleton none ts ds → Skeleton none (t :: (clause ++ last :: ts)) ds
  | type {e : Option Enclosing} {kind : Option DeclarationKind} {first name opening closing : Token}
      {lead keyword header start members ts : List Token} {constants inside ds : List Declaration} :
      Lead lead → Keyword first keyword kind → isIdentifier name.text = true →
      Clause false header → opening.text = "\x7b" → BodyStart kind start constants members →
      Skeleton (some ⟨kind, name.text⟩) members inside → closing.text = "\x7d" →
      Skeleton e ts ds →
      Skeleton e
        (lead ++ first :: (keyword ++ name :: (header ++ opening ::
          (start ++ (members ++ closing :: ts)))))
        (kind.toList.map (declarationAt (lead.headD first) · name.text) ++
          (constants ++ (inside ++ ds)))
  | callable {e : Enclosing} {name : Token} {lead parameters clause ending ts : List Token}
      {ds : List Declaration} :
      e.kind ≠ some .annotationType → Lead lead → isIdentifier name.text = true →
      Bracketed "(" ")" parameters → Clause false clause →
      (∃ last : Token, last.text = ";" ∧ ending = [last]) ∨ Bracketed "\x7b" "\x7d" ending →
      Skeleton (some e) ts ds →
      Skeleton (some e) (lead ++ name :: (parameters ++ (clause ++ (ending ++ ts))))
        (declarationAt (lead.headD name) (if name.text = e.name then .constructor else .method)
          name.text :: ds)
  | annotationField {e : Enclosing} {name last : Token} {lead parameters clause ts : List Token}
      {ds : List Declaration} :
      e.kind = some .annotationType → Lead lead → isIdentifier name.text = true →
      Bracketed "(" ")" parameters → Clause true clause → last.text = ";" →
      Skeleton (some e) ts ds →
      Skeleton (some e) (lead ++ name :: (parameters ++ (clause ++ last :: ts)))
        (declarationAt (lead.headD name) .annotationField name.text :: ds)
  | field {e : Enclosing} {name last : Token} {lead more ts : List Token}
      {ds : List Declaration} :
      Lead lead → isIdentifier name.text = true → Lead more →
      isIdentifier (nextText (more ++ [last])) = false → last.text = ";" →
      Skeleton (some e) ts ds → Skeleton (some e) (lead ++ name :: (more ++ last :: ts)) ds
  | initializedField {e : Enclosing} {name equals last : Token}
      {lead more initializer ts : List Token} {ds : List Declaration} :
      Lead lead → isIdentifier name.text = true → Lead more →
      isIdentifier (nextText (more ++ [equals])) = false → equals.text = "=" →
      Clause true initializer → last.text = ";" → Skeleton (some e) ts ds →
      Skeleton (some e) (lead ++ name :: (more ++ equals :: (initializer ++ last :: ts))) ds
  | block {e : Enclosing} {body ts : List Token} {ds : List Declaration} :
      Bracketed "\x7b" "\x7d" body → Skeleton (some e) ts ds → Skeleton (some e) (body ++ ts) ds
  | staticBlock {e : Enclosing} {word : Token} {body ts : List Token} {ds : List Declaration} :
      word.text = "static" → Bracketed "\x7b" "\x7d" body → Skeleton (some e) ts ds →
      Skeleton (some e) (word :: (body ++ ts)) ds
  | compactConstructor {e : Enclosing} {name : Token} {lead body ts : List Token}
      {ds : List Declaration} :
      Lead lead → isIdentifier name.text = true → Bracketed "\x7b" "\x7d" body →
      Skeleton (some e) ts ds → Skeleton (some e) (lead ++ name :: (body ++ ts)) ds

/-- The tokens of an annotated enumeration behind an import: two constants, one of them with a
body, a constructor, a nested annotation type and a field. -/
def sampleUnit : List Token :=
  [⟨"import", 1, 0⟩, ⟨"p", 1, 7⟩, ⟨";", 1, 8⟩, ⟨"@", 2, 0⟩, ⟨"A", 2, 1⟩, ⟨"(", 2, 2⟩,
    ⟨")", 2, 3⟩, ⟨"enum", 3, 0⟩, ⟨"E", 3, 5⟩, ⟨"\x7b", 3, 7⟩, ⟨"R", 4, 2⟩, ⟨"\x7b", 4, 3⟩,
    ⟨"class", 4, 4⟩, ⟨"\x7d", 4, 9⟩, ⟨",", 4, 10⟩, ⟨"S", 4, 12⟩, ⟨";", 4, 13⟩, ⟨"E", 5, 2⟩,
    ⟨"(", 5, 3⟩, ⟨")", 5, 4⟩, ⟨"\x7b", 5, 5⟩, ⟨"\x7d", 5, 6⟩, ⟨"@", 6, 2⟩, ⟨"interface", 6, 3⟩,
    ⟨"N", 6, 13⟩, ⟨"\x7b", 6, 14⟩, ⟨"int", 7, 4⟩, ⟨"v", 7, 8⟩, ⟨"(", 7, 9⟩, ⟨")", 7, 10⟩,
    ⟨"default", 7, 12⟩, ⟨"\x7b", 7, 20⟩, ⟨"\x7d", 7, 21⟩, ⟨";", 7, 22⟩, ⟨"\x7d", 8, 2⟩,
    ⟨"int", 9, 2⟩, ⟨"a", 9, 6⟩, ⟨"=", 9, 8⟩, ⟨"0", 9, 10⟩, ⟨";", 9, 11⟩, ⟨"\x7d", 10, 0⟩]

def sampleDeclarations : List Declaration :=
  [⟨.enumType, "E", 2, 0⟩, ⟨.enumConstant, "R", 4, 2⟩, ⟨.enumConstant, "S", 4, 12⟩,
    ⟨.constructor, "E", 5, 2⟩, ⟨.annotationType, "N", 6, 2⟩, ⟨.annotationField, "v", 7, 4⟩]

theorem bracketed_empty {opening closing : String} (first last : Token)
    (hfirst : first.text = opening) (hlast : last.text = closing) :
    Bracketed opening closing [first, last] :=
  show Bracketed opening closing (first :: ([] ++ [last])) from .intro hfirst rfl hlast

theorem skeleton_sampleUnit : Skeleton none sampleUnit sampleDeclarations := by
  have hconstants : Constants [⟨"R", 4, 2⟩, ⟨"\x7b", 4, 3⟩, ⟨"class", 4, 4⟩, ⟨"\x7d", 4, 9⟩,
      ⟨",", 4, 10⟩, ⟨"S", 4, 12⟩] [⟨.enumConstant, "R", 4, 2⟩, ⟨.enumConstant, "S", 4, 12⟩] := by
    have hbody : Bracketed "\x7b" "\x7d"
        (⟨"\x7b", 4, 3⟩ :: ([⟨"class", 4, 4⟩] ++ [⟨"\x7d", 4, 9⟩])) :=
      .intro rfl (by decide) rfl
    have hfirst := @Constant.intro [] [] _ ⟨"R", 4, 2⟩ .nil (by decide) (.inl rfl) (.inr hbody)
    have hsecond := @Constant.intro [] [] [] ⟨"S", 4, 12⟩ .nil (by decide) (.inl rfl) (.inl rfl)
    exact @Constants.cons _ _ ⟨",", 4, 10⟩ _ _ hfirst rfl (.last hsecond)
  have hfield : Skeleton (some ⟨some .enumType, "E"⟩)
      [⟨"int", 9, 2⟩, ⟨"a", 9, 6⟩, ⟨"=", 9, 8⟩, ⟨"0", 9, 10⟩, ⟨";", 9, 11⟩] [] :=
    @Skeleton.initializedField _ ⟨"a", 9, 6⟩ ⟨"=", 9, 8⟩ ⟨";", 9, 11⟩ [⟨"int", 9, 2⟩] []
      [⟨"0", 9, 10⟩] [] _ (.token (by decide) .nil) (by decide) .nil (by decide) rfl
      (.token (by decide) .nil) rfl .nil
  have hinside : Skeleton (some ⟨some .annotationType, "N"⟩)
      [⟨"int", 7, 4⟩, ⟨"v", 7, 8⟩, ⟨"(", 7, 9⟩, ⟨")", 7, 10⟩, ⟨"default", 7, 12⟩, ⟨"\x7b", 7, 20⟩,
        ⟨"\x7d", 7, 21⟩, ⟨";", 7, 22⟩] [⟨.annotationField, "v", 7, 4⟩] :=
    @Skeleton.annotationField _ ⟨"v", 7, 8⟩ ⟨";", 7, 22⟩ [⟨"int", 7, 4⟩]
      [⟨"(", 7, 9⟩, ⟨")", 7, 10⟩] [⟨"default", 7, 12⟩, ⟨"\x7b", 7, 20⟩, ⟨"\x7d", 7, 21⟩] [] _ rfl
      (.token (by decide) .nil) (by decide) (bracketed_empty _ _ rfl rfl)
      (.token (by decide) (@Clause.braces true _ [] rfl (bracketed_empty _ _ rfl rfl) .nil)) rfl
      .nil
  have hmembers := @Skeleton.type _ _ ⟨"@", 6, 2⟩ ⟨"N", 6, 13⟩ ⟨"\x7b", 6, 14⟩ ⟨"\x7d", 8, 2⟩
    _ _ _ _ _ _ _ _ _ .nil (@Keyword.annotationType _ ⟨"interface", 6, 3⟩ rfl rfl) (by decide) .nil
    rfl (.other (by decide)) hinside rfl hfield
  have hconstructor := @Skeleton.callable _ ⟨"E", 5, 2⟩ _ _ _ _ _ _ (by decide) .nil (by decide)
    (bracketed_empty ⟨"(", 5, 3⟩ ⟨")", 5, 4⟩ rfl rfl) .nil
    (.inr (bracketed_empty ⟨"\x7b", 5, 5⟩ ⟨"\x7d", 5, 6⟩ rfl rfl)) hmembers
  have hsign : Annotation [⟨"@", 2, 0⟩, ⟨"A", 2, 1⟩, ⟨"(", 2, 2⟩, ⟨")", 2, 3⟩] :=
    .intro rfl (by decide) (by decide) .nil (.inr (bracketed_empty _ _ rfl rfl))
  have htype := @Skeleton.type none _ ⟨"enum", 3, 0⟩ ⟨"E", 3, 5⟩ ⟨"\x7b", 3, 7⟩ ⟨"\x7d", 10, 0⟩
    _ _ _ _ _ _ _ _ _ (.annotated hsign (by decide) .nil) (.enumType rfl) (by decide) .nil
    rfl (@BodyStart.constants _ _ ⟨";", 4, 13⟩ _ hconstants rfl) hconstructor rfl .nil
  exact @Skeleton.preamble ⟨"import", 1, 0⟩ ⟨";", 1, 8⟩ [⟨"p", 1, 7⟩] _ _ (.inr rfl)
    (.token (by decide) .nil) rfl htype

end JavadocTags.Java
