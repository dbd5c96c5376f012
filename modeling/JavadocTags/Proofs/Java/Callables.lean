import JavadocTags.Proofs.Java.SkeletonScan

/-!
# Constructors and methods

A member with parameters is a constructor if it has no result type and bears the name of the type
that it stands in, and a method otherwise. The scanner looks at the name alone. In every body that
is open, however deep, it reports the member at its first token and reads on behind it, and the kind
is the right one unless a method bears the name of its type.
-/
namespace JavadocTags.Java

/-- The words that stand before methods and constructors. -/
def modifierWords : List String :=
  ["public", "protected", "private", "abstract", "static", "final", "synchronized", "native",
    "strictfp", "default"]

inductive Modifiers : List Token → Prop
  | nil : Modifiers []
  | word {t : Token} {ts : List Token} :
      t.text ∈ modifierWords → Modifiers ts → Modifiers (t :: ts)
  | annotated {group ts : List Token} :
      Annotation group → Modifiers ts → Modifiers (group ++ ts)

inductive TypeParameters : List Token → Prop
  | intro {first last : Token} {inner : List Token} :
      first.text = "<" → Lead inner → last.text = ">" →
      TypeParameters (first :: (inner ++ [last]))

/-- A result type begins, behind annotations, with a word that is no modifier. Whatever goes with
that word follows: parts of a qualified name, arguments in angle brackets, dimensions. -/
structure ResultType (ts : List Token) : Prop where
  lead : Lead ts
  word : ∃ annotations word more, ts = annotations ++ word :: more ∧ Annotations annotations ∧
    isIdentifier word.text = true ∧ word.text ∉ modifierWords

/-- A method or constructor, part by part. The clause behind the parameters names dimensions and
exceptions; the ending is a semicolon or a body. -/
structure Callable where
  modifiers : List Token
  typeParameters : List Token
  result : List Token
  name : Token
  parameters : List Token
  clause : List Token
  ending : List Token
  modifiers_spec : Modifiers modifiers
  typeParameters_spec : typeParameters = [] ∨ TypeParameters typeParameters
  result_spec : result = [] ∨ ResultType result
  name_spec : isIdentifier name.text = true
  parameters_spec : Bracketed "(" ")" parameters
  clause_spec : Clause false clause
  ending_spec : (∃ last : Token, last.text = ";" ∧ ending = [last]) ∨
    Bracketed "\x7b" "\x7d" ending

namespace Callable

def lead (m : Callable) : List Token :=
  m.modifiers ++ (m.typeParameters ++ m.result)

def tokens (m : Callable) : List Token :=
  m.lead ++ m.name :: (m.parameters ++ (m.clause ++ m.ending))

/-- The token that the member starts with. -/
def first (m : Callable) : Token :=
  m.lead.headD m.name

/-- What the member is in the body of a type: a constructor has the name of the type and no result
type. -/
def kindIn (m : Callable) (e : Enclosing) : DeclarationKind :=
  if m.result = [] ∧ m.name.text = e.name then .constructor else .method

end Callable

section Leads
variable {rest : List Token}

theorem Modifiers.nextText_ne_dot {ts : List Token} (h : Modifiers ts)
    (hrest : nextText rest ≠ ".") : nextText (ts ++ rest) ≠ "." := by
  cases h with
  | nil => exact hrest
  | word htext _ =>
      rintro heq
      rw [List.cons_append, nextText_cons] at heq
      rw [heq] at htext
      revert htext
      decide
  | annotated hgroup _ =>
      obtain ⟨sign, body, rfl, hsign, _⟩ := hgroup.skip
      rw [List.append_assoc, List.cons_append, nextText_cons, hsign]
      decide

theorem Modifiers.lead_append {ts : List Token} (h : Modifiers ts) (hrest : Lead rest)
    (hdot : nextText rest ≠ ".") : Lead (ts ++ rest) := by
  induction h with
  | nil => exact hrest
  | @word t ts htext _ ih =>
      have hnot : ∀ text ∈ modifierWords, text ∉ decisive := by decide
      exact .token (hnot _ htext) ih
  | @annotated group ts hgroup hts ih =>
      rw [List.append_assoc]
      exact .annotated hgroup (hts.nextText_ne_dot hdot) ih

theorem Lead.append {ts : List Token} (h : Lead ts) (hrest : Lead rest)
    (hdot : nextText rest ≠ ".") : Lead (ts ++ rest) := by
  induction h with
  | nil => exact hrest
  | token htext _ ih => exact .token htext ih
  | @record t ts htext hne hnext _ ih =>
      have hfollows : isIdentifier (nextText (ts ++ rest)) = false := by
        rwa [nextText_append hne]
      exact .record htext (List.append_ne_nil_of_left_ne_nil hne rest) hfollows ih
  | @annotated group ts hgroup hnext _ ih =>
      rw [List.append_assoc]
      apply Lead.annotated hgroup _ ih
      cases ts with
      | nil => exact hdot
      | cons t ts => exact hnext

theorem TypeParameters.nextText {ts : List Token} (h : TypeParameters ts) :
    nextText (ts ++ rest) = "<" := by
  obtain ⟨hfirst, _, _⟩ := h
  rw [List.cons_append, nextText_cons, hfirst]

theorem TypeParameters.lead_append {ts : List Token} (h : TypeParameters ts)
    (hrest : Lead rest) : Lead (ts ++ rest) := by
  obtain ⟨hfirst, hinner, hlast⟩ := h
  rename_i first last inner
  have htail : Lead (inner ++ last :: rest) := by
    apply hinner.append (.token _ hrest)
    · rw [nextText_cons, hlast]
      decide
    · rw [hlast]
      decide
  rw [List.cons_append, List.append_assoc, List.singleton_append]
  apply Lead.token _ htail
  rw [hfirst]
  decide

theorem ResultType.nextText_ne_dot {ts : List Token} (h : ResultType ts) :
    nextText ts ≠ "." := by
  obtain ⟨annotations, word, more, rfl, hannotations, hword, _⟩ := h.word
  rcases hannotations.nextText (word :: more) with hnext | hnext
  · rw [hnext]
    decide
  · rw [hnext]
    exact isIdentifier_ne hword (by decide)

end Leads

namespace Callable

theorem lead_lead (m : Callable) : Lead m.lead := by
  have hresult : Lead m.result ∧ nextText m.result ≠ "." := by
    rcases m.result_spec with hnil | hresult
    · rw [hnil]
      exact ⟨.nil, by decide⟩
    · exact ⟨hresult.lead, hresult.nextText_ne_dot⟩
  have hparameters : Lead (m.typeParameters ++ m.result) ∧
      nextText (m.typeParameters ++ m.result) ≠ "." := by
    rcases m.typeParameters_spec with hnil | hparameters
    · rw [hnil]
      exact hresult
    · refine ⟨hparameters.lead_append hresult.1, ?_⟩
      rw [hparameters.nextText]
      decide
  exact m.modifiers_spec.lead_append hparameters.1 hparameters.2

end Callable

/-- Tokens of a file up to a place in the innermost of some open bodies, the declarations in them,
and the bodies, the innermost first. -/
inductive Opened : List Token → List Declaration → List Enclosing → Prop
  | file {ts : List Token} {ds : List Declaration} : Skeleton none ts ds → Opened ts ds []
  | body {ts lead keyword header start members : List Token} {first name opening : Token}
      {kind : Option DeclarationKind} {bodies : List Enclosing}
      {ds constants inside : List Declaration} :
      Opened ts ds bodies → Lead lead → Keyword first keyword kind →
      isIdentifier name.text = true → Clause false header → opening.text = "\x7b" →
      (∀ more, BodyStart kind start constants more) →
      Skeleton (some ⟨kind, name.text⟩) members inside →
      Opened
        (ts ++ (lead ++ first :: (keyword ++ name :: (header ++ opening :: (start ++ members)))))
        (ds ++ (kind.toList.map (declarationAt (lead.headD first) · name.text) ++
          (constants ++ inside)))
        (⟨kind, name.text⟩ :: bodies)

/-- The scanner comes to such a place with the same bodies open. -/
theorem Opened.scan_append {ts : List Token} {ds : List Declaration} {bodies : List Enclosing}
    (h : Opened ts ds bodies) (rest : List Token) :
    scan (ts ++ rest) = ds ++ scanFrom bodies rest := by
  induction h generalizing rest with
  | file hfile => exact hfile.scanFrom_append rfl rest
  | body _ hlead hkeyword hname hheader hopening hstart hmembers ih =>
      simp only [List.append_assoc, List.cons_append]
      rw [ih, scanFrom_keyword hlead hkeyword hname,
        typeDeclaration_opens hheader hopening hstart, Step.resume]
      simp only [Option.toList_some, List.singleton_append]
      rw [hmembers.scanFrom_append rfl, List.append_assoc]

/-- In an open body the scanner reports a member by its first token, its name and what it is, and
goes on behind it. -/
def ToldApart (ts : List Token) (ds : List Declaration) (e : Enclosing) (bodies : List Enclosing)
    (m : Callable) : Prop :=
  ∀ rest, scan (ts ++ (m.tokens ++ rest)) =
    ds ++ declarationAt m.first (m.kindIn e) m.name.text :: scanFrom (e :: bodies) rest

section Told
variable {ts : List Token} {ds : List Declaration} {e : Enclosing} {bodies : List Enclosing}

/-- What the scanner reports a member as depends on its name alone. -/
theorem scan_callable (hopened : Opened ts ds (e :: bodies))
    (hkind : e.kind ≠ some .annotationType) (m : Callable) (rest : List Token) :
    scan (ts ++ (m.tokens ++ rest)) =
      ds ++ declarationAt m.first (if m.name.text = e.name then .constructor else .method)
        m.name.text :: scanFrom (e :: bodies) rest := by
  rw [hopened.scan_append, Callable.tokens]
  simp only [List.append_assoc, List.cons_append]
  rw [scanFrom_callable hkind m.lead_lead m.name_spec m.parameters_spec m.clause_spec
    m.ending_spec]
  rfl

theorem toldApart_iff_kind (hopened : Opened ts ds (e :: bodies))
    (hkind : e.kind ≠ some .annotationType) (m : Callable) :
    ToldApart ts ds e bodies m ↔
      (if m.name.text = e.name then .constructor else .method) = m.kindIn e := by
  constructor
  · intro htold
    have hreport := htold []
    rw [scan_callable hopened hkind] at hreport
    have hdeclaration := (List.cons.inj (List.append_cancel_left hreport)).1
    exact congrArg Declaration.kind hdeclaration
  · intro heq rest
    rw [scan_callable hopened hkind, heq]

/-- In every body that is open but that of an annotation type, a member is reported as a constructor
exactly when it bears the name of the type. That is what it is, unless it is a method of that
name. -/
theorem toldApart_iff (hopened : Opened ts ds (e :: bodies))
    (hkind : e.kind ≠ some .annotationType) (m : Callable) :
    (∀ rest, scan (ts ++ (m.tokens ++ rest)) =
      ds ++ declarationAt m.first (if m.name.text = e.name then .constructor else .method)
        m.name.text :: scanFrom (e :: bodies) rest) ∧
    (ToldApart ts ds e bodies m ↔ m.result = [] ∨ m.name.text ≠ e.name) := by
  refine ⟨scan_callable hopened hkind m, ?_⟩
  rw [toldApart_iff_kind hopened hkind, Callable.kindIn]
  by_cases hname : m.name.text = e.name
  · by_cases hresult : m.result = [] <;> simp [hname, hresult]
  · simp [hname]

end Told

def sampleMethod : Callable where
  modifiers := []
  typeParameters := []
  result := [⟨"void", 3, 4⟩]
  name := ⟨"A", 3, 9⟩
  parameters := [⟨"(", 3, 10⟩, ⟨")", 3, 11⟩]
  clause := []
  ending := [⟨"\x7b", 3, 13⟩, ⟨"\x7d", 3, 14⟩]
  modifiers_spec := .nil
  typeParameters_spec := .inl rfl
  result_spec := .inr
    { lead := .token (by decide) .nil
      word := ⟨[], _, [], rfl, .nil, by decide, by decide⟩ }
  name_spec := by decide
  parameters_spec := bracketed_empty _ _ rfl rfl
  clause_spec := .nil
  ending_spec := .inr (bracketed_empty _ _ rfl rfl)

def outerBody : List Token :=
  [⟨"class", 1, 0⟩, ⟨"A", 1, 6⟩, ⟨"\x7b", 1, 8⟩]

def innerBody : List Token :=
  outerBody ++ [⟨"class", 2, 2⟩, ⟨"B", 2, 8⟩, ⟨"\x7b", 2, 10⟩]

theorem opened_outerBody :
    Opened outerBody [⟨.classType, "A", 1, 0⟩] [⟨some .classType, "A"⟩] :=
  @Opened.body [] [] [] [] [] [] ⟨"class", 1, 0⟩ ⟨"A", 1, 6⟩ ⟨"\x7b", 1, 8⟩ _ _ _ _ _
    (.file .nil) .nil (.classType rfl) (by decide) .nil rfl (fun _ => .other (by decide)) .nil

theorem opened_innerBody :
    Opened innerBody [⟨.classType, "A", 1, 0⟩, ⟨.classType, "B", 2, 2⟩]
      [⟨some .classType, "B"⟩, ⟨some .classType, "A"⟩] :=
  @Opened.body _ [] [] [] [] [] ⟨"class", 2, 2⟩ ⟨"B", 2, 8⟩ ⟨"\x7b", 2, 10⟩ _ _ _ _ _
    opened_outerBody .nil (.classType rfl) (by decide) .nil rfl (fun _ => .other (by decide)) .nil

/-- In the inner class the method has the name of the outer one, and is told apart. -/
theorem toldApart_iff_innerBody :
    Opened innerBody [⟨.classType, "A", 1, 0⟩, ⟨.classType, "B", 2, 2⟩]
      [⟨some .classType, "B"⟩, ⟨some .classType, "A"⟩] ∧
    (⟨some .classType, "B"⟩ : Enclosing).kind ≠ some .annotationType ∧
    ToldApart innerBody [⟨.classType, "A", 1, 0⟩, ⟨.classType, "B", 2, 2⟩]
      ⟨some .classType, "B"⟩ [⟨some .classType, "A"⟩] sampleMethod := by
  have hkind : (⟨some .classType, "B"⟩ : Enclosing).kind ≠ some .annotationType := by decide
  refine ⟨opened_innerBody, hkind, ?_⟩
  exact (toldApart_iff opened_innerBody hkind sampleMethod).2.2 (.inr (by decide))

/-- In the class whose name it has, the method is taken for a constructor. -/
theorem not_toldApart :
    Opened outerBody [⟨.classType, "A", 1, 0⟩] [⟨some .classType, "A"⟩] ∧
    ¬ ToldApart outerBody [⟨.classType, "A", 1, 0⟩] ⟨some .classType, "A"⟩ [] sampleMethod := by
  refine ⟨opened_outerBody, ?_⟩
  rw [toldApart_iff_kind opened_outerBody (by decide)]
  decide

end JavadocTags.Java
