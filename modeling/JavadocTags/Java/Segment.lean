import JavadocTags.Text.Lines

/-!
# Segments of Java text

A Java text is cut from left to right into comments, literals and single code characters. Each
segment starts where the one before it ends, so the segments joined are the text again. Masking
replaces every character of a comment or literal by a space and keeps the line feeds, which leaves
all offsets, lines and columns in place.
-/
namespace JavadocTags.Java

/-- What a segment is. A block comment may lack its end. -/
inductive SegmentKind where
  | code
  | lineComment
  | blockComment (closed : Bool)
  | textBlock
  | literal (quote : Char)
deriving DecidableEq, Repr

/-- A stretch of Java text of one kind. -/
structure Segment where
  kind : SegmentKind
  text : List Char
deriving DecidableEq, Repr

/-- Splits after the first `*/`, and tells whether there is one. -/
def splitBlockEnd : List Char → List Char × List Char × Bool
  | [] => ([], [], false)
  | '*' :: '/' :: rest => (['*', '/'], rest, true)
  | c :: rest =>
      let (body, after, closed) := splitBlockEnd rest
      (c :: body, after, closed)

/-- Splits after the first three double quotes that no backslash precedes as its partner. -/
def splitTextBlockEnd : List Char → List Char × List Char
  | [] => ([], [])
  | '"' :: '"' :: '"' :: rest => (['"', '"', '"'], rest)
  | '\\' :: c :: rest =>
      let (body, after) := splitTextBlockEnd rest
      ('\\' :: c :: body, after)
  | c :: rest =>
      let (body, after) := splitTextBlockEnd rest
      (c :: body, after)

/-- Splits after the first closing quote or line feed; a backslash takes the character after it
along, whatever that is. -/
def splitLiteralEnd (quote : Char) : List Char → List Char × List Char
  | [] => ([], [])
  | [c] => ([c], [])
  | c :: d :: rest =>
      if c = quote ∨ c = '\n' then ([c], d :: rest)
      else if c = '\\' then
        let (body, after) := splitLiteralEnd quote rest
        (c :: d :: body, after)
      else
        let (body, after) := splitLiteralEnd quote (d :: rest)
        (c :: body, after)

/-- The segment at the start of a text, and the text after it. -/
def splitSegment (first : Char) (rest : List Char) : Segment × List Char :=
  match first, rest with
  | '/', '/' :: r =>
      (⟨.lineComment, '/' :: '/' :: r.takeWhile (· ≠ '\n')⟩, r.dropWhile (· ≠ '\n'))
  | '/', '*' :: r =>
      let (body, after, closed) := splitBlockEnd r
      (⟨.blockComment closed, '/' :: '*' :: body⟩, after)
  | '"', '"' :: '"' :: r =>
      let (body, after) := splitTextBlockEnd r
      (⟨.textBlock, '"' :: '"' :: '"' :: body⟩, after)
  | c, r =>
      if c = '"' ∨ c = '\'' then
        let (body, after) := splitLiteralEnd c r
        (⟨.literal c, c :: body⟩, after)
      else (⟨.code, [c]⟩, r)

@[simp] theorem splitBlockEnd_append (text : List Char) :
    (splitBlockEnd text).1 ++ (splitBlockEnd text).2.1 = text := by
  fun_induction splitBlockEnd text <;> simp_all

@[simp] theorem splitTextBlockEnd_append (text : List Char) :
    (splitTextBlockEnd text).1 ++ (splitTextBlockEnd text).2 = text := by
  fun_induction splitTextBlockEnd text <;> simp_all

@[simp] theorem splitLiteralEnd_append (quote : Char) (text : List Char) :
    (splitLiteralEnd quote text).1 ++ (splitLiteralEnd quote text).2 = text := by
  fun_induction splitLiteralEnd quote text <;> simp_all

/-- A segment and the text after it are the text it was cut from. -/
@[simp] theorem splitSegment_append (first : Char) (rest : List Char) :
    (splitSegment first rest).1.text ++ (splitSegment first rest).2 = first :: rest := by
  unfold splitSegment
  split
  · simp
  · simp
  · simp
  · split
    · simp
    · simp

theorem splitSegment_text_ne_nil (first : Char) (rest : List Char) :
    (splitSegment first rest).1.text ≠ [] := by
  unfold splitSegment
  split
  · simp
  · simp
  · simp
  · split <;> simp

theorem splitSegment_length_lt (first : Char) (rest : List Char) :
    (splitSegment first rest).2.length < (first :: rest).length := by
  have happend := congrArg List.length (splitSegment_append first rest)
  have hpos := List.length_pos_iff.2 (splitSegment_text_ne_nil first rest)
  rw [List.length_append] at happend
  omega

def segments : List Char → List Segment
  | [] => []
  | c :: rest => (splitSegment c rest).1 :: segments (splitSegment c rest).2
termination_by text => text.length
decreasing_by exact splitSegment_length_lt c rest

@[simp]
theorem flatMap_segments (text : List Char) : (segments text).flatMap Segment.text = text := by
  fun_induction segments text with
  | case1 => rfl
  | case2 c rest ih => rw [List.flatMap_cons, ih, splitSegment_append]

/-- Spaces in place of everything but line feeds. -/
def blankOut (text : List Char) : List Char :=
  text.map fun c => if c = '\n' then '\n' else ' '

namespace Segment

/-- Code is kept, comments and literals are blanked. -/
def masked (s : Segment) : List Char :=
  match s.kind with
  | .code => s.text
  | _ => blankOut s.text

/-- A Javadoc block is a closed block comment that begins with two stars, the second of which
does not begin its end. -/
def isJavadoc (s : Segment) : Bool :=
  s.kind == .blockComment true && ['/', '*', '*'].isPrefixOf s.text
    && !(['/', '*', '*', '/'].isPrefixOf s.text)

@[simp] theorem length_masked (s : Segment) : s.masked.length = s.text.length := by
  unfold masked
  split <;> simp [blankOut]

end Segment

/-- The text with comments and literals blanked. -/
def mask (text : List Char) : List Char :=
  (segments text).flatMap Segment.masked

/-- A stretch of text from one offset up to, and not including, another. -/
structure Span where
  start : Nat
  stop : Nat
deriving DecidableEq, Repr

/-- The spans of the Javadoc blocks among segments that begin at `offset`. -/
def javadocSpansFrom (offset : Nat) : List Segment → List Span
  | [] => []
  | s :: rest =>
      let stop := offset + s.text.length
      if s.isJavadoc then ⟨offset, stop⟩ :: javadocSpansFrom stop rest
      else javadocSpansFrom stop rest

/-- The spans of the Javadoc blocks of a text, in order. -/
def javadocSpans (text : List Char) : List Span :=
  javadocSpansFrom 0 (segments text)

end JavadocTags.Java
