import JavadocTags.Text.Lines

/-!
# Globs

A glob matches a whole name: `*` stands for any text, `?` for one character, and a set in brackets
for one of its characters, or for one of all others after an exclamation mark. A bracket that is
not closed stands for itself. A set is written as runs of characters between hyphens; a hyphen
joins the last character of a run with the first one of the next to a range, unless the range would
be empty, in which case both of its ends are left out.
-/
namespace JavadocTags

namespace Glob

/-- What a set of characters is made of. -/
inductive Member where
  | single (c : Char)
  | range (low high : Char)
deriving DecidableEq, Repr

inductive Piece where
  | anyText
  | anyChar
  | char (c : Char)
  | set (negated : Bool) (members : List Member)
deriving DecidableEq, Repr

/-- Whether a character belongs to a member of a set. -/
def Member.has (c : Char) : Member → Bool
  | .single d => c == d
  | .range low high => decide (low ≤ c ∧ c ≤ high)

def Piece.accepts (c : Char) : Piece → Bool
  | .anyText => false
  | .anyChar => true
  | .char d => c == d
  | .set negated members => members.any (Member.has c) != negated

/-- Whether some text at the end of a text, the whole of it or none of it, has a property. -/
def anyEnding (has : List Char → Bool) : List Char → Bool
  | [] => has []
  | c :: rest => has (c :: rest) || anyEnding has rest

def matchPieces : List Piece → List Char → Bool
  | [], text => text.isEmpty
  | .anyText :: rest, text => anyEnding (matchPieces rest) text
  | _ :: _, [] => false
  | piece :: rest, c :: text => piece.accepts c && matchPieces rest text

/-- The runs of a set. The first `skipped` characters of a run cannot be the hyphen that ends it. -/
def runs (skipped : Nat) : List Char → List (List Char)
  | [] => [[]]
  | c :: rest =>
      match skipped with
      | 0 =>
          if c = '-' then [] :: runs 2 rest
          else
            match runs 0 rest with
            | [] => [[c]]
            | run :: others => (c :: run) :: others
      | n + 1 =>
          match runs n rest with
          | [] => [[c]]
          | run :: others => (c :: run) :: others

/-- A hyphen at the very end belongs to the last run. -/
def closeRuns : List (List Char) → List (List Char)
  | [run, []] => [run ++ ['-']]
  | [] => []
  | run :: others => run :: closeRuns others

/-- Leaves out the ends of empty ranges, from the last one on. -/
def dropEmptyRanges : List (List Char) → List (List Char)
  | [] => []
  | run :: others =>
      match dropEmptyRanges others with
      | [] => [run]
      | next :: rest =>
          match run.getLast?, next with
          | some low, high :: after =>
              if high < low then (run.dropLast ++ after) :: rest else run :: next :: rest
          | _, _ => run :: next :: rest

/-- The members of a run and of the runs after it. A hyphen after an empty run stands for itself. -/
def members (run : List Char) : List (List Char) → List Member
  | [] => run.map .single
  | next :: rest =>
      match run.getLast?, next with
      | some low, high :: after =>
          run.dropLast.map .single ++ .range low high :: members after rest
      | _, _ => run.map .single ++ .single '-' :: members next rest

def setPiece (text : List Char) : Piece :=
  let skipped := if text.head? = some '!' then 2 else 1
  match dropEmptyRanges (closeRuns (runs skipped text)) with
  | [] => .set false []
  | ('!' :: run) :: others => .set true (members run others)
  | run :: others => .set false (members run others)

/-- How many characters at the front of a set cannot be its closing bracket: an exclamation mark,
and a closing bracket in the first place after it. -/
def openingLength : List Char → Nat
  | '!' :: ']' :: _ => 2
  | '!' :: _ => 1
  | ']' :: _ => 1
  | _ => 0

/-- The text of a set that begins after a bracket, and what follows the closing bracket. -/
def spanSet? (text : List Char) : Option (List Char × List Char) :=
  let front := openingLength text
  match (text.drop front).dropWhile (· ≠ ']') with
  | [] => none
  | _ :: rest => some (text.take front ++ (text.drop front).takeWhile (· ≠ ']'), rest)

theorem length_of_spanSet? {text set rest : List Char} (h : spanSet? text = some (set, rest)) :
    rest.length < text.length := by
  unfold spanSet? at h
  simp only at h
  split at h
  · simp at h
  · rename_i c after hd
    simp only [Option.some.injEq, Prod.mk.injEq] at h
    have h1 := (List.dropWhile_suffix (l := text.drop (openingLength text)) (· ≠ ']')).length_le
    rw [hd] at h1
    simp only [List.length_cons, List.length_drop] at h1
    rw [← h.2]
    omega

def pieces (text : List Char) : List Piece :=
  match text with
  | [] => []
  | '*' :: rest => .anyText :: pieces rest
  | '?' :: rest => .anyChar :: pieces rest
  | '[' :: rest =>
      match h : spanSet? rest with
      | some (set, after) =>
          have := length_of_spanSet? h
          setPiece set :: pieces after
      | none => .char '[' :: pieces rest
  | c :: rest => .char c :: pieces rest
termination_by text.length

def matchesName (glob name : String) : Bool :=
  matchPieces (pieces glob.toList) name.toList

end Glob

end JavadocTags
