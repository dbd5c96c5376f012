import JavadocTags.Pattern.Syntax
import JavadocTags.Text.Lines
import JavadocTags.Unicode.Numeric
import JavadocTags.Unicode.CaseVariant

/-!
# Tests of single characters

Which characters a literal, a class or a set admits under given options. When case is ignored, a
character is compared in lowercase, and a lowercase character also stands for the others with the
same uppercase. Sets treat code points above U+FFFF in their own way: a listed one has to be the
lowercase itself, and a range admits a character whose lowercase or uppercase lies in it.
-/
namespace JavadocTags.Pattern

/-- The lowercase that comparisons use; with the ASCII option only ASCII letters have one. -/
def fold (flags : Flags) (n : Nat) : Nat :=
  if flags.ascii then if 0x41 ≤ n ∧ n ≤ 0x5A then n + 32 else n
  else Unicode.lowerCode n

/-- The further lowercase characters that stand for the same letter. -/
def foldVariants (flags : Flags) (n : Nat) : List Nat :=
  if flags.ascii then [] else Unicode.otherLower n

/-- Whether case makes a difference for a code point. -/
def isCased (flags : Flags) (n : Nat) : Bool :=
  if flags.ascii then 0x41 ≤ n && n ≤ 0x5A || 0x61 ≤ n && n ≤ 0x7A
  else Unicode.isCased n

/-- Whether case makes a difference for some code point of a range. -/
def hasCased (flags : Flags) (lo hi : Nat) : Bool :=
  if flags.ascii then lo ≤ 0x5A && 0x41 ≤ hi || lo ≤ 0x7A && 0x61 ≤ hi
  else Unicode.hasCasedBetween lo hi

/-- The code points whose lowercase is `n`. -/
def foldPreimages (flags : Flags) (n : Nat) : List Nat :=
  if flags.ascii then
    if 0x61 ≤ n ∧ n ≤ 0x7A then [n, n - 32] else if 0x41 ≤ n ∧ n ≤ 0x5A then [] else [n]
  else Unicode.lowerPreimages n

/-- Whether a character is the one that a literal names. -/
def admitsCode (flags : Flags) (n : Nat) (c : Char) : Bool :=
  if flags.ignoreCase && isCased flags n then
    let folded := fold flags c.toNat
    let target := fold flags n
    folded == target || (foldVariants flags target).contains folded
  else c.toNat == n

/-- Whether a code point belongs to a named class. -/
def inCategory (flags : Flags) (category : Category) (n : Nat) : Bool :=
  let c := Char.ofNat n
  match category with
  | .digit => if flags.ascii then c.isDigit else Unicode.isDecimal c
  | .space =>
      if flags.ascii then 0x9 ≤ n && n ≤ 0xD || n == 0x20 else Text.isBlank c
  | .word => if flags.ascii then c.isAlphanum || c == '_' else Unicode.isWord c

def SetItem.admits (flags : Flags) (n : Nat) : SetItem → Bool
  | code m => m == n
  | range lo hi => lo ≤ n && n ≤ hi
  | category negated c => inCategory flags c n != negated

/-- Whether case makes a difference for a set item. -/
def SetItem.isCased (flags : Flags) : SetItem → Bool
  | code m => 0x10000 ≤ m || Pattern.isCased flags m
  | range lo hi => 0x10000 ≤ hi || hasCased flags lo hi
  | category _ _ => false

/-- Whether a set item admits a lowercase code point when case is ignored. -/
def SetItem.admitsFolded (flags : Flags) (n : Nat) : SetItem → Bool
  | code m =>
      if 0x10000 ≤ m then m == n
      else
        let target := fold flags m
        target == n || (foldVariants flags target).contains n
  | range lo hi =>
      let sources := (n :: foldVariants flags n).flatMap (foldPreimages flags)
      let upper := Unicode.upperCode n
      sources.any (fun m => lo ≤ m && m ≤ min hi 0xFFFF)
        || (0x10000 ≤ hi && (lo ≤ n && n ≤ hi || lo ≤ upper && upper ≤ hi))
  | category negated c => inCategory flags c n != negated

/-- Whether a set admits a character. -/
def admitsSet (flags : Flags) (negated : Bool) (items : List SetItem) (c : Char) : Bool :=
  let found :=
    if flags.ignoreCase && items.any (·.isCased flags) then
      items.any (·.admitsFolded flags (fold flags c.toNat))
    else items.any (·.admits flags c.toNat)
  found != negated

/-- The test of a pattern that always matches exactly one character, whatever precedes it. -/
def Node.test? : Node → Option (Flags → Char → Bool)
  | .code n => some fun flags c => admitsCode flags n c
  | .notCode n => some fun flags c => !admitsCode flags n c
  | .any => some fun flags c => flags.dotAll || c != '\n'
  | .set negated items => some fun flags c => admitsSet flags negated items c
  | _ => none

end JavadocTags.Pattern
