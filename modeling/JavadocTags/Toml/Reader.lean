import JavadocTags.Toml.Document
import JavadocTags.Toml.Scalar

/-!
# Reading TOML

Entries, strings, values and headers are read from left to right. The loops that have no list to
follow count down from the length of the text, of which each round reads at least one character.
-/
namespace JavadocTags.Toml

/-- A space or a tab. -/
def isSpace (c : Char) : Bool :=
  c == ' ' || c == '\t'

def isSpaceOrBreak (c : Char) : Bool :=
  isSpace c || c == '\n' || c == '\r'

/-- A character that may stand neither in a comment nor in a string as it is. -/
def isControl (c : Char) : Bool :=
  (c.toNat < 0x20 && c != '\t') || c.toNat == 0x7F

def isBareKeyChar (c : Char) : Bool :=
  c.isAlphanum || c == '-' || c == '_'

/-- A character that ends a number, a date or a time. -/
def endsScalar (c : Char) : Bool :=
  isSpaceOrBreak c || c == '#' || c == ',' || c == ']' || c == '}'

def skipComment? (text : List Char) : Option (List Char) :=
  let isBreak := fun c : Char => c == '\n' || c == '\r'
  if (text.takeWhile (!isBreak ·)).any isControl then none
  else some (text.dropWhile (!isBreak ·))

/-- Drops what may follow an entry or a header on its line, and the line end. -/
def endLine? (text : List Char) : Option (List Char) :=
  match text.dropWhile fun c => isSpace c || c == '\r' with
  | [] => some []
  | '\n' :: rest => some rest
  | '#' :: rest => skipComment? rest
  | _ => none

def escapedChar? : Char → Option Char
  | 'b' => some '\x08'
  | 't' => some '\t'
  | 'n' => some '\n'
  | 'f' => some '\x0c'
  | 'r' => some '\r'
  | '"' => some '"'
  | '\\' => some '\\'
  | _ => none

/-- The character whose code point some digits give, and what follows them. Surrogates are
refused. -/
def codedChar? (count : Nat) (text : List Char) : Option (Char × List Char) := do
  let digits := text.take count
  if digits.length < count then none
  else
    let n ← Number.looseInt? 16 digits
    let code := n.toNat
    if n < 0 ∨ 0x110000 ≤ code ∨ (0xD800 ≤ code ∧ code < 0xE000) then none
    else return (Char.ofNat code, text.drop count)

/-- What an escape stands for after its backslash, and what follows it. In a string of several lines
a backslash at the end of a line drops all space up to the next character. -/
def escape? (multiline : Bool) (text : List Char) : Option (List Char × List Char) :=
  match text with
  | [] => none
  | c :: rest =>
      if multiline && isSpaceOrBreak c then
        if (text.takeWhile isSpaceOrBreak).contains '\n' then
          some ([], text.dropWhile isSpaceOrBreak)
        else none
      else if c = 'u' then (codedChar? 4 rest).map fun (c, after) => ([c], after)
      else if c = 'U' then (codedChar? 8 rest).map fun (c, after) => ([c], after)
      else (escapedChar? c).map fun c => ([c], rest)

/-- The rest of a string on one line and what follows its closing quote. -/
def readLine? (quote : Char) : (fuel : Nat) → (done : List Char) → List Char →
    Option (List Char × List Char)
  | 0, _, _ => none
  | _ + 1, _, [] => none
  | fuel + 1, done, c :: rest =>
      if isControl c then none
      else if c = quote then some (done.reverse, rest)
      else if c = '\\' ∧ quote = '"' then do
        let (cs, after) ← escape? false rest
        readLine? quote fuel (cs.reverse ++ done) after
      else readLine? quote fuel (c :: done) rest

/-- The rest of a string of several lines and what follows its closing quotes. One or two quotes
may stand in it anywhere, also just before the closing ones. -/
def readLines? (quote : Char) : (fuel : Nat) → (done : List Char) → List Char →
    Option (List Char × List Char)
  | 0, _, _ => none
  | _ + 1, _, [] => none
  | fuel + 1, done, c :: rest =>
      if isControl c && c != '\n' && c != '\r' then none
      else if c = quote then
        let quotes := (c :: rest).takeWhile (· == quote)
        let after := (c :: rest).dropWhile (· == quote)
        if quotes.length < 3 then readLines? quote fuel (quotes ++ done) after
        else if 6 ≤ quotes.length then none
        else some ((quotes.drop 3 ++ done).reverse, after)
      else if c = '\\' ∧ quote = '"' then do
        let (cs, after) ← escape? true rest
        readLines? quote fuel (cs.reverse ++ done) after
      else readLines? quote fuel (c :: done) rest

def dropLineEnd : List Char → List Char
  | '\n' :: rest => rest
  | '\r' :: '\n' :: rest => rest
  | text => text

def readString? (quote : Char) (text : List Char) : Option (List Char × Bool × List Char) :=
  match text with
  | [] => none
  | c :: rest =>
      if c = quote then
        match rest with
        | d :: after =>
            if d = quote then
              let start := dropLineEnd after
              (readLines? quote (start.length + 1) [] start).map fun (s, rest) => (s, true, rest)
            else some ([], false, rest)
        | [] => some ([], false, [])
      else (readLine? quote (text.length + 1) [] text).map fun (s, rest) => (s, false, rest)

def readKey? : (fuel : Nat) → List Char → Option (List String × List Char)
  | 0, _ => none
  | fuel + 1, text => do
      let text := text.dropWhile isSpace
      let (part, rest) ←
        match text with
        | [] => none
        | c :: after =>
            if c = '"' ∨ c = '\'' then do
              let (s, multiline, rest) ← readString? c after
              if multiline then none else some (s, rest.dropWhile isSpace)
            else
              let isPart := fun c => isBareKeyChar c || isSpace c
              let key := Text.trim (text.takeWhile isPart)
              if key.isEmpty || key.contains ' ' then none
              else some (key, text.dropWhile isPart)
      match rest with
      | '.' :: rest => do
          let (parts, rest) ← readKey? fuel rest
          return (String.ofList part :: parts, rest)
      | _ => return ([String.ofList part], rest)

/-- A number, a date or a time, and what follows it. A date may be followed by a space and a
time. -/
def readScalar? (text : List Char) : Option (Value × List Char) :=
  let raw := text.takeWhile (!endsScalar ·)
  let rest := text.dropWhile (!endsScalar ·)
  match dateTime? raw with
  | some t => some (.dateTime t, rest)
  | none =>
      match date? raw with
      | some d =>
          let ends := fun c => endsScalar c && c != ' '
          let more := rest.takeWhile (!ends ·)
          let after := rest.dropWhile (!ends ·)
          let trimmed := (Text.trimStart more.reverse).reverse
          if trimmed.isEmpty then some (.date d, after)
          else (dateTime? (raw ++ trimmed)).map fun t => (.dateTime t, after)
      | none =>
          match time? raw with
          | some t => some (.time t, rest)
          | none => (number? raw).map fun n => (n, rest)

def beginsWithWord (text : List Char) : Bool :=
  let word := (text.takeWhile (!endsScalar ·)).take 4
  word == ['i', 'n', 'f'] || word == ['n', 'a', 'n']

def dropWord? (word : String) (text : List Char) : Option (List Char) :=
  if startsWith text word then some (text.drop word.length) else none

def skipBlank? : (fuel : Nat) → List Char → Option (List Char)
  | 0, _ => none
  | fuel + 1, text =>
      match text.dropWhile isSpaceOrBreak with
      | '#' :: rest => do
          let rest ← skipComment? rest
          skipBlank? fuel rest
      | rest => some rest

/-- Why no value is read: there is a fault, or a closing bracket comes first, and then what follows
the bracket. -/
inductive Stop where
  | fault
  | bracket (rest : List Char)

/-- A reading whose only trouble can be a fault. -/
def orFault {α : Type} (found : Option (α × List Char)) : Except Stop (α × List Char) :=
  found.elim (.error .fault) .ok

def stopAt {α : Type} : List Char → Except Stop (α × List Char)
  | ']' :: rest => .error (.bracket rest)
  | _ => .error .fault

def skipEquals (text : List Char) : Except Stop (Unit × List Char) :=
  match text.dropWhile isSpace with
  | '=' :: rest =>
      let rest := rest.dropWhile isSpace
      if rest.head? == some '=' then .error .fault else .ok ((), rest)
  | rest => stopAt rest

/-- The table of the entries of an inline table. -/
def inlineTable? (entries : List Entry) : Option Table := do
  let parts ← Parts.addEntries? [] entries
  parts.toTable?

mutual

def readValue : (fuel : Nat) → List Char → Except Stop (Value × List Char)
  | 0, _ => .error .fault
  | fuel + 1, text =>
      match text with
      | [] => .error .fault
      | c :: rest =>
          if c = '"' ∨ c = '\'' then
            orFault ((readString? c rest).map fun (s, _, rest) => (.string (String.ofList s), rest))
          else if c = 't' then
            orFault ((dropWord? "true" text).map fun rest => (.bool true, rest))
          else if c = 'f' then
            orFault ((dropWord? "false" text).map fun rest => (.bool false, rest))
          else if c = '[' then
            (readItems fuel false rest).map fun (items, rest) => (.list items, rest)
          else if c = '{' then
            match readInline fuel true (rest.dropWhile isSpace) with
            | .error stop => .error stop
            | .ok (entries, rest) =>
                orFault ((inlineTable? entries).map fun table => (.table table, rest))
          else if c = '+' ∨ c = '-' ∨ Number.isDigit c ∨ beginsWithWord text then
            orFault (readScalar? text)
          else stopAt text

/-- The items of a list up to its end; `separated` tells whether a comma has to come before the
next one. A bracket that comes where an inline table should go on closes the list, without that
table. -/
def readItems : (fuel : Nat) → (separated : Bool) → List Char →
    Except Stop (List Value × List Char)
  | 0, _, _ => .error .fault
  | fuel + 1, separated, text =>
      match skipBlank? (text.length + 1) text, separated with
      | none, _ => .error .fault
      | some (',' :: rest), true => readItems fuel false rest
      | some text, true =>
          match text with
          | ']' :: rest => .ok ([], rest)
          | _ => .error .fault
      | some text, false =>
          match readValue fuel text with
          | .error (.bracket rest) => .ok ([], rest)
          | .error .fault => .error .fault
          | .ok (item, rest) =>
              (readItems fuel true rest).map fun (items, rest) => (item :: items, rest)

def readInline : (fuel : Nat) → (first : Bool) → List Char →
    Except Stop (List Entry × List Char)
  | 0, _, _ => .error .fault
  | fuel + 1, first, text =>
      match first, text with
      | true, '}' :: rest => .ok ([], rest)
      | _, _ => do
          let (path, rest) ← orFault (readKey? (text.length + 1) text)
          let (_, rest) ← skipEquals rest
          let (value, rest) ← readValue fuel rest
          match rest.dropWhile isSpace with
          | '}' :: rest => return ([⟨path, value⟩], rest)
          | ',' :: rest =>
              let (entries, rest) ← readInline fuel false (rest.dropWhile isSpace)
              return (⟨path, value⟩ :: entries, rest)
          | rest => stopAt rest

end

def readEntry? (text : List Char) : Option (Entry × List Char) := do
  let (path, rest) ← readKey? (text.length + 1) text
  let ((), rest) ← (skipEquals rest).toOption
  let (value, rest) ← (readValue (2 * rest.length + 1) rest).toOption
  let rest ← endLine? rest
  return (⟨path, value⟩, rest)

def readEntries? : (fuel : Nat) → List Char → Option (List Entry × List Char)
  | 0, _ => none
  | fuel + 1, text => do
      let text ← skipBlank? (text.length + 1) text
      match text with
      | [] => return ([], [])
      | '[' :: _ => return ([], text)
      | _ =>
          let (entry, rest) ← readEntry? text
          let (entries, rest) ← readEntries? fuel rest
          return (entry :: entries, rest)

def readHeader? (text : List Char) : Option (Bool × List String × List Char) := do
  let (isElement, start) :=
    match text with
    | '[' :: rest => (true, rest)
    | _ => (false, text)
  let (path, rest) ← readKey? (start.length + 1) start
  let rest ← expect? ']' rest
  let rest ← if isElement then expect? ']' rest else some rest
  let rest ← endLine? rest
  return (isElement, path, rest)

/-- The sections of a text that begins with a header. -/
def readSections? : (fuel : Nat) → List Char → Option (List Section)
  | 0, _ => none
  | fuel + 1, text =>
      match text with
      | [] => some []
      | '[' :: rest => do
          let (isElement, path, rest) ← readHeader? rest
          let (entries, rest) ← readEntries? (rest.length + 1) rest
          let sections ← readSections? fuel rest
          return ⟨isElement, path, entries⟩ :: sections
      | _ => none

def read? (text : List Char) : Option Table := do
  let (entries, rest) ← readEntries? (text.length + 1) text
  let sections ← readSections? (rest.length + 1) rest
  document? entries sections

end JavadocTags.Toml
