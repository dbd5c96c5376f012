import JavadocTags.Proofs.Json.Reading

/-!
# Whole numbers of too many digits in JSON

A JSON text is refused for a number that is too long where the reader meets a whole number with more
digits than the limit, and only there. What follows the number need not be JSON.
-/
namespace JavadocTags.Json

variable {text rest : List Char} {fuel : Nat}

/-! ## Numbers -/

/-- A text begins with a whole number, without sign, fraction or exponent, of too many digits. -/
def BeginsLong (text : List Char) : Prop :=
  ∃ whole rest, readWhole? text = some (whole, rest) ∧ (readFraction rest).1 = [] ∧
    (readExponent (readFraction rest).2).1 = none ∧ Number.wholeDigitLimit < whole.length

theorem numberOf_eq_integerTooLong_iff {negative : Bool} {whole fraction : List Char}
    {exponent : Option Int} :
    numberOf negative whole fraction exponent = .error .integerTooLong ↔
      fraction = [] ∧ exponent = none ∧ Number.wholeDigitLimit < whole.length := by
  unfold numberOf
  split
  next hplain =>
    rw [List.isEmpty_iff, Option.isNone_iff_eq_none] at hplain
    split
    next hlong => simp [hplain, hlong]
    next hlong => simp [hlong]
  next hplain =>
    refine iff_of_false nofun fun ⟨hfraction, hexponent, _⟩ => hplain ?_
    rw [hfraction, hexponent]
    exact ⟨rfl, rfl⟩

theorem readUnsigned_eq_integerTooLong_iff (negative : Bool) :
    readUnsigned negative text = .error .integerTooLong ↔ BeginsLong text := by
  unfold readUnsigned
  constructor
  · intro h
    rcases of_bind_eq_error h with h | ⟨⟨whole, rest⟩, hwhole, h⟩
    · cases hread : readWhole? text with
      | none => rw [hread] at h; cases h
      | some read => rw [hread] at h; cases h
    · rcases of_bind_eq_error h with h | ⟨_, _, h⟩
      · exact ⟨whole, rest, of_orMalformed_eq_ok hwhole, numberOf_eq_integerTooLong_iff.1 h⟩
      · cases h
  · rintro ⟨whole, rest, hwhole, hlong⟩
    have hnumber : numberOf negative whole (readFraction rest).1
        (readExponent (readFraction rest).2).1 = .error .integerTooLong :=
      numberOf_eq_integerTooLong_iff.2 hlong
    rw [hwhole]
    exact congrArg (· >>= fun number => pure (number, (readExponent (readFraction rest).2).2))
      hnumber

theorem BeginsLong.exists_digit (h : BeginsLong text) :
    ∃ c rest, text = c :: rest ∧ Number.isDigit c = true := by
  obtain ⟨whole, after, hwhole, -⟩ := h
  unfold readWhole? at hwhole
  split at hwhole
  next rest => exact ⟨'0', rest, rfl, by decide⟩
  next =>
    cases text with
    | nil => cases hwhole
    | cons c rest =>
        refine ⟨c, rest, rfl, ?_⟩
        by_contra hc
        rw [List.takeWhile_cons_of_neg hc] at hwhole
        cases hwhole

theorem ne_of_isDigit {c d : Char} (hc : Number.isDigit c = true)
    (hd : Number.isDigit d = false) : c ≠ d := by
  rintro rfl
  rw [hc] at hd
  cases hd

theorem readWord?_of_isDigit {c : Char} (h : Number.isDigit c = true) (rest : List Char) :
    readWord? (c :: rest) = none ∧ readWord? ('-' :: c :: rest) = none := by
  have hne (d : Char) (hd : Number.isDigit d = false) : d ≠ c := (ne_of_isDigit h hd).symm
  simp [readWord?, words, hne 'n' (by decide), hne 't' (by decide),
    hne 'f' (by decide), hne 'N' (by decide), hne 'I' (by decide), hne '-' (by decide)]

/-! ## Texts -/

/-- A value, or what stands within the brackets of a list or the braces of an object. -/
inductive Part where
  | value
  | items
  | members

/-- A value is read, and something is left after it. -/
def ReadsValue (text : List Char) (value : Value) (after : List Char) : Prop :=
  readValue (2 * text.length + 1) text = .ok (value, after)

/-- A key is read, and something is left after its colon. -/
def ReadsKey (text after : List Char) : Prop :=
  ∃ keyStart key afterKey, text = '"' :: keyStart ∧
    readString? (keyStart.length + 1) [] keyStart = some (key, afterKey) ∧
      skipSpace afterKey = ':' :: after

/-- The reader of a part meets a whole number of too many digits. -/
inductive MeetsLong : Part → List Char → Prop
  | number {text : List Char} (h : BeginsLong text) : MeetsLong .value text
  | negative {text : List Char} (h : BeginsLong text) : MeetsLong .value ('-' :: text)
  | list {rest : List Char} (h : MeetsLong .items (skipSpace rest)) : MeetsLong .value ('[' :: rest)
  | object {rest : List Char} (h : MeetsLong .members (skipSpace rest)) :
      MeetsLong .value ('{' :: rest)
  | item {text : List Char} (h : MeetsLong .value text) : MeetsLong .items text
  | laterItem {text after rest : List Char} {value : Value} (hvalue : ReadsValue text value after)
      (hcomma : skipSpace after = ',' :: rest) (h : MeetsLong .items (skipSpace rest)) :
      MeetsLong .items text
  | member {text start : List Char} (hkey : ReadsKey text start)
      (h : MeetsLong .value (skipSpace start)) : MeetsLong .members text
  | laterMember {text start after rest : List Char} {value : Value} (hkey : ReadsKey text start)
      (hvalue : ReadsValue (skipSpace start) value after) (hcomma : skipSpace after = ',' :: rest)
      (h : MeetsLong .members (skipSpace rest)) : MeetsLong .members text

def Part.EnoughTurns (fuel : Nat) (text : List Char) : Part → Prop
  | .value => 2 * text.length < fuel
  | .items => 2 * text.length + 1 < fuel
  | .members => 2 * text.length < fuel

theorem Part.EnoughTurns.exists_succ {part : Part} (h : part.EnoughTurns fuel text) :
    ∃ turns, fuel = turns + 1 := by
  cases fuel with
  | zero => cases part <;> cases h
  | succ fuel => exact ⟨fuel, rfl⟩

def Part.IsRefused (fuel : Nat) (text : List Char) : Part → Prop
  | .value => readValue fuel text = .error .integerTooLong
  | .items => readItems fuel text = .error .integerTooLong
  | .members => readMembers fuel text = .error .integerTooLong

theorem ReadsKey.length_lt (h : ReadsKey text rest) : (skipSpace rest).length < text.length := by
  obtain ⟨keyStart, key, afterKey, rfl, hkey, hcolon⟩ := h
  have hlt := length_lt_of_readString? hkey
  have hrest := length_skipSpace_lt hcolon
  rw [List.length_cons]
  omega

theorem ReadsValue.length_lt {value : Value} {after : List Char}
    (h : ReadsValue text value after) : after.length < text.length :=
  (shortens _).value h

theorem ReadsValue.readValue_eq {value : Value} {after : List Char}
    (h : ReadsValue text value after) (hfuel : 2 * text.length < fuel) :
    readValue fuel text = .ok (value, after) :=
  ((read_turns fuel).1 hfuel (Nat.lt_succ_self _)).trans h

theorem readsValue_of_readValue {value : Value} {after : List Char}
    (h : readValue fuel text = .ok (value, after)) (hfuel : 2 * text.length < fuel) :
    ReadsValue text value after :=
  ((read_turns fuel).1 hfuel (Nat.lt_succ_self _)).symm.trans h

theorem readValue_list (h : ∀ after, skipSpace rest ≠ ']' :: after) :
    readValue (fuel + 1) ('[' :: rest) =
      readItems fuel (skipSpace rest) >>= fun (items, after) => .ok (.list items, after) := by
  rw [readValue]
  split
  next after hclose => exact absurd hclose (h after)
  next => rfl

theorem readValue_object (h : ∀ after, skipSpace rest ≠ '}' :: after) :
    readValue (fuel + 1) ('{' :: rest) =
      readMembers fuel (skipSpace rest) >>= fun (members, after) =>
        .ok (.table (Table.ofEntries members), after) := by
  rw [readValue]
  split
  next after hclose => exact absurd hclose (h after)
  next => rfl

@[simp] theorem readItems_bracket (fuel : Nat) (rest : List Char) :
    readItems fuel (']' :: rest) = .error .malformed := by
  cases fuel with
  | zero => rfl
  | succ fuel => cases fuel <;> rfl

@[simp] theorem readMembers_brace (fuel : Nat) (rest : List Char) :
    readMembers fuel ('}' :: rest) = .error .malformed := by
  cases fuel <;> rfl

theorem readValue_of_beginsLong (h : BeginsLong text) :
    readValue (fuel + 1) text = .error .integerTooLong ∧
      readValue (fuel + 1) ('-' :: text) = .error .integerTooLong := by
  have hnumber := (readUnsigned_eq_integerTooLong_iff false).2 h
  have hnegative := (readUnsigned_eq_integerTooLong_iff true).2 h
  obtain ⟨c, rest, rfl, hc⟩ := h.exists_digit
  obtain ⟨hword, hsigned⟩ := readWord?_of_isDigit hc rest
  constructor
  · rw [readValue, hword]
    · rw [← hnumber, readNumber]
      simp [ne_of_isDigit (d := '-') hc (by decide)]
    · simp [ne_of_isDigit (d := '"') hc (by decide)]
    · simp [ne_of_isDigit (d := '[') hc (by decide)]
    · simp [ne_of_isDigit (d := '{') hc (by decide)]
  · rw [readValue, hsigned]
    · exact hnegative
    all_goals simp

theorem readValue_list_of_items
    (h : readItems fuel (skipSpace rest) = .error .integerTooLong) :
    readValue (fuel + 1) ('[' :: rest) = .error .integerTooLong := by
  have hopen : ∀ after, skipSpace rest ≠ ']' :: after := fun after hclose => by
    rw [hclose, readItems_bracket] at h
    cases h
  rw [readValue_list hopen, h]
  rfl

theorem readValue_object_of_members
    (h : readMembers fuel (skipSpace rest) = .error .integerTooLong) :
    readValue (fuel + 1) ('{' :: rest) = .error .integerTooLong := by
  have hopen : ∀ after, skipSpace rest ≠ '}' :: after := fun after hclose => by
    rw [hclose, readMembers_brace] at h
    cases h
  rw [readValue_object hopen, h]
  rfl

theorem readItems_of_item (h : readValue fuel text = .error .integerTooLong) :
    readItems (fuel + 1) text = .error .integerTooLong := by
  rw [readItems, h]
  rfl

theorem readItems_of_later {value : Value} {after : List Char}
    (hvalue : readValue fuel text = .ok (value, after)) (hcomma : skipSpace after = ',' :: rest)
    (h : readItems fuel (skipSpace rest) = .error .integerTooLong) :
    readItems (fuel + 1) text = .error .integerTooLong := by
  rw [readItems, hvalue, ok_bind]
  simp only [hcomma, h]
  rfl

theorem readMembers_of_member {start : List Char} (hkey : ReadsKey text start)
    (h : readValue fuel (skipSpace start) = .error .integerTooLong) :
    readMembers (fuel + 1) text = .error .integerTooLong := by
  obtain ⟨keyStart, key, afterKey, rfl, hread, hcolon⟩ := hkey
  rw [readMembers, hread]
  simp only [orMalformed, ok_bind, hcolon, h]
  rfl

theorem readMembers_of_later {start after : List Char} {value : Value}
    (hkey : ReadsKey text start) (hvalue : readValue fuel (skipSpace start) = .ok (value, after))
    (hcomma : skipSpace after = ',' :: rest)
    (h : readMembers fuel (skipSpace rest) = .error .integerTooLong) :
    readMembers (fuel + 1) text = .error .integerTooLong := by
  obtain ⟨keyStart, key, afterKey, rfl, hread, hcolon⟩ := hkey
  rw [readMembers, hread]
  simp only [orMalformed, ok_bind, hcolon, hvalue, hcomma, h]
  rfl

/-- With enough turns, a part that meets a number that is too long is refused for it. -/
theorem MeetsLong.isRefused {part : Part} (h : MeetsLong part text)
    (hfuel : part.EnoughTurns fuel text) : part.IsRefused fuel text := by
  induction h generalizing fuel with
  | number h =>
      obtain ⟨fuel, rfl⟩ := hfuel.exists_succ
      exact (readValue_of_beginsLong h).1
  | negative h =>
      obtain ⟨fuel, rfl⟩ := hfuel.exists_succ
      exact (readValue_of_beginsLong h).2
  | @list rest h ih =>
      obtain ⟨fuel, rfl⟩ := hfuel.exists_succ
      rw [Part.EnoughTurns, List.length_cons] at hfuel
      have hspace := length_skipSpace_le rest
      exact readValue_list_of_items (ih (show 2 * (skipSpace rest).length + 1 < fuel by omega))
  | @object rest h ih =>
      obtain ⟨fuel, rfl⟩ := hfuel.exists_succ
      rw [Part.EnoughTurns, List.length_cons] at hfuel
      have hspace := length_skipSpace_le rest
      exact readValue_object_of_members (ih (show 2 * (skipSpace rest).length < fuel by omega))
  | @item text h ih =>
      obtain ⟨fuel, rfl⟩ := hfuel.exists_succ
      rw [Part.EnoughTurns] at hfuel
      exact readItems_of_item (ih (show 2 * text.length < fuel by omega))
  | @laterItem text after rest value hvalue hcomma h ih =>
      obtain ⟨fuel, rfl⟩ := hfuel.exists_succ
      rw [Part.EnoughTurns] at hfuel
      have hafter := hvalue.length_lt
      have hrest := length_skipSpace_lt hcomma
      exact readItems_of_later (hvalue.readValue_eq (by omega)) hcomma
        (ih (show 2 * (skipSpace rest).length + 1 < fuel by omega))
  | @member text start hkey h ih =>
      obtain ⟨fuel, rfl⟩ := hfuel.exists_succ
      rw [Part.EnoughTurns] at hfuel
      have hstart := hkey.length_lt
      exact readMembers_of_member hkey (ih (show 2 * (skipSpace start).length < fuel by omega))
  | @laterMember text start after rest value hkey hvalue hcomma h ih =>
      obtain ⟨fuel, rfl⟩ := hfuel.exists_succ
      rw [Part.EnoughTurns] at hfuel
      have hstart := hkey.length_lt
      have hafter := hvalue.length_lt
      have hrest := length_skipSpace_lt hcomma
      exact readMembers_of_later hkey (hvalue.readValue_eq (by omega)) hcomma
        (ih (show 2 * (skipSpace rest).length < fuel by omega))

theorem orMalformed_ne_integerTooLong {α : Type} {a? : Option α} :
    orMalformed a? ≠ .error .integerTooLong := by
  cases a? <;> exact nofun

/-- Whatever is refused in so many turns for a number that is too long meets one. -/
def RefusalsMeet (fuel : Nat) : Prop :=
  ∀ {part : Part} {text : List Char}, part.EnoughTurns fuel text → part.IsRefused fuel text →
    MeetsLong part text

theorem RefusalsMeet.value_succ (ih : RefusalsMeet fuel) (hfuel : 2 * text.length < fuel + 1)
    (h : readValue (fuel + 1) text = .error .integerTooLong) : MeetsLong .value text := by
  rw [readValue.eq_def] at h
  dsimp only at h
  split at h
  next rest =>
    rcases of_bind_eq_error h with h | ⟨_, _, h⟩
    · exact absurd h orMalformed_ne_integerTooLong
    · cases h
  next rest =>
    have hspace := length_skipSpace_le rest
    rw [List.length_cons] at hfuel
    split at h
    next => cases h
    next =>
      rcases of_bind_eq_error h with h | ⟨_, _, h⟩
      · exact .list (ih (show 2 * (skipSpace rest).length + 1 < fuel by omega) h)
      · cases h
  next rest =>
    have hspace := length_skipSpace_le rest
    rw [List.length_cons] at hfuel
    split at h
    next => cases h
    next =>
      rcases of_bind_eq_error h with h | ⟨_, _, h⟩
      · exact .object (ih (show 2 * (skipSpace rest).length < fuel by omega) h)
      · cases h
  next =>
    split at h
    next => cases h
    next =>
      unfold readNumber at h
      split at h
      next => exact .negative ((readUnsigned_eq_integerTooLong_iff true).1 h)
      next => exact .number ((readUnsigned_eq_integerTooLong_iff false).1 h)

theorem RefusalsMeet.items_succ (ih : RefusalsMeet fuel) (hfuel : 2 * text.length + 1 < fuel + 1)
    (h : readItems (fuel + 1) text = .error .integerTooLong) : MeetsLong .items text := by
  rw [readItems] at h
  rcases of_bind_eq_error h with h | ⟨⟨item, after⟩, hitem, h⟩
  · exact .item (ih (show 2 * text.length < fuel by omega) h)
  · have hvalue := readsValue_of_readValue hitem (by omega)
    have hafter := hvalue.length_lt
    dsimp only at h
    split at h
    next => cases h
    next rest hcomma =>
      have hrest := length_skipSpace_lt hcomma
      rcases of_bind_eq_error h with h | ⟨_, _, h⟩
      · exact .laterItem hvalue hcomma
          (ih (show 2 * (skipSpace rest).length + 1 < fuel by omega) h)
      · cases h
    next => cases h

theorem RefusalsMeet.members_succ (ih : RefusalsMeet fuel) (hfuel : 2 * text.length < fuel + 1)
    (h : readMembers (fuel + 1) text = .error .integerTooLong) : MeetsLong .members text := by
  rw [readMembers.eq_def] at h
  dsimp only at h
  split at h
  next keyStart =>
    rcases of_bind_eq_error h with h | ⟨⟨key, afterKey⟩, hkey, h⟩
    · exact absurd h orMalformed_ne_integerTooLong
    · dsimp only at h
      split at h
      next start hcolon =>
        have hkey : ReadsKey ('"' :: keyStart) start :=
          ⟨keyStart, key, afterKey, rfl, of_orMalformed_eq_ok hkey, hcolon⟩
        have hstart := hkey.length_lt
        rcases of_bind_eq_error h with h | ⟨⟨value, after⟩, hvalue, h⟩
        · exact .member hkey (ih (show 2 * (skipSpace start).length < fuel by omega) h)
        · have hvalue := readsValue_of_readValue hvalue (by omega)
          have hafter := hvalue.length_lt
          dsimp only at h
          split at h
          next => cases h
          next rest hcomma =>
            have hrest := length_skipSpace_lt hcomma
            rcases of_bind_eq_error h with h | ⟨_, _, h⟩
            · exact .laterMember hkey hvalue hcomma
                (ih (show 2 * (skipSpace rest).length < fuel by omega) h)
            · cases h
          next => cases h
      next => cases h
  next => cases h

theorem refusalsMeet (fuel : Nat) : RefusalsMeet fuel := by
  induction fuel with
  | zero =>
      intro part text hfuel
      cases part <;> cases hfuel
  | succ fuel ih =>
      intro part text hfuel h
      cases part with
      | value => exact RefusalsMeet.value_succ ih hfuel h
      | items => exact RefusalsMeet.items_succ ih hfuel h
      | members => exact RefusalsMeet.members_succ ih hfuel h

/-- The texts that are refused for a number that is too long. -/
theorem read_eq_integerTooLong_iff :
    read text = .error .integerTooLong ↔ MeetsLong .value (skipSpace text) := by
  have hspace := length_skipSpace_le text
  have henough : Part.value.EnoughTurns (2 * text.length + 1) (skipSpace text) :=
    show 2 * (skipSpace text).length < _ by omega
  constructor
  · intro h
    rcases of_bind_eq_error h with h | ⟨⟨value, rest⟩, _, h⟩
    · exact refusalsMeet _ henough h
    · dsimp only at h
      split at h <;> cases h
  · intro h
    have hread : readValue (2 * text.length + 1) (skipSpace text) = .error .integerTooLong :=
      h.isRefused henough
    rw [read, hread]
    rfl

end JavadocTags.Json
