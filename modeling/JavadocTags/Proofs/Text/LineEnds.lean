import JavadocTags.Text.Utf8
import Mathlib.Data.List.Basic

/-!
# Line ends

Texts and files end lines by a line feed, a carriage return or the pair of both, in any mixture.
Replacing the pairs and then the carriage returns that are left is the same as reading the text once
from left to right. Bytes are read in the same way: the two line ends are single bytes, which no
character of several bytes holds, so decoding goes along with reading line ends.
-/
namespace JavadocTags.Text

section Reading
variable {α : Type} [DecidableEq α] {ret feed : α}

/-- Reads a list from left to right and gives one line feed for each pair of a carriage return and
a line feed, for each other carriage return and for each other line feed. -/
def oneFeedEach (ret feed : α) : List α → List α
  | [] => []
  | [c] => if c = ret then [feed] else [c]
  | c :: next :: rest =>
      if c = ret then
        if next = feed then feed :: oneFeedEach ret feed rest
        else feed :: oneFeedEach ret feed (next :: rest)
      else c :: oneFeedEach ret feed (next :: rest)

def lineEnds (ret feed : α) : List (List α) :=
  [[feed], [ret, feed], [ret]]

def withLineEnds (feed : α) (lineEnd : List α) (items : List α) : List α :=
  items.flatMap fun c => if c = feed then lineEnd else [c]

@[simp] theorem oneFeedEach_pair (rest : List α) :
    oneFeedEach ret feed (ret :: feed :: rest) = feed :: oneFeedEach ret feed rest := by
  rw [oneFeedEach, if_pos rfl, if_pos rfl]

theorem oneFeedEach_return {rest : List α} (h : rest.head? ≠ some feed) :
    oneFeedEach ret feed (ret :: rest) = feed :: oneFeedEach ret feed rest := by
  cases rest with
  | nil => simp only [oneFeedEach, if_true]
  | cons next rest =>
      have hne : next ≠ feed := fun heq => h (congrArg some heq)
      rw [oneFeedEach, if_pos rfl, if_neg hne]

@[simp] theorem oneFeedEach_cons_of_ne {c : α} (h : c ≠ ret) (rest : List α) :
    oneFeedEach ret feed (c :: rest) = c :: oneFeedEach ret feed rest := by
  cases rest with
  | nil => simp only [oneFeedEach, h, if_false]
  | cons next rest => rw [oneFeedEach, if_neg h]

/-- What precedes the first carriage return stays as it is. -/
theorem oneFeedEach_append_of_not_mem {before : List α} (h : ret ∉ before) (rest : List α) :
    oneFeedEach ret feed (before ++ rest) = before ++ oneFeedEach ret feed rest := by
  induction before with
  | nil => rfl
  | cons c before ih =>
      obtain ⟨hne, hbefore⟩ := not_or.1 (mt List.mem_cons.2 h)
      rw [List.cons_append, oneFeedEach_cons_of_ne (Ne.symm hne), ih hbefore, List.cons_append]

theorem oneFeedEach_of_not_mem {items : List α} (h : ret ∉ items) :
    oneFeedEach ret feed items = items := by
  have happend : oneFeedEach ret feed (items ++ []) = _ := oneFeedEach_append_of_not_mem h []
  rwa [List.append_nil, oneFeedEach, List.append_nil] at happend

theorem not_mem_oneFeedEach (hne : ret ≠ feed) (items : List α) :
    ret ∉ oneFeedEach ret feed items := by
  fun_induction oneFeedEach ret feed items with
  | case1 => exact List.not_mem_nil
  | case2 => exact mt List.mem_singleton.1 hne
  | case3 c h => exact mt List.mem_singleton.1 (Ne.symm h)
  | case4 rest ih => exact List.not_mem_cons_of_ne_of_not_mem hne ih
  | case5 next rest h ih => exact List.not_mem_cons_of_ne_of_not_mem hne ih
  | case6 c next rest h ih => exact List.not_mem_cons_of_ne_of_not_mem (Ne.symm h) ih

@[simp] theorem withLineEnds_cons (lineEnd : List α) (c : α) (rest : List α) :
    withLineEnds feed lineEnd (c :: rest) =
      (if c = feed then lineEnd else [c]) ++ withLineEnds feed lineEnd rest :=
  List.flatMap_cons

theorem head?_withLineEnds_return (hne : ret ≠ feed) (items : List α) :
    (withLineEnds feed [ret] items).head? ≠ some feed := by
  cases items with
  | nil => exact nofun
  | cons c rest =>
      rw [withLineEnds_cons]
      split
      next => exact fun heq => hne (Option.some.inj heq)
      next h => exact fun heq => h (Option.some.inj heq)

/-- Whichever way lines end, reading gives line feeds. -/
theorem oneFeedEach_withLineEnds (hne : ret ≠ feed) {items : List α} (h : ret ∉ items)
    {lineEnd : List α} (hend : lineEnd ∈ lineEnds ret feed) :
    oneFeedEach ret feed (withLineEnds feed lineEnd items) = items := by
  induction items with
  | nil => rfl
  | cons c rest ih =>
      obtain ⟨hc, hrest⟩ := not_or.1 (mt List.mem_cons.2 h)
      rw [withLineEnds_cons]
      by_cases hfeed : c = feed
      · subst hfeed
        rw [if_pos rfl]
        simp only [lineEnds, List.mem_cons, List.not_mem_nil, or_false] at hend
        obtain rfl | rfl | rfl := hend
        · rw [List.singleton_append, oneFeedEach_cons_of_ne hne.symm, ih hrest]
        · show oneFeedEach ret c (ret :: c :: withLineEnds c [ret, c] rest) = _
          rw [oneFeedEach_pair, ih hrest]
        · rw [List.singleton_append, oneFeedEach_return (head?_withLineEnds_return hne rest),
            ih hrest]
      · rw [if_neg hfeed, List.singleton_append, oneFeedEach_cons_of_ne (Ne.symm hc), ih hrest]

end Reading

/-! ## Two replacements -/

theorem replaceAll_cons_of_ne {c first : Char} (h : c ≠ first) (old new rest : List Char) :
    replaceAll (first :: old) new (c :: rest) = c :: replaceAll (first :: old) new rest := by
  have hno : (first :: old).isPrefixOf (c :: rest) = false := by
    rw [List.isPrefixOf, beq_false_of_ne (Ne.symm h), Bool.false_and]
  rw [replaceAll, replaceFrom, hno]
  rfl

theorem unifyLineEnds_cons_of_ne {c : Char} (h : c ≠ '\r') (rest : List Char) :
    unifyLineEnds (c :: rest) = c :: unifyLineEnds rest := by
  rw [unifyLineEnds, replaceAll_cons_of_ne h, replaceAll_cons_of_ne h, unifyLineEnds]

@[simp] theorem unifyLineEnds_pair (rest : List Char) :
    unifyLineEnds ('\r' :: '\n' :: rest) = '\n' :: unifyLineEnds rest :=
  rfl

theorem unifyLineEnds_return {rest : List Char} (h : rest.head? ≠ some '\n') :
    unifyLineEnds ('\r' :: rest) = '\n' :: unifyLineEnds rest := by
  have hno : ['\r', '\n'].isPrefixOf ('\r' :: rest) = false := by
    cases rest with
    | nil => rfl
    | cons c rest =>
        have hne : '\n' ≠ c := fun heq => h (heq ▸ rfl)
        rw [List.isPrefixOf, List.isPrefixOf, beq_false_of_ne hne, Bool.false_and, Bool.and_false]
  have hpairs : replaceAll ['\r', '\n'] ['\n'] ('\r' :: rest) =
      '\r' :: replaceAll ['\r', '\n'] ['\n'] rest := by
    rw [replaceAll, replaceFrom, hno]
    rfl
  rw [unifyLineEnds, hpairs]
  rfl

/-- The two replacements together read the text once. -/
theorem unifyLineEnds_eq_oneFeedEach (text : List Char) :
    unifyLineEnds text = oneFeedEach '\r' '\n' text := by
  fun_induction oneFeedEach '\r' '\n' text with
  | case1 => rfl
  | case2 => rfl
  | case3 c h => exact unifyLineEnds_cons_of_ne h []
  | case4 rest ih => rw [unifyLineEnds_pair, ih]
  | case5 next rest h ih =>
      have hhead : (next :: rest).head? ≠ some '\n' := fun heq => h (Option.some.inj heq)
      rw [unifyLineEnds_return hhead, ih]
  | case6 c next rest h ih => rw [unifyLineEnds_cons_of_ne h, ih]

theorem unifyLineEnds_of_not_mem {text : List Char} (h : '\r' ∉ text) :
    unifyLineEnds text = text := by
  rw [unifyLineEnds_eq_oneFeedEach, oneFeedEach_of_not_mem h]

/-- A text whose line ends have been read has none left to unify. -/
@[simp] theorem unifyLineEnds_oneFeedEach (text : List Char) :
    unifyLineEnds (oneFeedEach '\r' '\n' text) = oneFeedEach '\r' '\n' text :=
  unifyLineEnds_of_not_mem (not_mem_oneFeedEach (by decide) text)

/-! ## Bytes -/

namespace Utf8

/-- A character that has begun belongs to several bytes, and ends up beyond the ASCII ones. -/
structure Partial.Sound (p : Partial) : Prop where
  low : 0x80 ≤ p.low
  high : p.high ≤ 0xBF
  missing : 1 ≤ p.missing
  last : p.missing = 1 → 2 ≤ p.code
  further : 2 ≤ p.missing → 2 ≤ p.code * 0x40 + (p.low - 0x80)

theorem sound_of_opening {byte : UInt8} {p : Partial} (h : opening byte = .incomplete p) :
    p.Sound := by
  simp only [opening] at h
  split_ifs at h
  all_goals
    obtain rfl := Opening.incomplete.inj h
    constructor
  all_goals
    simp only
    omega

theorem opening_eq_complete {byte : UInt8} {c : Char} (h : opening byte = .complete c) :
    c = Char.ofNat byte.toNat ∧ byte.toNat < 0x80 := by
  simp only [opening] at h
  split_ifs at h with hascii
  exact ⟨(Opening.complete.inj h).symm, hascii⟩

section Step
variable {p : Partial} {byte : UInt8}

theorem Partial.Sound.mod_eq (h : p.Sound) (hrange : p.low ≤ byte.toNat ∧ byte.toNat ≤ p.high) :
    byte.toNat % 0x40 = byte.toNat - 0x80 := by
  have := h.low
  have := h.high
  omega

theorem Partial.Sound.push (h : p.Sound) (hrange : p.low ≤ byte.toNat ∧ byte.toNat ≤ p.high)
    (hmore : (p.push byte).missing ≠ 0) : (p.push byte).Sound := by
  have hmod := h.mod_eq hrange
  have hlow := h.low
  have hfurther := h.further
  constructor <;> simp only [Partial.push] at hmore ⊢ <;> omega

theorem Partial.Sound.code_push (h : p.Sound)
    (hdone : (p.push byte).missing = 0) : 0x80 ≤ (p.push byte).code := by
  have hlast := h.last
  have hmissing := h.missing
  simp only [Partial.push] at hdone ⊢
  omega

end Step

theorem toNat_ofNat {n : Nat} (h : n.isValidChar) : (Char.ofNat n).toNat = n := by
  rw [Char.ofNat, dif_pos h]
  rfl

theorem ofNat_ne_of_ne {byte other : UInt8} (hbyte : byte.toNat < 0x80)
    (hother : other.toNat < 0x80) (h : byte ≠ other) :
    Char.ofNat byte.toNat ≠ Char.ofNat other.toNat := by
  intro heq
  have hvalid {n : Nat} (hn : n < 0x80) : n.isValidChar := .inl (Nat.lt_trans hn (by decide))
  have htoNat := congrArg Char.toNat heq
  rw [toNat_ofNat (hvalid hbyte), toNat_ofNat (hvalid hother)] at htoNat
  exact h (UInt8.toNat_inj.1 htoNat)

/-- No character of several bytes is an ASCII one; a code point that is none gives `'\x00'`. -/
theorem ofNat_ne_of_ge {n : Nat} (h : 0x80 ≤ n) {c : Char} (hzero : 0 < c.toNat)
    (hc : c.toNat < 0x80) : Char.ofNat n ≠ c := by
  rintro rfl
  by_cases hvalid : n.isValidChar
  · rw [toNat_ofNat hvalid] at hc
    omega
  · have hnul : Char.ofNat n = '\x00' := by
      rw [Char.ofNat, dif_neg hvalid]
      rfl
    rw [hnul] at hzero
    exact absurd hzero (by decide)

/-- The characters of bytes, the first of which may be begun already, with the replacement for
each fault. -/
def textFrom (begun : Option Partial) (bytes : List UInt8) : List Char :=
  (decodeFrom begun bytes).map (·.getD replacement)

def fault : Option Partial → List Char
  | none => []
  | some _ => [replacement]

section Text
variable {begun : Option Partial} {byte : UInt8}

@[simp] theorem textFrom_nil (begun : Option Partial) : textFrom begun [] = fault begun := by
  cases begun <;> rfl

theorem not_mem_fault {c : Char} (h : c ≠ replacement) (begun : Option Partial) :
    c ∉ fault begun := by
  cases begun with
  | none => exact List.not_mem_nil
  | some p => exact mt List.mem_singleton.1 h

/-- A byte that does not go on with a character ends it. -/
theorem textFrom_eq_fault_append {rest : List UInt8}
    (h : ∀ p ∈ begun, ¬ (p.low ≤ byte.toNat ∧ byte.toNat ≤ p.high)) :
    textFrom begun (byte :: rest) = fault begun ++ textFrom none (byte :: rest) := by
  cases begun with
  | none => rfl
  | some p =>
      rw [textFrom, decodeFrom, if_neg (h p rfl), textFrom, decodeFrom]
      cases opening byte <;> rfl

/-- An ASCII byte stands for itself, also where it breaks a character off. -/
theorem textFrom_ascii (hbegun : ∀ p ∈ begun, p.Sound) (hbyte : byte.toNat < 0x80)
    (rest : List UInt8) :
    textFrom begun (byte :: rest) = fault begun ++ Char.ofNat byte.toNat :: textFrom none rest := by
  rw [textFrom_eq_fault_append fun p hp hrange => by have := (hbegun p hp).low; omega]
  rw [textFrom, decodeFrom, opening]
  simp only [hbyte, if_true]
  rfl

/-- Any other byte gives no line end. -/
theorem exists_textFrom_cons (hbegun : ∀ p ∈ begun, p.Sound) (hbyte : 0x80 ≤ byte.toNat) :
    ∃ (out : List Char) (next : Option Partial), (∀ p ∈ next, p.Sound) ∧
      '\r' ∉ out ∧ ∀ rest, textFrom begun (byte :: rest) = out ++ textFrom next rest := by
  by_cases hrange : ∃ p ∈ begun, p.low ≤ byte.toNat ∧ byte.toNat ≤ p.high
  · obtain ⟨p, rfl, hrange⟩ := hrange
    have hp := hbegun p rfl
    by_cases hdone : (p.push byte).missing = 0
    · refine ⟨[Char.ofNat (p.push byte).code], none, nofun, ?_, fun rest => ?_⟩
      · have hne := ofNat_ne_of_ge (c := '\r') (hp.code_push hdone) (by decide) (by decide)
        exact mt List.mem_singleton.1 hne.symm
      · rw [textFrom, decodeFrom, if_pos hrange]
        simp only [hdone, if_true]
        rfl
    · refine ⟨[], some (p.push byte), ?_, List.not_mem_nil, fun rest => ?_⟩
      · rintro q ⟨⟩
        exact hp.push hrange hdone
      · rw [textFrom, decodeFrom, if_pos hrange]
        simp only [hdone, if_false]
        rfl
  · have hbreak : ∀ p ∈ begun, ¬ (p.low ≤ byte.toNat ∧ byte.toNat ≤ p.high) :=
      fun p hp h => hrange ⟨p, hp, h⟩
    have hreturn := not_mem_fault (c := '\r') (by decide) begun
    cases hopening : opening byte with
    | complete c => exact absurd (opening_eq_complete hopening).2 (by omega)
    | incomplete q =>
        refine ⟨fault begun, some q, ?_, hreturn, fun rest => ?_⟩
        · rintro p ⟨⟩
          exact sound_of_opening hopening
        · rw [textFrom_eq_fault_append hbreak, textFrom, decodeFrom, hopening]
          rfl
    | invalid =>
        refine ⟨fault begun ++ [replacement], none, nofun, ?_, fun rest => ?_⟩
        · rw [List.mem_append, not_or]
          exact ⟨hreturn, by decide⟩
        · rw [textFrom_eq_fault_append hbreak, textFrom, decodeFrom, hopening, List.append_assoc]
          rfl

/-- Behind a character that has begun, no text begins with a line feed: first comes this character,
or the fault that it leaves. -/
theorem head?_textFrom_some {p : Partial} (hp : p.Sound) (bytes : List UInt8) :
    (textFrom (some p) bytes).head? ≠ some '\n' := by
  have hfault : replacement ≠ '\n' := by decide
  induction bytes generalizing p with
  | nil => exact fun heq => hfault (Option.some.inj heq)
  | cons byte rest ih =>
      by_cases hrange : p.low ≤ byte.toNat ∧ byte.toNat ≤ p.high
      · rw [textFrom, decodeFrom, if_pos hrange]
        by_cases hdone : (p.push byte).missing = 0
        · have hne := ofNat_ne_of_ge (c := '\n') (hp.code_push hdone) (by decide) (by decide)
          simp only [hdone, if_true]
          exact fun heq => hne (Option.some.inj heq)
        · simp only [hdone, if_false]
          exact ih (hp.push hrange hdone)
      · rw [textFrom_eq_fault_append (by rintro q ⟨⟩; exact hrange)]
        exact fun heq => hfault (Option.some.inj heq)

theorem head?_textFrom_none {bytes : List UInt8} (h : bytes.head? ≠ some 0x0A) :
    (textFrom none bytes).head? ≠ some '\n' := by
  cases bytes with
  | nil => exact nofun
  | cons byte rest =>
      rw [textFrom, decodeFrom]
      cases hopening : opening byte with
      | complete c =>
          obtain ⟨rfl, hascii⟩ := opening_eq_complete hopening
          have hne : byte ≠ 0x0A := fun heq => h (congrArg some heq)
          exact fun heq => ofNat_ne_of_ne hascii (by decide) hne (Option.some.inj heq)
      | incomplete q => exact head?_textFrom_some (sound_of_opening hopening) rest
      | invalid => exact fun heq => absurd (Option.some.inj heq) (by decide)

theorem sound_none : ∀ p ∈ (none : Option Partial), p.Sound :=
  nofun

/-- Decoding goes along with reading line ends. -/
theorem oneFeedEach_textFrom (hbegun : ∀ p ∈ begun, p.Sound) (bytes : List UInt8) :
    oneFeedEach '\r' '\n' (textFrom begun bytes) =
      textFrom begun (oneFeedEach 0x0D 0x0A bytes) := by
  have hreplacement (begun : Option Partial) : '\r' ∉ fault begun :=
    not_mem_fault (by decide) begun
  induction bytes generalizing begun with
  | nil => rw [oneFeedEach, textFrom_nil, oneFeedEach_of_not_mem (hreplacement begun)]
  | cons byte rest ih =>
      by_cases hreturn : byte = 0x0D
      · -- What follows the carriage return, as bytes and as characters, is a line feed or not.
        subst hreturn
        have hfirst : textFrom begun (0x0D :: rest) =
            fault begun ++ '\r' :: textFrom none rest := textFrom_ascii hbegun (by decide) rest
        have hfeed (begun : Option Partial) (hbegun : ∀ p ∈ begun, p.Sound) (rest : List UInt8) :
            textFrom begun (0x0A :: rest) = fault begun ++ '\n' :: textFrom none rest :=
          textFrom_ascii hbegun (by decide) rest
        rw [hfirst, oneFeedEach_append_of_not_mem (hreplacement begun)]
        by_cases hpair : rest.head? = some 0x0A
        · obtain ⟨rest, rfl⟩ := List.head?_eq_some_iff.1 hpair
          have hplain (rest : List UInt8) :
              textFrom none (0x0A :: rest) = '\n' :: textFrom none rest :=
            hfeed none sound_none rest
          have hrest := ih sound_none
          rw [oneFeedEach_cons_of_ne (by decide), hplain, hplain,
            oneFeedEach_cons_of_ne (by decide)] at hrest
          rw [oneFeedEach_pair, hfeed begun hbegun, hplain, oneFeedEach_pair, hrest]
        · rw [oneFeedEach_return hpair, hfeed begun hbegun,
            oneFeedEach_return (head?_textFrom_none hpair), ih sound_none]
      · rw [oneFeedEach_cons_of_ne hreturn]
        by_cases hbyte : byte.toNat < 0x80
        · have hne : Char.ofNat byte.toNat ≠ '\r' := ofNat_ne_of_ne hbyte (by decide) hreturn
          rw [textFrom_ascii hbegun hbyte, textFrom_ascii hbegun hbyte,
            oneFeedEach_append_of_not_mem (hreplacement begun), oneFeedEach_cons_of_ne hne,
            ih sound_none]
        · obtain ⟨out, next, hnext, hout, htext⟩ := exists_textFrom_cons hbegun (Nat.not_lt.1 hbyte)
          rw [htext, htext, oneFeedEach_append_of_not_mem hout, ih hnext]

end Text

/-- The text of a file is that of the file with each of its line ends read as one line feed. -/
@[simp] theorem lenient_oneFeedEach (bytes : List UInt8) :
    lenient (oneFeedEach 0x0D 0x0A bytes) = lenient bytes := by
  have hdecode := oneFeedEach_textFrom sound_none bytes
  rw [textFrom, textFrom] at hdecode
  rw [lenient, lenient, decode, decode, ← hdecode, unifyLineEnds_oneFeedEach,
    unifyLineEnds_eq_oneFeedEach]

end Utf8

end JavadocTags.Text
