import Mathlib
import JavadocTags.CommandLine.Check
import JavadocTags.Proofs.CommandLine.Reading
import JavadocTags.Proofs.Pattern.TagSearch

/-!
# Checks given by options

The options of a command line describe a check, and so does a table of a configuration that holds
the same values. The main statement says that both are the same check, or are refused for the same
cause, unless the option for the kinds is given without any text.
-/
namespace JavadocTags.CommandLine

/-! ## The table of the options -/

/-- The key of a table under which the value of a switch stands. -/
def CheckSwitch.key? : CheckSwitch → Option String
  | .tag => some "tag"
  | .tagFormat => some "tag_format"
  | .tagSeverity => some "tag_severity"
  | .severity => some "severity"
  | .tokens => some "tokens"
  | .literal => some "literal"
  | .help | .format | .showIgnored => none

/-- Enters what a switch says about the check; a switch without a value is true. -/
def enter (table : Table) : Event CheckSwitch → Table
  | .switch used value =>
      match used.key.key? with
      | some key => table.set key (value.elim (.bool true) .string)
      | none => table
  | .operands _ => table

def commandWords (words : List String) : List String :=
  match interpret generalStep {} (generalGrammar.read words) Manual.general with
  | .ok general => general.command.tail
  | .error _ => []

/-- The table that holds what a command line says about the check. -/
def optionTable (words : List String) : Table :=
  (checkGrammar.read (commandWords words)).events.foldl enter []

/-- Options and a table that say the same about a check. -/
structure Agree (options : CheckOptions) (table : Table) : Prop where
  tag : table.get? "tag" = options.tag.map .string
  format : table.get? "tag_format" = options.tagFormat.map .string
  tagSeverity : (table.get? "tag_severity").getD (.string "info") = .string options.tagSeverity
  severity : (table.get? "severity").getD (.string "error") = .string options.severity
  tokens : table.get? "tokens" = options.tokens.map .string
  literal : (table.get? "literal").getD (.bool false) = .bool options.literal
  id : table.get? "id" = none

theorem agree_start : Agree {} [] :=
  ⟨rfl, rfl, rfl, rfl, rfl, rfl, rfl⟩

theorem takesValue_of_mem : ∀ used ∈ checkGrammar.switches,
    (used.value = .nothing ↔ used.key ∈ [.help, .literal, .showIgnored]) := by
  decide

variable {options next : CheckOptions} {table : Table} {used : Switch CheckSwitch}

theorem Agree.enter_text {text : String} (h : Agree options table)
    (hkey : used.key ∉ [.help, .literal, .showIgnored])
    (hstep : checkStep options (.switch used (some text)) = .ok next) :
    Agree next (enter table (.switch used (some text))) := by
  obtain ⟨key, names, takes⟩ := used
  cases key with
  | help | literal | showIgnored => simp at hkey
  | format =>
      cases hstep
      exact ⟨h.tag, h.format, h.tagSeverity, h.severity, h.tokens, h.literal, h.id⟩
  | tag | tagFormat | tagSeverity | severity | tokens =>
      cases hstep
      constructor <;> grind [Table.get?_set, Agree, enter, CheckSwitch.key?]

theorem Agree.enter_flag (h : Agree options table)
    (hkey : used.key ∈ [.help, .literal, .showIgnored])
    (hstep : checkStep options (.switch used none) = .ok next) :
    Agree next (enter table (.switch used none)) := by
  obtain ⟨key, names, takes⟩ := used
  cases key with
  | tag | tagFormat | tagSeverity | severity | tokens | format => simp at hkey
  | help => cases hstep
  | showIgnored =>
      cases hstep
      exact ⟨h.tag, h.format, h.tagSeverity, h.severity, h.tokens, h.literal, h.id⟩
  | literal =>
      cases hstep
      constructor <;> grind [Table.get?_set, Agree, enter, CheckSwitch.key?]

/-- Each event keeps the options and the table in agreement. -/
theorem Agree.step {event : Event CheckSwitch} (h : Agree options table)
    (hfits : event.Fits checkGrammar) (hstep : checkStep options event = .ok next) :
    Agree next (enter table event) := by
  cases event with
  | operands values =>
      cases hstep
      exact ⟨h.tag, h.format, h.tagSeverity, h.severity, h.tokens, h.literal, h.id⟩
  | switch used value =>
      obtain ⟨hmem, hvalue⟩ := hfits
      rw [takesValue_of_mem used hmem] at hvalue
      cases value with
      | none => exact h.enter_flag (hvalue.1 rfl) hstep
      | some text => exact h.enter_text (fun hkey => nomatch hvalue.2 hkey) hstep

theorem Agree.run {events : List (Event CheckSwitch)} (h : Agree options table)
    (hfits : ∀ event ∈ events, event.Fits checkGrammar)
    (hrun : events.foldlM checkStep options = .ok next) :
    Agree next (events.foldl enter table) := by
  induction events generalizing options table with
  | nil =>
      cases hrun
      exact h
  | cons event rest ih =>
      obtain ⟨hevent, hrest⟩ := List.forall_mem_cons.1 hfits
      obtain ⟨middle, hstep, hrun⟩ := exists_of_bind_eq_ok hrun
      exact ih (h.step hevent hstep) hrest hrun

theorem agree_optionTable {words : List String} {general : GeneralOptions} {options : CheckOptions}
    (h : readRequest words = .run general (.check options)) :
    Agree options (optionTable words) := by
  obtain ⟨read, hread, hcommand⟩ := exists_of_readRequest h
  obtain ⟨texts, options, htexts, hoptions, heq⟩ | ⟨_, _, _, _, heq⟩ | ⟨_, _, _, _, heq⟩ :=
    readCommand_cases hcommand
  case inr.inl | inr.inr => cases heq
  cases heq
  have hwords : commandWords words = texts := by
    rw [commandWords, hread]
    exact congrArg List.tail htexts
  rw [optionTable, hwords]
  exact agree_start.run (fits_read checkGrammar texts) (foldlM_of_interpret hoptions)

/-! ## The check -/

/-- What a table that agrees with options says about a check. -/
theorem inputOfTable_of_agree {options : CheckOptions} {table : Table} {tag : String}
    (h : Agree options table) (htag : options.tag = some tag) :
    TagSpec.inputOfTable table =
      { inputOfOptions options tag with
        tokens := TagSpec.splitTokens ((options.tokens.map .string).getD .null) } := by
  simp only [TagSpec.inputOfTable, inputOfOptions, h.tag, h.format, h.tagSeverity, h.severity,
    h.tokens, h.literal, h.id, htag, Option.map_some, Option.getD_some, Option.getD_none]

theorem checks_singleton [Unicode.CharacterNames] {table : Table} (hid : table.get? "id" = none) :
    Config.checks [("checks", .list [.table table])] = do
      let spec ← TagSpec.ofTable table
      return [spec] := by
  have hhas : table.has "id" = false := by rw [Table.has, hid]; rfl
  have hnamed : TagSpec.inputOfTable (table.set "id" (.string (Config.defaultCheckName 1 0))) =
      TagSpec.inputOfTable table := by
    simp [TagSpec.inputOfTable, hid, Config.defaultCheckName]
  have hcheck : Config.checkOfValue 1 0 (.table table) = TagSpec.ofTable table := by
    simp only [Config.checkOfValue, hhas, TagSpec.ofTable, hnamed, Bool.false_eq_true, if_false]
  simp [Config.checks, Table.get?, hcheck]

/-- The tag or the format of a check cannot be used, which is found before the kinds are read. -/
def RefusedEarly [Unicode.CharacterNames] (input : SpecInput) : Prop :=
  ∀ tag format, TagSpec.readTag input = .ok tag → TagSpec.readFormat input ≠ .ok format

theorem refuse_of_severity_error {value : Value} {failure : Failure}
    (h : Severity.ofValue value = .error failure) :
    refuse (.unknownSeverity value) = (.error failure : Except Failure Severity) := by
  unfold Severity.ofValue at h
  dsimp only at h
  split at h
  · cases h
  · exact h

section
variable {input : SpecInput} {tag : Option Tag} {format : Option Pattern}

theorem ofInput_of_no_list [Unicode.CharacterNames] (htag : TagSpec.readTag input = .ok tag)
    (hformat : TagSpec.readFormat input = .ok format) (htokens : input.tokens = .list [])
    (hid : input.id.isOverlong = false) :
    TagSpec.ofInput input = .error (.refused (.noTokens input.id)) := by
  have hshown : (ConfigFault.noTokens input.id).isOverlong = false := by
    simp [ConfigFault.isOverlong, ConfigFault.shown, hid]
  have hkinds : TagSpec.readTokens input = .error (.refused (.noTokens input.id)) := by
    have hrefuse : TagSpec.readTokens input = refuse (.noTokens input.id) := by
      simp only [TagSpec.readTokens, htokens]
      rfl
    rw [hrefuse, refuse, hshown]
    rfl
  rw [TagSpec.ofInput, htag, hformat, hkinds]
  rfl

theorem ofInput_ne_noTokens [Unicode.CharacterNames] (htag : TagSpec.readTag input = .ok tag)
    (hformat : TagSpec.readFormat input = .ok format) (htokens : input.tokens = .null)
    (id : Value) : TagSpec.ofInput input ≠ .error (.refused (.noTokens id)) := by
  have hkinds : TagSpec.readTokens input = .ok DeclarationKind.types := by
    rw [TagSpec.readTokens, htokens]
  intro h
  obtain herror | ⟨_, _, h⟩ := of_bind_eq_error h
  · cases htag.symm.trans herror
  obtain herror | ⟨_, _, h⟩ := of_bind_eq_error h
  · cases hformat.symm.trans herror
  obtain herror | ⟨_, _, h⟩ := of_bind_eq_error h
  · cases hkinds.symm.trans herror
  have hseverity {value : Value} :
      Severity.ofValue value ≠ .error (.refused (.noTokens id)) := by
    intro herror
    have hrefuse := refuse_of_severity_error herror
    unfold refuse at hrefuse
    split at hrefuse
    · cases hrefuse
    · cases hrefuse
  obtain herror | ⟨_, _, h⟩ := of_bind_eq_error h
  · exact hseverity herror
  obtain herror | ⟨_, _, h⟩ := of_bind_eq_error h
  · exact hseverity herror
  · cases h

/-- What is read before the kinds does not depend on them. -/
theorem ofInput_of_refusedEarly [Unicode.CharacterNames] (h : RefusedEarly input) (tokens : Value) :
    TagSpec.ofInput { input with tokens } = TagSpec.ofInput input := by
  have htagOf : TagSpec.readTag { input with tokens } = TagSpec.readTag input := rfl
  have hformatOf : TagSpec.readFormat { input with tokens } = TagSpec.readFormat input := rfl
  rw [TagSpec.ofInput, TagSpec.ofInput, htagOf, hformatOf]
  cases htag : TagSpec.readTag input with
  | error failure => rfl
  | ok tag =>
      cases hformat : TagSpec.readFormat input with
      | error failure => rfl
      | ok format => exact absurd hformat (h tag format htag)

/-- A check without kinds of its own is not refused as one with an empty list of kinds is, unless
both are refused early. -/
theorem ofInput_no_kinds_iff [Unicode.CharacterNames] (input : SpecInput)
    (hid : input.id.isOverlong = false) :
    TagSpec.ofInput { input with tokens := .null } =
        TagSpec.ofInput { input with tokens := .list [] } ↔ RefusedEarly input := by
  constructor
  · intro h tag format htag hformat
    have hrefused :=
      @ofInput_of_no_list { input with tokens := .list [] } _ _ _ htag hformat rfl hid
    exact @ofInput_ne_noTokens { input with tokens := .null } _ _ _ htag hformat rfl _
      (h.trans hrefused)
  · intro h
    exact (ofInput_of_refusedEarly h .null).trans (ofInput_of_refusedEarly h (.list [])).symm

end

theorem singleton_inj {ε α : Type} {x y : Except ε α} :
    (do let a ← x; return [a]) = (do let a ← y; return [a]) ↔ x = y := by
  cases x <;> cases y <;> simp [bind, Except.bind, pure, Except.pure]

theorem tokens_inputOfOptions {options : CheckOptions} (h : options.tokens ≠ some "")
    (tag : String) : (inputOfOptions options tag).tokens =
      TagSpec.splitTokens ((options.tokens.map .string).getD .null) := by
  cases htokens : options.tokens with
  | none => simp [inputOfOptions, htokens, TagSpec.splitTokens]
  | some text =>
      have htext : text.isEmpty = false := by
        rw [String.isEmpty_eq_false_iff]
        rintro rfl
        exact h htokens
      simp [inputOfOptions, htokens, htext]

theorem tokens_inputOfOptions_empty {options : CheckOptions} (h : options.tokens = some "")
    (tag : String) : (inputOfOptions options tag).tokens = .null := by
  simp [inputOfOptions, h]

theorem splitTokens_empty : TagSpec.splitTokens (.string "") = .list [] := by
  cbv

/-- The check that the options of a command line describe is the check of the table with the same
values: the same specification, or the same failure. It is another one only if the option for the
kinds is given without any text and the tag and the format can be used. -/
theorem checksFor_eq_checks_iff [Unicode.CharacterNames] {words : List String}
    {general : GeneralOptions}
    {options : CheckOptions} (hwords : readRequest words = .run general (.check options))
    (htag : (optionTable words).has "tag") (config : Table) :
    checksFor options config = Config.checks [("checks", .list [.table (optionTable words)])] ↔
      ((optionTable words).get? "tokens" = some (.string "") →
        RefusedEarly (TagSpec.inputOfTable (optionTable words))) := by
  have hagree := agree_optionTable hwords
  obtain ⟨tag, hoption⟩ : ∃ tag, options.tag = some tag := by
    rw [Table.has, hagree.tag, Option.isSome_map] at htag
    exact Option.isSome_iff_exists.1 htag
  have hinput := inputOfTable_of_agree hagree hoption
  rw [checks_singleton hagree.id, TagSpec.ofTable, checksFor, hoption, singleton_inj, hinput,
    hagree.tokens]
  by_cases htokens : options.tokens = some ""
  · have hnull :
        { inputOfOptions options tag with tokens := .null } = inputOfOptions options tag := by
      rw [← tokens_inputOfOptions_empty htokens tag]
    have hkinds := ofInput_no_kinds_iff (inputOfOptions options tag) rfl
    rw [hnull] at hkinds
    rw [htokens, Option.map_some, Option.getD_some, splitTokens_empty, hkinds]
    exact ⟨fun hrefused _ => hrefused, fun hrefused => hrefused rfl⟩
  · rw [← tokens_inputOfOptions htokens tag]
    refine iff_of_true rfl fun hempty => ?_
    obtain ⟨text, htext, hstring⟩ := Option.map_eq_some_iff.1 hempty
    cases hstring
    exact absurd htext htokens

/-! ## Two command lines -/

open scoped Unicode.CharacterNames

def literalWords : List String :=
  ["-q", "check", "--tag", "@a.b", "--tokens", "method,class", "--literal"]

def literalTable : Table :=
  [("tag", .string "@a.b"), ("tokens", .string "method,class"), ("literal", .bool true)]

theorem read_literalWords : generalGrammar.read literalWords =
    { events :=
        [.switch ⟨.quiet, ["-q", "--quiet"], .nothing⟩ none, .operands literalWords.tail] } := by
  have hwords : generalGrammar.readWords literalWords = .ok
      [.switch "-q" ⟨.quiet, ["-q", "--quiet"], .nothing⟩ "-q" none, .plain "check",
        .unknownSwitch "--tag", .plain "@a.b", .unknownSwitch "--tokens", .plain "method,class",
        .unknownSwitch "--literal"] := by
    rfl
  rw [Grammar.read, hwords]
  cbv

theorem optionTable_literalWords : optionTable literalWords = literalTable := by
  rw [optionTable, commandWords, read_literalWords]
  cbv

theorem readRequest_literalWords : readRequest literalWords =
    .run { quiet := true }
      (.check { tag := some "@a.b", tokens := some "method,class", literal := true }) := by
  rw [readRequest, read_literalWords]
  cbv

theorem checksFor_eq_checks_literalWords :
    readRequest literalWords = .run { quiet := true }
        (.check { tag := some "@a.b", tokens := some "method,class", literal := true }) ∧
      (optionTable literalWords).has "tag" ∧
      checksFor { tag := some "@a.b", tokens := some "method,class", literal := true } [] =
        Config.checks [("checks", .list [.table (optionTable literalWords)])] := by
  have htag : (optionTable literalWords).has "tag" := by
    rw [optionTable_literalWords]
    decide
  have htokens : (optionTable literalWords).get? "tokens" ≠ some (.string "") := by
    rw [optionTable_literalWords]
    simp [literalTable]
  refine ⟨readRequest_literalWords, htag, ?_⟩
  exact (checksFor_eq_checks_iff readRequest_literalWords htag []).2 fun h => absurd h htokens

def kindlessWords : List String :=
  ["check", "--tag", "@x", "--tokens", ""]

theorem read_kindlessWords : generalGrammar.read kindlessWords =
    { events := [.operands kindlessWords] } := by
  have hwords : generalGrammar.readWords kindlessWords = .ok
      [.plain "check", .unknownSwitch "--tag", .plain "@x", .unknownSwitch "--tokens",
        .plain ""] := by
    rfl
  rw [Grammar.read, hwords]
  cbv

/-- An option for the kinds without any text is taken for none; a table with the same value is
refused. -/
theorem not_agree_on_no_kinds :
    readRequest kindlessWords = .run {} (.check { tag := some "@x", tokens := some "" }) ∧
      optionTable kindlessWords = [("tag", .string "@x"), ("tokens", .string "")] ∧
      (∃ specs, checksFor { tag := some "@x", tokens := some "" } [] = .ok specs) ∧
      Config.checks [("checks", .list [.table (optionTable kindlessWords)])] =
        .error (.refused (.noTokens (.string "WriteTag"))) := by
  have htable : optionTable kindlessWords = [("tag", .string "@x"), ("tokens", .string "")] := by
    rw [optionTable, commandWords, read_kindlessWords]
    cbv
  have hspecs : checksFor { tag := some "@x", tokens := some "" } [] =
      .ok [⟨some ⟨"@x", TagPattern.literal "@x"⟩, none, .info, .error, DeclarationKind.types,
        .string "WriteTag"⟩] := by
    cbv
  refine ⟨?_, htable, ⟨_, hspecs⟩, ?_⟩
  · rw [readRequest, read_kindlessWords]
    cbv
  · rw [htable]
    cbv

end JavadocTags.CommandLine
