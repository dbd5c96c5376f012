import JavadocTags.Config.Settings
import JavadocTags.Proofs.Outcome
import JavadocTags.Proofs.Text.CommaItems

/-!
# Lists written as one text

A list of texts may be written as one text in which the items stand between commas. The lists of
the scan section and the kinds of a check are read from such a text as from the list itself, and
what is refused of the one is refused of the other in the same words.
-/
namespace JavadocTags.Config

inductive ScanList where
  | paths
  | includes
  | excludes
deriving DecidableEq, Repr

namespace ScanList

def key : ScanList → String
  | paths => "paths"
  | includes => "include"
  | excludes => "exclude"

def name : ScanList → String
  | paths => "scan.paths"
  | includes => "scan.include"
  | excludes => "scan.exclude"

def of (settings : ScanSettings) : ScanList → List String
  | paths => settings.paths
  | includes => settings.includes
  | excludes => settings.excludes

def read (scan : Table) (list : ScanList) : Except Failure (List String) :=
  textList list.name (valueOr scan defaultScan list.key)

@[simp] theorem key_inj {list other : ScanList} : list.key = other.key ↔ list = other := by
  cases list <;> cases other <;> decide

theorem read_set (scan : Table) (list other : ScanList) (value : Value) :
    list.read (scan.set other.key value) =
      if list = other then textList list.name value else list.read scan := by
  rw [read, valueOr, Table.get?_set]
  by_cases h : list = other
  · rw [if_pos h, if_pos (key_inj.2 h), Option.getD_some]
  · rw [if_neg h, if_neg (mt key_inj.1 h), read, valueOr]

end ScanList

def withScan (config scan : Table) : Table :=
  config.set "scan" (.table scan)

theorem scanSettings_withScan (config scan : Table) :
    scanSettings (withScan config scan) = do
      let paths ← ScanList.paths.read scan
      let includes ← ScanList.includes.read scan
      let excludes ← ScanList.excludes.read scan
      return { paths, includes, excludes } := by
  have hsection : sectionTable (withScan config scan) "scan" = .ok scan := by
    rw [sectionTable, withScan, Table.get?_set, if_pos rfl]
    rfl
  rw [scanSettings, hsection]
  rfl

theorem scanSettings_withScan_eq_ok_iff {config scan : Table} {settings : ScanSettings} :
    scanSettings (withScan config scan) = .ok settings ↔
      ∀ list : ScanList, list.read scan = .ok (list.of settings) := by
  rw [scanSettings_withScan]
  constructor
  · intro h list
    obtain ⟨paths, hpaths, h⟩ := exists_of_bind_eq_ok h
    obtain ⟨includes, hincludes, h⟩ := exists_of_bind_eq_ok h
    obtain ⟨excludes, hexcludes, h⟩ := exists_of_bind_eq_ok h
    cases h
    cases list with
    | paths => exact hpaths
    | includes => exact hincludes
    | excludes => exact hexcludes
  · intro h
    rw [h .paths, h .includes, h .excludes]
    rfl

/-! ## Texts and lists -/

/-- A text in which items stand between commas, with blanks around them and any number of blank
pieces besides. -/
def CommaText (items : List String) (text : String) : Prop :=
  Text.CommaSeparated (items.map String.toList) text.toList

def listValue (items : List String) : Value :=
  .list (items.map .string)

@[simp]
theorem texts?_map_string (items : List String) : texts? (items.map .string) = some items := by
  induction items with
  | nil => rfl
  | cons item items ih =>
      rw [List.map_cons, texts?, ih]
      rfl

@[simp] theorem textList_listValue (name : String) (items : List String) :
    textList name (listValue items) = .ok items := by
  simp only [textList, listValue, texts?_map_string]

variable {items : List String} {text : String}

theorem CommaText.ofList_commaItems (h : CommaText items text) :
    (Text.commaItems text.toList).map String.ofList = items := by
  rw [Text.commaItems_of_commaSeparated h, List.map_map]
  exact List.map_id'' (fun _ => String.ofList_toList) items

theorem CommaText.textList_eq (h : CommaText items text) (name : String) :
    textList name (.string text) = .ok items := by
  rw [textList, h.ofList_commaItems]

theorem CommaText.splitTokens_eq (h : CommaText items text) :
    TagSpec.splitTokens (.string text) = TagSpec.splitTokens (listValue items) := by
  have hitems : ((Text.commaItems text.toList).map String.ofList).map Value.string =
      items.map .string := congrArg (List.map Value.string) h.ofList_commaItems
  rw [List.map_map] at hitems
  exact congrArg Value.list hitems

/-- The value of a key other than the kinds does not depend on the kinds. -/
@[simp] theorem inputOfTable_set_tokens (table : Table) (value : Value) :
    TagSpec.inputOfTable (table.set "tokens" value) =
      { TagSpec.inputOfTable table with tokens := TagSpec.splitTokens value } := by
  simp [TagSpec.inputOfTable]

/-- A list and a text in which its items stand between commas say the same, as each list of the
scan section and as the kinds of a check. Read from a scan section that can be read otherwise, they
give the list itself and leave the other lists as they are; what a check says of its kinds, be it
their set or why they are refused, is the same for both. -/
theorem commaText_reads_as_list [Unicode.CharacterNames] (h : CommaText items text) :
    (∀ (config scan : Table) (list : ScanList),
      scanSettings (withScan config (scan.set list.key (.string text))) =
        scanSettings (withScan config (scan.set list.key (listValue items))) ∧
      ∀ settings, scanSettings (withScan config scan) = .ok settings →
        ∃ reread, scanSettings (withScan config (scan.set list.key (.string text))) = .ok reread ∧
          ∀ other : ScanList, other.of reread = if other = list then items else other.of settings) ∧
    ∀ table : Table, TagSpec.ofTable (table.set "tokens" (.string text)) =
      TagSpec.ofTable (table.set "tokens" (listValue items)) := by
  refine ⟨fun config scan list => ⟨?_, fun settings hsettings => ?_⟩, fun table => ?_⟩
  · have hread : ∀ other : ScanList, other.read (scan.set list.key (.string text)) =
        other.read (scan.set list.key (listValue items)) := by
      intro other
      rw [ScanList.read_set, ScanList.read_set, h.textList_eq, textList_listValue]
    rw [scanSettings_withScan, scanSettings_withScan, hread, hread, hread]
  · rw [scanSettings_withScan_eq_ok_iff] at hsettings
    let chosen (other : ScanList) : List String := if other = list then items else other.of settings
    refine ⟨⟨chosen .paths, chosen .includes, chosen .excludes⟩, ?_, ?_⟩
    · rw [scanSettings_withScan_eq_ok_iff]
      intro other
      have hchosen : other.read (scan.set list.key (.string text)) = .ok (chosen other) := by
        rw [ScanList.read_set, h.textList_eq, hsettings]
        simp only [chosen]
        split <;> rfl
      cases other <;> exact hchosen
    · intro other
      cases other <;> rfl
  · rw [TagSpec.ofTable, TagSpec.ofTable, inputOfTable_set_tokens, inputOfTable_set_tokens,
      h.splitTokens_eq]

open scoped Unicode.CharacterNames

/-- Two items with blanks of several kinds and blank pieces around them. -/
def spacedText : String := " src/main ,,\t a b\u00A0,  ,"

theorem commaText_spacedText : CommaText ["src/main", "a b"] spacedText := by
  have hfirst : Text.IsCommaItem "src/main".toList :=
    ⟨by decide, by decide, by rintro c ⟨⟩; rfl, by rintro c ⟨⟩; rfl⟩
  have hsecond : Text.IsCommaItem "a b".toList :=
    ⟨by decide, by decide, by rintro c ⟨⟩; rfl, by rintro c ⟨⟩; rfl⟩
  refine ⟨[" src/main ".toList, [], "\t a b\u00A0".toList, "  ".toList, []], ?_, by decide⟩
  have hspace : Text.isBlankText [' '] = true := rfl
  have htab : Text.isBlankText ['\t', ' '] = true := rfl
  have hwide : Text.isBlankText ['\u00A0'] = true := rfl
  refine .item hspace hspace hfirst (.blank rfl ?_)
  exact .item htab hwide hsecond (.blank rfl (.blank rfl .nil))

/-- The text is read as the list of its two items, and means the same as the list for the kinds. -/
theorem commaText_reads_as_list_spacedText :
    CommaText ["src/main", "a b"] spacedText ∧
      scanSettings (withScan [] [("paths", .string spacedText)]) =
        .ok ⟨["src/main", "a b"], ["*.java"], []⟩ ∧
      TagSpec.ofTable [("tag", .string "@a"), ("tokens", .string spacedText)] =
        TagSpec.ofTable [("tag", .string "@a"), ("tokens", listValue ["src/main", "a b"])] := by
  have hsame := commaText_reads_as_list commaText_spacedText
  refine ⟨commaText_spacedText, ?_, ?_⟩
  · obtain ⟨reread, hreread, hlists⟩ := (hsame.1 [] [] .paths).2 ⟨["."], ["*.java"], []⟩ (by rfl)
    have hpaths := hlists .paths
    have hincludes := hlists .includes
    have hexcludes := hlists .excludes
    simp only [ScanList.of, if_true, reduceCtorEq, if_false] at hpaths hincludes hexcludes
    rw [← hpaths, ← hincludes, ← hexcludes]
    exact hreread
  · have htable (value : Value) : Table.set "tokens" value [("tag", .string "@a")] =
        [("tag", .string "@a"), ("tokens", value)] := by rfl
    have htokens := hsame.2 [("tag", .string "@a")]
    rwa [htable, htable] at htokens

end JavadocTags.Config
