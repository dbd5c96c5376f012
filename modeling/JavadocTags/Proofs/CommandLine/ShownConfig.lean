import Mathlib
import JavadocTags.CommandLine.Program
import JavadocTags.Proofs.Config.Settled
import JavadocTags.Proofs.Files.Reading
import JavadocTags.Proofs.Text.Encoding

/-!
# The configuration that is shown

What is shown of the configuration is a configuration file again. It says more than the file that it
came from, the defaults and the variables included, and is settled over the defaults; so loading it
where no variables are set gives the same configuration. How TOML is read and written is not settled
here: all that is assumed of it is that the text of this one configuration is read back.
-/
namespace JavadocTags

/-- The written text of a table is read as the table, at most with its keys in another order, also
where it comes from a file, in which carriage returns would not be kept. -/
structure Toml.Format.ReadsBack (toml : Toml.Format) (config : Table) : Prop where
  no_return : ∀ text, toml.write config = .ok text → '\r' ∉ text.toList
  reads : ∀ text, toml.write config = .ok text →
    ∃ parsed, toml.read? text.toList = some parsed ∧
      (Value.table config).SameUpToOrder (.table parsed)

namespace Config
variable {config : Table} {environment : List (String × String)}

/-- No variable of the environment is one of the program. -/
def Unmarked (environment : List (String × String)) : Prop :=
  ∀ v ∈ environment, ¬ variableMark.toList <+: v.1.toList

theorem applyEnvironment_of_unmarked (h : Unmarked environment) (config : Table) :
    applyEnvironment config environment = .ok config := by
  induction environment with
  | nil => rfl
  | cons v rest ih =>
      obtain ⟨hfirst, hrest⟩ := List.forall_mem_cons.1 h
      have htarget : target? v.1 = none := by
        rw [target?, if_neg fun hmark => hfirst (List.isPrefixOf_iff_prefix.1 hmark)]
      have hstep : applyVariable config v.1 v.2 = .ok config := by rw [applyVariable, htarget]
      rw [applyEnvironment, List.foldlM_cons, hstep]
      exact ih hrest

/-- A file with the written text of a configuration says the same as the configuration. -/
theorem readFile_of_written {toml : Toml.Format} {tree : FileTree} {cwd : Location} {path : Path}
    {text : String} (hback : toml.ReadsBack config) (htext : toml.write config = .ok text)
    (hfile : tree.read cwd path = .ok text.toUTF8.toList) :
    ∃ parsed, readFile toml tree cwd path = .ok parsed ∧
      (Value.table config).SameUpToOrder (.table parsed) := by
  obtain ⟨parsed, hparsed, hsame⟩ := hback.reads text htext
  refine ⟨parsed, ?_, hsame⟩
  simp only [readFile, hfile, Text.Utf8.strict?_toUTF8 (hback.no_return text htext), hparsed]

end Config

namespace CommandLine
variable {options : GeneralOptions} {s : Surroundings} {config : Table} {words : List String}

/-- A configuration is shown as its TOML text, and the run breaks off where it has none. -/
theorem run_settings [Unicode.CharacterNames]
    (hwords : readRequest words = .run options (.config .settings))
    (hconfig : (loadConfig options s).outcome = .ok config) :
    (run s words).1.status = (s.toml.write config).map (fun _ => Answer.success) ∧
      ∀ text, s.toml.write config = .ok text → (run s words).1.out = text := by
  have hanswer : (run s words).1 = answerConfig options .settings s := by
    rw [run, hwords]
    rfl
  rw [hanswer]
  simp only [answerConfig, withConfig, hconfig]
  cases s.toml.write config with
  | error failure => exact ⟨rfl, fun text => nofun⟩
  | ok text =>
      refine ⟨rfl, fun other hother => ?_⟩
      rw [← Except.ok.inj hother]
      rfl

theorem loadConfig_of_configFile? {path : Path} {content : List UInt8}
    (hpath : configFile? options s = some path) (hfile : s.tree.read s.cwd path = .ok content) :
    loadConfig options s = Config.load s.toml s.tree s.cwd s.environment (some path) := by
  rw [configFile?] at hpath
  rw [loadConfig]
  cases hoption : options.config with
  | none =>
      rw [hoption, Option.none_or] at hpath
      simp only [hpath]
  | some named =>
      rw [hoption, Option.some_or, Option.some.injEq] at hpath
      subst hpath
      simp only [FileTree.exists_of_read hfile, if_true]

/-- The effective configuration is settled: laid over the defaults again, without variables, it is
the same. A run that shows a configuration writes its text, and so what is loaded from a file with
the text by which the effective configuration is shown is the same again, if this text is read
back. -/
theorem effective_settled [Unicode.CharacterNames] {user : Table}
    {environment : List (String × String)}
    (huser : (Value.table user).DistinctKeys)
    (h : Config.effective user environment = .ok config) :
    Config.effective config [] = .ok config ∧
      ∀ (words : List String) (options : GeneralOptions) (s : Surroundings) (text : String),
        readRequest words = .run options (.config .settings) →
        (loadConfig options s).outcome = .ok config → s.toml.write config = .ok text →
        (run s words).1.status = .ok Answer.success ∧ (run s words).1.out = text ∧
          (s.toml.ReadsBack config →
            ∀ (others : GeneralOptions) (t : Surroundings) (path : Path),
              t.toml = s.toml → configFile? others t = some path →
              t.tree.read t.cwd path = .ok text.toUTF8.toList →
              Config.Unmarked t.environment →
              ∃ reloaded, (loadConfig others t).outcome = .ok reloaded ∧
                (Value.table config).SameUpToOrder (.table reloaded)) := by
  have hsettled := Config.settled_effective huser h
  refine ⟨congrArg Except.ok hsettled.merge_eq, fun words options s text hwords hconfig htext => ?_⟩
  obtain ⟨hstatus, hout⟩ := run_settings hwords hconfig
  rw [htext] at hstatus
  refine ⟨hstatus, hout text htext, fun hback others t path htoml hpath hfile hunmarked => ?_⟩
  obtain ⟨parsed, hparsed, hsame⟩ := Config.readFile_of_written hback htext hfile
  refine ⟨Table.merge Config.defaults parsed, ?_, ?_⟩
  · rw [loadConfig_of_configFile? hpath hfile, htoml]
    simp only [Config.load, hparsed, Config.effective,
      Config.applyEnvironment_of_unmarked hunmarked]
    rfl
  · have hdefaults : ∀ below ∈ some (Value.table Config.defaults), below.DistinctKeys := by
      rintro below ⟨⟩
      exact Config.distinctKeys_defaults
    have hover := hsame.over hdefaults (by rw [Value.over_table, hsettled.merge_eq])
    rwa [Value.over_table] at hover

/-! ## A section that is a number, and a section from a variable -/

open scoped Unicode.CharacterNames

/-- A file in which a section of the defaults is a number. -/
def mixedTree : FileTree :=
  ⟨[([".tagcheck.toml"], .file "scan = 3\n".toUTF8.toList)]⟩

/-- A table in place of a text, and a section that is not there. -/
def mixedEnvironment : List (String × String) :=
  [("TAGCHECK_OUTPUT_FORMAT", "\x7b\"a\":1\x7d"), ("TAGCHECK_NEW_KEY", "true")]

def mixedConfig : Table :=
  [("scan", .int 3),
    ("output", .table [("format", .table [("a", .int 1)]), ("show_ignored", .bool false)]),
    ("checks", .list []), ("new", .table [("key", .bool true)])]

/-- The same with plain values before tables, as TOML has them. -/
def mixedParsed : Table :=
  [("scan", .int 3), ("checks", .list []),
    ("output", .table [("show_ignored", .bool false), ("format", .table [("a", .int 1)])]),
    ("new", .table [("key", .bool true)])]

def mixedText : String :=
  "scan = 3\nchecks = []\n\n[output]\nshow_ignored = false\n\n[output.format]\na = 1\n\n"
    ++ "[new]\nkey = true\n"

theorem effective_mixed :
    Config.effective [("scan", .int 3)] mixedEnvironment = .ok mixedConfig := by
  rfl

theorem isOverlong_eq_false {n : Int} (h : n.natAbs < 10) : Number.isOverlong n = false := by
  have hlimit (digits : Nat) (hdigits : digits ≠ 0) : 10 ≤ Nat.pow 10 digits :=
    Nat.le_self_pow hdigits 10
  rw [Number.isOverlong, decide_eq_false_iff_not, not_le]
  exact Nat.lt_of_lt_of_le h (hlimit _ (by decide))

theorem write_mixedConfig : Toml.standard.write mixedConfig = .ok mixedText := by
  have htext : Toml.write? mixedConfig = some mixedText := by cbv
  have hshort : (Value.table mixedConfig).isOverlong = false := by
    simp [mixedConfig, Value.isOverlong, Value.entriesOverlong, Value.itemsOverlong,
      isOverlong_eq_false]
  simp only [Toml.standard, Toml.standardText, htext, hshort, Bool.false_eq_true, if_false]

theorem read?_mixedText : Toml.standard.read? mixedText.toList = some mixedParsed := by
  have hread : Toml.read? mixedText.toList = some mixedParsed := by cbv
  simp only [Toml.standard, hread]

theorem sameUpToOrder_mixedConfig :
    (Value.table mixedConfig).SameUpToOrder (.table mixedParsed) := by
  have hkeys : (Table.keys mixedConfig).Perm (Table.keys mixedParsed) :=
    .cons _ (.swap _ _ _)
  have houtput : (Value.table
      [("format", .table [("a", .int 1)]), ("show_ignored", .bool false)]).SameUpToOrder
        (.table [("show_ignored", .bool false), ("format", .table [("a", .int 1)])]) :=
    .of_perm (by decide) (.swap _ _ _)
  refine .table hkeys fun key value other hvalue hother => ?_
  have hmem := Table.mem_of_get? hvalue
  simp only [mixedConfig, List.mem_cons, Prod.mk.injEq, List.not_mem_nil, or_false] at hmem
  obtain ⟨rfl, rfl⟩ | ⟨rfl, rfl⟩ | ⟨rfl, rfl⟩ | ⟨rfl, rfl⟩ := hmem
  · cases hother
    exact .refl _
  · cases hother
    exact houtput
  · cases hother
    exact .refl _
  · cases hother
    exact .refl _

theorem readsBack_mixedConfig : Toml.standard.ReadsBack mixedConfig := by
  have htext {text : String} (h : Toml.standard.write mixedConfig = .ok text) :
      text = mixedText := by
    rw [write_mixedConfig, Except.ok.injEq] at h
    exact h.symm
  constructor
  · intro text h
    rw [htext h]
    decide
  · intro text h
    rw [htext h]
    exact ⟨mixedParsed, read?_mixedText, sameUpToOrder_mixedConfig⟩

theorem loadConfig_mixedTree :
    (loadConfig {} ⟨mixedTree, [], mixedEnvironment, Toml.standard⟩).outcome =
      .ok mixedConfig := by
  have hread : mixedTree.read [] (.absolute [".tagcheck.toml"]) =
      .ok "scan = 3\n".toUTF8.toList := rfl
  have hpath : configFile? {} ⟨mixedTree, [], mixedEnvironment, Toml.standard⟩ =
      some (.absolute [".tagcheck.toml"]) := by rfl
  have htext : Text.Utf8.strict? "scan = 3\n".toUTF8.toList = some "scan = 3\n".toList := by cbv
  have htable : Toml.read? "scan = 3\n".toList = some [("scan", .int 3)] := by cbv
  rw [loadConfig_of_configFile? hpath hread]
  simp only [Config.load, Config.readFile, hread, htext, Toml.standard, htable, effective_mixed]
  rfl

/-- The settings are shown, saved and loaded again by their path. -/
theorem effective_settled_mixed :
    (Value.table [("scan", .int 3)]).DistinctKeys ∧
      Config.effective [("scan", .int 3)] mixedEnvironment = .ok mixedConfig ∧
      Config.effective mixedConfig [] = .ok mixedConfig ∧
      readRequest ["config", "show"] = .run {} (.config .settings) ∧
      Toml.standard.write mixedConfig = .ok mixedText ∧ Toml.standard.ReadsBack mixedConfig ∧
      Config.Unmarked [("HOME", "/root")] ∧
      let shown := (run ⟨mixedTree, [], mixedEnvironment, Toml.standard⟩ ["config", "show"]).1
      let saved : FileTree := ⟨[(["saved.toml"], .file mixedText.toUTF8.toList)]⟩
      shown.status = .ok Answer.success ∧ shown.out = mixedText ∧
        ∃ reloaded,
          (loadConfig { config := some (.ofText "saved.toml") }
            ⟨saved, [], [("HOME", "/root")], Toml.standard⟩).outcome = .ok reloaded ∧
          (Value.table mixedConfig).SameUpToOrder (.table reloaded) := by
  have huser : (Value.table [("scan", .int 3)]).DistinctKeys := by
    refine Value.distinctKeys_table_iff.2 ⟨by decide, ?_⟩
    exact List.forall_mem_singleton.2 (Value.distinctKeys_of_not_isTable (by simp [Value.IsTable]))
  have hwords : readRequest ["config", "show"] = .run {} (.config .settings) := by cbv
  have hunmarked : Config.Unmarked [("HOME", "/root")] :=
    List.forall_mem_singleton.2 (by decide)
  obtain ⟨hfixed, hshow⟩ := effective_settled huser effective_mixed
  obtain ⟨hstatus, hout, hreload⟩ := hshow _ _ _ _ hwords loadConfig_mixedTree write_mixedConfig
  refine ⟨huser, effective_mixed, hfixed, hwords, write_mixedConfig, readsBack_mixedConfig,
    hunmarked, hstatus, hout, ?_⟩
  exact hreload readsBack_mixedConfig _ _ _ rfl rfl rfl hunmarked

end CommandLine

end JavadocTags
