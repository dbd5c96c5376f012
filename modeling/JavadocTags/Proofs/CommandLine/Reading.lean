import JavadocTags.CommandLine.Request
import JavadocTags.Proofs.Outcome

/-!
# What a command line is read as

Whatever holds of all that a single word says holds of all that is read. So a switch that is read is
one of the grammar, whatever the words are, and comes with a value exactly if it takes one. A
command that is run has been read without a misuse.
-/
namespace JavadocTags.CommandLine

variable {κ : Type} {grammar : Grammar κ}

/-- The switch of a word is one of the grammar, under the name that the word has for it. -/
def Word.Fits (grammar : Grammar κ) : Word κ → Prop
  | .switch _ used name _ => (name, used) ∈ grammar.byName
  | _ => True

def Event.Fits (grammar : Grammar κ) : Event κ → Prop
  | .switch used value => used ∈ grammar.switches ∧ (value = none ↔ used.value = .nothing)
  | .operands _ => True

namespace Grammar

theorem mem_switches_of_mem_byName {name : String} {switch : Switch κ}
    (h : (name, switch) ∈ grammar.byName) : switch ∈ grammar.switches := by
  obtain ⟨other, hother, h⟩ := List.mem_flatMap.1 h
  obtain ⟨_, _, h⟩ := List.mem_map.1 h
  cases h
  exact hother

theorem mem_byName_of_find {name : String} {switch : Switch κ}
    (h : grammar.find? name = some switch) : (name, switch) ∈ grammar.byName := by
  obtain ⟨before, after, hbyName, _⟩ := List.lookup_eq_some_iff.1 h
  rw [hbyName]
  exact List.mem_append_right before List.mem_cons_self

theorem mem_byName_of_mem_candidates {text name : String} {switch : Switch κ}
    {attached : Option Attached} (h : (name, switch, attached) ∈ grammar.candidates text) :
    (name, switch) ∈ grammar.byName := by
  unfold candidates at h
  split at h
  · dsimp only at h
    obtain ⟨⟨name, other⟩, hmem, h⟩ := List.mem_filterMap.1 h
    dsimp only at h
    split at h
    · cases h
      exact hmem
    · cases h
  · obtain ⟨⟨name, other⟩, hmem, h⟩ := List.mem_filterMap.1 h
    dsimp only at h
    split at h
    · cases h
      exact hmem
    · split at h
      · cases h
        exact hmem
      · cases h
  · cases h

theorem fits_of_readSwitch {text : String} {word : Word κ}
    (h : grammar.readSwitch text = .ok word) : word.Fits grammar := by
  unfold readSwitch at h
  dsimp only at h
  split at h
  next hfind =>
    cases h
    exact mem_byName_of_find hfind
  next =>
    split at h
    next hcandidates =>
      cases h
      exact mem_byName_of_mem_candidates (hcandidates ▸ List.mem_singleton_self _)
    next =>
      split at h
      · cases h; exact trivial
      · cases h; exact trivial
    next => cases h

theorem fits_of_readWord {text : String} {word : Word κ} (h : grammar.readWord text = .ok word) :
    word.Fits grammar := by
  unfold readWord at h
  split at h
  next hfind =>
    cases h
    exact mem_byName_of_find hfind
  next =>
    split at h
    · exact fits_of_readSwitch h
    · cases h; exact trivial

theorem fits_of_readWords {texts : List String} {words : List (Word κ)}
    (h : grammar.readWords texts = .ok words) : ∀ word ∈ words, word.Fits grammar := by
  induction texts generalizing words with
  | nil =>
      cases h
      exact List.forall_mem_nil _
  | cons text rest ih =>
      rw [readWords] at h
      split at h
      · cases h
        refine List.forall_mem_cons.2 ⟨trivial, fun word hword => ?_⟩
        obtain ⟨plain, _, rfl⟩ := List.mem_map.1 hword
        exact trivial
      · obtain ⟨word, hword, h⟩ := exists_of_bind_eq_ok h
        obtain ⟨others, hothers, h⟩ := exists_of_bind_eq_ok h
        cases h
        exact List.forall_mem_cons.2 ⟨fits_of_readWord hword, ih hothers⟩

end Grammar

/-! ## Events -/

theorem fits_operands (values : List String) : (Event.operands values).Fits grammar :=
  trivial

theorem fits_flag {used : Switch κ} (h : used ∈ grammar.switches) (hvalue : used.value = .nothing) :
    (Event.switch used none).Fits grammar :=
  ⟨h, iff_of_true rfl hvalue⟩

theorem fits_valued {used : Switch κ} (h : used ∈ grammar.switches) (hvalue : used.value ≠ .nothing)
    (value : String) : (Event.switch used (some value)).Fits grammar :=
  ⟨h, iff_of_false (Option.some_ne_none value) hvalue⟩

/-- What a cluster says fits, and the switch that awaits its value will. -/
structure Cluster.Fits (grammar : Grammar κ) (cluster : Cluster κ) : Prop where
  events : ∀ event ∈ cluster.events, event.Fits grammar
  awaiting : ∀ used, cluster.awaiting = some used →
    used ∈ grammar.switches ∧ used.value ≠ .nothing

theorem fits_of_readCluster {room : Nat} {used : Switch κ} {name : String}
    {attached : Option Attached} {cluster : Cluster κ} (hused : used ∈ grammar.switches)
    (h : readCluster grammar room used name attached = .ok cluster) : cluster.Fits grammar := by
  fun_induction readCluster grammar room used name attached generalizing cluster with
  | case1 _ used _ hvalue =>
      cases h
      exact ⟨List.forall_mem_singleton.2 (fits_flag hused hvalue), nofun⟩
  | case2 => cases h
  | case3 used _ _ hvalue =>
      cases h
      exact ⟨List.forall_mem_singleton.2 (fits_flag hused hvalue), nofun⟩
  | case4 used _ _ hvalue =>
      rename_i hfind ih
      obtain ⟨rest, hrest, h⟩ := exists_of_bind_eq_ok h
      cases h
      have hother := Grammar.mem_switches_of_mem_byName (Grammar.mem_byName_of_find hfind)
      have hfits := ih hother hrest
      exact ⟨List.forall_mem_cons.2 ⟨fits_flag hused hvalue, hfits.events⟩, hfits.awaiting⟩
  | case5 => cases h
  | case6 _ used _ hvalue =>
      cases h
      refine ⟨List.forall_mem_nil _, fun other hother => ?_⟩
      cases hother
      exact ⟨hused, hvalue⟩
  | case7 _ used _ _ hvalue =>
      cases h
      exact ⟨List.forall_mem_singleton.2 (fits_valued hused hvalue _), nofun⟩

/-! ## All that is read -/

/-- What is known of words, and what holds because of that of the events that they give. -/
structure Carries (grammar : Grammar κ) (known : Word κ → Prop) (holds : Event κ → Prop) :
    Prop where
  cluster : ∀ {text used name attached cluster}, known (.switch text used name attached) →
    readCluster grammar text.length used name attached = .ok cluster →
    (∀ event ∈ cluster.events, holds event) ∧
      ∀ other value, cluster.awaiting = some other → holds (.switch other (some value))
  operands : ∀ {words}, (∀ word ∈ words, known word) →
    holds (.operands (grammar.operands.values words))

namespace Carries
variable {known : Word κ → Prop} {holds : Event κ → Prop}

theorem atEnd (h : Carries grammar known holds) :
    ∀ event ∈ (grammar.operands.atEnd : Reading κ).events, holds event := by
  have hnone := h.operands (List.forall_mem_nil known)
  cases hoperands : grammar.operands with
  | many =>
      rw [hoperands] at hnone
      exact List.forall_mem_singleton.2 hnone
  | none | one | command => exact List.forall_mem_nil _

theorem readFrom (h : Carries grammar known holds) (taken : Bool) {words : List (Word κ)}
    (hwords : ∀ word ∈ words, known word) :
    ∀ event ∈ (readFrom grammar taken words).events, holds event := by
  fun_induction CommandLine.readFrom grammar taken words with
  | case1 => exact List.forall_mem_nil _
  | case2 => exact h.atEnd
  | case3 => exact List.forall_mem_nil _
  | case4 _ _ _ _ _ _ cluster hcluster _ ih =>
      obtain ⟨hused, hrest⟩ := List.forall_mem_cons.1 hwords
      exact List.forall_mem_append.2 ⟨(h.cluster hused hcluster).1, ih hrest⟩
  | case5 _ _ _ _ _ cluster hcluster other hawaiting value _ ih =>
      obtain ⟨hused, hrest⟩ := List.forall_mem_cons.1 hwords
      obtain ⟨hevents, hlast⟩ := h.cluster hused hcluster
      have hlast := List.forall_mem_singleton.2 (hlast other value hawaiting)
      exact List.forall_mem_append.2
        ⟨List.forall_mem_append.2 ⟨hevents, hlast⟩, ih (List.forall_mem_cons.1 hrest).2⟩
  | case6 => exact List.forall_mem_nil _
  | case7 _ _ _ ih => exact ih (List.forall_mem_cons.1 hwords).2
  | case8 _ _ _ _ _ _ ih => exact ih (List.forall_mem_cons.1 hwords).2
  | case9 _ word rest _ _ n _ _ ih =>
      have hrest : ∀ word ∈ rest.drop n, known word := fun word hword =>
        (List.forall_mem_cons.1 hwords).2 word (List.mem_of_mem_drop hword)
      have htaken : ∀ taken ∈ (word :: rest).take (n + 1), known taken := fun taken htaken =>
        hwords taken (List.mem_of_mem_take htaken)
      exact List.forall_mem_cons.2 ⟨h.operands htaken, ih hrest⟩

/-- All that is read of a command line holds, if what is known holds of all of its words. -/
theorem read (h : Carries grammar known holds) {texts : List String}
    (htexts : ∀ words, grammar.readWords texts = .ok words → ∀ word ∈ words, known word) :
    ∀ event ∈ (grammar.read texts).events, holds event := by
  unfold Grammar.read
  split
  next => exact List.forall_mem_nil _
  next words hwords =>
    have hall := h.readFrom false (htexts words hwords)
    unfold Reading.checked
    dsimp only
    split
    · exact hall
    · exact fun event hevent => hall event ((List.takeWhile_sublist _).mem hevent)

end Carries

/-- Whatever the words are, what is read of them fits the grammar. -/
theorem fits_read (grammar : Grammar κ) (texts : List String) :
    ∀ event ∈ (grammar.read texts).events, event.Fits grammar := by
  have hcarries : Carries grammar (Word.Fits grammar) (Event.Fits grammar) := by
    refine ⟨fun hused hcluster => ?_, fun _ => fits_operands _⟩
    have hfits := fits_of_readCluster (Grammar.mem_switches_of_mem_byName hused) hcluster
    refine ⟨hfits.events, fun other value hawaiting => ?_⟩
    obtain ⟨hother, hvalue⟩ := hfits.awaiting other hawaiting
    exact fits_valued hother hvalue value
  exact hcarries.read fun _ => Grammar.fits_of_readWords

/-! ## Requests -/

section
variable {κ α : Type} {step : α → Event κ → Except String α} {start : α} {reading : Reading κ}
  {manual : Manual} {general : GeneralOptions} {command : Command}

theorem foldlM_of_interpret {final : α} (h : interpret step start reading manual = .ok final) :
    reading.events.foldlM step start = .ok final := by
  unfold interpret at h
  split at h
  next => cases h
  next hrun =>
    split at h
    · cases h
    · exact hrun.trans (congrArg Except.ok (Except.ok.inj h))

theorem interpret_ne_run : interpret step start reading manual ≠ .error (.run general command) := by
  intro h
  unfold interpret at h
  split at h
  · cases h
  · split at h
    · cases h
    · cases h

theorem readCommand_ne_run (words : List String) :
    readCommand words ≠ .error (.run general command) := by
  intro h
  unfold readCommand at h
  split at h
  case h_4 => cases h
  all_goals
    obtain hread | ⟨_, _, hread⟩ := of_bind_eq_error h
    · exact interpret_ne_run hread
    · cases hread

/-- A command that is run has been read without a misuse, and no word is left over. -/
theorem exists_of_readRequest {words : List String}
    (h : readRequest words = .run general command) :
    ∃ read, interpret generalStep {} (generalGrammar.read words) Manual.general = .ok read ∧
      readCommand read.command = .ok (some command, []) := by
  unfold readRequest at h
  dsimp only at h
  split at h
  next request hrequest =>
    subst h
    obtain ⟨read, hread, h⟩ := exists_of_bind_eq_ok hrequest
    obtain ⟨⟨found, unread⟩, hcommand, h⟩ := exists_of_bind_eq_ok h
    dsimp only at h
    split at h
    next hunread =>
      cases h
      rw [(List.append_eq_nil_iff.1 hunread).2] at hcommand
      exact ⟨read, hread, hcommand⟩
    next => cases h
    next => cases h
  next request hrequest =>
    subst h
    obtain hread | ⟨read, _, h⟩ := of_bind_eq_error hrequest
    · exact absurd hread interpret_ne_run
    · obtain hcommand | ⟨⟨_, _⟩, _, h⟩ := of_bind_eq_error h
      · exact absurd hcommand (readCommand_ne_run _)
      · dsimp only at h
        split at h <;> cases h

theorem readCommand_cases {words unread : List String}
    (h : readCommand words = .ok (some command, unread)) :
    (∃ texts options, words = "check" :: texts ∧
      interpret checkStep {} (checkGrammar.read texts) Manual.check = .ok options ∧
      command = .check options) ∨
    (∃ texts force, words = "init" :: texts ∧
      interpret initStep false (initGrammar.read texts) Manual.init = .ok force ∧
      command = .init force) ∨
    ∃ texts view, words = "config" :: texts ∧
      interpret configStep .settings (configGrammar.read texts) Manual.config = .ok view ∧
      command = .config view := by
  unfold readCommand at h
  split at h
  next texts =>
    obtain ⟨options, hread, h⟩ := exists_of_bind_eq_ok h
    cases h
    exact .inl ⟨texts, options, rfl, hread, rfl⟩
  next texts =>
    obtain ⟨force, hread, h⟩ := exists_of_bind_eq_ok h
    cases h
    exact .inr (.inl ⟨texts, force, rfl, hread, rfl⟩)
  next texts =>
    obtain ⟨view, hread, h⟩ := exists_of_bind_eq_ok h
    cases h
    exact .inr (.inr ⟨texts, view, rfl, hread, rfl⟩)
  next => cases h

end

end JavadocTags.CommandLine
