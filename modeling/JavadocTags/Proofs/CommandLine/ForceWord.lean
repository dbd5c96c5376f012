import Mathlib
import JavadocTags.Proofs.CommandLine.Reading

/-!
# The word for force

A configuration file is asked for with force only on a command line on which a word for it stands:
the name of the switch, or what it can be shortened to.
-/
namespace JavadocTags.CommandLine

/-! ## Words and their texts -/

section
variable {κ : Type} {grammar : Grammar κ} {texts : List String} {words : List (Word κ)}

theorem text_of_readWord {text : String} {word : Word κ} (h : grammar.readWord text = .ok word) :
    word.text = text := by
  have hswitch (hread : grammar.readSwitch text = .ok word) : word.text = text := by
    unfold Grammar.readSwitch at hread
    dsimp only at hread
    split at hread
    next => cases hread; rfl
    next =>
      split at hread
      next => cases hread; rfl
      next =>
        split at hread
        · cases hread; rfl
        · cases hread; rfl
      next => cases hread
  unfold Grammar.readWord at h
  split at h
  next => cases h; rfl
  next =>
    split at h
    · exact hswitch h
    · cases h; rfl

/-- The words have the texts that they are read from; only a text that is none of the marks of
operands is read as a switch. -/
theorem of_readWords (h : grammar.readWords texts = .ok words) :
    words.map Word.text = texts ∧
      ∀ text used name attached, .switch text used name attached ∈ words →
        text ≠ "--" ∧ grammar.readWord text = .ok (.switch text used name attached) := by
  induction texts generalizing words with
  | nil =>
      cases h
      exact ⟨rfl, fun _ _ _ _ => nofun⟩
  | cons text rest ih =>
      rw [Grammar.readWords] at h
      split at h
      next hmark =>
        cases h
        refine ⟨by simp [Word.text, hmark, Function.comp_def], fun _ _ _ _ hmem => ?_⟩
        simp at hmem
      next hmark =>
        obtain ⟨word, hword, h⟩ := exists_of_bind_eq_ok h
        obtain ⟨others, hothers, h⟩ := exists_of_bind_eq_ok h
        cases h
        obtain ⟨htexts, hswitches⟩ := ih hothers
        have htext := text_of_readWord hword
        refine ⟨by rw [List.map_cons, htext, htexts], fun other used name attached hmem => ?_⟩
        rcases List.mem_cons.1 hmem with rfl | hmem
        · obtain rfl : other = text := htext
          exact ⟨hmark, hword⟩
        · exact hswitches other used name attached hmem

theorem text_mem_of_readWords (h : grammar.readWords texts = .ok words) {word : Word κ}
    (hmem : word ∈ words) : word.text ∈ texts := by
  rw [← (of_readWords h).1]
  exact List.mem_map_of_mem hmem

theorem fst_splitAssignment {text : List Char} (h : (splitAssignment text).2 = none) :
    (splitAssignment text).1 = text := by
  unfold splitAssignment at h ⊢
  split at h
  next => rfl
  next => cases h

/-- Only a text that is short for the name of a switch is read as that switch without anything
attached. -/
theorem isPrefix_of_mem_candidates {text name : String}
    {used : Switch κ} (h : (name, used, none) ∈ grammar.candidates text) :
    (name, used) ∈ grammar.byName ∧ text.toList <+: name.toList := by
  unfold Grammar.candidates at h
  split at h
  next rest htext =>
    dsimp only at h
    obtain ⟨⟨found, other⟩, hmem, h⟩ := List.mem_filterMap.1 h
    dsimp only at h
    split at h
    next hprefix =>
      simp only [Option.some.injEq, Prod.mk.injEq, Option.map_eq_none_iff] at h
      obtain ⟨rfl, rfl, hvalue⟩ := h
      rw [fst_splitAssignment hvalue, ← htext] at hprefix
      exact ⟨hmem, List.isPrefixOf_iff_prefix.1 hprefix⟩
    next => cases h
  next letter rest htext =>
    obtain ⟨⟨found, other⟩, hmem, h⟩ := List.mem_filterMap.1 h
    dsimp only at h
    split at h
    next => cases h
    next =>
      split at h
      next hprefix =>
        cases h
        exact ⟨hmem, List.isPrefixOf_iff_prefix.1 hprefix⟩
      next => cases h
  next => cases h

theorem exists_switch_of_mem_cluster {room : Nat} {used : Switch κ} {name : String}
    {attached : Option Attached} {cluster : Cluster κ}
    (h : readCluster grammar room used name attached = .ok cluster) :
    ∀ event ∈ cluster.events, ∃ other value, event = .switch other value := by
  fun_induction readCluster grammar room used name attached generalizing cluster with
  | case1 => cases h; simp
  | case2 => cases h
  | case3 => cases h; simp
  | case4 =>
      rename_i ih
      obtain ⟨rest, hrest, h⟩ := exists_of_bind_eq_ok h
      cases h
      exact List.forall_mem_cons.2 ⟨⟨_, _, rfl⟩, ih hrest⟩
  | case5 => cases h
  | case6 => cases h; simp
  | case7 => cases h; simp

theorem Operands.values_subset (operands : Operands) (words : List (Word κ)) :
    operands.values words ⊆ words.map Word.text := by
  unfold Operands.values
  split
  · exact List.Subset.refl _
  · exact List.erase_subset

/-- What is read of a command line are switches and, as operands, words of it. -/
def Event.FromWords (texts : List String) : Event κ → Prop
  | .switch _ _ => True
  | .operands values => values ⊆ texts

theorem fromWords_read (grammar : Grammar κ) (texts : List String) :
    ∀ event ∈ (grammar.read texts).events, event.FromWords texts := by
  have hcarries : Carries grammar (fun word => word.text ∈ texts) (Event.FromWords texts) := by
    refine ⟨fun _ hcluster => ⟨fun event hevent => ?_, fun _ _ _ => trivial⟩, fun hwords => ?_⟩
    · obtain ⟨other, value, rfl⟩ := exists_switch_of_mem_cluster hcluster event hevent
      exact trivial
    · intro value hvalue
      obtain ⟨word, hword, rfl⟩ := List.mem_map.1 (Operands.values_subset _ _ hvalue)
      exact hwords word hword
  exact hcarries.read fun _ hwords _ => text_mem_of_readWords hwords

end

/-! ## Words for force -/

/-- The words that ask for a configuration file with force: the whole one, and what it may be
shortened to. -/
def forceWords : List String :=
  ["--f", "--fo", "--for", "--forc", "--force"]

theorem of_mem_byName : ∀ named ∈ initGrammar.byName,
    named.2.value = .nothing ∧ (named.2.key = .force → named.1 = "--force") := by
  decide

theorem key_ne_force {name : String} {used : Switch InitSwitch}
    (h : (name, used) ∈ initGrammar.byName) (hshort : isShort name = true) : used.key ≠ .force := by
  intro hkey
  rw [show name = "--force" from (of_mem_byName _ h).2 hkey] at hshort
  cases hshort

theorem mem_forceWords_of_isPrefix {text : String} {c d : Char} {rest : List Char}
    (htext : text.toList = c :: d :: rest) (hmark : text ≠ "--")
    (h : text.toList <+: "--force".toList) : text ∈ forceWords := by
  have hmem : text.toList ∈ "--force".toList.inits := (List.mem_inits _ _).2 h
  have hinits : "--force".toList.inits = ["", "-", "--"].map String.toList
      ++ forceWords.map String.toList := by decide
  rw [hinits, ← List.map_append] at hmem
  obtain ⟨other, hother, heq⟩ := List.mem_map.1 hmem
  obtain rfl := String.toList_inj.1 heq
  rcases List.mem_append.1 hother with hshort | hforce
  · exfalso
    simp only [List.mem_cons, List.not_mem_nil, or_false] at hshort
    rcases hshort with rfl | rfl | rfl
    · cases htext
    · cases htext
    · exact hmark rfl
  · exact hforce

/-- A word that is the switch for force, without anything attached, is one for it. -/
theorem mem_forceWords_of_readWord {text other name : String} {used : Switch InitSwitch}
    (h : initGrammar.readWord text = .ok (.switch other used name none))
    (hkey : used.key = .force) (hmark : text ≠ "--") : text ∈ forceWords := by
  unfold Grammar.readWord at h
  split at h
  next hfind =>
    cases h
    have hname := (of_mem_byName _ (Grammar.mem_byName_of_find hfind)).2 hkey
    rw [show text = "--force" from hname]
    decide
  next =>
    split at h
    next c d rest htext =>
      unfold Grammar.readSwitch at h
      dsimp only at h
      split at h
      next => cases h
      next =>
        split at h
        next hcandidates =>
          cases h
          obtain ⟨hmem, hprefix⟩ :=
            isPrefix_of_mem_candidates (hcandidates ▸ List.mem_singleton_self _)
          have hname : name = "--force" := (of_mem_byName _ hmem).2 hkey
          rw [hname] at hprefix
          exact mem_forceWords_of_isPrefix htext hmark hprefix
        next =>
          split at h
          · cases h
          · cases h
        next => cases h
    next => cases h

/-- A switch for force is read from a word for it. -/
def Event.Forces (texts : List String) : Event InitSwitch → Prop
  | .switch used _ => used.key = .force → ∃ text ∈ texts, text ∈ forceWords
  | .operands _ => True

theorem short_of_letters {name : String} {attached : Attached} {letter : Char}
    (h : ¬ (!isShort name || attached.assigned || letter = '-') = true) :
    isShort name = true ∧ letter ≠ '-' := by
  simp only [Bool.or_eq_true, Bool.not_eq_true', decide_eq_true_eq, not_or,
    Bool.not_eq_false] at h
  exact ⟨h.1.1, h.2⟩

theorem isShort_letter {letter : Char} (h : letter ≠ '-') :
    isShort (String.ofList ['-', letter]) = true := by
  simp [isShort, h]

/-- A cluster of letters does not hold the switch for force, since that has no letter of its own. -/
theorem forces_of_readCluster {texts : List String} {room : Nat} {used : Switch InitSwitch}
    {name : String} {attached : Option Attached} {cluster : Cluster InitSwitch}
    (hused : (name, used) ∈ initGrammar.byName)
    (hword : used.key = .force → attached = none → ∃ text ∈ texts, text ∈ forceWords)
    (h : readCluster initGrammar room used name attached = .ok cluster) :
    (∀ event ∈ cluster.events, event.Forces texts) ∧ cluster.awaiting = none := by
  fun_induction readCluster initGrammar room used name attached generalizing cluster with
  | case1 =>
      cases h
      exact ⟨List.forall_mem_singleton.2 fun hkey => hword hkey rfl, rfl⟩
  | case2 => cases h
  | case3 used name attached _ room letter rest _ hletters =>
      cases h
      obtain ⟨hshort, -⟩ := short_of_letters hletters
      exact ⟨List.forall_mem_singleton.2 fun hkey => absurd hkey (key_ne_force hused hshort), rfl⟩
  | case4 used name attached _ room letter rest _ hletters =>
      rename_i next other hfind ih
      obtain ⟨others, hrest, h⟩ := exists_of_bind_eq_ok h
      cases h
      obtain ⟨hshort, hletter⟩ := short_of_letters hletters
      have hother := Grammar.mem_byName_of_find hfind
      have hkey := key_ne_force hother (isShort_letter hletter)
      obtain ⟨hevents, hawaiting⟩ := ih hother (fun hforce => absurd hforce hkey) hrest
      refine ⟨List.forall_mem_cons.2 ⟨fun hforce => ?_, hevents⟩, hawaiting⟩
      exact absurd hforce (key_ne_force hused hshort)
  | case5 => cases h
  | case6 _ _ _ hvalue => exact absurd (of_mem_byName _ hused).1 hvalue
  | case7 _ _ _ _ hvalue => exact absurd (of_mem_byName _ hused).1 hvalue

theorem forces_read (texts : List String) :
    ∀ event ∈ (initGrammar.read texts).events, event.Forces texts := by
  have hcarries : Carries initGrammar
      (fun word => word.Fits initGrammar ∧ ∀ text used name attached,
        word = .switch text used name attached → text ∈ texts ∧ text ≠ "--" ∧
          initGrammar.readWord text = .ok word) (Event.Forces texts) := by
    refine ⟨fun {text used name attached cluster} hknown hcluster => ?_, fun _ => trivial⟩
    obtain ⟨hfits, hword⟩ := hknown
    obtain ⟨htext, hmark, hread⟩ := hword text used name attached rfl
    have hforce (hkey : used.key = .force) (hattached : attached = none) :
        ∃ text ∈ texts, text ∈ forceWords := by
      subst hattached
      exact ⟨text, htext, mem_forceWords_of_readWord hread hkey hmark⟩
    obtain ⟨hevents, hawaiting⟩ := forces_of_readCluster hfits hforce hcluster
    refine ⟨hevents, fun other value hother => ?_⟩
    rw [hawaiting] at hother
    cases hother
  refine hcarries.read fun words hwords word hword =>
    ⟨Grammar.fits_of_readWords hwords word hword, ?_⟩
  rintro text used name attached rfl
  exact ⟨text_mem_of_readWords hwords hword, (of_readWords hwords).2 text used name attached hword⟩

/-! ## Requests with force -/

theorem exists_forceWord_of_run {texts : List String} {events : List (Event InitSwitch)}
    (hevents : ∀ event ∈ events, event.Forces texts) {force : Bool}
    (h : events.foldlM initStep force = .ok true) :
    force = true ∨ ∃ text ∈ texts, text ∈ forceWords := by
  induction events generalizing force with
  | nil =>
      cases h
      exact .inl rfl
  | cons event rest ih =>
      obtain ⟨hevent, hrest⟩ := List.forall_mem_cons.1 hevents
      obtain ⟨next, hstep, hrun⟩ := exists_of_bind_eq_ok h
      refine (ih hrest hrun).elim (fun hnext => ?_) .inr
      cases event with
      | operands values =>
          cases hstep
          exact .inl hnext
      | switch used value =>
          obtain ⟨key, names, takes⟩ := used
          cases key with
          | help => cases hstep
          | force => exact .inr (hevent rfl)

theorem command_subset_of_run {texts : List String} {events : List (Event GeneralSwitch)}
    (hevents : ∀ event ∈ events, event.FromWords texts) {start final : GeneralReading}
    (hstart : start.command ⊆ texts) (h : events.foldlM generalStep start = .ok final) :
    final.command ⊆ texts := by
  induction events generalizing start with
  | nil =>
      cases h
      exact hstart
  | cons event rest ih =>
      obtain ⟨hevent, hrest⟩ := List.forall_mem_cons.1 hevents
      obtain ⟨next, hstep, hrun⟩ := exists_of_bind_eq_ok h
      refine ih hrest ?_ hrun
      cases event with
      | operands values =>
          cases hstep
          exact hevent
      | switch used value =>
          obtain ⟨key, names, takes⟩ := used
          cases key with
          | help | version => cases hstep
          | config | verbose | quiet =>
              cases hstep
              exact hstart

/-- Where a configuration file is asked for with force, a word for force stands on the command
line. -/
theorem exists_forceWord {words : List String} {options : GeneralOptions}
    (h : readRequest words = .run options (.init true)) : ∃ word ∈ words, word ∈ forceWords := by
  obtain ⟨read, hread, hcommand⟩ := exists_of_readRequest h
  obtain ⟨_, _, _, _, heq⟩ | ⟨texts, force, htexts, hforce, heq⟩ | ⟨_, _, _, _, heq⟩ :=
    readCommand_cases hcommand
  case inl | inr.inr => cases heq
  cases heq
  have hsubset : read.command ⊆ words :=
    command_subset_of_run (fromWords_read generalGrammar words) (List.nil_subset words)
      (foldlM_of_interpret hread)
  obtain ⟨word, hword, hmem⟩ := (exists_forceWord_of_run (forces_read texts)
    (foldlM_of_interpret hforce)).resolve_left Bool.false_ne_true
  refine ⟨word, hsubset ?_, hmem⟩
  rw [htexts]
  exact List.mem_cons_of_mem _ hword

/-- Each of these words asks for a configuration file with force. -/
theorem readRequest_of_mem_forceWords {word : String} (h : word ∈ forceWords) :
    readRequest ["init", word] = .run {} (.init true) := by
  have hgeneral : generalGrammar.readWords ["init", word] =
      .ok [.plain "init", .unknownSwitch word] := by
    revert word
    simp only [forceWords, List.forall_mem_cons]
    exact ⟨rfl, rfl, rfl, rfl, rfl, by simp⟩
  have hinit : initGrammar.readWords [word] =
      .ok [.switch word ⟨.force, ["--force"], .nothing⟩ "--force" none] := by
    revert word
    simp only [forceWords, List.forall_mem_cons]
    exact ⟨fun _ => rfl, fun _ => rfl, fun _ => rfl, fun _ => rfl, fun _ => rfl, by simp⟩
  have hread : generalGrammar.read ["init", word] = { events := [.operands ["init", word]] } := by
    rw [Grammar.read, hgeneral]
    cbv
  have hforce : initGrammar.read [word] =
      { events := [.switch ⟨.force, ["--force"], .nothing⟩ none] } := by
    simp only [Grammar.read, hinit, readFrom, readCluster]
    rfl
  have hcommand : readCommand ["init", word] = .ok (some (.init true), []) := by
    rw [readCommand, hforce]
    rfl
  have hinterpret : interpret generalStep {} { events := [.operands ["init", word]] }
      Manual.general = .ok { command := ["init", word] } := rfl
  simp only [readRequest, hread, hinterpret, bind, Except.bind, hcommand]
  rfl

end JavadocTags.CommandLine
