/-
The settings file that is looked up in the arguments, beside the one that their items name. The two
are the same for arguments in which no tag looks like the flag for the settings file, since the
look-up passes over every item up to the first one that names the file. But it knows nothing of the
flag for the tag: a tag that looks like the flag is taken for it, and then the file is the one that
the tag, or the argument behind it, would name.
-/

import ReleaseCatalog.Proofs.CommandLine.Grammar

namespace ReleaseCatalog.CommandLine

/-- The flag for the settings file, alone or with the path in it. -/
def IsSettingsFlag (text : String) : Prop :=
  text = "--config" ∨ text.startsWith "--config="

namespace Item

/-- The path that an item gives for the settings file, if it is about the settings file. -/
def path? : Item → Option (Option String)
  | settings path => some path
  | _ => none

/-- The settings file that items name: what the first of them says that is about it. -/
def settingsFile (items : List Item) : Option String :=
  (items.findSome? path?).join

end Item

variable {arguments rest : List String} {text path : String} {items : List Item}

/-! ### Looking up the file -/

theorem configPath_cons (other : ¬IsSettingsFlag text) (arguments : List String) :
    configPath (text :: arguments) = configPath arguments := by
  have alone : ¬(text == "--config") = true := fun same => other (.inl (eq_of_beq same))
  have within : ¬text.startsWith "--config=" := fun starts => other (.inr starts)
  rw [configPath, if_neg alone, if_neg within]

theorem configPath_flag (arguments : List String) :
    configPath ("--config" :: arguments) = arguments.head? := rfl

theorem configPath_within (path : String) (arguments : List String) :
    configPath (("--config=" ++ path) :: arguments) = some path := by
  have within := startsWith_append "--config=" path
  have alone : ¬("--config=" ++ path == "--config") = true := fun same =>
    ne_of_startsWith within (by decide) (eq_of_beq same)
  have rest : ("--config=" ++ path).toList.drop "--config=".length = path.toList := by
    rw [String.toList_append, ← String.length_toList, List.drop_left]
  rw [configPath, if_neg alone, if_pos within, rest, String.ofList_toList]

theorem not_isSettingsFlag (differs : ¬text.startsWith "--config") : ¬IsSettingsFlag text := by
  rintro (rfl | within)
  · exact differs (String.startsWith_string_iff.mpr (List.prefix_refl _))
  · exact differs (startsWith_of_startsWith within (by decide))

theorem not_isSettingsFlag_of_plain (plain : ¬text.startsWith "--") : ¬IsSettingsFlag text :=
  not_isSettingsFlag fun starts => plain (startsWith_of_startsWith starts (by decide))

theorem not_isSettingsFlag_ifMatch : ¬IsSettingsFlag "--if-match" :=
  not_isSettingsFlag (not_startsWith (by decide))

theorem not_isSettingsFlag_hasDownloads : ¬IsSettingsFlag "--has-downloads" :=
  not_isSettingsFlag (not_startsWith (by decide))

/-- The look-up passes over items until one is about the settings file, unless a tag on the way
looks like the flag for it. -/
theorem Reads.configPath_eq (reads : Reads arguments items rest)
    (clear : ∀ tag, .ifMatch tag ∈ items.takeWhile (·.path?.isNone) → ¬IsSettingsFlag tag) :
    configPath arguments = (items.findSome? Item.path?).getD (configPath rest) := by
  induction reads with
  | nothing rest => rfl
  | positional plain later inductionHypothesis =>
    rw [configPath_cons (not_isSettingsFlag_of_plain plain)]
    exact inductionHypothesis fun tag member => clear tag (List.mem_cons_of_mem _ member)
  | ifMatch tag later inductionHypothesis =>
    rw [configPath_cons not_isSettingsFlag_ifMatch, configPath_cons (clear tag List.mem_cons_self)]
    exact inductionHypothesis fun tag member => clear tag (List.mem_cons_of_mem _ member)
  | hasDownloads later inductionHypothesis =>
    rw [configPath_cons not_isSettingsFlag_hasDownloads]
    exact inductionHypothesis fun tag member => clear tag (List.mem_cons_of_mem _ member)
  | settings path later => rfl
  | settingsWithin path later => exact configPath_within path _
  | settingsLast => rfl

/-- A tag that looks like the flag for the settings file is taken for it. -/
theorem Reads.configPath_eq_of_tag {tag : String}
    (reads : Reads arguments items ("--if-match" :: tag :: rest))
    (unnamed : ∀ item ∈ items, item.path? = none)
    (clear : ∀ other, .ifMatch other ∈ items → ¬IsSettingsFlag other) :
    configPath arguments = configPath (tag :: rest) := by
  have nowhere : items.findSome? Item.path? = none := List.findSome?_eq_none_iff.mpr unnamed
  have first (other : String) (member : .ifMatch other ∈ items.takeWhile (·.path?.isNone)) :
      ¬IsSettingsFlag other := clear other ((List.takeWhile_sublist _).subset member)
  rw [reads.configPath_eq first, nowhere]
  exact configPath_cons not_isSettingsFlag_ifMatch _

namespace Arguments

/-- For arguments that are accepted, the settings file that is looked up is the one that the first
item about it names, if no tag before that item looks like the flag for it. A tag that does is taken
for the flag: the file is then the argument behind the tag, or the path within it. The name of the
program makes no difference, if it does not look like the flag itself. -/
theorem settings_file_is_named_or_taken_from_tag {read : Arguments}
    (accepted : Arguments.read arguments = .ok read) :
    (∃ items, Reads arguments items []) ∧
      (∀ items, Reads arguments items [] →
        (∀ tag, .ifMatch tag ∈ items.takeWhile (·.path?.isNone) → ¬IsSettingsFlag tag) →
        configPath arguments = Item.settingsFile items) ∧
      (∀ items tag rest, Reads arguments items ("--if-match" :: tag :: rest) →
        (∀ item ∈ items, item.path? = none) →
        (∀ other, .ifMatch other ∈ items → ¬IsSettingsFlag other) →
        (tag = "--config" → configPath arguments = rest.head?) ∧
          ∀ path, tag = "--config=" ++ path → configPath arguments = some path) ∧
      ∀ program, ¬IsSettingsFlag program →
        configPath (program :: arguments) = configPath arguments := by
  refine ⟨?_, fun items reads clear => ?_, fun items tag rest reads unnamed clear => ?_,
    fun program other => configPath_cons other arguments⟩
  · obtain ⟨items, _, _, _, _, reads, -⟩ := read_eq_ok_iff.mp accepted
    exact ⟨items, reads⟩
  · rw [reads.configPath_eq clear]
    unfold Item.settingsFile
    cases items.findSome? Item.path? <;> rfl
  · rw [reads.configPath_eq_of_tag unnamed clear]
    constructor
    · rintro rfl
      exact configPath_flag rest
    · rintro path rfl
      exact configPath_within path rest

/-- The flag for the settings file between the other arguments, and a tag. -/
theorem settings_file_is_named_or_taken_from_tag_sample :
    let arguments := ["cpih01", "--config", "catalog.yaml", "time-series", "3", "update.json",
      "--if-match", "abc", "--has-downloads"]
    Arguments.read arguments = .ok ⟨⟨"cpih01", "time-series", "3"⟩, "update.json", ⟨"abc", true⟩⟩ ∧
      configPath arguments = some "catalog.yaml" := by
  intro arguments
  have reads : Reads arguments [.positional "cpih01", .settings (some "catalog.yaml"),
      .positional "time-series", .positional "3", .positional "update.json", .ifMatch "abc",
      .hasDownloads] [] :=
    .positional (not_startsWith (by decide)) <| .settings _ <|
      .positional (not_startsWith (by decide)) <|
      .positional (not_startsWith (by decide)) <|
      .positional (not_startsWith (by decide)) <| .ifMatch _ <| .hasDownloads <| .nothing []
  have accepted := read_of_reads reads rfl
  obtain ⟨-, named, -⟩ := settings_file_is_named_or_taken_from_tag accepted
  exact ⟨accepted, named _ reads (by simp [Item.path?])⟩

/-- The file that is looked up may be one that no item names: a tag is taken for the flag, and the
name of a dataset for the file. -/
theorem settings_file_may_be_unnamed :
    ¬∀ arguments read items, Arguments.read arguments = .ok read → Reads arguments items [] →
      configPath arguments = Item.settingsFile items := by
  intro agree
  have reads : Reads ["--if-match", "--config", "cpih01", "time-series", "1", "u.json",
      "--if-match", "*"] [.ifMatch "--config", .positional "cpih01", .positional "time-series",
      .positional "1", .positional "u.json", .ifMatch "*"] [] :=
    .ifMatch _ <| .positional (not_startsWith (by decide)) <|
      .positional (not_startsWith (by decide)) <|
      .positional (not_startsWith (by decide)) <|
      .positional (not_startsWith (by decide)) <| .ifMatch _ <| .nothing []
  have same := agree _ _ _ (read_of_reads reads rfl) reads
  rw [configPath_cons not_isSettingsFlag_ifMatch, configPath_flag] at same
  cases same

end Arguments

end ReleaseCatalog.CommandLine
