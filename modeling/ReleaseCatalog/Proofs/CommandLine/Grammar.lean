/-
The grammar of the command line. Arguments are items, read from the left: an argument that is no
flag, the flag for the tag with whatever follows it, the flag for downloads, and the flag for the
settings file, which has its path after it or in it, or is the last argument. Every list of arguments
can be read up to its end or to an obstacle, which is a flag that nobody knows or a flag for the tag
with nothing after it. The arguments are accepted exactly when they are read to the end with four
items that are no flags, and refused for the obstacle, or for their count when there is none.
-/

import Mathlib.Data.List.Basic
import ReleaseCatalog.CommandLine.Arguments

namespace ReleaseCatalog.CommandLine

/-- An item of the command line. -/
inductive Item where
  | positional (text : String)
  | ifMatch (tag : String)
  | hasDownloads
  /-- The settings file, or no file if nothing follows the flag. -/
  | settings (path : Option String)
  deriving DecidableEq

namespace Item

/-- The argument that is no flag. -/
def text? : Item → Option String
  | positional text => some text
  | _ => none

/-- The tag that the version should have. -/
def tag? : Item → Option String
  | ifMatch tag => some tag
  | _ => none

/-- What an item changes about the options. -/
def apply (options : AmendOptions) : Item → AmendOptions
  | ifMatch tag => { options with ifMatch := tag }
  | hasDownloads => { options with hasDownloads := true }
  | _ => options

end Item

/-- The arguments begin with the items, and go on with the rest. -/
inductive Reads : List String → List Item → List String → Prop
  | nothing (rest : List String) : Reads rest [] rest
  | positional {text : String} {arguments rest : List String} {items : List Item}
      (plain : ¬text.startsWith "--") (later : Reads arguments items rest) :
      Reads (text :: arguments) (.positional text :: items) rest
  | ifMatch (tag : String) {arguments rest : List String} {items : List Item}
      (later : Reads arguments items rest) :
      Reads ("--if-match" :: tag :: arguments) (.ifMatch tag :: items) rest
  | hasDownloads {arguments rest : List String} {items : List Item}
      (later : Reads arguments items rest) :
      Reads ("--has-downloads" :: arguments) (.hasDownloads :: items) rest
  | settings (path : String) {arguments rest : List String} {items : List Item}
      (later : Reads arguments items rest) :
      Reads ("--config" :: path :: arguments) (.settings (some path) :: items) rest
  | settingsWithin (path : String) {arguments rest : List String} {items : List Item}
      (later : Reads arguments items rest) :
      Reads (("--config=" ++ path) :: arguments) (.settings (some path) :: items) rest
  | settingsLast : Reads ["--config"] [.settings none] []

/-- A flag that is none of those of the command. -/
def IsUnknownFlag (text : String) : Prop :=
  text.startsWith "--" ∧ text ≠ "--if-match" ∧ text ≠ "--has-downloads" ∧ text ≠ "--config" ∧
    ¬text.startsWith "--config="

/-- Where no item begins, and the error that this is. -/
inductive Obstacle : List String → ArgumentError → Prop
  | unknownFlag {flag : String} (unknown : IsUnknownFlag flag) (rest : List String) :
      Obstacle (flag :: rest) (.unknownFlag flag)
  | missingTag : Obstacle ["--if-match"] .missingTag

/-! ### Flags -/

theorem startsWith_append (flag rest : String) : (flag ++ rest).startsWith flag := by
  rw [String.startsWith_string_iff, String.toList_append]
  exact List.prefix_append _ _

/-- A text with a beginning is that beginning with the rest of the text behind it. -/
theorem append_drop_of_startsWith {text flag : String} (starts : text.startsWith flag) :
    flag ++ String.ofList (text.toList.drop flag.length) = text := by
  obtain ⟨rest, same⟩ := String.startsWith_string_iff.mp starts
  apply String.toList_inj.mp
  rw [String.toList_append, String.toList_ofList, ← same, ← String.length_toList,
    List.drop_left]

theorem startsWith_of_startsWith {text flag shorter : String} (starts : text.startsWith flag)
    (shortens : shorter.toList <+: flag.toList) : text.startsWith shorter :=
  String.startsWith_string_iff.mpr (shortens.trans (String.startsWith_string_iff.mp starts))

theorem not_startsWith {text flag : String} (differs : ¬flag.toList <+: text.toList) :
    ¬text.startsWith flag :=
  fun starts => differs (String.startsWith_string_iff.mp starts)

/-- A text that begins with a flag is none that begins otherwise. -/
theorem ne_of_startsWith {text flag other : String} (starts : text.startsWith flag)
    (differs : ¬flag.toList <+: other.toList) : text ≠ other :=
  fun same => not_startsWith differs (same ▸ starts)

/-! ### Reading -/

/-- The arguments are read up to their end or to an obstacle. -/
theorem exists_reads (arguments : List String) :
    ∃ items rest, Reads arguments items rest ∧ (rest = [] ∨ ∃ error, Obstacle rest error) := by
  -- The cases of the reader are the rules of the grammar; its options do not matter here.
  fun_induction scan {} arguments with
  | case1 => exact ⟨[], [], .nothing [], .inl rfl⟩
  | case2 => exact ⟨[], _, .nothing _, .inr ⟨_, .missingTag⟩⟩
  | case3 options tag arguments inductionHypothesis =>
    obtain ⟨items, rest, reads, ends⟩ := inductionHypothesis
    exact ⟨_, rest, .ifMatch tag reads, ends⟩
  | case4 options arguments inductionHypothesis =>
    obtain ⟨items, rest, reads, ends⟩ := inductionHypothesis
    exact ⟨_, rest, .hasDownloads reads, ends⟩
  | case5 => exact ⟨_, [], .settingsLast, .inl rfl⟩
  | case6 options path arguments inductionHypothesis =>
    obtain ⟨items, rest, reads, ends⟩ := inductionHypothesis
    exact ⟨_, rest, .settings path reads, ends⟩
  | case7 options text arguments _ _ _ within inductionHypothesis =>
    obtain ⟨items, rest, reads, ends⟩ := inductionHypothesis
    rw [← append_drop_of_startsWith within]
    exact ⟨_, rest, .settingsWithin _ reads, ends⟩
  | case8 options flag arguments noTag noDownloads noSettings notWithin isFlag =>
    exact ⟨[], _, .nothing _,
      .inr ⟨_, .unknownFlag ⟨isFlag, noTag, noDownloads, noSettings, notWithin⟩ arguments⟩⟩
  | case9 options text arguments _ _ _ _ plain inductionHypothesis =>
    obtain ⟨items, rest, reads, ends⟩ := inductionHypothesis
    exact ⟨_, rest, .positional plain reads, ends⟩

/-- The reader goes on behind the items with the options that they have changed. -/
theorem Reads.scan_eq {arguments rest : List String} {items : List Item}
    (reads : Reads arguments items rest) (options : AmendOptions) :
    scan options arguments = (scan (items.foldl Item.apply options) rest).map
      fun read => (items.filterMap Item.text? ++ read.1, read.2) := by
  induction reads generalizing options with
  | nothing rest =>
    show _ = (scan options rest).map _
    cases scan options rest <;> rfl
  | @positional text arguments rest items plain later inductionHypothesis =>
    have notWithin : ¬text.startsWith "--config=" := fun within =>
      plain (startsWith_of_startsWith within (by decide))
    have noFlag (flag : String) (starts : flag.startsWith "--") (same : text = flag) : False :=
      plain (same ▸ starts)
    rw [scan.eq_7 _ _ _ (noFlag _ (startsWith_append "--" "if-match"))
      (noFlag _ (startsWith_append "--" "has-downloads"))
      (noFlag _ (startsWith_append "--" "config")), if_neg notWithin, if_neg plain,
      inductionHypothesis]
    show _ = (scan (items.foldl Item.apply options) rest).map _
    cases scan (items.foldl Item.apply options) rest <;> rfl
  | ifMatch tag later inductionHypothesis =>
    rw [scan.eq_3]
    exact inductionHypothesis _
  | hasDownloads later inductionHypothesis =>
    rw [scan.eq_4]
    exact inductionHypothesis _
  | settings path later inductionHypothesis =>
    rw [scan.eq_6]
    exact inductionHypothesis _
  | settingsWithin path later inductionHypothesis =>
    have within := startsWith_append "--config=" path
    rw [scan.eq_7 _ _ _ (ne_of_startsWith within (by decide))
      (ne_of_startsWith within (by decide)) (ne_of_startsWith within (by decide)), if_pos within]
    exact inductionHypothesis _
  | settingsLast => rfl

/-- The reader fails at an obstacle, with its error. -/
theorem Obstacle.scan_eq {rest : List String} {error : ArgumentError}
    (obstacle : Obstacle rest error) (options : AmendOptions) :
    scan options rest = .error error := by
  cases obstacle with
  | unknownFlag unknown rest =>
    obtain ⟨isFlag, noTag, noDownloads, noSettings, notWithin⟩ := unknown
    rw [scan.eq_7 _ _ _ noTag noDownloads noSettings, if_neg notWithin, if_pos isFlag]
  | missingTag => rfl

/-- The options that items set: the last tag counts, and the flag for downloads wherever it is. -/
theorem foldl_apply (items : List Item) (options : AmendOptions) :
    items.foldl Item.apply options =
      { ifMatch := (items.filterMap Item.tag?).getLast?.getD options.ifMatch
        hasDownloads := options.hasDownloads || decide (.hasDownloads ∈ items) } := by
  induction items generalizing options with
  | nil => simp
  | cons item items inductionHypothesis =>
    rw [List.foldl_cons, inductionHypothesis]
    cases item <;> simp [Item.apply, Item.tag?, List.getLast?_cons]

namespace Arguments

variable {arguments rest : List String} {items : List Item}

theorem read_of_reads (reads : Reads arguments items []) {datasetId edition version path : String}
    (four : items.filterMap Item.text? = [datasetId, edition, version, path]) :
    Arguments.read arguments =
      .ok ⟨⟨datasetId, edition, version⟩, path, items.foldl Item.apply {}⟩ := by
  unfold Arguments.read
  rw [reads.scan_eq, four]
  rfl

theorem read_of_count (reads : Reads arguments items [])
    (count : (items.filterMap Item.text?).length ≠ 4) :
    Arguments.read arguments = .error .wrongCount := by
  unfold Arguments.read
  rw [reads.scan_eq]
  -- The reader takes four of them apart and nothing else.
  generalize items.filterMap Item.text? = texts at count ⊢
  obtain _ | ⟨_, _ | ⟨_, _ | ⟨_, _ | ⟨_, _ | _⟩⟩⟩⟩ := texts
  case cons.cons.cons.cons.nil => exact absurd rfl count
  all_goals rfl

theorem read_of_obstacle (reads : Reads arguments items rest) {error : ArgumentError}
    (obstacle : Obstacle rest error) : Arguments.read arguments = .error error := by
  unfold Arguments.read
  rw [reads.scan_eq, obstacle.scan_eq]
  rfl

/-- Arguments are accepted exactly when they are read to their end with four items that are no
flags. -/
theorem read_eq_ok_iff {read : Arguments} :
    Arguments.read arguments = .ok read ↔
      ∃ items datasetId edition version path, Reads arguments items [] ∧
        items.filterMap Item.text? = [datasetId, edition, version, path] ∧
        read = ⟨⟨datasetId, edition, version⟩, path, items.foldl Item.apply {}⟩ := by
  constructor
  · intro accepted
    obtain ⟨items, rest, reads, rfl | ⟨error, obstacle⟩⟩ := exists_reads arguments
    · by_cases count : (items.filterMap Item.text?).length = 4
      · obtain ⟨datasetId, edition, version, path, four⟩ := List.length_eq_four.mp count
        refine ⟨items, datasetId, edition, version, path, reads, four, ?_⟩
        exact Except.ok.inj (accepted.symm.trans (read_of_reads reads four))
      · cases accepted.symm.trans (read_of_count reads count)
    · cases accepted.symm.trans (read_of_obstacle reads obstacle)
  · rintro ⟨items, datasetId, edition, version, path, reads, four, rfl⟩
    exact read_of_reads reads four

/-- Arguments are refused for the obstacle to reading them, and if there is none for their count. -/
theorem read_eq_error_iff {error : ArgumentError} :
    Arguments.read arguments = .error error ↔
      (∃ items rest, Reads arguments items rest ∧ Obstacle rest error) ∨
        ∃ items, Reads arguments items [] ∧ (items.filterMap Item.text?).length ≠ 4 ∧
          error = .wrongCount := by
  constructor
  · intro refused
    obtain ⟨items, rest, reads, rfl | ⟨other, obstacle⟩⟩ := exists_reads arguments
    · by_cases count : (items.filterMap Item.text?).length = 4
      · obtain ⟨datasetId, edition, version, path, four⟩ := List.length_eq_four.mp count
        cases refused.symm.trans (read_of_reads reads four)
      · refine .inr ⟨items, reads, count, ?_⟩
        exact Except.error.inj (refused.symm.trans (read_of_count reads count))
    · cases refused.symm.trans (read_of_obstacle reads obstacle)
      exact .inl ⟨items, rest, reads, obstacle⟩
  · rintro (⟨items, rest, reads, obstacle⟩ | ⟨items, reads, count, rfl⟩)
    · exact read_of_obstacle reads obstacle
    · exact read_of_count reads count

/-- The reader of arguments follows their grammar. It accepts exactly those that are items up to
their end, four of them no flags, which are the names of the version and the path of the update in
this order; the last tag counts, and any flag for downloads. All else it refuses, with the message
for the first flag that nobody knows or that lacks its tag, or with the usage if there is no such
flag. -/
theorem arguments_follow_grammar (arguments : List String) :
    (∀ read, Arguments.read arguments = .ok read ↔
      ∃ items datasetId edition version path, Reads arguments items [] ∧
        items.filterMap Item.text? = [datasetId, edition, version, path] ∧
        read = ⟨⟨datasetId, edition, version⟩, path, {
          ifMatch := (items.filterMap Item.tag?).getLast?.getD "*"
          hasDownloads := decide (.hasDownloads ∈ items) }⟩) ∧
      ∀ message, (Arguments.read arguments).mapError ArgumentError.message = .error message ↔
        (∃ items flag rest, Reads arguments items (flag :: rest) ∧ IsUnknownFlag flag ∧
          message = "unknown flag " ++ flag) ∨
        (∃ items, Reads arguments items ["--if-match"] ∧ message = "--if-match needs a value") ∨
        ∃ items, Reads arguments items [] ∧ (items.filterMap Item.text?).length ≠ 4 ∧
          message = usage := by
  constructor
  · intro read
    rw [read_eq_ok_iff]
    simp only [foldl_apply, Bool.false_or, ETag.any]
  · intro message
    have told : (Arguments.read arguments).mapError ArgumentError.message = .error message ↔
        ∃ error, Arguments.read arguments = .error error ∧ message = error.message := by
      cases Arguments.read arguments <;> simp [Except.mapError, eq_comm]
    rw [told]
    simp only [read_eq_error_iff]
    constructor
    · rintro ⟨error, ⟨items, rest, reads, obstacle⟩ | ⟨items, reads, count, rfl⟩, rfl⟩
      · cases obstacle with
        | unknownFlag unknown rest => exact .inl ⟨items, _, rest, reads, unknown, rfl⟩
        | missingTag => exact .inr (.inl ⟨items, reads, rfl⟩)
      · exact .inr (.inr ⟨items, reads, count, rfl⟩)
    · rintro (⟨items, flag, rest, reads, unknown, rfl⟩ | ⟨items, reads, rfl⟩ |
        ⟨items, reads, count, rfl⟩)
      · exact ⟨_, .inl ⟨items, _, reads, .unknownFlag unknown rest⟩, rfl⟩
      · exact ⟨_, .inl ⟨items, _, reads, .missingTag⟩, rfl⟩
      · exact ⟨_, .inr ⟨items, reads, count, rfl⟩, rfl⟩

end Arguments

end ReleaseCatalog.CommandLine
