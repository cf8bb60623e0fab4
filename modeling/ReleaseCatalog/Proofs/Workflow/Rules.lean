/-
What a table of rules means. Rules are added to a table one after another; the table then has all of
them, in this order, as long as no two are for the same target and type. It says what its rules say:
a move is allowed exactly when there is a rule for it, wherever that stands in the list. So the
order of the rules does not matter. Two rules for the same target and type would be read by their
order; such a list is refused, at the first rule that repeats an earlier one.
-/

import Mathlib.Data.List.Nodup
import ReleaseCatalog.Proofs.Json.Documents

namespace ReleaseCatalog

namespace Transition

/-- The document of a rule with its type spelled as the text. -/
def spelled (rule : Transition) (text : String) : Json :=
  .object (Json.member "label" rule.target.toJson ++ Json.member "type" (.string text) ++
    Json.member "allowed_source_states" (.array (rule.sources.map State.toJson)))

/-- A rule is read from its document however its type is spelled there. -/
theorem ofJson?_spelled {rule : Transition} {text : String}
    (named : DatasetType.resolve? text = some rule.type) :
    ofJson? (rule.spelled text) = some rule := by
  have read : Json.Fields.read? keys (rule.spelled text) =
      some ⟨[("label", rule.target.toJson), ("type", .string text),
        ("allowed_source_states", Json.ofList State.toJson rule.sources)]⟩ := rfl
  have target : State.ofJson? rule.target.toJson = some rule.target := Json.Codec.decodes _
  have type : DatasetType.ofJson? (.string text) = some rule.type := named
  have sources : Json.decodeList State.ofJson? (Json.ofList State.toJson rule.sources) =
      some rule.sources := Json.Codec.decodes _
  unfold ofJson?
  rw [read]
  simp [Json.Fields.get?, List.lookup_cons, target, type, sources]

/-- The rules of a list are read from their documents however their types are spelled there. -/
theorem decodeList_spelled {rules : List Transition} {texts : List String}
    (named : texts.map DatasetType.resolve? = rules.map fun rule => some rule.type) :
    Json.decodeList ofJson? (.array (List.zipWith spelled rules texts)) = some rules := by
  show (List.zipWith spelled rules texts).mapM ofJson? = some rules
  induction rules generalizing texts with
  | nil => rfl
  | cons rule rules inductionHypothesis =>
    cases texts with
    | nil => cases named
    | cons text texts =>
      obtain ⟨first, rest⟩ := List.cons.inj named
      rw [List.zipWith_cons_cons, List.mapM_cons, ofJson?_spelled first, inductionHypothesis rest]
      rfl

end Transition

namespace TransitionTable

variable {rules : List Transition} {rule : Transition} {table last : TransitionTable}

/-! ### Adding rules -/

/-- Tables with the same rules in the same order are the same. -/
theorem eq_of_rules_eq (same : table.rules = last.rules) : table = last := by
  have injective : Function.Injective fun entry : (State × DatasetType) × List State =>
      (⟨entry.1.1, entry.1.2, entry.2⟩ : Transition) := by
    rintro ⟨⟨_, _⟩, _⟩ ⟨⟨_, _⟩, _⟩ ⟨⟩
    rfl
  cases table
  cases last
  exact congrArg (fun entries => (⟨⟨entries⟩⟩ : TransitionTable))
    (List.map_injective_iff.mpr injective same)

/-- What the rules are for is what the table is sorted by. -/
theorem map_entry_rules (table : TransitionTable) :
    table.rules.map Transition.entry = table.sources.entries.map Prod.fst :=
  List.map_map

/-- Nothing is found for a target and type exactly when there is no rule for them. -/
theorem sources?_eq_none_iff :
    table.sources? rule.target rule.type = none ↔
      rule.entry ∉ table.rules.map Transition.entry := by
  rw [map_entry_rules]
  exact Collection.get?_eq_none_iff

theorem foldlM_insert_cons_new (new : rule.entry ∉ table.rules.map Transition.entry)
    (rest : List Transition) :
    (rule :: rest).foldlM insert table = rest.foldlM insert (table.put rule) := by
  rw [List.foldlM_cons, insert, sources?_eq_none_iff.mpr new]
  rfl

theorem foldlM_insert_cons_known (known : rule.entry ∈ table.rules.map Transition.entry)
    (rest : List Transition) : (rule :: rest).foldlM insert table = .error rule.repetition := by
  rw [List.foldlM_cons, insert]
  cases found : table.sources? rule.target rule.type with
  | none => exact absurd known (sources?_eq_none_iff.mp found)
  | some sources => rfl

/-- A rule that is added comes last. -/
theorem rules_put_of_new (new : rule.entry ∉ table.rules.map Transition.entry) :
    (table.put rule).rules = table.rules ++ [rule] := by
  have unfound : table.sources.get? rule.entry = none := sources?_eq_none_iff.mpr new
  unfold put rules
  rw [Collection.entries_put_of_new unfound, List.map_append]
  rfl

theorem rules_put_append (new : rule.entry ∉ table.rules.map Transition.entry)
    (rest : List Transition) : (table.put rule).rules ++ rest = table.rules ++ rule :: rest := by
  rw [rules_put_of_new new, List.append_assoc, List.singleton_append]

theorem nodup_put_of_new (distinct : (table.rules.map Transition.entry).Nodup)
    (new : rule.entry ∉ table.rules.map Transition.entry) :
    ((table.put rule).rules.map Transition.entry).Nodup := by
  rw [rules_put_of_new new, List.map_append]
  exact List.nodup_append.mpr ⟨distinct, List.nodup_singleton _, by simpa using new⟩

/-- Rules can be added exactly when they are for different targets and types, and for others than
the rules that are there. -/
theorem foldlM_insert_eq_ok_iff (distinct : (table.rules.map Transition.entry).Nodup) :
    rules.foldlM insert table = .ok last ↔
      last.rules = table.rules ++ rules ∧
        ((table.rules ++ rules).map Transition.entry).Nodup := by
  induction rules generalizing table with
  | nil =>
    rw [List.append_nil]
    constructor
    · rintro ⟨⟩
      exact ⟨rfl, distinct⟩
    · rintro ⟨same, -⟩
      rw [eq_of_rules_eq same]
      rfl
  | cons rule rest inductionHypothesis =>
    by_cases known : rule.entry ∈ table.rules.map Transition.entry
    · rw [foldlM_insert_cons_known known]
      refine iff_of_false nofun fun apart => ?_
      rw [List.map_append, List.nodup_append] at apart
      exact apart.2.2.2 _ known _ List.mem_cons_self rfl
    · rw [foldlM_insert_cons_new known, inductionHypothesis (nodup_put_of_new distinct known),
        rules_put_append known]

/-- Adding rules fails at the first one that is for the same target and type as one before it. -/
theorem foldlM_insert_eq_error_iff {error : CatalogError}
    (distinct : (table.rules.map Transition.entry).Nodup) :
    rules.foldlM insert table = .error error ↔
      ∃ before rule after, rules = before ++ rule :: after ∧
        ((table.rules ++ before).map Transition.entry).Nodup ∧
        rule.entry ∈ (table.rules ++ before).map Transition.entry ∧ error = rule.repetition := by
  induction rules generalizing table with
  | nil => exact iff_of_false nofun (by simp)
  | cons first rest inductionHypothesis =>
    by_cases known : first.entry ∈ table.rules.map Transition.entry
    · rw [foldlM_insert_cons_known known]
      constructor
      · rintro ⟨⟩
        exact ⟨[], first, rest, rfl, by rwa [List.append_nil], by rwa [List.append_nil], rfl⟩
      · rintro ⟨before, rule, after, split, apart, -, rfl⟩
        cases before with
        | nil =>
          cases split
          rfl
        | cons other before =>
          cases split
          rw [List.map_append, List.nodup_append] at apart
          exact absurd rfl (apart.2.2 _ known _ List.mem_cons_self)
    · rw [foldlM_insert_cons_new known]
      refine (inductionHypothesis (nodup_put_of_new distinct known)).trans ⟨?_, ?_⟩
      · rintro ⟨before, rule, after, rfl, apart, again, named⟩
        rw [rules_put_append known] at apart again
        exact ⟨first :: before, rule, after, rfl, apart, again, named⟩
      · rintro ⟨before, rule, after, split, apart, again, named⟩
        cases before with
        | nil =>
          cases split
          rw [List.append_nil] at again
          exact absurd again known
        | cons other before =>
          cases split
          rw [← rules_put_append known] at apart again
          exact ⟨before, rule, after, rfl, apart, again, named⟩

theorem ofRules_eq_ok_iff :
    ofRules rules = .ok table ↔ table.rules = rules ∧ (rules.map Transition.entry).Nodup :=
  foldlM_insert_eq_ok_iff List.nodup_nil

/-- A list of rules is refused at the first one that repeats an earlier one, which the error
names. -/
theorem ofRules_eq_error_iff {error : CatalogError} :
    ofRules rules = .error error ↔
      ∃ before rule after, rules = before ++ rule :: after ∧
        (before.map Transition.entry).Nodup ∧ rule.entry ∈ before.map Transition.entry ∧
        error = rule.repetition :=
  foldlM_insert_eq_error_iff List.nodup_nil

/-- Rules for different targets and types make a table. -/
theorem exists_ofRules (distinct : (rules.map Transition.entry).Nodup) :
    ∃ table, ofRules rules = .ok table := by
  cases made : ofRules rules with
  | ok table => exact ⟨table, rfl⟩
  | error error =>
    obtain ⟨before, rule, after, rfl, -, again, -⟩ := ofRules_eq_error_iff.mp made
    rw [List.map_append, List.nodup_append] at distinct
    exact absurd rfl (distinct.2.2 _ again _ List.mem_cons_self)

/-- A table has as many rules as have been added. -/
theorem size_eq_length : table.size = table.rules.length :=
  List.length_map _ |>.symm

/-! ### Checking a move -/

/-- In a table of rules for different targets and types, the states that are found for a target and
type are those of the rule for them. -/
theorem sources?_eq_some_iff (distinct : (table.rules.map Transition.entry).Nodup) {target : State}
    {type : DatasetType} {sources : List State} :
    table.sources? target type = some sources ↔ ⟨target, type, sources⟩ ∈ table.rules := by
  have listed : ⟨target, type, sources⟩ ∈ table.rules ↔
      ((target, type), sources) ∈ table.sources.entries := by
    simp [rules]
  rw [map_entry_rules] at distinct
  rw [listed]
  exact Collection.get?_eq_some_iff distinct

/-- In a table of rules for different targets and types, a move is allowed exactly when there is a
rule for its target and type that lists the current state. -/
theorem check_eq_ok_iff (distinct : (table.rules.map Transition.entry).Nodup)
    {current : Option State} {target : State} {type : DatasetType} :
    table.check current target type = .ok () ↔
      ∃ rule ∈ table.rules, rule.target = target ∧ rule.type = type ∧
        ∃ state ∈ rule.sources, current = some state := by
  constructor
  · intro allowed
    unfold check at allowed
    split at allowed
    next sources state found =>
      have listed : state ∈ sources := by simpa using allowed
      exact ⟨_, (sources?_eq_some_iff distinct).mp found, rfl, rfl, state, listed, rfl⟩
    next => cases allowed
  · rintro ⟨⟨_, _, sources⟩, member, rfl, rfl, state, listed, rfl⟩
    unfold check
    rw [(sources?_eq_some_iff distinct).mpr member]
    simp [listed]

theorem check_eq_ok_iff_of_ofRules (made : ofRules rules = .ok table) {current : Option State}
    {target : State} {type : DatasetType} :
    table.check current target type = .ok () ↔
      ∃ rule ∈ rules, rule.target = target ∧ rule.type = type ∧
        ∃ state ∈ rule.sources, current = some state := by
  obtain ⟨rfl, distinct⟩ := ofRules_eq_ok_iff.mp made
  exact check_eq_ok_iff distinct

/-- A move that is refused is refused with the same error whatever is wrong with it. -/
theorem check_eq_error {table : TransitionTable} {current : Option State} {target : State}
    {type : DatasetType} (refused : table.check current target type ≠ .ok ()) :
    table.check current target type = .error .stateTransitionNotAllowed := by
  unfold check at refused ⊢
  split at refused
  · split at refused
    · exact absurd rfl refused
    · simp_all
  · rfl

/-- Tables that allow the same moves answer every check alike. -/
theorem check_congr {first second : TransitionTable} {current : Option State} {target : State}
    {type : DatasetType}
    (same : first.check current target type = .ok () ↔ second.check current target type = .ok ()) :
    first.check current target type = second.check current target type := by
  by_cases allowed : first.check current target type = .ok ()
  · rw [allowed, same.mp allowed]
  · rw [check_eq_error allowed, check_eq_error (mt same.mpr allowed)]

/-- A table means its list of rules. It can be made exactly of rules for different targets and
types, and else the first rule that repeats an earlier one is named; it allows what its rules allow,
has as many of them as the list, and answers alike if they come in another order. However the types
are spelled in the documents of the rules, the same rules are read. -/
theorem table_means_its_rules (rules : List Transition) :
    ((∃ table, ofRules rules = .ok table) ↔ (rules.map Transition.entry).Nodup) ∧
      (∀ error, ofRules rules = .error error ↔
        ∃ before rule after, rules = before ++ rule :: after ∧
          (before.map Transition.entry).Nodup ∧ rule.entry ∈ before.map Transition.entry ∧
          error = rule.repetition) ∧
      (∀ table, ofRules rules = .ok table →
        (∀ current target type, table.check current target type = .ok () ↔
          ∃ rule ∈ rules, rule.target = target ∧ rule.type = type ∧
            ∃ state ∈ rule.sources, current = some state) ∧
        table.size = rules.length ∧
        ∀ reordered, reordered.Perm rules → ∃ other, ofRules reordered = .ok other ∧
          ∀ current target type,
            other.check current target type = table.check current target type) ∧
      ∀ texts, texts.map DatasetType.resolve? = rules.map (fun rule => some rule.type) →
        Json.decodeList Transition.ofJson? (.array (List.zipWith Transition.spelled rules texts)) =
          some rules := by
  refine ⟨⟨fun ⟨table, made⟩ => (ofRules_eq_ok_iff.mp made).2, exists_ofRules⟩,
    fun error => ofRules_eq_error_iff, fun table made => ?_, fun texts named =>
    Transition.decodeList_spelled named⟩
  obtain ⟨listed, distinct⟩ := ofRules_eq_ok_iff.mp made
  refine ⟨fun current target type => check_eq_ok_iff_of_ofRules made,
    size_eq_length.trans (congrArg List.length listed), fun reordered perm => ?_⟩
  obtain ⟨other, again⟩ := exists_ofRules ((perm.map Transition.entry).nodup_iff.mpr distinct)
  refine ⟨other, again, fun current target type => check_congr ?_⟩
  rw [check_eq_ok_iff_of_ofRules again, check_eq_ok_iff_of_ofRules made]
  simp only [perm.mem_iff]

/-- Two rules may be given in either order, and with the oldest name of a type; a third one that
names the type of the first in another way is refused. -/
theorem table_means_its_rules_sample :
    let rules : List Transition :=
      [⟨.published, .filterable, [.created]⟩, ⟨.published, .nomis, [.associated, .published]⟩]
    let again : List Transition := rules ++ [⟨.published, .filterable, [.associated]⟩]
    let texts := ["v4", "nomis", ""]
    ∃ table other, ofRules rules = .ok table ∧ table.size = 2 ∧
      table.check (some .created) .published .filterable = .ok () ∧
      rules.reverse.Perm rules ∧ ofRules rules.reverse = .ok other ∧
      other.check (some .created) .published .filterable = .ok () ∧
      texts.map DatasetType.resolve? = again.map (fun rule => some rule.type) ∧
      Json.decodeList Transition.ofJson? (.array (List.zipWith Transition.spelled again texts)) =
        some again ∧
      ofRules again =
        .error (.invalidConfig "duplicate transition rule for published (filterable)") := by
  intro rules again texts
  obtain ⟨made, -, means, -⟩ := table_means_its_rules rules
  obtain ⟨-, refused, -, read⟩ := table_means_its_rules again
  obtain ⟨table, made⟩ := made.mpr (by decide)
  obtain ⟨allows, size, reorders⟩ := means table made
  obtain ⟨other, reordered, same⟩ := reorders rules.reverse (List.reverse_perm rules)
  have allowed : table.check (some .created) .published .filterable = .ok () :=
    (allows _ _ _).mpr ⟨_, List.mem_cons_self, rfl, rfl, .created, List.mem_cons_self, rfl⟩
  refine ⟨table, other, made, size, allowed, List.reverse_perm rules, reordered,
    (same _ _ _).trans allowed, by decide, read texts (by decide), ?_⟩
  exact (refused _).mpr ⟨rules, _, [], rfl, by decide, by decide, by decide⟩

end TransitionTable

end ReleaseCatalog
