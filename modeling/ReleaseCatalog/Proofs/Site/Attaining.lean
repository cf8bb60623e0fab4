/-
Steps that attain a plan. They follow it, and moreover they do not fail any more once they have made
its last write. So whether all of the plan was written tells whether they have succeeded, which for
steps that only follow a plan it does not.
-/

import ReleaseCatalog.Proofs.Site.Following

namespace ReleaseCatalog

variable {τ υ α β : Type}

namespace Site

/-- The plan is followed, and steps that failed have not come to its last write. -/
def Attains (site : Site) (plan : τ → List Write) (holds : τ → α → Prop)
    (outcome : Option (Result α)) (last : Site) : Prop :=
  ∃ readings writes, site.Made writes last ∧ writes <+: plan readings ∧
    (∀ value, outcome = some (.ok value) → writes = plan readings ∧ holds readings value) ∧
    ∀ error, outcome = some (.error error) → writes <+: (plan readings).dropLast

section Plans

variable {plan : τ → List Write} {holds : τ → α → Prop} {site last : Site}
  {outcome : Option (Result α)}

/-- Steps that follow a plan attain it if they write nothing when they fail. -/
theorem Follows.attains (follows : site.Follows plan holds outcome last)
    (silent : ∀ error, outcome = some (.error error) → site.Made [] last) :
    site.Attains plan holds outcome last := by
  obtain ⟨readings, writes, made, begun, whole⟩ := follows
  refine ⟨readings, writes, made, begun, whole, fun error failed => ?_⟩
  have nothing : writes = [] :=
    List.append_cancel_left (made.journal.symm.trans (silent error failed).journal)
  rw [nothing]
  exact List.nil_prefix

theorem attains_none [Inhabited τ] (site : Site) :
    site.Attains plan holds none site :=
  (site.follows_none).attains nofun

theorem attains_error [Inhabited τ] (site : Site) (error : CatalogError) :
    site.Attains plan holds (some (.error error)) site :=
  (site.follows_error error).attains fun _ _ => .refl site

/-- What attains a plan attains one that has the same writes. -/
theorem Attains.mono {other : υ → List Write} {weaker : υ → α → Prop}
    (attains : site.Attains plan holds outcome last)
    (translate : ∀ readings, ∃ others, plan readings = other others ∧
      ∀ value, holds readings value → weaker others value) :
    site.Attains other weaker outcome last := by
  obtain ⟨readings, writes, made, begun, whole, failed⟩ := attains
  obtain ⟨others, same, implies⟩ := translate readings
  rw [same] at begun failed whole
  exact ⟨others, writes, made, begun, fun value succeeded =>
    ⟨(whole value succeeded).1, implies value (whole value succeeded).2⟩, failed⟩

/-- A plan can be attained from a later time on. -/
theorem Attains.of_withCalendar {calendar : Nat → Timestamp}
    (attains : (site.withCalendar calendar).Attains plan holds outcome last) :
    site.Attains plan holds outcome last := by
  obtain ⟨readings, writes, made, rest⟩ := attains
  exact ⟨readings, writes, (made_nil_withCalendar site calendar).trans made, rest⟩

end Plans

end Site

namespace Steps

open Program

variable {site : Site} {plan : τ → List Write} {holds : τ → α → Prop}

/-- Steps that fail before they have written anything, or else go on to attain their plan. -/
theorem attains_require [Inhabited τ] {result : Result β} {next : β → Steps (Result α)}
    (two : ∀ value, result = .ok value →
      Ensures disturbed (site.Attains plan holds) (next value) site) :
    Ensures disturbed (site.Attains plan holds) (require result next) site :=
  ensures_require (fun error => site.attains_error error) two

/-- A call on the store either fails and writes nothing, or makes all of its writes. -/
theorem attains_store_of (call : StoreCall) {holds : τ → call.Value → Prop}
    (translate : ∀ now, ∃ readings, call.writes now site.catalog = plan readings ∧
      ∀ value, (site.catalog.perform now call).1 = .ok value → holds readings value) :
    Ensures disturbed (site.Attains plan holds) (store call) site := by
  rw [← andThen_done (store call)]
  refine ensures_store_andThen (fun writes begun => ?_) (fun error calendar => ?_)
    fun value calendar answered => ?_
  · obtain ⟨readings, same, -⟩ := translate site.now
    exact (Site.follows_begun readings (same ▸ begun)).attains nofun
  · obtain ⟨readings, -, -⟩ := translate site.now
    exact ⟨readings, [], site.made_nil_withCalendar calendar, List.nil_prefix, nofun,
      fun _ _ => List.nil_prefix⟩
  · obtain ⟨readings, same, held⟩ := translate site.now
    refine ⟨readings, _, site.made_withCalendar _ calendar, same ▸ List.prefix_rfl, ?_, nofun⟩
    rintro other succeeded
    cases succeeded
    exact ⟨same, held value answered⟩

/-- A call that only reads does not touch the plan of the steps that continue it. -/
theorem attains_read_andThen [Inhabited τ] {call : StoreCall}
    (reads : ∀ now catalog, call.writes now catalog = []) {next : call.Value → Steps (Result α)}
    (two : ∀ value calendar, (∃ now, (site.catalog.perform now call).1 = .ok value) →
      Ensures disturbed ((site.withCalendar calendar).Attains plan holds) (next value)
        (site.withCalendar calendar)) :
    Ensures disturbed (site.Attains plan holds) ((store call).andThen next) site := by
  refine ensures_store_andThen (fun writes begun => ?_)
    (fun error calendar => (Site.attains_error _ error).of_withCalendar)
    fun value calendar answered => ?_
  · rw [reads] at begun
    rw [List.prefix_nil.mp begun, Site.make_nil]
    exact site.attains_none
  · rw [reads, Site.make_nil]
    exact (two value calendar ⟨_, answered⟩).mono fun _ _ attains => attains.of_withCalendar

/-- Reading the calendar writes nothing. -/
theorem attains_now [Inhabited τ] {next : Timestamp → Steps (Result α)}
    (two : ∀ now calendar, Ensures disturbed ((site.withCalendar calendar).Attains plan holds)
      (next now) (site.withCalendar calendar)) :
    Ensures disturbed (site.Attains plan holds) (now.bind next) site := by
  refine ⟨site.attains_none, ?_, ?_⟩
  · rintro last ⟨writes, begun, rfl⟩
    rw [List.prefix_nil.mp begun, Site.make_nil]
    exact site.attains_none
  · intro answer after carried
    cases carried with
    | served => exact (two site.now _).mono fun _ _ attains => attains.of_withCalendar

/-- Steps that follow a plan, and then others that attain theirs, attain both plans together, as
long as the second one is never empty. -/
theorem attains_andThen [Inhabited υ] {first : Steps (Result α)} {next : α → Steps (Result β)}
    (rest : τ → υ → List Write) (ends : τ → υ → β → Prop)
    (more : ∀ readings others, rest readings others ≠ [])
    (one : Ensures disturbed (site.Follows plan holds) first site)
    (two : ∀ readings value calendar, holds readings value →
      Ensures disturbed
        (((site.make (plan readings)).withCalendar calendar).Attains (rest readings)
          (ends readings))
        (next value) ((site.make (plan readings)).withCalendar calendar)) :
    Ensures disturbed
      (site.Attains (fun readings : τ × υ => plan readings.1 ++ rest readings.1 readings.2)
        fun readings => ends readings.1 readings.2)
      (first.andThen next) site := by
  refine Ensures.bind (one.mono fun outcome middle follows => ?_)
  obtain ⟨readings, writes, made, begun, whole⟩ := follows
  have dropLast (others : υ) : (plan readings ++ rest readings others).dropLast =
      plan readings ++ (rest readings others).dropLast :=
    List.dropLast_append_of_ne_nil (more readings others)
  have early : ∀ {outcome : Option (Result β)}, (∀ value, outcome ≠ some (.ok value)) →
      site.Attains (fun readings : τ × υ => plan readings.1 ++ rest readings.1 readings.2)
        (fun readings => ends readings.1 readings.2) outcome middle :=
    fun unsuccessful => ⟨(readings, default), writes, made,
      begun.trans (List.prefix_append _ _), fun value same => absurd same (unsuccessful value),
      fun _ _ => dropLast default ▸ begun.trans (List.prefix_append _ _)⟩
  match outcome with
  | none => exact early nofun
  | some (.error error) => exact early nofun
  | some (.ok value) =>
    obtain ⟨rfl, held⟩ := whole value rfl
    obtain ⟨calendar, rfl⟩ := made
    refine (two readings value calendar held).mono fun final last attains => ?_
    obtain ⟨others, more, made, begun, whole, failed⟩ := attains
    refine ⟨(readings, others), _, (site.made_withCalendar _ calendar).trans made,
      (List.prefix_append_right_inj _).mpr begun, fun result succeeded => ?_,
      fun error same => ?_⟩
    · exact ⟨congrArg _ (whole result succeeded).1, (whole result succeeded).2⟩
    · exact dropLast others ▸ (List.prefix_append_right_inj _).mpr (failed error same)

/-- Steps that attain a plan attain it also when their value is changed in the end. -/
theorem attains_andThen_done {first : Steps (Result α)} {change : α → β} {ends : τ → β → Prop}
    (implies : ∀ readings value, holds readings value → ends readings (change value))
    (one : Ensures disturbed (site.Attains plan holds) first site) :
    Ensures disturbed (site.Attains plan ends)
      (first.andThen fun value => .done (.ok (change value))) site := by
  refine Ensures.bind (one.mono fun outcome last attains => ?_)
  obtain ⟨readings, writes, made, begun, whole, failed⟩ := attains
  match outcome with
  | none => exact ⟨readings, writes, made, begun, nofun, nofun⟩
  | some (.error error) =>
    exact ⟨readings, writes, made, begun, nofun, fun _ _ => failed error rfl⟩
  | some (.ok value) =>
    refine ⟨readings, writes, made, begun, fun result succeeded => ?_, nofun⟩
    cases succeeded
    exact ⟨(whole value rfl).1, implies _ _ (whole value rfl).2⟩

end Steps

end ReleaseCatalog
