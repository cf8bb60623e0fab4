/-
Steps that follow a plan. A plan is a list of writes that is known before the steps are taken, up to
the readings of the calendar on the way. Steps follow it when at every moment the writes that they
have made are the first ones of the plan, in its order, and when all of them have been made by the
time the steps succeed. Following is shown piece by piece, with one rule for each way in which steps
are put together.
-/

import ReleaseCatalog.Proofs.Site.Basic

namespace ReleaseCatalog

variable {τ υ α β : Type}

namespace Site

/-- The other site is this one after writes, however much time has passed meanwhile. -/
def Made (site : Site) (writes : List Write) (after : Site) : Prop :=
  ∃ calendar, after = (site.make writes).withCalendar calendar

/-- The first writes of a plan have been made, and all of them when the steps succeeded, with a
value as required. The plan depends on readings of the calendar. -/
def Follows (site : Site) (plan : τ → List Write) (holds : τ → α → Prop)
    (outcome : Option (Result α)) (last : Site) : Prop :=
  ∃ readings writes, site.Made writes last ∧ writes <+: plan readings ∧
    ∀ value, outcome = some (.ok value) → writes = plan readings ∧ holds readings value

theorem Made.refl (site : Site) : site.Made [] site :=
  ⟨site.calendar, by rw [make_nil]; rfl⟩

theorem Made.trans {site middle last : Site} {first rest : List Write}
    (earlier : site.Made first middle) (made : middle.Made rest last) :
    site.Made (first ++ rest) last := by
  obtain ⟨calendar, rfl⟩ := earlier
  obtain ⟨final, rfl⟩ := made
  exact ⟨final, by rw [make_append]; rfl⟩

theorem made_withCalendar (site : Site) (writes : List Write) (calendar : Nat → Timestamp) :
    site.Made writes ((site.make writes).withCalendar calendar) :=
  ⟨calendar, rfl⟩

theorem made_nil_withCalendar (site : Site) (calendar : Nat → Timestamp) :
    site.Made [] (site.withCalendar calendar) :=
  ⟨calendar, by rw [make_nil]⟩

theorem made_store (site : Site) (call : StoreCall) :
    site.Made (call.writes site.now site.catalog) (site.store call).2 := by
  rw [store_snd]
  exact made_withCalendar site _ _

theorem Made.catalog {site after : Site} {writes : List Write} (made : site.Made writes after) :
    after.catalog = site.catalog.writeAll writes := by
  obtain ⟨calendar, rfl⟩ := made
  rfl

theorem Made.journal {site after : Site} {writes : List Write} (made : site.Made writes after) :
    after.journal = site.journal ++ writes := by
  obtain ⟨calendar, rfl⟩ := made
  rfl

theorem Made.arena {site after : Site} {writes : List Write} (made : site.Made writes after) :
    after.arena = site.arena := by
  obtain ⟨calendar, rfl⟩ := made
  rfl

section Plans

variable {plan : τ → List Write} {holds : τ → α → Prop}

/-- Where nothing has been written yet, every plan is followed. -/
theorem follows_none [Inhabited τ] (site : Site) : site.Follows plan holds none site :=
  ⟨default, [], .refl site, List.nil_prefix, nofun⟩

/-- Steps that were given up when the first writes had been made follow the plan. -/
theorem follows_begun {site : Site} (readings : τ) {writes : List Write}
    (begun : writes <+: plan readings) : site.Follows plan holds none (site.make writes) :=
  ⟨readings, writes, ⟨_, rfl⟩, begun, nofun⟩

/-- Steps that fail before they write anything follow every plan. -/
theorem follows_error [Inhabited τ] (site : Site) (error : CatalogError) :
    site.Follows plan holds (some (.error error)) site :=
  ⟨default, [], .refl site, List.nil_prefix, nofun⟩

/-- What follows a plan follows every plan that begins with it and is no longer on success. -/
theorem Follows.mono {other : υ → List Write} {weaker : υ → α → Prop} {site last : Site}
    {outcome : Option (Result α)} (follows : site.Follows plan holds outcome last)
    (translate : ∀ readings, ∃ others, plan readings = other others ∧
      ∀ value, holds readings value → weaker others value) :
    site.Follows other weaker outcome last := by
  obtain ⟨readings, writes, made, begun, whole⟩ := follows
  obtain ⟨others, same, implies⟩ := translate readings
  refine ⟨others, writes, made, same ▸ begun, fun value succeeded => ?_⟩
  exact ⟨same ▸ (whole value succeeded).1, implies value (whole value succeeded).2⟩

/-- Steps that follow a plan follow it also when they break off. -/
theorem Follows.none {site last : Site} {outcome : Option (Result α)}
    (follows : site.Follows plan holds outcome last) {weaker : τ → β → Prop} :
    site.Follows plan weaker (none : Option (Result β)) last := by
  obtain ⟨readings, writes, made, begun, -⟩ := follows
  exact ⟨readings, writes, made, begun, nofun⟩

/-- Steps that follow a plan follow it also when an error takes the place of their result. -/
theorem Follows.error {site last : Site} {outcome : Option (Result α)}
    (follows : site.Follows plan holds outcome last) {weaker : τ → β → Prop}
    (error : CatalogError) : site.Follows plan weaker (some (.error error)) last := by
  obtain ⟨readings, writes, made, begun, -⟩ := follows
  exact ⟨readings, writes, made, begun, nofun⟩

/-- A plan can be followed from a later time on. -/
theorem Follows.of_withCalendar {site last : Site} {calendar : Nat → Timestamp}
    {outcome : Option (Result α)}
    (follows : (site.withCalendar calendar).Follows plan holds outcome last) :
    site.Follows plan holds outcome last := by
  obtain ⟨readings, writes, made, rest⟩ := follows
  exact ⟨readings, writes, (made_nil_withCalendar site calendar).trans made, rest⟩

end Plans

end Site

namespace Steps

open Program

variable {site : Site} {plan : τ → List Write} {holds : τ → α → Prop}

theorem follows_done_ok {value : α} (readings : τ) (noMore : plan readings = [])
    (held : holds readings value) :
    Ensures disturbed (site.Follows plan holds) (.done (.ok value)) site := by
  refine ⟨readings, [], .refl site, List.nil_prefix, fun other same => ?_⟩
  cases same
  exact ⟨noMore.symm, held⟩

theorem follows_done_error [Inhabited τ] (error : CatalogError) :
    Ensures disturbed (site.Follows plan holds) (.done (.error error)) site :=
  site.follows_error error

/-- A call on the store follows its own writes. -/
theorem follows_store (call : StoreCall) :
    Ensures disturbed (site.Follows (fun now => call.writes now site.catalog)
      fun now value => (site.catalog.perform now call).1 = .ok value) (store call) site := by
  refine ⟨⟨site.now, [], .refl site, List.nil_prefix, nofun⟩, ?_, ?_⟩
  · rintro last ⟨writes, begun, rfl⟩
    exact Site.follows_begun site.now begun
  · intro answer after carried
    cases carried with
    | served =>
      refine ⟨site.now, _, site.made_store call, List.prefix_rfl, fun value same => ⟨rfl, ?_⟩⟩
      exact Option.some_inj.mp same
    | failed _ error => exact ⟨site.now, [], .refl site, List.nil_prefix, nofun⟩

theorem follows_store_of (call : StoreCall) {holds : τ → call.Value → Prop}
    (translate : ∀ now, ∃ readings, call.writes now site.catalog = plan readings ∧
      ∀ value, (site.catalog.perform now call).1 = .ok value → holds readings value) :
    Ensures disturbed (site.Follows plan holds) (store call) site :=
  (follows_store call).mono fun _ _ follows => follows.mono translate

/-- Steps that begin with a call on the store end as required if they do so when the call is given
up midway, when it fails, and when it succeeds. -/
theorem ensures_store_andThen {post : Option (Result β) → Site → Prop} {call : StoreCall}
    {next : call.Value → Steps (Result β)}
    (given : ∀ writes, writes <+: call.writes site.now site.catalog → post none (site.make writes))
    (failed : ∀ error calendar, post (some (.error error)) (site.withCalendar calendar))
    (answered : ∀ value calendar, (site.catalog.perform site.now call).1 = .ok value →
      Ensures disturbed post (next value)
        ((site.make (call.writes site.now site.catalog)).withCalendar calendar)) :
    Ensures disturbed post ((store call).andThen next) site := by
  refine ⟨?_, ?_, fun answer after carried => ?_⟩
  · simpa using given [] List.nil_prefix
  · rintro last ⟨writes, begun, rfl⟩
    exact given writes begun
  · cases carried with
    | failed _ error => exact failed error site.calendar
    | served =>
      show Ensures disturbed post (andThen (.done (site.store call).1) next) (site.store call).2
      rw [Site.store_snd]
      cases answer : (site.store call).1 with
      | error error =>
        rw [Catalog.writes_eq_nil_of_error answer, Site.make_nil]
        exact failed error _
      | ok value => exact answered value _ answer

/-- Asking a generator writes nothing. -/
theorem follows_generate (generator : Generator) (request : GenerateRequest) :
    Ensures disturbed (site.Follows (fun _ : Unit => []) fun _ _ => True)
      (generate generator request) site := by
  refine ⟨site.follows_none, ?_, ?_⟩
  · rintro last ⟨writes, begun, rfl⟩
    exact Site.follows_begun () begun
  · intro answer after carried
    cases carried with
    | served | generated => exact ⟨(), [], .refl site, List.nil_prefix, fun _ _ => ⟨rfl, trivial⟩⟩

/-- Steps that continue others follow the plan of the others and then their own. -/
theorem follows_andThen [Inhabited υ] {first : Steps (Result α)}
    {next : α → Steps (Result β)} (rest : τ → υ → List Write) (ends : τ → υ → β → Prop)
    (one : Ensures disturbed (site.Follows plan holds) first site)
    (two : ∀ readings value calendar, holds readings value →
      Ensures disturbed
        (((site.make (plan readings)).withCalendar calendar).Follows (rest readings)
          (ends readings))
        (next value) ((site.make (plan readings)).withCalendar calendar)) :
    Ensures disturbed
      (site.Follows (fun readings : τ × υ => plan readings.1 ++ rest readings.1 readings.2)
        fun readings => ends readings.1 readings.2)
      (first.andThen next) site := by
  refine Ensures.bind (one.mono fun outcome middle follows => ?_)
  obtain ⟨readings, writes, made, begun, whole⟩ := follows
  have early : ∀ {outcome : Option (Result β)}, (∀ value, outcome ≠ some (.ok value)) →
      site.Follows (fun readings : τ × υ => plan readings.1 ++ rest readings.1 readings.2)
        (fun readings => ends readings.1 readings.2) outcome middle :=
    fun unsuccessful => ⟨(readings, default), writes, made,
      begun.trans (List.prefix_append _ _), fun value same => absurd same (unsuccessful value)⟩
  match outcome with
  | none => exact early nofun
  | some (.error error) => exact early nofun
  | some (.ok value) =>
    obtain ⟨rfl, held⟩ := whole value rfl
    obtain ⟨calendar, rfl⟩ := made
    refine (two readings value calendar held).mono fun final last follows => ?_
    obtain ⟨others, more, made, begun, whole⟩ := follows
    refine ⟨(readings, others), _, (site.made_withCalendar _ calendar).trans made,
      (List.prefix_append_right_inj _).mpr begun, fun result succeeded => ?_⟩
    exact ⟨congrArg _ (whole result succeeded).1, (whole result succeeded).2⟩

/-- A call that only reads does not touch the plan of the steps that continue it. -/
theorem follows_read_andThen [Inhabited τ] {call : StoreCall}
    (reads : ∀ now catalog, call.writes now catalog = []) {next : call.Value → Steps (Result α)}
    (two : ∀ value calendar, (∃ now, (site.catalog.perform now call).1 = .ok value) →
      Ensures disturbed ((site.withCalendar calendar).Follows plan holds) (next value)
        (site.withCalendar calendar)) :
    Ensures disturbed (site.Follows plan holds) ((store call).andThen next) site := by
  refine (follows_andThen (fun _ => plan) (fun _ => holds) (follows_store call)
    fun now value calendar answered => ?_).mono fun outcome last follows => follows.mono ?_
  · rw [reads, Site.make_nil]
    exact two value calendar ⟨now, answered⟩
  · exact fun readings => ⟨readings.2, by simp [reads], fun _ => id⟩

/-- Steps that need a value follow their plan if they do so with the value. -/
theorem follows_require [Inhabited τ] {result : Result β}
    {next : β → Steps (Result α)}
    (two : ∀ value, result = .ok value →
      Ensures disturbed (site.Follows plan holds) (next value) site) :
    Ensures disturbed (site.Follows plan holds) (require result next) site :=
  ensures_require (fun error => site.follows_error error) two

/-- Waiting a little does nothing to a site. -/
theorem ensures_pause_bind {post : Option α → Site → Prop} {next : Unit → Steps α}
    (early : post none site) (two : Ensures disturbed post (next ()) site) :
    Ensures disturbed post (pause.bind next) site := by
  refine ⟨early, ?_, ?_⟩
  · rintro last ⟨writes, begun, rfl⟩
    rw [List.prefix_nil.mp begun, Site.make_nil]
    exact early
  · intro answer after carried
    cases carried with
    | served => exact two

/-- Reading the calendar writes nothing. -/
theorem follows_now [Inhabited τ] {next : Timestamp → Steps (Result α)}
    (two : ∀ now calendar, Ensures disturbed ((site.withCalendar calendar).Follows plan holds)
      (next now) (site.withCalendar calendar)) :
    Ensures disturbed (site.Follows plan holds) (now.bind next) site := by
  refine ⟨site.follows_none, ?_, ?_⟩
  · rintro last ⟨writes, begun, rfl⟩
    rw [List.prefix_nil.mp begun, Site.make_nil]
    exact site.follows_none
  · intro answer after carried
    cases carried with
    | served =>
      exact (two site.now _).mono fun outcome last follows => follows.of_withCalendar

end Steps

end ReleaseCatalog
