/-
Sites: what requests work on. A site has a catalog, the arena of its locks, and a calendar of which
only the next readings are known. It also keeps a journal of all writes to the catalog, which no
request can read.

On a site that serves, every call is carried out. On a disturbed site a call on the store may fail
instead, which leaves the catalog alone; a generator may answer anything; a lock may be refused; and
an action with an expiry may be given up midway, when some of its writes have been made, the first
ones first. What others do meanwhile is a matter of the statements that need it.
-/

import ReleaseCatalog.Lock.Arena
import ReleaseCatalog.Proofs.Program.Requests
import ReleaseCatalog.Proofs.Store.Writes

namespace ReleaseCatalog

/-- What requests work on. -/
structure Site where
  catalog : Catalog := {}
  /-- All writes to the catalog so far, the earliest first. -/
  journal : List Write := []
  arena : Arena := {}
  /-- The next readings of the calendar. -/
  calendar : Nat → Timestamp := fun _ => .sample

namespace Site

/-- What the calendar shows. -/
def now (site : Site) : Timestamp :=
  site.calendar 0

/-- The site after a reading of the calendar. -/
def later (site : Site) : Site :=
  { site with calendar := fun reading => site.calendar (reading + 1) }

/-- The site at another time. -/
def withCalendar (site : Site) (calendar : Nat → Timestamp) : Site :=
  { site with calendar := calendar }

/-- The site with another arena. -/
def withArena (site : Site) (arena : Arena) : Site :=
  { site with arena := arena }

/-- The site after writes to its catalog. -/
def make (site : Site) (writes : List Write) : Site :=
  { site with
    catalog := site.catalog.writeAll writes
    journal := site.journal ++ writes }

/-- The answer of the store to a call, and the site after it. -/
def store (call : StoreCall) (site : Site) : call.Answer × Site :=
  ((site.catalog.perform site.now call).1,
    { site.later with
      catalog := (site.catalog.perform site.now call).2
      journal := site.journal ++ call.writes site.now site.catalog })

/-- Asks for the lock of a key without waiting in line for it. -/
def lock (key : String) (site : Site) : Result LockToken × Site :=
  let attempt := (site.arena.request key).1
  let arena := (site.arena.request key).2
  if arena.isThrough attempt then (.ok attempt.token, { site with arena := arena.claim attempt })
  else (.error (arena.timedOut key), { site with arena := arena.withdraw attempt })

/-- The site after a lock was given back. -/
def unlock (token : LockToken) (site : Site) : Site :=
  { site with arena := (site.arena.release token).2 }

/-- What an action answers on a site that serves, and the site after it. -/
def act (action : Action) (site : Site) : action.Answer × Site :=
  match action with
  | .store call => site.store call
  | .generate _ _ => (.ok (), site)
  | .pause => ((), site)
  | .now => (site.now, site.later)

/-- What a call answers on a site that serves, and the site after it. -/
def perform (call : Call) (site : Site) : call.Answer × Site :=
  match call with
  | .act action => site.act action
  | .actBefore _ action => (some (site.act action).1, (site.act action).2)
  | .instant => ((0 : Nat), site)
  | .acquire _ key => site.lock key
  | .hold key => site.lock key
  | .release _ token => ((), site.unlock token)

/-- What a call answers, and the site after it, when the store fails at some calls. -/
def performExcept (fails : StoreCall → Bool) (call : Call) (site : Site) : call.Answer × Site :=
  match call with
  | .act (.store call) => if fails call then (.error .database, site) else site.store call
  | call => site.perform call

/-- What a call answers, and the site after it, when some calls on the store fail. -/
def performUnless (fails : Site → StoreCall → Option CatalogError) (call : Call) (site : Site) :
    call.Answer × Site :=
  match call with
  | .act (.store call) =>
    match fails site call with
    | some error => (.error error, site)
    | none => site.store call
  | call => site.perform call

/-! ### Disturbed sites -/

/-- What an action may answer on a disturbed site, and the site that it may leave. -/
inductive Carries (site : Site) : (action : Action) → action.Answer → Site → Prop
  | served (action : Action) : Carries site action (site.act action).1 (site.act action).2
  | failed (call : StoreCall) (error : CatalogError) :
    Carries site (.store call) (.error error) site
  | generated (generator : Generator) (request : GenerateRequest) (answer : Result Unit) :
    Carries site (.generate generator request) answer site

/-- The writes that an action would make. -/
def writes (site : Site) : Action → List Write
  | .store call => call.writes site.now site.catalog
  | _ => []

/-- The writes that a call would make. -/
def callWrites (site : Site) : Call → List Write
  | .act action => site.writes action
  | .actBefore _ action => site.writes action
  | _ => []

/-- The site that an action may leave when it is given up midway. -/
def GivesUp (action : Action) (site after : Site) : Prop :=
  ∃ writes, writes <+: site.writes action ∧ after = site.make writes

/-- What a call may answer on a disturbed site, and the site that it may leave. -/
inductive Answers (site : Site) : (call : Call) → call.Answer → Site → Prop
  | act {action : Action} {answer : action.Answer} {after : Site} :
    Carries site action answer after → Answers site (.act action) answer after
  | inTime (expiry : Instant) {action : Action} {answer : action.Answer} {after : Site} :
    Carries site action answer after → Answers site (.actBefore expiry action) (some answer) after
  | late (expiry : Instant) {action : Action} {after : Site} :
    GivesUp action site after → Answers site (.actBefore expiry action) none after
  | instant (reading : Instant) : Answers site .instant reading site
  | acquired (kind : LockKind) (key : String) :
    Answers site (.acquire kind key) (site.lock key).1 (site.lock key).2
  | notAcquired (kind : LockKind) (key : String) (error : CatalogError) :
    Answers site (.acquire kind key) (.error error) site
  | held (key : String) : Answers site (.hold key) (site.lock key).1 (site.lock key).2
  | notHeld (key : String) (error : CatalogError) :
    Answers site (.hold key) (.error error) site
  | released (kind : LockKind) (token : LockToken) :
    Answers site (.release kind token) () (site.unlock token)

end Site

/-- Steps on a disturbed site, with nobody else there. -/
def Steps.disturbed : Program.Setting Action.Answer Site where
  answers action site answer after := site.Carries action answer after
  givesUp action site after := Site.GivesUp action site after

/-- Requests on a disturbed site, with nobody else there. -/
def Request.disturbed : Program.Setting Call.Answer Site where
  answers call site answer after := site.Answers call answer after

namespace Site

/-- A call on the store does to a site what its writes do, at the price of one reading. -/
theorem store_snd (site : Site) (call : StoreCall) :
    (site.store call).2 = (site.make (call.writes site.now site.catalog)).later := by
  unfold store make later
  rw [Catalog.perform_eq_writeAll]

@[simp]
theorem make_nil (site : Site) : site.make [] = site := by
  simp [make]

theorem make_append (site : Site) (first rest : List Write) :
    site.make (first ++ rest) = (site.make first).make rest := by
  simp [make, Catalog.writeAll_append]

@[simp]
theorem withArena_withArena (site : Site) (first second : Arena) :
    (site.withArena first).withArena second = site.withArena second := rfl

@[simp]
theorem arena_withArena (site : Site) (arena : Arena) : (site.withArena arena).arena = arena := rfl

theorem lock_of_through {site : Site} {key : String}
    (through : (site.arena.request key).2.isThrough (site.arena.request key).1 = true) :
    site.lock key = (.ok (site.arena.request key).1.token,
      site.withArena ((site.arena.request key).2.claim (site.arena.request key).1)) := by
  simp only [lock, if_pos through, withArena]

theorem lock_of_not_through {site : Site} {key : String}
    (refused : ¬(site.arena.request key).2.isThrough (site.arena.request key).1 = true) :
    site.lock key = (.error ((site.arena.request key).2.timedOut key),
      site.withArena ((site.arena.request key).2.withdraw (site.arena.request key).1)) := by
  simp only [lock, if_neg refused, withArena]

/-- Asking for a lock changes the arena only. -/
theorem lock_snd (site : Site) (key : String) :
    ∃ arena, (site.lock key).2 = site.withArena arena := by
  by_cases through : (site.arena.request key).2.isThrough (site.arena.request key).1 = true
  · exact ⟨_, congrArg Prod.snd (lock_of_through through)⟩
  · exact ⟨_, congrArg Prod.snd (lock_of_not_through through)⟩

/-- A call makes the first of its writes at most. -/
theorem Answers.made {site after : Site} {call : Call} {answer : call.Answer}
    (answered : site.Answers call answer after) :
    ∃ writes, writes <+: site.callWrites call ∧
      after.catalog = site.catalog.writeAll writes ∧ after.journal = site.journal ++ writes := by
  have carried {action : Action} {answer : action.Answer}
      (carried : site.Carries action answer after) :
      ∃ writes, writes <+: site.writes action ∧
        after.catalog = site.catalog.writeAll writes ∧ after.journal = site.journal ++ writes := by
    cases carried with
    | served =>
      refine ⟨site.writes action, List.prefix_rfl, ?_⟩
      cases action with
      | store call => exact ⟨Catalog.perform_eq_writeAll _ _ _, rfl⟩
      | generate | pause | now => exact ⟨rfl, (List.append_nil _).symm⟩
    | failed | generated => exact ⟨[], List.nil_prefix, rfl, (List.append_nil _).symm⟩
  cases answered with
  | act done => exact carried done
  | inTime _ done => exact carried done
  | late _ given =>
    obtain ⟨writes, begun, rfl⟩ := given
    exact ⟨writes, begun, rfl, rfl⟩
  | instant | notAcquired | notHeld | released =>
    exact ⟨[], List.nil_prefix, rfl, (List.append_nil _).symm⟩
  | acquired _ key | held key =>
    obtain ⟨arena, same⟩ := site.lock_snd key
    rw [same]
    exact ⟨[], List.nil_prefix, rfl, (List.append_nil _).symm⟩

/-- A site that serves does what a disturbed one may do. -/
theorem answers_perform (site : Site) (call : Call) :
    site.Answers call (site.perform call).1 (site.perform call).2 := by
  cases call with
  | act action => exact .act (.served action)
  | actBefore expiry action => exact .inTime expiry (.served action)
  | instant => exact .instant 0
  | acquire kind key => exact .acquired kind key
  | hold key => exact .held key
  | release kind token => exact .released kind token

theorem answers_performExcept (fails : StoreCall → Bool) (site : Site) (call : Call) :
    site.Answers call (site.performExcept fails call).1 (site.performExcept fails call).2 := by
  cases call with
  | act action =>
    cases action with
    | store call =>
      refine .act ?_
      show site.Carries (.store call) (if fails call then (_, site) else site.store call).1
        (if fails call then (_, site) else site.store call).2
      cases fails call with
      | false => exact .served (.store call)
      | true => exact .failed call .database
    | generate | pause | now => exact site.answers_perform _
  | actBefore | instant | acquire | hold | release => exact site.answers_perform _

theorem answers_performUnless (fails : Site → StoreCall → Option CatalogError) (site : Site)
    (call : Call) :
    site.Answers call (site.performUnless fails call).1 (site.performUnless fails call).2 := by
  unfold performUnless
  split
  next call =>
    split
    next error _ => exact .act (.failed call error)
    next => exact .act (.served (.store call))
  next => exact site.answers_perform _

/-- A site with one version in a collection, its parents and its instance. -/
def sample : Site where
  catalog := Catalog.writeAll {} [
    .dataset "cpih01" { id := "cpih01", next := some { id := "cpih01", type := "filterable" } },
    .edition ("cpih01", "time-series") { id := "time-series" },
    .record "import-1" { id := "import-1", state := some .associated },
    .version ⟨"cpih01", "time-series", 1⟩ {
      id := "import-1", datasetId := "cpih01", edition := "time-series", number := 1
      type := "filterable", state := some .associated, releaseDate := "2024-01-17"
      links := some { version := some ⟨"1", "/versions/1"⟩ } }]

theorem wellFiled_sample : sample.catalog.WellFiled := by
  refine Catalog.wellFiled_empty.writeAll fun change member => ?_
  simp only [List.mem_cons, List.not_mem_nil, or_false] at member
  rcases member with rfl | rfl | rfl | rfl <;> trivial

end Site

/-- The version of the sample is named by its dataset, its edition and its number. -/
theorem VersionIdentifiers.resolve_sample :
    (⟨"cpih01", "time-series", "1"⟩ : VersionIdentifiers).resolve =
      .ok ⟨"cpih01", "time-series", 1⟩ :=
  rfl

namespace Request

/-- On a disturbed site a request fares with its actions as its steps do. -/
theorem relays_disturbed : Relays Steps.disturbed disturbed where
  act answered := by
    cases answered with
    | act carried => exact carried
  inTime answered := by
    cases answered with
    | inTime _ carried => exact carried
  late answered := by
    cases answered with
    | late _ given => exact given
  whole _ _ _ := id

end Request

end ReleaseCatalog
