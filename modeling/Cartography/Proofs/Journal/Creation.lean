import Cartography.Proofs.Journal.Loggers
import Cartography.Proofs.Journal.Writing
import Mathlib.Data.List.Induction
import Mathlib.Data.List.Nodup

/-!
# The loggers that calls leave behind

A logger is asked for again and again, each time with a profile. Its level is the one of the latest
call and its limit the one of the first, where calls that name no level count for nothing. There is
one logger for each component and name.

## Implementation notes

The loggers after a history of calls are looked up by `find?_createAll`, which is carried over the
history from its front to its end; everything else is read off it.
-/

namespace Cartography

/-- A call for a logger. -/
structure Creation where
  component : Component
  name : String
  profile : Profile

namespace Creation

/-- The level and the limit that a call gives a logger: none if it is for another logger, or names
no level. -/
def given? (component : Component) (name : String) (call : Creation) : Option (Level × Int) :=
  if call.component = component ∧ call.name = name then
    call.profile.level.resolve.toOption.map (·, call.profile.limit)
  else none

/-- What the first call gave a logger. -/
def first? (component : Component) (name : String) (calls : List Creation) :
    Option (Level × Int) :=
  calls.findSome? (given? component name)

/-- What the latest call gave a logger. -/
def latest? (component : Component) (name : String) (calls : List Creation) :
    Option (Level × Int) :=
  calls.reverse.findSome? (given? component name)

variable {component : Component} {name : String} {calls : List Creation} {call : Creation}

theorem first?_snoc : first? component name (calls ++ [call]) =
    (first? component name calls).or (given? component name call) := by
  rw [first?, List.findSome?_append, first?]
  cases h : given? component name call <;> simp [h]

theorem latest?_snoc : latest? component name (calls ++ [call]) =
    (given? component name call).or (latest? component name calls) := by
  rw [latest?, List.reverse_append, List.findSome?_append, latest?]
  cases h : given? component name call <;> simp [h]

/-- There is a first call where there is a latest one. -/
theorem first?_eq_none_iff :
    first? component name calls = none ↔ latest? component name calls = none := by
  simp only [first?, latest?, List.findSome?_eq_none_iff, List.mem_reverse]

theorem given?_of_ok {level : Level} (resolved : call.profile.level.resolve = .ok level) :
    given? call.component call.name call = some (level, call.profile.limit) := by
  simp [given?, resolved, Except.toOption]

theorem given?_of_error {failure : Failure}
    (resolved : call.profile.level.resolve = .error failure) :
    given? component name call = none := by
  simp [given?, resolved, Except.toOption]

theorem given?_of_ne (other : ¬ (call.component = component ∧ call.name = name)) :
    given? component name call = none := if_neg other

end Creation

namespace Journal

/-- The journal after some calls for loggers. -/
def createAll (journal : Journal) (calls : List Creation) : Journal :=
  calls.foldl (fun journal call => (journal.create call.component call.name call.profile).2) journal

theorem createAll_snoc (journal : Journal) (calls : List Creation) (call : Creation) :
    journal.createAll (calls ++ [call]) =
      ((journal.createAll calls).create call.component call.name call.profile).2 := by
  rw [createAll, List.foldl_append, createAll, List.foldl_cons, List.foldl_nil]

theorem create_of_ok (journal : Journal) {call : Creation} {level : Level}
    (resolved : call.profile.level.resolve = .ok level) :
    (journal.create call.component call.name call.profile).2 =
      journal.setUp call.component call.name level call.profile.limit := by
  rw [create, resolved]

/-- A call that names no level leaves the loggers as they are. -/
theorem loggers_create_of_error (journal : Journal) {call : Creation} {failure : Failure}
    (resolved : call.profile.level.resolve = .error failure) :
    (journal.create call.component call.name call.profile).2.loggers = journal.loggers := by
  rw [create, resolved]

open Creation in
/-- **The logger of a component and name after a history of calls**: it has the level of the latest
call and the limit of the first. -/
theorem find?_createAll (component : Component) (name : String) (calls : List Creation) :
    (empty.createAll calls).find? (Logger.pathOf component name) =
      match first? component name calls, latest? component name calls with
      | some (_, limit), some (level, _) => some (.created component name level limit)
      | _, _ => none := by
  -- from the front of the history to its end
  induction calls using List.reverseRecOn with
  | nil => rfl
  | append_singleton calls call before =>
      rw [createAll_snoc, first?_snoc, latest?_snoc]
      cases resolved : call.profile.level.resolve with
      | error failure =>
          rw [find?, loggers_create_of_error _ resolved, ← find?, before, given?_of_error resolved,
            Option.or_none, Option.none_or]
      | ok level =>
          rw [create_of_ok _ resolved]
          by_cases here : call.component = component ∧ call.name = name
          · obtain ⟨rfl, rfl⟩ := here
            rw [find?_setUp_self, before, given?_of_ok resolved, Option.some_or]
            cases first : first? call.component call.name calls with
            | none =>
                rw [first?_eq_none_iff.mp first]
                rfl
            | some given =>
                cases latest : latest? call.component call.name calls with
                | none => exact absurd (first?_eq_none_iff.mpr latest) (by simp [first])
                | some last => simp [Logger.orCreated]
          · have other : Logger.pathOf component name ≠
                Logger.pathOf call.component call.name := by
              intro same
              obtain ⟨rfl, rfl⟩ := Logger.pathOf_inj.mp same
              exact here ⟨rfl, rfl⟩
            rw [find?_setUp_of_ne _ _ _ _ _ other, before, given?_of_ne here, Option.or_none,
              Option.none_or]

/-! ### One logger for each name -/

theorem paths_withLogger (component : Component) (name : String) (level : Level) (limit : Int)
    (loggers : List Logger) : (withLogger component name level limit loggers).map (·.path) =
      if Logger.pathOf component name ∈ loggers.map (·.path) then loggers.map (·.path)
      else loggers.map (·.path) ++ [Logger.pathOf component name] := by
  induction loggers with
  | nil => rfl
  | cons logger rest ih =>
      rw [withLogger]
      by_cases here : logger.component = component ∧ logger.name = name
      · obtain ⟨rfl, rfl⟩ := here
        rw [if_pos ⟨rfl, rfl⟩, List.map_cons, Logger.path_setTo, List.map_cons, ← Logger.path,
          if_pos (List.mem_cons_self ..)]
      · have other : Logger.pathOf component name ≠ logger.path :=
          fun same => here (Logger.pathOf_inj.mp same.symm)
        simp only [if_neg here, List.map_cons, ih, List.mem_cons, other, false_or]
        split <;> rfl

/-- The loggers of a journal have names of their own. -/
def Distinct (journal : Journal) : Prop := (journal.loggers.map (·.path)).Nodup

theorem Distinct.setUp {journal : Journal} (distinct : journal.Distinct) (component : Component)
    (name : String) (level : Level) (limit : Int) :
    (journal.setUp component name level limit).Distinct := by
  rw [Distinct, Journal.setUp, paths_withLogger]
  split
  · exact distinct
  · rename_i unlisted
    refine List.nodup_append.mpr ⟨distinct, List.nodup_singleton _, ?_⟩
    rintro path listed _ new rfl
    exact unlisted (List.mem_singleton.mp new ▸ listed)

theorem distinct_createAll (calls : List Creation) : (empty.createAll calls).Distinct := by
  induction calls using List.reverseRecOn with
  | nil => exact List.nodup_nil
  | append_singleton calls call before =>
      rw [createAll_snoc]
      cases resolved : call.profile.level.resolve with
      | error failure => rwa [Distinct, loggers_create_of_error _ resolved]
      | ok level =>
          rw [create_of_ok _ resolved]
          exact before.setUp _ _ _ _

theorem Distinct.find?_eq_some_iff {journal : Journal} (distinct : journal.Distinct)
    {path : String} {logger : Logger} :
    journal.find? path = some logger ↔ logger ∈ journal.loggers ∧ logger.path = path := by
  refine ⟨fun found => ⟨List.mem_of_find?_eq_some found, path_of_find? found⟩, ?_⟩
  rintro ⟨member, rfl⟩
  cases found : journal.find? logger.path with
  | none => simpa using List.find?_eq_none.mp found logger member
  | some other =>
      have same := List.inj_on_of_nodup_map distinct (List.mem_of_find?_eq_some found) member
        (path_of_find? found)
      rw [same]

/-! ### What a logger there is was given -/

open Creation

variable {component : Component} {name : String} {calls : List Creation}

/-- A logger there is has the limit of the first call for it and the level of the latest. -/
theorem given_of_mem_createAll {logger : Logger}
    (there : logger ∈ (empty.createAll calls).loggers) :
    ∃ first latest, first? logger.component logger.name calls = some first ∧
      latest? logger.component logger.name calls = some latest ∧
      logger.limit = first.2 ∧ logger.level = latest.1 := by
  have found := (distinct_createAll calls).find?_eq_some_iff.mpr ⟨there, rfl⟩
  rw [Logger.path, find?_createAll] at found
  split at found
  · rename_i first latest given last
    refine ⟨_, _, given, last, ?_, ?_⟩
    · rw [← Option.some.inj found]; rfl
    · rw [← Option.some.inj found]; rfl
  · cases found

/-- There is a logger for which a call named a level. -/
theorem mem_createAll_of_given {latest : Level × Int}
    (given : latest? component name calls = some latest) :
    ∃ logger ∈ (empty.createAll calls).loggers,
      logger.component = component ∧ logger.name = name := by
  obtain ⟨first, begun⟩ : ∃ first, first? component name calls = some first := by
    refine Option.ne_none_iff_exists'.mp fun missing => ?_
    rw [first?_eq_none_iff.mp missing] at given
    cases given
  have found := find?_createAll component name calls
  rw [begun, given] at found
  exact ⟨_, List.mem_of_find?_eq_some found, rfl, rfl⟩

end Journal

end Cartography
