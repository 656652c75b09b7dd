import Cartography.Proofs.Host.Requests
import Cartography.Proofs.Value.Writable
import Cartography.Toolkit.Command

/-!
# Registering sources

The operations that add a source build it first and register it then. Such an operation comes to
one of two things on every host: it asks for the source to be added and for nothing else, or it
fails before anything happens.
-/

namespace Cartography

/-- A host accepts a request on a stage, whatever stands in the journal. -/
def Stage.Accepts {σ : Type} (stage : Stage σ) (host : Host σ) (r : Request) : Prop :=
  ∀ journal, ∃ value, (Stage.perform host r { stage with journal := journal }).1 = .ok value

example (r : Request) : Stage.idle.Accepts .idle r := fun _ => ⟨.null, rfl⟩

namespace Script

/-- On every host a script asks for one thing, that a source be added under an id. Where the host
accepts this, the script ends with a handle on the source. -/
def Registers (script : Script Answer) (id : Value) (spec : Fields) : Prop :=
  ∀ (σ : Type) (host : Host σ) (stage : Stage σ),
    (script.run host stage).2.requests = stage.requests ++ [.addSource id (.mapping spec)] ∧
    (stage.Accepts host (.addSource id (.mapping spec)) →
      (script.run host stage).1 = .ok (.handle id))

/-- On every host a script fails and changes nothing, not even the journal. -/
def TurnsDown (script : Script Answer) (failure : Failure) : Prop :=
  ∀ (σ : Type) (host : Host σ) (stage : Stage σ), script.run host stage = (.error failure, stage)

/-- A script that registers a source does not turn anything down. -/
theorem Registers.not_turnsDown {script : Script Answer} {id : Value} {spec : Fields}
    (registers : script.Registers id spec) (failure : Failure) : ¬ script.TurnsDown failure := by
  intro down
  have asked := (registers Unit .idle .idle).1
  rw [down] at asked
  simp at asked

theorem TurnsDown.unique {script : Script Answer} {failure other : Failure}
    (down : script.TurnsDown failure) (again : script.TurnsDown other) : failure = other := by
  have same := (down Unit .idle .idle).symm.trans (again Unit .idle .idle)
  exact Except.error.inj (congrArg Prod.fst same)

end Script

namespace Toolkit

/-- The script of an operation that adds a source: it is built, registered and answered with a
handle. -/
def adding (id : Value) (built : Except Failure Fields) : Script Answer :=
  Command.handing id (addBuilt id built)

theorem script_addSource (settings : Settings) (id spec : Value) :
    (Command.addSource id spec).script settings = adding id (looseSource settings spec) := rfl

theorem script_addVector (settings : Settings) (id spec : Value) (options : Fields) :
    (Command.addVector id spec options).script settings =
      adding id (Source.vector settings spec options) := rfl

variable {id : Value} {built : Except Failure Fields} {spec : Fields} {failure : Failure}

theorem turnsDown_of_error (failed : built = .error failure) :
    (adding id built).TurnsDown failure := by
  intro σ host stage
  rw [failed]
  rfl

theorem turnsDown_of_hidden (made : built = .ok spec) (hidden : id.HoldsOversized) :
    (adding id built).TurnsDown (.oversizedInteger none) := by
  intro σ host stage
  rw [made]
  simp only [adding, Command.handing, addBuilt, registerSource,
    (Value.plain?_eq_none_iff id).mpr hidden]
  rfl

/-- An operation with a source to register ends as the request to add it does, and answers with a
handle on it. -/
theorem run_adding (spec : Fields) {name : String} (shown : id.plain? = some name) {σ : Type}
    (host : Host σ) (stage : Stage σ) :
    ∃ journal, (adding id (.ok spec)).run host stage =
      let performed :=
        Stage.perform host (.addSource id (.mapping spec)) { stage with journal := journal }
      (performed.1.map fun _ => .handle id, performed.2) := by
  refine ⟨stage.journal.write Stage.logger (additionEntry ("Adding source '" ++ name ++ "'")
    "source_type" ((spec.get? "type").getD .null)), ?_⟩
  simp only [adding, Command.handing, addBuilt, registerSource, shown, bind, Script.ofExcept,
    Script.log, Script.request, Script.bind, Script.run, Stage.written]
  generalize Stage.perform host _ _ = performed
  rcases performed with ⟨failure | reply, after⟩
  · rfl
  · rfl

theorem registers_of_ok (made : built = .ok spec) (shown : ¬ id.HoldsOversized) :
    (adding id built).Registers id spec := by
  subst made
  intro σ host stage
  obtain ⟨name, plain⟩ : ∃ name, id.plain? = some name :=
    Option.ne_none_iff_exists'.mp (mt (Value.plain?_eq_none_iff id).mp shown)
  obtain ⟨journal, ran⟩ := run_adding spec plain host stage
  constructor
  · rw [ran]
    exact Stage.requests_perform host (.addSource id (.mapping spec))
      { stage with journal := journal }
  · intro accepts
    obtain ⟨value, accepted⟩ := accepts journal
    rw [ran]
    simp only [accepted]
    rfl

/-- What an operation registers is what was built, under its own id. -/
theorem registers_inv {other : Value} (registers : (adding id built).Registers other spec) :
    id = other ∧ built = .ok spec ∧ ¬ id.HoldsOversized := by
  cases made : built with
  | error failure => exact absurd (turnsDown_of_error made) (registers.not_turnsDown failure)
  | ok fields =>
      have shown : ¬ id.HoldsOversized := fun hidden =>
        registers.not_turnsDown _ (turnsDown_of_hidden made hidden)
      have asked := (registers Unit .idle .idle).1
      rw [(registers_of_ok made shown Unit .idle .idle).1] at asked
      have same : id = other ∧ fields = spec := by
        simpa using List.append_cancel_left asked
      exact ⟨same.1, congrArg Except.ok same.2, shown⟩

/-- An operation registers a source exactly when it is the one that was built, under an id that can
be shown. -/
theorem registers_iff :
    (adding id built).Registers id spec ↔ built = .ok spec ∧ ¬ id.HoldsOversized := by
  constructor
  · intro registers
    exact (registers_inv registers).2
  · rintro ⟨made, shown⟩
    exact registers_of_ok made shown

/-- An operation turns its arguments down exactly when the source cannot be built, or when the id
is too long to be shown. -/
theorem turnsDown_iff : (adding id built).TurnsDown failure ↔
    built = .error failure ∨
      (∃ made, built = .ok made) ∧ id.HoldsOversized ∧ failure = .oversizedInteger none := by
  constructor
  · intro down
    cases made : built with
    | error other => exact Or.inl (congrArg Except.error ((turnsDown_of_error made).unique down))
    | ok fields =>
        by_cases hidden : id.HoldsOversized
        · exact Or.inr ⟨⟨fields, rfl⟩, hidden, down.unique (turnsDown_of_hidden made hidden)⟩
        · exact absurd down ((registers_of_ok made hidden).not_turnsDown failure)
  · rintro (failed | ⟨⟨fields, made⟩, hidden, rfl⟩)
    · exact turnsDown_of_error failed
    · exact turnsDown_of_hidden made hidden

end Toolkit

end Cartography
