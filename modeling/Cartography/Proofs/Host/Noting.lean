import Cartography.Proofs.Host.Moments

/-!
# What scripts note

The entries of a run come from its script, or from the toolkit's own listener. What holds of every
entry that a script has, and of what is noted of errors, holds of all entries of its runs.
-/

namespace Cartography

variable {σ α β : Type}

/-! ### Entries of events -/

namespace Stage

/-- While events are fired, only errors are noted. -/
theorem entry_of_tellings {payload : Value} {subscriptions : List Subscription}
    {e : String × Entry} (member : e ∈ (tellings payload subscriptions).filterMap Moment.entry?) :
    ∃ pattern message, e = (logger, errorEntry pattern message) := by
  induction subscriptions with
  | nil => cases member
  | cons s rest ih =>
      obtain ⟨moment, listed, noted⟩ := List.mem_filterMap.mp member
      rw [tellings] at listed
      rcases List.mem_cons.mp listed with rfl | later
      · cases own : s.listener with
        | callback tag raises =>
            rw [own] at noted
            cases noted
        | suppress pattern =>
            rw [own, Moment.entry?] at noted
            obtain ⟨message, -, rfl⟩ := Option.map_eq_some_iff.mp noted
            exact ⟨pattern, message, rfl⟩
      · split at later
        · exact ih (List.mem_filterMap.mpr ⟨moment, later, noted⟩)
        · cases later

theorem entry_of_tellingsAll {events : List (String × Value)} {stage : Stage σ}
    {e : String × Entry} (member : e ∈ (tellingsAll events stage).filterMap Moment.entry?) :
    ∃ pattern message, e = (logger, errorEntry pattern message) := by
  induction events generalizing stage with
  | nil => cases member
  | cons fired rest ih =>
      obtain ⟨event, payload⟩ := fired
      rw [tellingsAll, List.filterMap_cons_none rfl, List.filterMap_append] at member
      rcases List.mem_append.mp member with here | later
      · exact entry_of_tellings here
      · split at later
        · exact ih later
        · cases later

theorem entry_of_moments {host : Host σ} {r : Request} {stage : Stage σ} {e : String × Entry}
    (member : e ∈ (stage.moments host r).filterMap Moment.entry?) :
    ∃ pattern message, e = (logger, errorEntry pattern message) := by
  rw [moments, List.filterMap_cons_none rfl] at member
  exact entry_of_tellingsAll member

end Stage

/-! ### Entries of scripts -/

namespace Script

/-- Whatever a script notes fulfils a condition. -/
def Notes (P : String → Entry → Prop) : Script α → Prop
  | .finish _ => True
  | .ask _ next => ∀ reply, (next reply).Notes P
  | .note path entry next => P path entry ∧ next.Notes P
  | .call _ next => ∀ reply, (next reply).Notes P

namespace Notes

variable {P : String → Entry → Prop} {script : Script α}

theorem bind {f : α → Script β} (first : script.Notes P) (second : ∀ a, (f a).Notes P) :
    (script.bind f).Notes P := by
  induction script with
  | finish result =>
      cases result with
      | error failure => trivial
      | ok a => exact second a
  | ask r next ih => exact fun reply => ih reply (first reply)
  | note path entry next ih => exact ⟨first.1, ih first.2⟩
  | call listener next ih => exact fun reply => ih reply (first reply)

/-- A script that is given outright notes nothing before what comes behind it. -/
theorem behind {result : Except Failure α} {f : α → Script β} (next : ∀ a, (f a).Notes P) :
    ((ofExcept result).bind f).Notes P :=
  bind trivial next

theorem request_unit (r : Request) : (do let _ ← request r : Script Unit).Notes P :=
  fun reply => by cases reply <;> trivial

theorem forEach {f : α → Script Unit} (each : ∀ a, (f a).Notes P) (items : List α) :
    (forEach items f).Notes P := by
  induction items with
  | nil => trivial
  | cons a rest ih => exact (each a).bind fun _ => ih

theorem ensuring {last : Script Unit} (first : script.Notes P) (second : last.Notes P) :
    (ensuring last script).Notes P := by
  induction script with
  | finish result => exact second.bind fun _ => trivial
  | ask r next ih => exact fun reply => ih reply (first reply)
  | note path entry next ih => exact ⟨first.1, ih first.2⟩
  | call listener next ih => exact fun reply => ih reply (first reply)

/-- The entries of a run are those of its script and those on errors. -/
theorem entries (notes : script.Notes P)
    (errors : ∀ pattern message, P Stage.logger (Stage.errorEntry pattern message)) (host : Host σ)
    (stage : Stage σ) :
    ∀ e ∈ (script.moments host stage).filterMap Moment.entry?, P e.1 e.2 := by
  induction script generalizing stage with
  | finish result => simp [moments]
  | ask r next ih =>
      intro e member
      rw [moments, List.filterMap_append] at member
      rcases List.mem_append.mp member with here | later
      · obtain ⟨pattern, message, rfl⟩ := Stage.entry_of_moments here
        exact errors pattern message
      · exact ih _ (notes _) _ e later
  | note path entry next ih =>
      intro e member
      rcases List.mem_cons.mp member with rfl | later
      · exact notes.1
      · exact ih notes.2 _ e later
  | call listener next ih =>
      intro e member
      obtain ⟨moment, listed, noted⟩ := List.mem_filterMap.mp member
      rcases List.mem_cons.mp listed with rfl | later
      · have told : e ∈ (Stage.tellings .null [⟨listener, false⟩]).filterMap Moment.entry? :=
          List.mem_filterMap.mpr ⟨_, List.mem_cons_self .., noted⟩
        obtain ⟨pattern, message, rfl⟩ := Stage.entry_of_tellings told
        exact errors pattern message
      · exact ih _ (notes _) _ e (List.mem_filterMap.mpr ⟨moment, later, noted⟩)

end Notes

end Script

end Cartography
