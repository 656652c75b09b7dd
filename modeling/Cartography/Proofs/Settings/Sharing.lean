import Cartography.Settings.Cache
import Mathlib.Data.List.Induction

/-!
# One reading for all

Between two resets the shared settings are those of the environment that was in force when they
were first read with success. What fails leaves nothing behind, and neither a change of the
environment nor a reading of one's own touches what is kept.

## Implementation notes

A history is the list of the accesses so far, the earliest first. `inForce` is the environment
after a history by itself, without the shared settings, and `Vacant` and `Earliest` speak of the
answers in a history only. `Provenance` ties both to what is kept, and is carried over a history
from its front to its end.
-/

namespace Cartography.SharedSettings

open Settings (Misconfiguration ofEnvironment)

/-! ### One access -/

/-- The accesses that give what is kept, and read the environment if nothing is. -/
def Access.Reads : Access → Prop
  | .get | .shown => True
  | .set _ _ | .unset _ | .reset | .fresh => False

/-- An answer that gives settings, whole or as fields. -/
def Reply.Gives (settings : Settings) : Reply → Prop
  | .kept found => found.settings = settings
  | .shown fields => fields = settings.toFields
  | .read given => given = settings
  | .done | .failed _ => False

/-- An answer that says what a reading of the environment comes to. -/
inductive Reply.Tells : Reply → Except Misconfiguration Settings → Prop
  | gives {reply : Reply} {settings : Settings} (gives : reply.Gives settings) :
      Tells reply (.ok settings)
  | fails (m : Misconfiguration) : Tells (.failed m) (.error m)

/-- The environment after one more access. -/
def changed (env : Environment) : Access → Environment
  | .set name text => env.set name text
  | .unset name => env.unset name
  | .reset | .get | .shown | .fresh => env

variable {s t : SharedSettings} {a reading : Access} {reply : Reply} {settings : Settings}
  {kept : Kept} {m : Misconfiguration}

theorem not_gives_of_failed (failed : reply = .failed m) : ¬ reply.Gives settings := by
  subst failed
  exact id

theorem get_of_kept (there : s.kept = some kept) : s.get = (.ok kept, s) := by
  simp only [get, there]

theorem get_of_ok (vacant : s.kept = none) (read : ofEnvironment s.environment = .ok settings) :
    s.get = (.ok ⟨s.count, settings⟩,
      { s with kept := some ⟨s.count, settings⟩, count := s.count + 1 }) := by
  simp only [get, vacant, read]

theorem get_of_error (vacant : s.kept = none) (read : ofEnvironment s.environment = .error m) :
    s.get = (.error m, s) := by
  simp only [get, vacant, read]

/-- What an access comes to. A reading finds what is kept, or reads the environment. -/
inductive Comes (s : SharedSettings) : Access → Reply → SharedSettings → Prop
  | kept {reading : Access} {reply : Reply} {kept : Kept} (reads : reading.Reads)
      (there : s.kept = some kept) (gives : reply.Gives kept.settings) : Comes s reading reply s
  | read {reading : Access} {reply : Reply} {settings : Settings} (reads : reading.Reads)
      (vacant : s.kept = none) (read : ofEnvironment s.environment = .ok settings)
      (gives : reply.Gives settings) : Comes s reading reply
        { s with kept := some ⟨s.count, settings⟩, count := s.count + 1 }
  | failed {reading : Access} {m : Misconfiguration} (reads : reading.Reads)
      (vacant : s.kept = none) (read : ofEnvironment s.environment = .error m) :
      Comes s reading (.failed m) s
  | reset : Comes s .reset .done s.reset
  | aside {a : Access} {reply : Reply} (apart : ¬ a.Reads) (noReset : a ≠ .reset) :
      Comes s a reply { s with environment := changed s.environment a }

theorem comes_of_reads (s : SharedSettings) (reads : reading.Reads) :
    Comes s reading (s.access reading).1 (s.access reading).2 := by
  cases there : s.kept with
  | some kept =>
      have found : (s.access reading).1.Gives kept.settings ∧ (s.access reading).2 = s := by
        cases reading <;>
          simp_all [Access.Reads, access, shown, get_of_kept there, Reply.Gives]
      rw [found.2]
      exact .kept reads there found.1
  | none =>
      cases read : ofEnvironment s.environment with
      | ok settings =>
          have new : (s.access reading).1.Gives settings ∧ (s.access reading).2 =
              { s with kept := some ⟨s.count, settings⟩, count := s.count + 1 } := by
            cases reading <;>
              simp_all [Access.Reads, access, shown, get_of_ok there read, Reply.Gives]
          rw [new.2]
          exact .read reads there read new.1
      | error m =>
          have failed : s.access reading = (.failed m, s) := by
            cases reading <;>
              simp_all [Access.Reads, access, shown, get_of_error there read]
          rw [failed]
          exact .failed reads there read

theorem comes (s : SharedSettings) (a : Access) : Comes s a (s.access a).1 (s.access a).2 := by
  cases a with
  | set name text => exact .aside id (by simp)
  | unset name => exact .aside id (by simp)
  | reset => exact .reset
  | get => exact comes_of_reads s trivial
  | shown => exact comes_of_reads s trivial
  | fresh =>
      have same : (s.access .fresh).2 = s := by
        rw [access]
        split <;> rfl
      rw [same]
      exact .aside id (by simp)

theorem changed_of_reads (env : Environment) (reads : a.Reads) : changed env a = env := by
  cases a <;> first | rfl | exact reads.elim

/-- What is kept stays until it is dropped. -/
theorem Comes.kept_eq (comes : Comes s a reply t) (there : s.kept = some kept)
    (noReset : a ≠ .reset) : t.kept = some kept := by
  cases comes with
  | kept => exact there
  | failed => exact there
  | aside => exact there
  | reset => exact absurd rfl noReset
  | read _ vacant => exact nomatch vacant.symm.trans there

theorem Comes.gives (comes : Comes s reading reply t) (reads : reading.Reads)
    (there : s.kept = some kept) : reply.Gives kept.settings := by
  cases comes with
  | kept _ found gives =>
      obtain rfl := Option.some_inj.mp (found.symm.trans there)
      exact gives
  | read _ vacant => exact nomatch vacant.symm.trans there
  | failed _ vacant => exact nomatch vacant.symm.trans there
  | reset => exact reads.elim
  | aside apart => exact absurd reads apart

theorem Comes.tells (comes : Comes s reading reply t) (reads : reading.Reads)
    (vacant : s.kept = none) : reply.Tells (ofEnvironment s.environment) := by
  cases comes with
  | kept _ there => exact nomatch vacant.symm.trans there
  | read _ _ read gives => rw [read]; exact .gives gives
  | failed _ _ read => rw [read]; exact .fails _
  | reset => exact reads.elim
  | aside apart => exact absurd reads apart

theorem Comes.kept_of_apart (comes : Comes s a reply t) (apart : ¬ a.Reads)
    (noReset : a ≠ .reset) : t.kept = s.kept := by
  cases comes with
  | reset => exact absurd rfl noReset
  | read reads => exact absurd reads apart
  | _ => rfl

theorem Comes.count_le (comes : Comes s a reply t) : s.count ≤ t.count := by
  cases comes with
  | read => exact Nat.le_succ _
  | _ => exact Nat.le_refl _

theorem kept_of_get : (s.access .get).1 = .kept kept → (s.access .get).2.kept = some kept := by
  cases there : s.kept with
  | some found => simp [access, get_of_kept there, there]
  | none =>
      cases read : ofEnvironment s.environment with
      | ok settings => simp [access, get_of_ok there read]
      | error m => simp [access, get_of_error there read]

theorem access_get_of_kept (there : s.kept = some kept) : s.access .get = (.kept kept, s) := by
  simp only [access, get_of_kept there]

theorem Comes.environment (comes : Comes s a reply t) :
    t.environment = changed s.environment a := by
  cases comes with
  | kept reads => rw [changed_of_reads _ reads]
  | read reads => rw [changed_of_reads _ reads]
  | failed reads => rw [changed_of_reads _ reads]
  | reset => rfl
  | aside => rfl

/-! ### Histories -/

/-- The environment that is in force after a history. -/
def inForce (env : Environment) (history : List Access) : Environment :=
  history.foldl changed env

/-- The shared settings after further accesses. -/
def run (s : SharedSettings) (history : List Access) : SharedSettings :=
  history.foldl (fun s a => (s.access a).2) s

/-- The shared settings after a history that starts with nothing kept. -/
def after (env : Environment) (history : List Access) : SharedSettings := (start env).run history

/-- The answer to an access that follows a history. -/
def replyTo (env : Environment) (past : List Access) (a : Access) : Reply :=
  ((after env past).access a).1

/-- A reading that gives settings where it stands. -/
def Succeeds (env : Environment) (past : List Access) (reading : Access) : Prop :=
  reading.Reads ∧ ∃ settings, (replyTo env past reading).Gives settings

/-- No reading has given settings since the last reset. -/
def Vacant (env : Environment) (past : List Access) : Prop :=
  ∀ before reading since, past = before ++ reading :: since →
    Succeeds env before reading → .reset ∈ since

/-- The earliest reading that gave settings since the last reset: it stands behind `before`, and
`since` is what came after it. -/
structure Earliest (env : Environment) (before : List Access) (first : Access)
    (since : List Access) : Prop where
  succeeds : Succeeds env before first
  none_before : Vacant env before
  no_reset : .reset ∉ since

variable {env : Environment} {past history : List Access}

@[simp] theorem run_append (s : SharedSettings) (first second : List Access) :
    s.run (first ++ second) = (s.run first).run second :=
  List.foldl_append

@[simp] theorem run_cons (s : SharedSettings) (a : Access) (rest : List Access) :
    s.run (a :: rest) = (s.access a).2.run rest := rfl

@[simp] theorem run_nil (s : SharedSettings) : s.run [] = s := rfl

theorem after_append (first second : List Access) :
    after env (first ++ second) = (after env first).run second :=
  run_append _ _ _

theorem after_snoc : after env (past ++ [a]) = ((after env past).access a).2 := by
  rw [after_append, run_cons, run_nil]

theorem inForce_snoc :
    inForce env (past ++ [a]) = changed (inForce env past) a := by
  simp only [inForce, List.foldl_append, List.foldl_cons, List.foldl_nil]

/-- An access of a longer history is its last one, or one that came before. -/
theorem snoc_eq_iff {before since : List Access} :
    past ++ [a] = before ++ reading :: since ↔
      (since = [] ∧ past = before ∧ a = reading) ∨
        ∃ front, since = front ++ [a] ∧ past = before ++ reading :: front := by
  constructor
  · intro split
    rcases List.eq_nil_or_concat since with rfl | ⟨front, last, rfl⟩
    · obtain ⟨fronts, same⟩ := List.append_inj' split rfl
      exact .inl ⟨rfl, fronts, List.singleton_inj.mp same⟩
    · rw [List.concat_eq_append, ← List.cons_append, ← List.append_assoc] at split
      obtain ⟨fronts, same⟩ := List.append_inj' split rfl
      exact .inr ⟨front, by rw [List.concat_eq_append, List.singleton_inj.mp same], fronts⟩
  · rintro (⟨rfl, rfl, rfl⟩ | ⟨front, rfl, rfl⟩)
    · rfl
    · simp

theorem vacant_snoc : Vacant env (past ++ [a]) ↔
    a = .reset ∨ Vacant env past ∧ ¬ Succeeds env past a := by
  constructor
  · intro vacant
    refine or_iff_not_imp_left.mpr fun noReset => ⟨fun before reading since split gave => ?_, ?_⟩
    · have reset := vacant before reading (since ++ [a]) (by simp [split]) gave
      simpa [Ne.symm noReset] using reset
    · exact fun gave => absurd (vacant past a [] rfl gave) List.not_mem_nil
  · intro either before reading since split gave
    rcases snoc_eq_iff.mp split with ⟨rfl, rfl, rfl⟩ | ⟨front, rfl, fronts⟩
    · rcases either with rfl | ⟨-, fails⟩
      · exact gave.1.elim
      · exact absurd gave fails
    · rcases either with rfl | ⟨vacant, -⟩
      · exact List.mem_append_right front List.mem_cons_self
      · exact List.mem_append_left _ (vacant before reading front fronts gave)

/-- Accesses that do not read leave it vacant. -/
theorem Vacant.append (vacant : Vacant env past) {between : List Access}
    (apart : ∀ a ∈ between, ¬ a.Reads) : Vacant env (past ++ between) := by
  induction between using List.reverseRecOn with
  | nil => rwa [List.append_nil]
  | append_singleton between a before =>
      rw [← List.append_assoc, vacant_snoc]
      exact .inr ⟨before fun a there => apart a (List.mem_append_left _ there),
        fun success => apart a (by simp) success.1⟩

theorem kept_run (there : s.kept = some kept) (noReset : .reset ∉ history) :
    (s.run history).kept = some kept := by
  induction history generalizing s with
  | nil => exact there
  | cons a rest run =>
      rw [List.mem_cons, not_or] at noReset
      exact run ((comes s a).kept_eq there (Ne.symm noReset.1)) noReset.2

/-! ### Where what is kept comes from -/

/-- What is kept after a history, told by the history. -/
structure Provenance (env : Environment) (past : List Access) (s : SharedSettings) : Prop where
  environment : s.environment = inForce env past
  vacant : s.kept = none → Vacant env past
  earliest : ∀ kept, s.kept = some kept → ∃ before first since,
    past = before ++ first :: since ∧ Earliest env before first since ∧
      ofEnvironment (inForce env before) = .ok kept.settings
  counted : ∀ kept, s.kept = some kept → kept.number < s.count

theorem Earliest.snoc {before since : List Access} {first a : Access}
    (earliest : Earliest env before first since) (noReset : a ≠ .reset) :
    Earliest env before first (since ++ [a]) :=
  ⟨earliest.succeeds, earliest.none_before, by simp [earliest.no_reset, Ne.symm noReset]⟩

/-- An access that leaves what is kept alone leaves it where it comes from. -/
theorem Provenance.snoc_same (origin : Provenance env past s)
    (environment : t.environment = inForce env (past ++ [a])) (kept : t.kept = s.kept)
    (count : t.count = s.count) (noReset : a ≠ .reset)
    (fails : s.kept = none → ¬ Succeeds env past a) : Provenance env (past ++ [a]) t where
  environment := environment
  vacant vacant := by
    rw [kept] at vacant
    exact vacant_snoc.mpr (.inr ⟨origin.vacant vacant, fails vacant⟩)
  earliest found there := by
    rw [kept] at there
    obtain ⟨before, first, since, split, earliest, read⟩ := origin.earliest found there
    exact ⟨before, first, since ++ [a], by simp [split], earliest.snoc noReset, read⟩
  counted found there := by
    rw [kept] at there
    rw [count]
    exact origin.counted found there

theorem Provenance.snoc (origin : Provenance env past (after env past)) (a : Access) :
    Provenance env (past ++ [a]) ((after env past).access a).2 := by
  have environment : ((after env past).access a).2.environment = inForce env (past ++ [a]) := by
    rw [(comes (after env past) a).environment, origin.environment, inForce_snoc]
  have comes := comes (after env past) a
  generalize told : ((after env past).access a).1 = reply at comes
  generalize ((after env past).access a).2 = t at comes environment
  cases comes with
  | kept reads there =>
      exact origin.snoc_same environment rfl rfl (by rintro rfl; exact reads) (by simp [there])
  | @failed _ m reads =>
      refine origin.snoc_same environment rfl rfl (by rintro rfl; exact reads) ?_
      exact fun _ ⟨_, _, gives⟩ => not_gives_of_failed told gives
  | aside apart noReset =>
      exact origin.snoc_same environment rfl rfl noReset fun _ success => apart success.1
  | reset =>
      exact ⟨environment, fun _ => vacant_snoc.mpr (.inl rfl),
        fun kept there => (nomatch there),
        fun kept there => nomatch there⟩
  | @read _ _ settings reads vacant read gives =>
      have earliest : Earliest env past a [] :=
        ⟨⟨reads, settings, by rwa [replyTo, told]⟩, origin.vacant vacant, List.not_mem_nil⟩
      refine ⟨environment, fun vacant => (nomatch vacant), ?_, ?_⟩
      · rintro kept ⟨⟩
        exact ⟨past, a, [], rfl, earliest, origin.environment ▸ read⟩
      · rintro kept ⟨⟩
        exact Nat.lt_succ_self _

theorem provenance (env : Environment) (past : List Access) :
    Provenance env past (after env past) := by
  -- from the front of the history to its end
  induction past using List.reverseRecOn with
  | nil =>
      refine ⟨rfl, fun _ before reading since split => ?_, fun kept there => (nomatch there),
        fun kept there => nomatch there⟩
      simp at split
  | append_singleton past a origin =>
      rw [after_snoc]
      exact origin.snoc a

theorem kept_eq_none_iff : (after env past).kept = none ↔ Vacant env past := by
  refine ⟨(provenance env past).vacant, fun vacant => ?_⟩
  cases there : (after env past).kept with
  | none => rfl
  | some kept =>
      obtain ⟨before, first, since, split, earliest, -⟩ := (provenance env past).earliest kept there
      exact absurd (vacant before first since split earliest.succeeds) earliest.no_reset

/-- A reading where nothing is kept reads the environment that is in force. -/
theorem tells_of_vacant (vacant : Vacant env past) (reads : reading.Reads) :
    (replyTo env past reading).Tells (ofEnvironment (inForce env past)) := by
  rw [← (provenance env past).environment]
  exact (comes (after env past) reading).tells reads (kept_eq_none_iff.mpr vacant)

/-! ### Which reading it is -/

/-- Whatever is kept has at least the number `n`, and so has whatever will be. -/
def Newer (n : Nat) (s : SharedSettings) : Prop :=
  n ≤ s.count ∧ ∀ kept, s.kept = some kept → n ≤ kept.number

theorem Comes.newer {n : Nat} (comes : Comes s a reply t) (newer : Newer n s) : Newer n t := by
  cases comes with
  | kept => exact newer
  | failed => exact newer
  | aside => exact newer
  | reset => exact ⟨newer.1, fun kept there => nomatch there⟩
  | read =>
      refine ⟨Nat.le_succ_of_le newer.1, ?_⟩
      rintro kept ⟨⟩
      exact newer.1

theorem Newer.run {n : Nat} (history : List Access) :
    ∀ {s : SharedSettings}, Newer n s → Newer n (s.run history) := by
  induction history with
  | nil => exact id
  | cons a rest run => exact fun newer => run ((comes _ a).newer newer)

theorem count_le_run (history : List Access) : s.count ≤ (s.run history).count := by
  induction history generalizing s with
  | nil => exact Nat.le_refl _
  | cons a rest run => exact Nat.le_trans (comes s a).count_le run

/-- The reading that a history keeps has a smaller number than every one after a reset. -/
theorem lt_of_reset {between : List Access} {next : Kept}
    (counted : kept.number < s.count) (reset : .reset ∈ between)
    (later : (s.run between).kept = some next) : kept.number < next.number := by
  obtain ⟨front, rear, rfl⟩ := List.append_of_mem reset
  have newer : Newer (kept.number + 1) (s.run front).reset :=
    ⟨Nat.lt_of_lt_of_le counted (count_le_run front), fun kept there => nomatch there⟩
  rw [run_append, run_cons] at later
  exact (newer.run rear).2 next later

/-! ### The readings of a history -/

/-- How the readings of a history belong together. -/
structure Sharing (env : Environment) : Prop where
  /-- A reading either gives settings or says what is wrong with the environment. -/
  answered : ∀ past reading, reading.Reads →
    Succeeds env past reading ∨ ∃ m, replyTo env past reading = .failed m
  /-- What a reading gives is what the environment gave that was in force at the earliest reading
  with success since the last reset. -/
  served : ∀ past reading, Succeeds env past reading → ∃ before first since settings,
    past ++ [reading] = before ++ first :: since ∧ Earliest env before first since ∧
      ofEnvironment (inForce env before) = .ok settings ∧
      (replyTo env past reading).Gives settings
  /-- Between resets it is one and the same. -/
  same : ∀ past between kept, replyTo env past .get = .kept kept → .reset ∉ between →
    replyTo env (past ++ .get :: between) .get = .kept kept
  /-- After a reset it is another one. -/
  another : ∀ past between kept next, replyTo env past .get = .kept kept → .reset ∈ between →
    replyTo env (past ++ .get :: between) .get = .kept next → next.number ≠ kept.number
  /-- A reading that fails keeps nothing, so that the next one reads the environment again. -/
  failed : ∀ past reading m, reading.Reads → replyTo env past reading = .failed m →
    ofEnvironment (inForce env past) = .error m ∧
      (after env (past ++ [reading])).kept = none ∧
      ∀ between next, (∀ a ∈ between, ¬ a.Reads) → next.Reads →
        (replyTo env (past ++ reading :: between) next).Tells
          (ofEnvironment (inForce env (past ++ reading :: between)))
  /-- A change of the environment and a reading of one's own leave alone what is kept. -/
  aside : ∀ past a, ¬ a.Reads → a ≠ .reset →
    (after env (past ++ [a])).kept = (after env past).kept
  /-- A reading of one's own is of the environment in force. -/
  fresh : ∀ past, (replyTo env past .fresh).Tells (ofEnvironment (inForce env past))

/-- A reading of the environment gives settings or fails with what is wrong there. -/
theorem Reply.Tells.either {outcome : Except Misconfiguration Settings}
    (tells : reply.Tells outcome) :
    (∃ settings, outcome = .ok settings ∧ reply.Gives settings) ∨
      ∃ m, outcome = .error m ∧ reply = .failed m := by
  cases tells with
  | gives gives => exact .inl ⟨_, rfl, gives⟩
  | fails m => exact .inr ⟨m, rfl, rfl⟩

theorem vacant_of_failed (reads : reading.Reads) (failed : replyTo env past reading = .failed m) :
    Vacant env past := by
  refine kept_eq_none_iff.mp (Option.eq_none_iff_forall_ne_some.mpr fun kept there => ?_)
  exact not_gives_of_failed failed ((comes (after env past) reading).gives reads there)

theorem kept_after_get (got : replyTo env past .get = .kept kept) :
    (after env (past ++ [.get])).kept = some kept := by
  rw [after_snoc]
  exact kept_of_get got

/-- What a reading with success gives comes from the earliest one since the last reset, which may be
that reading itself. -/
theorem exists_earliest (success : Succeeds env past reading) : ∃ before first since settings,
    past ++ [reading] = before ++ first :: since ∧ Earliest env before first since ∧
      ofEnvironment (inForce env before) = .ok settings ∧
      (replyTo env past reading).Gives settings := by
  have reads := success.1
  cases there : (after env past).kept with
  | some kept =>
      obtain ⟨before, first, since, split, earliest, read⟩ :=
        (provenance env past).earliest kept there
      have noReset : reading ≠ .reset := by rintro rfl; exact reads
      exact ⟨before, first, since ++ [reading], kept.settings, by simp [split],
        earliest.snoc noReset, read, (comes (after env past) reading).gives reads there⟩
  | none =>
      have vacant := kept_eq_none_iff.mp there
      rcases (tells_of_vacant vacant reads).either with
        ⟨settings, read, gives⟩ | ⟨m, -, failed⟩
      · exact ⟨past, reading, [], settings, rfl, ⟨success, vacant, List.not_mem_nil⟩, read, gives⟩
      · obtain ⟨-, settings, gives⟩ := success
        exact absurd gives (not_gives_of_failed failed)

/-- A reading fails where nothing is kept, and with what is wrong with the environment. -/
theorem error_of_failed (reads : reading.Reads) (failed : replyTo env past reading = .failed m) :
    ofEnvironment (inForce env past) = .error m := by
  rcases (tells_of_vacant (vacant_of_failed reads failed) reads).either with
    ⟨settings, -, gives⟩ | ⟨other, read, same⟩
  · exact absurd gives (not_gives_of_failed failed)
  · rw [failed] at same
    cases same
    exact read

/-- A reading that fails leaves nothing behind. -/
theorem vacant_snoc_of_failed (reads : reading.Reads)
    (failed : replyTo env past reading = .failed m) : Vacant env (past ++ [reading]) :=
  vacant_snoc.mpr <| .inr ⟨vacant_of_failed reads failed,
    fun ⟨_, _, gives⟩ => not_gives_of_failed failed gives⟩

/-- **One reading for all.** From the first success after a reset to the next reset all readings
give the settings of the environment that was in force then; a reading that fails leaves nothing
behind. -/
theorem shares_first_reading (env : Environment) : Sharing env where
  answered past reading reads := by
    cases there : (after env past).kept with
    | some kept =>
        exact .inl ⟨reads, kept.settings, (comes (after env past) reading).gives reads there⟩
    | none =>
        rcases ((comes (after env past) reading).tells reads there).either with
          ⟨settings, -, gives⟩ | ⟨m, -, failed⟩
        · exact .inl ⟨reads, settings, gives⟩
        · exact .inr ⟨m, failed⟩
  served past reading success := exists_earliest success
  same past between kept got noReset := by
    have there := kept_run (kept_after_get got) noReset
    rw [← after_append, List.append_assoc, List.singleton_append] at there
    rw [replyTo, access_get_of_kept there]
  another past between kept next got reset again := by
    have there := kept_after_get got
    have later := kept_after_get again
    rw [List.append_cons past, List.append_assoc, after_append] at later
    have less := lt_of_reset ((provenance env _).counted kept there)
      (List.mem_append_left [.get] reset) later
    exact Nat.ne_of_gt less
  failed past reading m reads failed := by
    have vacant := vacant_snoc_of_failed reads failed
    refine ⟨error_of_failed reads failed, kept_eq_none_iff.mpr vacant, ?_⟩
    intro between next apart nextReads
    rw [← List.singleton_append, ← List.append_assoc]
    exact tells_of_vacant (vacant.append apart) nextReads
  aside past a apart noReset := by
    rw [after_snoc]
    exact (comes (after env past) a).kept_of_apart apart noReset
  fresh past := by
    rw [← (provenance env past).environment, replyTo, access, fresh]
    cases ofEnvironment (after env past).environment with
    | ok settings => exact .gives rfl
    | error m => exact .fails m

example : ((after [] [.set "MAP_UTILS_RASTER_TILE_SIZE" "0", .get,
      .set "MAP_UTILS_RASTER_TILE_SIZE" "256", .shown,
      .unset "MAP_UTILS_RASTER_TILE_SIZE"]).kept.map (·.settings.rasterTileSize)) = some 256 := by
  decide +kernel

end Cartography.SharedSettings
