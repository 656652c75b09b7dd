import Cartography.Expression.Compile
import Cartography.Proofs.Expression.FirstFault
import Cartography.Proofs.Expression.MaximalMunch
import Cartography.Proofs.Host.Requests
import Cartography.Proofs.Journal.Writing

/-!
# What compiling comes to

Compiling gives an expression, or fails with a place in the text, or fails because its argument is
no text; and a failure is passed on after one record of it. This holds of an argument exactly when
no integer of too many digits gets in the way: as a literal of the text, or inside an argument that
is no text and has to be shown in the record.
-/

namespace Cartography.Expression

/-! ### How texts are turned down -/

theorem ofText_eq_bind (source : String) :
    ofText source = (Tokens.ofText source).bind ofTokens := rfl

/-- Tokens are only turned down at one of them or at the end of their text. -/
theorem ofTokens_error_place {tokens : Tokens} {r : Rejection}
    (failed : ofTokens tokens = .error r) :
    ∃ fault place, r = .faulty fault place ∧
      (place = tokens.stop ∨ ∃ t ∈ tokens.items, t.position = place) := by
  obtain ⟨ts, stop⟩ := tokens
  by_cases filled : ts = []
  · subst filled
    rw [ofTokens_nil] at failed
    exact ⟨.emptyExpression, stop, (Except.error.inj failed).symm, Or.inl rfl⟩
  rw [ofTokens_eq stop filled, bind_eq_error] at failed
  rcases failed with failed | ⟨⟨tree, rest⟩, read, failed⟩
  · obtain ⟨before, after, fault, rfl, rfl, -⟩ :=
      turnsDownBelow stop _ ts (Nat.lt_succ_self _) 1 (by decide) r failed
    refine ⟨fault, _, rfl, ?_⟩
    cases after with
    | nil => exact Or.inl rfl
    | cons t others => exact Or.inr ⟨t, by simp, rfl⟩
  · obtain ⟨before, rfl, -⟩ := exists_front_of_plainFrom read
    cases rest with
    | nil => cases failed
    | cons found others =>
        exact ⟨_, _, (Except.error.inj failed).symm, Or.inr ⟨found, by simp, rfl⟩⟩

/-- The place at which a text is turned down is in the text or at its end. -/
theorem place_le_length {source : String} {fault : Fault} {place : Nat}
    (failed : ofText source = .error (.faulty fault place)) : place ≤ source.length := by
  have outcome := Tokens.scansAs source.toList 0 (Nat.zero_le _)
  rw [List.drop_zero] at outcome
  rw [ofText_eq_bind, Tokens.ofText_eq] at failed
  rw [← String.length_toList]
  generalize Tokens.scan 0 source.toList = result at outcome failed
  cases outcome with
  | @whole spans tiles small =>
      obtain ⟨fault', place', same, ended | ⟨t, member, here⟩⟩ := ofTokens_error_place failed
      · obtain ⟨-, rfl⟩ := Rejection.faulty.inj same
        exact Nat.le_of_eq ended
      · obtain ⟨-, rfl⟩ := Rejection.faulty.inj same
        obtain ⟨s, hs, rfl⟩ := List.mem_map.mp member
        have inside := (tiles.inside s hs).2
        have filled := tiles.start_lt_stop hs
        rw [← here]
        exact Nat.le_of_lt (Nat.lt_of_lt_of_le filled inside)
  | @stuck fault' place' c spans low tiles small found shown nothing =>
      obtain ⟨-, rfl⟩ := Rejection.faulty.inj (Except.error.inj failed)
      exact Nat.le_of_lt (List.getElem?_eq_some_iff.mp found).1
  | oversized => cases failed

/-- A text fails over an integer of too many digits exactly when one is among its tokens. -/
theorem oversized_iff_meetsOversized (source : String) :
    (∃ digits, ofText source = .error (.oversizedInteger digits)) ↔
      Tokens.MeetsOversized source := by
  rw [ofText_eq_bind, Tokens.ofText_eq]
  constructor
  · rintro ⟨digits, failed⟩
    have outcome := Tokens.scansAs source.toList 0 (Nat.zero_le _)
    rw [List.drop_zero] at outcome
    generalize Tokens.scan 0 source.toList = result at outcome failed
    cases outcome with
    | whole tiles small =>
        obtain ⟨fault, place, same, -⟩ := ofTokens_error_place failed
        cases same
    | stuck => cases failed
    | oversized low tiles longest large => exact ⟨_, _, _, _, tiles, longest, large⟩
  · rintro ⟨p, spans, w, token, tiles, longest, large⟩
    obtain ⟨digits, failed⟩ := Tokens.scan_of_oversized tiles longest large
    refine ⟨digits, ?_⟩
    rw [failed]
    rfl

/-! ### Running the compiler -/

/-- The entry on a failure of compiling an argument that can be shown. -/
theorem exists_entryOfFailure {source : Value} (shown : ¬ source.HoldsOversized)
    (failure : Failure) :
    ∃ entry, entryOfFailure? source failure = some entry ∧
      entry.message = .text "Exception in compile" ∧ entry.arguments = [] ∧
      entry.level = Level.error.number ∧ entry.mention = .incident (.ofFailure failure) ∧
      ∀ dimension ∈ entry.dimensions, ¬ dimension.2.HoldsOversized := by
  cases literal : Value.argumentsLiteral? [source] with
  | none =>
      rw [Value.argumentsLiteral?_eq_none_iff] at literal
      simp [shown] at literal
  | some arguments =>
      refine ⟨_, by rw [entryOfFailure?, Entry.failed?, literal]; rfl, rfl, rfl, rfl, rfl, ?_⟩
      intro dimension member
      simp only [List.mem_cons, List.not_mem_nil, or_false] at member
      rcases member with rfl | rfl | rfl | rfl | rfl | rfl <;> exact Value.shown_text _

/-- There is no entry on a failure over an argument that cannot be shown. -/
theorem entryOfFailure?_eq_none {source : Value} (hidden : source.HoldsOversized)
    (failure : Failure) : entryOfFailure? source failure = none := by
  have literal : Value.argumentsLiteral? [source] = none :=
    (Value.argumentsLiteral?_eq_none_iff _).mpr ⟨source, List.mem_singleton_self _, hidden⟩
  rw [entryOfFailure?, Entry.failed?, literal]

section Runs

variable {σ : Type} (host : Host σ) (stage : Stage σ) {source : Value}

theorem run_compile_ok {tree : Expression} (value : ofValue source = .ok tree) :
    (compile source).run host stage =
      (.ok tree, stage.written logger (compiledEntry (source.literal?.getD ""))) := by
  rw [compile, value]
  rfl

theorem run_compile_error {failure : Failure} (value : ofValue source = .error failure)
    {entry : Entry} (noted : entryOfFailure? source failure = some entry) :
    (compile source).run host stage = (.error failure, stage.written logger entry) := by
  rw [compile, value]
  simp only [noted]
  rfl

theorem run_compile_hidden {failure : Failure} (value : ofValue source = .error failure)
    (hidden : source.HoldsOversized) :
    (compile source).run host stage = (.error (.oversizedInteger none), stage) := by
  rw [compile, value]
  simp only [entryOfFailure?_eq_none hidden]
  rfl

/-- Compiling an argument that can be shown gives what it writes, or fails as that does. -/
theorem result_compile (shown : ¬ source.HoldsOversized) :
    ((compile source).run host stage).1 = ofValue source := by
  cases value : ofValue source with
  | ok tree => rw [run_compile_ok host stage value]
  | error failure =>
      obtain ⟨entry, noted, -⟩ := exists_entryOfFailure shown failure
      rw [run_compile_error host stage value noted]

end Runs

theorem ofValue_of_not_text {source : Value} (other : ∀ text, source ≠ .text text) :
    ofValue source = .error (.breach (.expressionNotText source.kind)) := by
  cases source with
  | text s => exact absurd rfl (other s)
  | _ => rfl

theorem ofValue_text (source : String) :
    ofValue (.text source) = (ofText source).mapError (Failure.ofRejection source) := rfl

/-! ### The contract -/

/-- What compiling an argument may come to. -/
inductive Documented : Value → Except Failure Expression → Prop
  | compiled (source : String) (tree : Expression) : Documented (.text source) (.ok tree)
  | turnedDown {source : String} {e : SyntaxError} {place : Nat} (carried : e.source = source)
      (placed : e.position = some (place : Int)) (inside : place ≤ source.length) :
      Documented (.text source) (.error (.expression e))
  | breach {source : Value} (b : Breach) (other : ∀ text, source ≠ .text text) :
      Documented source (.error (.breach b))

/-- Compiling an argument comes to what is documented, on every host, and a failure is passed on
as it is after a single entry on it at the error level. A logger that lets it through makes one
record of it. -/
structure KeepsContract (source : Value) : Prop where
  documented : ∀ (σ : Type) (host : Host σ) (stage : Stage σ),
    Documented source ((compile source).run host stage).1
  passedOn : ∀ failure, ofValue source = .error failure →
    ∀ (σ : Type) (host : Host σ) (stage : Stage σ), ∃ entry : Entry,
      entry.level = Level.error.number ∧
        (compile source).run host stage = (.error failure, stage.written logger entry)
  recorded : ∀ failure, ofValue source = .error failure →
    ∀ (σ : Type) (host : Host σ) (stage : Stage σ) (own : Logger),
      stage.journal.find? logger = some own → own.level.number ≤ Level.error.number →
      ∃ record : Record, record.level = "ERROR" ∧ record.logger = logger ∧
        record.mention = .incident (.ofFailure failure) ∧
        ((compile source).run host stage).2.journal.records = stage.journal.records ++ [record]

/-- An integer of too many digits gets in the way of compiling: a literal of a text, or one inside
the argument. -/
def Overflows (source : Value) : Prop :=
  (∃ text, source = .text text ∧ Tokens.MeetsOversized text) ∨ source.HoldsOversized

/-- A failure over an argument that can be shown is passed on after one record. -/
theorem KeepsContract.of_documented {source : Value} (shown : ¬ source.HoldsOversized)
    (documented : Documented source (ofValue source)) : KeepsContract source where
  documented := by
    intro σ host stage
    rwa [result_compile host stage shown]
  passedOn := by
    intro failure value σ host stage
    obtain ⟨entry, noted, -, -, level, -⟩ := exists_entryOfFailure shown failure
    exact ⟨entry, level, run_compile_error host stage value noted⟩
  recorded := by
    intro failure value σ host stage own found enabled
    obtain ⟨entry, noted, text, bare, level, mention, written⟩ := exists_entryOfFailure shown failure
    have reached : (own.level.number : Int) ≤ entry.level := by
      rw [level]
      exact_mod_cast enabled
    have appended : (stage.journal.write logger entry).records = stage.journal.records ++ [_] :=
      Journal.records_write (by decide) found reached
        (Journal.record?_eq_some own (entry.text?_of_bare text bare own.limit) (by simp [mention])
          written)
    rw [run_compile_error host stage value noted]
    refine ⟨_, ?_, ?_, ?_, appended⟩
    · rw [level]
      rfl
    · exact Journal.path_of_find? found
    · exact mention

/-- A text without integers of too many digits is compiled or turned down at a place. -/
theorem documented_text {source : String} (small : ¬ Tokens.MeetsOversized source) :
    Documented (.text source) (ofValue (.text source)) := by
  rw [ofValue_text]
  cases read : ofText source with
  | ok tree => exact .compiled source tree
  | error r =>
      cases r with
      | faulty fault place => exact .turnedDown rfl rfl (place_le_length read)
      | oversizedInteger digits =>
          exact absurd ((oversized_iff_meetsOversized source).mp ⟨digits, read⟩) small

/-- Without integers of too many digits in its way, compiling keeps its contract. -/
theorem keepsContract_of_small {source : Value} (small : ¬ Overflows source) :
    KeepsContract source := by
  have shown : ¬ source.HoldsOversized := fun holds => small (Or.inr holds)
  apply KeepsContract.of_documented shown
  by_cases isText : ∃ text, source = .text text
  · obtain ⟨text, rfl⟩ := isText
    exact documented_text fun meets => small (Or.inl ⟨text, rfl, meets⟩)
  · have other : ∀ text, source ≠ .text text := fun text same => isText ⟨text, same⟩
    rw [ofValue_of_not_text other]
    exact .breach _ other

/-- An integer of too many digits makes compiling fail in a way that is not documented. -/
theorem not_keepsContract_of_overflows {source : Value} (overflows : Overflows source) :
    ¬ KeepsContract source := by
  intro contract
  have outcome := contract.documented Unit .idle .idle
  rcases overflows with ⟨text, rfl, meets⟩ | holds
  · obtain ⟨digits, read⟩ := (oversized_iff_meetsOversized text).mpr meets
    have value : ofValue (.text text) = .error (.oversizedInteger (some digits)) := by
      rw [ofValue_text, read]
      rfl
    obtain ⟨entry, noted, -⟩ :=
      exists_entryOfFailure (Value.shown_text text) (.oversizedInteger (some digits))
    rw [run_compile_error _ _ value noted] at outcome
    cases outcome
  · have other : ∀ text, source ≠ .text text := by
      rintro text rfl
      cases holds
    rw [run_compile_hidden _ _ (ofValue_of_not_text other) holds] at outcome
    cases outcome

/-- Compiling keeps its contract exactly when no integer of too many digits gets in its way. How
deeply the brackets of a text may be nested has no limit here: the machine that reads the text may
have one, and what comes of running into it is not modelled. -/
theorem keepsContract_iff (source : Value) : KeepsContract source ↔ ¬ Overflows source :=
  ⟨fun contract overflows => not_keepsContract_of_overflows overflows contract,
    keepsContract_of_small⟩

/-- A literal of one digit too many in front of a character that starts no token, and an integer
of one digit too many in place of a text. -/
theorem not_keepsContract_of_long :
    ¬ KeepsContract (.text (String.ofList (List.replicate 4301 '1' ++ [' ', '@']))) ∧
      ¬ KeepsContract (.integer (10 ^ 4300)) := by
  constructor
  · apply not_keepsContract_of_overflows
    refine Or.inl ⟨_, rfl, Tokens.meetsOversized_of_digits ?_ ?_⟩
    · intro c hc
      rw [List.eq_of_mem_replicate hc]
      decide
    · rw [List.length_replicate]
      decide
  · exact not_keepsContract_of_overflows (Or.inr (Value.holdsOversized_pow (Nat.le_refl 4300)))

end Cartography.Expression
