import Cartography.Proofs.Expression.Alike
import Cartography.Proofs.Expression.Unambiguous

/-!
# Lookups spelled out

A name that is not called looks a property up, just as a call of `get` with that name does. So any
names among the tokens of a text that are not called can be spelled out in that way: the tokens
write the same expression as before, or none as before.

## Implementation notes

Which names are spelled out is told by the indices of the tokens. Neither where the new tokens
stand nor where the text ends matters to what is written.
-/

namespace Cartography

/-- A token as it stands, or spelled out as a call of `get` if it is a name that no bracket
follows. -/
def Token.spelled (spelledOut : Bool) : Token → Option Token → List Token
  | .name s, next =>
      if spelledOut ∧ next ≠ some .opening then [.name "get", .opening, .text s, .closing]
      else [.name s]
  | token, _ => [token]

/-- Tokens with the names spelled out whose indices are chosen, so far as these are not called. -/
def spellOut (chosen : Nat → Bool) : List Token → List Token
  | [] => []
  | token :: rest =>
      token.spelled (chosen 0) rest.head? ++ spellOut (fun i => chosen (i + 1)) rest

namespace Expression

/-- The second tokens are the first ones with some lookups spelled out, wherever they stand. -/
def SpelledOut (ts us : List Located) : Prop :=
  ∃ chosen, us.map (·.token) = spellOut chosen (ts.map (·.token))

/-- A token that is kept stands in both lists. -/
theorem startsAlike_kept {token : Token} {i : Nat} {rest us : List Located} {chosen : Nat → Bool}
    (written : us.map (·.token) = token :: spellOut chosen (rest.map (·.token))) :
    StartsAlike SpelledOut (⟨token, i⟩ :: rest) us := by
  obtain ⟨t, us', rfl, rfl, behind⟩ := List.map_eq_cons_iff.mp written
  exact .same t.token i t.position ⟨chosen, behind⟩

/-- A name that is spelled out is replaced by four tokens. -/
theorem startsAlike_spelled {name : String} {i : Nat} {rest us : List Located}
    {chosen : Nat → Bool} (bare : ∀ t ∈ rest.head?, t.token ≠ .opening)
    (written : us.map (·.token) = .name "get" :: .opening :: .text name :: .closing ::
      spellOut chosen (rest.map (·.token))) :
    StartsAlike SpelledOut (⟨.name name, i⟩ :: rest) us := by
  simp only [List.map_eq_cons_iff] at written
  obtain ⟨⟨_, j⟩, _, rfl, rfl, ⟨_, k⟩, _, rfl, rfl, ⟨_, l⟩, _, rfl, rfl, ⟨_, m⟩, _, rfl, rfl,
    behind⟩ := written
  exact .lookup name i j k l m bare ⟨chosen, behind⟩

/-- Tokens start alike with and without lookups spelled out. -/
theorem startsAlike_of_spelledOut {ts us : List Located} (related : SpelledOut ts us) :
    StartsAlike SpelledOut ts us := by
  obtain ⟨chosen, written⟩ := related
  rcases ts with _ | ⟨⟨token, i⟩, rest⟩
  · obtain rfl := List.map_eq_nil_iff.mp written
    exact .ended
  rw [List.map_cons, spellOut] at written
  cases token with
  | name s =>
      rw [Token.spelled] at written
      split at written
      case isTrue spelledOut =>
        refine startsAlike_spelled (fun t first opens => ?_) written
        apply spelledOut.2
        rw [List.head?_map, first, Option.map_some, opens]
      case isFalse kept => exact startsAlike_kept written
  | _ => exact startsAlike_kept written

/-- Tokens are read alike with and without lookups spelled out. -/
theorem readAlike_spelledOut (stop stop' : Nat) :
    ReadAlike SpelledOut (fun _ _ => True) stop stop' where
  starts := startsAlike_of_spelledOut
  refused := by
    intro ts us _ α fault
    cases ts <;> cases us <;> exact .turnedDown trivial

/-- **A name that is not called is a lookup by `get`.** Where any names that are not called are
spelled out as calls of `get`, tokens write exactly the expression that they wrote before, and none
if they wrote none. -/
theorem ofTokens_spellOut_iff {tokens spelled : Tokens} {chosen : Nat → Bool}
    (written : spelled.items.map (·.token) = spellOut chosen (tokens.items.map (·.token)))
    (tree : Expression) : ofTokens spelled = .ok tree ↔ ofTokens tokens = .ok tree := by
  have alike := readAlike_spelledOut tokens.stop spelled.stop
  rcases ofTokens_alike alike ⟨chosen, written⟩ with
    ⟨read, same, same'⟩ | ⟨r, r', failed, failed', -⟩
  · have same : ofTokens tokens = .ok read := same
    have same' : ofTokens spelled = .ok read := same'
    rw [same, same']
  · have failed : ofTokens tokens = .error r := failed
    have failed' : ofTokens spelled = .error r' := failed'
    rw [failed, failed']
    exact iff_of_false nofun nofun

/-- The base of a power behind a minus sign is spelled out, and the exponent is left as it is. -/
theorem ofTokens_spellOut_of_base :
    let tokens : Tokens :=
      ⟨[⟨.operator .minus, 0⟩, ⟨.name "x", 1⟩, ⟨.operator .power, 2⟩, ⟨.name "y", 3⟩], 4⟩
    let spelled : Tokens :=
      ⟨[⟨.operator .minus, 0⟩, ⟨.name "get", 1⟩, ⟨.opening, 4⟩, ⟨.text "x", 5⟩, ⟨.closing, 8⟩,
        ⟨.operator .power, 9⟩, ⟨.name "y", 10⟩], 11⟩
    spelled.items.map (·.token) = spellOut (· == 1) (tokens.items.map (·.token)) ∧
      (∀ tree, ofTokens spelled = .ok tree ↔ ofTokens tokens = .ok tree) ∧
      ofTokens spelled = .ok (.call "-" [.call "^" [.lookup "x", .lookup "y"]]) := by
  intro tokens spelled
  have written : spelled.items.map (·.token) =
      spellOut (· == 1) (tokens.items.map (·.token)) := by decide
  have same := ofTokens_spellOut_iff written
  let power : Derivation 7 := .negated (.power (.lookup "x") (.climb (by decide) (.lookup "y")))
  obtain ⟨d, sameYield, sameTree, -⟩ :=
    Derivation.exists_lower (show 1 ≤ 7 by decide) power (by decide)
  have written' : tokens.items.map (·.token) = d.yield := sameYield ▸ rfl
  have read := ofTokens_of_derivation d written' tokens.stop
  rw [sameTree] at read
  exact ⟨written, same, (same _).mpr read⟩

end Expression

end Cartography
