import Cartography.Proofs.Expression.Composition

/-!
# The operands of an expression

What a text compiles to is in wire form: a number, a text, or a list of a head and of values in wire
form, where the head is that of an operator or the name of what is called. Its leaves are the
operands of the text, each once and in their order; compiling changes nothing about them but the
sign of a number that has minus signs in front of it.

## Implementation notes

Both are proved along the derivation of the tokens. That the callees are names comes from the text,
as it is not known of tokens in general.
-/

namespace Cartography

/-! ### Wire form -/

/-- The form in which the map host takes expressions. -/
inductive IsWire : Value → Prop
  | number (n : Number) : IsWire (.ofNumber n)
  | text (s : String) : IsWire (.text s)
  | joined {o : Operator} {b : Binding} {x y : Value} (binds : o.binding? = some b)
      (left : IsWire x) (right : IsWire y) : IsWire (.list [.text b.head, x, y])
  | negated {x : Value} (unsigned : ∀ n, x ≠ .ofNumber n) (operand : IsWire x) :
      IsWire (.list [.text "-", x])
  | denied {x : Value} (operand : IsWire x) : IsWire (.list [.text "!", x])
  | called {name : String} {arguments : List Value} (named : IsName name)
      (all : ∀ argument ∈ arguments, IsWire argument) : IsWire (.list (.text name :: arguments))

/-- A value in wire form is a number, a text, or a list of a head and of values in wire form. -/
theorem IsWire.number_or_text_or_list {value : Value} (wire : IsWire value) :
    (∃ n, value = .ofNumber n) ∨ (∃ s, value = .text s) ∨
      ∃ head others, value = .list (.text head :: others) ∧ ∀ other ∈ others, IsWire other := by
  cases wire with
  | number n => exact Or.inl ⟨n, rfl⟩
  | text s => exact Or.inr (Or.inl ⟨s, rfl⟩)
  | joined binds left right => exact Or.inr (Or.inr ⟨_, _, rfl, by simp [left, right]⟩)
  | negated unsigned operand => exact Or.inr (Or.inr ⟨_, _, rfl, by simp [operand]⟩)
  | denied operand => exact Or.inr (Or.inr ⟨_, _, rfl, by simp [operand]⟩)
  | called named all => exact Or.inr (Or.inr ⟨_, _, rfl, all⟩)

theorem isWire_negation {tree : Expression} (wire : IsWire tree.toValue) :
    IsWire tree.negation.toValue := by
  cases tree with
  | number n => exact .number n.negate
  | text s => exact .negated (fun n => by cases n <;> exact nofun) wire
  | call head arguments => exact .negated (fun n => by cases n <;> exact nofun) wire

theorem isWire_lookup (name : String) : IsWire (Expression.lookup name).toValue := by
  have named : IsName "get" := ⟨'g', ['e', 't'], rfl, rfl, List.all_eq_true.mp rfl⟩
  refine .called named fun argument member => ?_
  obtain rfl := List.mem_singleton.mp member
  exact .text name

/-- The names among some tokens can be written. -/
def NamesAreNames (ts : List Token) : Prop := ∀ s, .name s ∈ ts → IsName s

theorem NamesAreNames.of_subset {ts part : List Token} (named : NamesAreNames ts)
    (among : part ⊆ ts) : NamesAreNames part :=
  fun s member => named s (among member)

/-- The names among the tokens of a text are names. -/
theorem namesAreNames_of_scan {cs : List Char} {items : List Located}
    (read : Tokens.scan 0 cs = .ok items) : NamesAreNames (items.map (·.token)) := by
  obtain ⟨spans, tiles, -, rfl⟩ := Tokens.exists_tiles_of_scan read
  intro name member
  obtain ⟨t, ht, called⟩ := List.mem_map.mp member
  obtain ⟨s, hs, rfl⟩ := List.mem_map.mp ht
  have spells := (tiles.longest s hs).spells
  rw [called] at spells
  generalize s.lexeme = written at spells
  cases spells with
  | punctuation found =>
      rcases Lexeme.punctuation?_eq_some found with ⟨-, same⟩ | ⟨-, same⟩ | ⟨-, same⟩ <;> cases same
  | @name c others starts parts => exact ⟨c, others, String.toList_ofList, starts, parts⟩

namespace Derivation

mutual

/-- What tokens with writable names derive is in wire form. -/
theorem isWire_tree {level : Nat} (d : Derivation level) (named : NamesAreNames d.yield) :
    IsWire d.tree.toValue := by
  match d with
  | climb below inner => exact inner.isWire_tree named
  | binary listed left right =>
      have namedLeft : NamesAreNames left.yield := named.of_subset (by simp [yield])
      have namedRight : NamesAreNames right.yield := named.of_subset (by simp [yield])
      exact .joined (binding_of_listed listed) (left.isWire_tree namedLeft)
        (right.isWire_tree namedRight)
  | negated operand =>
      have namedOperand : NamesAreNames operand.yield := named.of_subset (by simp [yield])
      rw [tree_negated]
      exact isWire_negation (operand.isWire_tree namedOperand)
  | denied operand =>
      have namedOperand : NamesAreNames operand.yield := named.of_subset (by simp [yield])
      exact .denied (operand.isWire_tree namedOperand)
  | power base exponent =>
      have namedBase : NamesAreNames base.yield := named.of_subset (by simp [yield])
      have namedExponent : NamesAreNames exponent.yield := named.of_subset (by simp [yield])
      exact .joined (o := .power) rfl (base.isWire_tree namedBase)
        (exponent.isWire_tree namedExponent)
  | number n => exact .number n
  | text s => exact .text s
  | lookup name => exact isWire_lookup name
  | call name arguments =>
      have namedArguments : NamesAreNames (yields arguments) := by
        apply named.of_subset
        intro token member
        simp [yield, member]
      exact .called (named name (List.mem_cons_self ..)) (isWire_trees arguments namedArguments)
  | group inner =>
      have namedInner : NamesAreNames inner.yield := named.of_subset (by simp [yield])
      exact inner.isWire_tree namedInner

theorem isWire_trees (ds : List (Derivation 1)) (named : NamesAreNames (yields ds)) :
    ∀ value ∈ Expression.toValues (trees ds), IsWire value := by
  match ds with
  | [] => exact List.forall_mem_nil _
  | [only] =>
      rw [trees, Expression.toValues]
      exact List.forall_mem_cons.mpr ⟨only.isWire_tree named, List.forall_mem_nil _⟩
  | first :: second :: more =>
      have namedFirst : NamesAreNames first.yield := named.of_subset (by simp [yields])
      have namedMore : NamesAreNames (yields (second :: more)) :=
        named.of_subset (by simp [yields])
      rw [trees, Expression.toValues]
      exact List.forall_mem_cons.mpr
        ⟨first.isWire_tree namedFirst, isWire_trees (second :: more) namedMore⟩

end

end Derivation

/-! ### Leaves -/

mutual

/-- The leaves of a value from left to right: what stands in its lists, but for their heads. -/
def leaves : Value → List Value
  | .list items => leavesBehindHead items
  | value => [value]

/-- The leaves of a list with a head. -/
def leavesBehindHead : List Value → List Value
  | [] => []
  | _ :: others => leavesOfAll others

/-- The leaves of values one after the other. -/
def leavesOfAll : List Value → List Value
  | [] => []
  | first :: more => leaves first ++ leavesOfAll more

end

theorem leaves_ofNumber (n : Number) : leaves (.ofNumber n) = [.ofNumber n] := by
  cases n <;> simp [Value.ofNumber, leaves]

theorem leaves_call (head : String) (arguments : List Expression) :
    leaves (Expression.call head arguments).toValue =
      leavesOfAll (Expression.toValues arguments) := by
  rw [Expression.toValue, leaves, leavesBehindHead]

@[simp] theorem leavesOfAll_nil : leavesOfAll (Expression.toValues []) = [] := rfl

@[simp] theorem leavesOfAll_cons (first : Expression) (more : List Expression) :
    leavesOfAll (Expression.toValues (first :: more)) =
      leaves first.toValue ++ leavesOfAll (Expression.toValues more) := rfl

/-- The operands among tokens, from left to right: numbers, texts, and names that are not called. -/
def operands : List Token → List Value
  | [] => []
  | .number n :: rest => .ofNumber n :: operands rest
  | .text s :: rest => .text s :: operands rest
  | .name _ :: .opening :: rest => operands rest
  | .name s :: rest => .text s :: operands rest
  | .operator _ :: rest | .opening :: rest | .closing :: rest | .comma :: rest => operands rest

theorem operands_name (s : String) {rest : List Token}
    (uncalled : ∀ t ∈ rest.head?, t ≠ .opening) :
    operands (.name s :: rest) = .text s :: operands rest := by
  rw [operands]
  rintro others rfl
  exact uncalled .opening rfl rfl

/-- Tokens can be parted wherever no bracket opens. -/
theorem operands_append (front : List Token) {back : List Token}
    (uncalled : ∀ t ∈ back.head?, t ≠ .opening) :
    operands (front ++ back) = operands front ++ operands back := by
  fun_induction operands front with
  | case1 => rfl
  | case2 n rest ih => rw [List.cons_append, operands, ih, List.cons_append]
  | case3 s rest ih => rw [List.cons_append, operands, ih, List.cons_append]
  | case4 name rest ih => rw [List.cons_append, List.cons_append, operands, ih]
  | case5 s rest bare ih =>
      have further : ∀ t ∈ (rest ++ back).head?, t ≠ .opening := by
        cases rest with
        | nil => exact uncalled
        | cons t others =>
            rintro u first rfl
            obtain rfl := Option.some.inj first
            exact bare others rfl
      rw [List.cons_append, operands_name s further, ih, List.cons_append]
  | case6 o rest ih => exact ih
  | case7 rest ih => exact ih
  | case8 rest ih => exact ih
  | case9 rest ih => exact ih

theorem operands_joined (left : List Token) (o : Operator) (right : List Token) :
    operands (left ++ .operator o :: right) = operands left ++ operands right := by
  rw [operands_append left (by simp), operands]

theorem operands_enclosed (inside : List Token) :
    operands (inside ++ [.closing]) = operands inside := by
  rw [operands_append inside (by simp), operands, operands, List.append_nil]

/-- A value is another one, or the number with the other sign. -/
inductive UpToSign : Value → Value → Prop
  | same (value : Value) : UpToSign value value
  | sign (n : Number) : UpToSign (.ofNumber n.negate) (.ofNumber n)

theorem Value.ofNumber_inj {m n : Number} : Value.ofNumber m = .ofNumber n ↔ m = n := by
  cases m <;> cases n <;> simp [Value.ofNumber]

theorem UpToSign.negate {n : Number} {value : Value} (h : UpToSign (.ofNumber n) value) :
    UpToSign (.ofNumber n.negate) value := by
  generalize written : Value.ofNumber n = leaf at h
  cases h with
  | same =>
      subst written
      exact .sign n
  | sign m =>
      obtain rfl := Value.ofNumber_inj.mp written
      rw [Number.negate_negate]
      exact .same _

/-- The leaves of an expression are some operands, but for signs. -/
def LeavesAre (tree : Expression) (values : List Value) : Prop :=
  List.Forall₂ UpToSign (leaves tree.toValue) values

/-- The leaves of a call of one argument are those of the argument. -/
theorem LeavesAre.single {head : String} {operand : Expression} {values : List Value}
    (kept : LeavesAre operand values) : LeavesAre (.call head [operand]) values := by
  rw [LeavesAre, leaves_call, leavesOfAll_cons, leavesOfAll_nil, List.append_nil]
  exact kept

/-- The leaves of a call of two arguments are those of the arguments, one after the other. -/
theorem LeavesAre.pair {head : String} {left right : Expression} {first second : List Value}
    (leftKept : LeavesAre left first) (rightKept : LeavesAre right second) :
    LeavesAre (.call head [left, right]) (first ++ second) := by
  rw [LeavesAre, leaves_call, leavesOfAll_cons, leavesOfAll_cons, leavesOfAll_nil, List.append_nil]
  exact List.rel_append leftKept rightKept

/-- A minus sign in front of an expression leaves its leaves as they are, but for a sign. -/
theorem LeavesAre.negation {tree : Expression} {values : List Value}
    (kept : LeavesAre tree values) : LeavesAre tree.negation values := by
  cases tree with
  | number n =>
      rw [LeavesAre, Expression.toValue, leaves_ofNumber] at kept
      rw [LeavesAre, Expression.negation, Expression.toValue, leaves_ofNumber]
      cases kept with
      | cons sign others => exact .cons sign.negate others
  | text s => exact kept.single
  | call head arguments => exact kept.single

namespace Derivation

mutual

/-- The leaves of what tokens derive are the operands among them. -/
theorem leavesAre_tree {level : Nat} (d : Derivation level) :
    LeavesAre d.tree (operands d.yield) := by
  match d with
  | climb below inner => exact inner.leavesAre_tree
  | binary listed left right =>
      rw [yield, operands_joined]
      exact left.leavesAre_tree.pair right.leavesAre_tree
  | negated operand =>
      rw [tree_negated]
      exact operand.leavesAre_tree.negation
  | denied operand => exact operand.leavesAre_tree.single
  | power base exponent =>
      rw [yield, operands_joined]
      exact base.leavesAre_tree.pair exponent.leavesAre_tree
  | number n =>
      rw [tree, LeavesAre, Expression.toValue, leaves_ofNumber]
      exact .cons (.same _) .nil
  | text s => exact .cons (.same _) .nil
  | lookup name => exact .cons (.same _) .nil
  | call name arguments =>
      rw [yield, operands, operands_enclosed, tree, LeavesAre, leaves_call]
      exact leavesAre_trees arguments
  | group inner =>
      rw [yield, operands, operands_enclosed]
      exact inner.leavesAre_tree

theorem leavesAre_trees (ds : List (Derivation 1)) :
    List.Forall₂ UpToSign (leavesOfAll (Expression.toValues (trees ds)))
      (operands (yields ds)) := by
  match ds with
  | [] => exact .nil
  | [only] =>
      rw [trees, trees, leavesOfAll_cons, leavesOfAll_nil, List.append_nil]
      exact only.leavesAre_tree
  | first :: second :: more =>
      rw [yields, operands_append first.yield (by simp), operands, trees, leavesOfAll_cons]
      exact List.rel_append first.leavesAre_tree (leavesAre_trees (second :: more))

end

end Derivation

/-! ### Texts -/

/-- **Compiling keeps the operands.** What a text compiles to is in wire form, and from left to
right its leaves are the operands among the tokens of the text, none of them lost, doubled or moved:
the numbers but for their sign, the texts, and the names that are not called. -/
theorem Compiles.keeps_operands {source : String} {tree : Expression}
    (compiled : Compiles source tree) : ∃ tokens, Tokens.ofText source = .ok tokens ∧
      IsWire tree.toValue ∧
      List.Forall₂ UpToSign (leaves tree.toValue) (operands (tokens.items.map (·.token))) := by
  obtain ⟨d, ⟨items, read, written⟩, rfl⟩ := compiles_iff_writes.mp compiled
  refine ⟨⟨items, source.toList.length⟩, ?_, ?_, ?_⟩
  · rw [Tokens.ofText_eq, read]
    rfl
  · apply d.isWire_tree
    rw [← written]
    exact namesAreNames_of_scan read
  · rw [written]
    exact d.leavesAre_tree

/-- A number with a sign and the name of a property as arguments: the sign goes to the number, and
the name of what is called is no operand. -/
theorem Compiles.keeps_operands_of_call :
    let source := "max(-(2),x)"
    let tree : Expression := .call "max" [.number (.integer (-2)), .lookup "x"]
    Compiles source tree ∧ leaves tree.toValue = [.integer (-2), .text "x"] ∧
      ∃ tokens, Tokens.ofText source = .ok tokens ∧ IsWire tree.toValue ∧
        List.Forall₂ UpToSign [.integer (-2), .text "x"]
          (operands (tokens.items.map (·.token))) := by
  intro source tree
  have x : IsName "x" := ⟨'x', [], rfl, rfl, nofun⟩
  have max : IsName "max" := ⟨'m', ['a', 'x'], rfl, rfl, List.all_eq_true.mp rfl⟩
  have number : Compiles "2" (.number (.integer 2)) :=
    compiles_iff.mpr (Formula.ofText_print (.integer 2 (by decide)))
  have lookup : Compiles "x" (.lookup "x") :=
    compiles_iff.mpr (Formula.ofText_print (.lookup "x" x))
  have compiled := Compiles.call max (.cons number.negated (.cons lookup .nil))
  have written : "max" ++ "(" ++ ",".intercalate ["-(" ++ "2" ++ ")", "x"] ++ ")" = source := by
    decide
  rw [written] at compiled
  exact ⟨compiled, rfl, compiled.keeps_operands⟩

end Cartography
