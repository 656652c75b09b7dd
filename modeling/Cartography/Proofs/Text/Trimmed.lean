import Cartography.Text.Blank
import Mathlib.Data.List.DropRight

/-!
# Texts without characters of a class at their ends

Trimming takes characters of a class away from both ends. What is left has none there, and a text
that has none there is left as it is. It makes no difference whether a text has one more of them at
an end.
-/

namespace Cartography.Text

variable {p : Char → Bool} {c : Char} {cs : List Char}

/-- Neither end of a text is a character of a class. -/
structure Trimmed (p : Char → Bool) (cs : List Char) : Prop where
  first : ∀ c ∈ cs.head?, p c = false
  last : ∀ c ∈ cs.getLast?, p c = false

theorem trimmed_iff : Trimmed p cs ↔
    cs.head?.all (fun c => !p c) = true ∧ cs.getLast?.all (fun c => !p c) = true := by
  simp only [Option.all_eq_true, Bool.not_eq_true']
  exact ⟨fun trimmed => ⟨trimmed.first, trimmed.last⟩, fun ends => ⟨ends.1, ends.2⟩⟩

instance (p : Char → Bool) (cs : List Char) : Decidable (Trimmed p cs) :=
  decidable_of_iff _ trimmed_iff.symm

theorem trim_eq (p : Char → Bool) (cs : List Char) :
    trim p cs = (cs.dropWhile p).rdropWhile p := rfl

/-- What is left is a stretch of the text. -/
theorem trim_infix (p : Char → Bool) (cs : List Char) : trim p cs <:+: cs :=
  ((List.rdropWhile_prefix p (cs.dropWhile p)).isInfix).trans (List.dropWhile_suffix p).isInfix

theorem trimmed_trim (p : Char → Bool) (cs : List Char) : Trimmed p (trim p cs) where
  first c found := by
    have front := List.rdropWhile_prefix p (cs.dropWhile p)
    have held : (cs.dropWhile p).head? = some c := by
      obtain ⟨rest, split⟩ := front
      rw [← split, List.head?_append, ← trim_eq, Option.mem_def.mp found]
      rfl
    simpa [held] using List.head?_dropWhile_not p cs
  last c found := by
    obtain ⟨filled, rfl⟩ := List.mem_getLast?_eq_getLast found
    exact Bool.eq_false_iff.mpr (List.rdropWhile_last_not p (cs.dropWhile p) filled)

theorem trim_of_trimmed (trimmed : Trimmed p cs) : trim p cs = cs := by
  have kept : cs.dropWhile p = cs := by
    cases cs with
    | nil => rfl
    | cons c rest => exact List.dropWhile_cons_of_neg (by rw [trimmed.first c rfl]; exact nofun)
  rw [trim_eq, kept, List.rdropWhile_eq_self_iff]
  intro filled
  rw [Bool.not_eq_true]
  exact trimmed.last _ (List.getLast_mem_getLast? filled)

/-- A character of the class in front is taken away. -/
theorem trim_cons (drops : p c = true) (cs : List Char) : trim p (c :: cs) = trim p cs := by
  rw [trim, trim, List.dropWhile_cons_of_pos drops]

/-- A character of the class at the end is taken away. -/
theorem trim_concat (drops : p c = true) (cs : List Char) : trim p (cs ++ [c]) = trim p cs := by
  rw [trim_eq, trim_eq, List.dropWhile_append]
  split
  · rename_i empty
    rw [List.isEmpty_iff.mp empty, List.dropWhile_cons_of_pos drops]
    rfl
  · exact List.rdropWhile_concat_pos p _ c drops

end Cartography.Text
