import Cartography.Proofs.Journal.Creation
import Mathlib.Data.List.Perm.Basic

/-!
# The loggers above a logger

A logger stands above the loggers whose names go on after its own with a dot. All that are found
above a logger stand above it, each is found once, and those are found whose dot is not followed by
another one.
-/

namespace Cartography

/-- A logger stands above another one whose name goes on after its own with a dot. -/
def Logger.isAbove (upper lower : Logger) : Bool :=
  (upper.path.toList ++ ['.']).isPrefixOf lower.path.toList

/-- The name of another logger goes on after that of a logger with two dots. -/
def Logger.isTwoDotsAbove (upper lower : Logger) : Bool :=
  (upper.path.toList ++ ['.', '.']).isPrefixOf lower.path.toList

namespace Journal

variable {journal : Journal} {logger : Logger} {cs : List Char}

theorem path_ne_empty (logger : Logger) : logger.path.toList ≠ [] := by
  simp [Logger.path, Logger.pathOf]

theorem toList_of_find? {cs : List Char}
    (found : journal.find? (String.ofList cs.reverse) = some logger) :
    cs = logger.path.toList.reverse := by
  rw [path_of_find? found, String.toList_ofList, List.reverse_reverse]

/-- Whatever is found above a name given from its end is the logger of a part of it behind a dot. -/
theorem split_of_mem_ancestorsFrom (member : logger ∈ journal.ancestorsFrom cs) :
    logger ∈ journal.loggers ∧ ∃ front, cs = front ++ '.' :: logger.path.toList.reverse := by
  fun_induction journal.ancestorsFrom cs with
  | case1 => cases member
  | case2 c above path known ih =>
      rcases List.mem_append.mp member with here | further
      · have found := Option.mem_toList.mp here
        exact ⟨List.mem_of_find?_eq_some found, [], by rw [toList_of_find? found, List.nil_append]⟩
      · obtain ⟨there, front, split⟩ := ih further
        exact ⟨there, '.' :: front, by rw [split, List.cons_append]⟩
  | case3 c above path unknown ih =>
      obtain ⟨there, front, split⟩ := ih member
      exact ⟨there, '.' :: c :: front, by rw [split, List.cons_append, List.cons_append]⟩
  | case4 c rest _ ih =>
      obtain ⟨there, front, split⟩ := ih member
      exact ⟨there, c :: front, by rw [split, List.cons_append]⟩

theorem length_lt_of_mem_ancestorsFrom (member : logger ∈ journal.ancestorsFrom cs) :
    logger.path.toList.length < cs.length := by
  obtain ⟨-, front, split⟩ := split_of_mem_ancestorsFrom member
  simp [split]
  omega

/-- No logger is found twice above a name: each one found has a shorter name than the one before. -/
theorem nodup_ancestorsFrom (journal : Journal) (cs : List Char) :
    (journal.ancestorsFrom cs).Nodup := by
  fun_induction journal.ancestorsFrom cs with
  | case1 => exact List.nodup_nil
  | case2 c above path known ih =>
      cases found : journal.find? path with
      | none => exact ih
      | some first =>
          refine List.nodup_cons.mpr ⟨fun again => ?_, ih⟩
          have shorter := length_lt_of_mem_ancestorsFrom again
          rw [toList_of_find? found, List.length_reverse] at shorter
          exact Nat.lt_irrefl _ shorter
  | case3 c above path unknown ih => exact ih
  | case4 c rest _ ih => exact ih

/-- A logger is found above a name that goes on after its own with a dot and not with two. -/
theorem mem_ancestorsFrom (found : journal.find? logger.path = some logger) :
    ∀ {front : List Char}, front.getLast? ≠ some '.' →
      cs = front ++ '.' :: logger.path.toList.reverse → logger ∈ journal.ancestorsFrom cs := by
  -- what the search leaves out between two names is never the last character before the dot
  have inner {c : Char} {rest : List Char} (ends : (c :: rest).getLast? ≠ some '.') :
      rest.getLast? ≠ some '.' := by
    intro dot
    rw [List.getLast?_cons, dot] at ends
    exact ends rfl
  fun_induction journal.ancestorsFrom cs with
  | case1 => exact fun _ split => absurd split (by simp)
  | case2 c above path known =>
      rename_i ih
      intro front single split
      rcases front with _ | ⟨d, front⟩
      · rw [List.nil_append] at split
        have here : path = logger.path := by
          simp only [path, (List.cons.inj split).2, List.reverse_reverse, String.ofList_toList]
        rw [here, found]
        exact List.mem_cons_self ..
      · exact List.mem_append_right _ (ih (inner single) (List.cons.inj split).2)
  | case3 c above path unknown =>
      rename_i ih
      intro front single split
      rcases front with _ | ⟨d, _ | ⟨e, front⟩⟩
      · rw [List.nil_append] at split
        have here : path = logger.path := by
          simp only [path, (List.cons.inj split).2, List.reverse_reverse, String.ofList_toList]
        rw [here, knows, found] at unknown
        exact absurd rfl unknown
      · rw [← (List.cons.inj split).1] at single
        exact absurd rfl single
      · exact ih (inner (inner single)) (List.cons.inj (List.cons.inj split).2).2
  | case4 c rest other ih =>
      intro front single split
      rcases front with _ | ⟨d, front⟩
      · obtain ⟨dot, rfl⟩ := List.cons.inj split
        obtain ⟨last, others, ends⟩ := List.exists_cons_of_ne_nil
          (List.reverse_ne_nil_iff.mpr (path_ne_empty logger))
        exact (other last others dot ends).elim
      · exact ih (inner single) (List.cons.inj split).2

/-- A logger that is found above another one stands above it. -/
theorem isAbove_of_mem_ancestors {upper lower : Logger}
    (member : upper ∈ journal.ancestors lower.path) :
    upper ∈ journal.loggers ∧ upper.isAbove lower = true := by
  obtain ⟨there, front, split⟩ := split_of_mem_ancestorsFrom member
  refine ⟨there, ?_⟩
  rw [List.reverse_eq_iff, List.reverse_append, List.reverse_cons, List.reverse_reverse] at split
  rw [Logger.isAbove, split, List.isPrefixOf_iff_prefix]
  exact List.prefix_append _ _

/-- A logger that stands above another one, with a dot and not with two, is found above it. -/
theorem mem_ancestors (distinct : journal.Distinct) {upper lower : Logger}
    (there : upper ∈ journal.loggers) (above : upper.isAbove lower = true)
    (single : upper.isTwoDotsAbove lower = false) : upper ∈ journal.ancestors lower.path := by
  rw [Logger.isAbove, List.isPrefixOf_iff_prefix] at above
  obtain ⟨rest, split⟩ := above
  have noDot : rest.reverse.getLast? ≠ some '.' := by
    intro dot
    rw [List.getLast?_reverse, List.head?_eq_some_iff] at dot
    obtain ⟨others, rfl⟩ := dot
    have two : upper.isTwoDotsAbove lower = true := by
      rw [Logger.isTwoDotsAbove, List.isPrefixOf_iff_prefix]
      exact ⟨others, by simpa using split⟩
    rw [two] at single
    cases single
  exact mem_ancestorsFrom (distinct.find?_eq_some_iff.mpr ⟨there, rfl⟩) noDot (by simp [← split])

/-! ### How many there are -/

/-- At most the loggers that stand above another one are found above it. -/
theorem countP_ancestors_le (journal : Journal) (lower : Logger) (p : Logger → Bool) :
    (journal.ancestors lower.path).countP p ≤
      journal.loggers.countP fun upper => p upper && upper.isAbove lower := by
  rw [← List.countP_filter]
  refine (List.subperm_of_subset (nodup_ancestorsFrom journal _) fun upper member => ?_).countP_le p
  exact List.mem_filter.mpr (isAbove_of_mem_ancestors member)

/-- At least those are found that stand above it with a dot and not with two. -/
theorem le_countP_ancestors (distinct : journal.Distinct) (lower : Logger) (p : Logger → Bool) :
    (journal.loggers.countP fun upper =>
        p upper && (upper.isAbove lower && !upper.isTwoDotsAbove lower)) ≤
      (journal.ancestors lower.path).countP p := by
  rw [← List.countP_filter]
  have nodup : journal.loggers.Nodup := List.Nodup.of_map _ distinct
  refine (List.subperm_of_subset (nodup.filter _) fun upper member => ?_).countP_le p
  obtain ⟨there, above⟩ := List.mem_filter.mp member
  rw [Bool.and_eq_true, Bool.not_eq_true'] at above
  exact mem_ancestors distinct there above.1 above.2

end Journal

end Cartography
