/-
# Names, joined paths and absolute paths

A slash divides the names of a path (`namesFrom_append`), so a path that is joined with a single
name ends with this name (`getLast?_names_join`). Joining never makes an absolute path relative, so
the absolute form of a path is absolute (`isAbsolute_absolute`).
-/

import Autograder.Files.Tree
import Mathlib.Data.List.Basic

namespace Autograder
namespace Path

theorem isAbsolute_iff {path : String} : isAbsolute path = true ↔ path.toList.head? = some '/' := by
  rw [isAbsolute, beq_iff_eq]

/-! ## Names -/

/-- The names before a slash and those after it. -/
theorem namesFrom_append (name s r : List Char) :
    namesFrom name (s ++ '/' :: r) = namesFrom name s ++ namesFrom [] r := by
  induction s generalizing name with
  | nil => rfl
  | cons c s ih =>
    rw [List.cons_append, namesFrom, namesFrom]
    split
    · rw [ih, List.append_assoc]
    · exact ih _

theorem namesFrom_of_not_mem (name : List Char) {s : List Char} (hs : '/' ∉ s)
    (hne : name.reverse ++ s ≠ []) : namesFrom name s = [String.ofList (name.reverse ++ s)] := by
  induction s generalizing name with
  | nil =>
    rw [List.append_nil] at hne ⊢
    rw [namesFrom, if_neg (by simpa using hne)]
  | cons c s ih =>
    rw [List.mem_cons, not_or] at hs
    have hstep : (c :: name).reverse ++ s = name.reverse ++ c :: s := by
      rw [List.reverse_cons, List.append_assoc, List.singleton_append]
    rw [namesFrom, if_neg (Ne.symm hs.1), ih _ hs.2 (by rwa [hstep]), hstep]

/-- What a joined path looks like: its last name is written after a slash, or stands alone. -/
theorem toList_join (base : String) {name : String} (hname : '/' ∉ name.toList) :
    (join base name).toList = name.toList ∨
      ∃ s, (join base name).toList = s ++ '/' :: name.toList := by
  have hrelative : ¬ isAbsolute name = true := by
    rw [isAbsolute_iff]
    exact fun h => hname (List.mem_of_mem_head? h)
  rw [join, if_neg hrelative]
  split
  · rename_i h
    rw [String.toList_append]
    rcases Bool.or_eq_true_iff.1 h with hempty | hslash
    · rw [String.isEmpty_iff] at hempty
      rw [hempty]
      exact .inl rfl
    · rw [endsWithSlash, beq_iff_eq] at hslash
      obtain ⟨s, hs⟩ := List.getLast?_eq_some_iff.1 hslash
      rw [hs, List.append_assoc]
      exact .inr ⟨s, rfl⟩
  · rw [String.toList_append, String.toList_append, List.append_assoc]
    exact .inr ⟨base.toList, rfl⟩

/-- **A path joined with a single name ends with this name.** -/
theorem getLast?_names_join (base : String) {name : String} (hname : '/' ∉ name.toList)
    (hne : name.toList ≠ []) : (names (join base name)).getLast? = some name := by
  have hsingle : namesFrom [] name.toList = [name] := by
    rw [namesFrom_of_not_mem [] hname hne, List.reverse_nil, List.nil_append, String.ofList_toList]
  rw [names]
  rcases toList_join base hname with h | ⟨s, h⟩
  · rw [h, hsingle]
    rfl
  · rw [h, namesFrom_append, hsingle, List.getLast?_concat]

/-! ## Absolute paths -/

/-- A path that starts at the root goes on doing so. -/
theorem isAbsolute_append {path : String} (h : isAbsolute path = true) (rest : String) :
    isAbsolute (path ++ rest) = true := by
  rw [isAbsolute_iff] at h ⊢
  rw [String.toList_append, List.head?_append, h]
  rfl

theorem isAbsolute_join {base : String} (h : isAbsolute base = true) (path : String) :
    isAbsolute (join base path) = true := by
  unfold join
  split
  · assumption
  · split
    · exact isAbsolute_append h path
    · exact isAbsolute_append (isAbsolute_append h _) _

theorem isAbsolute_absoluteStart {here : String} (h : isAbsolute here = true) (path : String) :
    isAbsolute (absoluteStart here path) = true := by
  unfold absoluteStart
  split
  · rfl
  · rfl
  · rfl
  · exact h

/-- **The absolute form of a path is absolute.** -/
theorem isAbsolute_absolute {here path : String} (h : isAbsolute here = true) (hpath : path ≠ "") :
    isAbsolute (absolute here path) = true := by
  have hfold (names : List String) (base : String) (hb : isAbsolute base = true) :
      isAbsolute (names.foldl join base) = true := by
    induction names generalizing base with
    | nil => exact hb
    | cons name rest ih => exact ih _ (isAbsolute_join hb name)
  unfold absolute
  rw [if_neg (by rwa [String.isEmpty_iff])]
  have htext := hfold ((names path).filter (· != ".")) _ (isAbsolute_absoluteStart h path)
  dsimp only
  split
  · exact isAbsolute_append htext _
  · exact htext

theorem isAbsolute_ofNames (names : List String) : isAbsolute (ofNames names) = true := by
  unfold ofNames
  cases names with
  | nil => rfl
  | cons name rest =>
    rw [List.isEmpty_cons, if_neg Bool.false_ne_true, List.map_cons, String.join_cons]
    exact isAbsolute_append (isAbsolute_append rfl name) _

end Path
end Autograder
