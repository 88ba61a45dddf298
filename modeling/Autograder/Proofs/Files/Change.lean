/-
# What changes in a tree of files

A tree is seen through the bytes of the files at its places (`bytesAt?`). `ChangesOnly` says that
from one tree to another only files at given places change, while the directories stay. Making
directories changes no file at all (`changesOnly_makeDirectories`), and writing a file changes the
one that its path leads to (`writeText_spec`). As the directories stay, a path that leads to
a place goes on leading there (`ChangesOnly.leadsTo`), so what was written at a path is what is
read there (`readText_of_writeText`).
-/

import Autograder.Files.Tree
import Mathlib.Data.Set.Insert

namespace Autograder
namespace Files

/-- The bytes of the file at a place, if a file stands there. -/
def bytesAt? (fs : Files) (p : Place) : Option ByteArray :=
  match fs.node? p with
  | some (.file bytes _) => some bytes
  | _ => none

/-- A path leads to a place at which a file can stand: it ends with a name in a directory, and no
slash follows. -/
def LeadsTo (fs : Files) (path : String) (p : Place) : Prop :=
  fs.target path = .ok (.entry p false)

/-- From the first tree to the second only files at some places change, and directories stay. -/
structure ChangesOnly (ps : Set Place) (fs fs' : Files) : Prop where
  here : fs'.here = fs.here
  directory : ∀ p, fs.node? p = some .directory → fs'.node? p = some .directory
  bytes : ∀ p, p ∉ ps → fs'.bytesAt? p = fs.bytesAt? p

theorem map_eq_ok_iff {ε α β : Type} {f : α → β} {x : Except ε α} {b : β} :
    x.map f = .ok b ↔ ∃ a, x = .ok a ∧ f a = b := by
  cases x with
  | error e =>
    constructor
    · intro h
      cases h
    · rintro ⟨a, h, -⟩
      cases h
  | ok a =>
    constructor
    · intro h
      cases h
      exact ⟨a, rfl, rfl⟩
    · rintro ⟨a', h, rfl⟩
      cases h
      rfl

variable {fs fs' fs'' : Files} {p q : Place} {path : String} {ps : Set Place}

/-! ## Nodes -/

theorem node?_setNode_self (fs : Files) (hp : p ≠ []) (n : FileNode) :
    (fs.setNode p n).node? p = some n := by
  have hfind : (fs.setNode p n).nodes.find? (fun m => m.1 == p) = some (p, n) :=
    List.find?_cons_of_pos (beq_self_eq_true p)
  rw [node?, if_neg (by simpa using hp), hfind, Option.map_some]

theorem node?_setNode_of_ne (fs : Files) (h : q ≠ p) (n : FileNode) :
    (fs.setNode p n).node? q = fs.node? q := by
  have hfind : (fs.setNode p n).nodes.find? (fun m => m.1 == q) =
      fs.nodes.find? fun m => m.1 == q := by
    rw [setNode, List.find?_cons_of_neg (by simpa using h.symm), List.find?_filter]
    congr 1
    funext m
    by_cases hm : m.1 = q
    · simp [hm, h]
    · simp [hm]
  rw [node?, node?, hfind]

theorem bytesAt?_setNode_of_ne (fs : Files) (h : q ≠ p) (n : FileNode) :
    (fs.setNode p n).bytesAt? q = fs.bytesAt? q := by
  rw [bytesAt?, node?_setNode_of_ne fs h, bytesAt?]

/-! ## Paths -/

theorem follow_of_changesOnly (h : ChangesOnly ps fs fs') {names : List String}
    (hf : fs.follow p names = .ok q) : fs'.follow p names = .ok q := by
  induction names generalizing p with
  | nil => exact hf
  | cons name rest ih =>
    unfold follow at hf ⊢
    split_ifs at hf ⊢
    · exact ih hf
    · exact ih hf
    · split at hf
      · cases hf
      · cases hf
      · rename_i hdirectory
        rw [h.directory _ hdirectory]
        exact ih hf

theorem target_of_changesOnly (h : ChangesOnly ps fs fs') {t : Target}
    (ht : fs.target path = .ok t) : fs'.target path = .ok t := by
  unfold target at ht ⊢
  rw [h.here]
  dsimp only at ht ⊢
  generalize (if Path.isAbsolute path then [] else fs.here) = start at ht ⊢
  split_ifs at ht ⊢
  split at ht
  · exact ht
  · split at ht
    · cases ht
    · rename_i hfollow
      rw [follow_of_changesOnly h hfollow]
      dsimp only
      split_ifs at ht ⊢
      · obtain ⟨r, hr, rfl⟩ := map_eq_ok_iff.1 ht
        rw [follow_of_changesOnly h hr]
        rfl
      · exact ht

/-- **A path goes on leading where it led**, whichever files change. -/
theorem ChangesOnly.leadsTo (h : ChangesOnly ps fs fs') (hp : fs.LeadsTo path p) :
    fs'.LeadsTo path p := target_of_changesOnly h hp

theorem LeadsTo.unique (hp : fs.LeadsTo path p) (hq : fs.LeadsTo path q) : p = q := by
  unfold LeadsTo at hp hq
  rw [hp, Except.ok.injEq, Target.entry.injEq] at hq
  exact hq.1

/-- The place that a path leads to is named by the last name of the path. -/
theorem LeadsTo.head?_eq (h : fs.LeadsTo path p) : p.head? = (Path.names path).getLast? := by
  unfold LeadsTo target at h
  dsimp only at h
  generalize (if Path.isAbsolute path then [] else fs.here) = start at h
  split_ifs at h
  split at h
  · cases h
  · rename_i last above hnames
    have hlast : (Path.names path).getLast? = some last := by
      rw [← List.head?_reverse, hnames, List.head?_cons]
    split at h
    · cases h
    · split_ifs at h
      · obtain ⟨r, -, hr⟩ := map_eq_ok_iff.1 h
        cases hr
      · rw [Except.ok.injEq, Target.entry.injEq] at h
        rw [hlast, ← h.1, List.head?_cons]

/-! ## Changes -/

theorem ChangesOnly.refl (ps : Set Place) (fs : Files) : ChangesOnly ps fs fs :=
  ⟨rfl, fun _ h => h, fun _ _ => rfl⟩

theorem ChangesOnly.trans (h : ChangesOnly ps fs fs') (h' : ChangesOnly ps fs' fs'') :
    ChangesOnly ps fs fs'' :=
  ⟨h'.here.trans h.here, fun p hp => h'.directory p (h.directory p hp),
    fun p hp => (h'.bytes p hp).trans (h.bytes p hp)⟩

theorem ChangesOnly.mono {qs : Set Place} (h : ChangesOnly ps fs fs') (hsub : ps ⊆ qs) :
    ChangesOnly qs fs fs' :=
  ⟨h.here, h.directory, fun p hp => h.bytes p fun hmem => hp (hsub hmem)⟩

/-- Another node where there is no directory changes nothing else. -/
theorem changesOnly_setNode (hp : fs.node? p ≠ some .directory) (n : FileNode) :
    ChangesOnly {p} fs (fs.setNode p n) where
  here := rfl
  directory q hq := by
    have hne : q ≠ p := by
      rintro rfl
      exact hp hq
    rw [node?_setNode_of_ne fs hne, hq]
  bytes q hq := bytesAt?_setNode_of_ne fs hq n

/-! ## Directories -/

/-- A new directory stands where nothing stood. -/
theorem changesOnly_makeDirectory (h : fs.makeDirectory path = .ok fs') :
    ChangesOnly ∅ fs fs' := by
  unfold makeDirectory at h
  split at h
  · cases h
  · cases h
  · rename_i p slash htarget
    split_ifs at h with hnone
    rw [Bool.not_eq_true, Option.isSome_eq_false_iff, Option.isNone_iff_eq_none] at hnone
    cases h
    have hp : p ≠ [] := by
      rintro rfl
      cases hnone
    have hchange : ChangesOnly {p} fs (fs.setNode p .directory) :=
      changesOnly_setNode (by rw [hnone]; exact (Option.some_ne_none _).symm) _
    refine ⟨rfl, hchange.directory, fun q _ => ?_⟩
    by_cases hq : q = p
    · rw [hq, bytesAt?, node?_setNode_self fs hp, bytesAt?, hnone]
    · exact hchange.bytes q hq

theorem changesOnly_makeUpTo (fs : Files) (depth : Nat) (path : String) :
    ChangesOnly ∅ fs (fs.makeUpTo depth path).2 := by
  have hsettle (fs : Files) (path : String) (e : FileError) :
      ChangesOnly ∅ fs (fs.settle path e).2 := by
    unfold settle
    split_ifs <;> exact .refl ∅ fs
  induction depth generalizing path with
  | zero => exact hsettle fs path _
  | succ depth ih =>
    unfold makeUpTo
    split_ifs
    · exact .refl ∅ fs
    · split
      · rename_i hmade
        exact changesOnly_makeDirectory hmade
      · have habove := ih (Path.parent path)
        split
        · rename_i hfailed
          rwa [hfailed] at habove
        · rename_i hmade
          rw [hmade] at habove
          split
          · rename_i hmade
            exact habove.trans (changesOnly_makeDirectory hmade)
          · exact habove.trans (hsettle _ path _)
      · exact hsettle fs path _

/-- **Making directories changes no file**, whether or not it succeeds. -/
theorem changesOnly_makeDirectories (fs : Files) (path : String) :
    ChangesOnly ∅ fs (fs.makeDirectories path).2 := changesOnly_makeUpTo fs _ path

/-! ## Writing and reading -/

theorem writable_eq_ok_iff :
    fs.writable path = .ok p ↔ fs.LeadsTo path p ∧ fs.node? p ≠ some .directory := by
  have hdirectory : fs.isDirectoryAt p = true ↔ fs.node? p = some .directory := by
    unfold isDirectoryAt
    split
    · rename_i h
      exact ⟨fun _ => h, fun _ => rfl⟩
    · rename_i h
      exact ⟨fun hfalse => absurd hfalse Bool.false_ne_true, fun hd => absurd hd h⟩
  unfold writable LeadsTo
  split
  · rename_i h
    rw [h]
    constructor
    · intro hp
      cases hp
    · rintro ⟨hp, -⟩
      cases hp
  · rename_i h
    rw [h]
    constructor
    · intro hp
      cases hp
    · rintro ⟨hp, -⟩
      cases hp
  · rename_i r slash h
    rw [h, ne_eq, ← hdirectory, Except.ok.injEq, Target.entry.injEq]
    split_ifs with hno
    · constructor
      · intro hp
        cases hp
      · rintro ⟨⟨rfl, rfl⟩, hnot⟩
        rw [Bool.false_or] at hno
        exact absurd hno hnot
    · rw [Bool.or_eq_true, not_or, Bool.not_eq_true] at hno
      rw [Except.ok.injEq]
      constructor
      · rintro rfl
        exact ⟨⟨rfl, hno.1⟩, hno.2⟩
      · exact fun hp => hp.1.1

theorem writeText_eq_ok_iff {text : String} :
    fs.writeText path text = .ok fs' ↔
      ∃ p, fs.writable path = .ok p ∧ fs.putBytes p text.toUTF8 = fs' := by
  rw [writeText, writeBytes]
  exact map_eq_ok_iff

/-- Other bytes where there is no directory change nothing else. -/
theorem changesOnly_putBytes (h : fs.node? p ≠ some .directory) (bytes : ByteArray) :
    ChangesOnly {p} fs (fs.putBytes p bytes) := by
  unfold putBytes
  split <;> exact changesOnly_setNode h _

theorem bytesAt?_eq_some_iff {bytes : ByteArray} :
    fs.bytesAt? p = some bytes ↔ ∃ executable, fs.node? p = some (.file bytes executable) := by
  unfold bytesAt?
  split
  · rename_i other executable hnode
    simp [hnode]
  · rename_i hnone
    simp only [false_iff, reduceCtorEq]
    rintro ⟨executable, hnode⟩
    exact hnone _ _ hnode

theorem bytesAt?_putBytes (h : fs.node? p ≠ some .directory) (bytes : ByteArray) :
    (fs.putBytes p bytes).bytesAt? p = some bytes := by
  have hp : p ≠ [] := by
    rintro rfl
    exact h rfl
  unfold putBytes
  split <;> rw [bytesAt?, node?_setNode_self fs hp]

/-- **Writing a file changes the file that the path leads to, and no other.** -/
theorem writeText_spec {text : String} (h : fs.writeText path text = .ok fs') :
    ∃ p, fs.LeadsTo path p ∧ ChangesOnly {p} fs fs' ∧ fs'.bytesAt? p = some text.toUTF8 := by
  obtain ⟨p, hp, rfl⟩ := writeText_eq_ok_iff.1 h
  obtain ⟨hlead, hdirectory⟩ := writable_eq_ok_iff.1 hp
  exact ⟨p, hlead, changesOnly_putBytes hdirectory _, bytesAt?_putBytes hdirectory _⟩

theorem fromUTF8?_toUTF8 (text : String) : String.fromUTF8? text.toUTF8 = some text := by
  unfold String.fromUTF8?
  rw [String.toUTF8_eq_toByteArray, dif_pos text.isValidUTF8]
  rfl

/-- The text of the file that a path leads to. -/
theorem readText_of_leadsTo {text : String} (h : fs.LeadsTo path p)
    (hbytes : fs.bytesAt? p = some text.toUTF8) : fs.readText path = .ok text := by
  obtain ⟨executable, hnode⟩ := bytesAt?_eq_some_iff.1 hbytes
  have hfind : fs.find path = .ok (p, .file text.toUTF8 executable) := by
    rw [find, h]
    dsimp only
    rw [hnode]
    rfl
  rw [readText, readBytes, hfind]
  dsimp only
  rw [fromUTF8?_toUTF8]

/-- A path at which something can be read is not empty. -/
theorem ne_empty_of_readText {text : String} (h : fs.readText path = .ok text) : path ≠ "" := by
  rintro rfl
  cases h

/-- **What was written at a path is read there.** -/
theorem readText_of_writeText {text : String} (h : fs.writeText path text = .ok fs') :
    fs'.readText path = .ok text := by
  obtain ⟨p, hp, hchange, hbytes⟩ := writeText_spec h
  exact readText_of_leadsTo (hchange.leadsTo hp) hbytes

end Files
end Autograder
