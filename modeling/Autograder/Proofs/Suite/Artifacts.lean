/-
# What is kept of an exchange, as files

Files are written into a directory one after the other, each at a path that ends with its own name.
So no file changes but those that the names lead to (`changesOnly_write`), and none of them
overwrites another: if all can be written, each holds its text in the end (`readText_of_write`).
-/

import Autograder.Proofs.Files.Change
import Autograder.Proofs.Files.Path
import Autograder.Suite.Artifacts
import Mathlib.Data.List.Nodup

namespace Autograder
namespace Artifacts

/-- The names of the files that are kept. -/
def names : List String := ["stdout.txt", "stderr.txt", "expected.txt"]

/-- The places that names in a directory lead to. -/
def places (fs : Files) (directory : String) (names : List String) : Set Place :=
  {p | ∃ name ∈ names, fs.LeadsTo (Path.join directory name) p}

variable {fs : Files} {directory : String} {files : List (String × String)} {paths : List String}

theorem writeAll_cons (fs : Files) (directory name text : String) (rest : List (String × String)) :
    writeAll fs directory ((name, text) :: rest) =
      match fs.writeText (Path.join directory name) text with
      | .error e => (.error e, fs)
      | .ok fs =>
        match writeAll fs directory rest with
        | (.error e, fs) => (.error e, fs)
        | (.ok paths, fs) => (.ok (Path.join directory name :: paths), fs) := rfl

/-- **Only what the names lead to is written.** -/
theorem changesOnly_writeAll (fs : Files) (directory : String) (files : List (String × String)) :
    Files.ChangesOnly (places (writeAll fs directory files).2 directory (files.map Prod.fst)) fs
      (writeAll fs directory files).2 := by
  induction files generalizing fs with
  | nil => exact .refl _ fs
  | cons f rest ih =>
    obtain ⟨name, text⟩ := f
    rw [writeAll_cons]
    split
    · exact .refl _ fs
    · rename_i fs₁ hwrite
      obtain ⟨p, hp, hfirst, -⟩ := Files.writeText_spec hwrite
      have hrest := ih fs₁
      -- The place of the first file is where its name leads to in the end, too.
      have hlead := hrest.leadsTo (hfirst.leadsTo hp)
      have hboth : Files.ChangesOnly (places (writeAll fs₁ directory rest).2 directory
          (name :: rest.map Prod.fst)) fs (writeAll fs₁ directory rest).2 := by
        refine (hfirst.mono ?_).trans (hrest.mono ?_)
        · rintro q rfl
          exact ⟨name, List.mem_cons_self, hlead⟩
        · rintro q ⟨other, hother, hq⟩
          exact ⟨other, List.mem_cons_of_mem _ hother, hq⟩
      split <;> (rename_i heq; rw [heq] at hboth; exact hboth)

/-- Different names lead to different places. -/
theorem not_mem_places {names : List String} {name : String} {p : Place}
    (hsimple : ∀ other ∈ name :: names, '/' ∉ other.toList ∧ other.toList ≠ [])
    (hname : name ∉ names) (hp : fs.LeadsTo (Path.join directory name) p) :
    p ∉ places fs directory names := by
  have hlast {other : String} (hother : other ∈ name :: names)
      (hlead : fs.LeadsTo (Path.join directory other) p) : p.head? = some other := by
    obtain ⟨hslash, hne⟩ := hsimple other hother
    rw [hlead.head?_eq, Path.getLast?_names_join directory hslash hne]
  rintro ⟨other, hother, hlead⟩
  have hsame := (hlast (List.mem_cons_of_mem _ hother) hlead).symm.trans
    (hlast List.mem_cons_self hp)
  exact hname (Option.some.inj hsame ▸ hother)

/-- **Files of different names do not overwrite each other.** -/
theorem readText_of_writeAll
    (hsimple : ∀ name ∈ files.map Prod.fst, '/' ∉ name.toList ∧ name.toList ≠ [])
    (hnodup : (files.map Prod.fst).Nodup) (h : (writeAll fs directory files).1 = .ok paths) :
    ∀ f ∈ files, (writeAll fs directory files).2.readText (Path.join directory f.1) = .ok f.2 := by
  induction files generalizing fs paths with
  | nil => exact fun f hf => absurd hf List.not_mem_nil
  | cons f rest ih =>
    obtain ⟨name, text⟩ := f
    rw [List.map_cons] at hsimple hnodup
    rw [writeAll_cons] at h ⊢
    split at h
    · cases h
    · rename_i fs₁ hwrite
      obtain ⟨p, hp, hfirst, hbytes⟩ := Files.writeText_spec hwrite
      have hrest := changesOnly_writeAll fs₁ directory rest
      have hlead := hrest.leadsTo (hfirst.leadsTo hp)
      have hkept := hrest.bytes p (not_mem_places hsimple (List.nodup_cons.1 hnodup).1 hlead)
      split at h
      · cases h
      · rename_i rest' fs₂ hwritten
        have hread := ih (fun other hother => hsimple other (List.mem_cons_of_mem _ hother))
          (List.nodup_cons.1 hnodup).2 (congrArg Prod.fst hwritten)
        rw [hwritten] at hlead hkept hread
        intro f hf
        rcases List.mem_cons.1 hf with rfl | hf
        · exact Files.readText_of_leadsTo hlead (hkept.trans hbytes)
        · exact hread f hf

/-- **Nothing but the files that are kept changes**, whether or not all of them can be written. -/
theorem changesOnly_write (fs : Files) (directory stdout stderr : String) (expected : BucketSet) :
    Files.ChangesOnly (places (write fs directory stdout stderr expected).2 directory names) fs
      (write fs directory stdout stderr expected).2 := by
  have hmade := Files.changesOnly_makeDirectories fs directory
  unfold write
  split
  · rename_i heq
    rw [heq] at hmade
    exact hmade.mono (Set.empty_subset _)
  · rename_i fs₁ heq
    rw [heq] at hmade
    exact (hmade.mono (Set.empty_subset _)).trans (changesOnly_writeAll fs₁ directory _)

/-- **What is kept can be read.** -/
theorem readText_of_write {stdout stderr : String} {expected : BucketSet}
    (h : (write fs directory stdout stderr expected).1 = .ok paths) :
    ∀ f ∈ contents stdout stderr expected,
      (write fs directory stdout stderr expected).2.readText (Path.join directory f.1) =
        .ok f.2 := by
  unfold write at h ⊢
  split at h
  · cases h
  · have hsimple : ∀ name ∈ names, '/' ∉ name.toList ∧ name.toList ≠ [] := by decide
    have hnodup : names.Nodup := by decide
    exact readText_of_writeAll hsimple hnodup h

end Artifacts
end Autograder
