/-
# What is known of a configuration

A configuration is valid if there is nothing wrong with it (`fault?_eq_none_iff`). Whichever way a
configuration comes to be loaded, from a text, from a file, or with all its defaults because there
is no file, it is valid (`Loaded.valid`). Its thread counts are compared with their neighbours only,
but that is enough to put any two of them in order (`isIncreasing_iff`).
-/

import Autograder.Config.File
import Mathlib.Data.List.Chain

namespace Autograder

deriving instance DecidableEq for PiConfig, ExchangeConfig, Config

/-- A result that can be computed although its error has no decidable equality. -/
theorem eq_ok_of_toOption {ε α : Type} {x : Except ε α} {a : α} (h : x.toOption = some a) :
    x = .ok a := by
  cases x with
  | error e => cases h
  | ok a' => exact congrArg Except.ok (Option.some.inj h)

namespace Config

/-- Nothing is wrong with a configuration. -/
structure Valid (c : Config) : Prop where
  nonempty : c.pi.threadCounts ≠ []
  positive : ∀ t ∈ c.pi.threadCounts, 1 ≤ t
  increasing : c.pi.threadCounts.Pairwise (· < ·)
  upright : ¬ c.pi.high < c.pi.low
  clients : 1 ≤ c.exchange.clients
  buildLimit : 1 ≤ c.buildLimit
  runLimit : 1 ≤ c.runLimit

/-- The ways in which a configuration is loaded. -/
inductive Loaded (c : Config) : Prop
  /-- It is read from a text. -/
  | text {yaml : String} : ofYaml yaml = .ok c → Loaded c
  /-- It is read from a file. -/
  | file {fs : Files} {path : String} : ofFile fs path = .ok c → Loaded c
  /-- It is that of an environment, whether or not there is a file for it. -/
  | environment {fs : Files} {name : String} : load fs name = .ok c → Loaded c

/-- **Numbers that are less than their neighbours are less than all that follow.** -/
theorem isIncreasing_iff {ts : List Nat} : isIncreasing ts = true ↔ ts.Pairwise (· < ·) := by
  rw [← List.isChain_iff_pairwise]
  induction ts with
  | nil => exact ⟨fun _ => .nil, fun _ => rfl⟩
  | cons x ts ih =>
    cases ts with
    | nil => exact ⟨fun _ => .singleton x, fun _ => rfl⟩
    | cons y rest =>
      rw [isIncreasing, Bool.and_eq_true, decide_eq_true_iff, ih, List.isChain_cons_cons]

variable {c : Config}

/-- **There is nothing wrong with a configuration if and only if it is valid.** -/
theorem fault?_eq_none_iff : c.fault? = none ↔ c.Valid := by
  unfold fault?
  constructor
  · intro h
    split_ifs at h with hempty hzero hincreasing hrange hclients hlimits
    have hne : c.pi.threadCounts ≠ [] := by simpa using hempty
    have hnot : 0 ∉ c.pi.threadCounts := by simpa using hzero
    refine ⟨hne, fun t ht => ?_, isIncreasing_iff.1 (by simpa using hincreasing), hrange,
      by omega, by omega, by omega⟩
    have hpos : t ≠ 0 := fun h0 => hnot (h0 ▸ ht)
    omega
  · intro h
    have hempty : c.pi.threadCounts.isEmpty = false := by simpa using h.nonempty
    have hzero : c.pi.threadCounts.contains 0 = false := by
      have hnot : 0 ∉ c.pi.threadCounts := fun hmem => absurd (h.positive 0 hmem) (by decide)
      simpa using hnot
    have hclients := h.clients
    have hbuild := h.buildLimit
    have hrun := h.runLimit
    rw [hempty, hzero, isIncreasing_iff.2 h.increasing, if_neg Bool.false_ne_true,
      if_neg Bool.false_ne_true, if_neg (by decide), if_neg h.upright, if_neg (by omega),
      if_neg (by omega)]

/-- The defaults are valid. -/
theorem valid_default : Valid default := fault?_eq_none_iff.1 (by decide)

/-- **A text holds a configuration if one can be read from it and is valid.** -/
theorem ofYaml_eq_ok_iff {yaml : String} :
    ofYaml yaml = .ok c ↔ parse? yaml = some c ∧ c.Valid := by
  rw [← fault?_eq_none_iff, ofYaml]
  constructor
  · intro h
    split at h
    · cases h
    · rename_i hparse
      split at h
      · cases h
      · rename_i hnone
        cases h
        exact ⟨hparse, hnone⟩
  · rintro ⟨hparse, hnone⟩
    rw [hparse]
    dsimp only
    rw [hnone]

theorem valid_of_ofYaml {yaml : String} (h : ofYaml yaml = .ok c) : c.Valid :=
  (ofYaml_eq_ok_iff.1 h).2

theorem valid_of_ofFile {fs : Files} {path : String} (h : ofFile fs path = .ok c) : c.Valid := by
  unfold ofFile at h
  split at h
  · cases h
  · split at h
    · cases h
    · rename_i hyaml
      cases h
      exact valid_of_ofYaml hyaml

/-- **However a configuration is loaded, it is valid.** -/
theorem Loaded.valid (h : Loaded c) : c.Valid := by
  cases h with
  | text h => exact valid_of_ofYaml h
  | file h => exact valid_of_ofFile h
  | @environment fs name h =>
    unfold load at h
    dsimp only at h
    split_ifs at h
    · exact valid_of_ofFile h
    · cases h
      exact valid_default

end Config
end Autograder
