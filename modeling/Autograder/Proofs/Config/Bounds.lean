/-
# The bounds of the range that a configuration accepts

A range holds some number if and only if its lower bound is at most the upper one, and then it holds
its lower bound (`contains_low_iff`, `exists_contains_iff`). A configuration is refused if the upper
bound is below the lower. That is not the same: nothing is below or above what is not a number, so a
valid configuration with such a bound accepts no estimate at all (`Valid.low_le_high_iff`).

| written | bound |
| --- | --- |
| nothing | 3.14 below, 3.15 above |
| `.inf`, `.Inf`, `.INF` | infinite |
| `.nan`, `.NaN`, `.NAN` | not a number |
| a number | finite |

So whether a configuration can be satisfied shows in its text: neither of the two bounds may be set
to one of three words (`hasBounds_iff_of_ofYaml`).
-/

import Autograder.Proofs.Config.Valid
import Autograder.Proofs.Number.Order
import Autograder.Proofs.Sweep.Judgment

namespace Autograder

/-! ## Ranges -/

namespace EstimateRange

/-- Both bounds are numbers, be they infinite. -/
structure HasBounds (r : EstimateRange) : Prop where
  low : r.low.isNaN = false
  high : r.high.isNaN = false

variable {r : EstimateRange}

/-- That the bounds do not stand the wrong way round is enough only where they are numbers. -/
theorem low_le_high_iff : r.low ≤ r.high ↔ r.HasBounds ∧ ¬ r.high < r.low := by
  constructor
  · intro h
    obtain ⟨hlow, hhigh⟩ := Number.isNaN_of_le h
    exact ⟨⟨hlow, hhigh⟩, fun hlt => Number.not_le_iff.2 (.inl hlt) h⟩
  · rintro ⟨hbounds, hupright⟩
    by_contra h
    rcases Number.not_le_iff.1 h with hlt | hnan | hnan
    · exact hupright hlt
    · exact Bool.eq_false_iff.1 hbounds.high hnan
    · exact Bool.eq_false_iff.1 hbounds.low hnan

/-- A range holds its lower bound if that is at most the upper one. -/
theorem contains_low_iff : r.contains r.low = true ↔ r.low ≤ r.high := by
  rw [contains_iff]
  exact ⟨fun h => h.2, fun h => ⟨Number.le_self (Number.isNaN_of_le h).1, h⟩⟩

/-- **A range that holds any number holds its lower bound.** -/
theorem exists_contains_iff : (∃ x, r.contains x = true) ↔ r.low ≤ r.high := by
  constructor
  · rintro ⟨x, hx⟩
    obtain ⟨hlow, hhigh⟩ := contains_iff.1 hx
    exact Number.le_trans hlow hhigh
  · intro h
    exact ⟨r.low, contains_low_iff.2 h⟩

end EstimateRange

/-- The bounds of the range with the names of their settings. -/
def PiConfig.bounds (p : PiConfig) : List (String × Float) :=
  [("acceptable_low", p.low), ("acceptable_high", p.high)]

namespace Config

open Yaml

/-- **A valid configuration accepts its lower bound if both bounds are numbers.** -/
theorem Valid.low_le_high_iff {c : Config} (h : c.Valid) :
    c.pi.low ≤ c.pi.high ↔ c.pi.range.HasBounds := by
  have hupright : ¬ c.pi.range.high < c.pi.range.low := h.upright
  exact (EstimateRange.low_le_high_iff (r := c.pi.range)).trans (and_iff_left hupright)

/-! ## What a number is written as -/

/-- The words for what is not a number. -/
def nanWords : List String := [".nan", ".NaN", ".NAN"]

/-- One of the words for what is not a number is written in a node. -/
def IsNaNWord (d : Document) (n : Node) : Prop :=
  ∃ text, readBare d "float" n = some text ∧ text ∈ nanWords

variable {d : Document} {n : Node} {x : Float}

theorem isNaNWord_iff {text : String} (h : readBare d "float" n = some text) :
    IsNaNWord d n ↔ text ∈ nanWords := by
  constructor
  · rintro ⟨text', htext', hmem⟩
    cases h.symm.trans htext'
    exact hmem
  · exact fun hmem => ⟨text, h, hmem⟩

/-- None of these words is one for an infinity, whatever its sign. -/
theorem not_infinity_of_mem_nanWords : ∀ word ∈ nanWords,
    [".inf", ".Inf", ".INF"].contains (String.ofList (Text.dropPlus word.toList)) = false ∧
      ["-.inf", "-.Inf", "-.INF"].contains word = false := by
  decide +kernel

/-- **Only three words are read as something that is not a number.** -/
theorem isNaN_iff_of_readFloat (h : readFloat d n = some x) :
    x.isNaN = true ↔ IsNaNWord d n := by
  obtain ⟨text, htext, hx⟩ := Option.bind_eq_some_iff.1 h
  rw [isNaNWord_iff htext]
  dsimp only at hx
  -- The words for infinities are looked for first, so it counts that none of the three is one.
  split_ifs at hx with hsigns hinf hneg hnan
  · cases hx
    refine iff_of_false (by decide) fun hmem => ?_
    rw [(not_infinity_of_mem_nanWords text hmem).1] at hinf
    cases hinf
  · cases hx
    refine iff_of_false (by decide) fun hmem => ?_
    rw [(not_infinity_of_mem_nanWords text hmem).2] at hneg
    cases hneg
  · cases hx
    exact iff_of_true (by decide) (List.contains_iff_mem.1 hnan)
  · obtain ⟨-, hfinite⟩ := Option.filter_eq_some_iff.1 hx
    refine iff_of_false ?_ fun hmem => hnan (List.contains_iff_mem.2 hmem)
    exact Bool.eq_false_iff.1 (Number.isNaN_isInf_of_isFinite hfinite).1

/-! ## From the text to the bounds -/

/-- The node that a document gives for a setting of the parallel pi test. -/
def piNode? (d : Document) (name : String) : Option Node :=
  (readSection settings d d.root).bind fun top =>
    (top.lookup "pi").bind fun pi =>
      (readSection piSettings d pi).bind fun s => s.lookup name

/-- A text sets a bound to what is not a number. -/
def SetsToNaN (yaml name : String) : Prop :=
  ∃ d n, Yaml.read yaml = .ok (some d) ∧ piNode? d name = some n ∧ IsNaNWord d n

/-- The bounds that hold unless others are given are numbers. -/
theorem isNaN_of_mem_bounds_default : ∀ bound ∈ PiConfig.default.bounds, bound.2.isNaN = false := by
  decide

/-- A setting that is named is read from its node, and any other has its default. -/
theorem setting_eq_some_iff {α : Type} {s : Section} {read : Document → Node → Option α}
    {name : String} {default value : α} :
    setting d s read name default = some value ↔
      (∃ n, s.lookup name = some n ∧ read d n = some value) ∨
        (s.lookup name = none ∧ default = value) := by
  rw [setting]
  cases s.lookup name with
  | none => simp
  | some n => simp

/-- A number that has a default is not a number only where that is written. -/
theorem isNaN_iff_of_setting {s : Section} {name : String} {default : Float}
    (hdefault : default.isNaN = false) (h : setting d s readFloat name default = some x) :
    x.isNaN = true ↔ ∃ n, s.lookup name = some n ∧ IsNaNWord d n := by
  rcases setting_eq_some_iff.1 h with ⟨n, hn, hx⟩ | ⟨hnone, rfl⟩
  · rw [isNaN_iff_of_readFloat hx, hn]
    simp only [Option.some.injEq, exists_eq_left']
  · refine iff_of_false (Bool.eq_false_iff.1 hdefault) ?_
    rintro ⟨n, hn, -⟩
    cases hnone.symm.trans hn

/-- Both bounds are read alike, each from the setting of its name. -/
theorem exists_section_of_readPi {p : PiConfig} (h : readPi d n = some p) :
    ∃ s, readSection piSettings d n = some s ∧
      ∀ bound ∈ p.bounds, ∃ default : Float, default.isNaN = false ∧
        setting d s readFloat bound.1 default = some bound.2 := by
  obtain ⟨s, hs, h⟩ := Option.bind_eq_some_iff.1 h
  obtain ⟨counts, -, h⟩ := Option.bind_eq_some_iff.1 h
  obtain ⟨points, -, h⟩ := Option.bind_eq_some_iff.1 h
  obtain ⟨low, hlow, h⟩ := Option.bind_eq_some_iff.1 h
  obtain ⟨high, hhigh, h⟩ := Option.bind_eq_some_iff.1 h
  obtain ⟨cores, -, h⟩ := Option.bind_eq_some_iff.1 h
  cases h
  refine ⟨s, hs, fun bound hbound => ?_⟩
  rcases List.mem_pair.1 hbound with rfl | rfl
  · exact ⟨PiConfig.default.low, by decide, hlow⟩
  · exact ⟨PiConfig.default.high, by decide, hhigh⟩

theorem exists_section_of_readConfig {c : Config} (h : readConfig d n = some c) :
    ∃ top, readSection settings d n = some top ∧
      setting d top readPi "pi" PiConfig.default = some c.pi := by
  obtain ⟨top, htop, h⟩ := Option.bind_eq_some_iff.1 h
  -- Eleven settings come before that of the parallel pi test, and one after it.
  iterate 11 obtain ⟨_, -, h⟩ := Option.bind_eq_some_iff.1 h
  obtain ⟨pi, hpi, h⟩ := Option.bind_eq_some_iff.1 h
  obtain ⟨exchange, -, h⟩ := Option.bind_eq_some_iff.1 h
  cases h
  exact ⟨top, htop, hpi⟩

variable {bound : String × Float}

/-- Which bounds that are read from a document are not numbers. -/
theorem isNaN_iff_of_readConfig {c : Config} (h : readConfig d d.root = some c)
    (hbound : bound ∈ c.pi.bounds) :
    bound.2.isNaN = true ↔ ∃ n, piNode? d bound.1 = some n ∧ IsNaNWord d n := by
  obtain ⟨top, htop, hpi⟩ := exists_section_of_readConfig h
  rw [piNode?, htop, Option.bind_some]
  rcases setting_eq_some_iff.1 hpi with ⟨pi, hnode, hpi⟩ | ⟨hnone, hdefault⟩
  · obtain ⟨s, hs, hall⟩ := exists_section_of_readPi hpi
    obtain ⟨default, hdefault, hsetting⟩ := hall bound hbound
    rw [hnode, Option.bind_some, hs, Option.bind_some]
    exact isNaN_iff_of_setting hdefault hsetting
  · rw [← hdefault] at hbound
    refine iff_of_false (Bool.eq_false_iff.1 (isNaN_of_mem_bounds_default bound hbound)) ?_
    rw [hnone]
    rintro ⟨n, hn, -⟩
    cases hn

/-- **A bound is not a number only where the text says so.** -/
theorem isNaN_iff_of_parse {yaml : String} {c : Config} (h : parse? yaml = some c)
    (hbound : bound ∈ c.pi.bounds) : bound.2.isNaN = true ↔ SetsToNaN yaml bound.1 := by
  unfold parse? at h
  split at h
  · cases h
  · rename_i hread
    cases h
    refine iff_of_false (Bool.eq_false_iff.1 (isNaN_of_mem_bounds_default bound hbound)) ?_
    rintro ⟨d, n, hd, -⟩
    cases hread.symm.trans hd
  · rename_i d hread
    rw [isNaN_iff_of_readConfig h hbound]
    constructor
    · rintro ⟨n, hn⟩
      exact ⟨d, n, hread, hn⟩
    · rintro ⟨d', n, hd', hn⟩
      cases hread.symm.trans hd'
      exact ⟨n, hn⟩

/-- **The bounds of a configuration are numbers if its text sets neither to what is none.** -/
theorem hasBounds_iff_of_ofYaml {yaml : String} {c : Config} (h : ofYaml yaml = .ok c) :
    c.pi.range.HasBounds ↔
      ¬ SetsToNaN yaml "acceptable_low" ∧ ¬ SetsToNaN yaml "acceptable_high" := by
  have hnumber {bound : String × Float} (hbound : bound ∈ c.pi.bounds) :
      bound.2.isNaN = false ↔ ¬ SetsToNaN yaml bound.1 := by
    rw [← isNaN_iff_of_parse (ofYaml_eq_ok_iff.1 h).1 hbound, Bool.not_eq_true]
  have hlow : ("acceptable_low", c.pi.low) ∈ c.pi.bounds := List.mem_pair.2 (.inl rfl)
  have hhigh : ("acceptable_high", c.pi.high) ∈ c.pi.bounds := List.mem_pair.2 (.inr rfl)
  rw [← hnumber hlow, ← hnumber hhigh]
  exact ⟨fun hbounds => ⟨hbounds.low, hbounds.high⟩, fun hboth => ⟨hboth.1, hboth.2⟩⟩

end Config
end Autograder
