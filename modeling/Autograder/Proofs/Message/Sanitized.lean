/-
# Payloads that are made of a text

Any text can be sent, but not as it is. Its payload is made of the beginning of the text
(`carried`): the longest allowed length is measured before the blanks at both ends go, and
carriage returns are not counted. What is made of a text is a payload that can be sent as it is
(`isPayload_sanitize`), a text that can be sent as it is stays what it is
(`sanitize_eq_self_iff`), and so the payloads are the normal forms of texts
(`sanitize_normal_forms`). A payload is empty if nothing but blanks is carried
(`wireSafe_eq_nil_iff`), also when the text goes on after them.
-/

import Autograder.Message
import Autograder.Proofs.Text.Blank
import Mathlib.Tactic.MkIffOfInductiveProp
import Mathlib.Tactic.SplitIfs

namespace Autograder

/-! ## What is carried -/

/-- The part of a text that its payload is made of: the first characters other than carriage
returns, as many as a payload may have. -/
def carried (raw : List Char) : List Char := (raw.filter (· != '\r')).take maxPayloadChars

theorem wireSafe_eq (raw : List Char) : wireSafe raw = Text.trim ((carried raw).map wireChar) := by
  rw [wireSafe, carried, List.map_take]

/-- A line feed becomes another blank, and a colon another character that is none. -/
@[simp]
theorem isBlank_wireChar (c : Char) : Text.isBlank (wireChar c) = Text.isBlank c := by
  unfold wireChar
  split_ifs with hnewline hcolon
  · rw [hnewline]
    rfl
  · rw [hcolon]
    rfl
  · rfl

/-- **A payload is empty if and only if nothing but blanks is carried.** -/
theorem wireSafe_eq_nil_iff {raw : List Char} :
    wireSafe raw = [] ↔ Text.isAllBlank (carried raw) = true := by
  rw [wireSafe_eq, Text.trim_eq_nil_iff, Text.isAllBlank, Text.isAllBlank, List.all_map]
  simp [Function.comp_def]

/-! ## What a payload is like -/

theorem length_wireSafe_le (raw : List Char) : (wireSafe raw).length ≤ maxPayloadChars :=
  (Text.trim_isInfix _).length_le.trans (List.length_take_le _ _)

/-- A payload made of a text holds no line feed. -/
theorem newline_not_mem_wireSafe (raw : List Char) : '\n' ∉ wireSafe raw := by
  intro h
  obtain ⟨c, -, hc⟩ := List.mem_map.1 (List.mem_of_mem_take (Text.mem_of_mem_trim h))
  unfold wireChar at hc
  split_ifs at hc with hnewline
  · exact absurd hc (by decide)
  · exact absurd hc (by decide)
  · exact hnewline hc

/-- Neither a carriage return nor a colon is left in a payload. -/
theorem ne_of_mem_wireSafe {raw : List Char} {c : Char} (h : c ∈ wireSafe raw) :
    c ≠ '\r' ∧ c ≠ ':' := by
  obtain ⟨d, hd, rfl⟩ := List.mem_map.1 (List.mem_of_mem_take (Text.mem_of_mem_trim h))
  have hreturn : d ≠ '\r' := by simpa using (List.mem_filter.1 hd).2
  unfold wireChar
  split_ifs with hnewline hcolon
  · decide
  · decide
  · exact ⟨hreturn, hcolon⟩

/-- A payload made of a text is trimmed. -/
theorem trim_wireSafe (raw : List Char) : Text.trim (wireSafe raw) = wireSafe raw :=
  Text.trim_trim _

/-- Nothing happens to a text that can be a payload as it is. -/
theorem wireSafe_eq_self {s : List Char} (hshort : s.length ≤ maxPayloadChars) (hline : '\n' ∉ s)
    (hreturn : '\r' ∉ s) (hcolon : ':' ∉ s) (htrimmed : Text.trim s = s) : wireSafe s = s := by
  have hkept : s.filter (· != '\r') = s := by
    rw [List.filter_eq_self]
    intro c hc
    have hne : c ≠ '\r' := fun h => hreturn (h ▸ hc)
    simpa using hne
  have hsame : s.map wireChar = s := by
    have hchar : ∀ c ∈ s, wireChar c = id c := by
      intro c hc
      have hnewline : c ≠ '\n' := fun h => hline (h ▸ hc)
      have hdash : c ≠ ':' := fun h => hcolon (h ▸ hc)
      rw [wireChar, if_neg hnewline, if_neg hdash, id]
    rw [List.map_congr_left hchar, List.map_id]
  rw [wireSafe, hkept, hsame, List.take_of_length_le hshort, htrimmed]

/-! ## Payloads as normal forms -/

/-- A text that can be sent as it is. -/
@[mk_iff]
structure IsPayload (s : String) : Prop where
  short : s.toList.length ≤ maxPayloadChars
  oneLine : '\n' ∉ s.toList
  noReturn : '\r' ∉ s.toList
  noColon : ':' ∉ s.toList
  trimmed : Text.trimmed s = s

instance (s : String) : Decidable (IsPayload s) := decidable_of_iff' _ (isPayload_iff s)

@[simp]
theorem toList_sanitize (x : String) : (sanitize x).toList = wireSafe x.toList :=
  String.toList_ofList

/-- **What is made of a text can be sent as it is**, whatever the text is. -/
theorem isPayload_sanitize (x : String) : IsPayload (sanitize x) where
  short := by
    rw [toList_sanitize]
    exact length_wireSafe_le _
  oneLine := by
    rw [toList_sanitize]
    exact newline_not_mem_wireSafe _
  noReturn := by
    rw [toList_sanitize]
    exact fun h => (ne_of_mem_wireSafe h).1 rfl
  noColon := by
    rw [toList_sanitize]
    exact fun h => (ne_of_mem_wireSafe h).2 rfl
  trimmed := by rw [Text.trimmed, toList_sanitize, trim_wireSafe, sanitize]

/-- **A text stays what it is if and only if it can be sent as it is.** -/
theorem sanitize_eq_self_iff {x : String} : sanitize x = x ↔ IsPayload x := by
  constructor
  · exact fun h => h ▸ isPayload_sanitize x
  · intro h
    have htrimmed : Text.trim x.toList = x.toList := by
      have hlist := congrArg String.toList h.trimmed
      rwa [Text.trimmed, String.toList_ofList] at hlist
    rw [sanitize, wireSafe_eq_self h.short h.oneLine h.noReturn h.noColon htrimmed,
      String.ofList_toList]

/-- **The payloads are the normal forms of texts.** What is made of a text can be sent as it is, a
text that can be sent as it is stays what it is, and so all that can be sent as it is, and nothing
else, is made of some text. Two texts that carry the same have the same payload. -/
theorem sanitize_normal_forms :
    (∀ x, IsPayload (sanitize x)) ∧
      (∀ x, sanitize x = x ↔ IsPayload x) ∧
      (∀ x, sanitize (sanitize x) = sanitize x) ∧
      (∀ y, (∃ x, sanitize x = y) ↔ IsPayload y) ∧
      ∀ x y : String, carried x.toList = carried y.toList → sanitize x = sanitize y := by
  refine ⟨isPayload_sanitize, fun x => sanitize_eq_self_iff,
    fun x => sanitize_eq_self_iff.2 (isPayload_sanitize x), fun y => ⟨?_, ?_⟩, fun x y h => ?_⟩
  · rintro ⟨x, rfl⟩
    exact isPayload_sanitize x
  · exact fun h => ⟨y, sanitize_eq_self_iff.2 h⟩
  · rw [sanitize, sanitize, wireSafe_eq, wireSafe_eq, h]

/-- Two texts that differ in a carriage return and after the last character that is carried, which
is a blank. -/
theorem sanitize_normal_forms_at_the_cut :
    ∃ x y : String, x = String.ofList ('\r' :: List.replicate 997 'x' ++ [' ', 'a']) ∧
      y = String.ofList (List.replicate 997 'x' ++ ['\r', ' ', 'b', 'c']) ∧
      carried x.toList = carried y.toList ∧ sanitize x = sanitize y ∧
      IsPayload (sanitize x) ∧ ¬ IsPayload x := by
  have hcut (n : Nat) (r : List Char) :
      (List.replicate n 'x' ++ ' ' :: r).take (n + 1) = List.replicate n 'x' ++ [' '] := by
    simp [List.take_append]
  have hkept (n : Nat) : (List.replicate n 'x').filter (· != '\r') = List.replicate n 'x' :=
    List.filter_replicate_of_pos rfl
  have hcarried : carried ('\r' :: List.replicate 997 'x' ++ [' ', 'a']) =
      carried (List.replicate 997 'x' ++ ['\r', ' ', 'b', 'c']) := by
    rw [carried, carried, List.filter_append, List.filter_append,
      List.filter_cons_of_neg (by decide), hkept]
    exact (hcut 997 _).trans (hcut 997 _).symm
  refine ⟨_, _, rfl, rfl, ?_, ?_, sanitize_normal_forms.1 _, fun h => ?_⟩
  · rwa [String.toList_ofList, String.toList_ofList]
  · refine sanitize_normal_forms.2.2.2.2 _ _ ?_
    rwa [String.toList_ofList, String.toList_ofList]
  · refine h.noReturn ?_
    rw [String.toList_ofList]
    exact List.mem_cons_self ..

end Autograder
