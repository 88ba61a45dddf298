/-
# A workload file that is read back

A message is written as one line, with a space after each of the two clients. It comes back from
the line if it fits one: both clients are in range, and the payload holds no line feed and has no
blank at either end (`Message.Fits`). What is read from a file always fits
(`fits_of_read`), so a workload is read back from its own file if and only if all its messages fit
(`read_contents_iff`). A payload made of a text fits whatever the text is.
-/

import Autograder.Proofs.Message.Sanitized
import Autograder.Proofs.Workload.Lines
import Mathlib.Tactic.MkIffOfInductiveProp

namespace Autograder

namespace Message

/-- A message that fits a line of a workload file for `n` clients. -/
@[mk_iff]
structure Fits (n : Nat) (m : Message) : Prop where
  source : 1 ≤ m.source ∧ m.source ≤ n
  destination : 1 ≤ m.destination ∧ m.destination ≤ n
  oneLine : '\n' ∉ m.payload.toList
  trimmed : Text.trimmed m.payload = m.payload

instance (n : Nat) (m : Message) : Decidable (m.Fits n) := decidable_of_iff' _ (fits_iff n m)

/-- A message that carries a text fits. -/
theorem fits_ofText {n source destination : Nat} (hs : 1 ≤ source ∧ source ≤ n)
    (hd : 1 ≤ destination ∧ destination ≤ n) (raw : String) :
    (ofText source destination raw).Fits n where
  source := hs
  destination := hd
  oneLine := (isPayload_sanitize raw).oneLine
  trimmed := (isPayload_sanitize raw).trimmed

variable {n : Nat} {m : Message}

theorem Fits.trim_payload (h : m.Fits n) : Text.trim m.payload.toList = m.payload.toList := by
  have htrimmed := congrArg String.toList h.trimmed
  rwa [Text.trimmed, String.toList_ofList] at htrimmed

/-! ## Lines -/

theorem newline_not_mem_line (h : '\n' ∉ m.payload.toList) : '\n' ∉ m.line := by
  rw [line, List.mem_append, List.mem_cons, List.mem_append, List.mem_cons]
  rintro (hmem | hmem | hmem | hmem | hmem)
  · exact Text.newline_not_mem_toDigits _ hmem
  · exact absurd hmem (by decide)
  · exact Text.newline_not_mem_toDigits _ hmem
  · exact absurd hmem (by decide)
  · exact h hmem

/-- A line starts with a digit, so it is not passed over. -/
theorem isAllBlank_line (m : Message) : Text.isAllBlank m.line = false := by
  obtain ⟨c, hc⟩ := List.exists_mem_of_ne_nil _ (Nat.toDigits_ne_nil (n := m.source) (b := 10))
  rw [Text.isAllBlank, List.all_eq_false]
  refine ⟨c, List.mem_append_left _ hc, ?_⟩
  rw [Text.isBlank_of_isDigit (Text.isDigit_of_mem_toDigits hc)]
  exact Bool.false_ne_true

/-- The line of a trimmed payload does not end with a carriage return. -/
theorem withoutReturn_line (h : Text.trim m.payload.toList = m.payload.toList) :
    Text.withoutReturn m.line = m.line := by
  rw [line, Text.withoutReturn_append_cons _ _ (by decide),
    Text.withoutReturn_append_cons _ _ (by decide), Text.withoutReturn_of_trim_eq h]

/-- **A message that fits is read from its line.** -/
theorem readFields_line (hn : n ≤ Text.maxUInt32) (h : m.Fits n) :
    Workload.readFields n m.line = .ok m := by
  have hspace (k : Nat) : ' ' ∉ Nat.toDigits 10 k := fun hmem =>
    absurd (Text.isDigit_of_mem_toDigits hmem) (by decide)
  have hclient {c : Nat} (hc : 1 ≤ c ∧ c ≤ n) : readClient n (Nat.toDigits 10 c) = .ok c :=
    readClient_eq_ok_iff.2 ⟨Text.readNat?_toDigits (hc.2.trans hn), hc⟩
  rw [Workload.readFields_eq_ok_iff]
  refine ⟨_, _, Nat.toDigits 10 m.destination, m.payload.toList,
    Text.splitAtFirst_append_cons (hspace m.source) _, ?_, hclient h.source,
    hclient h.destination, ?_⟩
  · rw [Text.splitAtFirst_append_cons (hspace m.destination), Option.getD_some]
  · rw [h.trim_payload, String.ofList_toList]

end Message

namespace Workload

variable {n : Nat} {w : Workload}

/-! ## Files -/

/-- A workload file is a line for each message, with a line feed after it. -/
theorem toList_contents (w : Workload) :
    w.contents.toList = Text.terminated (w.map Message.line) := by
  rw [contents, String.toList_ofList, Text.terminated, List.flatMap_map]

theorem fileLines_contents (h : ∀ m ∈ w, m.Fits n) :
    fileLines w.contents = w.map Message.line := by
  have hlines : ∀ l ∈ w.map Message.line, '\n' ∉ l := by
    intro l hl
    obtain ⟨m, hm, rfl⟩ := List.mem_map.1 hl
    exact Message.newline_not_mem_line (h m hm).oneLine
  have hreturn : (w.map Message.line).map Text.withoutReturn = w.map Message.line := by
    rw [List.map_map]
    exact List.map_congr_left fun m hm => Message.withoutReturn_line (h m hm).trim_payload
  rw [fileLines, toList_contents, Text.lines_terminated hlines, hreturn, List.filter_eq_self]
  intro l hl
  obtain ⟨m, -, rfl⟩ := List.mem_map.1 hl
  rw [Message.isAllBlank_line, Bool.not_false]

/-- **A workload whose messages fit is read back from its file.** -/
theorem read_contents (hn : n ≤ Text.maxUInt32) (h : ∀ m ∈ w, m.Fits n) :
    read n w.contents = .ok w := by
  rw [read_eq_ok_iff, fileLines_contents h, List.forall₂_map_left_iff, List.forall₂_same]
  exact fun m hm => Message.readFields_line hn (h m hm)

theorem fits_of_readFields {l : List Char} {m : Message} (hl : '\n' ∉ l)
    (h : readFields n l = .ok m) : m.Fits n := by
  obtain ⟨destination, payload, -, hp, hmem⟩ := exists_parts_of_readFields h
  obtain ⟨_, _, _, _, -, -, hs, hd, -⟩ := readFields_eq_ok_iff.1 h
  refine ⟨(readClient_eq_ok_iff.1 hs).2, (readClient_eq_ok_iff.1 hd).2, ?_, ?_⟩
  · rw [hp, String.toList_ofList]
    exact fun hnewline => hl (hmem _ (Text.mem_of_mem_trim hnewline))
  · rw [hp, Text.trimmed, String.toList_ofList, Text.trim_trim]

/-- **Whatever is read from a file fits a file.** -/
theorem fits_of_read {text : String} (h : read n text = .ok w) : ∀ m ∈ w, m.Fits n := by
  intro m hm
  obtain ⟨l, hl, hread⟩ := Text.exists_line_of_mem (read_eq_ok_iff.1 h) hm
  exact fits_of_readFields (Text.not_mem_of_mem_lines (List.mem_of_mem_filter hl)) hread

/-- **A workload is read back from its file if and only if its messages fit.** They do if they carry
texts from client to client, and if they were read from a file before. -/
theorem read_contents_iff {n : Nat} (hn : n ≤ Text.maxUInt32) :
    (∀ w : Workload, read n w.contents = .ok w ↔ ∀ m ∈ w, m.Fits n) ∧
      (∀ w : Workload, (∀ m ∈ w, (1 ≤ m.source ∧ m.source ≤ n) ∧
          (1 ≤ m.destination ∧ m.destination ≤ n) ∧
          ∃ raw, m = Message.ofText m.source m.destination raw) →
        read n w.contents = .ok w) ∧
      ∀ (text : String) (w : Workload), read n text = .ok w → read n w.contents = .ok w := by
  refine ⟨fun w => ⟨fits_of_read, read_contents hn⟩, fun w h => ?_, fun text w h => ?_⟩
  · refine read_contents hn fun m hm => ?_
    obtain ⟨hs, hd, raw, hm⟩ := h m hm
    rw [hm]
    exact Message.fits_ofText hs hd raw
  · exact read_contents hn (fits_of_read h)

/-- A payload that is empty, one of digits with two spaces, and one with a colon, a carriage return
and a line separator come back; a payload that is cut by a line feed does not. -/
theorem read_contents_messages :
    3 ≤ Text.maxUInt32 ∧
      read 3 (contents [⟨1, 3, ""⟩, ⟨3, 3, "1 2  4"⟩, ⟨2, 1, "a:\r\u2028b"⟩]) =
        .ok [⟨1, 3, ""⟩, ⟨3, 3, "1 2  4"⟩, ⟨2, 1, "a:\r\u2028b"⟩] ∧
      read 3 (contents [⟨1, 2, "a\n2 1 b"⟩]) ≠ .ok [⟨1, 2, "a\n2 1 b"⟩] := by
  have hn : 3 ≤ Text.maxUInt32 := by decide
  refine ⟨hn, ((read_contents_iff hn).1 _).2 (by decide), fun h => ?_⟩
  exact absurd (((read_contents_iff hn).1 _).1 h) (by decide)

end Workload
end Autograder
