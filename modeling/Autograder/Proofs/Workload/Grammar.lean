/-
# The grammar of workload files

A line of a workload file is `S D` or `S D P`, where `S` and `D` are numbers of clients and `P` is
any text (`IsLine`). A line that is not of this form has a fault (`HasFault`): it has no space, or
the first of its two ends that is no client is named. The reader decides between the two
(`decides_readFields`), so a file is read if and only if each of its lines that is not blank is of
this form, and otherwise the first one that is not is reported (`read_iff_isLine`).

What is said here of client numbers and of the first bad line holds of outputs, too.
-/

import Autograder.Proofs.Workload.Lines

namespace Autograder

/-! ## Client numbers -/

/-- A text is the number of one of `n` clients. The number is that of the text: one that needs more
than 32 bits is no client, whatever is left of it in 32 bits. -/
structure NamesClient (n : Nat) (s : List Char) (c : Nat) : Prop where
  numeral : Text.IsNumeral s c
  le_maxUInt32 : c ≤ Text.maxUInt32
  one_le : 1 ≤ c
  le : c ≤ n

/-- Why a text is not the number of one of `n` clients. -/
inductive HasClientFault (n : Nat) (s : List Char) : ClientFault → Prop
  | notDecimal : (∀ k, Text.IsNumeral s k → Text.maxUInt32 < k) → HasClientFault n s .notDecimal
  | outside {k : Nat} : Text.IsNumeral s k → k ≤ Text.maxUInt32 → k = 0 ∨ n < k →
      HasClientFault n s (.outside k)

variable {n : Nat}

theorem NamesClient.readClient_eq {s : List Char} {c : Nat} (h : NamesClient n s c) :
    readClient n s = .ok c :=
  readClient_eq_ok_iff.2
    ⟨Text.readNat?_eq_some_iff_isNumeral.2 ⟨h.numeral, h.le_maxUInt32⟩, h.one_le, h.le⟩

theorem HasClientFault.readClient_eq {s : List Char} {fault : ClientFault}
    (h : HasClientFault n s fault) : readClient n s = .error fault := by
  cases h with
  | notDecimal hlarge =>
    have hnone : Text.readNat? Text.maxUInt32 s = none := by
      rw [Option.eq_none_iff_forall_ne_some]
      intro k hk
      obtain ⟨hnumeral, hle⟩ := Text.readNat?_eq_some_iff_isNumeral.1 hk
      exact absurd hle (Nat.not_le_of_lt (hlarge k hnumeral))
    rw [readClient, hnone]
  | @outside k hnumeral hle hout =>
    have hsome : Text.readNat? Text.maxUInt32 s = some k :=
      Text.readNat?_eq_some_iff_isNumeral.2 ⟨hnumeral, hle⟩
    rw [readClient, hsome]
    exact if_pos hout

/-- A text is the number of a client, or there is a reason why it is not. -/
theorem namesClient_or_hasClientFault (n : Nat) (s : List Char) :
    (∃ c, NamesClient n s c) ∨ ∃ fault, HasClientFault n s fault := by
  by_cases hread : ∃ k, Text.IsNumeral s k ∧ k ≤ Text.maxUInt32
  · obtain ⟨k, hnumeral, hle⟩ := hread
    by_cases hout : k = 0 ∨ n < k
    · exact Or.inr ⟨_, .outside hnumeral hle hout⟩
    · exact Or.inl ⟨k, hnumeral, hle, by omega, by omega⟩
  · refine Or.inr ⟨_, .notDecimal fun k hk => ?_⟩
    by_contra hle
    exact hread ⟨k, hk, Nat.le_of_not_lt hle⟩

/-- There is no space in the number of a client. -/
theorem NamesClient.space_not_mem {s : List Char} {c : Nat} (h : NamesClient n s c) : ' ' ∉ s :=
  Text.not_mem_of_readNat?
    (Text.readNat?_eq_some_iff_isNumeral.2 ⟨h.numeral, h.le_maxUInt32⟩) (by decide) (by decide)

/-! ## The first bad line -/

/-- A bad line is the first one of its text: it is not skipped and has the fault, and each line
before it is skipped or holds something. Its number is one more than the number of lines before it,
the skipped ones included. -/
def BadLine.IsFirst {Fault α : Type} (skip : List Char → Bool) (Holds : List Char → α → Prop)
    (HasFault : List Char → Fault → Prop) (ls : List (List Char)) (e : BadLine Fault) : Prop :=
  ∃ before l after, ls = before ++ l :: after ∧
    (∀ k ∈ before, skip k = true ∨ ∃ x, Holds k x) ∧ skip l = false ∧ HasFault l e.fault ∧
    e.number = before.length + 1 ∧ e.text = String.ofList l

/-- **A text that is read line by line fails at its first bad line.** -/
theorem readAll_numberedLines_eq_error_iff {Fault α : Type} {skip : List Char → Bool}
    {Holds : List Char → α → Prop} {HasFault : List Char → Fault → Prop}
    {fields : List Char → Except Fault α} {line : List Char → Nat → Except (BadLine Fault) α}
    (hline : ∀ l number, line l number =
      (fields l).mapError fun fault => ⟨number, String.ofList l, fault⟩)
    (hfields : ∀ l, Text.Decides (fields l) (Holds l) (HasFault l)) {s : List Char}
    {e : BadLine Fault} :
    Text.readAll skip line (Text.numberedLines s) = .error e ↔
      e.IsFirst skip Holds HasFault (Text.lines s) := by
  have hok (l : List Char) (number : Nat) : (∃ x, line l number = .ok x) ↔ ∃ x, Holds l x := by
    simp only [hline, Text.mapError_eq_ok_iff, (hfields l).eq_ok_iff]
  have herror (l : List Char) (number : Nat) : line l number = .error e ↔
      HasFault l e.fault ∧ e.number = number ∧ e.text = String.ofList l := by
    simp only [hline, Text.mapError_eq_error_iff, (hfields l).eq_error_iff]
    constructor
    · rintro ⟨fault, hfault, rfl⟩
      exact ⟨hfault, rfl, rfl⟩
    · rintro ⟨hfault, hnumber, htext⟩
      exact ⟨e.fault, hfault, by rw [← hnumber, ← htext]⟩
  rw [Text.numberedLines, Text.readAll_zipIdx_eq_error_iff hok]
  simp only [herror]
  rfl

namespace Workload

/-! ## Lines -/

/-- A line of a workload file for `n` clients, and its message. There is one space on either side of
the destination, and the payload is what follows, without the blanks around it. -/
inductive IsLine (n : Nat) : List Char → Message → Prop
  | bare {source destination : List Char} {s d : Nat} : NamesClient n source s →
      NamesClient n destination d → IsLine n (source ++ ' ' :: destination) ⟨s, d, ""⟩
  | full {source destination payload : List Char} {s d : Nat} : NamesClient n source s →
      NamesClient n destination d →
      IsLine n (source ++ ' ' :: (destination ++ ' ' :: payload))
        ⟨s, d, String.ofList (Text.trim payload)⟩

/-- What is wrong with a line. The source is what stands before the first space, the destination
what stands between it and the next space or the end, and the source comes first. -/
inductive HasFault (n : Nat) : List Char → WorkloadFault → Prop
  | missingDestination {l : List Char} : ' ' ∉ l → HasFault n l .missingDestination
  | source {source rest : List Char} {fault : ClientFault} : ' ' ∉ source →
      HasClientFault n source fault → HasFault n (source ++ ' ' :: rest) (.client .source fault)
  | destination {source destination rest : List Char} {s : Nat} {fault : ClientFault} :
      NamesClient n source s → ' ' ∉ destination → (∀ c ∈ rest.head?, c = ' ') →
      HasClientFault n destination fault →
      HasFault n (source ++ ' ' :: (destination ++ rest)) (.client .destination fault)

/-- A destination ends at the next space or with the line. -/
theorem fst_getD_splitAtFirst {destination rest : List Char} (hd : ' ' ∉ destination)
    (hrest : ∀ c ∈ rest.head?, c = ' ') :
    ((Text.splitAtFirst ' ' (destination ++ rest)).getD (destination ++ rest, [])).1 =
      destination := by
  cases rest with
  | nil => rw [List.append_nil, Text.splitAtFirst_of_not_mem hd, Option.getD_none]
  | cons c rest =>
    have hc : c = ' ' := hrest c rfl
    rw [hc, Text.splitAtFirst_append_cons hd, Option.getD_some]

theorem IsLine.readFields_eq {l : List Char} {m : Message} (h : IsLine n l m) :
    readFields n l = .ok m := by
  rw [readFields_eq_ok_iff]
  cases h with
  | @bare source destination _ _ hs hd =>
    refine ⟨source, destination, destination, [], ?_, ?_, hs.readClient_eq, hd.readClient_eq, rfl⟩
    · exact Text.splitAtFirst_append_cons hs.space_not_mem destination
    · rw [Text.splitAtFirst_of_not_mem hd.space_not_mem, Option.getD_none]
  | @full source destination payload _ _ hs hd =>
    refine ⟨source, destination ++ ' ' :: payload, destination, payload, ?_, ?_,
      hs.readClient_eq, hd.readClient_eq, rfl⟩
    · exact Text.splitAtFirst_append_cons hs.space_not_mem _
    · rw [Text.splitAtFirst_append_cons hd.space_not_mem, Option.getD_some]

theorem HasFault.readFields_eq {l : List Char} {fault : WorkloadFault} (h : HasFault n l fault) :
    readFields n l = .error fault := by
  cases h with
  | missingDestination hspace => rw [readFields, Text.splitAtFirst_of_not_mem hspace]
  | source hspace hfault =>
    rw [readFields, Text.splitAtFirst_append_cons hspace]
    simp only [hfault.readClient_eq]
  | destination hs hspace hrest hfault =>
    rw [readFields, Text.splitAtFirst_append_cons hs.space_not_mem]
    simp only [fst_getD_splitAtFirst hspace hrest, hs.readClient_eq, hfault.readClient_eq]

/-- What follows a source is a destination, and perhaps a space and more. -/
theorem exists_destination (rest : List Char) :
    ∃ destination tail, rest = destination ++ tail ∧ ' ' ∉ destination ∧
      ∀ c ∈ tail.head?, c = ' ' := by
  by_cases hspace : ' ' ∈ rest
  · obtain ⟨destination, payload, rfl, hdestination⟩ := List.eq_append_cons_of_mem hspace
    exact ⟨destination, ' ' :: payload, rfl, hdestination, by simp⟩
  · exact ⟨rest, [], (List.append_nil rest).symm, hspace, by simp⟩

/-- **Each line is of the form that a line has, or has a fault.** -/
theorem isLine_or_hasFault (n : Nat) (l : List Char) :
    (∃ m, IsLine n l m) ∨ ∃ fault, HasFault n l fault := by
  by_cases hspace : ' ' ∈ l
  · obtain ⟨source, rest, rfl, hsource⟩ := List.eq_append_cons_of_mem hspace
    obtain ⟨destination, tail, rfl, hdestination, htail⟩ := exists_destination rest
    rcases namesClient_or_hasClientFault n source with ⟨s, hs⟩ | ⟨fault, hfault⟩
    · rcases namesClient_or_hasClientFault n destination with ⟨d, hd⟩ | ⟨fault, hfault⟩
      · left
        cases tail with
        | nil =>
          rw [List.append_nil]
          exact ⟨_, .bare hs hd⟩
        | cons c payload =>
          rw [htail c rfl]
          exact ⟨_, .full hs hd⟩
      · exact Or.inr ⟨_, .destination hs hdestination htail hfault⟩
    · exact Or.inr ⟨_, .source hsource hfault⟩
  · exact Or.inr ⟨_, .missingDestination hspace⟩

/-- **The reader decides whether a line is of the form that a line has.** -/
theorem decides_readFields (n : Nat) (l : List Char) :
    Text.Decides (readFields n l) (IsLine n l) (HasFault n l) :=
  .of_or (fun _ => IsLine.readFields_eq) (fun _ => HasFault.readFields_eq)
    (isLine_or_hasFault n l)

/-! ## Files -/

/-- **A workload file is read by its grammar.** It is read if and only if each of its lines that is
not blank is of the form that a line has, and then it has the message of each of these lines, in
their order. Otherwise the first of them that is not of this form is reported, with its number among
all lines, its text and its fault. -/
theorem read_iff_isLine (n : Nat) (contents : String) :
    Text.HasLines contents.toList (Text.lines contents.toList) ∧
      (∀ l, (∃ fault, HasFault n l fault) ↔ ¬ ∃ m, IsLine n l m) ∧
      ((∃ w, read n contents = .ok w) ↔ ∀ l ∈ fileLines contents, ∃ m, IsLine n l m) ∧
      (∀ w, read n contents = .ok w ↔ List.Forall₂ (IsLine n) (fileLines contents) w) ∧
      ∀ e, read n contents = .error e ↔
        e.IsFirst Text.isAllBlank (IsLine n) (HasFault n) (Text.lines contents.toList) := by
  have hok (w : Workload) : read n contents = .ok w ↔
      List.Forall₂ (IsLine n) (fileLines contents) w := by
    rw [read_eq_ok_iff]
    simp only [(decides_readFields n _).eq_ok_iff]
  refine ⟨Text.hasLines_lines _, fun l => (decides_readFields n l).exists_fault_iff, ?_, hok,
    fun e => ?_⟩
  · simp only [hok]
    exact Text.exists_forall₂_iff
  · rw [read, readLines_eq_readAll]
    exact readAll_numberedLines_eq_error_iff (readLine_eq_mapError n) (decides_readFields n)

/-- A blank line counts, and a number is not cut to 32 bits. -/
example : read 4 "1 +02 a\r\n \t\n2 4294967297 b\nbroken\n" =
    .error ⟨3, "2 4294967297 b", .client .destination .notDecimal⟩ := rfl

end Workload
end Autograder
