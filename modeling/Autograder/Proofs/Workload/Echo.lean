/-
# A program that delivers what it is sent

A correct program prints a line for each line of the workload file, in any order. It may print the
destination and the payload as they stand in the file, or those of the message that was read
(`IsEcho`). The file and the output are cut by different rules: at single spaces and at the first
colon. They still come to the same deliveries (`readFields_of_isEcho`), since a destination holds
neither, and blanks around a payload count in neither. So a correct program always passes
(`agrees_of_isEcho`).
-/

import Autograder.Proofs.Buckets.Agreement
import Mathlib.Data.List.Perm.Basic

namespace Autograder

/-- The line of output that delivers a message. -/
def Message.echo (m : Message) : List Char :=
  Nat.toDigits 10 m.destination ++ ':' :: ' ' :: m.payload.toList

namespace Workload

/-- What a correct program prints for a line of a workload file. -/
inductive IsEcho (n : Nat) : List Char → List Char → Prop
  /-- The line has no payload. -/
  | bare {source destination : List Char} : ' ' ∉ source → ' ' ∉ destination →
      IsEcho n (source ++ ' ' :: destination) (destination ++ [':', ' '])
  /-- Destination and payload are printed as they stand in the line. -/
  | raw {source destination payload : List Char} : ' ' ∉ source → ' ' ∉ destination →
      IsEcho n (source ++ ' ' :: (destination ++ ' ' :: payload))
        (destination ++ ':' :: ' ' :: payload)
  /-- Those of the message are printed. -/
  | canonical {l : List Char} {m : Message} : readFields n l = .ok m → IsEcho n l m.echo

/-- A payload after a destination, a colon and a space is delivered, whether or not the line keeps
a carriage return at its end. -/
theorem ofLine?_withoutReturn {destination : List Char} {c : Nat}
    (hc : Text.readNat? Text.maxUInt32 destination = some c) (payload : List Char) :
    Delivery.ofLine? (Text.withoutReturn (destination ++ ':' :: ' ' :: payload)) =
      some ⟨c, String.ofList (Text.trim payload)⟩ := by
  have hcolon : ':' ∉ destination := Text.not_mem_of_readNat? hc (by decide) (by decide)
  have hspace : ∀ d ∈ [' '], Text.isBlank d = true := fun d hd => by
    rw [List.mem_singleton.1 hd]
    rfl
  have hpayload : Text.trim (' ' :: payload) = Text.trim payload :=
    Text.trim_append_left hspace payload
  rw [Text.withoutReturn_append_cons _ _ (by decide), Delivery.ofLine?_append_cons hcolon,
    Text.trim_of_readNat? hc, hc, Option.map_some, Text.trim_withoutReturn, hpayload]

/-- The message of a line without a payload. -/
theorem readFields_bare {n : Nat} {source destination : List Char} {m : Message}
    (hs : ' ' ∉ source) (hd : ' ' ∉ destination)
    (h : readFields n (source ++ ' ' :: destination) = .ok m) :
    Text.readNat? Text.maxUInt32 destination = some m.destination ∧ m.payload = "" := by
  obtain ⟨_, _, _, _, hsource, hrest, -, hclient, hp⟩ := readFields_eq_ok_iff.1 h
  rw [Text.splitAtFirst_append_cons hs] at hsource
  cases hsource
  rw [Text.splitAtFirst_of_not_mem hd] at hrest
  cases hrest
  exact ⟨(readClient_eq_ok_iff.1 hclient).1, hp⟩

/-- The message of a line with a payload. -/
theorem readFields_raw {n : Nat} {source destination payload : List Char} {m : Message}
    (hs : ' ' ∉ source) (hd : ' ' ∉ destination)
    (h : readFields n (source ++ ' ' :: (destination ++ ' ' :: payload)) = .ok m) :
    Text.readNat? Text.maxUInt32 destination = some m.destination ∧
      m.payload = String.ofList (Text.trim payload) := by
  obtain ⟨_, _, _, _, hsource, hrest, -, hclient, hp⟩ := readFields_eq_ok_iff.1 h
  rw [Text.splitAtFirst_append_cons hs] at hsource
  cases hsource
  rw [Text.splitAtFirst_append_cons hd] at hrest
  cases hrest
  exact ⟨(readClient_eq_ok_iff.1 hclient).1, hp⟩

/-- **An echo delivers the message of its line.** -/
theorem ofLine?_of_isEcho {n : Nat} {l out : List Char} {m : Message}
    (hm : readFields n l = .ok m) (h : IsEcho n l out) :
    Delivery.ofLine? (Text.withoutReturn out) = some m.delivery := by
  cases h with
  | bare hs hd =>
    obtain ⟨hclient, hp⟩ := readFields_bare hs hd hm
    rw [ofLine?_withoutReturn hclient [], Message.delivery, hp]
    rfl
  | raw hs hd =>
    obtain ⟨hclient, hp⟩ := readFields_raw hs hd hm
    rw [ofLine?_withoutReturn hclient, Message.delivery, hp]
  | canonical hm' =>
    rw [hm] at hm'
    cases hm'
    obtain ⟨destination, payload, hclient, hp, -⟩ := exists_parts_of_readFields hm
    have hdigits := Text.readNat?_toDigits (Text.readNat?_eq_some_iff.1 hclient).2
    rw [Message.echo, ofLine?_withoutReturn hdigits, Message.delivery, hp, String.toList_ofList,
      Text.trim_trim]

/-- An echo is one line. -/
theorem not_mem_of_isEcho {n : Nat} {l out : List Char} (h : IsEcho n l out) (hl : '\n' ∉ l) :
    '\n' ∉ out := by
  intro hmem
  cases h with
  | bare hs hd =>
    rw [List.mem_append, List.mem_cons] at hl
    rcases List.mem_append.1 hmem with hmem | hmem
    · exact hl (Or.inr (Or.inr hmem))
    · exact absurd hmem (by decide)
  | raw hs hd =>
    rw [List.mem_append, List.mem_cons, List.mem_append, List.mem_cons] at hl
    rw [List.mem_append, List.mem_cons, List.mem_cons] at hmem
    rcases hmem with hmem | hmem | hmem | hmem
    · exact hl (Or.inr (Or.inr (Or.inl hmem)))
    · exact absurd hmem (by decide)
    · exact absurd hmem (by decide)
    · exact hl (Or.inr (Or.inr (Or.inr (Or.inr hmem))))
  | canonical hm =>
    obtain ⟨destination, payload, -, hp, hsub⟩ := exists_parts_of_readFields hm
    rw [Message.echo, hp, String.toList_ofList, List.mem_append, List.mem_cons, List.mem_cons]
      at hmem
    rcases hmem with hmem | hmem | hmem | hmem
    · exact absurd (Text.isDigit_of_mem_toDigits hmem) (by decide)
    · exact absurd hmem (by decide)
    · exact absurd hmem (by decide)
    · exact hl (hsub _ (Text.mem_of_mem_trim hmem))

/-- The lines of a text that echoes some lines deliver their messages, line by line. -/
theorem readFields_of_isEcho {n : Nat} {ls outs : List (List Char)} {w : Workload}
    (hw : List.Forall₂ (fun l m => readFields n l = .ok m) ls w)
    (houts : List.Forall₂ (IsEcho n) ls outs) :
    List.Forall₂ (fun l d => Delivery.readFields n l = .ok d) (outs.map Text.withoutReturn)
      (w.map Message.delivery) := by
  induction hw generalizing outs with
  | nil =>
    cases houts
    exact List.Forall₂.nil
  | cons hm _ ih =>
    cases houts with
    | cons hecho hrest =>
      refine List.Forall₂.cons ?_ (ih hrest)
      exact Delivery.readFields_eq_ok_iff.2
        ⟨ofLine?_of_isEcho hm hecho, destination_mem_of_readFields hm⟩

/-- The lines of a text that echoes lines are the echoes. -/
theorem outputLines_of_isEcho {n : Nat} {ls outs : List (List Char)} {w : Workload}
    (hw : List.Forall₂ (fun l m => readFields n l = .ok m) ls w) (hls : ∀ l ∈ ls, '\n' ∉ l)
    (houts : List.Forall₂ (IsEcho n) ls outs) :
    BucketSet.outputLines (String.ofList (Text.terminated outs)) =
      outs.map Text.withoutReturn := by
  have hlines : ∀ out ∈ outs, '\n' ∉ out := fun out hout => by
    obtain ⟨l, hl, hecho⟩ := Text.exists_line_of_mem houts hout
    exact not_mem_of_isEcho hecho (hls l hl)
  have hdeliver := (BucketSet.forall₂_readFields_iff.1 (readFields_of_isEcho hw houts)).1
  unfold BucketSet.outputLines
  rw [String.toList_ofList, Text.lines_terminated hlines, List.filter_eq_self]
  intro l hl
  obtain ⟨d, hd, -⟩ := hdeliver l hl
  cases l with
  | nil => cases hd
  | cons c l => rfl

/-- **A correct program always passes.** Whatever file is accepted, an output that echoes each of
its lines that is not blank, in any order, is accepted and agrees with the file. -/
theorem agrees_of_isEcho {n : Nat} {contents : String} {w : Workload}
    (hw : read n contents = .ok w) {ls outs : List (List Char)}
    (hls : ls.Perm (fileLines contents)) (houts : List.Forall₂ (IsEcho n) ls outs) :
    ∃ s, BucketSet.readOutput n (String.ofList (Text.terminated outs)) = .ok s ∧
      (BucketSet.ofWorkload n w).agrees s = true := by
  obtain ⟨w', hw', hperm⟩ := List.perm_comp_forall₂ hls (read_eq_ok_iff.1 hw)
  have hnewline : ∀ l ∈ ls, '\n' ∉ l := fun l hl =>
    Text.not_mem_of_mem_lines (List.mem_of_mem_filter (hls.subset hl))
  obtain ⟨hall, hdelivered⟩ := BucketSet.forall₂_readFields_iff.1 (readFields_of_isEcho hw' houts)
  have hout := outputLines_of_isEcho hw' hnewline houts
  refine ⟨BucketSet.ofDeliveries n (w'.map Message.delivery), ?_, ?_⟩
  · rw [BucketSet.readOutput_eq_ok_iff, BucketSet.delivered, hout, ← hdelivered]
    exact ⟨hall, rfl⟩
  · rw [BucketSet.agrees_iff, BucketSet.ofWorkload_eq_ofDeliveries]
    exact BucketSet.ofDeliveries_eq_of_perm n (hperm.symm.map _)

/-- A file with a signed and padded destination, a colon and a carriage return in a payload, a
blank line and a line without a payload; printed from the last line to the first. -/
theorem agrees_of_isEcho_reversed :
    read 2 "1 +02  a: b\r\r\n \n2 1" = .ok [⟨1, 2, "a: b"⟩, ⟨2, 1, ""⟩] ∧
      ∃ s, BucketSet.readOutput 2 "1: \n+02:  a: b\r\n" = .ok s ∧
        (BucketSet.ofWorkload 2 [⟨1, 2, "a: b"⟩, ⟨2, 1, ""⟩]).agrees s = true := by
  have hw : read 2 "1 +02  a: b\r\r\n \n2 1" = .ok [⟨1, 2, "a: b"⟩, ⟨2, 1, ""⟩] := rfl
  have hperm : ["2 1".toList, "1 +02  a: b\r".toList].Perm
      (fileLines "1 +02  a: b\r\r\n \n2 1") := List.Perm.swap _ _ _
  have hraw : IsEcho 2 "1 +02  a: b\r".toList "+02:  a: b\r".toList :=
    @IsEcho.raw 2 "1".toList "+02".toList " a: b\r".toList (by decide) (by decide)
  have hcanonical : IsEcho 2 "2 1".toList "1: ".toList :=
    IsEcho.canonical (m := ⟨2, 1, ""⟩) rfl
  exact ⟨hw, agrees_of_isEcho hw hperm (.cons hcanonical (.cons hraw .nil))⟩

end Workload
end Autograder
