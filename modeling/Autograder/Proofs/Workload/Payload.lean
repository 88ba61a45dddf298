/-
# What is known of a payload

A payload that is made of a text is wire safe: it is short, stands on one line, has neither a
carriage return nor a colon, and is trimmed. The wire safe payloads are the ones that are made of
themselves (`isWireSafe_iff_sanitize`). So whatever is drawn is wire safe, and it comes back from
its file. Any file is read as it is, because the program under test reads the same text: a payload
is what stands after the second space of its line, trimmed (`payload_of_readFields`), and a colon in
it stays (`isWireSafe_or_readsAsIs`).
-/

import Autograder.Proofs.Files.Change
import Autograder.Proofs.Workload.Drawn
import Autograder.Random.ChaCha

namespace Autograder

/-! ## Messages that carry a text -/

namespace Message

/-- A message whose payload survives both forms on the wire. -/
@[mk_iff]
structure IsWireSafe (m : Message) : Prop where
  short : m.payload.toList.length ≤ maxPayloadChars
  oneLine : '\n' ∉ m.payload.toList
  noReturn : '\r' ∉ m.payload.toList
  noColon : ':' ∉ m.payload.toList
  trimmed : Text.trimmed m.payload = m.payload

instance (m : Message) : Decidable m.IsWireSafe := decidable_of_iff' _ (isWireSafe_iff m)

/-- A message is wire safe if its payload can be sent as it is. -/
theorem isWireSafe_iff_isPayload {m : Message} : m.IsWireSafe ↔ IsPayload m.payload := by
  rw [isWireSafe_iff, isPayload_iff]

/-- **A message that carries a text is wire safe**, whatever the text is. -/
theorem isWireSafe_ofText (source destination : Nat) (raw : String) :
    (ofText source destination raw).IsWireSafe :=
  isWireSafe_iff_isPayload.2 (isPayload_sanitize raw)

/-- **A message is wire safe if and only if its payload is the one that is made of it.** -/
theorem isWireSafe_iff_sanitize {m : Message} : m.IsWireSafe ↔ sanitize m.payload = m.payload :=
  isWireSafe_iff_isPayload.trans sanitize_eq_self_iff.symm

end Message

namespace Workload

variable {n : Nat} {w : Workload}

/-! ## Random workloads -/

/-- A drawn message is wire safe. -/
theorem IsDrawn.isWireSafe {corpus : Corpus} {m : Message} (h : IsDrawn corpus n m) :
    m.IsWireSafe := by
  obtain ⟨e, -, he⟩ := h.payload
  have hm : Message.ofText m.source m.destination e = m := by rw [Message.ofText, ← he]
  exact hm ▸ Message.isWireSafe_ofText m.source m.destination e

/-! ## Files -/

/-- What stands after the second space of a line. -/
def payloadText (l : List Char) : List Char :=
  match Text.splitAtFirst ' ' l with
  | none => []
  | some (_, rest) => ((Text.splitAtFirst ' ' rest).getD (rest, [])).2

/-- **A payload is read as it stands in its line**, but for the blanks at both ends. -/
theorem payload_of_readFields {l : List Char} {m : Message} (h : readFields n l = .ok m) :
    m.payload = String.ofList (Text.trim (payloadText l)) := by
  obtain ⟨source, rest, destination, payload, hsource, hrest, -, -, hp⟩ := readFields_eq_ok_iff.1 h
  rw [payloadText, hsource, hp]
  dsimp only
  rw [hrest]

/-- The payload of a message is as it stands in a line, but for the blanks at both ends. So it is on
one line and trimmed, and the message is wire safe if what stands in the line is short and free of
carriage returns and colons. -/
structure ReadsAsIs (l : List Char) (m : Message) : Prop where
  payload : m.payload.toList = Text.trim (payloadText l)
  oneLine : '\n' ∉ m.payload.toList
  trimmed : Text.trimmed m.payload = m.payload
  wireSafe : m.IsWireSafe ↔ (Text.trim (payloadText l)).length ≤ maxPayloadChars ∧
    '\r' ∉ Text.trim (payloadText l) ∧ ':' ∉ Text.trim (payloadText l)

theorem readsAsIs_of_readFields {l : List Char} {m : Message} (hl : '\n' ∉ l)
    (h : readFields n l = .ok m) : ReadsAsIs l m := by
  have hfits := fits_of_readFields hl h
  have hpayload : m.payload.toList = Text.trim (payloadText l) := by
    rw [payload_of_readFields h, String.toList_ofList]
  refine ⟨hpayload, hfits.oneLine, hfits.trimmed, ?_⟩
  rw [← hpayload]
  constructor
  · exact fun hsafe => ⟨hsafe.short, hsafe.noReturn, hsafe.noColon⟩
  · exact fun ⟨hshort, hreturn, hcolon⟩ =>
      ⟨hshort, hfits.oneLine, hreturn, hcolon, hfits.trimmed⟩

/-- **A file is read as it is**, one message for each line that is not blank. -/
theorem readsAsIs_of_read {text : String} (h : read n text = .ok w) :
    List.Forall₂ ReadsAsIs (fileLines text) w := by
  have hlines : ∀ l ∈ fileLines text, '\n' ∉ l := fun l hl =>
    Text.not_mem_of_mem_lines (List.mem_of_mem_filter hl)
  have hread := (List.forall₂_and_left _ _).2 ⟨hlines, read_eq_ok_iff.1 h⟩
  exact hread.imp fun l m ⟨hl, hm⟩ => readsAsIs_of_readFields hl hm

/-- **Where messages come from.** A message that carries a text is wire safe, and so are those of a
random workload, which also come back from the file that the workload is written to. The messages of
any other file are as the file has them. -/
theorem isWireSafe_or_readsAsIs :
    (∀ (source destination : Nat) (raw : String),
      (Message.ofText source destination raw).IsWireSafe) ∧
    (∀ (ρ : Type) (dice : Dice ρ) (corpus : Corpus) (n count : Nat) (s : ρ) (w : Workload),
      generate? dice corpus n count s = some w →
        (∀ m ∈ w, m.IsWireSafe) ∧
        (n ≤ Text.maxUInt32 → ∀ (fs files : Files) (path : String),
          write fs path w = .ok files → load files n path = .ok w)) ∧
    (∀ (n : Nat) (text : String) (w : Workload), read n text = .ok w →
      List.Forall₂ ReadsAsIs (fileLines text) w) ∧
    ∀ (fs : Files) (n : Nat) (path : String) (w : Workload), load fs n path = .ok w →
      ∃ text, fs.readText path = .ok text ∧ List.Forall₂ ReadsAsIs (fileLines text) w := by
  refine ⟨Message.isWireSafe_ofText, fun ρ dice corpus n count s w hw => ⟨?_, ?_⟩,
    fun n text w h => readsAsIs_of_read h, fun fs n path w h => ?_⟩
  · exact fun m hm => (isDrawn_of_generate? hw m hm).isWireSafe
  · intro hn fs files path hwrite
    have htext := Files.readText_of_writeText (write_eq_ok_iff.1 hwrite)
    have hread := read_contents_of_isDrawn hn (isDrawn_of_generate? hw)
    exact load_eq_ok_iff.2 ⟨pos_of_generate? hw, _, htext, hread⟩
  · obtain ⟨-, text, htext, hread⟩ := load_eq_ok_iff.1 h
    exact ⟨text, htext, readsAsIs_of_read hread⟩

/-- A colon in an entry of the corpus becomes a dash, but one in a file stays. -/
theorem isWireSafe_or_readsAsIs_colon :
    generate? ChaCha.dice.toDice ⟨["a:b"], by decide⟩ 1 1 (ChaCha.dice.ofSeed 7) =
        some [⟨1, 1, "a-b"⟩] ∧
      (∀ m ∈ [(⟨1, 1, "a-b"⟩ : Message)], m.IsWireSafe) ∧
      read 1 "1 1 a:b\n" = .ok [⟨1, 1, "a:b"⟩] ∧
      List.Forall₂ ReadsAsIs (fileLines "1 1 a:b\n") [⟨1, 1, "a:b"⟩] := by
  have hw : generate? ChaCha.dice.toDice ⟨["a:b"], by decide⟩ 1 1 (ChaCha.dice.ofSeed 7) =
      some [⟨1, 1, "a-b"⟩] := by decide +kernel
  have hread : read 1 "1 1 a:b\n" = .ok [⟨1, 1, "a:b"⟩] := rfl
  obtain ⟨-, hdrawn, hfile, -⟩ := isWireSafe_or_readsAsIs
  exact ⟨hw, (hdrawn _ _ _ _ _ _ _ hw).1, hread, hfile _ _ _ hread⟩

/-- A payload of one letter, however often it is repeated, is read from a file. -/
theorem read_repeated {payload : String} (hx : ∀ c ∈ payload.toList, c = 'x') :
    read 1 ("1 1 " ++ payload ++ "\n") = .ok [⟨1, 1, payload⟩] := by
  have hfits : (⟨1, 1, payload⟩ : Message).Fits 1 := by
    have hone : 1 ≤ 1 ∧ 1 ≤ 1 := ⟨le_refl 1, le_refl 1⟩
    refine ⟨hone, hone, fun h => absurd (hx _ h) (by decide), ?_⟩
    have htrim : Text.trim payload.toList = payload.toList := by
      refine Text.trim_eq_self fun c hc => ?_
      rw [hx c hc]
      rfl
    rw [Text.trimmed, htrim, String.ofList_toList]
  have hcontents : contents [⟨1, 1, payload⟩] = "1 1 " ++ payload ++ "\n" := by
    have hone : Nat.toDigits 10 1 = ['1'] := rfl
    rw [← String.toList_inj, toList_contents]
    simp [Text.terminated, Message.line, hone]
  rw [← hcontents]
  refine read_contents (by decide) fun m hm => ?_
  rw [List.mem_singleton.1 hm]
  exact hfits

/-- A message that is read from a file need not be wire safe: its payload can have a colon, or a
carriage return, or be too long. -/
theorem not_isWireSafe_of_read :
    (read 1 "1 1 a:b\n" = .ok [⟨1, 1, "a:b"⟩] ∧ ¬ (⟨1, 1, "a:b"⟩ : Message).IsWireSafe) ∧
      (read 1 "1 1 a\rb\n" = .ok [⟨1, 1, "a\rb"⟩] ∧ ¬ (⟨1, 1, "a\rb"⟩ : Message).IsWireSafe) ∧
      ∃ payload, payload = String.ofList (List.replicate 999 'x') ∧
        read 1 ("1 1 " ++ payload ++ "\n") = .ok [⟨1, 1, payload⟩] ∧
        ¬ (⟨1, 1, payload⟩ : Message).IsWireSafe := by
  refine ⟨⟨rfl, by decide⟩, ⟨rfl, by decide⟩, _, rfl, read_repeated fun c hc => ?_, fun h => ?_⟩
  · rw [String.toList_ofList] at hc
    exact List.eq_of_mem_replicate hc
  · have hshort := h.short
    rw [String.toList_ofList, List.length_replicate] at hshort
    exact absurd hshort (by decide)

end Workload
end Autograder
