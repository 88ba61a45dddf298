/-
# What a written value reads back as

`read?_pretty`: a value whose numbers are numbers and whose strings and objects are whole is read
back from its own text. The argument follows the text from left to right: a written value, item or
member is read up to its last character, whatever is `Apart` after it. Indentation is blank, and the
reader passes blanks over before it looks at anything; the length of what is written bounds how deep
the reader has to go.
-/

import Autograder.Proofs.Json.Number
import Autograder.Proofs.Json.Strings

namespace Autograder
namespace Json

/-- A value that is written as it is: it holds no broken string and no broken object, and every
number in it is one. -/
inductive Value.IsWhole : Value → Prop
  | null : IsWhole .null
  | bool (b : Bool) : IsWhole (.bool b)
  | number {literal : List Char} (h : IsNumber literal) : IsWhole (.number literal)
  | string (s : String) : IsWhole (.string s)
  | array {vs : List Value} (h : ∀ v ∈ vs, IsWhole v) : IsWhole (.array vs)
  | object {ms : List (String × Value)} (h : ∀ m ∈ ms, IsWhole m.2) : IsWhole (.object ms)

/-- What it takes to read a value wherever it is written: at every level, before every text that is
`Apart` from it, and with a depth beyond its length. -/
def Value.ReadsBack (v : Value) : Prop :=
  ∀ (level depth : Nat) (rest : List Char), Apart rest → (v.text level).length < depth →
    readValue depth (v.text level ++ rest) = some (v, rest)

variable {depth level : Nat} {rest : List Char}

/-! ## Blanks -/

theorem skipSpace_cons_of_not {c : Char} (hc : isSpace c = false) (s : List Char) :
    skipSpace (c :: s) = c :: s := by
  rw [skipSpace, List.dropWhile_cons_of_neg (by simp [hc])]

theorem skipSpace_space (s : List Char) : skipSpace (' ' :: s) = skipSpace s := by
  rw [skipSpace, List.dropWhile_cons_of_pos (by decide), skipSpace]

theorem skipSpace_replicate (n : Nat) (s : List Char) :
    skipSpace (List.replicate n ' ' ++ s) = skipSpace s := by
  induction n with
  | zero => rfl
  | succ n ih => rw [List.replicate_succ, List.cons_append, skipSpace_space, ih]

/-- The start of a line is blank. -/
theorem skipSpace_newLine (level : Nat) (s : List Char) :
    skipSpace (newLine level ++ s) = skipSpace s := by
  rw [newLine, List.cons_append, skipSpace, List.dropWhile_cons_of_pos (by decide)]
  exact skipSpace_replicate (2 * level) s

theorem skipSpace_newLine_cons {c : Char} (hc : isSpace c = false) (level : Nat) (s : List Char) :
    skipSpace (newLine level ++ c :: s) = c :: s := by
  rw [skipSpace_newLine, skipSpace_cons_of_not hc]

theorem readValue_congr {s t : List Char} (h : skipSpace s = skipSpace t) :
    readValue depth s = readValue depth t := by
  cases depth with
  | zero => rfl
  | succ depth => rw [readValue, readValue, h]

theorem readValue_space (s : List Char) : readValue depth (' ' :: s) = readValue depth s :=
  readValue_congr (skipSpace_space s)

theorem readItems_congr {s t : List Char} (h : skipSpace s = skipSpace t) (done : List Value) :
    readItems depth done s = readItems depth done t := by
  cases depth with
  | zero => rfl
  | succ depth => rw [readItems, readItems, readValue_congr h]

theorem readMembers_congr {s t : List Char} (h : skipSpace s = skipSpace t)
    (done : List (Value × Value)) : readMembers depth done s = readMembers depth done t := by
  cases depth with
  | zero => rfl
  | succ depth => rw [readMembers, readMembers, h]

/-! ## The first character -/

theorem ne_of_isDigit {c d : Char} (hc : c.isDigit = true) (hd : d.isDigit = false) : c ≠ d := by
  rintro rfl
  rw [hd] at hc
  cases hc

theorem isSpace_of_isDigit {c : Char} (hc : c.isDigit = true) : isSpace c = false := by
  have hne : ∀ d : Char, d.isDigit = false → c ≠ d := fun d hd => ne_of_isDigit hc hd
  simp [isSpace, hne ' ' rfl, hne '\t' rfl, hne '\n' rfl, hne '\r' rfl]

/-- A written value starts with a character of its own, which closes no array. -/
theorem Value.IsWhole.head {v : Value} (h : v.IsWhole) (level : Nat) :
    ∃ c r, v.text level = c :: r ∧ isSpace c = false ∧ c ≠ ']' := by
  cases h with
  | null => exact ⟨'n', "ull".toList, rfl, rfl, by decide⟩
  | bool b =>
    cases b with
    | false => exact ⟨'f', "alse".toList, rfl, rfl, by decide⟩
    | true => exact ⟨'t', "rue".toList, rfl, rfl, by decide⟩
  | number hl =>
    obtain ⟨c, r, rfl, rfl | hdigit⟩ := hl.head
    · exact ⟨'-', r, rfl, rfl, by decide⟩
    · exact ⟨c, r, rfl, isSpace_of_isDigit hdigit, ne_of_isDigit hdigit rfl⟩
  | string s => exact ⟨'"', _, rfl, rfl, by decide⟩
  | @array vs _ =>
    cases vs with
    | nil => exact ⟨'[', _, rfl, rfl, by decide⟩
    | cons v vs => exact ⟨'[', _, rfl, rfl, by decide⟩
  | @object ms _ =>
    cases ms with
    | nil => exact ⟨'\x7b', _, rfl, rfl, by decide⟩
    | cons m ms => exact ⟨'\x7b', _, rfl, rfl, by decide⟩

/-! ## Values without parts -/

theorem afterWord?_append (word : List Char) (rest : List Char) :
    afterWord? word (word ++ rest) = some rest := by
  induction word with
  | nil => rfl
  | cons c word ih => rw [List.cons_append, afterWord?, if_pos rfl, ih]

theorem readWord_append (word : String) (v : Value) (rest : List Char) :
    readWord word v (word.toList ++ rest) = some (v, rest) := by
  rw [readWord, afterWord?_append, Option.map_some]

/-- What starts as a number does is read as one. -/
theorem readValue_number {c : Char} (hc : c = '-' ∨ c.isDigit = true) (s : List Char) :
    readValue (depth + 1) (c :: s) = readLiteral (c :: s) := by
  have hspace : isSpace c = false := by
    rcases hc with rfl | hdigit
    · rfl
    · exact isSpace_of_isDigit hdigit
  have hne : ∀ d : Char, d ≠ '-' → d.isDigit = false → c ≠ d := by
    intro d hminus hd
    rcases hc with rfl | hdigit
    · exact hminus.symm
    · exact ne_of_isDigit hdigit hd
  rw [readValue, skipSpace_cons_of_not hspace]
  simp only [hne '"' (by decide) rfl, hne '[' (by decide) rfl, hne '\x7b' (by decide) rfl,
    hne 't' (by decide) rfl, hne 'f' (by decide) rfl, hne 'n' (by decide) rfl, if_false]

/-! ## Arrays and objects -/

theorem apart_of_punctuation {c : Char} (hc : continuesNumber c = false) (s : List Char) :
    Apart (c :: s) := by
  rintro _ ⟨⟩
  exact hc

theorem apart_newLine (level : Nat) (s : List Char) : Apart (newLine level ++ s) :=
  apart_of_punctuation rfl _

theorem apart_itemsText (level : Nat) (vs : List Value) {s : List Char} (hs : Apart s) :
    Apart (itemsText level vs ++ s) := by
  cases vs with
  | nil => rwa [itemsText]
  | cons v vs =>
    rw [itemsText]
    exact apart_of_punctuation rfl _

theorem apart_membersText (level : Nat) (ms : List (String × Value)) {s : List Char}
    (hs : Apart s) : Apart (membersText level ms ++ s) := by
  cases ms with
  | nil => rwa [membersText]
  | cons m ms =>
    rw [membersText]
    exact apart_of_punctuation rfl _

theorem readItems_last {v : Value} {s r r' : List Char} (hv : readValue depth s = some (v, r))
    (hr : skipSpace r = ']' :: r') (done : List Value) :
    readItems (depth + 1) done s = some (.array (done.reverse ++ [v]), r') := by
  simp only [readItems, hv, hr, List.reverse_cons]

theorem readItems_next {v : Value} {s r r' : List Char} (hv : readValue depth s = some (v, r))
    (hr : skipSpace r = ',' :: r') (done : List Value) :
    readItems (depth + 1) done s = readItems depth (v :: done) r' := by
  simp only [readItems, hv, hr]

/-- Items that read back one by one are read up to the end of their array. -/
theorem readItems_itemsText (k : Nat) {vs : List Value} :
    ∀ {v : Value} {depth : Nat} (done : List Value), (∀ w ∈ v :: vs, w.ReadsBack) →
      (v.text level ++ itemsText level vs).length + 1 < depth →
      readItems depth done (v.text level ++ (itemsText level vs ++ (newLine k ++ ']' :: rest))) =
        some (.array (done.reverse ++ v :: vs), rest) := by
  -- Induction on the items after the first. One step of `depth` goes to each item, and the comma
  -- after it makes up for that step.
  induction vs with
  | nil =>
    intro v depth done hback hdepth
    obtain ⟨depth, rfl⟩ := Nat.exists_eq_add_one_of_ne_zero (Nat.ne_zero_of_lt hdepth)
    rw [itemsText, List.append_nil] at hdepth
    rw [itemsText, List.nil_append]
    have hv := hback v List.mem_cons_self level depth _ (apart_newLine k (']' :: rest)) (by omega)
    exact readItems_last hv (skipSpace_newLine_cons rfl k rest) done
  | cons w ws ih =>
    intro v depth done hback hdepth
    obtain ⟨depth, rfl⟩ := Nat.exists_eq_add_one_of_ne_zero (Nat.ne_zero_of_lt hdepth)
    have hapart : Apart (itemsText level (w :: ws) ++ (newLine k ++ ']' :: rest)) :=
      apart_itemsText level _ (apart_newLine k _)
    simp only [itemsText, List.length_append, List.length_cons] at hdepth
    have hrest : (w.text level ++ itemsText level ws).length + 1 < depth := by
      rw [List.length_append]
      omega
    have hws : ∀ x ∈ w :: ws, x.ReadsBack := fun x hx => hback x (List.mem_cons_of_mem _ hx)
    have hv := hback v List.mem_cons_self level depth _ hapart (by omega)
    have hcomma : skipSpace (itemsText level (w :: ws) ++ (newLine k ++ ']' :: rest)) =
        ',' :: (newLine level ++
          (w.text level ++ (itemsText level ws ++ (newLine k ++ ']' :: rest)))) := by
      rw [itemsText, List.cons_append, skipSpace_cons_of_not rfl, List.append_assoc,
        List.append_assoc]
    rw [readItems_next hv hcomma, readItems_congr (skipSpace_newLine level _), ih _ hws hrest,
      List.reverse_cons, List.append_assoc, List.singleton_append]

/-- The members of an object as the reader collects them. -/
def collected (ms : List (String × Value)) : List (Value × Value) :=
  ms.map fun m => (.string m.1, m.2)

/-- What is written one by one and read back one by one is read back as a whole. -/
theorem mapM_map_eq_some {α β : Type} {write : α → β} {read : β → Option α} {xs : List α}
    (h : ∀ x ∈ xs, read (write x) = some x) : (xs.map write).mapM read = some xs := by
  induction xs with
  | nil => rfl
  | cons x xs ih =>
    rw [List.map_cons, List.mapM_cons, h x List.mem_cons_self,
      ih fun y hy => h y (List.mem_cons_of_mem _ hy)]
    rfl

/-- Members whose names are all texts make an object. -/
theorem objectOf_collected (ms : List (String × Value)) : objectOf (collected ms) = .object ms := by
  unfold objectOf
  dsimp only
  rw [collected, mapM_map_eq_some]
  intro m _
  rfl

theorem stringText_append (name : String) (s : List Char) :
    stringText name ++ s = '"' :: (name.toList.flatMap escaped ++ '"' :: s) := by
  rw [stringText, List.cons_append, List.append_assoc, List.singleton_append]

theorem skipSpace_stringText (name : String) (s : List Char) :
    skipSpace (stringText name ++ s) = '"' :: (name.toList.flatMap escaped ++ '"' :: s) := by
  rw [stringText_append, skipSpace_cons_of_not rfl]

theorem skipSpace_colon (s : List Char) : skipSpace (':' :: s) = ':' :: s :=
  skipSpace_cons_of_not rfl s

theorem readMembers_last {v : Value} {s r r' : List Char} (hv : readValue depth s = some (v, r))
    (hr : skipSpace r = '\x7d' :: r') (name : String) (done : List (Value × Value)) :
    readMembers (depth + 1) done (stringText name ++ (':' :: ' ' :: s)) =
      some (objectOf (done.reverse ++ [(.string name, v)]), r') := by
  simp only [readMembers, skipSpace_stringText, readString_append, skipSpace_colon,
    readValue_space, hv, hr, List.reverse_cons]

theorem readMembers_next {v : Value} {s r r' : List Char} (hv : readValue depth s = some (v, r))
    (hr : skipSpace r = ',' :: r') (name : String) (done : List (Value × Value)) :
    readMembers (depth + 1) done (stringText name ++ (':' :: ' ' :: s)) =
      readMembers depth ((.string name, v) :: done) r' := by
  simp only [readMembers, skipSpace_stringText, readString_append, skipSpace_colon,
    readValue_space, hv, hr]

/-- Members whose values read back one by one are read up to the end of their object. -/
theorem readMembers_membersText (k : Nat) {ms : List (String × Value)} :
    ∀ {m : String × Value} {depth : Nat} (done : List (Value × Value)),
      (∀ x ∈ m :: ms, x.2.ReadsBack) →
      (m.2.text level ++ membersText level ms).length + 1 < depth →
      readMembers depth done (stringText m.1 ++ (':' :: ' ' :: (m.2.text level ++
        (membersText level ms ++ (newLine k ++ '\x7d' :: rest))))) =
          some (objectOf (done.reverse ++ collected (m :: ms)), rest) := by
  induction ms with
  | nil =>
    intro m depth done hback hdepth
    obtain ⟨depth, rfl⟩ := Nat.exists_eq_add_one_of_ne_zero (Nat.ne_zero_of_lt hdepth)
    rw [membersText, List.append_nil] at hdepth
    rw [membersText, List.nil_append]
    have hv := hback m List.mem_cons_self level depth _ (apart_newLine k ('\x7d' :: rest))
      (by omega)
    exact readMembers_last hv (skipSpace_newLine_cons rfl k rest) m.1 done
  | cons n ns ih =>
    intro m depth done hback hdepth
    obtain ⟨depth, rfl⟩ := Nat.exists_eq_add_one_of_ne_zero (Nat.ne_zero_of_lt hdepth)
    have hapart : Apart (membersText level (n :: ns) ++ (newLine k ++ '\x7d' :: rest)) :=
      apart_membersText level _ (apart_newLine k _)
    simp only [membersText, List.length_append, List.length_cons] at hdepth
    have hrest : (n.2.text level ++ membersText level ns).length + 1 < depth := by
      rw [List.length_append]
      omega
    have hns : ∀ x ∈ n :: ns, x.2.ReadsBack := fun x hx => hback x (List.mem_cons_of_mem _ hx)
    have hv := hback m List.mem_cons_self level depth _ hapart (by omega)
    have hcomma : skipSpace (membersText level (n :: ns) ++ (newLine k ++ '\x7d' :: rest)) =
        ',' :: (newLine level ++ (stringText n.1 ++ (':' :: ' ' :: (n.2.text level ++
          (membersText level ns ++ (newLine k ++ '\x7d' :: rest)))))) := by
      rw [membersText, List.cons_append, skipSpace_cons_of_not rfl]
      simp only [List.append_assoc, List.cons_append, List.nil_append]
    have hread := ih ((.string m.1, m.2) :: done) hns hrest
    rw [List.reverse_cons, List.append_assoc, List.singleton_append] at hread
    rw [readMembers_next hv hcomma]
    exact (readMembers_congr (skipSpace_newLine level _) _).trans hread

/-! ## Whole values -/

/-- A written item behind an opening bracket takes the reader into the array. -/
theorem readValue_array {v : Value} (h : v.IsWhole) (level : Nat) (s : List Char) :
    readValue (depth + 1) ('[' :: (newLine level ++ (v.text level ++ s))) =
      readItems depth [] (v.text level ++ s) := by
  obtain ⟨c, r, htext, hspace, hclose⟩ := h.head level
  rw [htext, List.cons_append]
  have hopen (s : List Char) : skipSpace ('[' :: s) = '[' :: s := skipSpace_cons_of_not rfl s
  have hitem : skipSpace (newLine level ++ (c :: (r ++ s))) = c :: (r ++ s) :=
    skipSpace_newLine_cons hspace level _
  simp [readValue, hopen, hitem, hclose]

/-- A written name behind an opening brace takes the reader into the object. -/
theorem readValue_object (name : String) (level : Nat) (s : List Char) :
    readValue (depth + 1) ('\x7b' :: (newLine level ++ (stringText name ++ s))) =
      readMembers depth [] (stringText name ++ s) := by
  have hopen (s : List Char) : skipSpace ('\x7b' :: s) = '\x7b' :: s := skipSpace_cons_of_not rfl s
  rw [stringText_append]
  have hmember : skipSpace (newLine level ++ '"' :: (name.toList.flatMap escaped ++ '"' :: s)) =
      '"' :: (name.toList.flatMap escaped ++ '"' :: s) := skipSpace_newLine_cons rfl level _
  simp [readValue, hopen, hmember]

/-- The reader needs some depth for any value. -/
theorem Value.readsBack_of_succ {v : Value}
    (h : ∀ (level depth : Nat) (rest : List Char), Apart rest → (v.text level).length ≤ depth →
      readValue (depth + 1) (v.text level ++ rest) = some (v, rest)) : v.ReadsBack := by
  intro level depth rest hrest hdepth
  obtain ⟨depth, rfl⟩ := Nat.exists_eq_add_one_of_ne_zero (Nat.ne_zero_of_lt hdepth)
  exact h level depth rest hrest (Nat.le_of_lt_succ hdepth)

/-- **A whole value is read back wherever it is written.** -/
theorem Value.IsWhole.readsBack {v : Value} (h : v.IsWhole) : v.ReadsBack := by
  induction h with
  | null =>
    refine readsBack_of_succ fun level depth rest hrest hdepth => ?_
    exact readWord_append "null" .null rest
  | bool b =>
    refine readsBack_of_succ fun level depth rest hrest hdepth => ?_
    cases b with
    | false => exact readWord_append "false" (.bool false) rest
    | true => exact readWord_append "true" (.bool true) rest
  | number hl =>
    refine readsBack_of_succ fun level depth rest hrest hdepth => ?_
    obtain ⟨c, r, rfl, hc⟩ := hl.head
    exact (readValue_number hc (r ++ rest)).trans (readLiteral_append hrest hl)
  | string s =>
    refine readsBack_of_succ fun level depth rest hrest hdepth => ?_
    rw [Value.text, readValue, skipSpace_stringText]
    exact readString_append s rest
  | @array vs h ih =>
    refine readsBack_of_succ fun level depth rest hrest hdepth => ?_
    cases vs with
    | nil => rfl
    | cons v vs =>
      -- The brackets and the starts of the lines count as depth, but only the items need any.
      have hlength : (v.text (level + 1) ++ itemsText (level + 1) vs).length + 1 < depth := by
        simp only [Value.text, List.length_cons, List.length_append, newLine] at hdepth
        rw [List.length_append]
        omega
      rw [Value.text]
      simp only [List.append_assoc, List.cons_append, List.nil_append]
      rw [readValue_array (h v List.mem_cons_self)]
      exact readItems_itemsText level [] ih hlength
  | @object ms h ih =>
    refine readsBack_of_succ fun level depth rest hrest hdepth => ?_
    cases ms with
    | nil => rfl
    | cons m ms =>
      have hlength : (m.2.text (level + 1) ++ membersText (level + 1) ms).length + 1 < depth := by
        simp only [Value.text, List.length_cons, List.length_append, newLine] at hdepth
        rw [List.length_append]
        omega
      rw [Value.text]
      simp only [List.append_assoc, List.cons_append, List.nil_append]
      rw [readValue_object, readMembers_membersText level [] ih hlength, List.reverse_nil,
        List.nil_append, objectOf_collected]

/-- **A whole value is read back from its own text.** -/
theorem read?_pretty {v : Value} (h : v.IsWhole) : read? v.pretty = some v := by
  have hdepth : (v.text 0).length < 2 * (v.text 0).length + 2 := by omega
  have hapart : Apart [] := by decide
  have hread := h.readsBack 0 _ [] hapart hdepth
  rw [List.append_nil] at hread
  simp [read?, Value.pretty, hread, skipSpace]

end Json
end Autograder
