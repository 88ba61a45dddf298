/-
# What a written string reads back as

Each character of a string is written as one piece: most stand for themselves, some have a letter
behind a backslash, and the other control characters are given by their number. The reader takes
the pieces one by one, so it comes to the closing quote with the characters that were written.
-/

import Autograder.Json.Printer
import Autograder.Json.Reader
import Mathlib.Tactic.SplitIfs

namespace Autograder
namespace Json

/-- A control character that no letter stands for. -/
def isNumbered (c : Char) : Bool :=
  c.toNat < 0x20 && c != '\n' && c != '\r' && c != '\t' && c != '\x08' && c != '\x0c'

/-- The piece of a string that a character is written as. -/
def pieceOf (c : Char) : Piece := if isNumbered c then .unit c.toNat else .char c

theorem hexUnit?_hexDigit :
    ∀ n < 0x20, hexUnit? '0' '0' (hexDigit (n / 16)) (hexDigit n) = some n := by decide

theorem readPieces_numbered {c : Char} (hc : c.toNat < 0x20) (done : List Piece) (s : List Char) :
    readPieces done ('\\' :: 'u' :: '0' :: '0' :: hexDigit (c.toNat / 16) ::
      hexDigit c.toNat :: s) = readPieces (.unit c.toNat :: done) s := by
  rw [readPieces, hexUnit?_hexDigit c.toNat hc]

/-- **A written character is one piece** to the reader, whatever stands after it. -/
theorem readPieces_escaped (c : Char) (done : List Piece) (s : List Char) :
    readPieces done (escaped c ++ s) = readPieces (pieceOf c :: done) s := by
  -- The letters are read back by computation; only the last two cases leave the character open.
  unfold escaped
  split_ifs with hquote hslash hfeed hreturn htab hback hform hcontrol
  · subst hquote; rfl
  · subst hslash; rfl
  · subst hfeed; rfl
  · subst hreturn; rfl
  · subst htab; rfl
  · subst hback; rfl
  · subst hform; rfl
  · have hn : isNumbered c = true := by simp [isNumbered, *]
    rw [pieceOf, if_pos hn]
    exact readPieces_numbered hcontrol done s
  · have hn : isNumbered c = false := by simp [isNumbered, hcontrol]
    rw [pieceOf, hn, List.singleton_append, readPieces]
    · simp [hcontrol, hslash]
    all_goals simp_all

theorem readPieces_flatMap (cs : List Char) (rest : List Char) (done : List Piece) :
    readPieces done (cs.flatMap escaped ++ '"' :: rest) =
      some (done.reverse ++ cs.map pieceOf, rest) := by
  induction cs generalizing done with
  | nil => simp [readPieces]
  | cons c cs ih =>
    rw [List.flatMap_cons, List.append_assoc, readPieces_escaped, ih]
    simp

theorem joinPieces?_pieceOf (c : Char) (done : List Char) (ps : List Piece) :
    joinPieces? done (pieceOf c :: ps) = joinPieces? (c :: done) ps := by
  unfold pieceOf
  split_ifs with hn
  · have hlt : c.toNat < 0x20 := by
      simp only [isNumbered, Bool.and_eq_true, decide_eq_true_eq] at hn
      exact hn.1.1.1.1.1
    have hhigh : isHigh c.toNat = false := by simp [isHigh]; omega
    have hlow : isLow c.toNat = false := by simp [isLow]; omega
    cases ps with
    | nil => simp [joinPieces?, hhigh, hlow]
    | cons p ps => cases p <;> simp [joinPieces?, hhigh, hlow]
  · rw [joinPieces?]

theorem joinPieces?_map (cs : List Char) (done : List Char) :
    joinPieces? done (cs.map pieceOf) = some (done.reverse ++ cs) := by
  induction cs generalizing done with
  | nil => simp [joinPieces?]
  | cons c cs ih =>
    rw [List.map_cons, joinPieces?_pieceOf, ih]
    simp

/-- **A written string is read up to its closing quote**, and as the string that was written. -/
theorem readString_append (s : String) (rest : List Char) :
    readString (s.toList.flatMap escaped ++ '"' :: rest) = some (.string s, rest) := by
  rw [readString, readPieces_flatMap, Option.map_some]
  dsimp only
  rw [List.reverse_nil, List.nil_append, joinPieces?_map]
  dsimp only
  rw [List.reverse_nil, List.nil_append, String.ofList_toList]

end Json
end Autograder
