import Mathlib.Tactic.IntervalCases
import SearchFilter.Json.Printer
import SearchFilter.Json.Reader

/-!
# Reading strings in JSON

`readString` reads what `escapeChar` writes, one character at a time and whatever comes after it
(`readString_escapeChar`), so a string is read as it was written (`readString_flatMap_escapeChar`).
-/

namespace SearchFilter.Json

/-! ## One character -/

/-- A character that needs no escape is read as it is. -/
theorem readString_plain {c : Char} (hquote : c ≠ '"') (hbackslash : c ≠ '\\')
    (hprintable : 32 ≤ c.toNat) (after : List Char) :
    readString (c :: after) = consRead c (readString after) := by
  rw [readString.eq_def]
  split
  · next heq => cases heq
  · next heq => exact absurd (List.cons.inj heq).1 hquote
  · next heq => exact absurd (List.cons.inj heq).1 hbackslash
  · next heq => exact absurd (List.cons.inj heq).1 hbackslash
  · next heq =>
    cases heq
    rw [if_neg (by simp [hbackslash, Nat.not_lt.mpr hprintable])]

/-- A control character is written by its number, which has at most two hexadecimal digits. -/
theorem codeUnit?_hexNumeral {n : Nat} (h : n < 32) :
    ∃ a b c d, Text.hexNumeral 4 n = [a, b, c, d] ∧ codeUnit? a b c d = some n ∧
      loneChar n = Char.ofNat n ∧ isHighSurrogate n = false := by
  refine ⟨_, _, _, _, rfl, ?_⟩
  interval_cases n <;> decide

theorem readString_control {c : Char} (h : c.toNat < 32) (after : List Char) :
    readString (['\\', 'u'] ++ Text.hexNumeral 4 c.toNat ++ after) =
      consRead c (readString after) := by
  obtain ⟨x, y, z, w, hdigits, hunit, hlone, hhigh⟩ := codeUnit?_hexNumeral h
  rw [Char.ofNat_toNat] at hlone
  rw [hdigits]
  show readString ('\\' :: 'u' :: x :: y :: z :: w :: after) = _
  rw [readString, hunit]
  dsimp only
  split
  · next e f g h' rest =>
    -- The next character is written by its number too, and the two do not make a pair.
    cases hnext : codeUnit? e f g h' with
    | none => simp [readString, hnext, consRead, Except.map]
    | some low => simp only [hhigh, hlone, Bool.false_and, Bool.false_eq_true, if_false]
  · rw [hlone]

/-- What is written for a character is read as that character, whatever comes after it. -/
theorem readString_escapeChar (c : Char) (after : List Char) :
    readString (escapeChar c ++ after) = consRead c (readString after) := by
  rw [escapeChar]
  split_ifs with hmark hnewline hreturn htab hback hfeed hcontrol
  · rcases Bool.or_eq_true _ _ |>.mp hmark with hquote | hbackslash
    · rw [beq_iff_eq.mp hquote]
      rfl
    · rw [beq_iff_eq.mp hbackslash]
      rfl
  · rw [beq_iff_eq.mp hnewline]
    rfl
  · rw [beq_iff_eq.mp hreturn]
    rfl
  · rw [beq_iff_eq.mp htab]
    rfl
  · rw [← Char.ofNat_toNat c, hback]
    rfl
  · rw [← Char.ofNat_toNat c, hfeed]
    rfl
  · exact readString_control hcontrol after
  · simp only [Bool.or_eq_true, beq_iff_eq, not_or] at hmark
    exact readString_plain hmark.1 hmark.2 (Nat.le_of_not_lt hcontrol) after

/-! ## Strings -/

/-- A string is read as it was written, and what comes after it is left. -/
theorem readString_flatMap_escapeChar (cs rest : List Char) :
    readString (cs.flatMap escapeChar ++ '"' :: rest) = .ok (cs, rest) := by
  induction cs with
  | nil => rfl
  | cons c cs ih =>
    rw [List.flatMap_cons, List.append_assoc, readString_escapeChar, ih]
    rfl

theorem toList_string (s : String) :
    (string s).toList = '"' :: (s.toList.flatMap escapeChar ++ ['"']) := by
  rw [string, String.toList_ofList, List.cons_append]

end SearchFilter.Json
