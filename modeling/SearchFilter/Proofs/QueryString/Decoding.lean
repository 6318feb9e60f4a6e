import Mathlib.Data.List.Basic
import SearchFilter.QueryString.Decoding
import SearchFilter.Text.Percent

/-!
# Decoding what has been encoded

A part of a query string is decoded in steps, and each step undoes one step of encoding:

* a percent sign with two digits is the byte they were written for (`symbols_encodeByte`);
* the bytes of a character in UTF-8 are that character, whatever follows them
  (`charactersAfter_utf8`).  The cases are those of the number of bytes; in each the ranges that
  `lead` sets for the second byte have to admit it.

`decodePart_encode` puts them together: it needs that the characters that were not encoded are ASCII
and are neither the percent sign nor the plus sign, which have a meaning of their own.
-/

namespace SearchFilter.QueryString

open SearchFilter.Text

/-! ## Percent signs -/

theorem hexDigitValue?_toUpper_hexDigit {n : Nat} (h : n < 16) :
    hexDigitValue? (hexDigit n).toUpper = some n := by
  have hdigits : ∀ n : Fin 16, hexDigitValue? (hexDigit n).toUpper = some n.val := by decide
  exact hdigits ⟨n, h⟩

theorem hexNumeral_two (n : Nat) :
    hexNumeral 2 n = [hexDigit (n / 16 % 16), hexDigit (n % 16)] := rfl

theorem symbols_encodeByte (b : UInt8) (rest : List Char) :
    symbols (Percent.encodeByte b ++ rest) = .byte b :: symbols rest := by
  have hb : b.toNat < 256 := b.toNat_lt
  have hdigits : (hexNumeral 2 b.toNat).map Char.toUpper =
      [(hexDigit (b.toNat / 16)).toUpper, (hexDigit (b.toNat % 16)).toUpper] := by
    rw [hexNumeral_two, Nat.mod_eq_of_lt (show b.toNat / 16 < 16 by omega)]
    rfl
  have hbyte : escapedByte? (hexDigit (b.toNat / 16)).toUpper (hexDigit (b.toNat % 16)).toUpper =
      some b := by
    have hsum : 16 * (b.toNat / 16) + b.toNat % 16 = b.toNat := Nat.div_add_mod _ _
    rw [escapedByte?, hexDigitValue?_toUpper_hexDigit (by omega),
      hexDigitValue?_toUpper_hexDigit (by omega)]
    simp only [hsum, UInt8.ofNat_toNat]
  rw [Percent.encodeByte, hdigits, List.cons_append, List.cons_append, List.cons_append,
    List.nil_append, symbols, hbyte]

theorem symbols_encodeBytes (bytes : List UInt8) (rest : List Char) :
    symbols (bytes.flatMap Percent.encodeByte ++ rest) =
      bytes.map Symbol.byte ++ symbols rest := by
  induction bytes with
  | nil => rfl
  | cons b bytes ih =>
    rw [List.flatMap_cons, List.append_assoc, symbols_encodeByte, ih, List.map_cons,
      List.cons_append]

theorem symbols_of_ne {c : Char} (h : c ≠ '%') (rest : List Char) :
    symbols (c :: rest) = .ofChar c :: symbols rest := by
  rw [symbols]
  rintro _ _ _ rfl
  exact absurd rfl h

/-! ## UTF-8 -/

theorem lead_of_one {n : Nat} (h : n < 0x80) : lead n = .complete (Char.ofNat n) := by
  rw [lead, if_pos h]

theorem lead_of_two {n : Nat} (hleast : 2 ≤ n) (h : n < 0x20) :
    lead (n + 0xC0) = .begun ⟨n, 0x80, 0xBF, 0⟩ := by
  rw [lead, if_neg (by omega), if_neg (by omega), if_pos (by omega), Nat.add_sub_cancel]

theorem lead_of_three {n : Nat} (h : n < 0x10) :
    lead (n + 0xE0) =
      .begun ⟨n, if n = 0 then 0xA0 else 0x80, if n = 0x0D then 0x9F else 0xBF, 1⟩ := by
  have hfirst : n + 0xE0 = 0xE0 ↔ n = 0 := by omega
  have hlast : n + 0xE0 = 0xED ↔ n = 0x0D := by omega
  rw [lead, if_neg (by omega), if_neg (by omega), if_neg (by omega), if_pos (by omega),
    Nat.add_sub_cancel]
  simp only [hfirst, hlast]

theorem lead_of_four {n : Nat} (h : n < 5) :
    lead (n + 0xF0) =
      .begun ⟨n, if n = 0 then 0x90 else 0x80, if n = 4 then 0x8F else 0xBF, 2⟩ := by
  have hfirst : n + 0xF0 = 0xF0 ↔ n = 0 := by omega
  have hlast : n + 0xF0 = 0xF4 ↔ n = 4 := by omega
  rw [lead, if_neg (by omega), if_neg (by omega), if_neg (by omega), if_neg (by omega),
    if_pos (by omega), Nat.add_sub_cancel]
  simp only [hfirst, hlast]

/-- A byte that is admitted continues a character. -/
theorem charactersAfter_more {pending : Pending} {b : Nat} (hb : b < 256)
    (hleast : pending.least ≤ b) (hgreatest : b ≤ pending.greatest) {more : Nat}
    (hmore : pending.more = more + 1) (rest : List Symbol) :
    charactersAfter (some pending) (.byte (UInt8.ofNat b) :: rest) =
      charactersAfter (some ⟨pending.bits * 64 + b % 64, 0x80, 0xBF, more⟩) rest := by
  have hbyte : (UInt8.ofNat b).toNat = b := by simp [Nat.mod_eq_of_lt hb]
  rw [charactersAfter, hbyte, if_pos (by simp [hleast, hgreatest]), hmore]

/-- A byte that is admitted completes a character. -/
theorem charactersAfter_last {pending : Pending} {b : Nat} (hb : b < 256)
    (hleast : pending.least ≤ b) (hgreatest : b ≤ pending.greatest)
    (hmore : pending.more = 0) (rest : List Symbol) :
    charactersAfter (some pending) (.byte (UInt8.ofNat b) :: rest) =
      Char.ofNat (pending.bits * 64 + b % 64) :: charactersAfter none rest := by
  have hbyte : (UInt8.ofNat b).toNat = b := by simp [Nat.mod_eq_of_lt hb]
  rw [charactersAfter, hbyte, if_pos (by simp [hleast, hgreatest]), hmore]

theorem charactersAfter_lead {b : Nat} (hb : b < 256) {pending : Pending}
    (h : lead b = .begun pending) (rest : List Symbol) :
    charactersAfter none (.byte (UInt8.ofNat b) :: rest) = charactersAfter (some pending) rest := by
  have hbyte : (UInt8.ofNat b).toNat = b := by simp [Nat.mod_eq_of_lt hb]
  rw [charactersAfter, hbyte, h]

theorem toNat_val_cases (c : Char) : c.val.toNat < 0xD800 ∨ 0xDFFF < c.val.toNat ∧
    c.val.toNat < 0x110000 := c.valid

/-- The bytes of a character spell it, whatever comes after them. -/
theorem charactersAfter_utf8 (c : Char) (rest : List Symbol) :
    charactersAfter none ((String.utf8EncodeChar c).map Symbol.byte ++ rest) =
      c :: charactersAfter none rest := by
  have hvalid := toNat_val_cases c
  have hc : Char.ofNat c.val.toNat = c := Char.ofNat_toNat c
  rw [String.utf8EncodeChar]
  generalize c.val.toNat = v at *
  split_ifs with hone htwo hthree <;>
    simp only [List.map_cons, List.map_nil, List.cons_append, List.nil_append]
  · have hbyte : (UInt8.ofNat v).toNat = v := by
      simp [Nat.mod_eq_of_lt (show v < 256 by omega)]
    rw [charactersAfter, hbyte, lead_of_one (by omega), hc]
  · have hbits : v / 64 % 32 * 64 + (v % 64 + 128) % 64 = v := by omega
    rw [charactersAfter_lead (by omega) (lead_of_two (by omega) (by omega)),
      charactersAfter_last (by omega) (by simp) (by simp; omega) rfl]
    simp only [hbits, hc]
  · have hleast : (if v / 4096 % 16 = 0 then 0xA0 else 0x80) ≤ v / 64 % 64 + 128 := by
      split_ifs <;> omega
    have hgreatest : v / 64 % 64 + 128 ≤ if v / 4096 % 16 = 0x0D then 0x9F else 0xBF := by
      split_ifs <;> omega
    have hbits :
        (v / 4096 % 16 * 64 + (v / 64 % 64 + 128) % 64) * 64 + (v % 64 + 128) % 64 = v := by
      omega
    rw [charactersAfter_lead (by omega) (lead_of_three (by omega)),
      charactersAfter_more (by omega) hleast hgreatest rfl,
      charactersAfter_last (by omega) (by simp) (by simp; omega) rfl]
    simp only [hbits, hc]
  · have hleast : (if v / 262144 % 8 = 0 then 0x90 else 0x80) ≤ v / 4096 % 64 + 128 := by
      split_ifs <;> omega
    have hgreatest : v / 4096 % 64 + 128 ≤ if v / 262144 % 8 = 4 then 0x8F else 0xBF := by
      split_ifs <;> omega
    have hbits : ((v / 262144 % 8 * 64 + (v / 4096 % 64 + 128) % 64) * 64 +
        (v / 64 % 64 + 128) % 64) * 64 + (v % 64 + 128) % 64 = v := by
      omega
    rw [charactersAfter_lead (by omega) (lead_of_four (by omega)),
      charactersAfter_more (by omega) hleast hgreatest rfl,
      charactersAfter_more (by omega) (by simp) (by simp; omega) rfl,
      charactersAfter_last (by omega) (by simp) (by simp; omega) rfl]
    simp only [hbits, hc]

/-! ## Parts -/

theorem characters_utf8 (cs : List Char) :
    characters ((cs.flatMap String.utf8EncodeChar).map Symbol.byte) = cs := by
  rw [characters]
  induction cs with
  | nil => rfl
  | cons c cs ih => rw [List.flatMap_cons, List.map_append, charactersAfter_utf8, ih]

/-- The characters that may be left as they are. -/
def IsPlain (c : Char) : Prop :=
  c.toNat < 0x80 ∧ c ≠ '%' ∧ c ≠ '+'

theorem utf8EncodeChar_of_isPlain {c : Char} (h : IsPlain c) :
    (String.utf8EncodeChar c).map Symbol.byte = [Symbol.ofChar c] := by
  have hc : c.val.toNat ≤ 127 := Nat.le_of_lt_succ h.1
  rw [String.utf8EncodeChar, Symbol.ofChar, if_pos h.1]
  show List.map Symbol.byte (if c.val.toNat ≤ 127 then _ else _) = _
  rw [if_pos hc]
  rfl

variable {stays : Char → Bool}

/-- What holds of the characters that stay, of the percent sign and of the digits holds of all that
is encoded. -/
theorem forall_mem_encode {p : Char → Prop} {cs : List Char}
    (hstays : ∀ c ∈ cs, stays c = true → p c) (hsign : p '%')
    (hdigit : ∀ n < 16, p (hexDigit n).toUpper) : ∀ c ∈ Percent.encode stays cs, p c := by
  intro c hmem
  obtain ⟨c', hc', hc⟩ := List.mem_flatMap.mp hmem
  split at hc
  · next hstay =>
    cases List.mem_singleton.mp hc
    exact hstays c hc' hstay
  · obtain ⟨b, _, hb⟩ := List.mem_flatMap.mp hc
    rcases List.mem_cons.mp hb with rfl | hb
    · exact hsign
    · obtain ⟨digit, hdigits, rfl⟩ := List.mem_map.mp hb
      rw [hexNumeral_two, List.mem_pair] at hdigits
      rcases hdigits with rfl | rfl
      · exact hdigit _ (Nat.mod_lt _ (by decide))
      · exact hdigit _ (Nat.mod_lt _ (by decide))

/-- A mark that does not stay, is no percent sign and no digit does not occur in what is encoded. -/
theorem not_mem_encode {mark : Char} (hmark : stays mark = false) (hsign : mark ≠ '%')
    (hdigit : ∀ n < 16, mark ≠ (hexDigit n).toUpper) (cs : List Char) :
    mark ∉ Percent.encode stays cs := by
  intro hmem
  refine forall_mem_encode (p := (mark ≠ ·)) (fun c _ hstay => ?_) hsign hdigit mark hmem rfl
  rintro rfl
  rw [hmark] at hstay
  cases hstay

variable (hstays : ∀ c, stays c = true → IsPlain c)

include hstays

theorem symbols_encode (cs : List Char) :
    symbols (Percent.encode stays cs) = (cs.flatMap String.utf8EncodeChar).map Symbol.byte := by
  induction cs with
  | nil => rfl
  | cons c cs ih =>
    rw [Percent.encode, List.flatMap_cons, List.flatMap_cons, List.map_append, ← ih,
      Percent.encode]
    split
    · next hc =>
      rw [List.singleton_append, symbols_of_ne (hstays c hc).2.1,
        utf8EncodeChar_of_isPlain (hstays c hc), List.singleton_append]
    · rw [symbols_encodeBytes]

/-- A part that has been encoded is decoded to what it was. -/
theorem decodePart_encode (cs : List Char) : decodePart (Percent.encode stays cs) = cs := by
  have hmark : stays '+' = false := by
    cases h : stays '+' with
    | false => rfl
    | true => exact absurd rfl (hstays '+' h).2.2
  have hplus : '+' ∉ Percent.encode stays cs := not_mem_encode hmark (by decide) (by decide) cs
  have hsame : (Percent.encode stays cs).map (fun c => if c == '+' then ' ' else c) =
      Percent.encode stays cs := by
    conv_rhs => rw [← List.map_id (Percent.encode stays cs)]
    refine List.map_congr_left fun c hc => if_neg ?_
    rw [beq_iff_eq]
    exact fun h => hplus (h ▸ hc)
  rw [decodePart, hsame, symbols_encode hstays, characters_utf8]

end SearchFilter.QueryString
