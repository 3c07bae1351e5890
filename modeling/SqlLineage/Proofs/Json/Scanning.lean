import SqlLineage.Json.Reading
import SqlLineage.Proofs.Json.Spelling

/-!
# Scanning blanks, strings and numbers

What the scanners make of a text that spells a string or a number: they give it back and stop right
behind it.
-/

namespace SqlLineage.Json

open Text (Cursor)

variable {text rest : List Char} {offset : Nat}

/-! ## Blanks -/

theorem skipBlanks_cons_gap {c : Char} (hgap : isGap c) :
    skipBlanks ⟨c :: text, offset⟩ = skipBlanks ⟨text, offset + c.utf8Size⟩ := by
  change Cursor.skipWhile isGap _ = Cursor.skipWhile isGap _
  simp [Cursor.skipWhile, Cursor.takeWhile, Cursor.byteCount, hgap, Nat.add_assoc]

theorem skipBlanks_cons {c : Char} (hgap : isGap c = false) :
    skipBlanks ⟨c :: text, offset⟩ = ⟨c :: text, offset⟩ := by
  change Cursor.skipWhile isGap _ = _
  simp [Cursor.skipWhile, Cursor.takeWhile, Cursor.byteCount, hgap]

theorem skipBlanks_skipBlanks (cursor : Cursor) :
    skipBlanks (skipBlanks cursor) = skipBlanks cursor := by
  obtain ⟨text, offset⟩ := cursor
  induction text generalizing offset with
  | nil => rfl
  | cons c text ih =>
    by_cases hgap : isGap c
    · rw [skipBlanks_cons_gap hgap, ih]
    · rw [Bool.not_eq_true] at hgap
      rw [skipBlanks_cons hgap, skipBlanks_cons hgap]

theorem isGap_eq_false {c : Char} (hdigit : c.isDigit) : isGap c = false := by
  rw [Char.isDigit_iff_toNat] at hdigit
  simp only [isGap, Bool.or_eq_false_iff, decide_eq_false_iff_not]
  refine ⟨⟨⟨?_, ?_⟩, ?_⟩, ?_⟩ <;> rintro rfl <;> exact absurd hdigit (by decide)

/-! ## Strings -/

theorem hexDigits_control {n : Nat} (hn : n < 0x20) :
    hexDigits 4 n = ['0', '0', Nat.digitChar (n / 16), Nat.digitChar (n % 16)] := by
  decide +revert

theorem hexValue?_digitChar {n : Nat} (hn : n < 16) : hexValue? (Nat.digitChar n) = some n := by
  decide +revert

theorem fourHexDigits_control {c : Char} (hc : c.toNat < 0x20) :
    fourHexDigits ⟨hexDigits 4 c.toNat ++ text, offset⟩ = .ok (c.toNat, ⟨text, offset + 4⟩) := by
  have hzero : hexValue? '0' = some 0 := rfl
  have hhigh := hexValue?_digitChar (show c.toNat / 16 < 16 by omega)
  have hlow := hexValue?_digitChar (show c.toNat % 16 < 16 by omega)
  have hvalue : c.toNat / 16 * 16 + c.toNat % 16 = c.toNat := by omega
  rw [hexDigits_control hc]
  simp [fourHexDigits, hzero, hhigh, hlow, hvalue]

theorem escape_control {c : Char} (hc : c.toNat < 0x20) :
    escape ⟨'u' :: (hexDigits 4 c.toNat ++ text), offset⟩ = .ok (c, ⟨text, offset + 1 + 4⟩) := by
  have hdigits : fourHexDigits ⟨hexDigits 4 c.toNat ++ text, offset + 1⟩ =
      .ok (c.toNat, ⟨text, offset + 1 + 4⟩) := fourHexDigits_control hc
  have hsurrogate : ¬(0xDC00 ≤ c.toNat ∧ c.toNat ≤ 0xDFFF) := by omega
  have hplain : c.toNat < 0xD800 ∨ 0xDBFF < c.toNat := by omega
  change unicodeEscape ⟨hexDigits 4 c.toNat ++ text, offset + 1⟩ = _
  rw [unicodeEscape, hdigits]
  simp only [if_neg hsurrogate, if_pos hplain, Char.ofNat_toNat]

theorem readString_plain {c : Char} (hquote : c ≠ '"') (hslash : c ≠ '\\')
    (hcontrol : ¬c.toNat < 0x20) (done : List Char) (steps : Nat) :
    readString done (steps + 1) ⟨c :: text, offset⟩ =
      readString (c :: done) steps ⟨text, offset + c.utf8Size⟩ := by
  rw [readString]
  split
  next hend => exact absurd hend (List.cons_ne_nil _ _)
  next heq => exact absurd (List.cons.inj heq).1 hquote
  next heq => exact absurd (List.cons.inj heq).1 hslash
  next heq =>
    obtain ⟨rfl, rfl⟩ := List.cons.inj heq
    rw [if_neg hcontrol]
    rfl

theorem readString_escape {c : Char} {after : Cursor}
    (hescape : escape ⟨text, offset + 1⟩ = .ok (c, after)) (done : List Char) (steps : Nat) :
    readString done (steps + 1) ⟨'\\' :: text, offset⟩ = readString (c :: done) steps after := by
  have hsize : ('\\').utf8Size = 1 := rfl
  simp [readString, Cursor.next, hsize, hescape]

/-- A character is read as it was written. -/
theorem readString_escapeChar (c : Char) (text done : List Char) (steps offset : Nat) :
    ∃ stop, readString done (steps + 1) ⟨escapeChar c ++ text, offset⟩ =
      readString (c :: done) steps ⟨text, stop⟩ := by
  unfold escapeChar
  split_ifs with hquote hslash hback hfeed hline hreturn htab hcontrol
  · subst hquote; exact ⟨_, rfl⟩
  · subst hslash; exact ⟨_, rfl⟩
  · subst hback; exact ⟨_, rfl⟩
  · subst hfeed; exact ⟨_, rfl⟩
  · subst hline; exact ⟨_, rfl⟩
  · subst hreturn; exact ⟨_, rfl⟩
  · subst htab; exact ⟨_, rfl⟩
  · exact ⟨_, readString_escape (escape_control hcontrol) done steps⟩
  · exact ⟨_, readString_plain hquote hslash hcontrol done steps⟩

theorem readString_flatMap (chars rest done : List Char) {steps : Nat}
    (hsteps : chars.length < steps) (offset : Nat) :
    ∃ stop, readString done steps ⟨chars.flatMap escapeChar ++ '"' :: rest, offset⟩ =
      .ok (String.ofList (done.reverse ++ chars), ⟨rest, stop⟩) := by
  induction chars generalizing done steps offset with
  | nil =>
    obtain ⟨steps, rfl⟩ := Nat.exists_eq_add_one_of_ne_zero (Nat.ne_zero_of_lt hsteps)
    exact ⟨offset + 1, by rw [List.append_nil]; rfl⟩
  | cons c chars ih =>
    obtain ⟨steps, rfl⟩ := Nat.exists_eq_add_one_of_ne_zero (Nat.ne_zero_of_lt hsteps)
    obtain ⟨after, hchar⟩ := readString_escapeChar c (chars.flatMap escapeChar ++ '"' :: rest) done
      steps offset
    obtain ⟨stop, hrest⟩ := ih (c :: done) (Nat.lt_of_succ_lt_succ hsteps) after
    refine ⟨stop, ?_⟩
    rw [List.flatMap_cons, List.append_assoc, hchar, hrest]
    simp

theorem length_le_flatMap_escapeChar (chars : List Char) :
    chars.length ≤ (chars.flatMap escapeChar).length := by
  induction chars with
  | nil => exact Nat.le_refl 0
  | cons c chars ih =>
    have hchar : 1 ≤ (escapeChar c).length := by
      unfold escapeChar
      split_ifs <;> simp
    rw [List.flatMap_cons, List.length_append, List.length_cons]
    omega

/-- A quoted string is read back from behind its opening quote. -/
theorem readString_quoteBefore (string : String) (rest : List Char) {steps : Nat}
    (hsteps : (quoteBefore rest string).length ≤ steps) (offset : Nat) :
    ∃ stop, readString [] steps ⟨(quoteBefore rest string).tail, offset⟩ =
      .ok (string, ⟨rest, stop⟩) := by
  have hlength : string.toList.length < steps := by
    have := length_le_flatMap_escapeChar string.toList
    simp only [quoteBefore, List.length_cons, List.length_append] at hsteps
    omega
  obtain ⟨stop, hread⟩ := readString_flatMap string.toList rest [] hlength offset
  refine ⟨stop, ?_⟩
  simpa [quoteBefore] using hread

/-! ## Numbers -/

theorem takeWhile_digits {digits : List Char} (hdigits : ∀ c ∈ digits, c.isDigit)
    (hrest : EndsNumber rest) : (digits ++ rest).takeWhile Char.isDigit = digits := by
  rw [List.takeWhile_append_of_pos hdigits]
  cases rest with
  | nil => simp
  | cons c more =>
    have hc : c.isDigit = false := (hrest c rfl).1
    simp [hc]

theorem eq_digitChar {c : Char} (hdigit : c.isDigit) : ∃ n < 10, c = Nat.digitChar n := by
  rw [Char.isDigit_iff_toNat] at hdigit
  have hlow : 48 ≤ c.toNat := hdigit.1
  have hhigh : c.toNat ≤ 57 := hdigit.2
  have hchars : ∀ n < 10, Nat.digitChar n = Char.ofNat (n + 48) := by decide
  refine ⟨c.toNat - 48, by omega, ?_⟩
  rw [hchars _ (by omega), Nat.sub_add_cancel hlow, Char.ofNat_toNat]

theorem le_ofDigitChars (digits : List Char) (start : Nat) :
    start ≤ Nat.ofDigitChars 10 digits start := by
  induction digits generalizing start with
  | nil => exact Nat.le_refl _
  | cons c digits ih =>
    rw [Nat.ofDigitChars_cons]
    exact Nat.le_trans (by omega) (ih _)

theorem appendDigits_eq (digits : List Char) {start : Nat}
    (hfits : Nat.ofDigitChars 10 digits start < UInt64.size) (used : Nat) :
    appendDigits start (digits.map (fun c => c.toNat - '0'.toNat)) used =
      (Nat.ofDigitChars 10 digits start, used + digits.length, 0) := by
  induction digits generalizing start used with
  | nil => rfl
  | cons c digits ih =>
    rw [Nat.ofDigitChars_cons, Nat.mul_comm] at hfits ⊢
    have hstart := Nat.lt_of_le_of_lt (le_ofDigitChars digits _) hfits
    rw [List.map_cons, appendDigits, if_pos hstart, ih hfits, List.length_cons]
    congr 2
    omega

theorem digitChar_ne_zero {n : Nat} (hsmall : n < 10) (hn : n ≠ 0) : Nat.digitChar n ≠ '0' := by
  decide +revert

/-- Only zero is written with a zero in front. -/
theorem head_toDigits_ne {n : Nat} (hn : n ≠ 0) {digit : Char}
    (hdigit : digit ∈ (Nat.toDigits 10 n).head?) : digit ≠ '0' := by
  induction n using Nat.strongRecOn with
  | ind n ih =>
    by_cases hsmall : n < 10
    · rw [Nat.toDigits_of_lt_base hsmall] at hdigit
      have hdigit : digit = Nat.digitChar n := by simpa using hdigit.symm
      rw [hdigit]
      exact digitChar_ne_zero hsmall hn
    · rw [Nat.toDigits_of_base_le (by decide) (by omega)] at hdigit
      have hhead : digit ∈ (Nat.toDigits 10 (n / 10)).head? := by
        cases hdigits : Nat.toDigits 10 (n / 10) with
        | nil => exact absurd hdigits Nat.toDigits_ne_nil
        | cons first more => simpa [hdigits] using hdigit
      exact ih (n / 10) (by omega) (by omega) hhead

theorem takeDigits_append {digits : List Char} (hdigits : ∀ c ∈ digits, c.isDigit)
    (hrest : EndsNumber rest) (offset : Nat) :
    takeDigits ⟨digits ++ rest, offset⟩ =
      (digits.map (fun c => c.toNat - '0'.toNat), ⟨rest, offset + digits.length⟩) := by
  simp [takeDigits, takeWhile_digits hdigits hrest]

theorem peek_ne_of_endsNumber (hrest : EndsNumber rest) (offset : Nat) :
    (Cursor.mk rest offset).peek ≠ some '.' ∧ (Cursor.mk rest offset).peek ≠ some 'e' ∧
      (Cursor.mk rest offset).peek ≠ some 'E' := by
  refine ⟨fun h => ?_, fun h => ?_, fun h => ?_⟩
  · exact (hrest _ h).2.1 rfl
  · exact (hrest _ h).2.2.1 rfl
  · exact (hrest _ h).2.2.2 rfl

theorem readExponent_eq (hrest : EndsNumber rest) :
    readExponent ⟨rest, offset⟩ = .ok (0, ⟨rest, offset⟩) := by
  obtain ⟨-, hsmall, hlarge⟩ := peek_ne_of_endsNumber hrest offset
  rw [readExponent]
  split
  · contradiction
  · contradiction
  · rfl

theorem toDigits_eq_cons (n : Nat) :
    ∃ digit more, Nat.toDigits 10 n = digit :: more ∧ digit.isDigit := by
  obtain ⟨digit, more, hcons⟩ := List.exists_cons_of_ne_nil (Nat.toDigits_ne_nil (n := n) (b := 10))
  have hmem : digit ∈ Nat.toDigits 10 n := by simp [hcons]
  exact ⟨digit, more, hcons, Nat.isDigit_of_mem_toDigits (by decide) (by decide) hmem⟩

/-- A number of 64 bits is read back whole. -/
theorem readNumber_toDigits {n : Nat} (hn : n < UInt64.size) (hrest : EndsNumber rest)
    (offset : Nat) :
    ∃ stop, readNumber false ⟨Nat.toDigits 10 n ++ rest, offset⟩ = .ok (.nat n, ⟨rest, stop⟩) := by
  have hdigits : ∀ c ∈ Nat.toDigits 10 n, c.isDigit := fun c hc =>
    Nat.isDigit_of_mem_toDigits (by decide) (by decide) hc
  have htake := takeDigits_append hdigits hrest offset
  have hvalue : Nat.ofDigitChars 10 (Nat.toDigits 10 n) 0 = n := Nat.ofDigitChars_ten_toDigits
  have happend := appendDigits_eq (Nat.toDigits 10 n) (by rwa [hvalue]) 0
  rw [hvalue] at happend
  obtain ⟨first, more, hcons, hfirst⟩ := toDigits_eq_cons n
  have hpeek : (Cursor.mk (Nat.toDigits 10 n ++ rest) offset).peek = some first := by
    simp [Cursor.peek, hcons]
  have hzero : ¬(first = '0' ∧
      1 < ((Nat.toDigits 10 n).map (fun c => c.toNat - '0'.toNat)).length) := by
    rintro ⟨rfl, hlength⟩
    by_cases hn : n = 0
    · subst hn
      exact absurd hlength (by decide)
    · exact head_toDigits_ne hn (by simp [hcons]) rfl
  have hplain := peek_ne_of_endsNumber hrest (offset + (Nat.toDigits 10 n).length)
  refine ⟨offset + (Nat.toDigits 10 n).length, ?_⟩
  rw [readNumber, hpeek]
  simp only [hfirst, htake, happend, if_neg hzero]
  simp [hplain, readExponent_eq hrest, Json.nat]

end SqlLineage.Json
