import Mathlib.Data.List.Basic
import Wordweave.Json.Printer
import Wordweave.Json.Reader

/-!
# Wordweave — texts and numbers that are read back

A text is printed character by character, and each of its characters is read back in one step,
escaped or not (`stringBody_printChar`). So a text is read back whole up to its closing quote, and
leaves what stands behind it (`stringBody_print`).

The digits of a number do not tell where it ends. A number is read back if what follows it is
*quiet*: it does not begin with a digit, a point or the letter of an exponent (`number_print`). This
is said of integers of 64 bits; nothing is said of decimals.
-/

namespace Wordweave.Json.Reader

theorem ok_bind {ε α β : Type} (a : α) (f : α → Except ε β) : Except.ok a >>= f = f a := rfl

/-! ## Blanks -/

theorem skipSpacing_break (layout : Layout) (depth : Nat) (input : Glyphs) :
    skipSpacing ((layout.break depth).map some ++ input) = skipSpacing input := by
  unfold skipSpacing
  refine List.dropWhile_append_of_pos fun g hg => ?_
  obtain ⟨c, hc, rfl⟩ := List.mem_map.mp hg
  cases layout with
  | lines =>
    rcases List.mem_cons.mp hc with rfl | hblank
    · rfl
    · rw [List.eq_of_mem_replicate hblank]
      rfl
  | compact => exact nomatch hc

theorem skipSpacing_self {g : Option Char} (h : isSpacing g = false) (input : Glyphs) :
    skipSpacing (g :: input) = g :: input := by
  rw [skipSpacing, List.dropWhile_cons, h]
  rfl

/-! ## Texts -/

theorem hexDigit?_hexDigit : ∀ n < 16, Text.hexDigit? (hexDigit n) = some n := by decide

/-- The digits of a code of one byte. -/
theorem fourDigits_byte {n : Nat} (h : n < 256) (rest : Glyphs) :
    fourDigits (some '0' :: some '0' :: some (hexDigit (n / 16)) :: some (hexDigit (n % 16)) :: rest) =
      .ok (n, rest) := by
  have hzero : Text.hexDigit? '0' = some 0 := by decide
  have hhigh := hexDigit?_hexDigit (n / 16) (by omega)
  have hlow := hexDigit?_hexDigit (n % 16) (by omega)
  have hsum : 16 * (n / 16) + n % 16 = n := by omega
  simp [fourDigits, hzero, hhigh, hlow, hsum]

/-- **Characters.** A character of a text is read back in one step. -/
theorem stringBody_printChar (room : Nat) (done : List Char) (fuel : Nat) (c : Char)
    (rest : Glyphs) :
    stringBody (.keep room) false done (fuel + 1) ((printChar c).map some ++ rest) =
      stringBody (.keep room) false (c :: done) fuel rest := by
  unfold printChar
  -- the escapes of one letter come first, then the codes, and then what stands for itself
  by_cases hquote : c = '"'
  · subst hquote
    rfl
  by_cases hslash : c = '\\'
  · subst hslash
    rfl
  by_cases hline : c = '\n'
  · subst hline
    rfl
  by_cases hreturn : c = '\r'
  · subst hreturn
    rfl
  by_cases htab : c = '\t'
  · subst htab
    rfl
  by_cases hback : c = '\x08'
  · subst hback
    rfl
  by_cases hfeed : c = '\x0c'
  · subst hfeed
    rfl
  rw [if_neg hquote, if_neg hslash, if_neg hline, if_neg hreturn, if_neg htab, if_neg hback,
    if_neg hfeed]
  by_cases hcontrol : c.toNat < 0x20
  · rw [if_pos hcontrol]
    have hescape : escape (.keep room) (some 'u' :: some '0' :: some '0' ::
        some (hexDigit (c.toNat / 16)) :: some (hexDigit (c.toNat % 16)) :: rest) = .ok (c, rest) := by
      rw [escape, unicodeEscape, fourDigits_byte (by omega), ok_bind]
      -- the code of a control character is no half of a pair
      have hlow : ¬ (0xDC00 ≤ c.toNat ∧ c.toNat ≤ 0xDFFF) := by omega
      have hplain : c.toNat < 0xD800 ∨ 0xDFFF < c.toNat := .inl (by omega)
      simp only [Care.keeps, hlow, hplain, if_true, if_false, Char.ofNat_toNat]
      rfl
    show stringBody _ _ _ _ (some '\\' :: some 'u' :: some '0' :: some '0' :: _ :: _ :: rest) = _
    rw [stringBody, hescape]
  · rw [if_neg hcontrol]
    show stringBody _ _ _ _ (some c :: rest) = _
    rw [stringBody]
    · rw [if_neg hcontrol]
    · exact hquote
    · exact hslash

/-- **Texts.** A text is read back up to its closing quote. -/
theorem stringBody_print (room : Nat) (done text : List Char) {fuel : Nat} (h : text.length < fuel)
    (rest : Glyphs) :
    stringBody (.keep room) false done fuel ((text.flatMap printChar).map some ++ some '"' :: rest) =
      .ok (String.ofList (done.reverse ++ text), rest) := by
  obtain ⟨fuel, rfl⟩ : ∃ n, fuel = n + 1 := ⟨fuel - 1, by omega⟩
  -- each character takes one step, and the quote takes the last
  induction text generalizing done fuel with
  | nil =>
    rw [List.append_nil]
    rfl
  | cons c text ih =>
    rw [List.length_cons] at h
    obtain ⟨fuel, rfl⟩ : ∃ n, fuel = n + 1 := ⟨fuel - 1, by omega⟩
    rw [List.flatMap_cons, List.map_append, List.append_assoc, stringBody_printChar,
      ih (c :: done) fuel (by omega), List.reverse_cons, List.append_assoc, List.singleton_append]

/-! ## Numbers -/

/-- What does not go on with a number that stands in front of it. -/
def Quiet (rest : List Char) : Prop :=
  ∀ c ∈ rest.head?, c.isDigit = false ∧ c ≠ '.' ∧ c ≠ 'e' ∧ c ≠ 'E'

section Numbers

variable {rest : List Char} (hrest : Quiet rest)

include hrest

/-- Digits are read up to what follows them. -/
theorem leadingDigits_append {digits : List Char} (hdigits : ∀ c ∈ digits, c.isDigit = true)
    (done : List Nat) :
    leadingDigits done ((digits ++ rest).map some) =
      (done.reverse ++ digits.map fun c => c.toNat - '0'.toNat, rest.map some) := by
  induction digits generalizing done with
  | nil =>
    -- here the digits end, since what follows is quiet
    rw [List.nil_append, List.map_nil, List.append_nil]
    cases rest with
    | nil => rfl
    | cons c rest =>
      have hc : c.isDigit = false := (hrest c rfl).1
      rw [List.map_cons, leadingDigits, hc]
      rfl
  | cons c digits ih =>
    obtain ⟨hc, hothers⟩ := List.forall_mem_cons.mp hdigits
    rw [List.cons_append, List.map_cons, leadingDigits, if_pos hc, ih hothers, List.reverse_cons,
      List.append_assoc, List.map_cons, List.singleton_append]

theorem fractionDigits_quiet (care : Care) :
    fractionDigits care (rest.map some) = .ok (none, rest.map some) := by
  cases rest with
  | nil => rfl
  | cons c rest =>
    obtain ⟨-, hpoint, -⟩ := hrest c rfl
    rw [List.map_cons, fractionDigits]
    simpa using hpoint

theorem exponent_quiet (care : Care) : exponent care (rest.map some) = .ok (none, rest.map some) := by
  cases rest with
  | nil => rfl
  | cons c rest =>
    obtain ⟨-, -, hlower, hupper⟩ := hrest c rfl
    rw [List.map_cons, exponent]
    · simpa using hlower
    · simpa using hupper

end Numbers

theorem le_foldl_digits (value : Nat) (digits : List Nat) :
    value ≤ digits.foldl (10 * · + ·) value := by
  induction digits generalizing value with
  | nil => exact Nat.le_refl value
  | cons d digits ih =>
    have := ih (10 * value + d)
    rw [List.foldl_cons]
    omega

/-- Digits of a number of 64 bits all fit. -/
theorem fittingDigits_eq {value : Nat} {digits : List Nat}
    (h : digits.foldl (10 * · + ·) value ≤ wordLimit) :
    fittingDigits value digits = (digits.foldl (10 * · + ·) value, []) := by
  induction digits generalizing value with
  | nil => rfl
  | cons d digits ih =>
    rw [List.foldl_cons] at h
    rw [fittingDigits, if_pos (Nat.le_trans (le_foldl_digits ..) h), ih h, List.foldl_cons]

/-- The first digit of a number is not zero, if there is another one. -/
theorem head?_toDigits {n : Nat} (h : 0 < n) : (Nat.toDigits 10 n).head? ≠ some '0' := by
  induction n using Nat.strongRecOn with
  | ind n ih =>
    by_cases hless : n < 10
    · have hone : ∀ n < 10, 0 < n → Nat.digitChar n ≠ '0' := by decide
      rw [Nat.toDigits_of_lt_base hless, List.head?_cons]
      simpa using hone n hless h
    · rw [Nat.toDigits_of_base_le (by decide) (Nat.not_lt.mp hless),
        List.head?_append_of_ne_nil _ Nat.toDigits_ne_nil]
      exact ih (n / 10) (by omega) (by omega)

section Integers

variable {rest : List Char} (hrest : Quiet rest)

include hrest

/-- The digits of a number are read as they stand. -/
theorem wholeDigits_print (care : Care) (n : Nat) :
    wholeDigits care ((Nat.toDigits 10 n ++ rest).map some) =
      .ok ((Nat.toDigits 10 n).map fun c => c.toNat - '0'.toNat, rest.map some) := by
  have hdigits : ∀ c ∈ Nat.toDigits 10 n, c.isDigit = true :=
    fun c hc => Nat.isDigit_of_mem_toDigits (by decide) (by decide) hc
  rw [wholeDigits, someDigits, leadingDigits_append hrest hdigits]
  cases hn : Nat.toDigits 10 n with
  | nil => exact absurd hn Nat.toDigits_ne_nil
  | cons c digits =>
    cases digits with
    | nil =>
      simp only [List.map_cons, List.map_nil]
      cases c.toNat - '0'.toNat <;> rfl
    | cons d digits =>
      -- a number of two digits is not zero, so it does not begin with zero
      have hpos : 0 < n := by
        refine Nat.pos_of_ne_zero ?_
        rintro rfl
        exact nomatch hn
      have hfirst : c ≠ '0' := by simpa [hn] using head?_toDigits hpos
      have hc := Char.isDigit_iff_toNat.mp (hdigits c (by simp [hn]))
      have hcode : c.toNat ≠ '0'.toNat := fun heq => hfirst (Char.toNat_inj.mp heq)
      obtain ⟨k, hk⟩ : ∃ k, c.toNat - '0'.toNat = k + 1 := ⟨c.toNat - '0'.toNat - 1, by omega⟩
      simp only [List.map_cons, hk]
      rfl

/-- **Integers.** The digits of an integer of 64 bits are read as that integer. -/
theorem number_print (room : Nat) (negative : Bool) {n : Nat} (hn : n ≤ wordLimit)
    (hnegative : negative = true → 0 < n ∧ n ≤ 0x8000000000000000) :
    number (.keep room) negative ((Nat.toDigits 10 n ++ rest).map some) =
      .ok (.number (.int (if negative then -n else n)), rest.map some) := by
  have hvalue : ((Nat.toDigits 10 n).map fun c => c.toNat - '0'.toNat).foldl (10 * · + ·) 0 = n := by
    rw [List.foldl_map, ← Nat.ofDigitChars_eq_foldl, Nat.ofDigitChars_ten_toDigits]
  have hnumber : numberOf negative ((Nat.toDigits 10 n).map fun c => c.toNat - '0'.toNat) none none =
      .int (if negative then -n else n) := by
    rw [numberOf, fittingDigits_eq (by rwa [hvalue]), hvalue]
    cases negative with
    | false => rfl
    | true =>
      -- zero with a sign would be a decimal, and so would a greater number
      obtain ⟨hpos, hle⟩ := hnegative rfl
      simp [Nat.ne_of_gt hpos, hle]
  rw [number, wholeDigits_print hrest, ok_bind]
  simp only [fractionDigits_quiet hrest, exponent_quiet hrest, ok_bind, hnumber]
  rfl

end Integers

end Wordweave.Json.Reader
