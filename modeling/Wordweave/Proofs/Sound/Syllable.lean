import Wordweave.Filter
import Wordweave.Proofs.Sound.VowelRun
import Wordweave.Proofs.Text.Lowercase

/-!
# Wordweave — syllables and runs of vowels

A word has a syllable for each of its runs of vowels, except that a final `e` may be silent: if it is
a run of its own, if it does not come after an `l`, and if there is a run before it (`SilentE`).

The count does not look for the run to which a final `e` belongs. It looks at the letter in front of
it and makes an exception for `l` and for another `e` alone, so an `e` that ends a longer run, as in
`movie`, takes a syllable away as well (`JoinedE`).

Syllables are counted by a number without bound. A term has no more of them than characters, so a
word of 32 bits would do for a term of fewer than `2 ^ 32` characters, and a filter would accept the
same terms (`SyllableBounds.accepts_eq`).

Main results:

* `countSyllables_eq`     — the syllables of a word by its runs, and what a joined `e` takes away.
* `countSyllables_movie`  — a word in which a run of vowels goes uncounted.
-/

namespace Wordweave.Sound

/-! ## A final e -/

/-- There is a run of vowels before the last letters of a word. -/
def EarlierRun (word : List Char) : Prop :=
  ∃ start stop, VowelRun word start stop ∧ stop < word.length

/-- The word ends in an `e` that is a run of its own, does not come after an `l`, and is not the only
run. -/
structure SilentE (word : List Char) : Prop where
  letter : ['e'] <:+ word
  alone : VowelRun word (word.length - 1) word.length
  not_after_l : ¬ ['l', 'e'] <:+ word
  earlier : EarlierRun word

/-- The word ends in an `e` after another vowel, and they are not the only run. -/
structure JoinedE (word : List Char) : Prop where
  joined : ∃ c, isVowel c = true ∧ c ≠ 'e' ∧ [c, 'e'] <:+ word
  earlier : EarlierRun word

/-! ## The end of a word -/

theorem endsWith_iff {text ending : List Char} : endsWith text ending = true ↔ ending <:+ text := by
  rw [endsWith, List.isPrefixOf_iff_prefix, List.reverse_prefix]

theorem pair_suffix_iff {front : List Char} {a b c d : Char} :
    [a, b] <:+ front ++ [c, d] ↔ a = c ∧ b = d := by
  constructor
  · rintro ⟨other, h⟩
    have hpair : [a, b] = [c, d] := (List.append_inj' h rfl).2
    simpa using hpair
  · rintro ⟨rfl, rfl⟩
    exact List.suffix_append front [a, b]

section Ending

variable {front : List Char} {c : Char}

theorem vowelAt_final : VowelAt (front ++ [c, 'e']) (front.length + 1) := by
  simp [VowelAt, isVowel]

theorem vowelAt_before_final :
    VowelAt (front ++ [c, 'e']) front.length ↔ isVowel c = true := by
  simp [VowelAt]

/-- A final `e` is a run of its own just if no vowel is in front of it. -/
theorem vowelRun_final_iff :
    VowelRun (front ++ [c, 'e']) (front.length + 1) (front.length + 2) ↔ isVowel c = false := by
  constructor
  · intro h
    have hopens := h.opens front.length rfl
    rw [vowelAt_before_final] at hopens
    simpa using hopens
  · intro hc
    refine ⟨Nat.lt_succ_self _, ?_, ?_, ?_⟩
    · intro i hi hlt
      obtain rfl : i = front.length + 1 := by omega
      exact vowelAt_final
    · intro i hi
      obtain rfl : front.length = i := by omega
      rw [vowelAt_before_final, hc]
      exact Bool.false_ne_true
    · intro h
      have hlt := h.lt_length
      simp at hlt

/-- The run of a final `e` and an earlier one are two runs. -/
theorem one_lt_length_of_earlier (h : EarlierRun (front ++ [c, 'e'])) :
    1 < (vowelRuns (front ++ [c, 'e'])).length := by
  obtain ⟨start, stop, hrun, hstop⟩ := h
  obtain ⟨start', stop', hlast, hle, hlt⟩ := (@vowelAt_final front c).exists_vowelRun
  refine one_lt_length_vowelRuns_iff.mpr ⟨start, stop, start', stop', hrun, hlast, ?_⟩
  rintro rfl
  -- the last run ends with the word, and the earlier one before it
  have hsame := hrun.stop_eq hlast
  simp only [List.length_append, List.length_cons, List.length_nil] at hstop
  omega

end Ending

/-- If there are two runs, one of them is before the last letters. -/
theorem earlier_of_one_lt_length {word : List Char} (h : 1 < (vowelRuns word).length) :
    EarlierRun word := by
  obtain ⟨start, stop, start', stop', hrun, hrun', hne⟩ := one_lt_length_vowelRuns_iff.mp h
  have hstop := hrun.stop_le_length
  have hstop' := hrun'.stop_le_length
  by_contra hnone
  -- otherwise both would end with the word, and would be one run
  have hend : stop = word.length := by
    by_contra hearly
    exact hnone ⟨start, stop, hrun, by omega⟩
  have hend' : stop' = word.length := by
    by_contra hearly
    exact hnone ⟨start', stop', hrun', by omega⟩
  rw [hend] at hrun
  rw [hend'] at hrun'
  exact hne (hrun.start_eq hrun')

/-- A word that ends in an `e` and has an earlier run has a letter in front of the `e`. -/
theorem exists_front_of_earlier {word : List Char} (he : ['e'] <:+ word) (h : EarlierRun word) :
    ∃ front c, word = front ++ [c, 'e'] := by
  obtain ⟨init, rfl⟩ := he
  rcases List.eq_nil_or_concat init with rfl | ⟨front, c, rfl⟩
  · -- a run is not shorter than a letter
    obtain ⟨start, stop, hrun, hstop⟩ := h
    have hstart := hrun.start_lt_stop
    simp only [List.nil_append, List.length_cons, List.length_nil] at hstop
    omega
  · exact ⟨front, c, by simp⟩

/-! ## Counting -/

/-- What the count takes for a silent letter, by the letter in front of it. -/
theorem endsInSilentE_pair (front : List Char) (c : Char) :
    endsInSilentE (front ++ [c, 'e']) = true ↔ c ≠ 'l' ∧ c ≠ 'e' := by
  have hletter : endsWith (front ++ [c, 'e']) ['e'] = true :=
    endsWith_iff.mpr ⟨front ++ [c], by simp⟩
  have hpair (a : Char) : endsWith (front ++ [c, 'e']) [a, 'e'] = true ↔ a = c := by
    rw [endsWith_iff, pair_suffix_iff, and_iff_left rfl]
  simp only [endsInSilentE, hletter, Bool.true_and, Bool.and_eq_true, Bool.not_eq_true',
    Bool.eq_false_iff, ne_eq, hpair, eq_comm (b := c)]

theorem silentE_pair_iff {front : List Char} {c : Char} (h : EarlierRun (front ++ [c, 'e'])) :
    SilentE (front ++ [c, 'e']) ↔ isVowel c = false ∧ c ≠ 'l' := by
  have halone := @vowelRun_final_iff front c
  constructor
  · intro hsilent
    have hrun := hsilent.alone
    simp only [List.length_append, List.length_cons, List.length_nil] at hrun
    refine ⟨halone.mp hrun, ?_⟩
    rintro rfl
    exact hsilent.not_after_l (pair_suffix_iff.mpr ⟨rfl, rfl⟩)
  · rintro ⟨hc, hl⟩
    refine ⟨⟨front ++ [c], by simp⟩, ?_, ?_, h⟩
    · simpa using halone.mpr hc
    · intro hle
      exact hl (pair_suffix_iff.mp hle).1.symm

theorem joinedE_pair_iff {front : List Char} {c : Char} (h : EarlierRun (front ++ [c, 'e'])) :
    JoinedE (front ++ [c, 'e']) ↔ isVowel c = true ∧ c ≠ 'e' := by
  constructor
  · rintro ⟨⟨d, hd, hne, hpair⟩, -⟩
    obtain rfl : d = c := (pair_suffix_iff.mp hpair).1
    exact ⟨hd, hne⟩
  · rintro ⟨hc, hne⟩
    exact ⟨⟨c, hc, hne, pair_suffix_iff.mpr ⟨rfl, rfl⟩⟩, h⟩

/-- The count takes away one syllable just for a silent letter and for a joined one. -/
theorem drops_iff {word : List Char} :
    (1 < (vowelRuns word).length ∧ endsInSilentE word = true) ↔ SilentE word ∨ JoinedE word := by
  by_cases hgood : ['e'] <:+ word ∧ EarlierRun word
  · obtain ⟨he, hearlier⟩ := hgood
    obtain ⟨front, c, rfl⟩ := exists_front_of_earlier he hearlier
    rw [and_iff_right (one_lt_length_of_earlier hearlier), endsInSilentE_pair,
      silentE_pair_iff hearlier, joinedE_pair_iff hearlier]
    -- a vowel is not an `l`, and what is not a vowel is not an `e`
    cases hc : isVowel c with
    | true =>
      have hl : c ≠ 'l' := by
        rintro rfl
        exact absurd hc (by decide)
      simp [hl]
    | false =>
      have he : c ≠ 'e' := by
        rintro rfl
        exact absurd hc (by decide)
      simp [he]
  · -- all of them ask for a final `e` and an earlier run
    refine iff_of_false ?_ ?_
    · rintro ⟨hlength, hsilent⟩
      rw [endsInSilentE, Bool.and_eq_true, Bool.and_eq_true] at hsilent
      exact hgood ⟨endsWith_iff.mp hsilent.1.1, earlier_of_one_lt_length hlength⟩
    · rintro (hsilent | hjoined)
      · exact hgood ⟨hsilent.letter, hsilent.earlier⟩
      · obtain ⟨c, -, -, hpair⟩ := hjoined.joined
        exact hgood ⟨(List.suffix_cons c ['e']).trans hpair, hjoined.earlier⟩

open Classical in
/-- A word has a syllable for each of its runs, less one for a silent letter and for a joined one. -/
theorem syllablesOf_add (word : List Char) :
    syllablesOf word + (if SilentE word ∨ JoinedE word then 1 else 0) = (runsOf word).ncard := by
  have hcondition : (decide (1 < (vowelRuns word).length) && endsInSilentE word) = true ↔
      SilentE word ∨ JoinedE word := by
    rw [Bool.and_eq_true, decide_eq_true_iff, drops_iff]
  rw [ncard_runsOf, syllablesOf]
  by_cases hdrops : SilentE word ∨ JoinedE word
  · -- there is more than one run to take from
    have hlength := (drops_iff.mpr hdrops).1
    rw [if_pos hdrops, if_pos (hcondition.mpr hdrops)]
    omega
  · rw [if_neg hdrops, if_neg fun h => hdrops (hcondition.mp h), Nat.add_zero]

/-- A term has no more syllables than characters: its lowercase form is at most twice as long, and
at most every second character of it begins a run. -/
theorem countSyllables_le (term : String) : countSyllables term ≤ term.length := by
  -- what is silent only takes away
  have hruns : countSyllables term ≤ (vowelRuns (Text.lowercaseChars term)).length := by
    rw [countSyllables, syllablesOf]
    split
    · exact Nat.sub_le ..
    · exact Nat.le_refl _
  have hlower := Text.length_lowercaseChars_le term
  have hsecond : 2 * (vowelRuns (Text.lowercaseChars term)).length ≤
      (Text.lowercaseChars term).length + 1 := two_mul_length_vowelRunsFrom_le 0 false _
  omega

open Classical in
/-- **Syllables.** A term has as many syllables as its lowercase form has runs of vowels, less one if
this form ends in a silent `e`. If it ends in an `e` that is joined to other vowels, and has an
earlier run, then it is counted as one syllable less than it has runs. There are never more syllables
than characters. -/
theorem countSyllables_eq (term : String) :
    (¬ JoinedE (Text.lowercaseChars term) →
      countSyllables term + (if SilentE (Text.lowercaseChars term) then 1 else 0) =
        (runsOf (Text.lowercaseChars term)).ncard) ∧
    (JoinedE (Text.lowercaseChars term) →
      countSyllables term + 1 = (runsOf (Text.lowercaseChars term)).ncard) ∧
    countSyllables term ≤ term.length := by
  have hcount : countSyllables term + (if SilentE (Text.lowercaseChars term) ∨
      JoinedE (Text.lowercaseChars term) then 1 else 0) =
      (runsOf (Text.lowercaseChars term)).ncard := syllablesOf_add _
  refine ⟨fun hjoined => ?_, fun hjoined => ?_, countSyllables_le term⟩
  · simpa only [hjoined, or_false] using hcount
  · simpa only [hjoined, or_true, if_true] using hcount

open Classical in
/-- The `ie` of a movie is a run, its `e` is not silent, and it is not counted. -/
theorem countSyllables_movie :
    ¬ (countSyllables "movie" + (if SilentE (Text.lowercaseChars "movie") then 1 else 0) =
      (runsOf (Text.lowercaseChars "movie")).ncard) := by
  have hword : Text.lowercaseChars "movie" = ['m', 'o', 'v', 'i', 'e'] := by decide +kernel
  have hcount : countSyllables "movie" = 1 := by decide +kernel
  rw [hword, hcount]
  have hruns : (vowelRuns ['m', 'o', 'v', 'i', 'e']).length = 2 := by decide
  -- the `e` has a vowel in front of it, so it is no run of its own
  have hloud : ¬ SilentE ['m', 'o', 'v', 'i', 'e'] := by
    intro hsilent
    have hopens := hsilent.alone.opens 3
    exact hopens rfl (by decide)
  rw [ncard_runsOf, hruns, if_neg hloud]
  decide

end Wordweave.Sound

namespace Wordweave

/-- The syllables of a term of fewer than `2 ^ 32` characters may be counted by words of 32 bits:
they are within the bounds of a filter just if such a count is. -/
theorem SyllableBounds.accepts_eq (bounds : SyllableBounds) {term : String}
    (h : term.length < 2 ^ 32) :
    bounds.accepts term =
      (bounds.least.all (· ≤ UInt32.ofNat (Sound.countSyllables term)) &&
        bounds.most.all (UInt32.ofNat (Sound.countSyllables term) ≤ ·)) := by
  have hlt : Sound.countSyllables term < 2 ^ 32 :=
    Nat.lt_of_le_of_lt (Sound.countSyllables_le term) h
  have hword : (UInt32.ofNat (Sound.countSyllables term)).toNat = Sound.countSyllables term :=
    UInt32.toNat_ofNat_of_lt' hlt
  simp only [accepts, UInt32.le_iff_toNat_le, hword]

end Wordweave
