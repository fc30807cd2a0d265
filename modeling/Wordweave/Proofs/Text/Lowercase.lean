import Mathlib.Data.List.Basic
import Wordweave.Text.Lowercase

/-!
# Wordweave — what stays in lowercase

The map of lowercase forms moves some code points and leaves all others where they are. None of the
places to which it moves them is in a run that it moves (`apart_images`), nor is any other
character that lower-casing puts into a text. So what has been put into lowercase stays as it is, and
with it every text that is made of the same characters, whatever words they stand in now: the sigma
that depends on its place is a capital, and there is none left.

The runs of the map are read from a text. To compare all of them with each other they are taken from
its words one after the other (`words_eq`).

Main results:

* `lowercaseChars_eq_self` — a text of characters that occur in lowercase forms is its own.
* `lowercase_lowercase`    — so is a lowercase form.
-/

namespace Wordweave.Text

/-! ## Words -/

/-- The words of a text, of which `word` has been read in reverse. -/
def wordsFrom (word : List Char) : List Char → List (List Char)
  | [] => if word.isEmpty then [] else [word.reverse]
  | c :: rest =>
    if c.isWhitespace then
      (if word.isEmpty then [] else [word.reverse]) ++ wordsFrom [] rest
    else wordsFrom (c :: word) rest

-- The reading of `words` goes on from the word that is being read and those that are done, both in
-- reverse.

def endWord : List Char × List (List Char) → List (List Char)
  | (word, done) => if word.isEmpty then done else word.reverse :: done

def readWord (reading : List Char × List (List Char)) (c : Char) :
    List Char × List (List Char) :=
  if c.isWhitespace then ([], endWord reading) else (c :: reading.1, reading.2)

/-- Read on from anywhere, the words that are done come before those that follow. -/
theorem endWord_foldl (word text : List Char) (done : List (List Char)) :
    (endWord (text.foldl readWord (word, done))).reverse = done.reverse ++ wordsFrom word text := by
  have hend : ∀ (word : List Char) (done : List (List Char)), (endWord (word, done)).reverse =
      done.reverse ++ if word.isEmpty then [] else [word.reverse] := by
    intro word done
    cases word with
    | nil => exact (List.append_nil _).symm
    | cons c word => exact List.reverse_cons
  induction text generalizing word done with
  | nil => exact hend word done
  | cons c text ih =>
    rw [List.foldl_cons, readWord, wordsFrom]
    by_cases hblank : c.isWhitespace
    · rw [if_pos hblank, if_pos hblank, ih, hend, List.append_assoc]
    · rw [if_neg hblank, if_neg hblank, ih]

theorem words_eq (text : String) : words text = wordsFrom [] text.toList :=
  endWord_foldl [] text.toList []

/-! ## Runs that have no code point in common -/

theorem Run.mem_codes {r : Run} {n : Nat} (h : r.contains n = true) : n ∈ r.codes := by
  simp only [contains, Bool.and_eq_true, decide_eq_true_iff, beq_iff_eq] at h
  obtain ⟨⟨hlow, hhigh⟩, hstep⟩ := h
  -- it is reached by whole steps from the lowest one
  have hsteps : (n - r.low) / r.step * r.step = n - r.low :=
    Nat.div_mul_cancel (Nat.dvd_of_mod_eq_zero hstep)
  have hbound : (n - r.low) / r.step ≤ (r.high - r.low) / r.step :=
    Nat.div_le_div_right (by omega)
  refine List.mem_map.mpr ⟨(n - r.low) / r.step, ?_, ?_⟩
  · exact List.mem_range.mpr (Nat.lt_succ_of_le hbound)
  · rw [hsteps]
    omega

/-- Whether two runs have no code point in common. Most of them do not even overlap. -/
def Run.apart (r r' : Run) : Bool :=
  r.high.blt r'.low || r'.high.blt r.low || r.codes.all fun n => !r'.contains n

theorem Run.not_contains_of_apart {r r' : Run} (hapart : r.apart r' = true) {n : Nat}
    (h : r.contains n = true) : r'.contains n = false := by
  rw [apart, Bool.or_eq_true, Bool.or_eq_true, Nat.blt_eq, Nat.blt_eq, List.all_eq_true] at hapart
  rcases hapart with (hbefore | hbehind) | hcodes
  · simp only [contains, Bool.and_eq_true, decide_eq_true_iff] at h
    have hlow : ¬ r'.low ≤ n := by omega
    simp [contains, hlow]
  · simp only [contains, Bool.and_eq_true, decide_eq_true_iff] at h
    have hhigh : ¬ n ≤ r'.high := by omega
    simp [contains, hhigh]
  · simpa using hcodes n (Run.mem_codes h)

/-- The run to which a shift moves its own. -/
def Shift.images (s : Shift) : Run := ⟨s.target, s.target + (s.run.high - s.run.low), s.run.step⟩

theorem Shift.contains_images {s : Shift} {n : Nat} (h : s.run.contains n = true) :
    s.images.contains (s.apply n) = true := by
  simp only [Run.contains, Bool.and_eq_true, decide_eq_true_iff] at h ⊢
  obtain ⟨⟨hlow, hhigh⟩, hstep⟩ := h
  refine ⟨⟨Nat.le_add_right _ _, ?_⟩, ?_⟩
  · simp only [Shift.apply, Shift.images]
    omega
  · rw [Shift.apply, Shift.images, Nat.add_sub_cancel_left]
    exact hstep

/-! ## Code points that are moved -/

/-- Lower-casing puts something else for a character, if that has this code point. The capital `I`
with a dot is not in the map. -/
def Moved (n : Nat) : Prop := n = 'İ'.toNat ∨ ∃ s ∈ lowercaseMap.shifts, s.run.contains n = true

/-- The runs to which the map moves others stay where they are. -/
theorem apart_images : (lowercaseMap.shifts.all fun s =>
    s.images.apart ⟨'İ'.toNat, 'İ'.toNat, 1⟩ &&
      lowercaseMap.shifts.all fun s' => s.images.apart s'.run) = true := by
  unfold lowercaseMap CaseMap.ofText
  -- the characters of the text are written out, so that they need not be decoded from its bytes
  rw [words_eq, String.toList_ofList]
  decide +kernel

/-- The first run of the map is that of the capitals of ASCII. The others are behind ASCII. -/
theorem exists_shifts : ∃ target others,
    lowercaseMap.shifts = ⟨⟨'A'.toNat, 'Z'.toNat, 1⟩, target⟩ :: others ∧
      ∀ s ∈ others, 0x80 ≤ s.run.low := by
  unfold lowercaseMap CaseMap.ofText
  rw [words_eq, String.toList_ofList]
  refine ⟨_, _, rfl, ?_⟩
  decide +kernel

theorem moved_iff_of_lt {n : Nat} (h : n < 0x80) :
    Moved n ↔ 'A'.toNat ≤ n ∧ n ≤ 'Z'.toNat := by
  obtain ⟨target, others, hshifts, hbehind⟩ := exists_shifts
  rw [Moved, hshifts]
  constructor
  · rintro (rfl | ⟨s, hs, hmoved⟩)
    · exact absurd h (by decide)
    · simp only [Run.contains, Bool.and_eq_true, decide_eq_true_iff] at hmoved
      rcases List.mem_cons.mp hs with rfl | hother
      · exact hmoved.1
      · have hlow := hbehind s hother
        omega
  · rintro ⟨hlow, hhigh⟩
    refine .inr ⟨_, List.mem_cons_self .., ?_⟩
    simp only [Run.contains, Bool.and_eq_true, decide_eq_true_iff, Nat.mod_one]
    exact ⟨⟨hlow, hhigh⟩, rfl⟩

/-- In ASCII just the capitals are moved, and they do not become such. -/
theorem moved_ascii {n : Nat} (h : n < 0x80) :
    (¬ Moved n → (Char.ofNat n).toLower = Char.ofNat n) ∧
      ¬ Moved (Char.ofNat n).toLower.toNat := by
  have hletters : ∀ n < 0x80,
      (¬ ('A'.toNat ≤ n ∧ n ≤ 'Z'.toNat) → (Char.ofNat n).toLower = Char.ofNat n) ∧
        (Char.ofNat n).toLower.toNat < 0x80 ∧
        ¬ ('A'.toNat ≤ (Char.ofNat n).toLower.toNat ∧
          (Char.ofNat n).toLower.toNat ≤ 'Z'.toNat) := by
    decide +kernel
  obtain ⟨hsame, hascii, hsmall⟩ := hletters n h
  rw [moved_iff_of_lt h, moved_iff_of_lt hascii]
  exact ⟨hsame, hsmall⟩

/-- The sigmas and the dot that stand in for capitals are not moved, and the capital sigma is. -/
theorem moved_special : Moved 'Σ'.toNat ∧ ¬ Moved 'σ'.toNat ∧ ¬ Moved 'ς'.toNat ∧
    ¬ Moved '\u0307'.toNat := by
  unfold Moved lowercaseMap CaseMap.ofText
  rw [words_eq, String.toList_ofList]
  decide +kernel

theorem not_moved_apply {s : Shift} (hs : s ∈ lowercaseMap.shifts) {n : Nat}
    (h : s.run.contains n = true) : ¬ Moved (s.apply n) := by
  have himage := Shift.contains_images h
  obtain ⟨hdotted, hruns⟩ := Bool.and_eq_true_iff.mp (List.all_eq_true.mp apart_images s hs)
  rintro (hmoved | ⟨s', hs', hmoved⟩)
  · have hnot := Run.not_contains_of_apart hdotted himage
    rw [hmoved] at hnot
    exact absurd hnot (by decide)
  · have hnot := Run.not_contains_of_apart (List.all_eq_true.mp hruns s' hs') himage
    rw [hmoved] at hnot
    exact absurd hnot (by decide)

theorem not_moved_ofNat {n : Nat} (h : ¬ Moved n) : ¬ Moved (Char.ofNat n).toNat := by
  rw [Char.ofNat]
  by_cases hvalid : n.isValidChar
  · rw [dif_pos hvalid]
    exact h
  · -- no character is there, and the first of all stands in for it
    rw [dif_neg hvalid, moved_iff_of_lt (by decide)]
    decide

/-- No character becomes one that is moved. -/
theorem not_moved_of_mem_lowercaseChar {c d : Char} (h : d ∈ lowercaseChar c) :
    ¬ Moved d.toNat := by
  unfold lowercaseChar at h
  split at h
  · next hascii =>
    obtain rfl := List.mem_singleton.mp h
    have hlower := (moved_ascii hascii).2
    rwa [Char.ofNat_toNat] at hlower
  · split at h
    · rcases List.mem_cons.mp h with rfl | hdot
      · exact (moved_ascii (by decide : 'i'.toNat < 0x80)).2
      · obtain rfl := List.mem_singleton.mp hdot
        exact moved_special.2.2.2
    · next hdotted =>
      rw [List.mem_singleton.mp h, CaseMap.apply]
      cases hfound : lowercaseMap.shifts.find? (·.run.contains c.toNat) with
      | none =>
        rintro (hsame | ⟨s, hs, hmoved⟩)
        · exact hdotted (Char.toNat_inj.mp hsame)
        · exact List.find?_eq_none.mp hfound s hs hmoved
      | some s =>
        have hcontains : s.run.contains c.toNat = true := by simpa using List.find?_some hfound
        exact not_moved_ofNat (not_moved_apply (List.mem_of_find?_eq_some hfound) hcontains)

theorem lowercaseChar_eq_self {c : Char} (h : ¬ Moved c.toNat) : lowercaseChar c = [c] := by
  unfold lowercaseChar
  by_cases hascii : c.toNat < 0x80
  · have hlower := (moved_ascii hascii).1 h
    rw [Char.ofNat_toNat] at hlower
    rw [if_pos hascii, hlower]
  · have hdotted : c ≠ 'İ' := by
      rintro rfl
      exact h (.inl rfl)
    have hnone : lowercaseMap.shifts.find? (·.run.contains c.toNat) = none :=
      List.find?_eq_none.mpr fun s hs hmoved => h (.inr ⟨s, hs, hmoved⟩)
    rw [if_neg hascii, if_neg hdotted, CaseMap.apply, hnone]

/-! ## Texts -/

/-- A character has at most two in its place. -/
theorem length_lowercaseChar_le (c : Char) : (lowercaseChar c).length ≤ 2 := by
  unfold lowercaseChar
  split
  · exact Nat.le_succ 1
  split
  · exact Nat.le_refl 2
  · exact Nat.le_succ 1

theorem length_lowercaseAfter_le (before text : List Char) :
    (lowercaseAfter before text).length ≤ 2 * text.length := by
  induction text generalizing before with
  | nil => exact Nat.zero_le _
  | cons c text ih =>
    rw [lowercaseAfter, List.length_append, List.length_cons]
    have hrest := ih (c :: before)
    -- a sigma has one letter in its place, whichever it is
    have himage : (if c = 'Σ' then
        if reachesCased before && !reachesCased text then ['ς'] else ['σ']
      else lowercaseChar c).length ≤ 2 := by
      split
      · split <;> exact Nat.le_succ 1
      · exact length_lowercaseChar_le c
    omega

theorem length_lowercaseChars_le (text : String) :
    (lowercaseChars text).length ≤ 2 * text.length := by
  rw [← String.length_toList]
  exact length_lowercaseAfter_le [] text.toList

/-- The characters of a text all occur in lowercase forms. -/
def LowerCase (text : List Char) : Prop := ∀ c ∈ text, ∃ other, c ∈ lowercaseChars other

theorem not_moved_of_mem_lowercaseAfter {before text : List Char} {d : Char}
    (h : d ∈ lowercaseAfter before text) : ¬ Moved d.toNat := by
  obtain ⟨-, hmedial, hfinal, -⟩ := moved_special
  induction text generalizing before with
  | nil => exact nomatch h
  | cons c text ih =>
    rw [lowercaseAfter] at h
    rcases List.mem_append.mp h with himage | hrest
    · split at himage
      · split at himage
        · rwa [List.mem_singleton.mp himage]
        · rwa [List.mem_singleton.mp himage]
      · exact not_moved_of_mem_lowercaseChar himage
    · exact ih hrest

theorem lowercaseAfter_eq_self {before text : List Char} (h : ∀ c ∈ text, ¬ Moved c.toNat) :
    lowercaseAfter before text = text := by
  induction text generalizing before with
  | nil => rfl
  | cons c text ih =>
    obtain ⟨hfirst, hothers⟩ := List.forall_mem_cons.mp h
    -- no letter looks at its neighbours
    have hsigma : c ≠ 'Σ' := by
      rintro rfl
      exact hfirst moved_special.1
    rw [lowercaseAfter, ih hothers, lowercaseChar_eq_self hfirst]
    simp only [if_neg hsigma, List.singleton_append]

/-- **What is in lowercase.** A text is its own lowercase form if its characters all occur in
lowercase forms. -/
theorem lowercaseChars_eq_self {text : String} (h : LowerCase text.toList) :
    lowercaseChars text = text.toList := by
  refine lowercaseAfter_eq_self fun c hc => ?_
  obtain ⟨other, hother⟩ := h c hc
  exact not_moved_of_mem_lowercaseAfter hother

theorem lowercase_lowercase (text : String) : lowercase (lowercase text) = lowercase text := by
  have hlower : LowerCase (lowercase text).toList := by
    intro c hc
    rw [lowercase, String.toList_ofList] at hc
    exact ⟨text, hc⟩
  rw [lowercase, lowercaseChars_eq_self hlower, String.ofList_toList]

end Wordweave.Text
