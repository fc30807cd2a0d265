import Mathlib.Data.Set.Card
import Wordweave.Sound.Vowel

/-!
# Wordweave — runs of vowels

A run of vowels can be told without a scan, by where it begins and where it ends: all characters in
it are vowels, and neither the one in front of it nor the one behind it is (`VowelRun`). So it is
as long as it can be, and where it begins says where it ends (`VowelRun.stop_eq`).

The scan of a word passes its characters once and knows of those behind it only whether the last one
was a vowel. It lists the places at which runs begin, each of them once and from left to right.

Main results:

* `mem_vowelRuns_iff` — the places that the scan lists are those at which runs begin.
* `ncard_runsOf`      — it lists as many places as there are runs.
-/

namespace Wordweave.Sound

/-! ## Runs -/

/-- There is a vowel at a place of a word. -/
def VowelAt (word : List Char) (i : Nat) : Prop := (word[i]?).any isVowel = true

instance (word : List Char) (i : Nat) : Decidable (VowelAt word i) :=
  inferInstanceAs (Decidable (_ = true))

theorem vowelAt_zero {c : Char} {word : List Char} :
    VowelAt (c :: word) 0 ↔ isVowel c = true := Iff.rfl

theorem vowelAt_succ {c : Char} {word : List Char} {i : Nat} :
    VowelAt (c :: word) (i + 1) ↔ VowelAt word i := Iff.rfl

/-- Vowels are characters of the word. -/
theorem VowelAt.lt_length {word : List Char} {i : Nat} (h : VowelAt word i) : i < word.length := by
  by_contra hend
  have hnone : word[i]? = none := List.getElem?_eq_none (Nat.not_lt.mp hend)
  rw [VowelAt, hnone] at h
  exact nomatch h

/-- The characters from `start` up to `stop`, and not the one at `stop`, are a run of vowels that
cannot be made longer. -/
structure VowelRun (word : List Char) (start stop : Nat) : Prop where
  start_lt_stop : start < stop
  vowels : ∀ i, start ≤ i → i < stop → VowelAt word i
  opens : ∀ i, start = i + 1 → ¬ VowelAt word i
  closes : ¬ VowelAt word stop

namespace VowelRun

variable {word : List Char} {start start' stop stop' : Nat}

theorem first (h : VowelRun word start stop) : VowelAt word start :=
  h.vowels start (Nat.le_refl start) h.start_lt_stop

theorem stop_le (h : VowelRun word start stop) (h' : VowelRun word start stop') :
    stop ≤ stop' := by
  by_contra hlonger
  -- the run that ends first would have a vowel behind it
  have hstart := h'.start_lt_stop
  exact h'.closes (h.vowels stop' (by omega) (by omega))

/-- A run ends where its vowels end. -/
theorem stop_eq (h : VowelRun word start stop) (h' : VowelRun word start stop') : stop = stop' :=
  Nat.le_antisymm (h.stop_le h') (h'.stop_le h)

theorem start_le (h : VowelRun word start stop) (h' : VowelRun word start' stop) :
    start ≤ start' := by
  by_contra hlonger
  -- the run that begins last would have a vowel in front of it
  have hstop := h.start_lt_stop
  exact h.opens (start - 1) (by omega) (h'.vowels (start - 1) (by omega) (by omega))

/-- A run begins where its vowels begin. -/
theorem start_eq (h : VowelRun word start stop) (h' : VowelRun word start' stop) :
    start = start' :=
  Nat.le_antisymm (h.start_le h') (h'.start_le h)

theorem stop_le_length (h : VowelRun word start stop) : stop ≤ word.length := by
  have hstop := h.start_lt_stop
  have hlast := (h.vowels (stop - 1) (by omega) (by omega)).lt_length
  omega

end VowelRun

/-- From a vowel with none in front of it, a run goes on to the first character that is no vowel. -/
theorem exists_vowelRun {word : List Char} {start : Nat} (hfirst : VowelAt word start)
    (hopens : ∀ i, start = i + 1 → ¬ VowelAt word i) : ∃ stop, VowelRun word start stop := by
  have hends : ∃ stop, start ≤ stop ∧ ¬ VowelAt word stop := by
    refine ⟨word.length, Nat.le_of_lt hfirst.lt_length, fun h => ?_⟩
    exact Nat.lt_irrefl _ h.lt_length
  obtain ⟨hle, hcloses⟩ := Nat.find_spec hends
  refine ⟨Nat.find hends, ?_, ?_, hopens, hcloses⟩
  · have hne : Nat.find hends ≠ start := by
      intro hsame
      rw [hsame] at hcloses
      exact hcloses hfirst
    omega
  · intro i hi hlt
    by_contra hi'
    exact Nat.find_min hends hlt ⟨hi, hi'⟩

/-- Every vowel is in a run. -/
theorem VowelAt.exists_vowelRun {word : List Char} {i : Nat} (h : VowelAt word i) :
    ∃ start stop, VowelRun word start stop ∧ start ≤ i ∧ i < stop := by
  -- the run begins at the least place from which there are only vowels up to this one
  have hbegins : ∃ start, ∀ j, start ≤ j → j ≤ i → VowelAt word j := by
    refine ⟨i, fun j hij hji => ?_⟩
    rwa [Nat.le_antisymm hji hij]
  have hvowels := Nat.find_spec hbegins
  have hle : Nat.find hbegins ≤ i := by
    by_contra hgt
    refine Nat.find_min hbegins (Nat.not_le.mp hgt) fun j hij hji => ?_
    rwa [Nat.le_antisymm hji hij]
  have hopens : ∀ j, Nat.find hbegins = j + 1 → ¬ VowelAt word j := by
    intro j hj hvowel
    have hless : j < Nat.find hbegins := by omega
    refine Nat.find_min hbegins hless fun k hjk hki => ?_
    rcases Nat.eq_or_lt_of_le hjk with rfl | hlt
    · exact hvowel
    · exact hvowels k (by omega) hki
  obtain ⟨stop, hrun⟩ := Sound.exists_vowelRun (hvowels _ (Nat.le_refl _) hle) hopens
  refine ⟨_, stop, hrun, hle, ?_⟩
  by_contra hend
  have hstop := hrun.start_lt_stop
  exact hrun.closes (hvowels stop (by omega) (by omega))

/-! ## The scan -/

/-- A run begins at a place of a word, which stands behind a vowel if `inRun` says so. -/
def BeginsRun (inRun : Bool) (word : List Char) : Nat → Prop
  | 0 => VowelAt word 0 ∧ inRun = false
  | i + 1 => VowelAt word (i + 1) ∧ ¬ VowelAt word i

theorem beginsRun_cons_succ {inRun : Bool} {c : Char} {word : List Char} {i : Nat} :
    BeginsRun inRun (c :: word) (i + 1) ↔ BeginsRun (isVowel c) word i := by
  cases i with
  | zero => rw [BeginsRun, BeginsRun, vowelAt_succ, vowelAt_zero, Bool.not_eq_true]
  | succ i => rw [BeginsRun, BeginsRun, vowelAt_succ, vowelAt_succ]

theorem vowelRunsFrom_cons (place : Nat) (inRun : Bool) (c : Char) (word : List Char) :
    vowelRunsFrom place inRun (c :: word) =
      (if isVowel c && !inRun then [place] else []) ++
        vowelRunsFrom (place + 1) (isVowel c) word := by
  rw [vowelRunsFrom]
  split
  · next h =>
    have hvowel : isVowel c = true := (Bool.and_eq_true_iff.mp h).1
    rw [hvowel, List.singleton_append]
  · rw [List.nil_append]

/-- The scan lists the places at which runs begin. -/
theorem mem_vowelRunsFrom_iff {place i : Nat} {inRun : Bool} {word : List Char} :
    i ∈ vowelRunsFrom place inRun word ↔ ∃ k, i = place + k ∧ BeginsRun inRun word k := by
  induction word generalizing place inRun with
  | nil =>
    have hnone : ∀ k, ¬ BeginsRun inRun [] k := by
      intro k h
      cases k <;> exact absurd h.1.lt_length (Nat.not_lt_zero _)
    simp [vowelRunsFrom, hnone]
  | cons c word ih =>
    rw [vowelRunsFrom_cons, List.mem_append, ih]
    constructor
    · rintro (hhere | ⟨k, hk, hbegins⟩)
      · -- the run begins at this character
        rw [List.mem_ite_nil_right, Bool.and_eq_true, List.mem_singleton] at hhere
        obtain ⟨⟨hvowel, hout⟩, rfl⟩ := hhere
        exact ⟨0, rfl, hvowel, by simpa using hout⟩
      · exact ⟨k + 1, by omega, beginsRun_cons_succ.mpr hbegins⟩
    · rintro ⟨k, hk, hbegins⟩
      cases k with
      | zero =>
        obtain ⟨hvowel, hout⟩ := hbegins
        left
        rw [vowelAt_zero] at hvowel
        simp [hvowel, hout, hk]
      | succ k => exact .inr ⟨k, by omega, beginsRun_cons_succ.mp hbegins⟩

/-- The scan goes from left to right. -/
theorem pairwise_vowelRunsFrom (place : Nat) (inRun : Bool) (word : List Char) :
    (vowelRunsFrom place inRun word).Pairwise (· < ·) := by
  induction word generalizing place inRun with
  | nil => exact List.Pairwise.nil
  | cons c word ih =>
    rw [vowelRunsFrom_cons, List.pairwise_append]
    refine ⟨?_, ih _ _, ?_⟩
    · split
      · exact List.pairwise_singleton _ _
      · exact List.Pairwise.nil
    · intro i hi j hj
      rw [List.mem_ite_nil_right, List.mem_singleton] at hi
      -- what comes later in the word is listed later
      obtain ⟨k, hk, -⟩ := mem_vowelRunsFrom_iff.mp hj
      omega

/-- Between two runs there is a character that is in none, so at most every second character begins
one. -/
theorem two_mul_length_vowelRunsFrom_le (place : Nat) (inRun : Bool) (word : List Char) :
    2 * (vowelRunsFrom place inRun word).length ≤ word.length + (if inRun then 0 else 1) := by
  induction word generalizing place inRun with
  | nil => exact Nat.zero_le _
  | cons c word ih =>
    have hrest := ih (place + 1) (isVowel c)
    rw [vowelRunsFrom_cons, List.length_append, List.length_cons]
    split
    · next hbegins =>
      -- the next run does not begin right behind this character
      obtain ⟨hvowel, hout⟩ : isVowel c = true ∧ ¬ inRun = true := by simpa using hbegins
      rw [if_pos hvowel] at hrest
      rw [if_neg hout, List.length_singleton]
      omega
    · have hone : (if isVowel c then 0 else 1) ≤ 1 := by split <;> omega
      rw [List.length_nil]
      omega

/-- **The scan.** It lists the places at which runs begin. -/
theorem mem_vowelRuns_iff {word : List Char} {start : Nat} :
    start ∈ vowelRuns word ↔ ∃ stop, VowelRun word start stop := by
  have hbegins : BeginsRun false word start ↔
      VowelAt word start ∧ ∀ i, start = i + 1 → ¬ VowelAt word i := by
    cases start with
    | zero => simp [BeginsRun]
    | succ start => simp [BeginsRun]
  have hscan : start ∈ vowelRuns word ↔ BeginsRun false word start := by
    rw [vowelRuns, mem_vowelRunsFrom_iff]
    simp
  rw [hscan, hbegins]
  constructor
  · rintro ⟨hfirst, hopens⟩
    exact exists_vowelRun hfirst hopens
  · rintro ⟨stop, h⟩
    exact ⟨h.first, h.opens⟩

/-- The runs of a word, told by where they begin and where they stop. -/
def runsOf (word : List Char) : Set (Nat × Nat) := {run | VowelRun word run.1 run.2}

/-- A run is where it begins. -/
theorem injOn_fst_runsOf (word : List Char) : Set.InjOn Prod.fst (runsOf word) := by
  rintro ⟨start, stop⟩ h ⟨start', stop'⟩ h' hstart
  obtain rfl : start = start' := hstart
  obtain rfl : stop = stop' := VowelRun.stop_eq h h'
  rfl

theorem image_fst_runsOf (word : List Char) :
    Prod.fst '' runsOf word = ((vowelRuns word).toFinset : Set Nat) := by
  ext start
  simp [mem_vowelRuns_iff, runsOf]

theorem finite_runsOf (word : List Char) : (runsOf word).Finite := by
  refine Set.Finite.of_finite_image ?_ (injOn_fst_runsOf word)
  rw [image_fst_runsOf]
  exact Finset.finite_toSet _

/-- **The number of runs.** The scan lists as many places as there are runs. -/
theorem ncard_runsOf (word : List Char) : (runsOf word).ncard = (vowelRuns word).length := by
  have hnodup : (vowelRuns word).Nodup :=
    (pairwise_vowelRunsFrom 0 false word).imp fun h => Nat.ne_of_lt h
  rw [← (injOn_fst_runsOf word).ncard_image, image_fst_runsOf, Set.ncard_coe_finset,
    List.toFinset_card_of_nodup hnodup]

/-- There is more than one run just if two of them begin at different places. -/
theorem one_lt_length_vowelRuns_iff {word : List Char} :
    1 < (vowelRuns word).length ↔
      ∃ start stop start' stop', VowelRun word start stop ∧ VowelRun word start' stop' ∧
        start ≠ start' := by
  rw [← ncard_runsOf, Set.one_lt_ncard_iff (finite_runsOf word)]
  constructor
  · rintro ⟨⟨start, stop⟩, ⟨start', stop'⟩, h, h', hne⟩
    refine ⟨start, stop, start', stop', h, h', fun hstart => hne ?_⟩
    exact injOn_fst_runsOf word h h' hstart
  · rintro ⟨start, stop, start', stop', h, h', hne⟩
    exact ⟨(start, stop), (start', stop'), h, h', fun hsame => hne (congrArg Prod.fst hsame)⟩

end Wordweave.Sound
