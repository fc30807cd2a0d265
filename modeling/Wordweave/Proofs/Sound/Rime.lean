import Wordweave.Proofs.Sound.Syllable
import Wordweave.Proofs.Text.Lowercase
import Wordweave.Sound.Rime

/-!
# Wordweave — rimes and runs of vowels

Where the rime of a word begins can be told by its runs of vowels: with the last one, or with the one
before it if the last one is a lone `e` at the end of the word and not the only run. A word without
vowels is its own rime (`RimeAt`).

A word may be cut in front of a run, or in front of a letter that is no vowel. Then no run goes
across (`Parted`), and the runs behind the cut are those of what is left, moved by the length of what
is in front (`Parted.vowelRun_iff`). So a rime is its own rime, and a word keeps its rime when
something is put in front of it, unless a lone `e` is its only run: that of `the` is `e`, and that of
`bathe` is `athe`.

Main result:

* `rime_spec` — where the rime of a word begins, and of which other words it is the rime.
-/

namespace Wordweave.Sound

/-! ## Where a rime begins -/

/-- A run begins before some place, and no other one begins between them. -/
structure LastRunBefore (word : List Char) (place start : Nat) : Prop where
  begins : ∃ stop, VowelRun word start stop
  before : start < place
  last : ∀ start' stop, VowelRun word start' stop → start' < place → start' ≤ start

/-- The word ends in an `e` that is a run of its own. -/
structure LoneE (word : List Char) : Prop where
  letter : ['e'] <:+ word
  alone : VowelRun word (word.length - 1) word.length

/-- The rime of a word begins at a place. -/
inductive RimeAt (word : List Char) : Nat → Prop
  | whole (hnone : ∀ i, ¬ VowelAt word i) : RimeAt word 0
  | last {start : Nat} (hlast : LastRunBefore word word.length start)
      (hloud : ¬ (LoneE word ∧ EarlierRun word)) : RimeAt word start
  | earlier {start : Nat} (hlone : LoneE word)
      (hlast : LastRunBefore word (word.length - 1) start) : RimeAt word start

section Word

variable {word : List Char} {place start start' stop : Nat}

theorem LastRunBefore.start_eq (h : LastRunBefore word place start)
    (h' : LastRunBefore word place start') : start = start' := by
  obtain ⟨stop, hrun⟩ := h.begins
  obtain ⟨stop', hrun'⟩ := h'.begins
  exact Nat.le_antisymm (h'.last _ _ hrun h.before) (h.last _ _ hrun' h'.before)

/-- A run that does not begin with the last letter ends before it does, if that is a run. -/
theorem LoneE.stop_lt (h : LoneE word) (hrun : VowelRun word start stop)
    (hstart : start ≠ word.length - 1) : stop < word.length := by
  have hstop := hrun.stop_le_length
  by_contra hend
  obtain rfl : stop = word.length := by omega
  exact hstart (hrun.start_eq h.alone)

theorem LoneE.earlier (h : LoneE word) (hlast : LastRunBefore word (word.length - 1) start) :
    EarlierRun word := by
  obtain ⟨stop, hrun⟩ := hlast.begins
  exact ⟨start, stop, hrun, h.stop_lt hrun (Nat.ne_of_lt hlast.before)⟩

/-- A rime begins at one place. -/
theorem RimeAt.start_eq (h : RimeAt word start) (h' : RimeAt word start') : start = start' := by
  -- a word that has a run is not without vowels
  have hvowel : ∀ {place start}, LastRunBefore word place start →
      ¬ ∀ i, ¬ VowelAt word i := by
    intro place start hlast hnone
    obtain ⟨stop, hrun⟩ := hlast.begins
    exact hnone start hrun.first
  cases h with
  | whole hnone =>
    cases h' with
    | whole hnone' => rfl
    | last hlast' hloud' => exact absurd hnone (hvowel hlast')
    | earlier hlone' hlast' => exact absurd hnone (hvowel hlast')
  | last hlast hloud =>
    cases h' with
    | whole hnone' => exact absurd hnone' (hvowel hlast)
    | last hlast' hloud' => exact hlast.start_eq hlast'
    | earlier hlone' hlast' => exact absurd ⟨hlone', hlone'.earlier hlast'⟩ hloud
  | earlier hlone hlast =>
    cases h' with
    | whole hnone' => exact absurd hnone' (hvowel hlast)
    | last hlast' hloud' => exact absurd ⟨hlone, hlone.earlier hlast⟩ hloud'
    | earlier hlone' hlast' => exact hlast.start_eq hlast'

theorem RimeAt.le_length (h : RimeAt word start) : start ≤ word.length := by
  cases h with
  | whole hnone => exact Nat.zero_le _
  | last hlast hloud => exact Nat.le_of_lt hlast.before
  | earlier hlone hlast =>
    have hbefore := hlast.before
    omega

/-! ## The runs from the last one on -/

theorem pairwise_reverse_vowelRuns (word : List Char) :
    (vowelRuns word).reverse.Pairwise (· > ·) :=
  List.pairwise_reverse.mpr (pairwise_vowelRunsFrom 0 false word)

theorem mem_reverse_vowelRuns_iff :
    start ∈ (vowelRuns word).reverse ↔ ∃ stop, VowelRun word start stop := by
  rw [List.mem_reverse, mem_vowelRuns_iff]

/-- Of the runs in reverse, one is the last before a place if those listed first begin behind it. -/
theorem lastRunBefore_of_reverse (behind : List Nat) {before : List Nat}
    (hruns : (vowelRuns word).reverse = behind ++ start :: before) (hstart : start < place)
    (hbehind : ∀ i ∈ behind, place ≤ i) : LastRunBefore word place start := by
  have hdescending := pairwise_reverse_vowelRuns word
  rw [hruns] at hdescending
  refine ⟨mem_reverse_vowelRuns_iff.mp ?_, hstart, fun i stop hrun hi => ?_⟩
  · rw [hruns]
    exact List.mem_append_right _ (List.mem_cons_self ..)
  · have hin := mem_reverse_vowelRuns_iff.mpr ⟨stop, hrun⟩
    rw [hruns] at hin
    rcases List.mem_append.mp hin with hin | hin
    · have hplace := hbehind i hin
      omega
    · rcases List.mem_cons.mp hin with rfl | hin
      · exact Nat.le_refl i
      · have hothers := (List.pairwise_append.mp hdescending).2.1
        exact Nat.le_of_lt ((List.pairwise_cons.mp hothers).1 i hin)

/-- A run that begins with the last letter is a lone `e` if the letter is one. -/
theorem loneE_iff (hrun : VowelRun word (word.length - 1) stop) :
    LoneE word ↔ word[word.length - 1]? = some 'e' := by
  have hpos := hrun.first.lt_length
  have hstart := hrun.start_lt_stop
  have hle := hrun.stop_le_length
  obtain rfl : stop = word.length := by omega
  rw [← List.getLast?_eq_getElem?, ← List.singleton_suffix_iff_getLast?_eq_some]
  exact ⟨fun h => h.letter, fun h => ⟨h, hrun⟩⟩

/-- **Where a rime begins.** The scan finds the place. -/
theorem exists_rimeAt (word : List Char) : ∃ start, rimeStart? word = some start ∧
    RimeAt word start := by
  have hdescending := pairwise_reverse_vowelRuns word
  have hmem : ∀ {i}, i ∈ (vowelRuns word).reverse ↔ ∃ stop, VowelRun word i stop :=
    mem_reverse_vowelRuns_iff
  rw [rimeStart?]
  cases hruns : (vowelRuns word).reverse with
  | nil =>
    refine ⟨0, rfl, .whole fun i hi => ?_⟩
    obtain ⟨start, stop, hrun, -⟩ := hi.exists_vowelRun
    have hin := hmem.mpr ⟨stop, hrun⟩
    rw [hruns] at hin
    exact nomatch hin
  | cons last others =>
    rw [hruns] at hmem hdescending
    obtain ⟨stop, hrun⟩ := hmem.mp (List.mem_cons_self ..)
    have hlt : last < word.length := hrun.first.lt_length
    have hlast : LastRunBefore word word.length last :=
      lastRunBefore_of_reverse [] hruns hlt (List.forall_mem_nil _)
    have hfinal_of_lone : LoneE word → last = word.length - 1 := by
      intro hlone
      have hle := hlast.last _ _ hlone.alone (by omega)
      omega
    cases others with
    | nil =>
      refine ⟨last, rfl, .last hlast ?_⟩
      rintro ⟨hlone, start, stop, hearlier, hstop⟩
      -- the earlier run would be the lone `e`, which goes on to the end
      obtain rfl : start = last := by simpa using hmem.mpr ⟨stop, hearlier⟩
      have hstart := hearlier.start_lt_stop
      have hfinal := hfinal_of_lone hlone
      omega
    | cons previous others =>
      have hless : previous < last :=
        (List.pairwise_cons.mp hdescending).1 previous (List.mem_cons_self ..)
      simp only [if_neg (Nat.ne_of_gt (Nat.zero_lt_of_lt hlt))]
      by_cases hfinal : last = word.length - 1
      · obtain ⟨c, hc⟩ : ∃ c, word[last]? = some c := ⟨_, List.getElem?_eq_getElem hlt⟩
        have hlone : LoneE word ↔ c = 'e' := by
          rw [hfinal] at hrun hc
          rw [loneE_iff hrun, hc, Option.some.injEq]
        rw [if_pos hfinal, hc, Option.map_some]
        by_cases he : c = 'e'
        · rw [if_pos he]
          refine ⟨previous, rfl, .earlier (hlone.mpr he) ?_⟩
          refine lastRunBefore_of_reverse [last] hruns (by omega) ?_
          exact List.forall_mem_singleton.mpr (Nat.le_of_eq hfinal.symm)
        · rw [if_neg he]
          exact ⟨last, rfl, .last hlast fun h => he (hlone.mp h.1)⟩
      · rw [if_neg hfinal]
        exact ⟨last, rfl, .last hlast fun h => hfinal (hfinal_of_lone h.1)⟩

theorem rimeStart?_eq (h : RimeAt word start) : rimeStart? word = some start := by
  obtain ⟨start', hstart', h'⟩ := exists_rimeAt word
  rw [hstart', h.start_eq h']

end Word

/-! ## Words that are cut -/

/-- No run of vowels goes across the cut between two words. -/
def Parted (front word : List Char) : Prop :=
  ∀ i, front.length = i + 1 → VowelAt front i → ¬ VowelAt word 0

section Cut

variable {front word : List Char} {place start stop : Nat}

theorem vowelAt_append_left {i : Nat} (h : i < front.length) :
    VowelAt (front ++ word) i ↔ VowelAt front i := by
  rw [VowelAt, VowelAt, List.getElem?_append_left h]

theorem vowelAt_append_right {i : Nat} :
    VowelAt (front ++ word) (front.length + i) ↔ VowelAt word i := by
  rw [VowelAt, VowelAt, List.getElem?_append_right (Nat.le_add_right _ _),
    Nat.add_sub_cancel_left]

/-- A word may be cut in front of a run. -/
theorem VowelRun.parted (h : VowelRun (front ++ word) front.length stop) : Parted front word := by
  intro i hi hvowel
  exact absurd ((vowelAt_append_left (by omega)).mpr hvowel) (h.opens i hi)

namespace Parted

/-- The runs behind a cut are those of what is left. -/
theorem vowelRun_iff (h : Parted front word) :
    VowelRun (front ++ word) (front.length + start) (front.length + stop) ↔
      VowelRun word start stop := by
  constructor
  · intro hrun
    refine ⟨Nat.lt_of_add_lt_add_left hrun.start_lt_stop, fun i hi hlt => ?_, fun i hi => ?_, ?_⟩
    · exact vowelAt_append_right.mp (hrun.vowels (front.length + i) (by omega) (by omega))
    · exact mt vowelAt_append_right.mpr (hrun.opens (front.length + i) (by omega))
    · exact mt vowelAt_append_right.mpr hrun.closes
  · intro hrun
    refine ⟨Nat.add_lt_add_left hrun.start_lt_stop _, fun i hi hlt => ?_, fun i hi => ?_, ?_⟩
    · obtain ⟨k, rfl⟩ := Nat.exists_eq_add_of_le (Nat.le_of_add_right_le hi)
      exact vowelAt_append_right.mpr (hrun.vowels k (by omega) (by omega))
    · cases start with
      | zero =>
        -- the letter in front of the run is the last one before the cut
        rw [vowelAt_append_left (by omega)]
        exact fun hvowel => h i hi hvowel hrun.first
      | succ start =>
        obtain rfl : i = front.length + start := by omega
        exact mt vowelAt_append_right.mp (hrun.opens start rfl)
    · exact mt vowelAt_append_right.mp hrun.closes

theorem lastRunBefore_iff (h : Parted front word) :
    LastRunBefore (front ++ word) (front.length + place) (front.length + start) ↔
      LastRunBefore word place start := by
  -- a run behind the cut stops behind it as well
  have hcut : ∀ {start stop}, VowelRun (front ++ word) (front.length + start) stop →
      ∃ k, stop = front.length + k ∧ VowelRun word start k := by
    intro start stop hrun
    have hstop := hrun.start_lt_stop
    obtain ⟨k, rfl⟩ := Nat.exists_eq_add_of_le (show front.length ≤ stop by omega)
    exact ⟨k, rfl, h.vowelRun_iff.mp hrun⟩
  constructor
  · rintro ⟨⟨stop, hrun⟩, hbefore, hlast⟩
    obtain ⟨k, -, hrun⟩ := hcut hrun
    refine ⟨⟨k, hrun⟩, Nat.lt_of_add_lt_add_left hbefore, fun start' stop' hrun' hlt => ?_⟩
    have hle := hlast _ _ (h.vowelRun_iff.mpr hrun') (Nat.add_lt_add_left hlt _)
    exact Nat.le_of_add_le_add_left hle
  · rintro ⟨⟨stop, hrun⟩, hbefore, hlast⟩
    refine ⟨⟨_, h.vowelRun_iff.mpr hrun⟩, Nat.add_lt_add_left hbefore _,
      fun start' stop' hrun' hlt => ?_⟩
    -- a run in front of the cut begins before all those behind it
    by_cases hfront : start' < front.length
    · omega
    · obtain ⟨k, rfl⟩ := Nat.exists_eq_add_of_le (Nat.not_lt.mp hfront)
      obtain ⟨k', -, hbehind⟩ := hcut hrun'
      exact Nat.add_le_add_left (hlast _ _ hbehind (by omega)) _

theorem loneE_iff (h : Parted front word) (hne : word ≠ []) :
    LoneE (front ++ word) ↔ LoneE word := by
  have hpos := List.length_pos_iff.mpr hne
  have hlength : (front ++ word).length = front.length + word.length := List.length_append
  have hfinal : (front ++ word).length - 1 = front.length + (word.length - 1) := by omega
  have hletter : ['e'] <:+ front ++ word ↔ ['e'] <:+ word := by
    rw [List.singleton_suffix_iff_getLast?_eq_some, List.singleton_suffix_iff_getLast?_eq_some,
      List.getLast?_append_of_ne_nil front hne]
  constructor
  · rintro ⟨he, hrun⟩
    rw [hfinal, hlength] at hrun
    exact ⟨hletter.mp he, h.vowelRun_iff.mp hrun⟩
  · rintro ⟨he, hrun⟩
    refine ⟨hletter.mpr he, ?_⟩
    rw [hfinal, hlength]
    exact h.vowelRun_iff.mpr hrun

end Parted

/-- What is behind the cut is its own rime if the rime begins there. -/
theorem RimeAt.of_append (h : RimeAt (front ++ word) front.length) : RimeAt word 0 := by
  have hlength : (front ++ word).length = front.length + word.length := List.length_append
  generalize hstart : front.length = start at h
  cases h with
  | whole hnone =>
    obtain rfl := List.length_eq_zero_iff.mp hstart
    exact .whole hnone
  | last hlast hloud =>
    subst hstart
    obtain ⟨stop, hrun⟩ := hlast.begins
    rw [hlength] at hlast
    have hlast : LastRunBefore word word.length 0 := hrun.parted.lastRunBefore_iff.mp hlast
    refine .last hlast ?_
    -- the run at the front is the only one, so it is no earlier one
    rintro ⟨hlone, start', stop', hrun', hstop'⟩
    have hfirst := hlast.last _ _ hrun' (hrun'.first.lt_length)
    have hfinal := hlast.last _ _ hlone.alone (Nat.sub_lt hlast.before Nat.one_pos)
    obtain rfl : start' = word.length - 1 := by omega
    exact Nat.ne_of_lt hstop' (hrun'.stop_eq hlone.alone)
  | earlier hlone hlast =>
    -- both runs are behind the cut
    subst hstart
    obtain ⟨stop, hrun⟩ := hlast.begins
    have hbefore := hlast.before
    have hne : word ≠ [] := by
      rintro rfl
      rw [List.append_nil] at hbefore
      omega
    have hpos := List.length_pos_iff.mpr hne
    have hfinal : (front ++ word).length - 1 = front.length + (word.length - 1) := by omega
    rw [hfinal] at hlast
    exact .earlier ((hrun.parted.loneE_iff hne).mp hlone) (hrun.parted.lastRunBefore_iff.mp hlast)

/-- A rime stays where it is when something is put in front of the word, if there is a run that is not
a lone `e` at the end. -/
theorem RimeAt.append (h : RimeAt word start) (hparted : Parted front word)
    (hother : ∃ start stop, VowelRun word start stop ∧
      ¬ (LoneE word ∧ start = word.length - 1)) :
    RimeAt (front ++ word) (front.length + start) := by
  obtain ⟨start', stop', hrun', hnot⟩ := hother
  have hpos : 0 < word.length := Nat.zero_lt_of_lt hrun'.first.lt_length
  have hne : word ≠ [] := List.length_pos_iff.mp hpos
  have hlength : (front ++ word).length = front.length + word.length := List.length_append
  cases h with
  | whole hnone => exact absurd hrun'.first (hnone start')
  | last hlast hloud =>
    refine .last ?_ ?_
    · rw [hlength]
      exact hparted.lastRunBefore_iff.mpr hlast
    · rintro ⟨hlone, -⟩
      -- the other run is an earlier one in the word itself
      have hlone := (hparted.loneE_iff hne).mp hlone
      have hstop := hlone.stop_lt hrun' fun hfinal => hnot ⟨hlone, hfinal⟩
      exact hloud ⟨hlone, start', stop', hrun', hstop⟩
  | earlier hlone hlast =>
    have hfinal : (front ++ word).length - 1 = front.length + (word.length - 1) := by omega
    refine .earlier ((hparted.loneE_iff hne).mpr hlone) ?_
    rw [hfinal]
    exact hparted.lastRunBefore_iff.mpr hlast

end Cut

/-! ## Rimes -/

theorem rime?_eq_drop {word : String} {start : Nat}
    (h : RimeAt (Text.lowercaseChars word) start) :
    rime? word = some ((Text.lowercaseChars word).drop start) := by
  rw [rime?, rimeStart?_eq h, Option.bind_eq_bind, Option.bind_some, if_pos h.le_length]

theorem toList_rime {word : String} {start : Nat}
    (h : RimeAt (Text.lowercaseChars word) start) :
    (rime word).toList = (Text.lowercaseChars word).drop start := by
  rw [rime, rime?_eq_drop h, Option.getD_some, String.toList_ofList]

/-- Every word has a rime. -/
theorem rime?_eq (word : String) : rime? word = some (rime word).toList := by
  obtain ⟨start, -, h⟩ := exists_rimeAt (Text.lowercaseChars word)
  rw [rime?_eq_drop h, toList_rime h]

theorem rime_rime (word : String) : rime (rime word) = rime word := by
  obtain ⟨start, -, h⟩ := exists_rimeAt (Text.lowercaseChars word)
  have hrime := toList_rime h
  have hlower : Text.lowercaseChars (rime word) = (rime word).toList := by
    refine Text.lowercaseChars_eq_self fun c hc => ⟨word, ?_⟩
    rw [hrime] at hc
    exact List.mem_of_mem_drop hc
  -- the lowercase form is what is in front of the rime, and the rime
  have hcut : RimeAt ((Text.lowercaseChars word).take start ++ (Text.lowercaseChars word).drop start)
      ((Text.lowercaseChars word).take start).length := by
    rwa [List.take_append_drop, List.length_take, Nat.min_eq_left h.le_length]
  have hbegins : RimeAt (rime word).toList 0 := by
    rw [hrime]
    exact hcut.of_append
  rw [← hlower] at hbegins
  rw [← String.toList_inj, toList_rime hbegins, hlower, List.drop_zero]

theorem rime_append {front word : String} (hfront : Text.LowerCase front.toList)
    (hword : Text.LowerCase word.toList) (hopens : ¬ VowelAt word.toList 0)
    (hother : ∃ start stop, VowelRun word.toList start stop ∧
      ¬ (LoneE word.toList ∧ start = word.toList.length - 1)) :
    rime (front ++ word) = rime word := by
  have hboth : Text.LowerCase (front ++ word).toList := by
    intro c hc
    rw [String.toList_append] at hc
    exact (List.mem_append.mp hc).elim (hfront c) (hword c)
  have hlower := Text.lowercaseChars_eq_self hword
  have hlowerBoth := Text.lowercaseChars_eq_self hboth
  obtain ⟨start, -, h⟩ := exists_rimeAt word.toList
  have happend : RimeAt (front.toList ++ word.toList) (front.toList.length + start) :=
    h.append (fun _ _ _ => hopens) hother
  rw [← String.toList_append, ← hlowerBoth] at happend
  rw [← hlower] at h
  rw [← String.toList_inj, toList_rime happend, toList_rime h, hlower, hlowerBoth,
    String.toList_append, List.drop_length_add_append]

/-- A lone `e` does not stay the rime behind another run. -/
example : rime "the" = "e" ∧ rime ("ba" ++ "the") = "athe" := by decide +kernel

/-- **Rimes.** The rime of a word is what its lowercase form ends in from the last run of vowels on,
or from the run before that if the last one is a lone `e`; without vowels, it is all of the form. It
is its own rime. And a word in lowercase that does not begin with a vowel keeps its rime behind any
others, if it has a run of vowels besides a lone `e` at its end. -/
theorem rime_spec :
    (∀ word : String,
      (rime word).toList <:+ Text.lowercaseChars word ∧
      (∃ start, RimeAt (Text.lowercaseChars word) start ∧
        (rime word).toList = (Text.lowercaseChars word).drop start) ∧
      rime (rime word) = rime word) ∧
    ∀ front word : String, Text.LowerCase front.toList → Text.LowerCase word.toList →
      ¬ VowelAt word.toList 0 →
      (∃ start stop, VowelRun word.toList start stop ∧
        ¬ (LoneE word.toList ∧ start = word.toList.length - 1)) →
      rime (front ++ word) = rime word := by
  refine ⟨fun word => ?_, fun front word => rime_append⟩
  obtain ⟨start, -, h⟩ := exists_rimeAt (Text.lowercaseChars word)
  have hrime := toList_rime h
  refine ⟨?_, ⟨start, h, hrime⟩, rime_rime word⟩
  rw [hrime]
  exact List.drop_suffix start _

/-- A mistake rhymes with a take. Their rimes begin with the run before the `e`. -/
theorem rime_spec_mistake :
    Text.LowerCase "mis".toList ∧ Text.LowerCase "take".toList ∧ ¬ VowelAt "take".toList 0 ∧
      (VowelRun "take".toList 1 2 ∧
        ¬ (LoneE "take".toList ∧ 1 = "take".toList.length - 1)) ∧
      rime ("mis" ++ "take") = rime "take" ∧ rime (rime "take") = rime "take" ∧
      rime "take" = "ake" := by
  have hlower {word : String} (h : Text.lowercaseChars word = word.toList) :
      Text.LowerCase word.toList := fun c hc => ⟨word, h ▸ hc⟩
  have hfront : Text.LowerCase "mis".toList := hlower (by decide +kernel)
  have hword : Text.LowerCase "take".toList := hlower (by decide +kernel)
  have hletters : "take".toList = ['t', 'a', 'k', 'e'] := String.toList_ofList
  have hopens : ¬ VowelAt "take".toList 0 := by
    rw [hletters]
    decide
  have hrun : VowelRun "take".toList 1 2 := by
    rw [hletters]
    refine ⟨by decide, fun i hi hlt => ?_, fun i hi => ?_, by decide⟩
    · obtain rfl : i = 1 := by omega
      decide
    · obtain rfl : i = 0 := by omega
      decide
  have hother : ¬ (LoneE "take".toList ∧ 1 = "take".toList.length - 1) := by
    rw [hletters]
    exact fun h => absurd h.2 (by decide)
  obtain ⟨htake, hbehind⟩ := rime_spec
  exact ⟨hfront, hword, hopens, ⟨hrun, hother⟩,
    hbehind _ _ hfront hword hopens ⟨1, 2, hrun, hother⟩, (htake "take").2.2, by decide +kernel⟩

end Wordweave.Sound
