import Wordweave.Proofs.Text.Utf8
import Wordweave.Term

/-!
# Wordweave — halves of a term

A seam counts characters, and a term is cut at a byte. The byte is found by a walk over the places
where characters begin, with the end of the text to fall back on (`cutByte`), and a cut succeeds
just at the bytes that lie between two characters or at an end (`isSome_cutAt?_iff`). The two meet
because the byte is as far from the beginning as the characters before the seam are large
(`cutByte_eq`), whatever their sizes.

So the sides of a seam are the characters before it and those after it (`halves_of_seam`). This
holds of every term, as a seam lies within its text. One that is asked for beyond the end is moved
to the end, and one that is marked by a bar counts the characters in front of the bar.

Main result:

* `Term.halves_partition` — the halves make up the term, and the cut between them is where the
  seam says.
-/

namespace Wordweave.Term

/-! ## Places of characters -/

theorem utf8ByteSize_ofList_cons (c : Char) (text : List Char) :
    (String.ofList (c :: text)).utf8ByteSize =
      c.utf8Size + (String.ofList text).utf8ByteSize := by
  rw [← List.singleton_append, String.ofList_append, String.utf8ByteSize_append,
    ← String.singleton_eq_ofList, String.utf8ByteSize_singleton]

theorem getElem?_charStarts (start n : Nat) (text : List Char) :
    (charStarts start text)[n]? =
      if n < text.length then some (start + (String.ofList (text.take n)).utf8ByteSize)
      else none := by
  -- behind a character the walk goes on from a later start
  induction text generalizing start n with
  | nil => rfl
  | cons c text ih =>
    cases n with
    | zero => simp [charStarts]
    | succ n =>
      rw [charStarts, List.getElem?_cons_succ, ih, List.take_succ_cons, List.length_cons,
        utf8ByteSize_ofList_cons]
      simp [Nat.add_assoc]

/-- The byte at which the character at a place begins, or at which a text ends. -/
theorem getD_charStarts (n : Nat) (text : List Char) :
    (charStarts 0 text)[n]?.getD (String.ofList text).utf8ByteSize =
      (String.ofList (text.take n)).utf8ByteSize := by
  rw [getElem?_charStarts]
  split
  · rw [Option.getD_some, Nat.zero_add]
  · next hend => rw [Option.getD_none, List.take_of_length_le (Nat.not_lt.mp hend)]

/-- The byte of a cut is as far from the beginning as the characters before the seam are large. -/
theorem cutByte_eq (t : Term) (seam : Nat) :
    t.cutByte seam = (String.ofList (t.value.toList.take seam)).utf8ByteSize := by
  rw [cutByte, ← getD_charStarts, String.ofList_toList]

/-! ## Cuts -/

theorem cutAt?_cons (c : Char) (byte : Nat) (text : List Char) :
    cutAt? (c.utf8Size + byte) (c :: text) =
      (cutAt? byte text).map fun (left, right) => (c :: left, right) := by
  obtain ⟨size, hsize⟩ : ∃ size, c.utf8Size = size + 1 :=
    Nat.exists_eq_add_one.mpr c.utf8Size_pos
  rw [hsize, show size + 1 + byte = size + byte + 1 by omega, cutAt?, hsize,
    if_pos (by omega), show size + byte + 1 - (size + 1) = byte by omega]

/-- A text is cut behind any number of its characters. -/
theorem cutAt?_take (n : Nat) (text : List Char) :
    cutAt? (String.ofList (text.take n)).utf8ByteSize text = some (text.take n, text.drop n) := by
  induction n generalizing text with
  | zero =>
    rw [List.take_zero, List.drop_zero, String.ofList_nil, String.utf8ByteSize_empty]
    cases text <;> rfl
  | succ n ih =>
    cases text with
    | nil => rfl
    | cons c text =>
      rw [List.take_succ_cons, List.drop_succ_cons, utf8ByteSize_ofList_cons, cutAt?_cons, ih,
        Option.map_some]

/-- A cut leaves two texts that make up the whole, the first as large as the cut says. -/
theorem cutAt?_eq_some_iff {byte : Nat} {text left right : List Char} :
    cutAt? byte text = some (left, right) ↔
      text = left ++ right ∧ byte = (String.ofList left).utf8ByteSize := by
  constructor
  · intro h
    fun_induction cutAt? byte text generalizing left with
    | case1 text =>
      obtain ⟨rfl, rfl⟩ : [] = left ∧ text = right := by simpa using h
      exact ⟨rfl, by rw [String.ofList_nil, String.utf8ByteSize_empty]⟩
    | case2 => exact nomatch h
    | case3 byte c rest hle ih =>
      -- the character fits in front of the cut, so it is the first on the left
      obtain ⟨⟨front, behind⟩, hcut, hsides⟩ := Option.map_eq_some_iff.mp h
      obtain ⟨rfl, rfl⟩ : c :: front = left ∧ behind = right := by simpa using hsides
      obtain ⟨hrest, hbyte⟩ := ih hcut
      refine ⟨by rw [hrest, List.cons_append], ?_⟩
      rw [utf8ByteSize_ofList_cons, ← hbyte]
      omega
    | case4 => exact nomatch h
  · rintro ⟨rfl, rfl⟩
    have hcut := cutAt?_take left.length (left ++ right)
    rwa [List.take_left, List.drop_left] at hcut

/-- A text can be cut just at the bytes that lie between two characters or at an end. -/
theorem isSome_cutAt?_iff {byte : Nat} {text : String} :
    (cutAt? byte text.toList).isSome ↔ String.Pos.Raw.IsValid text ⟨byte⟩ := by
  rw [String.Pos.Raw.isValid_iff_exists_append, Option.isSome_iff_exists]
  constructor
  · rintro ⟨⟨left, right⟩, hcut⟩
    obtain ⟨htext, rfl⟩ := cutAt?_eq_some_iff.mp hcut
    refine ⟨String.ofList left, String.ofList right, ?_, rfl⟩
    rw [← String.ofList_append, ← htext, String.ofList_toList]
  · rintro ⟨left, right, rfl, hbyte⟩
    have hsize : byte = left.utf8ByteSize := congrArg String.Pos.Raw.byteIdx hbyte
    refine ⟨(left.toList, right.toList), cutAt?_eq_some_iff.mpr ⟨String.toList_append, ?_⟩⟩
    rw [hsize, String.ofList_toList]

/-- Nothing is cut within a character. -/
example : cutAt? 2 ['é', '€'] = some (['é'], ['€']) ∧ cutAt? 3 ['é', '€'] = none := by decide

/-! ## Halves -/

/-- **Halves.** A term is cut behind as many characters as its seam counts. -/
theorem halves?_eq (t : Term) :
    t.halves? = some (t.seam.elim (t.value, "") fun seam =>
      (String.ofList (t.value.toList.take seam), String.ofList (t.value.toList.drop seam))) := by
  unfold halves?
  cases t.seam with
  | none => rfl
  | some seam =>
    simp only
    rw [cutByte_eq, cutAt?_take]
    rfl

theorem halves?_eq_some (t : Term) : t.halves? = some (t.left, t.right) := by
  rw [left, right, halves, halves?_eq, Option.getD_some]

section Seam

variable {t : Term} {seam : Nat}

theorem halves_of_seam (h : t.seam = some seam) :
    t.halves =
      (String.ofList (t.value.toList.take seam), String.ofList (t.value.toList.drop seam)) := by
  rw [halves, halves?_eq, h, Option.getD_some, Option.elim_some]

theorem left_of_seam (h : t.seam = some seam) :
    t.left = String.ofList (t.value.toList.take seam) :=
  congrArg Prod.fst (halves_of_seam h)

theorem right_of_seam (h : t.seam = some seam) :
    t.right = String.ofList (t.value.toList.drop seam) :=
  congrArg Prod.snd (halves_of_seam h)

/-- As a seam lies within the text, the left side has all the characters that it counts. -/
theorem length_left (h : t.seam = some seam) : t.left.length = seam := by
  have hwithin : seam ≤ t.value.length := t.seam_le seam h
  rw [left_of_seam h, String.length_ofList, List.length_take, String.length_toList,
    Nat.min_eq_left hwithin]

end Seam

/-- The sides make up the term. -/
theorem left_append_right (t : Term) : t.left ++ t.right = t.value := by
  cases h : t.seam with
  | none =>
    rw [left, right, halves, halves?_eq, h]
    exact String.append_empty
  | some seam =>
    rw [left_of_seam h, right_of_seam h, ← String.ofList_append, List.take_append_drop,
      String.ofList_toList]

/-- What a seam behind `count` characters makes of a term. The cut is at a byte between two
characters or at an end, the bytes before it and after it are those of the two sides, and the left
side has `count` characters. -/
structure CutBehind (t : Term) (count : Nat) : Prop where
  seam_eq : t.seam = some count
  halves_eq : t.halves? = some (t.left, t.right)
  append_eq : t.left ++ t.right = t.value
  length_eq : t.left.length = count
  boundary : String.Pos.Raw.IsValid t.value ⟨t.cutByte count⟩
  bytes_left : (Text.Utf8.encode t.value).take (t.cutByte count) = Text.Utf8.encode t.left
  bytes_right : (Text.Utf8.encode t.value).drop (t.cutByte count) = Text.Utf8.encode t.right

theorem cutBehind_of_seam {t : Term} {count : Nat} (h : t.seam = some count) :
    t.CutBehind count := by
  -- the cut succeeds, and that is possible at a boundary only
  have hcut : (cutAt? (t.cutByte count) t.value.toList).isSome := by
    rw [cutByte_eq, cutAt?_take]
    rfl
  -- the sides have their bytes in a row, and the cut is as far as those of the left one reach
  have hbytes : Text.Utf8.encode t.value = Text.Utf8.encode t.left ++ Text.Utf8.encode t.right := by
    rw [← Text.Utf8.encode_append, left_append_right]
  have hsize : (Text.Utf8.encode t.left).length = t.cutByte count := by
    rw [Text.Utf8.length_encode, cutByte_eq, left_of_seam h]
  exact {
    seam_eq := h
    halves_eq := t.halves?_eq_some
    append_eq := t.left_append_right
    length_eq := length_left h
    boundary := isSome_cutAt?_iff.mp hcut
    bytes_left := by rw [hbytes, List.take_left' hsize]
    bytes_right := by rw [hbytes, List.drop_left' hsize] }

/-! ## Terms of stored texts -/

theorem atBar?_eq_none {text : List Char} (h : '|' ∉ text) : atBar? text = none := by
  induction text with
  | nil => rfl
  | cons c text ih =>
    obtain ⟨hc, htext⟩ : '|' ≠ c ∧ '|' ∉ text := by simpa using h
    rw [atBar?, if_neg (Ne.symm hc), ih htext, Option.map_none]

theorem atBar?_append {left : List Char} (h : '|' ∉ left) (right : List Char) :
    atBar? (left ++ '|' :: right) = some (left, right) := by
  induction left with
  | nil => rfl
  | cons c left ih =>
    obtain ⟨hc, hleft⟩ : '|' ≠ c ∧ '|' ∉ left := by simpa using h
    rw [List.cons_append, atBar?, if_neg (Ne.symm hc), ih hleft, Option.map_some]

theorem ofMarked_whole {text : String} (h : '|' ∉ text.toList) : ofMarked text = whole text := by
  rw [ofMarked, atBar?_eq_none h]

theorem ofMarked_parted {left : String} (h : '|' ∉ left.toList) (right : String) :
    ofMarked (left ++ "|" ++ right) = split (left ++ right) left.length := by
  have hchars : (left ++ "|" ++ right).toList = left.toList ++ '|' :: right.toList := by
    simp [String.toList_append]
  rw [ofMarked, hchars, atBar?_append h]
  simp only [String.length_toList, String.ofList_append, String.ofList_toList]

section Split

variable {left right : String}

theorem seam_split : (split (left ++ right) left.length).seam = some left.length := by
  -- the seam is not moved, as it is not behind the end
  have hle : left.length ≤ (left ++ right).length := by
    rw [String.length_append]
    omega
  exact congrArg some (Nat.min_eq_left hle)

/-- A term that is split where two texts meet has these texts for its sides. -/
theorem halves_split : (split (left ++ right) left.length).halves = (left, right) := by
  have hchars : (left ++ right).toList = left.toList ++ right.toList := String.toList_append
  have hlength : left.length = left.toList.length := String.length_toList.symm
  rw [halves_of_seam seam_split, split, hchars, hlength, List.take_left, List.drop_left,
    String.ofList_toList, String.ofList_toList]

end Split

/-- **Partition.** A term that is split behind a number of characters, however many, has its seam
there or at its end. Its halves make up its text, the first one has as many characters as the seam
counts, and the byte at which they are cut apart is the boundary of a character. So it is with a
text that is stored with a bar: the halves are what is before the first bar and what is after it.
And so it is with every term, where one without a seam is all in its first half. -/
theorem halves_partition :
    (∀ (value : String) (index : Nat),
      let t := split value index
      t.value = value ∧ t.CutBehind (min index value.length)) ∧
    (∀ left right : String, '|' ∉ left.toList →
      let t := ofMarked (left ++ "|" ++ right)
      t.value = left ++ right ∧ t.halves = (left, right) ∧ t.CutBehind left.length) ∧
    ∀ t : Term,
      t.halves? = some (t.left, t.right) ∧ t.left ++ t.right = t.value ∧
      (t.seam = none → t.right = "") ∧ ∀ count, t.seam = some count → t.CutBehind count := by
  refine ⟨fun value index => ⟨rfl, cutBehind_of_seam rfl⟩, ?_, ?_⟩
  · intro left right hleft t
    have ht : t = split (left ++ right) left.length := ofMarked_parted hleft right
    rw [ht]
    exact ⟨rfl, halves_split, cutBehind_of_seam seam_split⟩
  · intro t
    refine ⟨t.halves?_eq_some, t.left_append_right, fun hnone => ?_, fun _ => cutBehind_of_seam⟩
    rw [right, halves, halves?_eq, hnone]
    rfl

/-- A seam behind two characters is behind five bytes, and a second bar is text. -/
theorem halves_partition_euro :
    let t := ofMarked "é€|😀|"
    '|' ∉ "é€".toList ∧ t.seam = some 2 ∧ t.value = "é€😀|" ∧ t.halves = ("é€", "😀|") ∧
      t.left.length = 2 ∧ t.cutByte 2 = 5 ∧ String.Pos.Raw.IsValid "é€😀|" ⟨5⟩ ∧
      t.left ++ t.right = "é€😀|" ∧ (split "é€😀|" 100).left.length = 4 ∧
      (whole "é€").right = "" := by
  intro t
  obtain ⟨hsplit, hmarked, hterm⟩ := halves_partition
  have hleft : '|' ∉ "é€".toList := by decide
  have hbar : "é€|😀|" = "é€" ++ "|" ++ "😀|" := by decide
  have hvalues : "é€" ++ "😀|" = "é€😀|" := by decide
  have hlength : "é€".length = 2 := by decide
  obtain ⟨hvalue, hhalves, hcut⟩ := hmarked "é€" "😀|" hleft
  rw [← hbar, hvalues] at hvalue
  rw [← hbar] at hhalves
  rw [← hbar, hlength] at hcut
  have hseam : t.seam = some 2 := hcut.seam_eq
  obtain ⟨-, happend, -, hbehind⟩ := hterm t
  have hbyte : t.cutByte 2 = 5 := by decide +kernel
  have hboundary : String.Pos.Raw.IsValid t.value ⟨t.cutByte 2⟩ := (hbehind 2 hseam).boundary
  rw [hvalue, hbyte] at hboundary
  rw [hvalue] at happend
  have hfar : min 100 "é€😀|".length = 4 := by decide
  exact ⟨hleft, hseam, hvalue, hhalves, hcut.length_eq, hbyte, hboundary, happend,
    (hsplit "é€😀|" 100).2.length_eq.trans hfar, (hterm (whole "é€")).2.2.1 rfl⟩

end Wordweave.Term
