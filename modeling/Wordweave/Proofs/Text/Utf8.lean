import Wordweave.Text.Utf8

/-!
# Wordweave — texts and their bytes

The automaton that reads UTF-8 undoes the encoding: the bytes of a character lead it from one place
between two characters to the next (`scan_encodeChar`), so the bytes of a text lead it through the
text (`decode_encode`). It accepts no other bytes: what it reads from one such place to the next are
the bytes of a character (`scan_none_inv`), so bytes that are read as a text are its bytes
(`encode_of_decode`). The lenient automaton, which goes on behind bytes that belong to no character,
does the same where there are none (`glyphs_encode`).

The bytes of a character are marks with some bits added. They are compared as numbers throughout:
what a byte begins, and which bytes may follow it, is told by ranges of numbers.
-/

namespace Wordweave.Text.Utf8

/-! ## Bytes as numbers -/

/-- What a byte begins, told by its number. -/
theorem lead_eq (b : UInt8) :
    lead b =
      if b.toNat < 128 then .whole (Char.ofNat b.toNat)
      else if b.toNat < 194 then .nothing
      else if b.toNat < 224 then .opens ⟨1, 128, 191, b.toNat % 32, 1⟩
      else if b.toNat < 240 then
        .opens ⟨2, if b.toNat = 224 then 160 else 128, if b.toNat = 237 then 159 else 191,
          b.toNat % 16, 1⟩
      else if b.toNat < 245 then
        .opens ⟨3, if b.toNat = 240 then 144 else 128, if b.toNat = 244 then 143 else 191,
          b.toNat % 8, 1⟩
      else .nothing := by
  unfold lead
  simp only [UInt8.lt_iff_toNat_lt, ← UInt8.toNat_inj]
  rfl

/-- Which bytes may come next, told by their numbers. -/
theorem admits_iff {o : Opened} {b : UInt8} :
    o.admits b = true ↔ o.low.toNat ≤ b.toNat ∧ b.toNat ≤ o.high.toNat := by
  simp [Opened.admits, UInt8.le_iff_toNat_le]

/-- A byte without a mark. -/
theorem toNat_plain {n : Nat} (h : n < 256) : (UInt8.ofNat n).toNat = n :=
  UInt8.toNat_ofNat_of_lt' h

/-! ## Steps of the automaton -/

section Steps

variable {index : Nat} {o : Opened} {done : List Char} {b : UInt8} {rest : List UInt8}

/-- A byte that is a character of its own. -/
theorem scan_whole {c : Char} (h : lead b = .whole c) :
    scan index none done (b :: rest) = scan (index + 1) none (c :: done) rest := by
  rw [scan]
  simp only [h]

/-- A byte that opens a character. -/
theorem scan_opens (h : lead b = .opens o) :
    scan index none done (b :: rest) = scan index (some o) done rest := by
  rw [scan]
  simp only [h]

/-- A byte within a character. -/
theorem scan_within (h : o.admits b = true) (hm : 1 < o.missing) :
    scan index (some o) done (b :: rest) = scan index (some (o.after b)) done rest := by
  rw [scan]
  simp only [h, if_true]
  rw [if_neg (Nat.not_le.mpr hm)]

/-- The last byte of a character. -/
theorem scan_last (h : o.admits b = true) (hm : o.missing ≤ 1) :
    scan index (some o) done (b :: rest) =
      scan (index + o.length + 1) none (Char.ofNat (o.bitsAfter b) :: done) rest := by
  rw [scan]
  simp only [h, if_true]
  rw [if_pos hm]

end Steps

/-! ## Characters of several bytes -/

section Characters

variable {index : Nat} {done : List Char} {rest : List UInt8} {v : Nat}

/-- The number of a byte that continues a character. -/
theorem toNat_continuing (n : Nat) : (UInt8.ofNat (n % 64 + 128)).toNat = n % 64 + 128 :=
  toNat_plain (by omega)

/-- A byte of the whole range may continue a character, unless it is the second one. -/
theorem admits_continuing {missing bits length n : Nat} :
    Opened.admits ⟨missing, 128, 191, bits, length⟩ (UInt8.ofNat (n % 64 + 128)) = true := by
  rw [admits_iff, toNat_continuing]
  show 128 ≤ n % 64 + 128 ∧ n % 64 + 128 ≤ 191
  omega

/-- The bits that a continuing byte adds. -/
theorem bitsAfter_continuing (o : Opened) (n : Nat) :
    o.bitsAfter (UInt8.ofNat (n % 64 + 128)) = o.bits * 64 + n % 64 := by
  rw [Opened.bitsAfter, toNat_continuing]
  omega

/-- A character after a continuing byte. -/
theorem after_continuing {missing bits length n : Nat} {low high : UInt8} :
    Opened.after ⟨missing + 1, low, high, bits, length⟩ (UInt8.ofNat (n % 64 + 128)) =
      ⟨missing, 128, 191, bits * 64 + n % 64, length + 1⟩ := by
  rw [Opened.after, bitsAfter_continuing]
  rfl

/-- A character of two bytes. -/
theorem scan_two (h : 127 < v) (h' : v ≤ 2047) :
    scan index none done
        (UInt8.ofNat (v / 64 % 32 + 192) :: UInt8.ofNat (v % 64 + 128) :: rest) =
      scan (index + 2) none (Char.ofNat v :: done) rest := by
  have hfirst : (UInt8.ofNat (v / 64 % 32 + 192)).toNat = v / 64 + 192 := by
    rw [toNat_plain (by omega)]
    omega
  have hlead : lead (UInt8.ofNat (v / 64 % 32 + 192)) = .opens ⟨1, 128, 191, v / 64, 1⟩ := by
    rw [lead_eq, hfirst, if_neg (by omega), if_neg (by omega), if_pos (by omega),
      show (v / 64 + 192) % 32 = v / 64 by omega]
  rw [scan_opens hlead, scan_last admits_continuing (Nat.le_refl 1), bitsAfter_continuing,
    show v / 64 * 64 + v % 64 = v by omega]

/-- A character of three bytes. -/
theorem scan_three (h : 2047 < v) (h' : v ≤ 65535) (hvalid : v < 55296 ∨ 57343 < v) :
    scan index none done
        (UInt8.ofNat (v / 4096 % 16 + 224) :: UInt8.ofNat (v / 64 % 64 + 128) ::
          UInt8.ofNat (v % 64 + 128) :: rest) =
      scan (index + 3) none (Char.ofNat v :: done) rest := by
  have hfirst : (UInt8.ofNat (v / 4096 % 16 + 224)).toNat = v / 4096 + 224 := by
    rw [toNat_plain (by omega)]
    omega
  have hlead : lead (UInt8.ofNat (v / 4096 % 16 + 224)) =
      .opens ⟨2, if v / 4096 + 224 = 224 then 160 else 128,
        if v / 4096 + 224 = 237 then 159 else 191, v / 4096, 1⟩ := by
    rw [lead_eq, hfirst, if_neg (by omega), if_neg (by omega), if_neg (by omega),
      if_pos (by omega), show (v / 4096 + 224) % 16 = v / 4096 by omega]
  -- no overlong form, since `2047 < v`, and no surrogate
  have hlow : (if v / 4096 + 224 = 224 then (160 : UInt8) else 128).toNat ≤ v / 64 % 64 + 128 := by
    split
    · show 160 ≤ _
      omega
    · show 128 ≤ _
      omega
  have hhigh : v / 64 % 64 + 128 ≤ (if v / 4096 + 224 = 237 then (159 : UInt8) else 191).toNat := by
    split
    · show _ ≤ 159
      omega
    · show _ ≤ 191
      omega
  rw [scan_opens hlead, scan_within (admits_iff.mpr (by rw [toNat_continuing]; exact ⟨hlow, hhigh⟩))
    (show 1 < 2 by decide), after_continuing,
    scan_last admits_continuing (Nat.le_refl 1), bitsAfter_continuing,
    show (v / 4096 * 64 + v / 64 % 64) * 64 + v % 64 = v by omega]

/-- A character of four bytes. -/
theorem scan_four (h : 65535 < v) (h' : v < 1114112) :
    scan index none done
        (UInt8.ofNat (v / 262144 % 8 + 240) :: UInt8.ofNat (v / 4096 % 64 + 128) ::
          UInt8.ofNat (v / 64 % 64 + 128) :: UInt8.ofNat (v % 64 + 128) :: rest) =
      scan (index + 4) none (Char.ofNat v :: done) rest := by
  have hfirst : (UInt8.ofNat (v / 262144 % 8 + 240)).toNat = v / 262144 + 240 := by
    rw [toNat_plain (by omega)]
    omega
  have hlead : lead (UInt8.ofNat (v / 262144 % 8 + 240)) =
      .opens ⟨3, if v / 262144 + 240 = 240 then 144 else 128,
        if v / 262144 + 240 = 244 then 143 else 191, v / 262144, 1⟩ := by
    rw [lead_eq, hfirst, if_neg (by omega), if_neg (by omega), if_neg (by omega),
      if_neg (by omega), if_pos (by omega), show (v / 262144 + 240) % 8 = v / 262144 by omega]
  -- no overlong form, since `65535 < v`, and nothing beyond the last character
  have hlow : (if v / 262144 + 240 = 240 then (144 : UInt8) else 128).toNat ≤
      v / 4096 % 64 + 128 := by
    split
    · show 144 ≤ _
      omega
    · show 128 ≤ _
      omega
  have hhigh : v / 4096 % 64 + 128 ≤
      (if v / 262144 + 240 = 244 then (143 : UInt8) else 191).toNat := by
    split
    · show _ ≤ 143
      omega
    · show _ ≤ 191
      omega
  rw [scan_opens hlead, scan_within (admits_iff.mpr (by rw [toNat_continuing]; exact ⟨hlow, hhigh⟩))
    (show 1 < 3 by decide), after_continuing,
    scan_within admits_continuing (show 1 < 2 by decide), after_continuing,
    scan_last admits_continuing (Nat.le_refl 1), bitsAfter_continuing,
    show ((v / 262144 * 64 + v / 4096 % 64) * 64 + v / 64 % 64) * 64 + v % 64 = v by omega]

end Characters

/-! ## Texts -/

/-- The bytes of a character are read as that character. -/
theorem scan_encodeChar (index : Nat) (done : List Char) (c : Char) (rest : List UInt8) :
    scan index none done (String.utf8EncodeChar c ++ rest) =
      scan (index + c.utf8Size) none (c :: done) rest := by
  -- the code of a character is not that of a surrogate and not beyond the last one
  have hvalid : c.toNat < 55296 ∨ 57343 < c.toNat ∧ c.toNat < 1114112 := c.valid
  have hc : Char.ofNat c.toNat = c := Char.ofNat_toNat c
  rw [← String.length_utf8EncodeChar]
  unfold String.utf8EncodeChar
  rw [show c.val.toNat = c.toNat from rfl]
  generalize c.toNat = v at hvalid hc
  subst hc
  by_cases hone : v ≤ 127
  · have hb : (UInt8.ofNat v).toNat = v := toNat_plain (by omega)
    have hlead : lead (UInt8.ofNat v) = .whole (Char.ofNat v) := by
      rw [lead_eq, hb, if_pos (by omega)]
    rw [if_pos hone]
    exact scan_whole hlead
  by_cases htwo : v ≤ 2047
  · rw [if_neg hone, if_pos htwo]
    exact scan_two (by omega) htwo
  by_cases hthree : v ≤ 65535
  · rw [if_neg hone, if_neg htwo, if_pos hthree]
    exact scan_three (by omega) hthree (by omega)
  · rw [if_neg hone, if_neg htwo, if_neg hthree]
    exact scan_four (by omega) (by omega)

/-- The bytes of characters are read as those characters. -/
theorem scan_encodeAll (index : Nat) (done cs : List Char) :
    scan index none done (cs.flatMap String.utf8EncodeChar) = .ok (done.reverse ++ cs) := by
  induction cs generalizing index done with
  | nil => simp [scan]
  | cons c cs ih =>
    rw [List.flatMap_cons, scan_encodeChar, ih, List.reverse_cons, List.append_assoc,
      List.singleton_append]

/-- The bytes of a text are read as that text. -/
theorem decode_encode (text : String) : decode (encode text) = .ok text := by
  rw [decode, encode, scan_encodeAll, List.reverse_nil, List.nil_append]
  exact congrArg _ String.ofList_toList

/-- Texts in a row have their bytes in a row. -/
theorem encode_append (left right : String) :
    encode (left ++ right) = encode left ++ encode right := by
  rw [encode, String.toList_append, List.flatMap_append, encode, encode]

theorem length_encode (text : String) : (encode text).length = text.utf8ByteSize := by
  rw [encode, ← List.size_toByteArray, ← List.utf8Encode, String.utf8Encode_toList,
    String.size_toByteArray]

/-! ## Bytes that are read -/

/-- A byte is told by its number. -/
theorem ofNat_eq_of_toNat {n : Nat} {b : UInt8} (h : n = b.toNat) : UInt8.ofNat n = b := by
  rw [h, UInt8.ofNat_toNat]

/-- The bytes of the character of a code. -/
theorem encodeChar_ofNat {v : Nat} (h : v.isValidChar) :
    String.utf8EncodeChar (Char.ofNat v) =
      if v ≤ 127 then [UInt8.ofNat v]
      else if v ≤ 2047 then [UInt8.ofNat (v / 64 % 32 + 192), UInt8.ofNat (v % 64 + 128)]
      else if v ≤ 65535 then
        [UInt8.ofNat (v / 4096 % 16 + 224), UInt8.ofNat (v / 64 % 64 + 128),
          UInt8.ofNat (v % 64 + 128)]
      else
        [UInt8.ofNat (v / 262144 % 8 + 240), UInt8.ofNat (v / 4096 % 64 + 128),
          UInt8.ofNat (v / 64 % 64 + 128), UInt8.ofNat (v % 64 + 128)] := by
  have hv : (Char.ofNat v).val.toNat = v := by
    rw [Char.ofNat, dif_pos h]
    rfl
  unfold String.utf8EncodeChar
  rw [hv]

section Inversion

variable {index : Nat} {o : Opened} {done cs : List Char} {bytes : List UInt8}

/-- An opened character that is read to its end has one more byte, which it admits. -/
theorem scan_opened_inv (h : scan index (some o) done bytes = .ok cs) :
    ∃ b rest, bytes = b :: rest ∧ o.low.toNat ≤ b.toNat ∧ b.toNat ≤ o.high.toNat ∧
      (if o.missing ≤ 1 then
          scan (index + o.length + 1) none (Char.ofNat (o.bitsAfter b) :: done) rest
        else scan index (some (o.after b)) done rest) = .ok cs := by
  cases bytes with
  | nil => exact nomatch h
  | cons b rest =>
    rw [scan] at h
    split at h
    · next hadmits =>
      obtain ⟨hlow, hhigh⟩ := admits_iff.mp hadmits
      exact ⟨b, rest, rfl, hlow, hhigh, h⟩
    · exact nomatch h

/-- The last byte of a character, if all that is left of it may be any continuing byte. -/
theorem scan_one_inv {bits length : Nat} {low high : UInt8}
    (h : scan index (some ⟨1, low, high, bits, length⟩) done bytes = .ok cs) :
    ∃ b rest, bytes = b :: rest ∧ low.toNat ≤ b.toNat ∧ b.toNat ≤ high.toNat ∧
      scan (index + length + 1) none (Char.ofNat (bits * 64 + b.toNat % 64) :: done) rest =
        .ok cs := by
  obtain ⟨b, rest, hbytes, hlow, hhigh, h⟩ := scan_opened_inv h
  exact ⟨b, rest, hbytes, hlow, hhigh, by rwa [if_pos (Nat.le_refl 1)] at h⟩

/-- A byte of a character that is not the last one. -/
theorem scan_more_inv {missing bits length : Nat} {low high : UInt8}
    (h : scan index (some ⟨missing + 2, low, high, bits, length⟩) done bytes = .ok cs) :
    ∃ b rest, bytes = b :: rest ∧ low.toNat ≤ b.toNat ∧ b.toNat ≤ high.toNat ∧
      scan index (some ⟨missing + 1, 128, 191, bits * 64 + b.toNat % 64, length + 1⟩) done rest =
        .ok cs := by
  obtain ⟨b, rest, hbytes, hlow, hhigh, h⟩ := scan_opened_inv h
  exact ⟨b, rest, hbytes, hlow, hhigh,
    by rwa [if_neg (by show ¬ missing + 2 ≤ 1; omega)] at h⟩

/-- Bytes that begin with the character that they are read as, and go on to be read. -/
def Begins (done cs : List Char) (bytes : List UInt8) : Prop :=
  ∃ c rest index, bytes = String.utf8EncodeChar c ++ rest ∧
    scan index none (c :: done) rest = .ok cs

/-- A character of two bytes. -/
theorem begins_two {a : UInt8} {rest : List UInt8} (ha : 194 ≤ a.toNat) (ha' : a.toNat < 224)
    (h : scan index (some ⟨1, 128, 191, a.toNat % 32, 1⟩) done rest = .ok cs) :
    Begins done cs (a :: rest) := by
  obtain ⟨b, rest, rfl, hb, hb', h⟩ := scan_one_inv h
  replace hb : 128 ≤ b.toNat := hb
  replace hb' : b.toNat ≤ 191 := hb'
  refine ⟨_, rest, _, ?_, h⟩
  rw [encodeChar_ofNat (.inl (by omega)), if_neg (by omega), if_pos (by omega),
    ofNat_eq_of_toNat (b := a) (by omega), ofNat_eq_of_toNat (b := b) (by omega)]
  rfl

/-- A character of three bytes. The second one rules out overlong forms and surrogates. -/
theorem begins_three {a : UInt8} {rest : List UInt8} (ha : 224 ≤ a.toNat) (ha' : a.toNat < 240)
    (h : scan index (some ⟨2, if a.toNat = 224 then 160 else 128,
      if a.toNat = 237 then 159 else 191, a.toNat % 16, 1⟩) done rest = .ok cs) :
    Begins done cs (a :: rest) := by
  obtain ⟨b, rest, rfl, hb, hb', h⟩ := scan_more_inv h
  obtain ⟨c, rest, rfl, hc, hc', h⟩ := scan_one_inv h
  replace hc : 128 ≤ c.toNat := hc
  replace hc' : c.toNat ≤ 191 := hc'
  have hlow : (a.toNat = 224 → 160 ≤ b.toNat) ∧ (a.toNat ≠ 224 → 128 ≤ b.toNat) := by
    constructor <;> intro hfirst <;> simpa [hfirst] using hb
  have hhigh : (a.toNat = 237 → b.toNat ≤ 159) ∧ (a.toNat ≠ 237 → b.toNat ≤ 191) := by
    constructor <;> intro hfirst <;> simpa [hfirst] using hb'
  refine ⟨_, rest, _, ?_, h⟩
  rw [encodeChar_ofNat (by unfold Nat.isValidChar; omega), if_neg (by omega), if_neg (by omega),
    if_pos (by omega), ofNat_eq_of_toNat (b := a) (by omega), ofNat_eq_of_toNat (b := b) (by omega),
    ofNat_eq_of_toNat (b := c) (by omega)]
  rfl

/-- A character of four bytes. The second one rules out overlong forms and what is no character. -/
theorem begins_four {a : UInt8} {rest : List UInt8} (ha : 240 ≤ a.toNat) (ha' : a.toNat < 245)
    (h : scan index (some ⟨3, if a.toNat = 240 then 144 else 128,
      if a.toNat = 244 then 143 else 191, a.toNat % 8, 1⟩) done rest = .ok cs) :
    Begins done cs (a :: rest) := by
  obtain ⟨b, rest, rfl, hb, hb', h⟩ := scan_more_inv h
  obtain ⟨c, rest, rfl, hc, hc', h⟩ := scan_more_inv h
  obtain ⟨d, rest, rfl, hd, hd', h⟩ := scan_one_inv h
  replace hc : 128 ≤ c.toNat := hc
  replace hc' : c.toNat ≤ 191 := hc'
  replace hd : 128 ≤ d.toNat := hd
  replace hd' : d.toNat ≤ 191 := hd'
  have hlow : (a.toNat = 240 → 144 ≤ b.toNat) ∧ (a.toNat ≠ 240 → 128 ≤ b.toNat) := by
    constructor <;> intro hfirst <;> simpa [hfirst] using hb
  have hhigh : (a.toNat = 244 → b.toNat ≤ 143) ∧ (a.toNat ≠ 244 → b.toNat ≤ 191) := by
    constructor <;> intro hfirst <;> simpa [hfirst] using hb'
  refine ⟨_, rest, _, ?_, h⟩
  rw [encodeChar_ofNat (by unfold Nat.isValidChar; omega), if_neg (by omega), if_neg (by omega),
    if_neg (by omega), ofNat_eq_of_toNat (b := a) (by omega), ofNat_eq_of_toNat (b := b) (by omega),
    ofNat_eq_of_toNat (b := c) (by omega), ofNat_eq_of_toNat (b := d) (by omega)]
  rfl

/-- Bytes that are read to their end are none, or they begin with those of a character. -/
theorem scan_none_inv (h : scan index none done bytes = .ok cs) :
    bytes = [] ∧ done.reverse = cs ∨ Begins done cs bytes := by
  cases bytes with
  | nil =>
    rw [scan] at h
    exact .inl ⟨rfl, Except.ok.inj h⟩
  | cons a rest =>
    refine .inr ?_
    rw [scan, lead_eq] at h
    -- by the ranges of the first byte
    by_cases hone : a.toNat < 128
    · rw [if_pos hone] at h
      refine ⟨_, rest, _, ?_, h⟩
      rw [encodeChar_ofNat (.inl (by omega)), if_pos (by omega), UInt8.ofNat_toNat]
      rfl
    by_cases hnone : a.toNat < 194
    · rw [if_neg hone, if_pos hnone] at h
      exact nomatch h
    by_cases htwo : a.toNat < 224
    · rw [if_neg hone, if_neg hnone, if_pos htwo] at h
      exact begins_two (by omega) htwo h
    by_cases hthree : a.toNat < 240
    · rw [if_neg hone, if_neg hnone, if_neg htwo, if_pos hthree] at h
      exact begins_three (by omega) hthree h
    by_cases hfour : a.toNat < 245
    · rw [if_neg hone, if_neg hnone, if_neg htwo, if_neg hthree, if_pos hfour] at h
      exact begins_four (by omega) hfour h
    · rw [if_neg hone, if_neg hnone, if_neg htwo, if_neg hthree, if_neg hfour] at h
      exact nomatch h

end Inversion

/-- Bytes that are read as characters are the bytes of the characters. By induction on the number of
bytes, since a character takes some. -/
theorem flatMap_of_scan {index : Nat} {done cs : List Char} {bytes : List UInt8}
    (h : scan index none done bytes = .ok cs) :
    ∃ more, cs = done.reverse ++ more ∧ more.flatMap String.utf8EncodeChar = bytes := by
  rcases scan_none_inv h with ⟨rfl, rfl⟩ | ⟨c, rest, index', hbytes, hrest⟩
  · exact ⟨[], (List.append_nil _).symm, rfl⟩
  · have hlength : rest.length < bytes.length := by
      rw [hbytes, List.length_append, String.length_utf8EncodeChar]
      have hpos := c.utf8Size_pos
      omega
    obtain ⟨more, rfl, hmore⟩ := flatMap_of_scan hrest
    refine ⟨c :: more, by simp, ?_⟩
    rw [List.flatMap_cons, hmore, hbytes]
termination_by bytes.length

/-- Bytes that are read as a text are the bytes of the text. -/
theorem encode_of_decode {bytes : List UInt8} {text : String} (h : decode bytes = .ok text) :
    encode text = bytes := by
  unfold decode at h
  cases hscan : scan 0 none [] bytes with
  | error fault =>
    rw [hscan] at h
    exact nomatch h
  | ok cs =>
    rw [hscan] at h
    obtain rfl : String.ofList cs = text := Except.ok.inj h
    obtain ⟨more, rfl, hmore⟩ := flatMap_of_scan hscan
    rw [encode, String.toList_ofList]
    exact hmore

/-! ## Lenient reading -/

/-- Where the automaton finds no fault, the lenient one reads the same characters. -/
theorem scanAny_of_scan {broken : Nat → List (Option Char)} {index : Nat} {state : Option Opened}
    {done cs : List Char} {bytes : List UInt8} (h : scan index state done bytes = .ok cs) :
    scanAny broken state (done.map some) bytes = cs.map some := by
  induction bytes generalizing index state done with
  | nil =>
    cases state with
    | none =>
      obtain rfl : done.reverse = cs := Except.ok.inj h
      rw [scanAny, List.map_reverse]
    | some o => exact nomatch h
  | cons b bytes ih =>
    cases state with
    | none =>
      rw [scan] at h
      rw [scanAny]
      cases hlead : lead b with
      | whole c =>
        simp only [hlead] at h ⊢
        exact ih h
      | opens o =>
        simp only [hlead] at h ⊢
        exact ih h
      | nothing => simp [hlead] at h
    | some o =>
      rw [scan] at h
      rw [scanAny]
      by_cases hadmits : o.admits b = true
      · by_cases hlast : o.missing ≤ 1
        · simp only [hadmits, hlast, if_true] at h ⊢
          exact ih h
        · simp only [hadmits, hlast, if_true, if_false] at h ⊢
          exact ih h
      · simp [hadmits] at h

/-- The bytes of a text are read as its characters and nothing else. -/
theorem glyphs_encode (text : String) : glyphs (encode text) = text.toList.map some := by
  have hscan : scan 0 none [] (encode text) = .ok text.toList := by
    rw [encode, scan_encodeAll, List.reverse_nil, List.nil_append]
  exact scanAny_of_scan hscan

end Wordweave.Text.Utf8
