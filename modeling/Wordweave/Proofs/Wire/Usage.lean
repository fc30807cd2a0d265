import Wordweave.Proofs.Wire.Descent

/-!
# Wordweave — bytes that are read and bytes that are saved

What a reader gives can be written again, and the bytes are no more than those that were read. Two
notions go together here. A reader *uses* bytes rightly if the value that it gives has a property
together with the number of bytes that it has used (`Uses`); a writer *saves* a value in so many
bytes if it succeeds and gives no more (`Saves`). Both are closed under bind, so that a compound
reader and its writer are compared part by part.

Only inputs up to a limit are looked at, since there are values that fit in no number of four bytes
and can be read from longer ones alone.

Here are the numbers, the texts and the lists. A list may lose members when it is saved, as readers
drop filters of unknown kinds (`uses_readList_filterMap`).
-/

namespace Wordweave.Wire

variable {α β : Type} {limit : Nat}

/-! ## Readers -/

/-- Whatever a reader gives of at most `limit` bytes has a property with the number of bytes used. -/
def Uses (limit : Nat) (r : Reader α) (p : α → Nat → Prop) : Prop :=
  ∀ (input : Bytes) (a : α) (rest : Bytes), input.length ≤ limit → r input = .ok (a, rest) →
    ∃ used, used + rest.length = input.length ∧ p a used

namespace Uses

variable {p : α → Nat → Prop} {q : β → Nat → Prop}

theorem pure {a : α} (h : p a 0) : Uses limit (Pure.pure a) p := by
  intro input b rest _ hread
  obtain ⟨rfl, rfl⟩ := read_pure_inv hread
  exact ⟨0, Nat.zero_add _, h⟩

theorem throw (e : Error) : Uses limit (throw e : Reader α) p := by
  intro input a rest _ hread
  exact nomatch hread

theorem throw_bind (e : Error) (f : α → Reader β) :
    Uses limit ((MonadExcept.throw e : Reader α) >>= f) q := by
  intro input b rest _ hread
  exact nomatch hread

theorem bind {r : Reader α} {f : α → Reader β} (hr : Uses limit r p)
    (hf : ∀ a k, p a k → Uses limit (f a) fun b n => q b (k + n)) : Uses limit (r >>= f) q := by
  intro input b rest hinput hread
  obtain ⟨a, middle, hfirst, hsecond⟩ := read_bind_inv hread
  obtain ⟨k, hk, hp⟩ := hr input a middle hinput hfirst
  obtain ⟨n, hn, hq⟩ := hf a k hp middle b rest (by omega) hsecond
  exact ⟨k + n, by omega, hq⟩

/-- What follows from a property and from the limit. -/
theorem mono {r : Reader α} {p' : α → Nat → Prop} (hr : Uses limit r p)
    (h : ∀ a k, k ≤ limit → p a k → p' a k) : Uses limit r p' := by
  intro input a rest hinput hread
  obtain ⟨k, hk, hp⟩ := hr input a rest hinput hread
  exact ⟨k, hk, h a k (by omega) hp⟩

end Uses

/-! ## Writers -/

/-- A writer succeeds and gives at most `n` bytes. -/
def Saves (x : Except Error Bytes) (n : Nat) : Prop := ∃ bytes, x = .ok bytes ∧ bytes.length ≤ n

namespace Saves

variable {x : Except Error Bytes} {m n : Nat}

theorem pure {bytes : Bytes} (h : bytes.length ≤ n) : Saves (Pure.pure bytes) n := ⟨bytes, rfl, h⟩

theorem bind {f : Bytes → Except Error Bytes} (hx : Saves x m)
    (hf : ∀ bytes : Bytes, bytes.length ≤ m → Saves (f bytes) n) : Saves (x >>= f) n := by
  obtain ⟨bytes, rfl, hbytes⟩ := hx
  exact hf bytes hbytes

theorem mono (hx : Saves x m) (h : m ≤ n) : Saves x n := by
  obtain ⟨bytes, hok, hbytes⟩ := hx
  exact ⟨bytes, hok, Nat.le_trans hbytes h⟩

end Saves

/-! ## Numbers -/

@[simp] theorem length_writeBool (b : Bool) : (writeBool b).length = 1 := rfl

@[simp] theorem length_writeU16 (n : UInt16) : (writeU16 n).length = 2 := length_littleEndian ..

@[simp] theorem length_writeU32 (n : UInt32) : (writeU32 n).length = 4 := length_littleEndian ..

theorem uses_readFixed (width : Nat) : Uses limit (readFixed width) fun _ k => k = width := by
  intro input n rest _ hread
  have hlength := length_readFixed hread
  exact ⟨width, by omega, rfl⟩

theorem uses_readU16 : Uses limit readU16 fun _ k => k = 2 :=
  (uses_readFixed 2).bind fun _ _ hk => Uses.pure hk

theorem uses_readU32 : Uses limit readU32 fun _ k => k = 4 :=
  (uses_readFixed 4).bind fun _ _ hk => Uses.pure hk

/-- A signed number is not above the largest length. -/
theorem uses_readI32 : Uses limit readI32 fun n k => n ≤ lengthLimit ∧ k = 4 := by
  refine uses_readU32.bind fun n k hk => Uses.pure ⟨?_, hk⟩
  have hless := n.toInt32.toInt_lt
  show n.toInt32.toInt ≤ 2147483647
  omega

theorem uses_readBool : Uses limit readBool fun _ k => k = 1 := by
  refine (uses_readFixed 1).bind fun n k hk => ?_
  split
  · exact Uses.pure hk
  · exact Uses.pure hk
  · exact Uses.throw _

theorem uses_readLength : Uses limit readLength fun n k => n ≤ lengthLimit ∧ k = 4 := by
  refine uses_readI32.bind fun n k hn => ?_
  obtain ⟨hn, hk⟩ := hn
  split
  · exact Uses.throw _
  · exact Uses.pure ⟨by omega, hk⟩

theorem saves_writeLength {n : Nat} (h : n ≤ lengthLimit) : Saves (writeLength n) 4 := by
  rw [writeLength, if_pos h]
  exact Saves.pure (Nat.le_of_eq (length_writeU32 _))

theorem uses_readBytes (n : Nat) :
    Uses limit (readBytes n) fun bytes k => bytes.length = n ∧ k = n := by
  intro input front rest _ hread
  obtain ⟨hlength, rfl⟩ := readBytes_eq_ok.mp hread
  refine ⟨n, ?_, hlength, rfl⟩
  rw [List.length_append, hlength, Nat.add_comm]

/-! ## Texts -/

/-- The number of bytes of a text with its length. -/
def textLength (text : String) : Nat := 4 + (Text.Utf8.encode text).length

/-- A text is not too long to be written. -/
def IsWritable (text : String) : Prop := (Text.Utf8.encode text).length ≤ lengthLimit

theorem saves_writeText {text : String} (h : IsWritable text) :
    Saves (writeText text) (textLength text) := by
  refine (saves_writeLength h).bind fun length hlength => Saves.pure ?_
  rw [List.length_append, textLength]
  omega

/-- A text that was read is written in the same bytes. -/
theorem uses_readText? : Uses limit readText? fun text k =>
    k = text.elim 4 textLength ∧ ∀ t ∈ text, IsWritable t := by
  refine uses_readI32.bind fun n k hn => ?_
  obtain ⟨hn, rfl⟩ := hn
  -- an absent text, a negative length, or just so many bytes
  split
  · exact Uses.pure ⟨rfl, fun _ h => nomatch h⟩
  split
  · exact Uses.throw_bind _ _
  · refine (uses_readBytes _).bind fun bytes k hbytes => ?_
    obtain ⟨hlength, rfl⟩ := hbytes
    cases hdecode : Text.Utf8.decode bytes with
    | error fault => exact Uses.throw _
    | ok text =>
      have hencode := Text.Utf8.encode_of_decode hdecode
      refine Uses.pure ⟨?_, ?_⟩
      · show 4 + (n.toNat + 0) = 4 + (Text.Utf8.encode text).length
        rw [hencode, hlength, Nat.add_zero]
      · intro t ht
        obtain rfl : text = t := Option.some.inj ht
        rw [IsWritable, hencode, hlength]
        omega

theorem uses_readText : Uses limit readText fun text k =>
    k = textLength text ∧ IsWritable text := by
  refine uses_readText?.bind fun text k htext => ?_
  obtain ⟨rfl, hfits⟩ := htext
  cases text with
  | some text => exact Uses.pure ⟨rfl, hfits text rfl⟩
  | none => exact Uses.throw _

theorem saves_writeText? {text : Option String} (h : ∀ t ∈ text, IsWritable t) :
    Saves (writeText? text) (text.elim 4 textLength) := by
  cases text with
  | some text => exact saves_writeText (h text rfl)
  | none => exact Saves.pure (Nat.le_of_eq (length_writeU32 _))

/-! ## Lists -/

section Lists

variable {read : Reader α} {write : β → Except Error Bytes}

/-- A property of the values read so far that one more value keeps. -/
theorem uses_readEach {p : List α → Nat → Prop} (hnil : p [] 0)
    (hread : Uses limit read fun a n => ∀ as k, p as k → p (a :: as) (n + k)) (n : Nat) :
    Uses limit (readEach read n) fun as k => as.length = n ∧ p as k := by
  induction n with
  | zero => exact Uses.pure ⟨rfl, hnil⟩
  | succ n ih =>
    rw [readEach_succ]
    refine hread.bind fun a k ha => ih.bind fun as m has => Uses.pure ⟨?_, ?_⟩
    · rw [List.length_cons, has.1]
    · exact ha as m has.2

/-- A counted list has four bytes more than its values. -/
theorem uses_readList_of {p : List α → Nat → Prop} (hnil : p [] 0)
    (hread : Uses limit read fun a n => ∀ as k, p as k → p (a :: as) (n + k)) :
    Uses limit (readList read) fun as k =>
      as.length ≤ lengthLimit ∧ ∃ m, k = 4 + m ∧ p as m := by
  refine uses_readLength.bind fun n k hn => ?_
  obtain ⟨hn, rfl⟩ := hn
  refine (uses_readEach hnil hread n).mono fun as m _ has => ?_
  obtain ⟨rfl, hp⟩ := has
  exact ⟨hn, m, rfl, hp⟩

theorem saves_writeEach_cons {b : β} {bs : List β} {m n : Nat} (hb : Saves (write b) m)
    (hbs : Saves (writeEach write bs) n) : Saves (writeEach write (b :: bs)) (m + n) := by
  rw [writeEach_cons]
  refine hb.bind fun first hfirst => hbs.bind fun others hothers => Saves.pure ?_
  rw [List.length_append]
  omega

theorem saves_writeList {bs : List β} {n : Nat} (hlength : bs.length ≤ lengthLimit)
    (h : Saves (writeEach write bs) n) : Saves (writeList write bs) (4 + n) := by
  refine (saves_writeLength hlength).bind fun count hcount => h.bind fun each heach =>
    Saves.pure ?_
  rw [List.length_append]
  omega

/-- A list is saved in no more bytes than it was read from if its values are, also if some of them
are dropped. -/
theorem uses_readList_filterMap {f : α → Option β}
    (hread : Uses limit read fun a k => ∀ b ∈ f a, Saves (write b) k) :
    Uses limit (readList read) fun as k => Saves (writeList write (as.filterMap f)) k := by
  have hkeep : Uses limit read fun a n => ∀ (as : List α) (k : Nat),
      Saves (writeEach write (as.filterMap f)) k →
      Saves (writeEach write ((a :: as).filterMap f)) (n + k) := by
    refine hread.mono fun a n _ ha as k has => ?_
    cases hf : f a with
    | none =>
      rw [List.filterMap_cons_none hf]
      exact has.mono (by omega)
    | some b =>
      rw [List.filterMap_cons_some hf]
      exact saves_writeEach_cons (ha b hf) has
  refine (uses_readList_of (Saves.pure (Nat.le_refl 0)) hkeep).mono fun as k _ has => ?_
  obtain ⟨hlength, m, rfl, has⟩ := has
  exact saves_writeList (Nat.le_trans (List.length_filterMap_le ..) hlength) has

/-- The same if none are dropped. -/
theorem uses_readList {write : α → Except Error Bytes}
    (hread : Uses limit read fun a k => Saves (write a) k) :
    Uses limit (readList read) fun as k => Saves (writeList write as) k := by
  have hsome : Uses limit read fun a k => ∀ b ∈ some a, Saves (write b) k :=
    hread.mono fun a k _ ha b hb => Option.some.inj hb ▸ ha
  refine (uses_readList_filterMap hsome).mono fun as k _ has => ?_
  rwa [List.filterMap_some] at has

end Lists

end Wordweave.Wire
