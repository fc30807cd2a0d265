import Wordweave.Proofs.Text.Utf8
import Wordweave.Wire.Codec

/-!
# Wordweave — what readers take

A reader *takes* some bytes for a value if it gives the value wherever the bytes come first, and
leaves just what follows them (`Takes`). Readers in a row take bytes in a row (`Takes.bind`), so
that what a compound reader takes is put together from what its parts take, in the order in which
the writer has put the bytes together.

A reader is *local* if how it fares is not changed by what comes later (`Local`): whatever it
succeeds on begins with bytes that it takes, and it stays with an error unless this was a *shortage*,
which says that the bytes have come to an end too soon. All readers of the format are local.

What is known of the values that a reader gives, whatever the bytes, is told by `Gives`.

Here are the numbers, the texts and the lists: each reader takes what its writer writes. A number
has no other bytes than those that are written for it (`readFixed_eq_ok`).
-/

namespace Wordweave.Wire

variable {α β : Type}

/-! ## Readers in a row -/

/-- The second reader begins where the first has ended. -/
theorem bind_apply (r : Reader α) (f : α → Reader β) (input : Bytes) :
    (r >>= f) input = match r input with
      | .ok (a, rest) => f a rest
      | .error e => .error e := by
  show StateT.bind r f input = _
  unfold StateT.bind
  cases r input <;> rfl

/-- A reader that reads nothing. -/
theorem pure_apply (a : α) (input : Bytes) : (pure a : Reader α) input = .ok (a, input) := rfl

/-- If readers in a row succeed, the first one does, and the others do on what it leaves. -/
theorem read_bind_inv {r : Reader α} {f : α → Reader β} {input rest : Bytes} {b : β}
    (h : (r >>= f) input = .ok (b, rest)) :
    ∃ a middle, r input = .ok (a, middle) ∧ f a middle = .ok (b, rest) := by
  rw [bind_apply] at h
  cases hfirst : r input with
  | error e =>
    rw [hfirst] at h
    exact nomatch h
  | ok result =>
    rw [hfirst] at h
    exact ⟨result.1, result.2, rfl, h⟩

/-- A reader that reads nothing leaves everything. -/
theorem read_pure_inv {a b : α} {input rest : Bytes}
    (h : (pure a : Reader α) input = .ok (b, rest)) : a = b ∧ input = rest := by
  simpa [pure_apply] using h

/-- A value that is there already is given without reading. -/
theorem read_lift_inv {x : Except Error α} {a : α} {input rest : Bytes}
    (h : (liftM x : Reader α) input = .ok (a, rest)) : x = .ok a ∧ input = rest := by
  cases x with
  | error e => exact nomatch h
  | ok b =>
    obtain ⟨rfl, rfl⟩ : b = a ∧ input = rest := by simpa using Except.ok.inj h
    exact ⟨rfl, rfl⟩

/-- If writers in a row succeed, the first one does, and the others do after it. -/
theorem bind_inv {x : Except Error α} {f : α → Except Error β} {b : β} (h : (x >>= f) = .ok b) :
    ∃ a, x = .ok a ∧ f a = .ok b := by
  rcases x with e | a
  · exact nomatch h
  · exact ⟨a, rfl, h⟩

/-- A writer that gives its bytes at once. -/
theorem pure_inv {a b : α} (h : (pure a : Except Error α) = .ok b) : a = b := Except.ok.inj h

/-- A reader takes some bytes for a value: it gives the value wherever the bytes come first, and
leaves what follows them. -/
def Takes (r : Reader α) (bytes : Bytes) (a : α) : Prop :=
  ∀ rest, r (bytes ++ rest) = .ok (a, rest)

namespace Takes

/-- Nothing is taken by a reader that reads nothing. -/
theorem pure (a : α) : Takes (Pure.pure a) [] a := fun _ => rfl

/-- What is read next is read behind the bytes that were taken. -/
theorem bind_append {r : Reader α} {xs : Bytes} {a : α} (hr : Takes r xs a) (f : α → Reader β)
    (rest : Bytes) : (r >>= f) (xs ++ rest) = f a rest := by
  rw [bind_apply, hr]

/-- Readers in a row take bytes in a row. -/
theorem bind {r : Reader α} {f : α → Reader β} {xs ys : Bytes} {a : α} {b : β}
    (hr : Takes r xs a) (hf : Takes (f a) ys b) : Takes (r >>= f) (xs ++ ys) b := by
  intro rest
  rw [List.append_assoc, hr.bind_append]
  exact hf rest

/-- A reader after which nothing more is read. -/
theorem bind_nil {r : Reader α} {f : α → Reader β} {xs : Bytes} {a : α} {b : β}
    (hr : Takes r xs a) (hf : Takes (f a) [] b) : Takes (r >>= f) xs b := by
  have h := hr.bind hf
  rwa [List.append_nil] at h

/-- A value that is changed after it has been read. -/
theorem map {r : Reader α} {xs : Bytes} {a : α} (hr : Takes r xs a) (f : α → β) :
    Takes (do return f (← r)) xs (f a) :=
  hr.bind_nil (pure (f a))

end Takes

/-- The errors that say that there are too few bytes, which are the I/O errors. -/
def Error.isShortage : Error → Bool
  | .endOfBytes | .tooFewBytes _ _ => true
  | _ => false

/-- A reader that is not concerned with what comes later. Its success is owed to the bytes that it
takes and to none behind them, and no more bytes will make good an error that is not a shortage. -/
structure Local (r : Reader α) : Prop where
  takes {input rest : Bytes} {a : α} (h : r input = .ok (a, rest)) :
    ∃ taken, input = taken ++ rest ∧ Takes r taken a
  final {input : Bytes} {e : Error} (h : r input = .error e) (he : e.isShortage = false)
    (more : Bytes) : r (input ++ more) = .error e

namespace Local

theorem pure (a : α) : Local (Pure.pure a : Reader α) where
  takes h := by
    obtain ⟨rfl, rfl⟩ := read_pure_inv h
    exact ⟨[], rfl, Takes.pure a⟩
  final h := nomatch h

theorem throw (e : Error) : Local (throw e : Reader α) where
  takes h := nomatch h
  final h _ _ := h

/-- What comes after a failure is never read. -/
theorem throw_bind (e : Error) (f : α → Reader β) :
    Local ((MonadExcept.throw e : Reader α) >>= f) where
  takes h := nomatch h
  final h _ _ := h

variable {r : Reader α} {input rest : Bytes} {a : α}

/-- What comes later is left where it is. -/
theorem extend (hr : Local r) (h : r input = .ok (a, rest)) (more : Bytes) :
    r (input ++ more) = .ok (a, rest ++ more) := by
  obtain ⟨taken, rfl, htaken⟩ := hr.takes h
  rw [List.append_assoc]
  exact htaken (rest ++ more)

theorem bind {f : α → Reader β} (hr : Local r) (hf : ∀ a, Local (f a)) : Local (r >>= f) where
  takes h := by
    obtain ⟨a, middle, hfirst, hsecond⟩ := read_bind_inv h
    obtain ⟨xs, rfl, hxs⟩ := hr.takes hfirst
    obtain ⟨ys, rfl, hys⟩ := (hf a).takes hsecond
    exact ⟨xs ++ ys, (List.append_assoc ..).symm, hxs.bind hys⟩
  final {input e} h he more := by
    -- the error is that of the first reader, or that of the second on what the first one leaves
    rw [bind_apply] at h ⊢
    cases hfirst : r input with
    | error e' =>
      rw [hfirst] at h
      obtain rfl : e' = e := Except.error.inj h
      rw [hr.final hfirst he]
    | ok result =>
      rw [hfirst] at h
      rw [hr.extend hfirst]
      exact (hf result.1).final h he more

/-- No reader makes its input longer. -/
theorem length_le (hr : Local r) (h : r input = .ok (a, rest)) : rest.length ≤ input.length := by
  obtain ⟨taken, rfl, -⟩ := hr.takes h
  simp

end Local

/-- Whatever a reader gives has a property. -/
def Gives (r : Reader α) (p : α → Prop) : Prop :=
  ∀ (input : Bytes) (a : α) (rest : Bytes), r input = .ok (a, rest) → p a

namespace Gives

variable {p : α → Prop} {q : β → Prop}

theorem pure {a : α} (h : p a) : Gives (Pure.pure a) p := by
  intro input b rest hread
  obtain ⟨rfl, -⟩ := read_pure_inv hread
  exact h

theorem throw (e : Error) : Gives (throw e : Reader α) p := by
  intro input a rest hread
  exact nomatch hread

theorem bind {r : Reader α} {f : α → Reader β} (hr : Gives r p) (hf : ∀ a, p a → Gives (f a) q) :
    Gives (r >>= f) q := by
  intro input b rest hread
  obtain ⟨a, middle, hfirst, hsecond⟩ := read_bind_inv hread
  exact hf a (hr _ _ _ hfirst) _ _ _ hsecond

/-- Nothing need be known of what is read first. -/
theorem after {r : Reader α} {f : α → Reader β} (hf : ∀ a, Gives (f a) q) : Gives (r >>= f) q := by
  intro input b rest hread
  obtain ⟨a, middle, -, hsecond⟩ := read_bind_inv hread
  exact hf a _ _ _ hsecond

end Gives

/-! ## Fixed width -/

/-- A number is written in just so many bytes. -/
@[simp] theorem length_littleEndian (width n : Nat) : (littleEndian width n).length = width := by
  induction width generalizing n with
  | zero => rfl
  | succ width ih => rw [littleEndian, List.length_cons, ih]

/-- The bytes of a number make that number, if there are enough of them. -/
theorem ofLittleEndian_littleEndian {width n : Nat} (h : n < Nat.pow 256 width) :
    ofLittleEndian (littleEndian width n) = n := by
  induction width generalizing n with
  | zero =>
    have hzero : n < 1 := h
    rw [littleEndian, ofLittleEndian]
    omega
  | succ width ih =>
    -- the lowest byte makes room for the others
    have hsucc : n < Nat.pow 256 width * 256 := h
    have hrest : n / 256 < Nat.pow 256 width := by omega
    rw [littleEndian, ofLittleEndian, ih hrest, UInt8.toNat_ofNat']
    omega

/-- The number that bytes write is written in these bytes. -/
theorem littleEndian_ofLittleEndian (bytes : Bytes) :
    littleEndian bytes.length (ofLittleEndian bytes) = bytes := by
  induction bytes with
  | nil => rfl
  | cons b rest ih =>
    have hbyte := b.toNat_lt
    have hlow : UInt8.ofNat (b.toNat + 256 * ofLittleEndian rest) = b := by
      rw [← UInt8.toNat_inj, UInt8.toNat_ofNat']
      omega
    have hhigh : (b.toNat + 256 * ofLittleEndian rest) / 256 = ofLittleEndian rest := by omega
    rw [ofLittleEndian, List.length_cons, littleEndian, hlow, hhigh, ih]

theorem ofLittleEndian_lt (bytes : Bytes) : ofLittleEndian bytes < Nat.pow 256 bytes.length := by
  induction bytes with
  | nil => exact Nat.one_pos
  | cons b rest ih =>
    have hbyte := b.toNat_lt
    show b.toNat + 256 * ofLittleEndian rest < Nat.pow 256 rest.length * 256
    omega

theorem takes_readFixed {width n : Nat} (h : n < Nat.pow 256 width) :
    Takes (readFixed width) (littleEndian width n) n := by
  intro rest
  simp [readFixed, ofLittleEndian_littleEndian h]

theorem readFixed_eq_ok {width n : Nat} {input rest : Bytes} :
    readFixed width input = .ok (n, rest) ↔
      n < Nat.pow 256 width ∧ input = littleEndian width n ++ rest := by
  constructor
  · intro h
    simp only [readFixed, List.splitAt_eq] at h
    split at h
    · next hlength =>
      obtain ⟨rfl, rfl⟩ : ofLittleEndian (input.take width) = n ∧ input.drop width = rest := by
        simpa using h
      -- the bytes in front are those that are written for their number
      have hlt := ofLittleEndian_lt (input.take width)
      have hwritten := littleEndian_ofLittleEndian (input.take width)
      rw [hlength] at hlt hwritten
      exact ⟨hlt, by rw [hwritten, List.take_append_drop]⟩
    · simp at h
  · rintro ⟨hn, rfl⟩
    exact takes_readFixed hn rest

theorem local_readFixed (width : Nat) : Local (readFixed width) where
  takes h := by
    obtain ⟨hn, rfl⟩ := readFixed_eq_ok.mp h
    exact ⟨_, rfl, takes_readFixed hn⟩
  final {input e} h he := by
    -- there is no other error than a shortage
    simp only [readFixed, List.splitAt_eq] at h
    split at h
    · simp at h
    · obtain rfl : .endOfBytes = e := by simpa using h
      exact nomatch he

/-- A number of two bytes. -/
theorem takes_readU16 (n : UInt16) : Takes readU16 (writeU16 n) n := by
  have h := (@takes_readFixed 2 n.toNat n.toNat_lt).map UInt16.ofNat
  rwa [UInt16.ofNat_toNat] at h

theorem readU16_eq_ok {n : UInt16} {input rest : Bytes} :
    readU16 input = .ok (n, rest) ↔ input = writeU16 n ++ rest := by
  constructor
  · intro h
    obtain ⟨number, middle, hread, h⟩ := read_bind_inv h
    obtain ⟨rfl, rfl⟩ := read_pure_inv h
    obtain ⟨hlt, rfl⟩ := readFixed_eq_ok.mp hread
    rw [writeU16, UInt16.toNat_ofNat_of_lt' hlt]
  · rintro rfl
    exact takes_readU16 n rest

theorem local_readU16 : Local readU16 := (local_readFixed 2).bind fun _ => Local.pure _

/-- A number of four bytes. -/
theorem takes_readU32 (n : UInt32) : Takes readU32 (writeU32 n) n := by
  have h := (@takes_readFixed 4 n.toNat n.toNat_lt).map UInt32.ofNat
  rwa [UInt32.ofNat_toNat] at h

theorem readU32_eq_ok {n : UInt32} {input rest : Bytes} :
    readU32 input = .ok (n, rest) ↔ input = writeU32 n ++ rest := by
  constructor
  · intro h
    obtain ⟨number, middle, hread, h⟩ := read_bind_inv h
    obtain ⟨rfl, rfl⟩ := read_pure_inv h
    obtain ⟨hlt, rfl⟩ := readFixed_eq_ok.mp hread
    rw [writeU32, UInt32.toNat_ofNat_of_lt' hlt]
  · rintro rfl
    exact takes_readU32 n rest

theorem local_readU32 : Local readU32 := (local_readFixed 4).bind fun _ => Local.pure _

/-- The same bytes as a signed number. -/
theorem takes_readI32 (n : UInt32) : Takes readI32 (writeU32 n) n.toInt32.toInt :=
  (takes_readU32 n).map fun n => n.toInt32.toInt

theorem readI32_eq_ok {n : Int} {input rest : Bytes} :
    readI32 input = .ok (n, rest) ↔
      ∃ u : UInt32, u.toInt32.toInt = n ∧ input = writeU32 u ++ rest := by
  constructor
  · intro h
    obtain ⟨u, middle, hread, h⟩ := read_bind_inv h
    obtain ⟨rfl, rfl⟩ := read_pure_inv h
    exact ⟨u, rfl, readU32_eq_ok.mp hread⟩
  · rintro ⟨u, rfl, rfl⟩
    exact takes_readI32 u rest

theorem local_readI32 : Local readI32 := local_readU32.bind fun _ => Local.pure _

/-- A truth value. -/
theorem takes_readBool (b : Bool) : Takes readBool (writeBool b) b := by
  -- a truth value is written as a number of one byte
  have hbyte : writeBool b = littleEndian 1 b.toNat := by cases b <;> rfl
  have hread : Takes (readFixed 1) (writeBool b) b.toNat := by
    rw [hbyte]
    exact takes_readFixed (by cases b <;> decide)
  refine hread.bind_nil ?_
  cases b <;> exact Takes.pure _

theorem local_readBool : Local readBool := by
  refine (local_readFixed 1).bind fun n => ?_
  split <;> first | exact Local.pure _ | exact Local.throw _

/-! ## Lengths and texts -/

/-- A length that can be written is what its bytes make as a signed number. -/
theorem toInt_length {n : Nat} (h : n ≤ lengthLimit) : (UInt32.ofNat n).toInt32.toInt = n := by
  unfold lengthLimit at h
  have hn : (UInt32.ofNat n).toBitVec.toNat = n := UInt32.toNat_ofNat_of_lt' (by
    show n < 4294967296
    omega)
  show (UInt32.ofNat n).toBitVec.toInt = n
  rw [BitVec.toInt_eq_toNat_of_lt (by omega), hn]

/-- A length. -/
theorem takes_readLength {n : Nat} {bytes : Bytes} (h : writeLength n = .ok bytes) :
    Takes readLength bytes n := by
  unfold writeLength at h
  split at h
  · next hn =>
    obtain rfl : writeU32 (UInt32.ofNat n) = bytes := by simpa using h
    refine (takes_readI32 _).bind_nil ?_
    rw [toInt_length hn, if_neg (by omega), Int.toNat_natCast]
    exact Takes.pure n
  · simp at h

theorem local_readLength : Local readLength := by
  refine local_readI32.bind fun n => ?_
  split
  · exact Local.throw _
  · exact Local.pure _

/-- Just so many bytes. -/
theorem takes_readBytes (bytes : Bytes) : Takes (readBytes bytes.length) bytes bytes := by
  intro rest
  simp [readBytes]

theorem readBytes_eq_ok {n : Nat} {bytes input rest : Bytes} :
    readBytes n input = .ok (bytes, rest) ↔ bytes.length = n ∧ input = bytes ++ rest := by
  constructor
  · intro h
    simp only [readBytes, List.splitAt_eq] at h
    split at h
    · next hlength =>
      obtain ⟨rfl, rfl⟩ : input.take n = bytes ∧ input.drop n = rest := by simpa using h
      exact ⟨hlength, (List.take_append_drop ..).symm⟩
    · simp at h
  · rintro ⟨rfl, rfl⟩
    exact takes_readBytes bytes rest

theorem local_readBytes (n : Nat) : Local (readBytes n) where
  takes h := by
    obtain ⟨rfl, rfl⟩ := readBytes_eq_ok.mp h
    exact ⟨_, rfl, takes_readBytes _⟩
  final {input e} h he := by
    simp only [readBytes, List.splitAt_eq] at h
    split at h
    · simp at h
    · obtain rfl : .tooFewBytes n (input.take n).length = e := by simpa using h
      exact nomatch he

/-- Bytes behind their number are read as the text that they are. If they are none, the error has
the bytes and what is wrong with them. -/
theorem readText?_append {bytes : Bytes} (h : bytes.length ≤ lengthLimit) (rest : Bytes) :
    readText? (writeU32 (UInt32.ofNat bytes.length) ++ (bytes ++ rest)) =
      match Text.Utf8.decode bytes with
      | .ok text => .ok (some text, rest)
      | .error fault => .error (.invalidText bytes fault) := by
  rw [readText?, (takes_readI32 _).bind_append]
  -- neither the mark of an absent text nor another negative length
  rw [toInt_length h, if_neg (by unfold absentLength; omega), if_neg (by omega),
    Int.toNat_natCast]
  refine ((takes_readBytes bytes).bind_append _ rest).trans ?_
  cases Text.Utf8.decode bytes <;> rfl

/-- A text. Its length is never the one that marks an absent text. -/
theorem takes_readText?_some {text : String} {bytes : Bytes} (h : writeText text = .ok bytes) :
    Takes readText? bytes (some text) := by
  obtain ⟨length, hlength, hbytes⟩ := bind_inv h
  obtain rfl := pure_inv hbytes
  unfold writeLength at hlength
  split at hlength
  · next hn =>
    obtain rfl : writeU32 (UInt32.ofNat (Text.Utf8.encode text).length) = length := by
      simpa using hlength
    intro rest
    rw [List.append_assoc, readText?_append hn, Text.Utf8.decode_encode]
  · simp at hlength

/-- A text that may be absent. -/
theorem takes_readText? {text : Option String} {bytes : Bytes} (h : writeText? text = .ok bytes) :
    Takes readText? bytes text := by
  cases text with
  | some text => exact takes_readText?_some h
  | none =>
    obtain rfl : writeI32 absentLength = bytes := by simpa [writeText?] using h
    exact (takes_readI32 _).bind_nil (Takes.pure none)

/-- A text that must be there. -/
theorem takes_readText {text : String} {bytes : Bytes} (h : writeText text = .ok bytes) :
    Takes readText bytes text :=
  (takes_readText?_some h).bind_nil (Takes.pure text)

theorem local_readText? : Local readText? := by
  refine local_readI32.bind fun n => ?_
  -- an absent text, a negative length, or bytes that may be no text
  split
  · exact Local.pure _
  · split
    · exact Local.throw_bind _ _
    · refine (local_readBytes _).bind fun bytes => ?_
      cases Text.Utf8.decode bytes with
      | ok text => exact Local.pure _
      | error fault => exact Local.throw _

theorem local_readText : Local readText := by
  refine local_readText?.bind fun text => ?_
  cases text with
  | some text => exact Local.pure _
  | none => exact Local.throw _

/-! ## Lists -/

section Lists

variable {read : Reader α} {write : β → Except Error Bytes}

/-- One value more than none. -/
theorem readEachOnto_succ (n : Nat) (done : List α) :
    readEachOnto read (n + 1) done = read >>= fun a => readEachOnto read n (a :: done) := by
  funext input
  rw [bind_apply]
  rfl

/-- What has been read before stays in front. -/
theorem readEachOnto_eq (n : Nat) (done : List α) :
    readEachOnto read n done = do return done.reverse ++ (← readEach read n) := by
  induction n generalizing done with
  | zero =>
    funext input
    simp [readEach, readEachOnto, bind_apply, pure_apply]
  | succ n ih =>
    funext input
    rw [readEachOnto_succ, readEach, readEachOnto_succ]
    simp only [bind_apply, ih]
    cases read input with
    | error e => rfl
    | ok result =>
      cases hothers : readEach read n result.2 with
      | error e => simp [hothers]
      | ok others => simp [pure_apply, hothers]

/-- No values. -/
theorem readEach_zero : readEach read 0 = pure [] := rfl

/-- Several values are a first one and the others. -/
theorem readEach_succ (n : Nat) :
    readEach read (n + 1) = do
      let a ← read
      return a :: (← readEach read n) := by
  funext input
  rw [readEach, readEachOnto_succ, bind_apply, bind_apply]
  cases read input with
  | error e => rfl
  | ok result =>
    simp only [readEachOnto_eq, bind_apply]
    rfl

theorem local_readEach (hread : Local read) (n : Nat) : Local (readEach read n) := by
  induction n with
  | zero => exact Local.pure _
  | succ n ih =>
    rw [readEach_succ]
    exact hread.bind fun _ => ih.bind fun _ => Local.pure _

/-- The values of a list all have the property of each. -/
theorem gives_readEach {p : α → Prop} (hread : Gives read p) (n : Nat) :
    Gives (readEach read n) fun as => ∀ a ∈ as, p a := by
  induction n with
  | zero => exact Gives.pure fun _ h => nomatch h
  | succ n ih =>
    rw [readEach_succ]
    refine hread.bind fun a ha => ih.bind fun as has => Gives.pure ?_
    exact List.forall_mem_cons.mpr ⟨ha, has⟩

theorem local_readList (hread : Local read) : Local (readList read) :=
  local_readLength.bind fun n => local_readEach hread n

/-- A written list begins with its first value. -/
theorem writeEach_cons (b : β) (bs : List β) :
    writeEach write (b :: bs) = do
      let first ← write b
      return first ++ (← writeEach write bs) := by
  unfold writeEach
  rw [List.mapM_cons]
  cases write b with
  | error e => rfl
  | ok first => cases bs.mapM write <;> rfl

/-- Values one after the other, each of which is read as `f` makes of it. -/
theorem takes_readEach {f : β → α} {bs : List β} {bytes : Bytes}
    (hread : ∀ b ∈ bs, ∀ {xs}, write b = .ok xs → Takes read xs (f b))
    (h : writeEach write bs = .ok bytes) : Takes (readEach read bs.length) bytes (bs.map f) := by
  induction bs generalizing bytes with
  | nil =>
    obtain rfl : [] = bytes := pure_inv h
    exact Takes.pure []
  | cons b bs ih =>
    rw [writeEach_cons] at h
    obtain ⟨first, hfirst, h⟩ := bind_inv h
    obtain ⟨others, hothers, h⟩ := bind_inv h
    obtain rfl := pure_inv h
    have htail := ih (fun c hc => hread c (List.mem_cons_of_mem _ hc)) hothers
    rw [List.length_cons, readEach_succ, List.map_cons]
    exact (hread b (List.mem_cons_self ..) hfirst).bind (htail.map (f b :: ·))

/-- A counted list. -/
theorem takes_readList {f : β → α} {bs : List β} {bytes : Bytes}
    (hread : ∀ b ∈ bs, ∀ {xs}, write b = .ok xs → Takes read xs (f b))
    (h : writeList write bs = .ok bytes) : Takes (readList read) bytes (bs.map f) := by
  obtain ⟨count, hcount, h⟩ := bind_inv h
  obtain ⟨each, heach, h⟩ := bind_inv h
  obtain rfl := pure_inv h
  exact (takes_readLength hcount).bind (takes_readEach hread heach)

end Lists

end Wordweave.Wire
