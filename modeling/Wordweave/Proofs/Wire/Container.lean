import Wordweave.Proofs.Wire.Program

/-!
# Wordweave — the grammar of compiled programs

Which bytes are a compiled program can be told without a reader. They are a *container*: eight bytes
of magic, the version `01 00`, the name, the length of the body in four bytes, its digest and the
body; and anything may follow. The name is four bytes `FF` if there is none, and otherwise the number
of its bytes in four bytes, which is below `0x80000000`, and then the bytes (`textField`).

A reader of programs asks for the parts in this order, and each part is what was asked for
(`of_readProgram`). The other way round a complete container is read to its end, and its body is
read only if the digest is right (`readProgram_container`).

Main result:

* `programOfBytes_grammar` — just the containers are accepted whose digest is that of their body and
  whose body begins with a tree; with another digest the body is not looked at.
-/

namespace Wordweave.Wire

/-! ## The grammar -/

/-- A text that may be absent. -/
def textField : Option String → Bytes
  | none => [0xFF, 0xFF, 0xFF, 0xFF]
  | some text => littleEndian 4 (Text.Utf8.encode text).length ++ Text.Utf8.encode text

/-- A container with some digest, be it that of the body or not. -/
def container (name : Option String) (digest body : Bytes) : Bytes :=
  magic ++ [0x01, 0x00] ++ textField name ++ littleEndian 4 body.length ++ digest ++ body

variable {input rest : Bytes}

/-! ## Names -/

/-- The upper half of the numbers of four bytes is negative as signed numbers. -/
theorem toInt_toInt32 (n : UInt32) : n.toInt32.toInt =
    if 2 * n.toNat < 0x100000000 then (n.toNat : Int) else (n.toNat : Int) - 0x100000000 :=
  BitVec.toInt_eq_toNat_cond n.toBitVec

theorem toNat_of_toInt_nonneg {n : UInt32} (h : 0 ≤ n.toInt32.toInt) :
    n.toInt32.toInt.toNat = n.toNat ∧ n.toNat < 0x80000000 := by
  have hsigned := toInt_toInt32 n
  have hlt := n.toNat_lt
  split at hsigned <;> omega

/-- The mark of an absent text has four bytes of its own. -/
theorem writeU32_of_absent {n : UInt32} (h : n.toInt32.toInt = absentLength) :
    writeU32 n = textField none := by
  have hsigned := toInt_toInt32 n
  have hn : n.toNat = 0xFFFFFFFF := by
    unfold absentLength at h
    split at hsigned <;> omega
  rw [writeU32, hn]
  rfl

theorem writeLength_eq {n : Nat} (h : n < 0x80000000) : writeLength n = .ok (littleEndian 4 n) := by
  have hn : (UInt32.ofNat n).toNat = n := UInt32.toNat_ofNat_of_lt' (by
    show n < 0x100000000
    omega)
  rw [writeLength, if_pos (by unfold lengthLimit; omega), writeU32, hn]

theorem writeText?_eq {text : Option String}
    (h : ∀ t ∈ text, (Text.Utf8.encode t).length < 0x80000000) :
    writeText? text = .ok (textField text) := by
  cases text with
  | none => rfl
  | some text =>
    rw [writeText?, writeText, writeLength_eq (h text rfl)]
    rfl

theorem writeBodyLength_eq {n : Nat} (h : n < 0x100000000) :
    writeBodyLength n = .ok (littleEndian 4 n) := by
  rw [writeBodyLength, if_pos h, writeU32, UInt32.toNat_ofNat_of_lt' h]

theorem readText?_eq_ok {text : Option String} :
    readText? input = .ok (text, rest) ↔
      (∀ t ∈ text, (Text.Utf8.encode t).length < 0x80000000) ∧ input = textField text ++ rest := by
  constructor
  · intro h
    obtain ⟨length, afterLength, hlength, htext⟩ := read_bind_inv h
    obtain ⟨n, rfl, rfl⟩ := readI32_eq_ok.mp hlength
    split at htext
    · next habsent =>
      obtain ⟨rfl, rfl⟩ := read_pure_inv htext
      rw [writeU32_of_absent habsent]
      exact ⟨fun _ hnone => (nomatch hnone), rfl⟩
    split at htext
    · exact nomatch htext
    · next hnonneg =>
      obtain ⟨bytes, afterBytes, hbytes, hdecoded⟩ := read_bind_inv htext
      obtain ⟨hcount, rfl⟩ := readBytes_eq_ok.mp hbytes
      obtain ⟨hsame, hlt⟩ := toNat_of_toInt_nonneg (Int.not_lt.mp hnonneg)
      cases hdecode : Text.Utf8.decode bytes with
      | error fault =>
        rw [hdecode] at hdecoded
        exact nomatch hdecoded
      | ok t =>
        rw [hdecode] at hdecoded
        obtain ⟨rfl, rfl⟩ := read_pure_inv hdecoded
        -- the bytes of the text are those that were read
        have hencode := Text.Utf8.encode_of_decode hdecode
        have hlength : n.toNat = (Text.Utf8.encode t).length := by rw [hencode, hcount, hsame]
        refine ⟨?_, ?_⟩
        · intro t' ht
          obtain rfl : t = t' := Option.some.inj ht
          rwa [← hlength]
        · rw [writeU32, hlength, textField, hencode, List.append_assoc]
  · rintro ⟨hfits, rfl⟩
    exact takes_readText? (writeText?_eq hfits) rest

/-! ## Containers -/

theorem readBody_eq_ok {body : Bytes} {root : Node} :
    readBody body = .ok root ↔ ∃ unread, readNode? body = .ok (some root, unread) := by
  unfold readBody
  cases readNode? body with
  | error e => simp
  | ok result =>
    obtain ⟨node, unread⟩ := result
    cases node with
    | none => simp
    | some node => simp

/-- A complete container is accepted if its digest is that of its body and its body is read; with
another digest its body is not read at all. -/
theorem readProgram_container {name : Option String} {digest body : Bytes}
    (hname : ∀ t ∈ name, (Text.Utf8.encode t).length < 0x80000000)
    (hbody : body.length < 0x100000000) (hdigest : digest.length = digestLength) (rest : Bytes) :
    readProgram (container name digest body ++ rest) =
      if Digest.sha256 body = digest then
        (readBody body).map fun root => (⟨name, root⟩, rest)
      else .error .wrongDigest :=
  readProgram_parts (writeText?_eq hname) (writeBodyLength_eq hbody) hdigest rest

/-- Whatever is read as a program begins with a container. -/
theorem of_readProgram {p : Program} (h : readProgram input = .ok (p, rest)) :
    ∃ body, (∀ t ∈ p.name, (Text.Utf8.encode t).length < 0x80000000) ∧ body.length < 0x100000000 ∧
      input = container p.name (Digest.sha256 body) body ++ rest ∧
      readBody body = .ok p.root := by
  -- each part in turn, with the bytes that it leaves
  obtain ⟨front, afterMagic, hread, h⟩ := read_bind_inv h
  obtain ⟨-, hfront⟩ := readBytes_eq_ok.mp hread
  split at h
  · exact nomatch h
  next hmagic =>
  obtain ⟨version, afterVersion, hread, h⟩ := read_bind_inv h
  have hversion := readU16_eq_ok.mp hread
  split at h
  · exact nomatch h
  next hknown =>
  obtain ⟨name, afterName, hread, h⟩ := read_bind_inv h
  obtain ⟨hfits, hname⟩ := readText?_eq_ok.mp hread
  obtain ⟨length, afterLength, hread, h⟩ := read_bind_inv h
  have hlength := readU32_eq_ok.mp hread
  obtain ⟨digest, afterDigest, hread, h⟩ := read_bind_inv h
  obtain ⟨-, hdigest⟩ := readBytes_eq_ok.mp hread
  obtain ⟨body, afterBody, hread, h⟩ := read_bind_inv h
  obtain ⟨hcount, hbody⟩ := readBytes_eq_ok.mp hread
  split at h
  · exact nomatch h
  next hsum =>
  obtain ⟨root, middle, hread, h⟩ := read_bind_inv h
  obtain ⟨hroot, rfl⟩ := read_lift_inv hread
  obtain ⟨rfl, rfl⟩ := read_pure_inv h
  -- what was compared is the same
  obtain rfl : front = magic := by simpa using hmagic
  obtain rfl : version = formatVersion := by simpa using hknown
  obtain rfl : Digest.sha256 body = digest := by simpa using hsum
  have hlimit : body.length < 0x100000000 := hcount ▸ length.toNat_lt
  refine ⟨body, hfits, hlimit, ?_, hroot⟩
  calc input = magic ++ (writeU16 formatVersion ++ (textField name ++ (writeU32 length ++
        (Digest.sha256 body ++ (body ++ afterBody))))) := by
        rw [hfront, hversion, hname, hlength, hdigest, hbody]
    _ = container name (Digest.sha256 body) body ++ afterBody := by
        simp only [container, writeU32, hcount, List.append_assoc]
        rfl

/-- **The grammar.** Bytes are accepted as a program just if they begin with a container whose digest
is that of its body and whose body begins with the tree of the program. If a container is complete
and its digest is another one, this is the error, whatever the body is. -/
theorem programOfBytes_grammar :
    (∀ (bytes : Bytes) (name : Option String) (root : Node),
      programOfBytes bytes = .ok ⟨name, root⟩ ↔
        ∃ body trailing unread, (∀ t ∈ name, (Text.Utf8.encode t).length < 0x80000000) ∧
          body.length < 0x100000000 ∧
          bytes = container name (Digest.sha256 body) body ++ trailing ∧
          readNode? body = .ok (some root, unread)) ∧
    ∀ (name : Option String) (digest body trailing : Bytes),
      (∀ t ∈ name, (Text.Utf8.encode t).length < 0x80000000) → body.length < 0x100000000 →
      digest.length = digestLength → digest ≠ Digest.sha256 body →
      programOfBytes (container name digest body ++ trailing) = .error .wrongDigest := by
  refine ⟨fun bytes name root => ⟨?_, ?_⟩, ?_⟩
  · intro h
    obtain ⟨trailing, hread⟩ := programOfBytes_eq_ok.mp h
    obtain ⟨body, hname, hbody, hbytes, hroot⟩ := of_readProgram hread
    obtain ⟨unread, hnode⟩ := readBody_eq_ok.mp hroot
    exact ⟨body, trailing, unread, hname, hbody, hbytes, hnode⟩
  · rintro ⟨body, trailing, unread, hname, hbody, rfl, hnode⟩
    have hroot : readBody body = .ok root := readBody_eq_ok.mpr ⟨unread, hnode⟩
    refine programOfBytes_eq_ok.mpr ⟨trailing, ?_⟩
    rw [readProgram_container hname hbody (length_sha256 body), if_pos rfl, hroot]
    rfl
  · intro name digest body trailing hname hbody hdigest hother
    rw [programOfBytes, readProgram_container hname hbody hdigest, if_neg (Ne.symm hother)]
    rfl

end Wordweave.Wire
