import Wordweave.Proofs.Run.Normal
import Wordweave.Proofs.Wire.RoundTrip
import Wordweave.Wire.Container

/-!
# Wordweave — compiled programs run as their sources

A program that is written and read again has its name and the normal form of its tree
(`takes_readProgram`). The normal form runs as the tree does, so a compiled program prints what its
source prints, remembers the same and leaves the same random words.

Main result:

* `programOfBytes_run` — compiling preserves what runs do.
-/

namespace Wordweave.Wire

/-- A digest has its length. -/
theorem length_sha256 (message : Bytes) : (Digest.sha256 message).length = digestLength := by
  simp [Digest.sha256, Digest.State.words, Digest.bigEndian, digestLength]

/-- The length of a body. -/
theorem takes_bodyLength {n : Nat} {bytes : Bytes} (h : writeBodyLength n = .ok bytes) :
    ∃ length : UInt32, length.toNat = n ∧ Takes readU32 bytes length := by
  unfold writeBodyLength at h
  split at h
  · next hn =>
    obtain rfl : writeU32 (UInt32.ofNat n) = bytes := by simpa using h
    exact ⟨UInt32.ofNat n, UInt32.toNat_ofNat_of_lt' hn, takes_readU32 _⟩
  · simp at h

/-- The tree of a body that was written is its normal form. -/
theorem readBody_of_writeNode {root : Node} {body : Bytes} (h : writeNode root = .ok body) :
    readBody body = .ok root.normal := by
  have hread := readNode?_of_writeNode h []
  rw [List.append_nil] at hread
  rw [readBody, hread]

/-- A container is read part by part. If it is complete, its digest is checked before anything is
read in its body, and what comes of the body is all that is left open. -/
theorem readProgram_parts {name : Option String} {front length digest body : Bytes}
    (hname : writeText? name = .ok front) (hlength : writeBodyLength body.length = .ok length)
    (hdigest : digest.length = digestLength) (rest : Bytes) :
    readProgram (magic ++ writeU16 formatVersion ++ front ++ length ++ digest ++ body ++ rest) =
      if Digest.sha256 body = digest then
        (readBody body).map fun root => (⟨name, root⟩, rest)
      else .error .wrongDigest := by
  obtain ⟨n, hn, hlength⟩ := takes_bodyLength hlength
  have hdigest := hdigest ▸ takes_readBytes digest
  have hcontent := hn ▸ takes_readBytes body
  simp only [List.append_assoc]
  -- the parts in order: magic, version, name, length, digest and body
  refine ((takes_readBytes magic).bind_append _ _).trans ?_
  rw [if_neg (by simp)]
  refine ((takes_readU16 formatVersion).bind_append _ _).trans ?_
  rw [if_neg (by simp)]
  refine ((takes_readText? hname).bind_append _ _).trans ?_
  refine (hlength.bind_append _ _).trans ?_
  refine (hdigest.bind_append _ _).trans ?_
  refine (hcontent.bind_append _ _).trans ?_
  by_cases hsum : Digest.sha256 body = digest
  · rw [if_pos hsum, if_neg (by simpa using hsum)]
    cases readBody body <;> rfl
  · rw [if_neg hsum, if_pos (by simpa using hsum)]
    rfl

/-- A container is read as its name and the tree of its body, whatever body it is. -/
theorem takes_container {name : Option String} {front length body : Bytes} {root : Node}
    (hname : writeText? name = .ok front) (hlength : writeBodyLength body.length = .ok length)
    (hroot : readBody body = .ok root) :
    Takes readProgram
      (magic ++ writeU16 formatVersion ++ front ++ length ++ Digest.sha256 body ++ body)
      ⟨name, root⟩ := by
  intro rest
  rw [readProgram_parts hname hlength (length_sha256 body), if_pos rfl, hroot]
  rfl

/-- A program comes back with its tree in normal form. -/
theorem takes_readProgram {p : Program} {bytes : Bytes} (h : writeProgram p = .ok bytes) :
    Takes readProgram bytes ⟨p.name, p.root.normal⟩ := by
  obtain ⟨body, hbody, h⟩ := bind_inv h
  obtain ⟨length, hlength, h⟩ := bind_inv h
  obtain ⟨name, hname, h⟩ := bind_inv h
  obtain rfl := pure_inv h
  exact takes_container hname hlength (readBody_of_writeNode hbody)

/-- Bytes are a program if one is read from them, whatever is left. -/
theorem programOfBytes_eq_ok {bytes : Bytes} {p : Program} :
    programOfBytes bytes = .ok p ↔ ∃ rest, readProgram bytes = .ok (p, rest) := by
  unfold programOfBytes
  cases readProgram bytes with
  | error e => simp [Except.map]
  | ok result =>
    obtain ⟨q, rest⟩ := result
    simp [Except.map]

/-- A program that was written is read with its tree in normal form. -/
theorem programOfBytes_of_writeProgram {p : Program} {bytes : Bytes}
    (h : writeProgram p = .ok bytes) : programOfBytes bytes = .ok ⟨p.name, p.root.normal⟩ := by
  have hread := takes_readProgram h []
  rw [List.append_nil] at hread
  exact programOfBytes_eq_ok.mpr ⟨[], hread⟩

/-- **Compiling.** What is written of a program can be read, and with any vocabulary or none, and
from any state, the program that was read prints the same units as its source, and leaves the same
memory and the same random words. -/
theorem programOfBytes_run {p : Program} {bytes : Bytes} (h : writeProgram p = .ok bytes) :
    ∃ p' : Program, programOfBytes bytes = .ok p' ∧ p'.name = p.name ∧
      ∀ (vocabulary : Option Vocabulary) (catalog : Catalog) (s : RunState),
        p'.root.run (.ofVocabulary vocabulary catalog) s =
          p.root.run (.ofVocabulary vocabulary catalog) s :=
  ⟨⟨p.name, p.root.normal⟩, programOfBytes_of_writeProgram h, rfl,
    fun vocabulary catalog s => p.root.run_normal vocabulary catalog s⟩

/-- A program with ties that are repeated runs as its source. -/
theorem programOfBytes_run_noun :
    ∃ bytes, writeProgram ⟨some "noun", nounWith repeatedTies⟩ = .ok bytes ∧
      ∃ p' : Program, programOfBytes bytes = .ok p' ∧ p'.name = some "noun" ∧
        ∀ (vocabulary : Option Vocabulary) (catalog : Catalog) (s : RunState),
          p'.root.run (.ofVocabulary vocabulary catalog) s =
            (nounWith repeatedTies).run (.ofVocabulary vocabulary catalog) s := by
  obtain ⟨bytes, hwrite⟩ :
      ∃ bytes, writeProgram ⟨some "noun", nounWith repeatedTies⟩ = .ok bytes := ⟨_, rfl⟩
  exact ⟨bytes, hwrite, programOfBytes_run hwrite⟩

end Wordweave.Wire
