import Wordweave.Proofs.Wire.Program
import Wordweave.Proofs.Wire.SavedLookup

/-!
# Wordweave — programs that were read are saved

Whatever bytes are read as a program, the program can be saved again, in no more bytes than it was
read from, and the bytes that are saved are read as the very same program. So a program that is
loaded and saved once is settled: to load and save it again gives the same bytes.

The tree of a program is read from a body whose length is written in four bytes. This is the limit
that keeps merged carriers small enough (`uses_readLookup`), and the body that is saved is within it
again, being no longer. What was read is in normal form, so it comes back unchanged.

Main results:

* `uses_readTree?`           — a tree that was read is saved in no more bytes.
* `programOfBytes_resaved`   — and so is a program, which is then read as it was.
-/

namespace Wordweave.Wire

variable {limit : Nat}

/-! ## Trees -/

@[simp] theorem length_writeHeader (node : Node) : (writeHeader node).length = 12 := by
  simp [writeHeader]

theorem uses_readHeader : Uses limit readHeader fun header k => k = headerLength header := by
  intro input header rest _ hread
  have hlength := length_readHeader hread
  exact ⟨headerLength header, by omega, rfl⟩

section Children

variable {child : Reader (Option Node)}
  (hchild : Uses limit child fun node k => Saves (encode? node) k)

include hchild

theorem uses_present : Uses limit (present child) fun node k => Saves (encode node) k := by
  refine hchild.bind fun node k hnode => ?_
  cases node with
  | none => exact Uses.throw _
  | some node =>
    rw [encode?] at hnode
    exact Uses.pure hnode

/-- What comes after a header is saved in twelve bytes more, those of the header. -/
theorem uses_readAfter (hlimit : limit < 0x100000000) (header : NodeKind × Location) :
    Uses limit (readAfter child header) fun node k => Saves (encode node) (12 + k) := by
  obtain ⟨kind, location⟩ := header
  cases kind with
  | text =>
    refine uses_readText.bind fun text k htext => Uses.pure ?_
    obtain ⟨rfl, htext⟩ := htext
    rw [encode]
    refine (saves_writeText htext).bind fun bytes hbytes => Saves.pure ?_
    rw [List.length_append, length_writeHeader]
    omega
  | sequence =>
    have hkeep : Uses limit (present child) fun node n => ∀ (nodes : List Node) (k : Nat),
        Saves (encodeAll nodes) k → Saves (encodeAll (node :: nodes)) (n + k) := by
      refine (uses_present hchild).mono fun node n _ hnode nodes k hnodes => ?_
      rw [encodeAll]
      refine hnode.bind fun first hfirst => hnodes.bind fun others hothers => Saves.pure ?_
      rw [List.length_append]
      omega
    have hnone : Saves (encodeAll []) 0 := by
      rw [encodeAll]
      exact Saves.pure (Nat.le_refl 0)
    refine uses_readLength.bind fun count k hcount =>
      (uses_readEach hnone hkeep count).bind fun children m hchildren => Uses.pure ?_
    obtain ⟨hcount, rfl⟩ := hcount
    obtain ⟨rfl, hchildren⟩ := hchildren
    rw [encode]
    refine (saves_writeLength hcount).bind fun number hnumber =>
      hchildren.bind fun below hbelow => Saves.pure ?_
    simp only [List.length_append, length_writeHeader]
    omega
  | query =>
    refine (uses_readLookup hlimit).bind fun lookup k hlookup =>
      hchild.bind fun complement m hcomplement => Uses.pure ?_
    rw [encode]
    refine hlookup.bind fun fields hfields => hcomplement.bind fun below hbelow => Saves.pure ?_
    simp only [List.length_append, length_writeHeader]
    omega

theorem uses_readLevel (hlimit : limit < 0x100000000) :
    Uses limit (readLevel child) fun node k => Saves (encode? node) k := by
  refine uses_readHeader.bind fun header k hk => ?_
  subst hk
  cases header with
  | none =>
    refine Uses.pure ?_
    rw [encode?]
    exact Saves.pure (Nat.le_of_eq (length_writeU32 _))
  | some header =>
    refine (uses_readAfter hchild hlimit header).bind fun node m hnode => Uses.pure ?_
    rw [encode?]
    exact hnode

end Children

/-- **Trees.** A tree that was read is saved in no more bytes. -/
theorem uses_readTree? (hlimit : limit < 0x100000000) :
    Uses limit readTree? fun node k => Saves (encode? node) k := by
  have hlevels (levels : Nat) :
      Uses limit (descend levels) fun node k => Saves (encode? node) k := by
    induction levels with
    | zero => exact Uses.throw _
    | succ levels ih => exact uses_readLevel ih hlimit
  intro input
  exact hlevels input.length input

/-! ## Programs -/

/-- The tree of a body that was read is saved in no more bytes, and it is in normal form. -/
theorem saves_of_readBody {body : Bytes} {root : Node} (h : readBody body = .ok root)
    (hlimit : body.length < 0x100000000) :
    Saves (writeNode root) body.length ∧ root.normal = root := by
  unfold readBody at h
  rw [readNode?_eq_descent] at h
  split at h
  · exact nomatch h
  · next node rest hread =>
    obtain rfl : node = root := Except.ok.inj h
    obtain ⟨used, hused, hsaves⟩ := uses_readTree? hlimit body _ rest (Nat.le_refl _) hread
    rw [encode?] at hsaves
    rw [writeNode_eq_encode]
    refine ⟨hsaves.mono (by omega), node.normal_eq_self ?_⟩
    exact gives_readTree? _ _ _ hread _ (List.mem_singleton_self _)
  · exact nomatch h

/-- A value that is there already uses no bytes. -/
theorem uses_lift {α : Type} (x : Except Error α) :
    Uses limit (liftM x : Reader α) fun a k => x = .ok a ∧ k = 0 := by
  intro input a rest _ hread
  obtain ⟨hx, rfl⟩ := read_lift_inv hread
  exact ⟨0, Nat.zero_add _, hx, rfl⟩

/-- The parts of a program are saved if its body is within the limit of a number of four bytes. -/
theorem saves_writeProgram {name : Option String} {root : Node} {n : Nat}
    (hname : ∀ t ∈ name, IsWritable t) (hroot : Saves (writeNode root) n) (hlimit : n < 0x100000000) :
    Saves (writeProgram ⟨name, root⟩)
      (magic.length + 2 + name.elim 4 textLength + 4 + digestLength + n) := by
  refine hroot.bind fun body hbody => ?_
  have hlength : Saves (writeBodyLength body.length) 4 := by
    rw [writeBodyLength, if_pos (by omega)]
    exact Saves.pure (Nat.le_of_eq (length_writeU32 _))
  refine hlength.bind fun length hlength => (saves_writeText? hname).bind fun front hfront =>
    Saves.pure ?_
  simp only [List.length_append, length_writeU16, length_sha256]
  omega

/-- A program that was read is saved in no more bytes, and its tree is in normal form. -/
theorem uses_readProgram : Uses limit readProgram fun p k =>
    Saves (writeProgram p) k ∧ p.root.normal = p.root := by
  -- magic, version, name, length, digest and body, with three checks among them
  refine (uses_readBytes _).bind fun front a ha => ?_
  split
  · exact Uses.throw_bind _ _
  refine uses_readU16.bind fun version b hb => ?_
  split
  · exact Uses.throw_bind _ _
  refine uses_readText?.bind fun name c hname => uses_readU32.bind fun length d hd =>
    (uses_readBytes _).bind fun digest e he => (uses_readBytes _).bind fun body f hbody => ?_
  split
  · exact Uses.throw_bind _ _
  refine (uses_lift _).bind fun root g hroot => Uses.pure ?_
  obtain ⟨-, rfl⟩ := ha
  obtain ⟨rfl, hname⟩ := hname
  obtain ⟨-, rfl⟩ := he
  obtain ⟨hlength, rfl⟩ := hbody
  obtain ⟨hroot, rfl⟩ := hroot
  -- the length of the body was read from four bytes
  have hlimit : body.length < 0x100000000 := hlength ▸ length.toNat_lt
  obtain ⟨hsaves, hnormal⟩ := saves_of_readBody hroot hlimit
  exact ⟨(saves_writeProgram hname hsaves hlimit).mono (by omega), hnormal⟩

/-- **Saving again.** Whatever bytes are read as a program, the program is saved in no more bytes,
and what is saved is read as the same program, so that it is saved in the same bytes from then on. -/
theorem programOfBytes_resaved {bytes : Bytes} {p : Program} (h : programOfBytes bytes = .ok p) :
    ∃ bytes', writeProgram p = .ok bytes' ∧ bytes'.length ≤ bytes.length ∧
      programOfBytes bytes' = .ok p ∧ programOfBytes bytes' >>= writeProgram = .ok bytes' := by
  unfold programOfBytes at h
  cases hread : readProgram bytes with
  | error e =>
    rw [hread] at h
    exact nomatch h
  | ok result =>
    obtain ⟨q, rest⟩ := result
    rw [hread] at h
    obtain rfl : q = p := Except.ok.inj h
    obtain ⟨used, hused, ⟨bytes', hwrite, hlength⟩, hnormal⟩ :=
      uses_readProgram bytes q rest (Nat.le_refl _) hread
    have hagain : programOfBytes bytes' = .ok q := by
      rw [programOfBytes_of_writeProgram hwrite, hnormal]
    refine ⟨bytes', hwrite, by omega, hagain, ?_⟩
    rw [hagain]
    exact hwrite

/-- The bytes of a short text. -/
def shortText (text : String) : Bytes :=
  writeU32 (UInt32.ofNat (Text.Utf8.encode text).length) ++ Text.Utf8.encode text

/-- The body of a query with more than need be saved: a filter of an unknown kind, a value under a
bound that is absent, a name that is repeated, a component without names, a second component of one
kind, and a byte after the tree. -/
def wastefulBody : Bytes :=
  writeU32 NodeKind.query.tag ++ writeU32 3 ++ writeU32 4 ++
    shortText "noun" ++ writeI32 absentLength ++ writeBool false ++
    (writeU32 2 ++ writeU16 9 ++
      (writeU16 3 ++ writeBool false ++ writeU32 7 ++ writeBool true ++ writeU32 2)) ++
    (writeBool true ++ writeU32 3 ++
      (writeU16 (kindTag .matching) ++ writeU32 2 ++ shortText "a" ++ shortText "a") ++
      (writeU16 (kindTag .unique) ++ writeU32 0) ++
      (writeU16 (kindTag .matching) ++ writeU32 1 ++ shortText "b")) ++
    writeU32 absentTag ++ [0xFF]

/-- The tree of this body. -/
def wastefulRoot : Node :=
  .query ⟨3, 4⟩ ⟨some "noun", none, false, [.bySyllables ⟨none, some 2⟩],
    some (Carrier.empty.addAll [⟨.matching, "a"⟩, ⟨.matching, "b"⟩])⟩ none

/-- A program with this body and another byte after it. -/
def wasteful : Bytes :=
  magic ++ writeU16 formatVersion ++ writeI32 absentLength ++ writeU32 86 ++
    Digest.sha256 wastefulBody ++ wastefulBody ++ [0]

/-- A program with more than need be saved is settled once it has been saved. -/
theorem programOfBytes_resaved_noun :
    programOfBytes wasteful = .ok ⟨none, wastefulRoot⟩ ∧
      ∃ bytes', writeProgram ⟨none, wastefulRoot⟩ = .ok bytes' ∧
        bytes'.length ≤ wasteful.length ∧ programOfBytes bytes' = .ok ⟨none, wastefulRoot⟩ ∧
        programOfBytes bytes' >>= writeProgram = .ok bytes' := by
  have hlength : writeBodyLength wastefulBody.length = .ok (writeU32 86) := by decide
  have hroot : readBody wastefulBody = .ok wastefulRoot := by decide +kernel
  have hread : programOfBytes wasteful = .ok ⟨none, wastefulRoot⟩ := by
    have hname : writeText? none = .ok (writeI32 absentLength) := rfl
    have h := takes_container hname hlength hroot [0]
    rw [programOfBytes, wasteful, h]
    rfl
  exact ⟨hread, programOfBytes_resaved hread⟩

end Wordweave.Wire
