import Wordweave.Proofs.Wire.Program
import Wordweave.Proofs.Wire.Suspension

/-!
# Wordweave — bytes that come in a stream

The bytes of a tree or of a program may be cut short, and other bytes may follow them. Both are told
from the bytes alone: where they are cut short, the reader says so and says nothing else, and what
follows them is left as it is. So programs can be written one after the other, and read again without
any mark between them.

This holds of every reader that is local (`Local.streamed`). A reader of programs is, although it
reads its body as bytes of their own: it has taken them all before it looks at the first.

Main result:

* `streamed_nodes_programs` — trees and programs are read from streams.
-/

namespace Wordweave.Wire

variable {α : Type}

/-- A reader for streams. -/
structure Streamed (r : Reader α) : Prop where
  /-- What is left is the end of what was there. -/
  consumed {input rest : Bytes} {a : α} (h : r input = .ok (a, rest)) :
    ∃ taken, input = taken ++ rest
  /-- If the bytes are cut short, there is a shortage. -/
  truncated {taken rest : Bytes} {a : α} (h : r (taken ++ rest) = .ok (a, rest)) {k : Nat}
    (hk : k < taken.length) : ∃ e, r (taken.take k) = .error e ∧ e.isShortage = true
  /-- More bytes are left where they are. -/
  extended {input rest : Bytes} {a : α} (h : r input = .ok (a, rest)) (more : Bytes) :
    r (input ++ more) = .ok (a, rest ++ more)
  /-- More bytes make good no other error than a shortage. -/
  refused {input : Bytes} {e : Error} (h : r input = .error e) (he : e.isShortage = false)
    (more : Bytes) : r (input ++ more) = .error e

/-- Bytes that are cut short cannot be enough: the reader would leave what was cut off. -/
theorem Local.truncated {r : Reader α} (hr : Local r) {taken rest : Bytes} {a : α}
    (h : r (taken ++ rest) = .ok (a, rest)) {k : Nat} (hk : k < taken.length) :
    ∃ e, r (taken.take k) = .error e ∧ e.isShortage = true := by
  have hwhole : taken ++ rest = taken.take k ++ (taken.drop k ++ rest) := by
    rw [← List.append_assoc, List.take_append_drop]
  cases hshort : r (taken.take k) with
  | ok result =>
    have hextend := hr.extend hshort (taken.drop k ++ rest)
    rw [← hwhole, h] at hextend
    obtain ⟨-, hrest⟩ : a = result.1 ∧ rest = result.2 ++ (taken.drop k ++ rest) := by
      simpa using hextend
    have hlength := congrArg List.length hrest
    simp only [List.length_append, List.length_drop] at hlength
    omega
  | error e =>
    refine ⟨e, rfl, ?_⟩
    -- any other error would have been there with all bytes
    cases he : e.isShortage with
    | true => rfl
    | false =>
      have hfinal := hr.final hshort he (taken.drop k ++ rest)
      rw [← hwhole, h] at hfinal
      exact nomatch hfinal

theorem Local.streamed {r : Reader α} (hr : Local r) : Streamed r where
  consumed h := by
    obtain ⟨taken, htaken, -⟩ := hr.takes h
    exact ⟨taken, htaken⟩
  truncated h _ hk := hr.truncated h hk
  extended h more := hr.extend h more
  refused h he more := hr.final h he more

theorem local_readNode? : Local readNode? := by
  rw [readNode?_eq_descent]
  exact local_readTree?

/-- What is known already does not depend on any bytes. -/
theorem local_lift (x : Except Error α) : Local (liftM x : Reader α) := by
  cases x with
  | ok a => exact Local.pure a
  | error e => exact Local.throw e

theorem local_readProgram : Local readProgram := by
  unfold readProgram
  refine (local_readBytes _).bind fun front => ?_
  split
  · exact Local.throw_bind _ _
  refine local_readU16.bind fun version => ?_
  split
  · exact Local.throw_bind _ _
  refine local_readText?.bind fun name => local_readU32.bind fun length =>
    (local_readBytes _).bind fun digest => (local_readBytes _).bind fun body => ?_
  split
  · exact Local.throw_bind _ _
  · exact (local_lift _).bind fun root => Local.pure _

/-- Several programs that were written one after the other. -/
theorem takes_readPrograms {ps : List Program} {bytes : Bytes}
    (h : writeEach writeProgram ps = .ok bytes) :
    Takes (readEach readProgram ps.length) bytes (ps.map fun p => ⟨p.name, p.root.normal⟩) :=
  takes_readEach (fun _ _ {_} hp => takes_readProgram hp) h

/-- **Streams.** The readers of trees and of programs are readers for streams. So of a program that
was written and cut short the reader says that there are too few bytes, and programs that were
written one after the other are read one after the other, whatever follows them. -/
theorem streamed_nodes_programs :
    Streamed readNode? ∧ Streamed readProgram ∧
    (∀ (p : Program) (bytes : Bytes), writeProgram p = .ok bytes → ∀ k < bytes.length,
      ∃ e, programOfBytes (bytes.take k) = .error e ∧ e.isShortage = true) ∧
    ∀ (ps : List Program) (bytes rest : Bytes), writeEach writeProgram ps = .ok bytes →
      readEach readProgram ps.length (bytes ++ rest) =
        .ok (ps.map fun p => ⟨p.name, p.root.normal⟩, rest) := by
  refine ⟨local_readNode?.streamed, local_readProgram.streamed, ?_, ?_⟩
  · intro p bytes hwrite k hk
    have hread := takes_readProgram hwrite []
    obtain ⟨e, he, hshortage⟩ := local_readProgram.truncated hread hk
    refine ⟨e, ?_, hshortage⟩
    rw [programOfBytes, he]
    rfl
  · intro ps bytes rest hwrite
    exact takes_readPrograms hwrite rest

end Wordweave.Wire
