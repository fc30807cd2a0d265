import Wordweave.Proofs.Wire.Padding
import Wordweave.Proofs.Wire.Suspension

/-!
# Wordweave — trees that are written and read again

The writer gives the bytes of a tree in preorder, the reader is the descent, and the descent takes
the bytes of a tree. So what is written is read again.

What comes back is the normal form of the tree: in its carriers names that are repeated under one
kind come once, and kinds without names are gone. A carrier that was built by adding ties, or read,
is in normal form already (`Carrier.Built`), and so a tree with such carriers comes back as it was.

Main results:

* `normal_of_built`     — what was built by adding ties, or read, is in normal form.
* `readNode?_writeNode` — the reader gives the normal form of what was written.
-/

namespace Wordweave.Wire

/-! ## What is in normal form already -/

/-- The carriers of a tree are in normal form. -/
def CarriersNormal (node : Node) : Prop := ∀ c ∈ node.carriers, c.normal = c

section Children

variable {child : Reader (Option Node)}
  (hchild : Gives child fun node => ∀ n ∈ node.toList, CarriersNormal n)

include hchild

/-- A child that is there has carriers in normal form. -/
theorem gives_present : Gives (present child) CarriersNormal := by
  refine hchild.bind fun node hnode => ?_
  cases node with
  | some node => exact Gives.pure (hnode node (List.mem_singleton_self node))
  | none => exact Gives.throw _

/-- What comes after a header has carriers in normal form if the children have. -/
theorem gives_readAfter (header : NodeKind × Location) :
    Gives (readAfter child header) CarriersNormal := by
  obtain ⟨kind, location⟩ := header
  cases kind with
  | text =>
    refine Gives.after fun text => Gives.pure ?_
    intro c hc
    rw [Node.carriers] at hc
    exact nomatch hc
  | sequence =>
    refine Gives.after fun count => ?_
    refine (gives_readEach (gives_present hchild) count).bind fun children hall => Gives.pure ?_
    intro c hc
    rw [Node.carriers, Node.carriersAll_eq_flatMap] at hc
    obtain ⟨n, hn, hc⟩ := List.mem_flatMap.mp hc
    exact hall n hn c hc
  | query =>
    refine gives_readLookup.bind fun lookup hlookup => ?_
    refine hchild.bind fun complement hcomplement => Gives.pure ?_
    intro c hc
    rw [Node.carriers_query] at hc
    rcases List.mem_append.mp hc with hown | hbelow
    · exact hlookup c hown
    · obtain ⟨n, hn, hc⟩ := List.mem_flatMap.mp hbelow
      exact hcomplement n hn c hc

/-- A level has carriers in normal form if the children have. -/
theorem gives_readLevel :
    Gives (readLevel child) fun node => ∀ n ∈ node.toList, CarriersNormal n := by
  refine Gives.after fun header => ?_
  cases header with
  | none => exact Gives.pure fun _ h => nomatch h
  | some header =>
    refine (gives_readAfter hchild header).bind fun node hnode => Gives.pure fun n hn => ?_
    rwa [List.mem_singleton.mp hn]

end Children

/-- The carriers of a tree that was read are in normal form. -/
theorem gives_readTree? : Gives readTree? fun node => ∀ n ∈ node.toList, CarriersNormal n := by
  have hlevels (levels : Nat) :
      Gives (descend levels) fun node => ∀ n ∈ node.toList, CarriersNormal n := by
    induction levels with
    | zero => exact Gives.throw _
    | succ levels ih => exact gives_readLevel ih
  intro input
  exact hlevels input.length input

end Wordweave.Wire

namespace Wordweave.Carrier

open Wire

/-- A carrier that was empty, or belonged to a tree that was read, before ties were added to it one
by one. -/
inductive Built : Carrier → Prop
  | empty : Built empty
  | read {input rest : Bytes} {node : Node} {c : Carrier}
      (hread : readNode? input = .ok (some node, rest)) (hc : c ∈ node.carriers) : Built c
  | add {c : Carrier} (tie : Tie) (hc : Built c) : Built (c.add tie)

/-- What was built by adding ties, or read, is in normal form. -/
theorem normal_of_built {c : Carrier} (h : c.Built) : c.normal = c := by
  induction h with
  | empty => exact normal_addAll []
  | read hread hc =>
    rw [readNode?_eq_descent] at hread
    exact gives_readTree? _ _ _ hread _ (List.mem_singleton_self _) _ hc
  | @add c tie hc ih =>
    -- the tie comes after those that make up the carrier
    have hadd : c.add tie = empty.addAll (c.ties ++ [tie]) := by
      rw [addAll, List.foldl_append]
      exact congrArg (·.add tie) ih.symm
    rw [hadd, normal_addAll]

end Wordweave.Carrier

namespace Wordweave.Wire

/-- What is written is read as its normal form, and just what follows it is left. -/
theorem readNode?_of_writeNode {node : Node} {bytes : Bytes} (h : writeNode node = .ok bytes)
    (rest : Bytes) : readNode? (bytes ++ rest) = .ok (some node.normal, rest) := by
  rw [writeNode_eq_encode] at h
  rw [readNode?_eq_descent]
  exact takes_padded node (padded_encode node h) rest

/-- **Writing and reading.** What is written is read again with just what follows it left. It comes
back with its carriers in normal form: under each kind the names come once, in the order of their
first occurrences, and a kind without names is gone. A tree whose carriers were built by adding
ties, or read, comes back as it was. -/
theorem readNode?_writeNode {node : Node} {bytes : Bytes} (h : writeNode node = .ok bytes) :
    (∀ rest, readNode? (bytes ++ rest) = .ok (some node.normal, rest)) ∧
    (∀ (c : Carrier) (kind : TieKind), c.normal.names? kind =
      if c.names kind = [] then none else some (c.names kind).eraseDups) ∧
    ((∀ c ∈ node.carriers, c.Built) → node.normal = node) :=
  ⟨readNode?_of_writeNode h, Carrier.names?_normal,
    fun hbuilt => node.normal_eq_self fun c hc => Carrier.normal_of_built (hbuilt c hc)⟩

/-- Ties one of which is repeated, and a kind without names. -/
def repeatedTies : Carrier := ⟨#v[some ["a", "b", "a"], none, none, none, none, some [], none]⟩

/-- Ties that were added one by one. -/
def addedTies : Carrier := Carrier.empty.addAll [⟨.rhyme, "a"⟩, ⟨.matching, "b"⟩]

/-- A tree with a query for a noun that has the given ties. -/
def nounWith (carrier : Carrier) : Node :=
  .sequence .origin [.text .origin "the",
    .query .origin { Lookup.blank with name := some "noun", carrier := some carrier }
      (some (.text .origin "old"))]

/-- A name that is repeated comes back once, and a kind without names does not come back. A tree
whose ties were added comes back as it was. -/
theorem readNode?_writeNode_noun :
    (∃ bytes, writeNode (nounWith repeatedTies) = .ok bytes ∧ ∀ rest, readNode? (bytes ++ rest) =
      .ok (some (nounWith ⟨#v[some ["a", "b"], none, none, none, none, none, none]⟩), rest)) ∧
    ∃ bytes, writeNode (nounWith addedTies) = .ok bytes ∧ ∀ rest, readNode? (bytes ++ rest) =
      .ok (some (nounWith addedTies), rest) := by
  have hnormal : (nounWith repeatedTies).normal =
      nounWith ⟨#v[some ["a", "b"], none, none, none, none, none, none]⟩ := by decide
  have hbuilt : ∀ c ∈ (nounWith addedTies).carriers, c.Built := by
    intro c hc
    obtain rfl : c = addedTies := by simpa [nounWith, Node.carriers, Node.carriersAll] using hc
    exact .add _ (.add _ .empty)
  obtain ⟨bytes, hwrite⟩ : ∃ bytes, writeNode (nounWith repeatedTies) = .ok bytes := ⟨_, rfl⟩
  obtain ⟨bytes', hwrite'⟩ : ∃ bytes, writeNode (nounWith addedTies) = .ok bytes := ⟨_, rfl⟩
  have hread := (readNode?_writeNode hwrite).1
  obtain ⟨hread', -, hsame⟩ := readNode?_writeNode hwrite'
  rw [hnormal] at hread
  rw [hsame hbuilt] at hread'
  exact ⟨⟨bytes, hwrite, hread⟩, ⟨bytes', hwrite', hread'⟩⟩

end Wordweave.Wire
