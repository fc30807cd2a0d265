import Wordweave.Proofs.Wire.Lookup
import Wordweave.Wire.NodeReader

/-!
# Wordweave — reading trees by descent

A tree can be read without a stack: a header, the fields of the node, and then each child in the
same way. `readLevel` is one level of this descent, with the reading of children left open, and
`readTree?` closes it. A level reads its children from fewer bytes than it was given itself, so the
descent ends.

Main results:

* `readTree?_eq`        — `readTree?` is a level above itself.
* `eq_readTree?`        — it is the only reader that is a level above itself.
* `local_readTree?`     — how a tree is read does not depend on what follows it.
-/

namespace Wordweave.Wire

/-! ## The descent -/

/-- Reads a child that must not be absent. -/
def present (child : Reader (Option Node)) : Reader Node := do
  match ← child with
  | some node => return node
  | none => throw (.violation .absentChild)

/-- Reads what comes after a header: the fields of the node, then its children. -/
def readAfter (child : Reader (Option Node)) : NodeKind × Location → Reader Node
  | (.text, location) => do return .text location (← readText)
  | (.sequence, location) => do
    let count ← readLength
    return .sequence location (← readEach (present child) count)
  | (.query, location) => do
    let lookup ← readLookup
    return .query location lookup (← child)

/-- Reads a tree whose children are read by `child`. -/
def readLevel (child : Reader (Option Node)) : Reader (Option Node) := do
  match ← readHeader with
  | some header => return some (← readAfter child header)
  | none => return none

/-- Reads a tree of at most so many levels. -/
def descend : (levels : Nat) → Reader (Option Node)
  | 0 => throw .endOfBytes
  | levels + 1 => readLevel (descend levels)

/-- Reads a tree by descent. Every level has bytes of its own, so there are no more levels than
bytes. -/
def readTree? : Reader (Option Node) := fun input => descend input.length input

/-! ## Bytes used up -/

/-- A number takes its width. -/
theorem length_readFixed {width n : Nat} {input rest : Bytes}
    (h : readFixed width input = .ok (n, rest)) : rest.length + width = input.length := by
  obtain ⟨-, rfl⟩ := readFixed_eq_ok.mp h
  rw [List.length_append, length_littleEndian, Nat.add_comm]

/-- A number of four bytes takes four bytes. -/
theorem length_readU32 {n : UInt32} {input rest : Bytes} (h : readU32 input = .ok (n, rest)) :
    rest.length + 4 = input.length := by
  obtain ⟨m, middle, hread, h⟩ := read_bind_inv h
  obtain ⟨-, rfl⟩ := read_pure_inv h
  exact length_readFixed hread

/-- The bytes of a header: the tag, and the place if there is a node. -/
def headerLength : Option (NodeKind × Location) → Nat
  | none => 4
  | some _ => 12

/-- A header takes its bytes. -/
theorem length_readHeader {input rest : Bytes} {header : Option (NodeKind × Location)}
    (h : readHeader input = .ok (header, rest)) :
    rest.length + headerLength header = input.length := by
  obtain ⟨tag, afterTag, htag, h⟩ := read_bind_inv h
  have htag := length_readU32 htag
  split at h
  · obtain ⟨rfl, rfl⟩ := read_pure_inv h
    exact htag
  · cases hkind : NodeKind.ofTag? tag with
    | none =>
      rw [hkind] at h
      exact nomatch h
    | some kind =>
      rw [hkind] at h
      obtain ⟨line, afterLine, hline, h⟩ := read_bind_inv h
      obtain ⟨column, afterColumn, hcolumn, h⟩ := read_bind_inv h
      obtain ⟨rfl, rfl⟩ := read_pure_inv h
      have hline := length_readU32 hline
      have hcolumn := length_readU32 hcolumn
      show afterColumn.length + 12 = input.length
      omega

theorem local_present {child : Reader (Option Node)} (h : Local child) : Local (present child) := by
  refine h.bind fun node => ?_
  cases node with
  | some node => exact Local.pure node
  | none => exact Local.throw _

theorem local_readAfter {child : Reader (Option Node)} (h : Local child)
    (header : NodeKind × Location) : Local (readAfter child header) := by
  obtain ⟨kind, location⟩ := header
  cases kind with
  | text => exact local_readText.bind fun _ => Local.pure _
  | sequence =>
    exact local_readLength.bind fun _ => (local_readEach (local_present h) _).bind fun _ =>
      Local.pure _
  | query => exact local_readLookup.bind fun _ => h.bind fun _ => Local.pure _

theorem local_readLevel {child : Reader (Option Node)} (h : Local child) :
    Local (readLevel child) := by
  refine local_readHeader.bind fun header => ?_
  cases header with
  | some header => exact (local_readAfter h header).bind fun _ => Local.pure _
  | none => exact Local.pure _

theorem local_descend (levels : Nat) : Local (descend levels) := by
  induction levels with
  | zero => exact Local.throw _
  | succ levels ih => exact local_readLevel ih

/-! ## Enough levels -/

section Agreement

variable {child child' : Reader (Option Node)} {limit : Nat}

/-- Readers in a row do the same if the second ones do on what the first one can leave. -/
theorem bind_congr {α β : Type} {r : Reader α} {f g : α → Reader β} {input : Bytes}
    (hr : Local r)
    (h : ∀ a rest, rest.length ≤ input.length → f a rest = g a rest) :
    (r >>= f) input = (r >>= g) input := by
  rw [bind_apply, bind_apply]
  cases hread : r input with
  | error e => rfl
  | ok result => exact h _ _ (hr.length_le hread)

/-- Lists do not depend on how their values are read from more bytes than there are. -/
theorem readEach_congr {α : Type} {read read' : Reader α} (hread : Local read)
    (h : ∀ input : Bytes, input.length ≤ limit → read input = read' input) (n : Nat) :
    ∀ input : Bytes, input.length ≤ limit → readEach read n input = readEach read' n input := by
  induction n with
  | zero => exact fun _ _ => rfl
  | succ n ih =>
    intro input hinput
    -- the first value leaves no more bytes than there were
    rw [readEach_succ, readEach_succ, bind_apply, bind_apply, ← h input hinput]
    cases hfirst : read input with
    | error e => rfl
    | ok result =>
      have hrest := hread.length_le hfirst
      simp only [bind_apply, ih result.2 (by omega)]

/-- A level does not depend on how children are read from as many bytes as it is given itself. -/
theorem readLevel_congr (hchild : Local child) {input : Bytes}
    (h : ∀ rest : Bytes, rest.length < input.length → child rest = child' rest) :
    readLevel child input = readLevel child' input := by
  unfold readLevel
  rw [bind_apply, bind_apply]
  cases hheader : readHeader input with
  | error e => rfl
  | ok result =>
    obtain ⟨header, rest⟩ := result
    cases header with
    | none => rfl
    | some header =>
      -- only fewer bytes reach the children, as the header has taken some
      have hless : rest.length + 12 = input.length := length_readHeader hheader
      have hpresent : ∀ xs : Bytes, xs.length ≤ rest.length →
          present child xs = present child' xs := by
        intro xs hxs
        rw [present, present, bind_apply, bind_apply, h xs (by omega)]
      have hafter : readAfter child header rest = readAfter child' header rest := by
        obtain ⟨kind, location⟩ := header
        cases kind with
        | text => rfl
        | sequence =>
          refine bind_congr local_readLength fun n xs hxs => ?_
          rw [bind_apply, bind_apply, readEach_congr (local_present hchild) hpresent n xs hxs]
        | query =>
          refine bind_congr local_readLookup fun lookup xs hxs => ?_
          rw [bind_apply, bind_apply, h xs (by omega)]
      simp only [bind_apply, hafter]

end Agreement

/-- A level more than there are bytes changes nothing. -/
theorem descend_succ {levels : Nat} {input : Bytes} (h : input.length ≤ levels) :
    descend (levels + 1) input = descend levels input := by
  induction levels generalizing input with
  | zero =>
    -- without bytes there is no header, and no level is needed to find this out
    obtain rfl : input = [] := List.length_eq_zero_iff.mp (by omega)
    rfl
  | succ levels ih =>
    exact readLevel_congr (local_descend _) fun rest hrest => ih (by omega)

/-- Any number of levels that is not below the number of bytes will do. -/
theorem descend_eq_readTree? {levels : Nat} {input : Bytes} (h : input.length ≤ levels) :
    descend levels input = readTree? input := by
  obtain ⟨more, rfl⟩ := Nat.exists_eq_add_of_le h
  induction more with
  | zero => rfl
  | succ more ih => rw [Nat.add_succ, descend_succ (by omega), ih (by omega)]

/-- **The descent.** A tree is a header, its fields, and children that are trees. -/
theorem readTree?_eq : readTree? = readLevel readTree? := by
  funext input
  rw [← descend_eq_readTree? (Nat.le_succ input.length)]
  exact readLevel_congr (local_descend _) fun rest hrest => descend_eq_readTree? (by omega)

theorem local_readTree? : Local readTree? where
  takes {input rest a} h := by
    obtain ⟨taken, rfl, htaken⟩ := (local_descend _).takes h
    refine ⟨taken, rfl, fun others => ?_⟩
    -- one number of levels that is enough for both inputs
    have hlevels := local_descend ((taken ++ rest).length + (taken ++ others).length)
    rw [← descend_eq_readTree? (Nat.le_add_right _ (taken ++ others).length)] at h
    obtain ⟨taken', heq, htaken'⟩ := hlevels.takes h
    obtain rfl : taken = taken' := List.append_cancel_right heq
    rw [← descend_eq_readTree? (Nat.le_add_left _ (taken ++ rest).length)]
    exact htaken' others
  final {input e} h he more := by
    have hlength : input.length ≤ (input ++ more).length := by simp
    rw [← descend_eq_readTree? hlength] at h
    exact (local_descend _).final h he more

/-- No other reader is a level above itself. -/
theorem eq_readTree? {r : Reader (Option Node)} (h : r = readLevel r) : r = readTree? := by
  -- by induction on a bound of the input, since a level asks for children on fewer bytes
  have hshort (bound : Nat) :
      ∀ input : Bytes, input.length < bound → readTree? input = r input := by
    induction bound with
    | zero => exact fun _ hinput => absurd hinput (Nat.not_lt_zero _)
    | succ bound ih =>
      intro input hinput
      rw [readTree?_eq, h]
      exact readLevel_congr local_readTree? fun rest hrest => ih rest (by omega)
  funext input
  exact (hshort (input.length + 1) input (Nat.lt_succ_self _)).symm

end Wordweave.Wire
