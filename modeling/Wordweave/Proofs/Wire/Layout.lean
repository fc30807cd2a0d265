import Wordweave.Proofs.Wire.Container
import Wordweave.Proofs.Wire.Preorder

/-!
# Wordweave — the layout of trees

The bytes of a tree can be told without a writer, as a *layout*: the four letters of the kind of the
node, its line and its column, its fields, and then the layouts of its children in order, with four
zero bytes for a complement that is absent (`treeBytes`). A text stands behind the number of its
bytes, and a list behind the number of its members. Letters, kinds and truth values are told by
their bytes, and it is shown that a writer makes the same (`writeBool_eq` to `writeHeader_query`).

The numbers of bytes and members are all that can go wrong (`treeLengths`). A writer *lays out* some
bytes if it gives them as long as each of its numbers is a length, and otherwise fails with one error
that is always the same (`LaysOut`). This is closed under bind, so the numbers of a writer are those of its parts,
in order.

Main result:

* `writeNode_layout` — the writer with the stack gives the layout of its tree, or fails because a
  text or a list is too long.
-/

namespace Wordweave.Wire

/-! ## Layouts and their lengths -/

def byteCount (text : String) : Nat := (Text.Utf8.encode text).length

section Lists

variable {α : Type}

/-- The number of members of a list, and the members. -/
def listBytes (bytes : α → Bytes) (values : List α) : Bytes :=
  littleEndian 4 values.length ++ values.flatMap bytes

/-- The lengths of a list: its own, and those of its members. -/
def listLengths (lengths : α → List Nat) (values : List α) : List Nat :=
  values.length :: values.flatMap lengths

end Lists

/-- A truth value, in one byte. -/
def flagBytes : Bool → Bytes
  | false => [0]
  | true => [1]

/-- A bound on a number of syllables: a byte that tells whether it is there, then its value, which
is `0` if it is not. -/
def boundBytes : Option UInt32 → Bytes
  | none => [0, 0, 0, 0, 0]
  | some n => 1 :: littleEndian 4 n.toNat

/-- A demand on a class: whether the class is excluded, then the class. -/
def classTestBytes (test : ClassTest) : Bytes :=
  flagBytes test.excluded ++ textField (some test.className)

def classTestLengths (test : ClassTest) : List Nat := [byteCount test.className]

/-- A filter: the number of its kind, then its body. -/
def filterBytes : Filter → Bytes
  | .byClass rules => [1, 0] ++ listBytes (listBytes classTestBytes) rules
  | .byPattern f => [2, 0] ++ (textField (some f.source) ++ flagBytes f.outside)
  | .bySyllables bounds => [3, 0] ++ (boundBytes bounds.least ++ boundBytes bounds.most)

def filterLengths : Filter → List Nat
  | .byClass rules => listLengths (listLengths classTestLengths) rules
  | .byPattern f => [byteCount f.source]
  | .bySyllables _ => []

/-- The number of a kind of tie. -/
def kindBytes : TieKind → Bytes
  | .matching => [0, 0]
  | .associative => [1, 0]
  | .dissociative => [2, 0]
  | .divergent => [3, 0]
  | .relational => [4, 0]
  | .unique => [5, 0]
  | .rhyme => [6, 0]

/-- A kind of tie with its names. -/
def componentBytes (component : TieKind × List String) : Bytes :=
  kindBytes component.1 ++ listBytes (fun name => textField (some name)) component.2

def componentLengths (component : TieKind × List String) : List Nat :=
  listLengths (fun name => [byteCount name]) component.2

/-- A carrier that may be absent. -/
def carrierBytes : Option Carrier → Bytes
  | none => [0]
  | some c => [1] ++ listBytes componentBytes c.components

/-- The lengths of a carrier. The number of its kinds is not among them, as there are only seven. -/
def carrierLengths (c : Option Carrier) : List Nat :=
  c.toList.flatMap fun c => c.components.flatMap componentLengths

/-- The fields of a query, without its complement. -/
def lookupBytes (q : Lookup) : Bytes :=
  textField q.name ++ textField q.subtype ++ flagBytes q.exclusive ++
    listBytes filterBytes q.filters ++ carrierBytes q.carrier

def lookupLengths (q : Lookup) : List Nat :=
  q.name.toList.map byteCount ++ q.subtype.toList.map byteCount ++
    listLengths filterLengths q.filters ++ carrierLengths q.carrier

/-- The line and the column of a node. -/
def placeBytes (location : Location) : Bytes :=
  littleEndian 4 location.line.toNat ++ littleEndian 4 location.column.toNat

mutual

/-- The layout of a tree. -/
def treeBytes : Node → Bytes
  -- the letters `text`
  | .text location text =>
    [0x74, 0x65, 0x78, 0x74] ++ placeBytes location ++ textField (some text)
  -- the letters `sequ`
  | .sequence location children =>
    [0x73, 0x65, 0x71, 0x75] ++ placeBytes location ++ littleEndian 4 children.length ++
      treesBytes children
  -- the letters `quer`
  | .query location lookup complement =>
    [0x71, 0x75, 0x65, 0x72] ++ placeBytes location ++ lookupBytes lookup ++
      complementBytes complement

def treesBytes : List Node → Bytes
  | [] => []
  | child :: rest => treeBytes child ++ treesBytes rest

/-- The layout of a complement, which may be absent. -/
def complementBytes : Option Node → Bytes
  | none => [0, 0, 0, 0]
  | some complement => treeBytes complement

end

mutual

/-- The lengths of a tree: the number of bytes of each of its texts, and the number of members of
each of its lists. -/
def treeLengths : Node → List Nat
  | .text _ text => [byteCount text]
  | .sequence _ children => children.length :: treesLengths children
  | .query _ lookup complement => lookupLengths lookup ++ complementLengths complement

def treesLengths : List Node → List Nat
  | [] => []
  | child :: rest => treeLengths child ++ treesLengths rest

def complementLengths : Option Node → List Nat
  | none => []
  | some complement => treeLengths complement

end

/-! ## Parts of a fixed number of bytes -/

theorem writeBool_eq (b : Bool) : writeBool b = flagBytes b := by cases b <;> rfl

theorem writeBound_eq (bound : Option UInt32) : writeBound bound = boundBytes bound := by
  cases bound <;> rfl

theorem writeU16_kindTag (kind : TieKind) : writeU16 (kindTag kind) = kindBytes kind := by
  cases kind <;> rfl

/-- A header, when the bytes of the tag are known. -/
theorem writeHeader_eq {node : Node} {letters : Bytes}
    (h : writeU32 (NodeKind.ofNode node).tag = letters) :
    writeHeader node = letters ++ placeBytes node.location := by
  rw [writeHeader, h, placeBytes, List.append_assoc]
  rfl

theorem writeHeader_text (location : Location) (text : String) :
    writeHeader (.text location text) = [0x74, 0x65, 0x78, 0x74] ++ placeBytes location :=
  writeHeader_eq (show writeU32 NodeKind.text.tag = _ by decide)

theorem writeHeader_sequence (location : Location) (children : List Node) :
    writeHeader (.sequence location children) = [0x73, 0x65, 0x71, 0x75] ++ placeBytes location :=
  writeHeader_eq (show writeU32 NodeKind.sequence.tag = _ by decide)

theorem writeHeader_query (location : Location) (lookup : Lookup) (complement : Option Node) :
    writeHeader (.query location lookup complement) =
      [0x71, 0x75, 0x65, 0x72] ++ placeBytes location :=
  writeHeader_eq (show writeU32 NodeKind.query.tag = _ by decide)

/-! ## Writers that lay out -/

/-- A writer gives some bytes if all of its lengths are within the limit, and otherwise fails. -/
def LaysOut (x : Except Error Bytes) (lengths : List Nat) (bytes : Bytes) : Prop :=
  x = if ∀ n ∈ lengths, n ≤ lengthLimit then .ok bytes else .error (.invalidLength lengthLimit)

namespace LaysOut

variable {x : Except Error Bytes} {f : Bytes → Except Error Bytes} {lengths others : List Nat}
  {bytes more : Bytes}

theorem pure (bytes : Bytes) : LaysOut (Pure.pure bytes) [] bytes := by
  rw [LaysOut, if_pos fun _ h => nomatch h]
  rfl

theorem bind (hx : LaysOut x lengths bytes) (hf : LaysOut (f bytes) others more) :
    LaysOut (x >>= f) (lengths ++ others) more := by
  unfold LaysOut at hx hf ⊢
  rw [hx]
  simp only [List.forall_mem_append]
  -- the first writer decides if it fails
  by_cases hfit : ∀ n ∈ lengths, n ≤ lengthLimit
  · rw [if_pos hfit]
    simp only [and_iff_right hfit]
    exact hf
  · rw [if_neg hfit, if_neg fun h => hfit h.1]
    rfl

/-- Bytes that are put around what a writer gives. -/
theorem map (hx : LaysOut x lengths bytes) (f : Bytes → Bytes) :
    LaysOut (do return f (← x)) lengths (f bytes) := by
  have h := hx.bind (f := fun given => Pure.pure (f given)) (pure (f bytes))
  rwa [List.append_nil] at h

/-- A length that is always within the limit need not be looked at. -/
theorem tail {n : Nat} (hx : LaysOut x (n :: lengths) bytes) (hn : n ≤ lengthLimit) :
    LaysOut x lengths bytes := by
  unfold LaysOut at hx ⊢
  rw [hx]
  simp only [List.forall_mem_cons, and_iff_right hn]

end LaysOut

/-! ## Texts and lists -/

theorem laysOut_writeLength (n : Nat) : LaysOut (writeLength n) [n] (littleEndian 4 n) := by
  unfold LaysOut
  simp only [List.mem_singleton, forall_eq]
  by_cases hn : n ≤ lengthLimit
  · rw [if_pos hn, writeLength_eq (by unfold lengthLimit at hn; omega)]
  · rw [if_neg hn, writeLength, if_neg hn]

theorem laysOut_writeText (text : String) :
    LaysOut (writeText text) [byteCount text] (textField (some text)) :=
  (laysOut_writeLength _).map (· ++ Text.Utf8.encode text)

theorem laysOut_writeText? (text : Option String) :
    LaysOut (writeText? text) (text.toList.map byteCount) (textField text) := by
  cases text with
  | none => exact LaysOut.pure _
  | some text => exact laysOut_writeText text

section Lists

variable {α : Type} {write : α → Except Error Bytes} {lengths : α → List Nat} {bytes : α → Bytes}
  (h : ∀ a, LaysOut (write a) (lengths a) (bytes a))

include h

theorem laysOut_writeEach (values : List α) :
    LaysOut (writeEach write values) (values.flatMap lengths) (values.flatMap bytes) := by
  induction values with
  | nil => exact LaysOut.pure []
  | cons a values ih =>
    rw [writeEach_cons, List.flatMap_cons, List.flatMap_cons]
    exact (h a).bind (ih.map (bytes a ++ ·))

theorem laysOut_writeList (values : List α) :
    LaysOut (writeList write values) (listLengths lengths values) (listBytes bytes values) :=
  (laysOut_writeLength _).bind ((laysOut_writeEach h values).map (_ ++ ·))

end Lists

/-! ## Lookups -/

theorem laysOut_writeClassTest (test : ClassTest) :
    LaysOut (writeClassTest test) (classTestLengths test) (classTestBytes test) := by
  rw [classTestBytes, ← writeBool_eq]
  exact (laysOut_writeText _).map (writeBool test.excluded ++ ·)

theorem laysOut_writeFilter (f : Filter) :
    LaysOut (writeFilter f) (filterLengths f) (filterBytes f) := by
  cases f with
  | byClass rules =>
    have hkind : writeU16 (filterTag (.byClass rules)) = [1, 0] := show writeU16 1 = _ by decide
    rw [writeFilter, hkind, filterBytes]
    exact (laysOut_writeList (laysOut_writeList laysOut_writeClassTest) rules).map (_ ++ ·)
  | byPattern f =>
    have hkind : writeU16 (filterTag (.byPattern f)) = [2, 0] := show writeU16 2 = _ by decide
    rw [writeFilter, hkind, filterBytes, ← writeBool_eq]
    exact ((laysOut_writeText _).map (· ++ writeBool f.outside)).map (_ ++ ·)
  | bySyllables bounds =>
    have hkind : writeU16 (filterTag (.bySyllables bounds)) = [3, 0] :=
      show writeU16 3 = _ by decide
    rw [writeFilter, hkind, filterBytes, ← writeBound_eq, ← writeBound_eq]
    exact (LaysOut.pure _).map (_ ++ ·)

theorem laysOut_writeComponent (component : TieKind × List String) :
    LaysOut (writeComponent component) (componentLengths component)
      (componentBytes component) := by
  rw [componentBytes, ← writeU16_kindTag]
  exact (laysOut_writeList laysOut_writeText component.2).map (_ ++ ·)

theorem laysOut_writeCarrier? (c : Option Carrier) :
    LaysOut (writeCarrier? c) (carrierLengths c) (carrierBytes c) := by
  cases c with
  | none => exact LaysOut.pure _
  | some c =>
    -- the kinds are counted as well, but there are too few of them to go wrong
    have hkinds : c.components.length ≤ lengthLimit := by
      have hseven : c.components.length ≤ TieKind.all.length := List.length_filterMap_le ..
      have hlimit : TieKind.all.length ≤ lengthLimit := by decide
      omega
    have hlist := (laysOut_writeList laysOut_writeComponent c.components).tail hkinds
    rw [carrierLengths, Option.toList_some, List.flatMap_singleton]
    exact hlist.map ([1] ++ ·)

theorem laysOut_writeLookup (q : Lookup) :
    LaysOut (writeLookup q) (lookupLengths q) (lookupBytes q) := by
  rw [lookupLengths, List.append_assoc, List.append_assoc, lookupBytes, ← writeBool_eq]
  exact (laysOut_writeText? q.name).bind ((laysOut_writeText? q.subtype).bind
    ((laysOut_writeList laysOut_writeFilter q.filters).bind
      ((laysOut_writeCarrier? q.carrier).map (_ ++ ·))))

/-! ## Trees -/

mutual

theorem laysOut_encode : ∀ node : Node, LaysOut (encode node) (treeLengths node) (treeBytes node)
  | .text location text => by
    rw [encode, treeLengths, treeBytes, ← writeHeader_text location text]
    exact (laysOut_writeText text).map (_ ++ ·)
  | .sequence location children => by
    rw [encode, treeLengths, treeBytes, ← writeHeader_sequence location children,
      List.append_assoc]
    -- the count of the children comes before their layouts
    exact (laysOut_writeLength _).bind
      ((laysOut_encodeAll children).map fun each => _ ++ (_ ++ each))
  | .query location lookup complement => by
    rw [encode, treeLengths, treeBytes, ← writeHeader_query location lookup complement,
      List.append_assoc]
    exact (laysOut_writeLookup lookup).bind
      ((laysOut_encode? complement).map fun inner => _ ++ (_ ++ inner))

theorem laysOut_encodeAll : ∀ nodes : List Node,
    LaysOut (encodeAll nodes) (treesLengths nodes) (treesBytes nodes)
  | [] => by
    rw [encodeAll, treesLengths, treesBytes]
    exact LaysOut.pure []
  | node :: rest => by
    rw [encodeAll, treesLengths, treesBytes]
    exact (laysOut_encode node).bind ((laysOut_encodeAll rest).map (_ ++ ·))

theorem laysOut_encode? : ∀ node : Option Node,
    LaysOut (encode? node) (complementLengths node) (complementBytes node)
  | none => by
    rw [encode?, complementLengths, complementBytes]
    exact LaysOut.pure _
  | some node => by
    rw [encode?, complementLengths, complementBytes]
    exact laysOut_encode node

end

/-- **Layout.** If every text of a tree has at most `2147483647` bytes, and every list in it at most
so many members, then the writer with the stack succeeds and gives the layout of the tree. Otherwise
it fails with this number as an invalid length. -/
theorem writeNode_layout (node : Node) :
    writeNode node =
      if ∀ n ∈ treeLengths node, n ≤ 2147483647 then .ok (treeBytes node)
      else .error (.invalidLength 2147483647) := by
  rw [writeNode_eq_encode]
  exact laysOut_encode node

/-- A query without fields and without a complement: the tag, the place, two absent texts, no
filter, no carrier, and the mark of an absent node. -/
example : treeBytes (.query ⟨1, 2⟩ .blank none) =
    [0x71, 0x75, 0x65, 0x72, 1, 0, 0, 0, 2, 0, 0, 0, 0xFF, 0xFF, 0xFF, 0xFF, 0xFF, 0xFF, 0xFF, 0xFF,
      0, 0, 0, 0, 0, 0, 0, 0, 0, 0] := by decide

end Wordweave.Wire
