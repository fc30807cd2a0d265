import Wordweave.Proofs.Wire.Descent
import Wordweave.Proofs.Wire.Preorder

/-!
# Wordweave — the bytes of a tree

A tree is written in preorder. Bytes that are not written may stand for it as well: a filter of an
unknown kind is the number of its kind and nothing else, and a list of filters may hold such numbers
anywhere, with a count that includes them (`FilterItem`). They can be among the filters of every
query, at any depth (`Padded`).

A reader takes an item for a filter or for nothing, so it takes the list for its filters in order,
and it is right behind the list when it goes on. Hence the descent takes all these bytes for the same
tree. This goes by the structure of the tree.

Main results:

* `padded_encode` — what is written is among the bytes of a tree.
* `takes_padded`  — the descent takes the bytes of a tree.
-/

namespace Wordweave.Wire

/-! ## Bytes of trees -/

mutual

/-- Bytes of a tree that may have numbers of unknown kinds among the filters of its queries. -/
inductive Padded : Node → Bytes → Prop
  | text {location : Location} {text : String} {content : Bytes}
      (hcontent : writeText text = .ok content) :
      Padded (.text location text) (writeHeader (.text location text) ++ content)
  | sequence {location : Location} {children : List Node} {count below : Bytes}
      (hcount : writeLength children.length = .ok count) (hbelow : PaddedAll children below) :
      Padded (.sequence location children)
        (writeHeader (.sequence location children) ++ (count ++ below))
  | query {location : Location} {lookup : Lookup} {complement : Option Node}
      {items : List FilterItem} {fields below : Bytes}
      (hitems : items.filterMap FilterItem.filter? = lookup.filters)
      (hfields : writeLookupWith items lookup = .ok fields) (hbelow : Padded? complement below) :
      Padded (.query location lookup complement)
        (writeHeader (.query location lookup complement) ++ (fields ++ below))

/-- The same for trees in order. -/
inductive PaddedAll : List Node → Bytes → Prop
  | nil : PaddedAll [] []
  | cons {child : Node} {rest : List Node} {front back : Bytes} (hfirst : Padded child front)
      (hothers : PaddedAll rest back) : PaddedAll (child :: rest) (front ++ back)

/-- The same for a tree that may be absent. -/
inductive Padded? : Option Node → Bytes → Prop
  | absent : Padded? none (writeHeader? none)
  | present {node : Node} {bytes : Bytes} (h : Padded node bytes) : Padded? (some node) bytes

end

mutual

/-- What is written for a tree is bytes of it, with nothing inserted. -/
theorem padded_encode : ∀ (node : Node) {bytes : Bytes}, encode node = .ok bytes →
    Padded node bytes
  | .text location text, bytes, h => by
    rw [encode] at h
    obtain ⟨content, hcontent, h⟩ := bind_inv h
    obtain rfl := pure_inv h
    exact .text hcontent
  | .sequence location children, bytes, h => by
    rw [encode] at h
    obtain ⟨count, hcount, h⟩ := bind_inv h
    obtain ⟨below, hbelow, h⟩ := bind_inv h
    obtain rfl := pure_inv h
    exact .sequence hcount (padded_encodeAll children hbelow)
  | .query location lookup complement, bytes, h => by
    rw [encode] at h
    obtain ⟨fields, hfields, h⟩ := bind_inv h
    obtain ⟨below, hbelow, h⟩ := bind_inv h
    obtain rfl := pure_inv h
    -- all items are filters
    rw [← writeLookupWith_known] at hfields
    have hitems : (lookup.filters.map FilterItem.known).filterMap FilterItem.filter? =
        lookup.filters := by
      rw [List.filterMap_map]
      exact List.filterMap_some
    exact .query hitems hfields (padded_encode? complement hbelow)

theorem padded_encodeAll : ∀ (nodes : List Node) {bytes : Bytes}, encodeAll nodes = .ok bytes →
    PaddedAll nodes bytes
  | [], bytes, h => by
    rw [encodeAll] at h
    obtain rfl := pure_inv h
    exact .nil
  | first :: others, bytes, h => by
    rw [encodeAll] at h
    obtain ⟨front, hfront, h⟩ := bind_inv h
    obtain ⟨back, hback, h⟩ := bind_inv h
    obtain rfl := pure_inv h
    exact .cons (padded_encode first hfront) (padded_encodeAll others hback)

theorem padded_encode? : ∀ (node : Option Node) {bytes : Bytes}, encode? node = .ok bytes →
    Padded? node bytes
  | none, bytes, h => by
    rw [encode?] at h
    obtain rfl := pure_inv h
    exact .absent
  | some node, bytes, h => by
    rw [encode?] at h
    exact .present (padded_encode node h)

end

/-! ## The descent takes the bytes of a tree -/

/-- A tree is taken if what comes after its header is. -/
theorem takes_tree {node node' : Node} {bytes : Bytes}
    (h : Takes (readAfter readTree? (NodeKind.ofNode node, node.location)) bytes node') :
    Takes readTree? (writeHeader node ++ bytes) (some node') := by
  rw [readTree?_eq]
  exact (takes_readHeader node).bind (h.map some)

/-- A child that is there. -/
theorem takes_present {child : Reader (Option Node)} {bytes : Bytes} {node : Node}
    (h : Takes child bytes (some node)) : Takes (present child) bytes node :=
  h.bind_nil (Takes.pure node)

/-- The mark of an absent tree. -/
theorem takes_absent : Takes readTree? (writeHeader? none) none := by
  rw [readTree?_eq]
  exact takes_readHeader_none.bind_nil (Takes.pure none)

mutual

/-- The descent takes padded bytes of a tree for its normal form. By induction on the tree, as for
the bytes that are written. -/
theorem takes_padded : ∀ (node : Node) {bytes : Bytes}, Padded node bytes →
    Takes readTree? bytes (some node.normal)
  | .text location text, bytes, h => by
    cases h with
    | text hcontent =>
      rw [Node.normal]
      exact takes_tree ((takes_readText hcontent).map (Node.text location))
  | .sequence location children, bytes, h => by
    cases h with
    | sequence hcount hbelow =>
      have hchildren := takes_paddedAll children hbelow
      rw [Node.normal]
      exact takes_tree ((takes_readLength hcount).bind (hchildren.map (Node.sequence location)))
  | .query location lookup complement, bytes, h => by
    cases h with
    | query hitems hfields hbelow =>
      have hcomplement := takes_padded? complement hbelow
      rw [Node.normal_query]
      exact takes_tree ((takes_readLookup hitems hfields).bind
        (hcomplement.map (Node.query location lookup.normal)))

theorem takes_paddedAll : ∀ (nodes : List Node) {bytes : Bytes}, PaddedAll nodes bytes →
    Takes (readEach (present readTree?) nodes.length) bytes (Node.normalAll nodes)
  | [], bytes, h => by
    cases h with
    | nil =>
      rw [Node.normalAll]
      exact Takes.pure []
  | first :: others, bytes, h => by
    cases h with
    | cons hfirst hothers =>
      have hhead := takes_present (takes_padded first hfirst)
      have htail := takes_paddedAll others hothers
      rw [Node.normalAll, List.length_cons, readEach_succ]
      exact hhead.bind (htail.map (first.normal :: ·))

theorem takes_padded? : ∀ (node : Option Node) {bytes : Bytes}, Padded? node bytes →
    Takes readTree? bytes (node.map Node.normal)
  | none, bytes, h => by
    cases h with
    | absent => exact takes_absent
  | some node, bytes, h => by
    cases h with
    | present h => exact takes_padded node h

end

end Wordweave.Wire
