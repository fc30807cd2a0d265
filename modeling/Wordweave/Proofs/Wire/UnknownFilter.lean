import Wordweave.Proofs.Run.Reach
import Wordweave.Proofs.Wire.RoundTrip

/-!
# Wordweave — filters of unknown kinds

Bytes that were written when there were more kinds of filters can be read as far as the filters are
known. The others are passed over, and everything else is read as it was meant: the same tree comes
back as if they were not there, and the filters of its queries come in the order in which they stand.

Main result:

* `readNode?_of_padded` — numbers of unknown kinds among the filters make no difference.
-/

namespace Wordweave.Node

mutual

/-- The normal form of a tree makes the same lookups in the same order, each in normal form. -/
theorem lookups_normal : ∀ node : Node, node.normal.lookups = node.lookups.map Lookup.normal
  | .text _ _ => by rw [normal, lookups, List.map_nil]
  | .sequence _ children => by rw [normal, lookups, lookups, lookupsAll_normal children]
  | .query _ lookup none => by rw [normal, lookups, lookups, List.map_singleton]
  | .query _ lookup (some complement) => by
    rw [normal, lookups, lookups, List.map_cons, lookups_normal complement]

theorem lookupsAll_normal : ∀ nodes : List Node,
    lookupsAll (normalAll nodes) = (lookupsAll nodes).map Lookup.normal
  | [] => by rw [normalAll, lookupsAll, List.map_nil]
  | first :: others => by
    rw [normalAll, lookupsAll, lookupsAll, List.map_append, lookups_normal first,
      lookupsAll_normal others]

end

end Wordweave.Node

namespace Wordweave.Wire

/-- **Filters of unknown kinds.** Take what is written for a tree, and insert numbers of unknown
kinds anywhere among the filters of any of its queries, with counts that include them. The reader
gives the same tree, in which every query has its filters in order, and leaves just what follows. -/
theorem readNode?_of_padded {node : Node} {bytes padded : Bytes}
    (hwrite : writeNode node = .ok bytes) (hpadded : Padded node padded) :
    Padded node bytes ∧ readNode? padded = readNode? bytes ∧
      (∀ rest, readNode? (padded ++ rest) = .ok (some node.normal, rest)) ∧
      node.normal.lookups.map (·.filters) = node.lookups.map (·.filters) := by
  have htaken (rest : Bytes) : readNode? (padded ++ rest) = .ok (some node.normal, rest) := by
    rw [readNode?_eq_descent]
    exact takes_padded node hpadded rest
  have hsame : readNode? padded = readNode? bytes := by
    have hpadded := htaken []
    have hbytes := readNode?_of_writeNode hwrite []
    rw [List.append_nil] at hpadded hbytes
    rw [hpadded, hbytes]
  rw [writeNode_eq_encode] at hwrite
  refine ⟨padded_encode node hwrite, hsame, htaken, ?_⟩
  -- a normal form has other carriers only
  rw [Node.lookups_normal, List.map_map]
  rfl

/-- Three numbers before, between and after two filters are six bytes more, and the query comes back
with the two filters. -/
theorem readNode?_of_padded_noun :
    let old : Filter := .byClass [[⟨"old", false⟩]]
    let short : Filter := .bySyllables ⟨none, some 2⟩
    let q : Lookup := { Lookup.blank with name := some "noun", filters := [old, short] }
    let node : Node := .query .origin q none
    let items : List FilterItem :=
      [.unknown 7 (by decide), .known old, .unknown 0 (by decide), .known short,
        .unknown 65535 (by decide)]
    ∃ bytes fields, writeNode node = .ok bytes ∧ writeLookupWith items q = .ok fields ∧
      let padded := writeHeader node ++ (fields ++ writeHeader? none)
      padded.length = bytes.length + 6 ∧
        ∀ rest, readNode? (padded ++ rest) = .ok (some node, rest) := by
  intro old short q node items
  have hitems : items.filterMap FilterItem.filter? = q.filters := rfl
  have hnormal : node.normal = node := rfl
  refine ⟨_, _, rfl, rfl, rfl, ?_⟩
  obtain ⟨-, -, hread, -⟩ := @readNode?_of_padded node _ _ rfl (.query hitems rfl .absent)
  rwa [hnormal] at hread

end Wordweave.Wire
