import Wordweave.Proofs.Run.Simulation
import Wordweave.Proofs.Vocabulary.Order

/-!
# Wordweave — runs that ignore orders

Put the filters of a tree into another order, the rules and alternatives of its class filters, and
the names of its carriers, the `matching` ones excepted; list names twice; and do as much with the
classes of a vocabulary. Nothing comes of it. Every query is answered as before by the same random
words (`Lookup.Alike.keeps`), and what it records or forgets is a set of ties, so the tree prints the
same and the same is remembered.

Main result:

* `Node.run_alike` — alike trees run alike in alike vocabularies.
-/

namespace Wordweave

/-- Trees of one form whose lookups are alike. -/
def Node.Alike (root root' : Node) : Prop := root.Related Lookup.Alike root'

/-- Alike lookups keep step in memories that say the same. -/
theorem Lookup.Alike.keeps {v v' : Vocabulary} (h : v.Alike v') (hv : v.Shapely) {q q' : Lookup}
    (hq : q.Alike q') : Keeps Memory.Same v v' q q' where
  erase_iff := by rw [hq.name]
  removeAll hm := hm.removeAll hq.ties_same
  answer hm s := by
    obtain ⟨hterm, hstream, hmemory⟩ := h.answer_eq hv hq hm s
    exact ⟨hterm, hstream, hmemory⟩

/-- **Orders.** Offer any tables to an empty vocabulary, and take a vocabulary like it, whose classes
may stand in other orders or be repeated. Run alike trees in the two, from any state: they may differ
in the order of filters, of the rules and alternatives of class filters, and of all names but the
`matching` ones, and in repetitions of such. The same is printed, the same random words are left, and
the same is remembered under every tie. -/
theorem Node.run_alike (tables : List Table) {v' : Vocabulary}
    (hv : (Vocabulary.empty.offerAll tables).Alike v') (catalog : Catalog) {root root' : Node}
    (hroot : root.Alike root') (s : RunState) :
    let v := Vocabulary.empty.offerAll tables
    let t := root.run (.ofVocabulary (some v) catalog) s
    let t' := root'.run (.ofVocabulary (some v') catalog) s
    t.output = t'.output ∧ t.stream = t'.stream ∧ ∀ tie, t.memory.get? tie = t'.memory.get? tie := by
  have hshapely := Vocabulary.shapely_offerAll tables
  have hkeeps : ∀ {q q' : Lookup}, q.Alike q' →
      Keeps Memory.Same (Vocabulary.empty.offerAll tables) v' q q' :=
    fun hq => hq.keeps hv hshapely
  exact Node.run_related hkeeps hroot rfl rfl fun _ => rfl

/-- A noun and a verb with the classes of the noun: the filters and the rules are turned round, and
so are the names, of which one is repeated, and the classes of the cat. -/
theorem Node.run_alike_purr :
    let small : ClassTest := ⟨"small", false⟩
    let tame : ClassTest := ⟨"tame", false⟩
    let furry : ClassTest := ⟨"furry", false⟩
    let short : Filter := .between 1 2
    let names (listed : List String) := some (Carrier.empty.set .associative listed)
    let verb : Node := .tied "verb" [⟨.associative, "a"⟩]
    let tree (filters : List Filter) (listed : List String) : Node :=
      .sequence .origin [.query .origin ⟨some "noun", none, true, filters, names listed⟩ none, verb]
    let root := tree [.byClass [[small, tame], [furry]], short] ["a", "b"]
    let root' := tree [short, .byClass [[furry], [tame, small]]] ["b", "a", "b"]
    let v' : Vocabulary :=
      ⟨[⟨"noun", Table.standardSubtypes, [⟨["cat"], ["small", "furry", "small"]⟩,
          ⟨["eel"], ["small"]⟩, ⟨["whale"], ["large"]⟩]⟩,
        ⟨"verb", Table.standardSubtypes, [⟨["purr"], ["small", "furry"]⟩]⟩]⟩
    let s : RunState := ⟨.empty, .empty, .ofSeed 0⟩
    (Vocabulary.empty.offerAll menagerie.tables).Alike v' ∧ root.Alike root' ∧
      (root.run (.ofVocabulary (some menagerie) .english) s).output.units = ["cat", "purr"] ∧
      (root'.run (.ofVocabulary (some v') .english) s).output.units = ["cat", "purr"] := by
  intro small tame furry short names verb tree root root' v' s
  have hmenagerie : Vocabulary.empty.offerAll menagerie.tables = menagerie := by decide
  have hv : (Vocabulary.empty.offerAll menagerie.tables).Alike v' := by
    have hself (e : Entry) : e.Alike e := ⟨rfl, fun _ => Iff.rfl⟩
    have hcat : Entry.Alike ⟨["cat"], ["furry", "small"]⟩ ⟨["cat"], ["small", "furry", "small"]⟩ :=
      ⟨rfl, fun name => by grind⟩
    rw [hmenagerie]
    exact .cons ⟨rfl, rfl, .cons hcat (.cons (hself _) (.cons (hself _) .nil))⟩
      (.cons ⟨rfl, rfl, .cons (hself _) .nil⟩ .nil)
  have hroot : root.Alike root' := by
    have hrules : SameUpTo SameMembers [[small, tame], [furry]] [[furry], [tame, small]] :=
      .of_perm (.cons (.of_perm (.swap ..)) (.cons (.of_perm (.refl _)) .nil)) (.swap ..)
    have hfilters : SameUpTo Filter.Alike [.byClass [[small, tame], [furry]], short]
        [short, .byClass [[furry], [tame, small]]] :=
      .of_perm (.cons (.byClass hrules) (.cons (.refl short) .nil)) (.swap ..)
    have hnames : Carrier.Alike (Carrier.empty.set .associative ["a", "b"])
        (Carrier.empty.set .associative ["b", "a", "b"]) := by
      refine ⟨rfl, fun kind name => ?_⟩
      -- the other kinds have no names in either carrier
      cases kind with
      | associative =>
        simp only [Carrier.names, Carrier.names?_set]
        grind
      | _ => exact Iff.rfl
    have hverb : Lookup.Alike (.tied "verb" [⟨.associative, "a"⟩])
        (.tied "verb" [⟨.associative, "a"⟩]) :=
      ⟨rfl, rfl, rfl, .of_perm .nil (.refl _), .some ⟨rfl, fun _ _ => Iff.rfl⟩⟩
    exact .sequence (.cons (.query ⟨rfl, rfl, rfl, hfilters, .some hnames⟩ .none)
      (.cons (.query hverb .none) .nil))
  obtain ⟨houtput, -, -⟩ := Node.run_alike menagerie.tables hv .english hroot s
  rw [hmenagerie] at houtput
  have hpurr : (root.run (.ofVocabulary (some menagerie) .english) s).output.units =
      ["cat", "purr"] := by decide +kernel
  exact ⟨hv, hroot, hpurr, houtput ▸ hpurr⟩

end Wordweave
