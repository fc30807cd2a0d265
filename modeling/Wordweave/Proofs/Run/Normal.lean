import Wordweave.Proofs.Run.Evaluation
import Wordweave.Proofs.Vocabulary.Repetition

/-!
# Wordweave — runs of trees in normal form

A vocabulary answers a lookup as it answers its normal form, and what a lookup without a table makes
a run forget is the same. So a tree and its normal form have the same effect.

Main result:

* `Node.run_normal` — with a vocabulary or without one, a tree in normal form runs as the tree does.
-/

namespace Wordweave

variable (vocabulary : Option Vocabulary) (catalog : Catalog)

/-- A query whose lookup is in normal form has the same effect. The complement is no part of what a
vocabulary is asked. -/
theorem Query.eval_normal (lookup : Lookup) (complement other : Option Node) :
    Query.eval (.ofVocabulary vocabulary catalog) ⟨lookup.normal, complement⟩ =
      Query.eval (.ofVocabulary vocabulary catalog) ⟨lookup, other⟩ := by
  funext evaluate memory stream
  cases vocabulary with
  | none => rfl
  | some v =>
    have hname : lookup.normal.name = lookup.name := rfl
    simp only [Query.eval, Scene.ofVocabulary, Option.map_some, hname, v.answer_normal,
      memory.removeAll_normal]

namespace Node

mutual

/-- A tree in normal form has the same effect. -/
theorem eval_normal : ∀ node : Node,
    node.normal.eval (.ofVocabulary vocabulary catalog) =
      node.eval (.ofVocabulary vocabulary catalog)
  | .text _ _ => by rw [normal]
  | .sequence _ children => by rw [normal, eval, eval, evalAll_normal children]
  | .query _ lookup none => by rw [normal, eval, eval, Query.eval_normal]
  | .query _ lookup (some complement) => by
    rw [normal, eval, eval, eval_normal complement, Query.eval_normal]

/-- The same for several trees. -/
theorem evalAll_normal : ∀ nodes : List Node,
    evalAll (.ofVocabulary vocabulary catalog) (normalAll nodes) =
      evalAll (.ofVocabulary vocabulary catalog) nodes
  | [] => by rw [normalAll]
  | child :: rest => by
    rw [normalAll, evalAll, evalAll, eval_normal child, evalAll_normal rest]

end

/-- A tree in normal form runs as the tree does. -/
theorem run_normal (node : Node) (s : RunState) :
    node.normal.run (.ofVocabulary vocabulary catalog) s =
      node.run (.ofVocabulary vocabulary catalog) s := by
  rw [run_eq_after, run_eq_after, eval_normal]

end Node

end Wordweave
