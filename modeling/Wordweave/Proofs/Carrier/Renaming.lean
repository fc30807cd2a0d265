import Mathlib.Data.List.Nodup
import Wordweave.Memory
import Wordweave.Node
import Wordweave.Proofs.Carrier.Normal

/-!
# Wordweave — ties under new names

A *renaming* gives every name under every kind a new name, so that names that were different stay
different. It is carried out in a carrier, in a lookup, in a tree and in a memory by giving all ties
their new names; kinds, and the order of the names under a kind, are kept.

A memory that is renamed remembers under the new name of a tie what it remembered under the old one
(`Memory.get?_rename`), and nothing under a tie that is no new name of any
(`Memory.get?_rename_of_ne`).
-/

namespace Wordweave

/-- New names for the names under each kind. -/
structure Renaming where
  newName : TieKind → String → String
  injective : ∀ kind, Function.Injective (newName kind)

variable (f : Renaming)

/-! ## Ties and carriers -/

def Tie.rename (tie : Tie) : Tie := ⟨tie.kind, f.newName tie.kind tie.name⟩

theorem Tie.rename_injective : Function.Injective (Tie.rename f) := by
  rintro ⟨kind, name⟩ ⟨kind', name'⟩ h
  obtain rfl : kind = kind' := congrArg Tie.kind h
  have hname : f.newName kind name = f.newName kind name' := congrArg Tie.name h
  rw [f.injective kind hname]

/-- The carrier with new names in all of its lists. -/
def Carrier.rename (c : Carrier) : Carrier :=
  ⟨Vector.zipWith (fun kind => Option.map (List.map (f.newName kind))) ⟨TieKind.all.toArray, rfl⟩
    c.lists⟩

namespace Carrier

theorem names?_rename (c : Carrier) (kind : TieKind) :
    (c.rename f).names? kind = (c.names? kind).map (List.map (f.newName kind)) := by
  -- the kinds stand in their order, each at its rank
  have hkind : (⟨TieKind.all.toArray, rfl⟩ : Vector TieKind 7)[kind.rank] = kind := by
    cases kind <;> rfl
  rw [Fin.getElem_fin] at hkind
  rw [names?, names?, rename, Fin.getElem_fin, Vector.getElem_zipWith, hkind]
  rfl

theorem names_rename (c : Carrier) (kind : TieKind) :
    (c.rename f).names kind = (c.names kind).map (f.newName kind) := by
  rw [names, names, names?_rename]
  cases c.names? kind with
  | none => rfl
  | some names => rfl

/-- The ties of a carrier get their new names in place. -/
theorem ties_rename (c : Carrier) : (c.rename f).ties = c.ties.map (Tie.rename f) := by
  have hkind : ∀ kind, ((c.rename f).names kind).map (Tie.mk kind) =
      ((c.names kind).map (Tie.mk kind)).map (Tie.rename f) := by
    intro kind
    rw [names_rename, List.map_map, List.map_map]
    rfl
  rw [ties, ties, List.map_flatMap]
  simp only [hkind]

end Carrier

/-! ## Lookups and trees -/

def Lookup.rename (q : Lookup) : Lookup := { q with carrier := q.carrier.map (Carrier.rename f) }

theorem Lookup.ties_rename (q : Lookup) : (q.rename f).ties = q.ties.map (Tie.rename f) := by
  obtain ⟨name, subtype, exclusive, filters, carrier⟩ := q
  cases carrier with
  | none => rfl
  | some c => exact c.ties_rename f

theorem Lookup.names_rename (q : Lookup) (kind : TieKind) :
    (q.rename f).carrier.elim [] (·.names kind) =
      (q.carrier.elim [] (·.names kind)).map (f.newName kind) := by
  obtain ⟨name, subtype, exclusive, filters, carrier⟩ := q
  cases carrier with
  | none => rfl
  | some c => exact c.names_rename f kind

mutual

/-- The tree with new names in all of its carriers, those of its complements included. -/
def Node.rename : Node → Node
  | .text location content => .text location content
  | .sequence location children => .sequence location (Node.renameAll children)
  | .query location lookup none => .query location (lookup.rename f) none
  | .query location lookup (some complement) =>
    .query location (lookup.rename f) (some complement.rename)

def Node.renameAll : List Node → List Node
  | [] => []
  | child :: rest => child.rename :: Node.renameAll rest

end

/-! ## Memories -/

/-- The memory with each slot moved to the new name of its tie. -/
def Memory.rename (m : Memory) : Memory where
  slots := m.slots.map fun slot => (slot.1.rename f, slot.2)
  nodup := by
    have hties : (m.slots.map fun slot => (slot.1.rename f, slot.2)).map (·.1) =
        (m.slots.map (·.1)).map (Tie.rename f) := by
      rw [List.map_map, List.map_map]
      rfl
    rw [hties]
    exact m.nodup.map (Tie.rename_injective f)

namespace Memory

theorem get?_rename (m : Memory) (tie : Tie) : (m.rename f).get? (tie.rename f) = m.get? tie := by
  have hfound : ∀ slot : Tie × Recall,
      (slot.1.rename f == tie.rename f) = (slot.1 == tie) := by
    intro slot
    rw [Bool.eq_iff_iff, beq_iff_eq, beq_iff_eq, (Tie.rename_injective f).eq_iff]
  unfold get? rename
  rw [List.find?_map, Option.map_map]
  simp only [Function.comp_def, hfound]

theorem get?_rename_of_ne (m : Memory) {tie : Tie} (h : ∀ other : Tie, other.rename f ≠ tie) :
    (m.rename f).get? tie = none := by
  unfold get? rename
  rw [Option.map_eq_none_iff, List.find?_eq_none]
  intro slot hslot
  obtain ⟨old, -, rfl⟩ := List.mem_map.mp hslot
  simpa using h old.1

end Memory

end Wordweave
