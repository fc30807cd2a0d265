import Wordweave.Node

/-!
# Wordweave — carriers in normal form

`Carrier.normal` adds the ties of a carrier one by one to the empty carrier. What comes of it can be
told kind by kind: a kind without names is not there any more, and of the names of every other kind
the repetitions are gone, while the first occurrences keep their order (`names?_normal`). The ties
of the whole carrier are rid of their repetitions in the same way (`ties_normal`).

A carrier that was built by adding ties is in normal form already (`normal_addAll`).

The normal form of a lookup or of a tree is that of its carriers; nothing else in it is touched.
-/

namespace Wordweave

/-! ## Lists without repetitions -/

section Repetitions

variable {α β σ : Type} [DecidableEq α] [DecidableEq β]

/-- A member that comes again is dropped, a new one stays. -/
theorem eraseDups_concat (l : List α) (a : α) :
    (l ++ [a]).eraseDups = if a ∈ l then l.eraseDups else l.eraseDups ++ [a] := by
  rw [List.eraseDups_append]
  by_cases h : a ∈ l
  · simp [List.removeAll, h]
  · simp [List.removeAll, h, List.eraseDups_cons]

/-- Nothing is left of a list only if nothing was there. -/
theorem eraseDups_eq_nil {l : List α} : l.eraseDups = [] ↔ l = [] := by
  cases l with
  | nil => simp
  | cons a l => simp [List.eraseDups_cons]

/-- Lists without common members lose their repetitions each on its own. -/
theorem eraseDups_append_of_disjoint {l m : List α} (h : ∀ a ∈ m, a ∉ l) :
    (l ++ m).eraseDups = l.eraseDups ++ m.eraseDups := by
  have hm : m.removeAll l = m := by
    rw [List.removeAll, List.filter_eq_self]
    intro a ha
    simp [h a ha]
  rw [List.eraseDups_append, hm]

/-- Members that are told apart after a change were told apart before it. -/
theorem eraseDups_map {f : α → β} (hf : ∀ a b, f a = f b → a = b) :
    ∀ l : List α, (l.map f).eraseDups = l.eraseDups.map f
  | [] => by simp
  | a :: l => by
    have hlength : (l.filter fun b => !b == a).length < l.length + 1 :=
      Nat.lt_succ_of_le (List.length_filter_le ..)
    have hfilter : (l.map f).filter (fun b => !b == f a) = (l.filter fun b => !b == a).map f := by
      rw [List.filter_map]
      congr 1
      apply List.filter_congr
      intro b _
      have hsame : f b = f a ↔ b = a := ⟨hf b a, congrArg f⟩
      rw [Bool.eq_iff_iff]
      simp [hsame]
    rw [List.map_cons, List.eraseDups_cons, List.eraseDups_cons, hfilter, eraseDups_map hf,
      List.map_cons]
termination_by l => l.length

/-- A list without repetitions stays as it is. -/
theorem eraseDups_eraseDups : ∀ l : List α, l.eraseDups.eraseDups = l.eraseDups
  | [] => by simp
  | a :: l => by
    have hlength : (l.filter fun b => !b == a).length < l.length + 1 :=
      Nat.lt_succ_of_le (List.length_filter_le ..)
    have hfilter : (l.filter fun b => !b == a).eraseDups.filter (fun b => !b == a) =
        (l.filter fun b => !b == a).eraseDups := by
      rw [List.filter_eq_self]
      intro b hb
      rw [List.mem_eraseDups, List.mem_filter] at hb
      exact hb.2
    rw [List.eraseDups_cons, List.eraseDups_cons, hfilter, eraseDups_eraseDups]
termination_by l => l.length

end Repetitions

/-! ## Kinds and names -/

namespace Carrier

/-- The names that ties have under a kind, in order. -/
def namesUnder (kind : TieKind) (ties : List Tie) : List String :=
  (ties.filter (·.kind = kind)).map (·.name)

/-- What is given to a kind is there, and what is given to another one changes nothing. -/
theorem names?_set (c : Carrier) (kind other : TieKind) (names : List String) :
    (c.set kind names).names? other = if kind = other then some names else c.names? other := by
  unfold names? set
  by_cases h : kind = other
  · subst h
    simp
  · have hrank : kind.rank.val ≠ other.rank.val := by
      cases kind <;> cases other <;> first | decide | exact absurd rfl h
    rw [if_neg h]
    simp [hrank]

/-- Carriers are the same if they have the same names under each kind. -/
theorem ext_names? {c d : Carrier} (h : ∀ kind, c.names? kind = d.names? kind) : c = d := by
  have hrank : ∀ i : Fin 7, ∃ kind : TieKind, kind.rank = i := by
    intro i
    have hkinds : ∀ i : Fin 7, ∃ kind ∈ TieKind.all, kind.rank = i := by decide
    obtain ⟨kind, -, hkind⟩ := hkinds i
    exact ⟨kind, hkind⟩
  obtain ⟨xs⟩ := c
  obtain ⟨ys⟩ := d
  congr 1
  apply Vector.ext
  intro i hi
  obtain ⟨kind, hkind⟩ := hrank ⟨i, hi⟩
  obtain rfl : kind.rank.val = i := by rw [hkind]
  exact h kind

/-- The names under a kind after a tie has been added. -/
theorem names?_add (c : Carrier) (tie : Tie) (kind : TieKind) :
    (c.add tie).names? kind =
      if tie.kind = kind then
        some (if tie.name ∈ c.names kind then c.names kind else c.names kind ++ [tie.name])
      else c.names? kind := by
  unfold add
  rw [names?_set]
  by_cases h : tie.kind = kind
  · subst h
    simp
  · rw [if_neg h, if_neg h]

/-- Ties that are added to ties without repetitions, which `before` had with repetitions, leave the
names without those that come again. -/
theorem names?_addAll {c : Carrier} {kind : TieKind} (ties : List Tie) {before : List String}
    (h : c.names kind = before.eraseDups) :
    (c.addAll ties).names? kind =
      if namesUnder kind ties = [] then c.names? kind
      else some (before ++ namesUnder kind ties).eraseDups := by
  induction ties generalizing c before with
  | nil => simp [addAll, namesUnder]
  | cons tie ties ih =>
    rw [show c.addAll (tie :: ties) = (c.add tie).addAll ties from rfl]
    by_cases hkind : tie.kind = kind
    · have hadd : (c.add tie).names? kind = some (before ++ [tie.name]).eraseDups := by
        rw [names?_add, if_pos hkind, eraseDups_concat, h]
        simp only [List.mem_eraseDups]
      have hnames : namesUnder kind (tie :: ties) = tie.name :: namesUnder kind ties := by
        simp [namesUnder, hkind]
      have hbefore : (c.add tie).names kind = (before ++ [tie.name]).eraseDups := by
        rw [names, hadd, Option.getD_some]
      have hnonempty : ¬ tie.name :: namesUnder kind ties = [] := List.cons_ne_nil _ _
      rw [ih hbefore, hadd, hnames, if_neg hnonempty, List.append_assoc, List.singleton_append]
      split
      · next hnil => rw [hnil]
      · rfl
    · have hadd : (c.add tie).names? kind = c.names? kind := by rw [names?_add, if_neg hkind]
      have hnames : namesUnder kind (tie :: ties) = namesUnder kind ties := by
        simp [namesUnder, hkind]
      have hbefore : (c.add tie).names kind = before.eraseDups := by rw [names, hadd, ← h, names]
      rw [ih hbefore, hadd, hnames]

/-- The empty carrier has no kind. -/
theorem names?_empty (kind : TieKind) : empty.names? kind = none := by
  unfold names? empty
  simp

/-- A carrier made of ties has their names under each kind, without repetitions. -/
theorem names?_ofTies (ties : List Tie) (kind : TieKind) :
    (empty.addAll ties).names? kind =
      if namesUnder kind ties = [] then none else some (namesUnder kind ties).eraseDups := by
  have h : empty.names kind = ([] : List String).eraseDups := by
    rw [names, names?_empty]
    rfl
  rw [names?_addAll ties h, names?_empty, List.nil_append]

/-- The ties of a carrier under a kind are its names there. -/
theorem namesUnder_ties (c : Carrier) (kind : TieKind) : namesUnder kind c.ties = c.names kind := by
  have hown (kind other : TieKind) : namesUnder kind ((c.names other).map (⟨other, ·⟩)) =
      if other = kind then c.names other else [] := by
    unfold namesUnder
    by_cases h : other = kind <;> simp [List.filter_map, Function.comp_def, h]
  have happend (xs ys : List Tie) :
      namesUnder kind (xs ++ ys) = namesUnder kind xs ++ namesUnder kind ys := by
    simp [namesUnder]
  unfold ties TieKind.all
  simp only [List.flatMap_cons, List.flatMap_nil, happend, hown]
  cases kind <;> simp [namesUnder]

/-- **Normal form, kind by kind.** A kind without names is dropped, and every other kind keeps the
first occurrences of its names, in order. -/
theorem names?_normal (c : Carrier) (kind : TieKind) :
    c.normal.names? kind = if c.names kind = [] then none else some (c.names kind).eraseDups := by
  rw [normal, names?_ofTies, namesUnder_ties]

/-- The names of the normal form. -/
theorem names_normal (c : Carrier) (kind : TieKind) :
    c.normal.names kind = (c.names kind).eraseDups := by
  rw [names, names?_normal]
  split
  · next h => rw [h]; rfl
  · rfl

/-- A carrier made of ties is in normal form. -/
theorem normal_addAll (ties : List Tie) : (empty.addAll ties).normal = empty.addAll ties := by
  apply ext_names?
  intro kind
  rw [names?_normal, names, names?_ofTies]
  by_cases h : namesUnder kind ties = []
  · simp [h]
  · simp [h, eraseDups_eq_nil, eraseDups_eraseDups]

/-- The ties under some kinds, each kind apart from the others. -/
theorem eraseDups_flatMap (c : Carrier) {kinds : List TieKind} (h : kinds.Nodup) :
    (kinds.flatMap fun kind => (c.names kind).map (Tie.mk kind)).eraseDups =
      kinds.flatMap fun kind => (c.names kind).eraseDups.map (Tie.mk kind) := by
  induction kinds with
  | nil => rfl
  | cons kind kinds ih =>
    obtain ⟨hnew, hrest⟩ := List.nodup_cons.mp h
    have hdisjoint : ∀ tie ∈ kinds.flatMap fun kind => (c.names kind).map (Tie.mk kind),
        tie ∉ (c.names kind).map (Tie.mk kind) := by
      intro tie htie hown
      obtain ⟨other, hother, hin⟩ := List.mem_flatMap.mp htie
      obtain ⟨name, -, rfl⟩ := List.mem_map.mp hin
      obtain ⟨name', -, heq⟩ := List.mem_map.mp hown
      obtain rfl : kind = other := congrArg Tie.kind heq
      exact hnew hother
    rw [List.flatMap_cons, List.flatMap_cons, eraseDups_append_of_disjoint hdisjoint, ih hrest,
      eraseDups_map fun _ _ heq => congrArg Tie.name heq]

/-- The normal form has the same ties, each once. -/
theorem ties_normal (c : Carrier) : c.normal.ties = c.ties.eraseDups := by
  have hkinds : TieKind.all.Nodup := by decide
  rw [ties, ties, eraseDups_flatMap c hkinds]
  simp only [names_normal]

end Carrier

/-! ## Lookups and trees -/

/-- The lookup with its carrier in normal form. -/
def Lookup.normal (q : Lookup) : Lookup := { q with carrier := q.carrier.map Carrier.normal }

namespace Node

mutual

/-- The tree with all carriers in normal form. Nothing else is changed. -/
def normal : Node → Node
  | .text location content => .text location content
  | .sequence location children => .sequence location (normalAll children)
  | .query location lookup none => .query location lookup.normal none
  | .query location lookup (some complement) =>
    .query location lookup.normal (some complement.normal)

/-- Trees with all carriers in normal form. -/
def normalAll : List Node → List Node
  | [] => []
  | child :: rest => child.normal :: normalAll rest

end

mutual

/-- The carriers of a tree, those of its complements included. -/
def carriers : Node → List Carrier
  | .text _ _ => []
  | .sequence _ children => carriersAll children
  | .query _ lookup none => lookup.carrier.toList
  | .query _ lookup (some complement) => lookup.carrier.toList ++ complement.carriers

/-- The carriers of several trees. -/
def carriersAll : List Node → List Carrier
  | [] => []
  | child :: rest => child.carriers ++ carriersAll rest

end

/-- The normal form of a query. -/
theorem normal_query (location : Location) (lookup : Lookup) (complement : Option Node) :
    (Node.query location lookup complement).normal =
      .query location lookup.normal (complement.map normal) := by
  cases complement with
  | none => rw [normal, Option.map_none]
  | some complement => rw [normal, Option.map_some]

/-- The carriers of a query are its own and those of its complement. -/
theorem carriers_query (location : Location) (lookup : Lookup) (complement : Option Node) :
    (Node.query location lookup complement).carriers =
      lookup.carrier.toList ++ complement.toList.flatMap carriers := by
  cases complement with
  | none => simp [carriers]
  | some complement => simp [carriers]

/-- The carriers of several trees are those of each. -/
theorem carriersAll_eq_flatMap (children : List Node) :
    carriersAll children = children.flatMap carriers := by
  induction children with
  | nil => rw [carriersAll, List.flatMap_nil]
  | cons child rest ih => rw [carriersAll, ih, List.flatMap_cons]

end Node

/-- A lookup whose carrier is in normal form is so itself. -/
theorem Lookup.normal_eq_self {q : Lookup} (h : ∀ c ∈ q.carrier.toList, c.normal = c) :
    q.normal = q := by
  obtain ⟨name, subtype, exclusive, filters, carrier⟩ := q
  cases carrier with
  | none => rfl
  | some c =>
    have hc : c.normal = c := h c (by simp)
    simp [Lookup.normal, hc]

namespace Node

mutual

/-- A tree whose carriers are all in normal form is so itself. -/
theorem normal_eq_self : ∀ n : Node, (∀ c ∈ n.carriers, c.normal = c) → n.normal = n
  | .text _ _, _ => by rw [normal]
  | .sequence _ children, h => by
    rw [carriers] at h
    rw [normal, normalAll_eq_self children h]
  | .query _ lookup none, h => by
    rw [carriers] at h
    rw [normal, Lookup.normal_eq_self h]
  | .query _ lookup (some complement), h => by
    rw [carriers] at h
    rw [normal, Lookup.normal_eq_self fun c hc => h c (List.mem_append_left _ hc),
      normal_eq_self complement fun c hc => h c (List.mem_append_right _ hc)]

/-- The same for several trees. -/
theorem normalAll_eq_self :
    ∀ ns : List Node, (∀ c ∈ carriersAll ns, c.normal = c) → normalAll ns = ns
  | [], _ => by rw [normalAll]
  | child :: rest, h => by
    rw [carriersAll] at h
    rw [normalAll, normal_eq_self child fun c hc => h c (List.mem_append_left _ hc),
      normalAll_eq_self rest fun c hc => h c (List.mem_append_right _ hc)]

end

end Node

end Wordweave
