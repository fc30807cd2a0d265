import Wordweave.Form.Node
import Wordweave.Proofs.Carrier.Normal
import Wordweave.Proofs.Json.RoundTrip

/-!
# Wordweave — records that are made again

The value of a tree makes the same tree again, and so it is with all that a tree consists of: places,
filters, carriers, lookups. A carrier comes back with its repetitions and its empty lists, since its
value lists the names of each kind as they are.

All numbers of these values are words, so the values can be printed and read (`integral_toJson`).

Main result:

* `Node.ofJson?_toJson` — a tree is what its value says.
-/

namespace Wordweave

/-! ## Plain values -/

namespace Json

theorem word?_ofNat (n : UInt32) : (ofNat n.toNat).word? = some n := by
  have hlt : n.toNat < 0x100000000 := n.toNat_lt
  simp [ofNat, word?, nat?, hlt]

theorem nullable?_ofString? (s : Option String) : nullable? string? (ofString? s) = some s := by
  cases s <;> rfl

/-- A list whose members are made again is made again. -/
theorem list?_map {α : Type} {toJson : α → Json} {read : Json → Option α} {l : List α}
    (h : ∀ a ∈ l, read (toJson a) = some a) : list? read (.array (l.map toJson)) = some l := by
  show (l.map toJson).mapM read = some l
  induction l with
  | nil => rfl
  | cons a l ih =>
    obtain ⟨ha, hl⟩ := List.forall_mem_cons.mp h
    rw [List.map_cons, List.mapM_cons, ha, ih hl]
    rfl

theorem list?_ofStrings (texts : List String) : list? string? (ofStrings texts) = some texts :=
  list?_map fun _ _ => rfl

theorem integral_ofNat (n : UInt32) : (ofNat n.toNat).Integral := by
  have hlt : n.toNat < 0x100000000 := n.toNat_lt
  refine .int (by omega) ?_
  rw [Reader.wordLimit]
  omega

theorem integral_ofString? : ∀ s : Option String, (ofString? s).Integral
  | none => .null
  | some s => .string s

theorem integral_array_map {α : Type} {toJson : α → Json} {l : List α}
    (h : ∀ a ∈ l, (toJson a).Integral) : (Json.array (l.map toJson)).Integral := by
  refine .array fun item hitem => ?_
  obtain ⟨a, ha, rfl⟩ := List.mem_map.mp hitem
  exact h a ha

theorem integral_ofStrings (texts : List String) : (ofStrings texts).Integral :=
  integral_array_map fun s _ => .string s

/-- The kind of a variant stands in front of its fields. -/
theorem variant?_ofVariant {kind : String} {fields : Record} (h : ∀ m ∈ fields, m.1 ≠ kindKey) :
    variant? (ofVariant kind fields) = some (.string kind, .object fields) := by
  have hnone : fields.filter (·.1 == kindKey) = [] :=
    List.filter_eq_nil_iff.mpr fun m hm => by simpa using h m hm
  have hall : fields.filter (·.1 != kindKey) = fields :=
    List.filter_eq_self.mpr fun m hm => by simpa using h m hm
  simp [ofVariant, variant?, hnone, hall]

end Json

/-! ## Places and filters -/

theorem Location.ofJson?_toJson (l : Location) : ofJson? l.toJson = some l := by
  simp [toJson, ofJson?, Json.record?, Json.Record.required, Json.Record.value?, Json.word?_ofNat]

theorem ClassTest.ofJson?_toJson (test : ClassTest) : ofJson? test.toJson = some test := by
  simp [toJson, ofJson?, Json.record?, Json.Record.required, Json.Record.withDefault,
    Json.Record.value?, Json.string?, Json.bool?]

theorem PatternFilter.ofJson?_fields (f : PatternFilter) :
    ofJson? (.object [("pattern", .string f.source), ("outside", .bool f.outside)]) = some f := by
  simp [ofJson?, Json.record?, Json.Record.required, Json.Record.withDefault, Json.Record.value?,
    Json.string?, Json.bool?, ofText?_self]

theorem SyllableBounds.nullable?_boundJson (bound : Option UInt32) :
    Json.nullable? Json.word? (boundJson bound) = some bound := by
  cases bound with
  | none => rfl
  | some n => exact congrArg (Option.map some) (Json.word?_ofNat n)

theorem SyllableBounds.ofJson?_fields (bounds : SyllableBounds) :
    ofJson? (.object [("min", boundJson bounds.least), ("max", boundJson bounds.most)]) =
      some bounds := by
  simp [ofJson?, Json.record?, Json.Record.withDefault, Json.Record.value?, nullable?_boundJson]

theorem Filter.ofJson?_toJson (inner : Bool) (f : Filter) : ofJson? inner f.toJson = some f := by
  cases f with
  | byClass rules =>
    have hrules : Json.list? (Json.list? ClassTest.ofJson?)
        (.array (rules.map fun rule => .array (rule.map (·.toJson)))) = some rules :=
      Json.list?_map fun rule _ => Json.list?_map fun test _ => test.ofJson?_toJson
    rw [toJson, ofJson?, Json.variant?_ofVariant (by simp [Json.kindKey])]
    simp [Json.kindIndex?, kindNames, List.findIdx?_cons, Json.record?, Json.Record.required,
      Json.Record.value?, hrules]
  | byPattern f =>
    rw [toJson, ofJson?, Json.variant?_ofVariant (by simp [Json.kindKey])]
    simp [Json.kindIndex?, kindNames, List.findIdx?_cons, PatternFilter.ofJson?_fields]
  | bySyllables bounds =>
    rw [toJson, ofJson?, Json.variant?_ofVariant (by simp [Json.kindKey])]
    simp [Json.kindIndex?, kindNames, List.findIdx?_cons, SyllableBounds.ofJson?_fields]

/-! ## Carriers -/

namespace Carrier

/-- The names that some kinds have in a carrier are given to another one. -/
theorem foldlM_setMember? (c : Carrier) (kinds : List TieKind) (start : Carrier) :
    ∃ d, ((kinds.filterMap fun kind => (c.names? kind).map (kind, ·)).map
        fun (kind, names) => (kind.name, Json.ofStrings names)).foldlM setMember? start = some d ∧
      ∀ kind, d.names? kind =
        if kind ∈ kinds ∧ (c.names? kind).isSome then c.names? kind else start.names? kind := by
  induction kinds generalizing start with
  | nil => exact ⟨start, rfl, fun kind => by simp⟩
  | cons first kinds ih =>
    cases hfirst : c.names? first with
    | none =>
      -- a kind that is absent is not written, so nothing is set for it
      obtain ⟨d, hd, hnames⟩ := ih start
      refine ⟨d, by simpa [hfirst] using hd, fun kind => ?_⟩
      rw [hnames]
      by_cases hkind : kind = first
      · simp [hkind, hfirst]
      · simp [hkind]
    | some names =>
      have hset : setMember? start (first.name, Json.ofStrings names) =
          some (start.set first names) := by
        have hname : TieKind.ofName? first.name = some first := by cases first <;> decide
        simp [setMember?, hname, Json.list?_ofStrings]
      obtain ⟨d, hd, hnames⟩ := ih (start.set first names)
      refine ⟨d, by simpa [hfirst, hset] using hd, fun kind => ?_⟩
      rw [hnames, names?_set]
      by_cases hkind : kind = first
      · subst hkind
        simp [hfirst]
      · simp [hkind, Ne.symm hkind]

/-- **Carriers.** A carrier is made again with its repetitions and its empty lists. -/
theorem ofJson?_toJson (c : Carrier) : ofJson? c.toJson = some c := by
  obtain ⟨d, hd, hnames⟩ := foldlM_setMember? c TieKind.all empty
  have hsame : d = c := by
    refine ext_names? fun kind => ?_
    have hall : kind ∈ TieKind.all := by cases kind <;> decide
    rw [hnames, names?_empty]
    cases h : c.names? kind <;> simp [hall]
  have hmembers : ofMembers? (.object (c.components.map fun (kind, names) =>
      (kind.name, Json.ofStrings names))) = some d := hd
  simp [ofJson?, toJson, Json.record?, Json.Record.required, Json.Record.value?, hmembers, hsame]

end Carrier

/-! ## Lookups and trees -/

theorem Carrier.nullable?_toJson (c : Option Carrier) :
    Json.nullable? ofJson? ((c.map (·.toJson)).getD .null) = some c := by
  cases c with
  | none => rfl
  | some c => exact congrArg (Option.map some) c.ofJson?_toJson

/-- The fields of a lookup, with others in front that are of no account. -/
theorem Lookup.ofRecord?_fields (inner : Bool) (q : Lookup) (others : Json.Record) :
    ofRecord? inner (q.fields ++ others) = some q := by
  have hfilters : Json.list? (Filter.ofJson? inner) (.array (q.filters.map (·.toJson))) =
      some q.filters := Json.list?_map fun f _ => f.ofJson?_toJson inner
  simp [ofRecord?, fields, Json.Record.withDefault, Json.Record.value?, Json.nullable?_ofString?,
    Json.bool?, hfilters, Carrier.nullable?_toJson]

theorem Query.ofJsonWith?_toJson (inner : Bool) {child : Json → Option Node} {complement : Option Node}
    (h : Json.nullable? child (Node.toJsonIn complement) = some complement) (q : Lookup) :
    ofJsonWith? inner child (.object (q.fields ++ [("complement", Node.toJsonIn complement)])) =
      some ⟨q, complement⟩ := by
  have hrecord : Json.record? fieldNames
      (.object (q.fields ++ [("complement", Node.toJsonIn complement)])) =
      some (q.fields ++ [("complement", Node.toJsonIn complement)]) := by
    simp [Json.record?, fieldNames, Lookup.fields]
  have hcomplement : Json.Record.withDefault (q.fields ++ [("complement", Node.toJsonIn complement)])
      "complement" none (Json.nullable? child) = some complement := by
    simp [Json.Record.withDefault, Json.Record.value?, Lookup.fields, h]
  simp [ofJsonWith?, hrecord, Lookup.ofRecord?_fields, hcomplement]

namespace Node

theorem exists_toJson_eq (n : Node) :
    ∃ kind ∈ kindNames, ∃ fields, n.toJson = .ofVariant kind fields ∧ ∀ m ∈ fields, m.1 ≠ Json.kindKey := by
  cases n with
  | text location content =>
    exact ⟨"Text", by decide, _, by rw [toJson], by simp [Json.kindKey]⟩
  | sequence location children =>
    exact ⟨"Sequence", by decide, _, by rw [toJson], by simp [Json.kindKey]⟩
  | query location lookup complement =>
    exact ⟨"Query", by decide, _, by rw [toJson], by simp [Json.kindKey]⟩

mutual

/-- **Trees** are read to the depth of their values, or to any greater one. -/
theorem ofJsonUpTo?_toJson : ∀ (n : Node) {depth : Nat} (inner : Bool), n.toJson.depth ≤ depth →
    ofJsonUpTo? depth inner n.toJson = some n
  | .text location content, depth, inner, h => by
    obtain ⟨depth, rfl⟩ : ∃ d, depth = d + 1 := by
      rw [toJson, Json.ofVariant, Json.depth] at h
      exact ⟨depth - 1, by omega⟩
    rw [toJson, ofJsonUpTo?, Json.variant?_ofVariant (by simp [Json.kindKey])]
    simp [Json.kindIndex?, kindNames, List.findIdx?_cons, textOfJson?, Json.record?,
      Json.Record.required, Json.Record.withDefault, Json.Record.value?, Json.string?,
      Location.ofJson?_toJson]
  | .sequence location children, depth, inner, h => by
    rw [toJson, Json.ofVariant, Json.depth] at h
    simp only [Json.depthOfMembers, Json.depth] at h
    obtain ⟨depth, rfl⟩ : ∃ d, depth = d + 1 := ⟨depth - 1, by omega⟩
    have hchildren := list?_toJsonAll children (by omega : Json.depthOfItems (toJsonAll children) ≤ depth)
    rw [toJson, ofJsonUpTo?, Json.variant?_ofVariant (by simp [Json.kindKey])]
    simp [Json.kindIndex?, kindNames, List.findIdx?_cons, sequenceOfJson?, Json.record?,
      Json.Record.required, Json.Record.withDefault, Json.Record.value?, Location.ofJson?_toJson,
      hchildren]
  | .query location lookup complement, depth, inner, h => by
    rw [toJson, Json.ofVariant, Json.depth] at h
    simp only [Json.depthOfMembers, Json.depth] at h
    obtain ⟨depth, rfl⟩ : ∃ d, depth = d + 1 := ⟨depth - 1, by omega⟩
    -- the complement is one of the members, so it is no deeper than they are
    have hdepth : (toJsonIn complement).depth ≤
        Json.depthOfMembers (lookup.fields ++ [("complement", toJsonIn complement)]) :=
      Json.depth_le_of_mem_members (List.mem_append_right _ (List.mem_singleton_self (_, _)))
    have hcomplement := nullable?_toJsonIn complement (by omega : (toJsonIn complement).depth ≤ depth)
    rw [toJson, ofJsonUpTo?, Json.variant?_ofVariant (by simp [Json.kindKey])]
    simp [Json.kindIndex?, kindNames, List.findIdx?_cons, queryOfJson?, Json.record?,
      Json.Record.required, Json.Record.withDefault, Json.Record.value?, Location.ofJson?_toJson,
      Query.ofJsonWith?_toJson true hcomplement, Query.toNode]

theorem list?_toJsonAll : ∀ (ns : List Node) {depth : Nat},
    Json.depthOfItems (toJsonAll ns) ≤ depth →
    Json.list? (ofJsonUpTo? depth true) (.array (toJsonAll ns)) = some ns
  | [], depth, h => rfl
  | n :: ns, depth, h => by
    rw [toJsonAll, Json.depthOfItems] at h
    have hn := ofJsonUpTo?_toJson n true (by omega : n.toJson.depth ≤ depth)
    have hns := list?_toJsonAll ns (by omega : Json.depthOfItems (toJsonAll ns) ≤ depth)
    rw [Json.list?] at hns ⊢
    rw [toJsonAll, List.mapM_cons, hn, hns]
    rfl

theorem nullable?_toJsonIn : ∀ (complement : Option Node) {depth : Nat},
    (toJsonIn complement).depth ≤ depth →
    Json.nullable? (ofJsonUpTo? depth true) (toJsonIn complement) = some complement
  | none, _, _ => rfl
  | some n, depth, h => by
    rw [toJsonIn] at h ⊢
    have hn := ofJsonUpTo?_toJson n true h
    -- a tree is an object, so it is not read as an absent one
    obtain ⟨kind, -, fields, hfields, -⟩ := exists_toJson_eq n
    rw [hfields, Json.ofVariant] at hn ⊢
    rw [Json.nullable?, hn]
    · rfl
    · exact fun hnull => nomatch hnull

end

/-- **Trees.** A tree is what its value says. -/
theorem ofJson?_toJson (inner : Bool) (n : Node) : ofJson? inner n.toJson = some n :=
  ofJsonUpTo?_toJson n inner (Nat.le_refl _)

end Node

/-! ## Values that can be printed -/

theorem Location.integral_toJson (l : Location) : l.toJson.Integral :=
  .object (by simp [Json.integral_ofNat])

theorem Filter.integral_toJson (f : Filter) : f.toJson.Integral := by
  cases f with
  | byClass rules =>
    have htest (test : ClassTest) : test.toJson.Integral :=
      .object (by simp [Json.Integral.string, Json.Integral.bool])
    have hrules := Json.integral_array_map fun (rule : List ClassTest) (_ : rule ∈ rules) =>
      Json.integral_array_map fun test (_ : test ∈ rule) => htest test
    exact .object (by simp [Json.Integral.string, hrules])
  | byPattern f => exact .object (by simp [Json.Integral.string, Json.Integral.bool])
  | bySyllables bounds =>
    have hbound (bound : Option UInt32) : (SyllableBounds.boundJson bound).Integral := by
      cases bound with
      | none => exact .null
      | some n => exact Json.integral_ofNat n
    exact .object (by simp [Json.Integral.string, hbound])

theorem Carrier.integral_toJson (c : Carrier) : c.toJson.Integral := by
  refine .object fun m hm => ?_
  rw [List.mem_singleton.mp hm]
  refine .object fun m hm => ?_
  obtain ⟨⟨kind, names⟩, -, rfl⟩ := List.mem_map.mp hm
  exact Json.integral_ofStrings names

theorem Lookup.integral_fields (q : Lookup) : ∀ m ∈ q.fields, m.2.Integral := by
  have hfilters := Json.integral_array_map fun f (_ : f ∈ q.filters) => f.integral_toJson
  have hcarrier : ((q.carrier.map Carrier.toJson).getD .null).Integral := by
    cases q.carrier with
    | none => exact .null
    | some c => exact c.integral_toJson
  simp [fields, Json.integral_ofString?, Json.Integral.bool, hfilters, hcarrier]

namespace Node

mutual

theorem integral_toJson : ∀ n : Node, n.toJson.Integral
  | .text location content => by
    rw [toJson]
    exact .object (by simp [Json.Integral.string, Location.integral_toJson])
  | .sequence location children => by
    have hchildren := integral_toJsonAll children
    rw [toJson]
    exact .object (by simp [Json.Integral.string, Location.integral_toJson, Json.Integral.array hchildren])
  | .query location lookup complement => by
    have hcomplement := integral_toJsonIn complement
    have hquery : (Json.object (lookup.fields ++ [("complement", toJsonIn complement)])).Integral := by
      refine .object fun m hm => ?_
      rcases List.mem_append.mp hm with hm | hm
      · exact lookup.integral_fields m hm
      · rwa [List.mem_singleton.mp hm]
    rw [toJson]
    exact .object (by simp [Json.Integral.string, Location.integral_toJson, hquery])

theorem integral_toJsonAll : ∀ (ns : List Node), ∀ j ∈ toJsonAll ns, j.Integral
  | [], j, h => nomatch h
  | n :: ns, j, h => by
    rw [toJsonAll] at h
    rcases List.mem_cons.mp h with rfl | h
    · exact integral_toJson n
    · exact integral_toJsonAll ns j h

theorem integral_toJsonIn : ∀ complement : Option Node, (toJsonIn complement).Integral
  | none => by
    rw [toJsonIn]
    exact .null
  | some n => by
    rw [toJsonIn]
    exact integral_toJson n

end

end Node

end Wordweave
