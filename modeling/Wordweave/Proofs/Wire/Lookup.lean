import Wordweave.Proofs.Carrier.Normal
import Wordweave.Proofs.Wire.Codec
import Wordweave.Wire.Lookup
import Wordweave.Wire.Tag

/-!
# Wordweave — lookups and headers as they are read

What is written before the children of a node: its header, and the fields of a query. The readers of
all parts are local, and each takes what its writer writes. Only carriers come back changed, since a
reader adds their ties one by one: what is taken is the normal form (`takes_readCarrier`,
`takes_readLookup`).

Among the filters of a lookup there may be numbers of kinds that no filter has (`FilterItem`). They
are taken for nothing, and so a lookup is taken for the same with them and without them.
-/

namespace Wordweave.Wire

/-! ## Filters -/

/-- A demand on a class. -/
theorem takes_readClassTest {test : ClassTest} {bytes : Bytes}
    (h : writeClassTest test = .ok bytes) : Takes readClassTest bytes test := by
  obtain ⟨name, hname, h⟩ := bind_inv h
  obtain rfl := pure_inv h
  exact (takes_readBool _).bind ((takes_readText hname).bind_nil (Takes.pure _))

theorem local_readClassTest : Local readClassTest :=
  local_readBool.bind fun _ => local_readText.bind fun _ => Local.pure _

/-- The rules of a class filter. -/
theorem takes_readRules {rules : List (List ClassTest)} {bytes : Bytes}
    (h : writeList (writeList writeClassTest) rules = .ok bytes) :
    Takes (readList (readList readClassTest)) bytes rules := by
  -- neither a demand nor a rule comes back changed
  have hrule {rule : List ClassTest} {xs : Bytes} (h : writeList writeClassTest rule = .ok xs) :
      Takes (readList readClassTest) xs rule := by
    have htests := takes_readList (f := id) (fun _ _ {_} ht => takes_readClassTest ht) h
    rwa [List.map_id] at htests
  have hrules := takes_readList (f := id) (fun _ _ {_} hr => hrule hr) h
  rwa [List.map_id] at hrules

/-- A bound; the value of an absent one is passed over. -/
theorem takes_readBound (bound : Option UInt32) : Takes readBound (writeBound bound) bound := by
  have hvalue := (takes_readU32 (bound.getD 0)).map fun value =>
    if bound.isSome then some value else none
  have hbound : (if bound.isSome then some (bound.getD 0) else none) = bound := by
    cases bound <;> rfl
  rw [hbound] at hvalue
  exact (takes_readBool _).bind hvalue

theorem local_readBound : Local readBound :=
  local_readBool.bind fun _ => local_readU32.bind fun _ => Local.pure _

/-- A text and a side are read as the pattern filter that they make. If the text writes no pattern,
the error has the text. -/
theorem readPatternFilter_append {source : String} {bytes : Bytes}
    (h : writeText source = .ok bytes) (outside : Bool) (rest : Bytes) :
    readPatternFilter (bytes ++ (writeBool outside ++ rest)) =
      match PatternFilter.ofText? source outside with
      | some f => .ok (f, rest)
      | none => .error (.invalidFilter source) := by
  rw [readPatternFilter, (takes_readText h).bind_append, (takes_readBool outside).bind_append]
  cases PatternFilter.ofText? source outside <;> rfl

/-- A pattern filter. -/
theorem takes_readPatternFilter {f : PatternFilter} {bytes : Bytes}
    (h : writeText f.source = .ok bytes) :
    Takes readPatternFilter (bytes ++ writeBool f.outside) f := by
  intro rest
  rw [List.append_assoc, readPatternFilter_append h, PatternFilter.ofText?_self]

theorem local_readPatternFilter : Local readPatternFilter := by
  refine local_readText.bind fun source => local_readBool.bind fun outside => ?_
  cases PatternFilter.ofText? source outside with
  | some f => exact Local.pure f
  | none => exact Local.throw _

/-- A filter of a known kind. -/
theorem takes_readFilter {f : Filter} {bytes : Bytes} (h : writeFilter f = .ok bytes) :
    Takes readFilter bytes (some f) := by
  obtain ⟨body, hbody, h⟩ := bind_inv h
  obtain rfl := pure_inv h
  refine (takes_readU16 _).bind ?_
  cases f with
  | byClass rules => exact (takes_readRules hbody).bind_nil (Takes.pure _)
  | byPattern f =>
    obtain ⟨source, hsource, hbody⟩ := bind_inv hbody
    obtain rfl := pure_inv hbody
    exact (takes_readPatternFilter hsource).bind_nil (Takes.pure _)
  | bySyllables bounds =>
    obtain rfl := pure_inv hbody
    exact (takes_readBound _).bind ((takes_readBound _).bind_nil (Takes.pure _))

theorem local_readFilterBody (tag : UInt16) : Local (readFilterBody tag) := by
  unfold readFilterBody
  -- one case for each number that is asked for, and one for all others
  split
  · exact (local_readList (local_readList local_readClassTest)).bind fun _ => Local.pure _
  split
  · exact local_readPatternFilter.bind fun _ => Local.pure _
  split
  · exact local_readBound.bind fun _ => local_readBound.bind fun _ => Local.pure _
  · exact Local.pure _

theorem local_readFilter : Local readFilter := local_readU16.bind local_readFilterBody

/-- An item of a list of filters as it is written: a filter, or the number of a kind that no filter
has. -/
inductive FilterItem
  | known (f : Filter)
  | unknown (tag : UInt16) (htag : tag ∉ [1, 2, 3])

namespace FilterItem

/-- The filter, if there is one. -/
def filter? : FilterItem → Option Filter
  | .known f => some f
  | .unknown _ _ => none

/-- Writes an item. -/
def write : FilterItem → Except Error Bytes
  | .known f => writeFilter f
  | .unknown tag _ => return writeU16 tag

end FilterItem

/-- A number of an unknown kind is passed over. -/
theorem takes_unknown {tag : UInt16} (htag : tag ∉ [1, 2, 3]) :
    Takes readFilter (writeU16 tag) none := by
  -- the number passes none of the tests
  have hbody : readFilterBody tag = pure none := by
    simp only [List.mem_cons, List.not_mem_nil, or_false, not_or] at htag
    obtain ⟨hclass, hpattern, hsyllables⟩ := htag
    rw [readFilterBody, if_neg hclass, if_neg hpattern, if_neg hsyllables]
  refine (takes_readU16 tag).bind_nil ?_
  rw [hbody]
  exact Takes.pure none

theorem takes_item {item : FilterItem} {bytes : Bytes} (h : item.write = .ok bytes) :
    Takes readFilter bytes item.filter? := by
  cases item with
  | known f => exact takes_readFilter h
  | unknown tag htag =>
    obtain rfl := pure_inv h
    exact takes_unknown htag

/-! ## Carriers -/

/-- The number of a kind is the number of no other. -/
theorem kindOfTag?_kindTag (kind : TieKind) : kindOfTag? (kindTag kind) = some kind := by
  cases kind <;> decide

/-- A kind with its names. -/
theorem takes_readComponent {component : TieKind × List String} {bytes : Bytes}
    (h : writeComponent component = .ok bytes) :
    Takes readComponent bytes (component.2.map (Tie.mk component.1)) := by
  obtain ⟨names, hnames, h⟩ := bind_inv h
  obtain rfl := pure_inv h
  refine (takes_readU16 _).bind ?_
  rw [kindOfTag?_kindTag]
  -- the names are read first and then put under the kind
  have hread := takes_readList (f := id) (fun _ _ {_} hn => takes_readText hn) hnames
  rw [List.map_id] at hread
  exact hread.map fun names => names.map (Tie.mk component.1)

theorem local_readComponent : Local readComponent := by
  refine local_readU16.bind fun tag => ?_
  cases kindOfTag? tag with
  | some kind => exact (local_readList local_readText).bind fun _ => Local.pure _
  | none => exact Local.throw _

/-- The components of a carrier hold its ties. -/
theorem flatten_components (c : Carrier) :
    (c.components.map fun component => component.2.map (Tie.mk component.1)).flatten = c.ties := by
  -- by induction on the kinds, as those without a list have no component
  have hkinds (kinds : List TieKind) :
      ((kinds.filterMap fun kind => (c.names? kind).map (kind, ·)).map fun component =>
        component.2.map (Tie.mk component.1)).flatten =
      kinds.flatMap fun kind => (c.names kind).map (Tie.mk kind) := by
    induction kinds with
    | nil => rfl
    | cons kind kinds ih =>
      rw [List.flatMap_cons, ← ih]
      unfold Carrier.names
      cases hnames : c.names? kind with
      | none => simp [hnames]
      | some names => simp [hnames]
  exact hkinds TieKind.all

/-- A carrier comes back in normal form. -/
theorem takes_readCarrier {c : Carrier} {bytes : Bytes} (h : writeCarrier c = .ok bytes) :
    Takes readCarrier bytes c.normal := by
  have hcomponents := takes_readList (fun _ _ {_} hc => takes_readComponent hc) h
  have hread := hcomponents.map fun ties => Carrier.empty.addAll ties.flatten
  rwa [flatten_components] at hread

theorem local_readCarrier : Local readCarrier :=
  (local_readList local_readComponent).bind fun _ => Local.pure _

/-- What is read as a carrier is in normal form, whatever was written. -/
theorem gives_readCarrier : Gives readCarrier fun c => c.normal = c :=
  Gives.after fun _ => Gives.pure (Carrier.normal_addAll _)

/-- A carrier that may be absent. -/
theorem takes_readCarrier? {c : Option Carrier} {bytes : Bytes} (h : writeCarrier? c = .ok bytes) :
    Takes readCarrier? bytes (c.map Carrier.normal) := by
  cases c with
  | none =>
    obtain rfl := pure_inv h
    exact (takes_readBool false).bind_nil (Takes.pure none)
  | some c =>
    obtain ⟨ties, hties, h⟩ := bind_inv h
    obtain rfl := pure_inv h
    exact (takes_readBool true).bind ((takes_readCarrier hties).map some)

theorem local_readCarrier? : Local readCarrier? := by
  refine local_readBool.bind fun present => ?_
  cases present with
  | true => exact local_readCarrier.bind fun _ => Local.pure _
  | false => exact Local.pure _

/-! ## Lookups -/

/-- Writes a lookup with some items in place of its filters. -/
def writeLookupWith (items : List FilterItem) (q : Lookup) : Except Error Bytes := do
  let name ← writeText? q.name
  let subtype ← writeText? q.subtype
  let filters ← writeList FilterItem.write items
  return name ++ subtype ++ writeBool q.exclusive ++ filters ++ (← writeCarrier? q.carrier)

/-- With its filters for items, a lookup is written as ever. -/
theorem writeLookupWith_known (q : Lookup) :
    writeLookupWith (q.filters.map .known) q = writeLookup q := by
  have heach : (q.filters.map FilterItem.known).mapM FilterItem.write =
      q.filters.mapM writeFilter := by
    rw [List.mapM_map]
    rfl
  rw [writeLookupWith, writeLookup, writeList, writeList, List.length_map, writeEach, heach]
  rfl

/-- A lookup comes back with its carrier in normal form. Items that are no filters are passed over. -/
theorem takes_readLookup {items : List FilterItem} {q : Lookup} {bytes : Bytes}
    (hitems : items.filterMap FilterItem.filter? = q.filters)
    (h : writeLookupWith items q = .ok bytes) : Takes readLookup bytes q.normal := by
  obtain ⟨name, hname, h⟩ := bind_inv h
  obtain ⟨subtype, hsubtype, h⟩ := bind_inv h
  obtain ⟨filters, hfilters, h⟩ := bind_inv h
  obtain ⟨carrier, hcarrier, h⟩ := bind_inv h
  obtain rfl := pure_inv h
  -- every item leaves its filter or nothing, and what is left are the filters of the lookup
  have hread := takes_readList (fun _ _ {_} hitem => takes_item hitem) hfilters
  have hknown : (items.map FilterItem.filter?).filterMap id = q.filters := by
    rw [List.filterMap_map, Function.id_comp, hitems]
  simp only [List.append_assoc]
  refine (takes_readText? hname).bind ((takes_readText? hsubtype).bind
    ((takes_readBool q.exclusive).bind (hread.bind
      ((takes_readCarrier? hcarrier).bind_nil ?_))))
  rw [hknown]
  exact Takes.pure q.normal

theorem local_readLookup : Local readLookup :=
  local_readText?.bind fun _ => local_readText?.bind fun _ => local_readBool.bind fun _ =>
    (local_readList local_readFilter).bind fun _ => local_readCarrier?.bind fun _ => Local.pure _

/-- The carrier of a lookup that was read is in normal form. -/
theorem gives_readLookup : Gives readLookup fun q => ∀ c ∈ q.carrier.toList, c.normal = c := by
  have hcarrier : Gives readCarrier? fun c => ∀ d ∈ c.toList, d.normal = d := by
    refine Gives.after fun present => ?_
    cases present with
    | true =>
      refine gives_readCarrier.bind fun c hc => Gives.pure fun d hd => ?_
      rwa [List.mem_singleton.mp hd]
    | false => exact Gives.pure fun _ h => nomatch h
  -- name, subtype, exclusiveness and filters come first
  exact Gives.after fun _ => Gives.after fun _ => Gives.after fun _ => Gives.after fun _ =>
    hcarrier.bind fun _ h => Gives.pure h

/-! ## Headers -/

/-- The tag of a kind is the tag of no other, and it is not the mark of an absent node. -/
theorem ofTag?_tag (kind : NodeKind) : NodeKind.ofTag? kind.tag = some kind := by
  cases kind <;> decide

theorem tag_ne_absentTag (kind : NodeKind) : kind.tag ≠ absentTag := by
  cases kind <;> decide

/-- The header of a node. -/
theorem takes_readHeader (node : Node) :
    Takes readHeader (writeHeader node) (some (NodeKind.ofNode node, node.location)) := by
  unfold writeHeader
  rw [List.append_assoc]
  refine (takes_readU32 _).bind ?_
  rw [if_neg (tag_ne_absentTag _), ofTag?_tag]
  exact (takes_readU32 _).bind ((takes_readU32 _).bind_nil (Takes.pure _))

/-- The mark of an absent node. -/
theorem takes_readHeader_none : Takes readHeader (writeHeader? none) none :=
  (takes_readU32 absentTag).bind_nil (Takes.pure none)

theorem local_readHeader : Local readHeader := by
  refine local_readU32.bind fun tag => ?_
  -- the place is read only behind a tag that is known
  split
  · exact Local.pure _
  · cases NodeKind.ofTag? tag with
    | none => exact Local.throw _
    | some kind => exact local_readU32.bind fun _ => local_readU32.bind fun _ => Local.pure _

end Wordweave.Wire
