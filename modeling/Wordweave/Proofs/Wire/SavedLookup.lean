import Mathlib
import Wordweave.Proofs.Wire.Usage

/-!
# Wordweave — lookups that were read are saved

A lookup that was read can be saved in no more bytes than it was read from. For filters and texts
this is plain, as they are saved in the bytes that they were read from, and filters that were dropped
are not saved at all.

Carriers are another matter. Several components of one kind are merged into one when they are read,
and names that come again are dropped, so that what is saved is compared kind by kind: the `share` of
a kind in some ties is what it takes to write the ties of this kind, and to read the ties of more
components adds no less to the bytes than to the shares (`shares_append`, `shares_component`). A
merged component may have more names than any that was read. That their number can still be written
is owed to the limit, since each name takes four bytes or more (`saves_writeCarrier`).

Main result:

* `uses_readLookup` — a lookup that was read is saved in no more bytes.
-/

namespace Wordweave.Wire

variable {limit : Nat}

/-! ## Filters -/

theorem uses_readClassTest :
    Uses limit readClassTest fun test k => Saves (writeClassTest test) k := by
  refine uses_readBool.bind fun excluded k hk => uses_readText.bind fun name m hname =>
    Uses.pure ?_
  obtain ⟨rfl, hname⟩ := hname
  refine (saves_writeText hname).bind fun bytes hbytes => Saves.pure ?_
  rw [List.length_append, length_writeBool]
  omega

@[simp] theorem length_writeBound (bound : Option UInt32) : (writeBound bound).length = 5 := by
  rw [writeBound, List.length_append, length_writeBool, length_writeU32]

theorem uses_readBound : Uses limit readBound fun _ k => k = 5 := by
  refine uses_readBool.bind fun present k hk => uses_readU32.bind fun value m hm => Uses.pure ?_
  omega

/-- A pattern filter is saved with the text and the side that were read. -/
theorem uses_readPatternFilter : Uses limit readPatternFilter fun f k =>
    k = textLength f.source + 1 ∧ IsWritable f.source := by
  refine uses_readText.bind fun source k hsource => uses_readBool.bind fun outside m hm => ?_
  obtain ⟨rfl, hsource⟩ := hsource
  cases hf : PatternFilter.ofText? source outside with
  | none => exact Uses.throw _
  | some f =>
    have hsame : f.source = source := by
      unfold PatternFilter.ofText? at hf
      split at hf
      · rw [← Option.some.inj hf]
      · exact nomatch hf
    rw [← hsame] at hsource ⊢
    exact Uses.pure ⟨by omega, hsource⟩

theorem saves_writeFilter {f : Filter} {n : Nat} (h : Saves (writeFilterBody f) n) :
    Saves (writeFilter f) (2 + n) := by
  refine h.bind fun bytes hbytes => Saves.pure ?_
  rw [List.length_append, length_writeU16]
  omega

theorem uses_readFilterBody (tag : UInt16) : Uses limit (readFilterBody tag) fun f k =>
    ∀ g ∈ f, Saves (writeFilterBody g) k := by
  unfold readFilterBody
  -- by the number of the kind; what has another number is no filter and need not be saved
  split
  · refine (uses_readList (uses_readList uses_readClassTest)).bind fun rules k hrules =>
      Uses.pure fun g hg => ?_
    obtain rfl := Option.some.inj hg
    exact hrules
  split
  · refine uses_readPatternFilter.bind fun f k hf => Uses.pure fun g hg => ?_
    obtain rfl := Option.some.inj hg
    obtain ⟨rfl, hsource⟩ := hf
    refine (saves_writeText hsource).bind fun bytes hbytes => Saves.pure ?_
    rw [List.length_append, length_writeBool]
    omega
  split
  · refine uses_readBound.bind fun least k hk => uses_readBound.bind fun most m hm =>
      Uses.pure fun g hg => ?_
    obtain rfl := Option.some.inj hg
    refine Saves.pure ?_
    rw [List.length_append, length_writeBound, length_writeBound]
    omega
  · exact Uses.pure fun g hg => nomatch hg

/-- A filter that was read is saved in no more bytes, if it was of a known kind. -/
theorem uses_readFilter : Uses limit readFilter fun f k => ∀ g ∈ f, Saves (writeFilter g) k := by
  refine uses_readU16.bind fun tag k hk => (uses_readFilterBody tag).mono fun f m _ hf g hg => ?_
  rw [hk]
  exact saves_writeFilter (hf g hg)

/-! ## Shares of kinds -/

open Carrier (namesUnder)

/-- The bytes that it takes to write the ties under a kind, repetitions included: six for the kind
and the number of names, if there are any, and then the names. -/
def share (kind : TieKind) (ties : List Tie) : Nat :=
  (if namesUnder kind ties = [] then 0 else 6) + ((namesUnder kind ties).map textLength).sum

/-- The bytes that it takes to write ties of any kind. -/
def shares (ties : List Tie) : Nat := (TieKind.all.map (share · ties)).sum

theorem share_le_shares (kind : TieKind) (ties : List Tie) : share kind ties ≤ shares ties := by
  have hkind : kind ∈ TieKind.all := by cases kind <;> decide
  exact List.single_le_sum (fun _ _ => Nat.zero_le _) _ (List.mem_map_of_mem hkind)

/-- Ties that are written together take no more than if they are written apart. -/
theorem share_append (kind : TieKind) (xs ys : List Tie) :
    share kind (xs ++ ys) ≤ share kind xs + share kind ys := by
  have hnames : namesUnder kind (xs ++ ys) = namesUnder kind xs ++ namesUnder kind ys := by
    simp [namesUnder]
  unfold share
  rw [hnames, List.map_append, List.sum_append_nat]
  -- the six bytes of the kind are spent once if both have names, and twice apart
  by_cases hx : namesUnder kind xs = []
  · rw [hx, List.nil_append]
    omega
  · have hboth : namesUnder kind xs ++ namesUnder kind ys ≠ [] := by simp [hx]
    rw [if_neg hboth, if_neg hx]
    omega

theorem shares_append (xs ys : List Tie) : shares (xs ++ ys) ≤ shares xs + shares ys := by
  unfold shares
  induction TieKind.all with
  | nil => exact Nat.le_refl 0
  | cons kind kinds ih =>
    have hkind := share_append kind xs ys
    simp only [List.map_cons, List.sum_cons]
    omega

/-- The ties of one component take what the component takes. -/
theorem shares_component (kind : TieKind) (names : List String) :
    shares (names.map (Tie.mk kind)) ≤ 6 + (names.map textLength).sum := by
  have hnames (other : TieKind) :
      namesUnder other (names.map (Tie.mk kind)) = if kind = other then names else [] := by
    unfold namesUnder
    by_cases h : kind = other <;> simp [List.filter_map, Function.comp_def, h]
  have hshare (other : TieKind) : share other (names.map (Tie.mk kind)) ≤
      if kind = other then 6 + (names.map textLength).sum else 0 := by
    unfold share
    rw [hnames other]
    split
    · split <;> omega
    · simp
  -- only one of the seven shares is not zero
  have hsum := List.sum_le_sum fun other (_ : other ∈ TieKind.all) => hshare other
  refine Nat.le_trans hsum (Nat.le_of_eq ?_)
  cases kind <;> simp [TieKind.all]

/-! ## Carriers -/

/-- Each value of a list is saved in bytes of its own. -/
theorem saves_writeEach_filterMap {α β : Type} {write : β → Except Error Bytes} {f : α → Option β}
    {size : α → Nat} {as : List α} (h : ∀ a ∈ as, ∀ b ∈ f a, Saves (write b) (size a)) :
    Saves (writeEach write (as.filterMap f)) (as.map size).sum := by
  induction as with
  | nil => exact Saves.pure (Nat.le_refl 0)
  | cons a as ih =>
    obtain ⟨ha, has⟩ := List.forall_mem_cons.mp h
    rw [List.map_cons, List.sum_cons]
    cases hf : f a with
    | none =>
      rw [List.filterMap_cons_none hf]
      exact (ih has).mono (Nat.le_add_left ..)
    | some b =>
      rw [List.filterMap_cons_some hf]
      exact saves_writeEach_cons (ha b hf) (ih has)

/-- Names without repetitions are among those with repetitions, in order. -/
theorem eraseDups_sublist : ∀ names : List String, names.eraseDups.Sublist names
  | [] => by simp
  | name :: names => by
    rw [List.eraseDups_cons]
    exact ((eraseDups_sublist _).trans List.filter_sublist).cons_cons name
termination_by names => names.length
decreasing_by exact Nat.lt_succ_of_le (List.length_filter_le ..)

/-- Names are no more than a fourth of their bytes. -/
theorem length_le_sum_textLength (names : List String) :
    4 * names.length ≤ (names.map textLength).sum := by
  induction names with
  | nil => exact Nat.le_refl 0
  | cons name names ih =>
    rw [List.length_cons, List.map_cons, List.sum_cons, textLength]
    omega

theorem saves_writeComponent {kind : TieKind} {names : List String}
    (hcount : names.length ≤ lengthLimit) (hnames : ∀ name ∈ names, IsWritable name) :
    Saves (writeComponent (kind, names)) (6 + (names.map textLength).sum) := by
  have hone : ∀ name ∈ names, ∀ other ∈ some name,
      Saves (writeText other) (textLength name) := by
    intro name hname other hother
    obtain rfl : name = other := Option.some.inj hother
    exact saves_writeText (hnames name hname)
  have hall := saves_writeEach_filterMap hone
  rw [List.filterMap_some] at hall
  refine (saves_writeList hcount hall).bind fun bytes hbytes => Saves.pure ?_
  rw [List.length_append, length_writeU16]
  omega

/-- A carrier made of ties is saved in the shares of its kinds, if these are within the limit of a
length of four bytes. -/
theorem saves_writeCarrier {ties : List Tie} (hnames : ∀ tie ∈ ties, IsWritable tie.name)
    (hlimit : shares ties < 0x100000000) :
    Saves (writeCarrier (Carrier.empty.addAll ties)) (4 + shares ties) := by
  refine saves_writeList (Nat.le_trans (List.length_filterMap_le ..) (by decide)) ?_
  refine saves_writeEach_filterMap fun kind _ component hcomponent => ?_
  obtain ⟨names, hlist, rfl⟩ := Option.map_eq_some_iff.mp hcomponent
  rw [Carrier.names?_ofTies] at hlist
  split at hlist
  · exact nomatch hlist
  next hsome =>
  obtain rfl : (namesUnder kind ties).eraseDups = names := Option.some.inj hlist
  have hsub := eraseDups_sublist (namesUnder kind ties)
  have hshare : share kind ties = 6 + ((namesUnder kind ties).map textLength).sum := by
    rw [share, if_neg hsome]
  have hle : ((namesUnder kind ties).eraseDups.map textLength).sum ≤
      ((namesUnder kind ties).map textLength).sum :=
    (hsub.map textLength).sum_le_sum fun _ _ => Nat.zero_le _
  -- the names that are left are few enough to be counted
  have hcount : (namesUnder kind ties).eraseDups.length ≤ lengthLimit := by
    have hbytes := length_le_sum_textLength (namesUnder kind ties).eraseDups
    have hall := share_le_shares kind ties
    unfold lengthLimit
    omega
  have hwritable : ∀ name ∈ (namesUnder kind ties).eraseDups, IsWritable name := by
    intro name hname
    obtain ⟨tie, htie, rfl⟩ := List.mem_map.mp (hsub.subset hname)
    exact hnames tie (List.mem_filter.mp htie).1
  exact (saves_writeComponent hcount hwritable).mono (by omega)

/-- A component that was read took at least the shares of its ties. -/
theorem uses_readComponent : Uses limit readComponent fun ties k =>
    shares ties ≤ k ∧ ∀ tie ∈ ties, IsWritable tie.name := by
  refine uses_readU16.bind fun tag k hk => ?_
  cases kindOfTag? tag with
  | none => exact Uses.throw _
  | some kind =>
    have hkeep : Uses limit readText fun name n => ∀ (names : List String) (k : Nat),
        (k = (names.map textLength).sum ∧ ∀ other ∈ names, IsWritable other) →
        n + k = ((name :: names).map textLength).sum ∧ ∀ other ∈ name :: names, IsWritable other := by
      refine uses_readText.mono fun name n _ hname names k hnames => ?_
      rw [List.map_cons, List.sum_cons, hname.1, hnames.1]
      exact ⟨rfl, List.forall_mem_cons.mpr ⟨hname.2, hnames.2⟩⟩
    have hnone : ∀ other ∈ ([] : List String), IsWritable other := fun _ h => nomatch h
    refine (uses_readList_of ⟨rfl, hnone⟩ hkeep).bind fun names m hnames => Uses.pure ?_
    obtain ⟨-, m, rfl, rfl, hnames⟩ := hnames
    refine ⟨?_, ?_⟩
    · have hshares := shares_component kind names
      show shares (names.map (Tie.mk kind)) ≤ _
      omega
    · intro tie htie
      obtain ⟨name, hname, rfl⟩ := List.mem_map.mp htie
      exact hnames name hname

/-- A carrier that was read is saved in no more bytes. -/
theorem uses_readCarrier (hlimit : limit < 0x100000000) :
    Uses limit readCarrier fun c k => Saves (writeCarrier c) k := by
  have hkeep : Uses limit readComponent fun ties n => ∀ (components : List (List Tie)) (k : Nat),
      (shares components.flatten ≤ k ∧ ∀ tie ∈ components.flatten, IsWritable tie.name) →
      shares (ties :: components).flatten ≤ n + k ∧
        ∀ tie ∈ (ties :: components).flatten, IsWritable tie.name := by
    refine uses_readComponent.mono fun ties n _ hties components k hcomponents => ?_
    rw [List.flatten_cons]
    refine ⟨?_, List.forall_mem_append.mpr ⟨hties.2, hcomponents.2⟩⟩
    have hshares := shares_append ties components.flatten
    omega
  have hnone : ∀ tie ∈ ([] : List Tie), IsWritable tie.name := fun _ h => nomatch h
  have hread := (uses_readList_of (p := fun components k => shares components.flatten ≤ k ∧
    ∀ tie ∈ components.flatten, IsWritable tie.name) ⟨Nat.le_refl 0, hnone⟩ hkeep).mono
      fun components k hk hall => And.intro hk hall
  refine hread.bind fun components k hall => Uses.pure ?_
  obtain ⟨hk, -, m, rfl, hshares, hnames⟩ := hall
  exact (saves_writeCarrier hnames (by omega)).mono (by omega)

theorem uses_readCarrier? (hlimit : limit < 0x100000000) :
    Uses limit readCarrier? fun c k => Saves (writeCarrier? c) k := by
  refine uses_readBool.bind fun present k hk => ?_
  cases present with
  | false => exact Uses.pure (Saves.pure (by rw [length_writeBool]; omega))
  | true =>
    refine (uses_readCarrier hlimit).bind fun c m hc => Uses.pure ?_
    refine hc.bind fun bytes hbytes => Saves.pure ?_
    rw [List.length_append, length_writeBool]
    omega

/-! ## Lookups -/

/-- **Lookups.** A lookup that was read is saved in no more bytes. -/
theorem uses_readLookup (hlimit : limit < 0x100000000) :
    Uses limit readLookup fun q k => Saves (writeLookup q) k := by
  refine uses_readText?.bind fun name a hname => uses_readText?.bind fun subtype b hsubtype =>
    uses_readBool.bind fun exclusive c hexclusive =>
    (uses_readList_filterMap uses_readFilter).bind fun filters d hfilters =>
    (uses_readCarrier? hlimit).bind fun carrier e hcarrier => Uses.pure ?_
  obtain ⟨rfl, hname⟩ := hname
  obtain ⟨rfl, hsubtype⟩ := hsubtype
  refine (saves_writeText? hname).bind fun ns hns => (saves_writeText? hsubtype).bind fun ss hss =>
    hfilters.bind fun fs hfs => hcarrier.bind fun cs hcs => Saves.pure ?_
  simp only [List.length_append, length_writeBool]
  omega

end Wordweave.Wire
