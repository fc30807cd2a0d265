import Wordweave.Json.Record
import Wordweave.Proofs.Json.Token

/-!
# Wordweave — values that are read back

A value that is printed is read back as it was, in either layout, if its numbers are integers of 64
bits and it does not nest deeper than the reader allows (`readsBack`). Decimals are left out, since
they are rounded; a program has none.

What is shown of a value is that it is read in front of any quiet text and leaves that text
(`ReadsBack`). From this it follows for arrays and objects by going through their members, each of
which stands in front of a comma, a blank or a bracket. The reader counts its steps, and two for each
character of the text are enough.
-/

namespace Wordweave.Json

/-- A value whose numbers are integers of 64 bits. -/
inductive Integral : Json → Prop
  | null : Integral .null
  | bool (b : Bool) : Integral (.bool b)
  | int {n : Int} (hlow : -0x8000000000000000 ≤ n) (hhigh : n ≤ Reader.wordLimit) :
      Integral (.number (.int n))
  | string (s : String) : Integral (.string s)
  | array {items : List Json} (h : ∀ item ∈ items, Integral item) : Integral (.array items)
  | object {members : List (String × Json)} (h : ∀ m ∈ members, Integral m.2) :
      Integral (.object members)

/-! ## Depth -/

theorem depth_le_of_mem {items : List Json} {item : Json} (h : item ∈ items) :
    item.depth ≤ depthOfItems items := by
  induction items with
  | nil => exact nomatch h
  | cons first items ih =>
    rw [depthOfItems]
    rcases List.mem_cons.mp h with rfl | h
    · exact Nat.le_max_left ..
    · exact Nat.le_trans (ih h) (Nat.le_max_right ..)

theorem depth_le_of_mem_members {members : List (String × Json)} {m : String × Json}
    (h : m ∈ members) : m.2.depth ≤ depthOfMembers members := by
  induction members with
  | nil => exact nomatch h
  | cons first members ih =>
    rw [depthOfMembers]
    rcases List.mem_cons.mp h with rfl | h
    · exact Nat.le_max_left ..
    · exact Nat.le_trans (ih h) (Nat.le_max_right ..)

/-! ## What is printed -/

section Printed

variable (layout : Layout)

mutual

/-- What stands behind a value is not looked at. -/
theorem printOnto_append (depth : Nat) (rest more : List Char) : ∀ j : Json,
    j.printOnto layout depth (rest ++ more) = j.printOnto layout depth rest ++ more
  | .null | .bool true | .bool false => rfl
  | .number n => by rw [printOnto, printOnto, List.append_assoc]
  | .string s => by rw [printOnto, printOnto, List.append_assoc]
  | .array [] => rfl
  | .array (item :: items) => by
    rw [printOnto, printOnto, ← List.cons_append, ← List.append_assoc,
      printItems_append (depth + 1), printOnto_append (depth + 1), List.append_assoc]
  | .object [] => rfl
  | .object ((name, item) :: members) => by
    rw [printOnto, printOnto, ← List.cons_append, ← List.append_assoc,
      printMembers_append (depth + 1), printOnto_append (depth + 1)]
    simp only [List.append_assoc]

theorem printItems_append (depth : Nat) (rest more : List Char) : ∀ items : List Json,
    printItems layout depth items (rest ++ more) = printItems layout depth items rest ++ more
  | [] => rfl
  | item :: items => by
    rw [printItems, printItems, printItems_append depth, printOnto_append depth, List.append_assoc]

theorem printMembers_append (depth : Nat) (rest more : List Char) :
    ∀ members : List (String × Json),
      printMembers layout depth members (rest ++ more) =
        printMembers layout depth members rest ++ more
  | [] => rfl
  | (name, item) :: members => by
    rw [printMembers, printMembers, printMembers_append depth, printOnto_append depth]
    simp only [List.append_assoc]

end

theorem length_le_printOnto (depth : Nat) (rest : List Char) (j : Json) :
    rest.length ≤ (j.printOnto layout depth rest).length := by
  have happend := printOnto_append layout depth [] rest j
  rw [List.nil_append] at happend
  rw [happend, List.length_append]
  omega

theorem printOnto_object (depth : Nat) (name : String) (item : Json)
    (members : List (String × Json)) (rest : List Char) :
    printOnto layout depth (.object ((name, item) :: members)) rest =
      '\x7b' :: (layout.break (depth + 1) ++ (printString name ++ (layout.colon ++
        item.printOnto layout (depth + 1) (printMembers layout (depth + 1) members
          (layout.break depth ++ '\x7d' :: rest))))) := by
  rw [printOnto]
  simp only [List.append_assoc, List.cons_append]

/-- A member is printed with a quote in front, and behind another one with a comma before it. -/
theorem exists_printMembers_eq (depth : Nat) (name : String) (item : Json)
    (members : List (String × Json)) (rest : List Char) :
    ∃ text, printString name ++ (layout.colon ++ item.printOnto layout depth
        (printMembers layout depth members rest)) = '"' :: text ∧
      printMembers layout depth ((name, item) :: members) rest =
        ',' :: layout.break depth ++ '"' :: text := by
  obtain ⟨text, htext⟩ : ∃ text, printString name ++ (layout.colon ++ item.printOnto layout depth
      (printMembers layout depth members rest)) = '"' :: text := ⟨_, rfl⟩
  refine ⟨text, htext, ?_⟩
  rw [printMembers, ← htext]
  simp only [List.append_assoc, List.cons_append]

theorem length_add_two_le_printString (s : String) :
    s.toList.length + 2 ≤ (printString s).length := by
  have hchar (c : Char) : 1 ≤ (printChar c).length := by
    unfold printChar
    split_ifs <;> simp
  have htext (text : List Char) : text.length ≤ (text.flatMap printChar).length := by
    induction text with
    | nil => exact Nat.le_refl _
    | cons c text ih =>
      have := hchar c
      rw [List.flatMap_cons, List.length_append, List.length_cons]
      omega
  have := htext s.toList
  simp only [printString, List.length_append, List.length_cons, List.length_nil]
  omega

/-- A character that a value may begin with: neither a blank nor a closing bracket. -/
structure Opens (c : Char) : Prop where
  isSpacing_eq : Reader.isSpacing (some c) = false
  ne_bracket : c ≠ ']'
  ne_brace : c ≠ '\x7d'

theorem ne_of_isDigit {c d : Char} (hc : c.isDigit = true) (hd : d.isDigit = false) : c ≠ d := by
  rintro rfl
  exact Bool.false_ne_true (hd.symm.trans hc)

theorem Opens.of_isDigit {c : Char} (h : c.isDigit = true) : Opens c := by
  have hblank : c ≠ ' ' := ne_of_isDigit h (by decide)
  have hline : c ≠ '\n' := ne_of_isDigit h (by decide)
  have htab : c ≠ '\t' := ne_of_isDigit h (by decide)
  have hreturn : c ≠ '\r' := ne_of_isDigit h (by decide)
  exact ⟨by simp [Reader.isSpacing, hblank, hline, htab, hreturn], ne_of_isDigit h (by decide),
    ne_of_isDigit h (by decide)⟩

theorem exists_toDigits_eq (n : Nat) :
    ∃ c digits, Nat.toDigits 10 n = c :: digits ∧ c.isDigit = true := by
  cases hn : Nat.toDigits 10 n with
  | nil => exact absurd hn Nat.toDigits_ne_nil
  | cons c digits =>
    have hmem : c ∈ Nat.toDigits 10 n := by simp [hn]
    exact ⟨c, digits, rfl, Nat.isDigit_of_mem_toDigits (by decide) (by decide) hmem⟩

theorem print_int_of_nonneg (n : Nat) : (Number.int n).print = Nat.toDigits 10 n := by
  show (Nat.repr n).toList = _
  rw [Nat.repr_eq_ofList_toDigits, String.toList_ofList]

theorem print_int_of_neg (n : Nat) :
    (Number.int (Int.negSucc n)).print = '-' :: Nat.toDigits 10 (n + 1) := by
  show ("-" ++ Nat.repr (n + 1)).toList = _
  rw [Nat.repr_eq_ofList_toDigits, String.toList_append, String.toList_ofList, String.toList_ofList]
  rfl

/-- A value begins with a character that opens one. -/
theorem exists_printOnto_eq {j : Json} (hj : j.Integral) (depth : Nat) (rest : List Char) :
    ∃ c text, j.printOnto layout depth rest = c :: text ∧ Opens c := by
  -- all that a value begins with, but for the digits
  have hopens : ∀ c ∈ ['n', 't', 'f', '"', '[', '\x7b', '-'], Opens c := by
    intro c hc
    simp only [List.mem_cons, List.not_mem_nil, or_false] at hc
    rcases hc with rfl | rfl | rfl | rfl | rfl | rfl | rfl <;> exact ⟨rfl, by decide, by decide⟩
  cases hj with
  | null => exact ⟨_, _, by rw [printOnto], hopens 'n' (by decide)⟩
  | bool b =>
    cases b with
    | true => exact ⟨_, _, by rw [printOnto], hopens 't' (by decide)⟩
    | false => exact ⟨_, _, by rw [printOnto], hopens 'f' (by decide)⟩
  | @int n hlow hhigh =>
    cases n with
    | ofNat n =>
      obtain ⟨c, digits, hn, hdigit⟩ := exists_toDigits_eq n
      refine ⟨c, digits ++ rest, ?_, .of_isDigit hdigit⟩
      rw [printOnto, Int.ofNat_eq_natCast, print_int_of_nonneg, hn, List.cons_append]
    | negSucc n =>
      exact ⟨'-', _, by rw [printOnto, print_int_of_neg]; rfl, hopens '-' (by decide)⟩
  | string s => exact ⟨'"', _, by rw [printOnto]; rfl, hopens '"' (by decide)⟩
  | @array items h =>
    cases items with
    | nil => exact ⟨_, _, by rw [printOnto], hopens '[' (by decide)⟩
    | cons item items => exact ⟨'[', _, by rw [printOnto]; rfl, hopens '[' (by decide)⟩
  | @object members h =>
    cases members with
    | nil => exact ⟨_, _, by rw [printOnto], hopens '\x7b' (by decide)⟩
    | cons m members => exact ⟨'\x7b', _, by rw [printOnto]; rfl, hopens '\x7b' (by decide)⟩

end Printed

/-! ## What follows a value -/

namespace Reader

/-- The bracket at the end of an array or of an object. -/
def Closing (bracket : Char) : Prop := bracket = ']' ∨ bracket = '\x7d'

theorem quiet_cons {c : Char} (h : c.isDigit = false ∧ c ≠ '.' ∧ c ≠ 'e' ∧ c ≠ 'E')
    (rest : List Char) : Quiet (c :: rest) := by
  rintro d hd
  obtain rfl : c = d := Option.some.inj hd
  exact h

theorem quiet_break (layout : Layout) (depth : Nat) {bracket : Char} (h : Closing bracket)
    (rest : List Char) : Quiet (layout.break depth ++ bracket :: rest) := by
  cases layout with
  | lines => exact quiet_cons (by decide) _
  | compact => rcases h with rfl | rfl <;> exact quiet_cons (by decide) _

theorem quiet_printItems (layout : Layout) (depth outer : Nat) (items : List Json)
    (rest : List Char) :
    Quiet (printItems layout depth items (layout.break outer ++ ']' :: rest)) := by
  cases items with
  | nil => exact quiet_break layout outer (.inl rfl) rest
  | cons item items => exact quiet_cons (by decide) _

theorem quiet_printMembers (layout : Layout) (depth outer : Nat) (members : List (String × Json))
    (rest : List Char) :
    Quiet (printMembers layout depth members (layout.break outer ++ '\x7d' :: rest)) := by
  cases members with
  | nil => exact quiet_break layout outer (.inr rfl) rest
  | cons m members => exact quiet_cons (by decide) _

theorem skipSpacing_quote (text : List Char) :
    skipSpacing (('"' :: text).map some) = ('"' :: text).map some :=
  skipSpacing_self rfl _

/-- The closing bracket of an array or an object. -/
theorem following_close (layout : Layout) (depth : Nat) {bracket : Char} (h : Closing bracket)
    (rest : List Char) :
    following bracket ((layout.break depth ++ bracket :: rest).map some) =
      .ok (.close (rest.map some)) := by
  have hspacing : isSpacing (some bracket) = false := by rcases h with rfl | rfl <;> rfl
  rw [following, List.map_append, skipSpacing_break, List.map_cons, skipSpacing_self hspacing]
  exact if_pos rfl

/-- A comma, and a member behind it. -/
theorem following_another (layout : Layout) (depth : Nat) {bracket c : Char}
    (h : Closing bracket) (hc : isSpacing (some c) = false) (hne : c ≠ bracket)
    (text : List Char) :
    following bracket ((',' :: layout.break depth ++ c :: text).map some) =
      .ok (.another ((c :: text).map some)) := by
  have hcomma : ',' ≠ bracket := by rcases h with rfl | rfl <;> decide
  have hnot : ¬ some c = some bracket := fun heq => hne (Option.some.inj heq)
  rw [List.cons_append, List.map_cons, following, skipSpacing_self rfl]
  dsimp only
  rw [if_neg hcomma, if_pos rfl, List.map_append, skipSpacing_break, List.map_cons,
    skipSpacing_self hc]
  exact if_neg hnot

/-! ## Values -/

/-- A value is read where it is printed, in front of any quiet text. -/
structure ReadsBack (layout : Layout) (j : Json) : Prop where
  opens (depth : Nat) (rest : List Char) :
    ∃ c text, j.printOnto layout depth rest = c :: text ∧ Opens c
  value_eq {depth room : Nat} {rest : List Char} {input : Glyphs} {fuel : Nat}
    (hdepth : j.depth ≤ room) (hrest : Quiet rest)
    (hinput : skipSpacing input = (j.printOnto layout depth rest).map some)
    (hfuel : 2 * (skipSpacing input).length ≤ fuel) :
    value fuel (.keep room) input = .ok (j, rest.map some)

/-- A value is printed without blanks in front. -/
theorem ReadsBack.skipSpacing_print {layout : Layout} {j : Json} (h : ReadsBack layout j)
    (depth : Nat) (rest : List Char) :
    skipSpacing ((j.printOnto layout depth rest).map some) =
      (j.printOnto layout depth rest).map some := by
  obtain ⟨c, text, hprint, hopens⟩ := h.opens depth rest
  rw [hprint]
  exact skipSpacing_self hopens.isSpacing_eq _

section Values

variable {layout : Layout} {room fuel : Nat} {input : Glyphs}

theorem value_text (text : List Char) (rest : Glyphs)
    (hinput : skipSpacing input = some '"' :: ((text.flatMap printChar).map some ++ some '"' :: rest))
    (h : text.length < fuel) :
    value (fuel + 1) (.keep room) input = .ok (.string (String.ofList text), rest) := by
  simp only [value, hinput, stringBody_print room [] text h, ok_bind]
  rfl

theorem value_digit {c : Char} (hc : c.isDigit = true) {text : Glyphs}
    (hinput : skipSpacing input = some c :: text) :
    value (fuel + 1) (.keep room) input = number (.keep room) false (some c :: text) := by
  -- a digit begins nothing but a number
  have hnull : c ≠ 'n' := ne_of_isDigit hc (by decide)
  have htrue : c ≠ 't' := ne_of_isDigit hc (by decide)
  have hfalse : c ≠ 'f' := ne_of_isDigit hc (by decide)
  have hquote : c ≠ '"' := ne_of_isDigit hc (by decide)
  have hbracket : c ≠ '[' := ne_of_isDigit hc (by decide)
  have hbrace : c ≠ '\x7b' := ne_of_isDigit hc (by decide)
  have hminus : c ≠ '-' := ne_of_isDigit hc (by decide)
  simp only [value, hinput]
  rw [if_pos hc]

/-- An array that is not empty. -/
theorem value_array {c : Char} {text rest : Glyphs} (hinput : skipSpacing input = some '[' :: text)
    (htext : skipSpacing text = some c :: rest) (hc : c ≠ ']') :
    value (fuel + 1) (.keep (room + 1)) input = items fuel (.keep room) [] (some c :: rest) := by
  simp only [value, hinput, Care.inner?, htext]
  simp [hc]

/-- An object that is not empty. -/
theorem value_object {c : Char} {text rest : Glyphs}
    (hinput : skipSpacing input = some '\x7b' :: text) (htext : skipSpacing text = some c :: rest)
    (hc : c ≠ '\x7d') :
    value (fuel + 1) (.keep (room + 1)) input = members fuel (.keep room) [] (some c :: rest) := by
  simp only [value, hinput, Care.inner?, htext]
  simp [hc]

theorem memberName_print (name : String) {rest : Glyphs}
    (hinput : skipSpacing input = (printString name).map some ++ rest)
    (h : (printString name).length ≤ fuel) : memberName (.keep room) fuel input = .ok (name, rest) := by
  have hlength : name.toList.length < fuel := by
    have := length_add_two_le_printString name
    omega
  rw [memberName, hinput, printString]
  simp only [List.cons_append, List.map_cons, List.map_append, List.map_nil, List.append_assoc,
    List.nil_append]
  rw [stringBody_print room [] name.toList hlength, List.reverse_nil, List.nil_append,
    String.ofList_toList]

theorem ReadsBack.colon_print {layout : Layout} {j : Json} (h : ReadsBack layout j) (depth : Nat)
    (rest : List Char) :
    ∃ text, colon ((layout.colon ++ j.printOnto layout depth rest).map some) = .ok text ∧
      skipSpacing text = (j.printOnto layout depth rest).map some := by
  cases layout with
  | lines =>
    exact ⟨some ' ' :: (j.printOnto .lines depth rest).map some, rfl, h.skipSpacing_print depth rest⟩
  | compact =>
    exact ⟨(j.printOnto .compact depth rest).map some, rfl, h.skipSpacing_print depth rest⟩

end Values

section Members

variable {layout : Layout} {room : Nat}

/-- The items of an array, each of which is read back. -/
theorem items_print {items : List Json} {item : Json}
    (hitems : ∀ i ∈ item :: items, i.depth ≤ room ∧ ReadsBack layout i) (depth outer : Nat)
    (rest : List Char) {done : List Json} {input : Glyphs} {fuel : Nat}
    (hinput : skipSpacing input = (item.printOnto layout depth
      (printItems layout depth items (layout.break outer ++ ']' :: rest))).map some)
    (hfuel : 2 * (skipSpacing input).length < fuel) :
    Reader.items fuel (.keep room) done input =
      .ok (.array (done.reverse ++ item :: items), rest.map some) := by
  induction items generalizing item done input fuel with
  | nil =>
    obtain ⟨⟨hdepth, hread⟩, -⟩ := List.forall_mem_cons.mp hitems
    obtain ⟨fuel, rfl⟩ : ∃ n, fuel = n + 1 := ⟨fuel - 1, by omega⟩
    rw [Reader.items, hread.value_eq hdepth
      (quiet_printItems layout depth outer _ rest) hinput (by omega)]
    simp only [printItems, following_close layout outer (.inl rfl) rest,
      List.reverse_cons]
  | cons next items ih =>
    obtain ⟨⟨hdepth, hread⟩, hothers⟩ := List.forall_mem_cons.mp hitems
    obtain ⟨fuel, rfl⟩ : ∃ n, fuel = n + 1 := ⟨fuel - 1, by omega⟩
    rw [Reader.items, hread.value_eq hdepth
      (quiet_printItems layout depth outer _ rest) hinput (by omega)]
    -- the next item stands behind a comma, so that at least one step is saved for it
    have hnext := (hothers next (List.mem_cons_self ..)).2
    obtain ⟨c, text, hprint, hopens⟩ := hnext.opens depth
      (printItems layout depth items (layout.break outer ++ ']' :: rest))
    have hself := hnext.skipSpacing_print depth
      (printItems layout depth items (layout.break outer ++ ']' :: rest))
    have hlength := length_le_printOnto layout depth
      (printItems layout depth (next :: items) (layout.break outer ++ ']' :: rest)) item
    rw [hinput, List.length_map] at hfuel
    simp only [printItems, hprint] at hlength hself hfuel ⊢
    rw [following_another layout depth (.inl rfl) hopens.isSpacing_eq hopens.ne_bracket]
    simp only
    rw [ih hothers (by rw [hself, hprint]) ?_, List.reverse_cons, List.append_assoc,
      List.singleton_append]
    rw [hself, List.length_map]
    simp only [List.length_append, List.length_cons] at hlength ⊢
    omega

/-- The members of an object up to what follows the first, which is read back. -/
theorem members_succ {name : String} {item : Json} (hdepth : item.depth ≤ room)
    (hread : ReadsBack layout item) (depth : Nat) {rest : List Char} (hrest : Quiet rest)
    {input : Glyphs} (hinput : skipSpacing input = (printString name).map some ++
      (layout.colon ++ item.printOnto layout depth rest).map some)
    {fuel : Nat} (hfuel : 2 * (skipSpacing input).length ≤ fuel) (done : List (String × Json)) :
    Reader.members (fuel + 1) (.keep room) done input =
      match following '\x7d' (rest.map some) with
      | .error e => .error e
      | .ok (.close rest) => .ok (.object ((name, item) :: done).reverse, rest)
      | .ok (.another rest) => Reader.members fuel (.keep room) ((name, item) :: done) rest := by
  obtain ⟨text, hcolon, htext⟩ := hread.colon_print depth rest
  have hlength : (skipSpacing input).length = (printString name).length + (layout.colon.length +
      (item.printOnto layout depth rest).length) := by
    rw [hinput, List.length_append, List.length_map, List.length_map, List.length_append]
  -- name and value are parts of the text, so the steps that are left do for each
  have hname : memberName (.keep room) fuel input = .ok (name, _) :=
    memberName_print name hinput (by omega)
  have hvalue : value fuel (.keep room) text = .ok (item, rest.map some) :=
    hread.value_eq hdepth hrest htext (by rw [htext, List.length_map]; omega)
  cases hnext : following '\x7d' (rest.map some) with
  | error e => simp only [Reader.members, hname, hcolon, hvalue, hnext]
  | ok next => cases next <;> simp only [Reader.members, hname, hcolon, hvalue, hnext]

/-- The members of an object, each of which is read back. -/
theorem members_print {members : List (String × Json)} {name : String} {item : Json}
    (hmembers : ∀ m ∈ (name, item) :: members, m.2.depth ≤ room ∧ ReadsBack layout m.2)
    (depth outer : Nat) (rest : List Char) {done : List (String × Json)} {input : Glyphs}
    {fuel : Nat}
    (hinput : skipSpacing input = (printString name).map some ++ (layout.colon ++
      item.printOnto layout depth
        (printMembers layout depth members (layout.break outer ++ '\x7d' :: rest))).map some)
    (hfuel : 2 * (skipSpacing input).length < fuel) :
    Reader.members fuel (.keep room) done input =
      .ok (.object (done.reverse ++ (name, item) :: members), rest.map some) := by
  induction members generalizing name item done input fuel with
  | nil =>
    obtain ⟨⟨hdepth, hread⟩, -⟩ := List.forall_mem_cons.mp hmembers
    obtain ⟨fuel, rfl⟩ : ∃ n, fuel = n + 1 := ⟨fuel - 1, by omega⟩
    rw [members_succ hdepth hread depth (quiet_printMembers layout depth outer _ rest) hinput
      (by omega)]
    simp only [printMembers, following_close layout outer (.inr rfl) rest,
      List.reverse_cons]
  | cons next members ih =>
    obtain ⟨⟨hdepth, hread⟩, hothers⟩ := List.forall_mem_cons.mp hmembers
    obtain ⟨fuel, rfl⟩ : ∃ n, fuel = n + 1 := ⟨fuel - 1, by omega⟩
    rw [members_succ hdepth hread depth (quiet_printMembers layout depth outer _ rest) hinput
      (by omega)]
    -- the next member stands behind a comma, and its name begins with a quote
    obtain ⟨name', item'⟩ := next
    obtain ⟨text, htext, hprint⟩ := exists_printMembers_eq layout depth name' item' members
      (layout.break outer ++ '\x7d' :: rest)
    have hself := skipSpacing_quote text
    have hlength := length_le_printOnto layout depth (printMembers layout depth
      ((name', item') :: members) (layout.break outer ++ '\x7d' :: rest)) item
    rw [hprint] at hlength ⊢
    rw [following_another layout depth (.inr rfl) rfl (by decide)]
    simp only
    rw [ih hothers (by rw [hself, ← htext, List.map_append]) ?_, List.reverse_cons,
      List.append_assoc, List.singleton_append]
    rw [hinput, hprint] at hfuel
    rw [hself, List.length_map]
    simp only [List.length_append, List.length_cons, List.length_map] at hlength hfuel ⊢
    omega

end Members

section Forms

variable {layout : Layout}

/-- A value takes at least one step, since it has at least one character. -/
theorem ReadsBack.of_succ {j : Json} (hj : j.Integral)
    (hvalue : ∀ {depth room : Nat} {rest : List Char} {input : Glyphs} {fuel : Nat},
      j.depth ≤ room → Quiet rest →
      skipSpacing input = (j.printOnto layout depth rest).map some →
      2 * (skipSpacing input).length ≤ fuel + 1 →
      value (fuel + 1) (.keep room) input = .ok (j, rest.map some)) : ReadsBack layout j where
  opens := exists_printOnto_eq layout hj
  value_eq {depth room rest input fuel} hdepth hrest hinput hfuel := by
    obtain ⟨c, text, hprint, -⟩ := exists_printOnto_eq layout hj depth rest
    have hpos : 0 < (skipSpacing input).length := by
      rw [hinput, hprint, List.length_map, List.length_cons]
      omega
    obtain ⟨fuel, rfl⟩ : ∃ n, fuel = n + 1 := ⟨fuel - 1, by omega⟩
    exact hvalue hdepth hrest hinput hfuel

theorem readsBack_null : ReadsBack layout .null := by
  refine .of_succ .null fun _ _ hinput _ => ?_
  rw [printOnto] at hinput
  simp only [value, hinput, List.map_cons]
  rfl

theorem readsBack_bool (b : Bool) : ReadsBack layout (.bool b) := by
  refine .of_succ (.bool b) fun _ _ hinput _ => ?_
  cases b with
  | true =>
    rw [printOnto] at hinput
    simp only [value, hinput, List.map_cons]
    rfl
  | false =>
    rw [printOnto] at hinput
    simp only [value, hinput, List.map_cons]
    rfl

theorem readsBack_int {n : Int} (hlow : -0x8000000000000000 ≤ n) (hhigh : n ≤ wordLimit) :
    ReadsBack layout (.number (.int n)) := by
  refine .of_succ (.int hlow hhigh) fun {depth room rest input fuel} _ hrest hinput _ => ?_
  cases n with
  | ofNat n =>
    have hread := number_print hrest room false (Int.ofNat_le.mp hhigh)
      (fun hnegative => absurd hnegative Bool.false_ne_true)
    obtain ⟨c, digits, hn, hdigit⟩ := exists_toDigits_eq n
    rw [hn, List.cons_append, List.map_cons] at hread
    rw [printOnto, Int.ofNat_eq_natCast, print_int_of_nonneg, hn, List.cons_append,
      List.map_cons] at hinput
    rw [value_digit hdigit hinput, hread]
    rfl
  | negSucc n =>
    -- the sign is a character of its own, and the digits are those of the absolute value
    have hfit : n + 1 ≤ 0x8000000000000000 := by omega
    have hread := number_print hrest room true (n := n + 1) (Nat.le_trans hfit (by decide))
      (fun _ => ⟨Nat.succ_pos n, hfit⟩)
    rw [printOnto, print_int_of_neg, List.cons_append, List.map_cons] at hinput
    simp only [value, hinput, hread]
    rfl

theorem readsBack_string (s : String) : ReadsBack layout (.string s) := by
  refine .of_succ (.string s) fun {depth room rest input fuel} _ _ hinput hfuel => ?_
  have hlength := length_add_two_le_printString s
  have htext : skipSpacing input =
      some '"' :: ((s.toList.flatMap printChar).map some ++ some '"' :: rest.map some) := by
    rw [hinput, printOnto, printString]
    simp
  rw [hinput, List.length_map, printOnto, List.length_append] at hfuel
  rw [value_text s.toList (rest.map some) htext (by omega), String.ofList_toList]

theorem readsBack_array {items : List Json} (hitems : ∀ item ∈ items, item.Integral)
    (hread : ∀ item ∈ items, ReadsBack layout item) : ReadsBack layout (.array items) := by
  refine .of_succ (.array hitems) fun {depth room rest input fuel} hdepth hrest hinput hfuel => ?_
  rw [Json.depth] at hdepth
  obtain ⟨room, rfl⟩ : ∃ n, room = n + 1 := ⟨room - 1, by omega⟩
  cases items with
  | nil =>
    rw [printOnto] at hinput
    simp only [value, hinput, List.map_cons, Care.inner?]
    rfl
  | cons item items =>
    have hfirst := hread item (List.mem_cons_self ..)
    have hall : ∀ i ∈ item :: items, i.depth ≤ room ∧ ReadsBack layout i := by
      intro i hi
      have hle := depth_le_of_mem hi
      exact ⟨by omega, hread i hi⟩
    -- the bracket saves the two steps that the array and its first item take
    have hself := hfirst.skipSpacing_print (depth + 1)
      (printItems layout (depth + 1) items (layout.break depth ++ ']' :: rest))
    obtain ⟨c, text, hprint, hopens⟩ := hfirst.opens (depth + 1)
      (printItems layout (depth + 1) items (layout.break depth ++ ']' :: rest))
    rw [printOnto, List.cons_append, List.map_cons, List.map_append] at hinput
    rw [hinput] at hfuel
    simp only [List.length_cons, List.length_append, List.length_map] at hfuel
    rw [value_array hinput (by rw [skipSpacing_break, hself, hprint]; rfl) hopens.ne_bracket,
      ← List.map_cons, ← hprint,
      items_print hall (depth + 1) depth rest hself (by rw [hself, List.length_map]; omega)]
    rfl

theorem readsBack_object {members : List (String × Json)} (hmembers : ∀ m ∈ members, m.2.Integral)
    (hread : ∀ m ∈ members, ReadsBack layout m.2) : ReadsBack layout (.object members) := by
  refine .of_succ (.object hmembers) fun {depth room rest input fuel} hdepth hrest hinput hfuel => ?_
  rw [Json.depth] at hdepth
  obtain ⟨room, rfl⟩ : ∃ n, room = n + 1 := ⟨room - 1, by omega⟩
  cases members with
  | nil =>
    rw [printOnto] at hinput
    simp only [value, hinput, List.map_cons, Care.inner?]
    rfl
  | cons m members =>
    obtain ⟨name, item⟩ := m
    have hall : ∀ m ∈ (name, item) :: members, m.2.depth ≤ room ∧ ReadsBack layout m.2 := by
      intro m hm
      have hle := depth_le_of_mem_members hm
      exact ⟨by omega, hread m hm⟩
    obtain ⟨text, htext, -⟩ := exists_printMembers_eq layout (depth + 1) name item members
      (layout.break depth ++ '\x7d' :: rest)
    have hself := skipSpacing_quote text
    rw [printOnto_object, htext, List.map_cons, List.map_append] at hinput
    rw [hinput] at hfuel
    simp only [List.length_cons, List.length_append, List.length_map] at hfuel
    rw [value_object hinput (by rw [skipSpacing_break, hself]; rfl) (by decide), ← List.map_cons,
      members_print hall (depth + 1) depth rest (by rw [hself, ← htext, List.map_append])
        (by rw [hself, List.length_map, List.length_cons]; omega)]
    rfl

end Forms

/-- **Values.** A value whose numbers are integers of 64 bits is read back. -/
theorem readsBack {layout : Layout} {j : Json} (h : j.Integral) : ReadsBack layout j := by
  induction h with
  | null => exact readsBack_null
  | bool b => exact readsBack_bool b
  | int hlow hhigh => exact readsBack_int hlow hhigh
  | string s => exact readsBack_string s
  | array hitems ih => exact readsBack_array hitems ih
  | object hmembers ih => exact readsBack_object hmembers ih

end Reader

/-- **Texts of values.** The text of a value whose numbers are integers of 64 bits, and which does not
nest too deep, is read as that value. -/
theorem ofText_print (layout : Layout) {j : Json} (h : j.Integral)
    (hdepth : j.depth ≤ Reader.nestingLimit) : ofText (j.print layout) = .ok j := by
  have hread : Reader.ReadsBack layout j := Reader.readsBack h
  have hglyphs : Reader.glyphsOf (j.print layout) = (j.printOnto layout 0 []).map some := by
    rw [Reader.glyphsOf, print, String.toList_ofList]
  have hquiet : Reader.Quiet [] := fun c hc => nomatch hc
  rw [ofText, hglyphs, ofGlyphs, hread.value_eq hdepth hquiet (hread.skipSpacing_print 0 [])]
  · rfl
  · rw [hread.skipSpacing_print, Reader.stepsFor]
    omega

end Wordweave.Json
