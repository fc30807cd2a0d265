import Wordweave.Command.Execute
import Wordweave.Proofs.Form.Record
import Wordweave.Proofs.Text.Utf8

/-!
# Wordweave — programs that are printed and loaded

The text that `dump` prints for a program is the program: it is loaded as JSON, since it does not
begin like a compiled program, and what is loaded is the program itself, with its name, its places,
its texts, its repetitions and its empty lists. The one condition is that the text does not nest
deeper than a reader goes.

A program is not read as a value that is then looked at. Its members and those of its root are taken
one by one, and each decides what is read next, by the names that have come before. `Folds` follows
such a reader from member to member, and an object whose members it takes is read to its end
(`foldObject_print`).

Main result:

* `Command.loadProgram_dump` — what is printed of a program is loaded as the program.
-/

namespace Wordweave

open Json Json.Reader

namespace Json.Reader

variable {layout : Layout}

/-! ## Parts of a text -/

theorem le_stepsFor (input : Glyphs) : 2 * (skipSpacing input).length ≤ stepsFor input := by
  have := (List.dropWhile_sublist isSpacing (l := input)).length_le
  rw [stepsFor, skipSpacing]
  omega

/-- A value without members, and what is made of it. -/
theorem plain_print {α : Type} {bind : Json → Option α} {a : α} {j : Json}
    (hread : ReadsBack layout j) (hbind : bind j = some a) (hdepth : j.depth = 0) {depth : Nat}
    {rest : List Char} (hrest : Quiet rest) {input : Glyphs}
    (hinput : skipSpacing input = (j.printOnto layout depth rest).map some)
    (hplain : ∀ c ∈ (j.printOnto layout depth rest).head?, c ≠ '[' ∧ c ≠ '\x7b') :
    plain bind input = .ok (a, rest.map some) := by
  have hvalue := hread.value_eq (Nat.le_of_eq hdepth) hrest hinput (le_stepsFor input)
  obtain ⟨c, text, hprint, -⟩ := hread.opens depth rest
  obtain ⟨hbracket, hbrace⟩ := hplain c (by rw [hprint]; rfl)
  rw [hprint, List.map_cons] at hinput
  rw [plain, hinput]
  simp [hbracket, hbrace, hvalue, ok_bind, hbind]
  rfl

/-! ## Objects that are read member by member -/

/-- A reader of members goes from one state to another by taking some members in turn. -/
inductive Folds {σ : Type} (step : String → σ → Glyphs → Except Fault (σ × Glyphs))
    (layout : Layout) (depth : Nat) : σ → List (String × Json) → σ → Prop
  | nil (s : σ) : Folds step layout depth s [] s
  | cons {s s' s'' : σ} {name : String} {item : Json} {members : List (String × Json)}
      (hfirst : ∀ rest : List Char, Quiet rest →
        step name s ((layout.colon ++ item.printOnto layout depth rest).map some) =
          .ok (s', rest.map some))
      (hothers : Folds step layout depth s' members s'') :
      Folds step layout depth s ((name, item) :: members) s''

section Folds

variable {σ : Type} {step : String → σ → Glyphs → Except Fault (σ × Glyphs)} {depth : Nat}

/-- The members of an object up to what follows the first. -/
theorem foldMembers_succ {name : String} {s s' : σ} {input after rest : Glyphs}
    (hinput : skipSpacing input = (printString name).map some ++ after)
    (hstep : step name s after = .ok (s', rest)) (fuel : Nat) :
    foldMembers step (fuel + 1) s input =
      match following '\x7d' rest with
      | .error e => .error e
      | .ok (.close rest) => .ok (s', rest)
      | .ok (.another rest) => foldMembers step fuel s' rest := by
  -- the name is within the text, so there are steps for it
  have hname : memberName (.keep 0) (stepsFor input) input = .ok (name, after) := by
    refine memberName_print name hinput (Nat.le_trans ?_ (le_stepsFor input))
    rw [hinput, List.length_append, List.length_map]
    omega
  simp only [foldMembers, hname, ok_bind, hstep]
  rcases following '\x7d' rest with e | next
  · rfl
  · cases next <;> rfl

theorem foldMembers_print (outer : Nat) (rest : List Char) {members : List (String × Json)}
    {name : String} {item : Json} {s s' : σ}
    (h : Folds step layout depth s ((name, item) :: members) s') {input : Glyphs}
    (hinput : skipSpacing input = (printString name).map some ++ (layout.colon ++
      item.printOnto layout depth
        (printMembers layout depth members (layout.break outer ++ '\x7d' :: rest))).map some)
    {fuel : Nat} (hfuel : (skipSpacing input).length < fuel) :
    foldMembers step fuel s input = .ok (s', rest.map some) := by
  induction members generalizing name item s input fuel with
  | nil =>
    obtain ⟨fuel, rfl⟩ : ∃ n, fuel = n + 1 := ⟨fuel - 1, by omega⟩
    cases h with
    | cons hfirst hothers =>
      cases hothers with
      | nil =>
        have hclose := following_close layout outer (.inr rfl) rest
        rw [foldMembers_succ hinput (hfirst _ (quiet_printMembers layout depth outer [] rest)) fuel,
          printMembers, hclose]
  | cons next members ih =>
    obtain ⟨fuel, rfl⟩ : ∃ n, fuel = n + 1 := ⟨fuel - 1, by omega⟩
    obtain ⟨name', item'⟩ := next
    cases h with
    | cons hfirst hothers =>
      obtain ⟨text, htext, hprint⟩ := exists_printMembers_eq layout depth name' item' members
        (layout.break outer ++ '\x7d' :: rest)
      have hself := skipSpacing_quote text
      have hlength := length_le_printOnto layout depth (printMembers layout depth
        ((name', item') :: members) (layout.break outer ++ '\x7d' :: rest)) item
      have hnext := following_another layout depth (.inr rfl)
        (rfl : isSpacing (some '"') = false) (by decide) text
      rw [foldMembers_succ hinput (hfirst _ (quiet_printMembers layout depth outer _ rest)) fuel,
        hprint, hnext]
      -- the comma saves a step for the next member
      refine ih hothers (by rw [hself, ← htext, List.map_append]) ?_
      rw [hinput] at hfuel
      rw [hprint] at hlength hfuel
      rw [hself, List.length_map]
      simp only [List.length_append, List.length_cons, List.length_map] at hlength hfuel ⊢
      omega

/-- **Objects.** An object is read to its end if its members are taken in turn. -/
theorem foldObject_print {members : List (String × Json)} {s s' : σ}
    (h : Folds step layout (depth + 1) s members s') {rest text : List Char}
    (htext : (Json.object members).printOnto layout depth rest = '\x7b' :: text) :
    foldObject step s (text.map some) = .ok (s', rest.map some) := by
  cases h with
  | nil =>
    rw [printOnto] at htext
    obtain rfl : '\x7d' :: rest = text := (List.cons.inj htext).2
    rfl
  | @cons _ _ _ name item members hfirst hothers =>
    -- behind the bracket stands a quote, so this is no empty object
    rw [printOnto_object] at htext
    obtain rfl := (List.cons.inj htext).2
    obtain ⟨quoted, hquoted, -⟩ := exists_printMembers_eq layout (depth + 1) name item members
      (layout.break depth ++ '\x7d' :: rest)
    have hself := skipSpacing_quote quoted
    have hfold := foldMembers_print depth rest (.cons hfirst hothers)
      (by rw [hself, ← hquoted, List.map_append] : skipSpacing (('"' :: quoted).map some) = _)
      (by rw [hself, stepsFor]; omega : _ < stepsFor (('"' :: quoted).map some))
    rw [hquoted, foldObject, List.map_append, skipSpacing_break, hself]
    exact hfold

end Folds

/-! ## The root -/

section Root

/-- The kind of the root. -/
theorem rootKind_print {kind : String} (hkind : kind ∈ Node.kindNames) {depth : Nat}
    {rest : List Char} (hrest : Quiet rest) {input : Glyphs}
    (hinput : skipSpacing input = ((Json.string kind).printOnto layout depth rest).map some) :
    rootKind input = .ok (.string kind, rest.map some) := by
  have hbind : ((kindIndex? Node.kindNames false (.string kind)).map fun _ => Json.string kind) =
      some (.string kind) := by
    have hfound : (Node.kindNames.findIdx? (· == kind)).isSome := by
      rw [List.findIdx?_isSome]
      exact List.any_eq_true.mpr ⟨kind, hkind, beq_self_eq_true kind⟩
    obtain ⟨place, hplace⟩ := Option.isSome_iff_exists.mp hfound
    rw [kindIndex?, hplace, Option.map_some]
  exact plain_print (readsBack_string kind) hbind rfl hrest hinput (by simp [printOnto, printString])

/-- The members of the root after its kind. -/
theorem folds_rootMember (kind : Json) {fields : List (String × Json)}
    (hfields : ∀ m ∈ fields, m.1 ≠ kindKey ∧ m.2.depth ≤ nestingLimit - 2 ∧ m.2.Integral)
    (depth : Nat) (done : List (String × Json)) :
    Folds rootMember layout depth (some kind, done) fields (some kind, fields.reverse ++ done) := by
  induction fields generalizing done with
  | nil => exact .nil _
  | cons m fields ih =>
    obtain ⟨name, item⟩ := m
    obtain ⟨⟨hname, hdepth, hitem⟩, hothers⟩ := List.forall_mem_cons.mp hfields
    rw [List.reverse_cons, List.append_assoc, List.singleton_append]
    refine .cons (fun rest hrest => ?_) (ih hothers _)
    have hread : ReadsBack layout item := readsBack hitem
    obtain ⟨text, hcolon, htext⟩ := hread.colon_print depth rest
    have hvalue := hread.value_eq hdepth hrest htext (le_stepsFor text)
    simp only [rootMember, if_neg hname, hcolon, ok_bind, rootCare, hvalue]
    rfl

/-- **Roots.** The root of a program is read back. -/
theorem root_print {n : Node} (hdepth : n.toJson.depth ≤ nestingLimit - 1) {depth : Nat}
    {rest : List Char} {input : Glyphs}
    (hinput : skipSpacing input = (n.toJson.printOnto layout depth rest).map some) :
    root input = .ok (n, rest.map some) := by
  obtain ⟨kind, hkind, fields, hfields, hnames⟩ := n.exists_toJson_eq
  have hnode : Node.ofJson? false (.object ((kindKey, .string kind) :: fields)) = some n := by
    rw [← ofVariant, ← hfields, Node.ofJson?_toJson]
  -- the members of the root are one level further down than the root itself
  have hmembers : ∀ m ∈ fields, m.1 ≠ kindKey ∧ m.2.depth ≤ nestingLimit - 2 ∧ m.2.Integral := by
    intro m hm
    have hintegral := n.integral_toJson
    rw [hfields, ofVariant] at hdepth hintegral
    rw [Json.depth] at hdepth
    have hmem : m ∈ (kindKey, Json.string kind) :: fields := List.mem_cons_of_mem _ hm
    have hle := depth_le_of_mem_members hmem
    cases hintegral with
    | object hall => exact ⟨hnames m hm, by omega, hall m hmem⟩
  -- the kind comes first and is put aside, and the other members are kept in turn
  have hkindMember (rest : List Char) (hrest : Quiet rest) :
      rootMember kindKey (none, [])
          ((layout.colon ++ (Json.string kind).printOnto layout (depth + 1) rest).map some) =
        .ok ((some (.string kind), []), rest.map some) := by
    have hread : ReadsBack layout (.string kind) := readsBack_string kind
    obtain ⟨text, hcolon, htext⟩ := hread.colon_print (depth + 1) rest
    simp only [rootMember, hcolon, ok_bind, rootKind_print hkind hrest htext]
    rfl
  have hfold : Folds rootMember layout (depth + 1) (none, []) ((kindKey, .string kind) :: fields)
      (some (.string kind), fields.reverse) := by
    have hothers : Folds rootMember layout (depth + 1) (some (.string kind), []) fields
        (some (.string kind), fields.reverse ++ []) := folds_rootMember _ hmembers (depth + 1) []
    rw [List.append_nil] at hothers
    exact .cons hkindMember hothers
  obtain ⟨text, htext⟩ : ∃ text, (Json.object ((kindKey, .string kind) :: fields)).printOnto layout
      depth rest = '\x7b' :: text := ⟨_, by rw [printOnto_object]⟩
  rw [hfields, ofVariant, htext, List.map_cons] at hinput
  simp only [root, hinput, foldObject_print hfold htext, ok_bind, orMismatch, List.reverse_reverse,
    hnode]
  rfl

end Root

/-! ## The program -/

/-- The name of a program. -/
theorem programName_print (name : Option String) {depth : Nat} {rest : List Char}
    (hrest : Quiet rest) {input : Glyphs}
    (hinput : skipSpacing input = ((Json.ofString? name).printOnto layout depth rest).map some) :
    programName input = .ok (name, rest.map some) := by
  have hread : ReadsBack layout (ofString? name) := readsBack (integral_ofString? name)
  refine plain_print hread (nullable?_ofString? name) ?_ hrest hinput ?_
  · cases name <;> rfl
  · cases name <;> simp [ofString?, printOnto, printString]

/-- **Programs.** A program that is printed is read back. -/
theorem program_print {p : Program} (hdepth : p.toJson.depth ≤ nestingLimit) {rest : List Char}
    {input : Glyphs} (hinput : skipSpacing input = (p.toJson.printOnto layout 0 rest).map some) :
    program input = .ok (p, rest.map some) := by
  have hroot : p.root.toJson.depth ≤ nestingLimit - 1 := by
    rw [Program.toJson, Json.depth] at hdepth
    have hle : p.root.toJson.depth ≤ depthOfMembers [("name", ofString? p.name), ("root", p.root.toJson)] :=
      depth_le_of_mem_members (List.mem_cons_of_mem _ (List.mem_singleton_self (_, _)))
    omega
  have hname (rest : List Char) (hrest : Quiet rest) :
      programMember "name" (none, none)
          ((layout.colon ++ (ofString? p.name).printOnto layout 1 rest).map some) =
        .ok ((some p.name, none), rest.map some) := by
    have hread : ReadsBack layout (ofString? p.name) := readsBack (integral_ofString? p.name)
    obtain ⟨text, hcolon, htext⟩ := hread.colon_print 1 rest
    simp only [programMember, hcolon, ok_bind, programName_print p.name hrest htext]
    rfl
  have htree (rest : List Char) (_ : Quiet rest) :
      programMember "root" (some p.name, none)
          ((layout.colon ++ p.root.toJson.printOnto layout 1 rest).map some) =
        .ok ((some p.name, some p.root), rest.map some) := by
    have hread : ReadsBack layout p.root.toJson := readsBack p.root.integral_toJson
    obtain ⟨text, hcolon, htext⟩ := hread.colon_print 1 rest
    simp only [programMember, hcolon, ok_bind, root_print hroot htext]
    rfl
  have hfold : Folds programMember layout 1 (none, none)
      [("name", ofString? p.name), ("root", p.root.toJson)] (some p.name, some p.root) :=
    .cons hname (.cons htree (.nil _))
  obtain ⟨text, htext⟩ : ∃ text, p.toJson.printOnto layout 0 rest = '\x7b' :: text :=
    ⟨_, by rw [Program.toJson, printOnto_object]⟩
  rw [htext, List.map_cons] at hinput
  simp only [program, hinput, foldObject_print hfold htext, ok_bind, orMismatch]
  rfl

end Json.Reader

/-! ## Texts and files -/

namespace Program

/-- The text of a program, with the line end that `dump` puts behind it. -/
def dumped (p : Program) : String := p.toJsonText ++ "\n"

theorem toList_dumped (p : Program) : p.dumped.toList = p.toJson.printOnto .lines 0 ['\n'] := by
  rw [dumped, toJsonText, Json.print, String.toList_append, String.toList_ofList]
  exact (printOnto_append .lines 0 [] ['\n'] p.toJson).symm

theorem integral_toJson (p : Program) : p.toJson.Integral :=
  .object (by simp [integral_ofString?, p.root.integral_toJson])

theorem ofJsonBytes_dumped {p : Program} (hdepth : p.toJson.depth ≤ nestingLimit) :
    ofJsonBytes (Text.Utf8.encode p.dumped) = .ok p := by
  have hread : ReadsBack .lines p.toJson := readsBack p.integral_toJson
  have hprogram := program_print hdepth (hread.skipSpacing_print 0 ['\n'])
  rw [ofJsonBytes, ofGlyphs, Text.Utf8.glyphs_encode, toList_dumped, hprogram]
  rfl

/-- A text that begins with a bracket is no compiled program. -/
theorem isCompiled_dumped (p : Program) : Wire.isCompiled (Text.Utf8.encode p.dumped) = false := by
  obtain ⟨text, htext⟩ : ∃ text, p.toJson.printOnto .lines 0 ['\n'] = '\x7b' :: text :=
    ⟨_, by rw [toJson, printOnto_object]⟩
  have hmagic : Wire.magic = 0x50 :: Wire.magic.tail := by decide
  rw [Wire.isCompiled, Text.Utf8.encode, toList_dumped, htext, hmagic]
  rfl

end Program

/-- **Printed programs.** Take any program whose value nests no deeper than a reader goes. Where it
is loaded from, `dump` prints a text for it. This text is not taken for a compiled program; it is
read as JSON, and it is read as the program. So the program is loaded from any file that holds the
text. -/
theorem Command.loadProgram_dump {p : Program} (hdepth : p.toJson.depth ≤ nestingLimit) :
    (∀ (s : Surroundings) (path : String), loadProgram s.files path = .ok p →
      dump s path = .ok ⟨p.dumped, s.files⟩) ∧
    Wire.isCompiled (Text.Utf8.encode p.dumped) = false ∧
    Program.ofJsonBytes (Text.Utf8.encode p.dumped) = .ok p ∧
    ∀ (files : Files) (path : String), files.read path = .ok (Text.Utf8.encode p.dumped) →
      loadProgram files path = .ok p := by
  have hcompiled := p.isCompiled_dumped
  have hread := Program.ofJsonBytes_dumped hdepth
  refine ⟨fun s path hload => ?_, hcompiled, hread, fun files path hfile => ?_⟩
  · rw [dump, hload]
    rfl
  · rw [loadProgram, hfile]
    simp only [failing, ok_bind, hcompiled, hread]
    rfl

/-- A program with a name and texts that need escapes, a carrier that repeats a name and has an empty
list, and a bound that is absent, in a file of its own. -/
theorem Command.loadProgram_dump_cat :
    let carrier := (Carrier.empty.set .unique ["x", "x"]).set .rhyme []
    let lookup : Lookup :=
      ⟨some "noun", none, true, [.bySyllables ⟨some 1, none⟩, .byClass [[⟨"tame", true⟩], []]],
        some carrier⟩
    let p : Program :=
      ⟨some "a \"cat\"\n", .sequence ⟨1, 2⟩
        [.text ⟨1, 3⟩ "caf\u00e9 \x01", .query .origin lookup (some (.text .origin ""))]⟩
    let files : Files := ⟨[], [], [(["cat.json"], Text.Utf8.encode p.dumped)]⟩
    p.toJson.depth ≤ nestingLimit ∧ files.read "cat.json" = .ok (Text.Utf8.encode p.dumped) ∧
      loadProgram files "cat.json" = .ok p := by
  intro carrier lookup p files
  have hdepth : p.toJson.depth ≤ nestingLimit := by decide +kernel
  have hfile (bytes : List UInt8) :
      Files.read ⟨[], [], [(["cat.json"], bytes)]⟩ "cat.json" = .ok bytes := by
    have hparts : Files.partsOf "cat.json" = ["cat.json".toList] := by decide
    have hnul : "cat.json".contains '\x00' = false := by simp
    have hslash : "cat.json".startsWith "/" = false := by simp
    rw [Files.read, Files.start, hnul, hslash, hparts]
    rfl
  obtain ⟨-, -, -, hload⟩ := Command.loadProgram_dump hdepth
  exact ⟨hdepth, hfile _, hload files "cat.json" (hfile _)⟩

end Wordweave
