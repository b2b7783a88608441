import DotJs.Proofs.VisitingOrder

/-!
# Edits and outermost nodes

`Program.Edited` compares a program before and after it was rewritten, address by address. The
outermost nodes that are to be rewritten have one edit each and no other node has one; a node
with an edit has the extended literal, and every other node is as it was.

The comparison is put together like the forest: from the first node, by itself, and the nodes
behind it (`Edited.cons`), where the first node is either rewritten (`Edited.of_rewrites`) or
entered (`Edited.of_inside`).
-/

namespace DotJs

/-- What there is to see of a node without entering it: its kind, its start, its specifier and how
many nodes are `inside` it. When the labels at all addresses agree, two programs are the same. -/
def Node.label (n : Node) : ModuleKind × Nat × Specifier × Nat :=
  (n.kind, n.start, n.specifier, n.inside.length)

/-- Rewriting made one program into another, with edits that belong to the nodes at some addresses.
`placed` pairs each edit with its address, as two nodes may have edits that are equal. -/
structure Program.Edited (rules : Rules) (source : Text) (program program' : Program)
    (placed : List (Address × Edit)) : Prop where
  /-- no node has two edits -/
  distinct : (placed.map Prod.fst).Nodup
  /-- the nodes with an edit are the outermost ones that are to be rewritten -/
  outermost : ∀ a, a ∈ placed.map Prod.fst ↔ ∃ n, program.IsOutermost rules a n
  /-- a node with an edit has the literal that the edit tells of, with its extension -/
  extended : ∀ a e, (a, e) ∈ placed → ∃ n l, program.at? a = some n ∧ n.specifier = .literal l ∧
    e.IsOf rules source n l ∧ program'.at? a = some (n.withLiteral (l.extendedBy e))
  /-- any other node is as it was -/
  kept : ∀ a, a ∉ placed.map Prod.fst →
    (program'.at? a).map Node.label = (program.at? a).map Node.label

/-! ## Addresses behind the first node -/

/-- An address behind one more node, which has the number after. The addresses of `rest` in `n ::
rest` are of this kind. -/
def Address.next : Address → Address
  | [] => []
  | i :: a => (i + 1) :: a

namespace Address

theorem next_injective : Function.Injective next := by
  intro a b h
  cases a with
  | nil =>
    cases b with
    | nil => rfl
    | cons j b => cases h
  | cons i a =>
    cases b with
    | nil => cases h
    | cons j b =>
      obtain ⟨hij, rfl⟩ := List.cons.inj h
      obtain rfl := Nat.succ.inj hij
      rfl

theorem zero_cons_notMem_next (a : Address) (as : List Address) :
    0 :: a ∉ as.map next := by
  intro h
  obtain ⟨b, -, hb⟩ := List.mem_map.mp h
  cases b with
  | nil => cases hb
  | cons j b => exact absurd (List.cons.inj hb).1 (Nat.succ_ne_zero j)

theorem succ_cons_mem_next {i : Nat} {a : Address} {as : List Address} :
    (i + 1) :: a ∈ as.map next ↔ i :: a ∈ as :=
  List.mem_map_of_injective (a := i :: a) next_injective

theorem nil_mem_next {as : List Address} : [] ∈ as.map next ↔ [] ∈ as :=
  List.mem_map_of_injective (a := []) next_injective

end Address

/-! ## Putting programs together -/

namespace Program

variable {rules : Rules} {source : Text}

theorem Edited.nil : Edited rules source [] [] [] where
  distinct := .nil
  outermost a := by
    refine ⟨fun h => absurd h List.not_mem_nil, ?_⟩
    rintro ⟨n, h⟩
    exact absurd h not_isOutermost_empty
  extended a e h := absurd h List.not_mem_nil
  kept a _ := rfl

/-- The addresses of edits in a single node start with its number, zero. -/
theorem Edited.eq_zero_cons {n n' : Node} {placed : List (Address × Edit)}
    (h : Edited rules source [n] [n'] placed) {a : Address} (ha : a ∈ placed.map Prod.fst) :
    ∃ b, a = 0 :: b := by
  obtain ⟨m, hm⟩ := (h.outermost a).mp ha
  rcases a with _ | ⟨i, b⟩
  · exact absurd hm not_isOutermost_nil
  · cases i with
    | zero => exact ⟨b, rfl⟩
    | succ i => exact absurd (isOutermost_tail_iff.mp hm) not_isOutermost_empty

theorem isOutermost_zero_cons_iff {n m : Node} (rest : List Node) {b : Address} :
    Program.IsOutermost rules (n :: rest) (0 :: b) m ↔
      Program.IsOutermost rules [n] (0 :: b) m := by
  cases b with
  | nil => rw [isOutermost_head_iff, isOutermost_head_iff]
  | cons i b => rw [isOutermost_head_inside_iff, isOutermost_head_inside_iff]

/-- The first node and the nodes behind it are edited independently, with the addresses of the
latter moved on by `Address.next`. -/
theorem Edited.cons {n n' : Node} {rest rest' : List Node} {placed placed' : List (Address × Edit)}
    (hn : Edited rules source [n] [n'] placed) (hrest : Edited rules source rest rest' placed') :
    Edited rules source (n :: rest) (n' :: rest')
      (placed ++ placed'.map fun p => (p.1.next, p.2)) := by
  have haddresses : (placed ++ placed'.map fun p => (p.1.next, p.2)).map Prod.fst
      = placed.map Prod.fst ++ (placed'.map Prod.fst).map Address.next := by
    simp only [List.map_append, List.map_map]
    rfl
  have hhead : ∀ i b, (i + 1) :: b ∉ placed.map Prod.fst := by
    intro i b h
    obtain ⟨_, heq⟩ := hn.eq_zero_cons h
    exact absurd (List.cons.inj heq).1 (Nat.succ_ne_zero i)
  constructor
  · -- the two parts have different first numbers
    rw [haddresses]
    refine hn.distinct.append (hrest.distinct.map Address.next_injective) ?_
    intro a ha ha'
    obtain ⟨b, rfl⟩ := hn.eq_zero_cons ha
    exact Address.zero_cons_notMem_next b _ ha'
  · -- the first number of an address tells which of the two parts it belongs to
    intro a
    rw [haddresses, List.mem_append]
    rcases a with _ | ⟨i, b⟩
    · rw [hn.outermost, Address.nil_mem_next, hrest.outermost]
      constructor
      · rintro (⟨m, h⟩ | ⟨m, h⟩)
        · exact absurd h not_isOutermost_nil
        · exact absurd h not_isOutermost_nil
      · rintro ⟨m, h⟩
        exact absurd h not_isOutermost_nil
    · cases i with
      | zero =>
        rw [or_iff_left (Address.zero_cons_notMem_next b _), hn.outermost]
        simp only [isOutermost_zero_cons_iff rest]
      | succ i =>
        rw [or_iff_right (hhead i b), Address.succ_cons_mem_next, hrest.outermost]
        simp only [isOutermost_tail_iff]
  · intro a e h
    rcases List.mem_append.mp h with h | h
    · obtain ⟨b, rfl⟩ := hn.eq_zero_cons (List.mem_map.mpr ⟨(a, e), h, rfl⟩)
      exact hn.extended (0 :: b) e h
    · obtain ⟨⟨b, e'⟩, hmem, heq⟩ := List.mem_map.mp h
      obtain ⟨rfl, rfl⟩ := Prod.mk.inj heq
      cases b with
      | nil =>
        obtain ⟨m, -, hm, -⟩ := hrest.extended [] e' hmem
        cases hm
      | cons i b => exact hrest.extended (i :: b) e' hmem
  · intro a ha
    rw [haddresses, List.mem_append, not_or] at ha
    rcases a with _ | ⟨i, b⟩
    · rfl
    · cases i with
      | zero => exact hn.kept (0 :: b) ha.1
      | succ i => exact hrest.kept (i :: b) (mt Address.succ_cons_mem_next.mpr ha.2)

/-- A node that is rewritten has the only edit in it, at its own address `[0]`. -/
theorem Edited.of_rewrites {n : Node} {l : Literal} {e : Edit}
    (hv : (rules.classify n).rewrites) (hl : n.specifier = .literal l)
    (he : e.IsOf rules source n l) :
    Edited rules source [n] [n.withLiteral (l.extendedBy e)] [([0], e)] where
  distinct := List.nodup_singleton _
  outermost a := by
    rw [List.map_singleton, List.mem_singleton]
    constructor
    · rintro rfl
      exact ⟨n, isOutermost_head_iff.mpr ⟨rfl, hv⟩⟩
    · rintro ⟨m, h⟩
      rcases a with _ | ⟨i, b⟩
      · exact absurd h not_isOutermost_nil
      · cases i with
        | succ i => exact absurd (isOutermost_tail_iff.mp h) not_isOutermost_empty
        | zero =>
          cases b with
          | nil => rfl
          | cons j b =>
            -- inside a node that is to be rewritten no node is outermost
            have hkeeps := (isOutermost_head_inside_iff.mp h).1
            rw [hv] at hkeeps
            cases hkeeps
  extended a e' h := by
    obtain ⟨rfl, rfl⟩ := Prod.mk.inj (List.mem_singleton.mp h)
    exact ⟨n, l, rfl, hl, he, rfl⟩
  kept a ha := by
    rw [List.map_singleton, List.mem_singleton] at ha
    rcases a with _ | ⟨i, b⟩
    · rfl
    · cases i with
      | succ i => rfl
      | zero =>
        cases b with
        | nil => exact absurd rfl ha
        | cons j b => rfl

/-- A node that is entered has the edits that are inside it, with its own number `0` put before
their addresses. -/
theorem Edited.of_inside {n : Node} {inside : List Node} {placed : List (Address × Edit)}
    (hv : (rules.classify n).rewrites = false)
    (hinside : Edited rules source n.inside inside placed)
    (hlength : inside.length = n.inside.length) :
    Edited rules source [n] [n.withInside inside] (placed.map fun p => (0 :: p.1, p.2)) := by
  have haddresses : (placed.map fun p => (0 :: p.1, p.2)).map Prod.fst
      = (placed.map Prod.fst).map (List.cons 0) := by
    simp only [List.map_map]
    rfl
  have hmem : ∀ b, 0 :: b ∈ (placed.map Prod.fst).map (List.cons 0) ↔ b ∈ placed.map Prod.fst :=
    fun b => List.mem_map_of_injective (List.cons_injective (a := 0))
  have hnil : [] ∉ placed.map Prod.fst := by
    intro h
    obtain ⟨m, hm⟩ := (hinside.outermost []).mp h
    exact not_isOutermost_nil hm
  constructor
  · rw [haddresses]
    exact hinside.distinct.map (List.cons_injective (a := 0))
  · intro a
    rw [haddresses]
    rcases a with _ | ⟨i, b⟩
    · constructor
      · intro h
        obtain ⟨_, -, heq⟩ := List.mem_map.mp h
        cases heq
      · rintro ⟨m, h⟩
        exact absurd h not_isOutermost_nil
    · cases i with
      | succ i =>
        constructor
        · intro h
          obtain ⟨_, -, heq⟩ := List.mem_map.mp h
          exact absurd (List.cons.inj heq).1.symm (Nat.succ_ne_zero i)
        · rintro ⟨m, h⟩
          exact absurd (isOutermost_tail_iff.mp h) not_isOutermost_empty
      | zero =>
        rw [hmem]
        cases b with
        | nil =>
          -- the node itself is entered and so gets no edit
          refine ⟨fun h => absurd h hnil, ?_⟩
          rintro ⟨m, h⟩
          obtain ⟨-, hn⟩ := isOutermost_head_iff.mp h
          rw [hv] at hn
          cases hn
        | cons j b => simp only [hinside.outermost, isOutermost_head_inside_iff, hv, true_and]
  · intro a e h
    obtain ⟨⟨b, e'⟩, hmem', heq⟩ := List.mem_map.mp h
    obtain ⟨rfl, rfl⟩ := Prod.mk.inj heq
    cases b with
    | nil => exact absurd (List.mem_map.mpr ⟨([], e'), hmem', rfl⟩) hnil
    | cons j b => exact hinside.extended (j :: b) e' hmem'
  · intro a ha
    rw [haddresses] at ha
    rcases a with _ | ⟨i, b⟩
    · rfl
    · cases i with
      | succ i => rfl
      | zero =>
        cases b with
        | nil =>
          -- other nodes are inside it afterwards, but as many as before
          simp only [at?_head, Option.map_some, Node.label, Node.specifier_withInside,
            Node.inside_withInside, hlength]
          rfl
        | cons j b => exact hinside.kept (j :: b) (mt (hmem (j :: b)).mpr ha)

/-- On the way to a node whose verdict asks for it, the node included, there is an outermost such
node (`IsOutermost`): the first one from outside. -/
theorem exists_isOutermost {program : Program} {a : Address} {n : Node}
    (ha : program.at? a = some n)
    (hn : (rules.classify n).rewrites) :
    ∃ b m, b <+: a ∧ program.IsOutermost rules b m := by
  -- by induction on the length of the way: each such node around the last one shortens it
  induction hlength : a.length using Nat.strongRecOn generalizing a n with
  | ind k ih =>
    by_cases habove : ∀ b m, b <+: a → b ≠ a → program.at? b = some m →
        (rules.classify m).rewrites = false
    · exact ⟨a, n, List.prefix_rfl, ha, hn, habove⟩
    · push Not at habove
      obtain ⟨b, m, hb, hne, hm, hrewrites⟩ := habove
      have hshorter : b.length < k := by
        rw [← hlength]
        exact Nat.lt_of_le_of_ne hb.length_le fun h => hne (hb.eq_of_length h)
      obtain ⟨c, o, hc, ho⟩ := ih b.length hshorter hm (by simpa using hrewrites) rfl
      exact ⟨c, o, hc.trans hb, ho⟩

/-- An edit is about an outermost node, and tells how its literal was rewritten. This joins the
fields `outermost` and `extended`. -/
theorem Edited.outermost_of_mem {program program' : Program} {placed : List (Address × Edit)}
    {a : Address} {e : Edit} (h : program.Edited rules source program' placed)
    (he : (a, e) ∈ placed) :
    ∃ n l, program.IsOutermost rules a n ∧ n.specifier = .literal l ∧ e.IsOf rules source n l := by
  obtain ⟨n, l, hn, hl, hof, -⟩ := h.extended a e he
  obtain ⟨m, hm⟩ := (h.outermost a).mp (List.mem_map.mpr ⟨(a, e), he, rfl⟩)
  obtain rfl := Option.some.inj (hm.at_eq.symm.trans hn)
  exact ⟨m, l, hm, hl, hof⟩

/-- An outermost node has an edit: none is left out. -/
theorem Edited.exists_edit {program program' : Program} {placed : List (Address × Edit)}
    {a : Address} {n : Node} (h : program.Edited rules source program' placed)
    (hn : program.IsOutermost rules a n) : ∃ e, (a, e) ∈ placed := by
  obtain ⟨⟨a', e⟩, he, rfl⟩ := List.mem_map.mp ((h.outermost a).mpr ⟨n, hn⟩)
  exact ⟨e, he⟩

/-- No edit is about a node inside another one with an edit, as the address of the outer one would
be `above` the inner one. -/
theorem Edited.eq_of_prefix {program program' : Program} {placed : List (Address × Edit)}
    {a b : Address} {e e' : Edit} (h : program.Edited rules source program' placed)
    (he : (a, e) ∈ placed) (he' : (b, e') ∈ placed) (hba : b <+: a) : b = a := by
  obtain ⟨n, -, hn, -⟩ := h.outermost_of_mem he
  obtain ⟨m, -, hm, -⟩ := h.outermost_of_mem he'
  by_contra hne
  have hkept := hn.above b m hba hne hm.at_eq
  rw [hm.rewrites] at hkept
  cases hkept

/-- A walk edits the outermost nodes and no other. The induction follows `Walks`, whose rules are
`Edited.of_rewrites` and `Edited.of_inside`, each followed by `Edited.cons`. -/
theorem Walks.edited {nodes nodes' : List Node} {edits : List Edit}
    (h : Walks rules source nodes nodes' edits) :
    ∃ placed : List (Address × Edit), placed.map Prod.snd = edits ∧
      Edited rules source nodes nodes' placed := by
  induction h with
  | nil => exact ⟨[], rfl, .nil⟩
  | @rewritten n l e rest rest' es hv hl he _ ih =>
    obtain ⟨placed, rfl, hrest⟩ := ih
    refine ⟨_, ?_, (Edited.of_rewrites hv hl he).cons hrest⟩
    rw [List.singleton_append, List.map_cons, List.map_map]
    rfl
  | @kept n inside rest rest' es es' hv hwalk _ ihInside ihRest =>
    obtain ⟨placed, rfl, hinside⟩ := ihInside
    obtain ⟨placed', rfl, hrest⟩ := ihRest
    refine ⟨_, ?_, (Edited.of_inside hv hinside hwalk.length_eq).cons hrest⟩
    simp only [List.map_append, List.map_map]
    rfl

/-- **Exactly the outermost nodes are edited.** When a program can be rewritten, its edits belong
one to one to the outermost nodes (`IsOutermost`) whose verdict asks for it, at any depth; each
tells the kind, verdict, place and text of its node (`Edited`, `Edit.IsOf`), and the program
afterwards has the extended literal there and is the same elsewhere. The edits are sorted by the
start of their places. As long as no two of them start at the same place, nothing of this depends on
the order in which the nodes are visited (`Visits`). -/
theorem rewritten_outermost {program program' : Program} {edits : List Edit}
    (h : program.rewritten rules source = some (program', edits)) :
    (∃ placed : List (Address × Edit), (placed.map Prod.snd).Perm edits ∧
      program.Edited rules source program' placed) ∧
    edits.Pairwise (fun a b => a.span.start ≤ b.span.start) ∧
    ((edits.map fun e => e.span.start).Nodup →
      ∀ outcome, Visits rules source program outcome →
        outcome.map (fun r => (r.1, stableSort Edit.startsBefore r.2))
          = some (program', edits)) := by
  refine ⟨?_, rewritten_pairwise h, fun hstarts outcome hvisit => hvisit.map_sorted h hstarts⟩
  obtain ⟨es, hwalk, rfl⟩ := rewritten_eq_some_iff.mp h
  obtain ⟨placed, rfl, hedited⟩ := hwalk.edited
  exact ⟨placed, (stableSort_perm _ _).symm, hedited⟩

/-- An import in an exported function is edited, but not the one in its argument. Visiting the last
node first leads to the same edits. -/
theorem rewritten_outermost_last_first :
    let rules : Rules := ⟨[], [], true⟩
    let source := "export let f=()=>import('./b',import('./c'));import'./a'".toList
    let inner : Node :=
      .mk .dynamicImport 30 (.literal ⟨"./c".toList, ⟨37, 42⟩, some "'./c'".toList⟩) []
    let outer : Node :=
      .mk .dynamicImport 17 (.literal ⟨"./b".toList, ⟨24, 29⟩, some "'./b'".toList⟩) [inner]
    let last : Node :=
      .mk .importDeclaration 45 (.literal ⟨"./a".toList, ⟨51, 56⟩, some "'./a'".toList⟩) []
    let program : Program := [.mk .exportNamed 0 .absent [outer], last]
    ∃ program' edits, program.rewritten rules source = some (program', edits) ∧
      edits.map (fun e => e.span.start) = [24, 51] ∧
      (∃ placed : List (Address × Edit), (placed.map Prod.snd).Perm edits ∧
        program.Edited rules source program' placed) ∧
      ∃ visited found, Visits rules source program (some (visited, found)) ∧
        found.map (fun e => e.span.start) = [51, 24] ∧
        visited = program' ∧ stableSort Edit.startsBefore found = edits := by
  intro rules source inner outer last program
  have hsome : (program.rewritten rules source).isSome := by decide +kernel
  obtain ⟨⟨program', edits⟩, h⟩ := Option.isSome_iff_exists.mp hsome
  have hstarts : (program.rewritten rules source).map (fun r => r.2.map fun e => e.span.start)
      = some [24, 51] := by decide +kernel
  rw [h, Option.map_some] at hstarts
  replace hstarts := Option.some.inj hstarts
  obtain ⟨hplaced, -, horder⟩ := rewritten_outermost h
  have hvisit : ∃ outcome, Visits rules source program outcome ∧
      outcome.map (fun r => r.2.map fun e => e.span.start) = some [51, 24] := by
    have houter : Visits rules source [outer] _ :=
      .rewritten [] [] outer (by decide +kernel) rfl .nil
    have hfirst : Visits rules source [.mk .exportNamed 0 .absent [outer]] _ :=
      .kept [] [] (.mk .exportNamed 0 .absent [outer]) (by decide +kernel) houter .nil
    refine ⟨_, .rewritten [.mk .exportNamed 0 .absent [outer]] [] last (by decide +kernel) rfl
      hfirst, ?_⟩
    decide +kernel
  obtain ⟨outcome, hvisit, hfound⟩ := hvisit
  have hsame := horder (by rw [hstarts]; decide) outcome hvisit
  obtain ⟨⟨visited, found⟩, rfl, hpair⟩ := Option.map_eq_some_iff.mp hsame
  obtain ⟨hvisited, hsorted⟩ := Prod.mk.inj hpair
  exact ⟨program', edits, h, hstarts, hplaced, visited, found, hvisit,
    Option.some.inj hfound, hvisited, hsorted⟩

end Program

end DotJs
