import DotJs.Rewriting
import DotJs.Proofs.Address

/-!
# Walks through a program

What one step of rewriting does, and what follows for a whole walk.

* `Edit.IsOf` says of an edit what each of its fields tells about a node, and
  `Literal.rewritten_eq_some_iff` that a rewritten literal leaves just this edit behind;
* `Node.rewritten_of_rewrites` and `Node.rewritten_of_keeps` are the two ways in which a walk
  deals with a node;
* `Program.Walks` relates a forest to the forest and the edits that a walk through it leads to.
  It has one rule for a node that gets a new literal and one for a node that is entered, and
  `Program.rewrittenNodes_eq_some_iff` says that it is the function `rewrittenNodes`.

Induction on `Walks` is how everything about walks that come to their end is proved. As a
first instance, literals are rewritten in their order, each at most once (`Walks.sublist`).
-/

namespace DotJs

/-! ## One literal -/

/-- An edit that tells how the literal `l` of a node was rewritten. There is one field for each that
an edit has, so that an edit of a node is known by this alone (`Edit.IsOf.unique`). -/
structure Edit.IsOf (rules : Rules) (source : Text) (n : Node) (l : Literal) (e : Edit) :
    Prop where
  /-- it has the kind of the node -/
  kind : e.kind = n.kind
  /-- it has the verdict on the node -/
  verdict : e.verdict = rules.classify n
  /-- it has the quotes of the literal's text, and double ones when that is not known -/
  quote : e.quote = ((l.text? source).map QuoteStyle.ofRaw).getD .double
  /-- it has the place of the literal -/
  span : e.span = l.span
  /-- it has the line and the column at which the literal starts -/
  position : ⟨e.line, e.column⟩ = source.position l.span.start
  /-- it has the text of the literal, and the value when that is not known -/
  original : e.original = (l.text? source).getD l.value
  /-- what takes its place is the literal with the extension -/
  replacement : StringLiteral.extended (l.text? source) l.value e.quote = some e.replacement

/-- A literal with the extension behind its value, written as the edit has it (`replacement`). Its
span is the one it had: spans of a rewritten program still tell about the source before. -/
def Literal.extendedBy (l : Literal) (e : Edit) : Literal :=
  ⟨l.value ++ dotJs, l.span, some e.replacement⟩

/-- A literal is rewritten by adding to its value, and the edit tells how. After this,
`Literal.rewritten` need not be unfolded. -/
theorem Literal.rewritten_eq_some_iff {rules : Rules} {source : Text} {n : Node}
    {l l' : Literal} {e : Edit} :
    l.rewritten source n.kind (rules.classify n) = some (l', e) ↔
      e.IsOf rules source n l ∧ l' = l.extendedBy e := by
  constructor
  · intro h
    simp only [Literal.rewritten] at h
    split at h
    · cases h
    · next hr =>
      obtain ⟨rfl, rfl⟩ := Prod.mk.inj (Option.some.inj h)
      exact ⟨⟨rfl, rfl, rfl, rfl, rfl, rfl, hr⟩, rfl⟩
  · rintro ⟨⟨hkind, hverdict, hquote, hspan, hposition, horiginal, hreplacement⟩, rfl⟩
    obtain ⟨kind, verdict, quote, span, line, column, original, replacement⟩ := e
    dsimp only at *
    subst hkind hverdict hquote hspan horiginal
    simp only [Literal.rewritten]
    rw [hreplacement, ← hposition]
    rfl

/-- The verdict is all that an edit tells about the rules, so rules that agree on a node have the
same edits of it. -/
theorem Edit.IsOf.of_classify_eq {rules rules' : Rules} {source : Text} {n : Node} {l : Literal}
    {e : Edit} (he : e.IsOf rules source n l) (h : rules'.classify n = rules.classify n) :
    e.IsOf rules' source n l :=
  { he with verdict := he.verdict.trans h.symm }

/-- A literal can be rewritten in one way only: each field of `Edit.IsOf` is given by the node, the
rules and the source. -/
theorem Edit.IsOf.unique {rules : Rules} {source : Text} {n : Node} {l : Literal} {e e' : Edit}
    (he : e.IsOf rules source n l) (he' : e'.IsOf rules source n l) : e = e' := by
  have hr := Literal.rewritten_eq_some_iff.mpr ⟨he, rfl⟩
  have hr' := Literal.rewritten_eq_some_iff.mpr ⟨he', rfl⟩
  exact (Prod.mk.inj (Option.some.inj (hr.symm.trans hr'))).2

/-! ## One node -/

/-- A node with another literal, which is what `Node.rewritten` makes of a node whose verdict asks
for it. -/
def Node.withLiteral (n : Node) (l : Literal) : Node := .mk n.kind n.start (.literal l) n.inside

/-- A node with other nodes inside it, which is what `Node.rewritten` makes of a node that is
entered. -/
def Node.withInside (n : Node) (inside : List Node) : Node :=
  .mk n.kind n.start n.specifier inside

@[simp] theorem Node.inside_withInside (n : Node) (inside : List Node) :
    (n.withInside inside).inside = inside := rfl

@[simp] theorem Node.specifier_withInside (n : Node) (inside : List Node) :
    (n.withInside inside).specifier = n.specifier := rfl

variable {rules : Rules} {source : Text}

/-- A node whose verdict asks for it gets a new literal, and is not entered: its `inside` stays as
it is. -/
theorem Node.rewritten_of_rewrites {n : Node} {l : Literal} (hl : n.specifier = .literal l)
    (hn : (rules.classify n).rewrites) :
    n.rewritten rules source
      = (l.rewritten source n.kind (rules.classify n)).map fun r => (n.withLiteral r.1, [r.2]) := by
  obtain ⟨kind, start, specifier, inside⟩ := n
  obtain rfl : specifier = .literal l := hl
  rw [Node.rewritten, if_pos hn]
  rcases hr : l.rewritten source kind _ with _ | ⟨l', e⟩
  · change l.rewritten source kind _ = none at hr
    simp only [Node.kind, hr, Option.map_none]
  · change l.rewritten source kind _ = some (l', e) at hr
    simp only [Node.kind, hr, Option.map_some]
    rfl

/-- Any other node is kept, and the forest `inside` it is walked through. -/
theorem Node.rewritten_of_keeps {n : Node} (hn : (rules.classify n).rewrites = false) :
    n.rewritten rules source
      = (Program.rewrittenNodes rules source n.inside).map fun r => (n.withInside r.1, r.2) := by
  obtain ⟨kind, start, specifier, inside⟩ := n
  cases specifier with
  | literal l =>
    rw [Node.rewritten, if_neg (by rw [hn]; exact Bool.false_ne_true)]
    simp only [Node.inside]
    cases Program.rewrittenNodes rules source inside with
    | none => rfl
    | some r => rfl
  | absent =>
    rw [Node.rewritten]
    · simp only [Node.inside]
      cases Program.rewrittenNodes rules source inside with
      | none => rfl
      | some r => rfl
    · intro l hl
      cases hl
  | computed =>
    rw [Node.rewritten]
    · simp only [Node.inside]
      cases Program.rewrittenNodes rules source inside with
      | none => rfl
      | some r => rfl
    · intro l hl
      cases hl

/-! ## A whole walk -/

namespace Program

/-- A walk through a forest that comes to its end: the forest before, the forest after, and the
edits in the order in which they were made. It has one rule for each of the two things that can be
done with a node, where `rewrittenNodes` goes through `Option` and is recursive in two ways at
once. -/
inductive Walks (rules : Rules) (source : Text) : List Node → List Node → List Edit → Prop
  /-- there is nothing to do in an empty forest -/
  | nil : Walks rules source [] [] []
  /-- the first node gets a new literal -/
  | rewritten {n : Node} {l : Literal} {e : Edit} {rest rest' : List Node} {es : List Edit}
      (hv : (rules.classify n).rewrites) (hl : n.specifier = .literal l)
      (he : e.IsOf rules source n l) (hrest : Walks rules source rest rest' es) :
      Walks rules source (n :: rest) (n.withLiteral (l.extendedBy e) :: rest') (e :: es)
  /-- the first node is kept, and the nodes inside it are walked through -/
  | kept {n : Node} {inside rest rest' : List Node} {es es' : List Edit}
      (hv : (rules.classify n).rewrites = false) (hinside : Walks rules source n.inside inside es)
      (hrest : Walks rules source rest rest' es') :
      Walks rules source (n :: rest) (n.withInside inside :: rest') (es ++ es')

theorem rewrittenNodes_cons_eq_some {n : Node} {rest nodes : List Node} {edits : List Edit}
    (h : rewrittenNodes rules source (n :: rest) = some (nodes, edits)) :
    ∃ n' es rest' es', n.rewritten rules source = some (n', es) ∧
      rewrittenNodes rules source rest = some (rest', es') ∧
      nodes = n' :: rest' ∧ edits = es ++ es' := by
  rw [rewrittenNodes] at h
  rcases hn : n.rewritten rules source with _ | ⟨n', es⟩
  · rw [hn] at h
    cases h
  · rw [hn] at h
    rcases hrest : rewrittenNodes rules source rest with _ | ⟨rest', es'⟩
    · rw [hrest] at h
      cases h
    · rw [hrest] at h
      obtain ⟨rfl, rfl⟩ := Prod.mk.inj (Option.some.inj h)
      exact ⟨n', es, rest', es', rfl, rfl, rfl, rfl⟩

/-- What `rewrittenNodes` leads to is what `Walks` lead to, so that induction on walks proves facts
about the function. -/
theorem rewrittenNodes_eq_some_iff {nodes nodes' : List Node} {edits : List Edit} :
    rewrittenNodes rules source nodes = some (nodes', edits) ↔
      Walks rules source nodes nodes' edits := by
  constructor
  · intro h
    -- by induction on the nodes inside the first one and on those behind it
    induction nodes using Program.induction generalizing nodes' edits with
    | nil =>
      rw [rewrittenNodes] at h
      obtain ⟨rfl, rfl⟩ := Prod.mk.inj (Option.some.inj h)
      exact .nil
    | cons n rest ihInside ihRest =>
      obtain ⟨n', es, rest', es', hn, hrest, rfl, rfl⟩ := rewrittenNodes_cons_eq_some h
      cases hv : (rules.classify n).rewrites with
      | true =>
        obtain ⟨l, hl⟩ := Rules.literal_of_rewrites hv
        rw [Node.rewritten_of_rewrites hl hv] at hn
        obtain ⟨⟨l', e⟩, hr, heq⟩ := Option.map_eq_some_iff.mp hn
        obtain ⟨rfl, rfl⟩ := Prod.mk.inj heq
        obtain ⟨he, rfl⟩ := Literal.rewritten_eq_some_iff.mp hr
        exact .rewritten hv hl he (ihRest hrest)
      | false =>
        rw [Node.rewritten_of_keeps hv] at hn
        obtain ⟨⟨inside, es⟩, hinside, heq⟩ := Option.map_eq_some_iff.mp hn
        obtain ⟨rfl, rfl⟩ := Prod.mk.inj heq
        exact .kept hv (ihInside hinside) (ihRest hrest)
  · intro h
    induction h with
    | nil => rw [rewrittenNodes]
    | @rewritten n l e rest rest' es hv hl he _ ih =>
      have hr := Literal.rewritten_eq_some_iff.mpr ⟨he, rfl⟩
      rw [rewrittenNodes, Node.rewritten_of_rewrites hl hv, hr, ih]
      rfl
    | @kept n inside rest rest' es es' hv _ _ ihInside ihRest =>
      rw [rewrittenNodes, Node.rewritten_of_keeps hv, ihInside, ihRest]
      rfl

/-- The literals of a forest: that of its first node, those inside it and those behind it. This is
the order in which a walk meets them. -/
theorem literals_cons (n : Node) (rest : List Node) :
    literals (n :: rest) = n.specifier.literal?.toList ++ literals n.inside ++ literals rest := by
  obtain ⟨kind, start, specifier, inside⟩ := n
  simp only [literals]
  rw [nodes, Node.all, List.filterMap_append, List.filterMap_cons]
  simp only [Node.specifier, Node.inside]
  cases specifier.literal? with
  | none => rfl
  | some l => rfl

/-- The literal of a node at an address is one of `literals`, the list that the conditions on a
parsed program are about. -/
theorem mem_literals_of_at? {nodes : List Node} {a : Address} {n : Node} {l : Literal}
    (hn : at? nodes a = some n) (hl : n.specifier = .literal l) : l ∈ literals nodes := by
  induction nodes using Program.induction generalizing a with
  | nil =>
    rw [at?_empty] at hn
    cases hn
  | cons m rest ihInside ihRest =>
    rw [literals_cons, List.mem_append, List.mem_append]
    match a, hn with
    | [0], hn =>
      obtain rfl : m = n := Option.some.inj hn
      rw [hl]
      exact .inl (.inl List.mem_cons_self)
    | 0 :: i :: a, hn => exact .inl (.inr (ihInside (a := i :: a) hn))
    | (i + 1) :: a, hn => exact .inr (ihRest (a := i :: a) hn)

/-- A walk rewrites some of the literals, in their order and each once. Apart literals therefore
have edits that are apart. -/
theorem Walks.sublist {nodes nodes' : List Node} {edits : List Edit}
    (h : Walks rules source nodes nodes' edits) :
    ∃ rewritten : List (Literal × Edit), rewritten.map Prod.snd = edits ∧
      (rewritten.map Prod.fst).Sublist (literals nodes) ∧
      ∀ r ∈ rewritten, ∃ n, r.2.IsOf rules source n r.1 := by
  induction h with
  | nil => exact ⟨[], rfl, .slnil, fun r hr => absurd hr List.not_mem_nil⟩
  | @rewritten n l e rest rest' es hv hl he _ ih =>
    obtain ⟨rs, rfl, hsub, hrs⟩ := ih
    refine ⟨(l, e) :: rs, rfl, ?_, fun r hmem => ?_⟩
    · rw [literals_cons, hl]
      exact (hsub.trans (List.sublist_append_right _ _)).cons_cons l
    · rcases List.mem_cons.mp hmem with rfl | hmem
      · exact ⟨n, he⟩
      · exact hrs r hmem
  | @kept n inside rest rest' es es' hv _ _ ihInside ihRest =>
    obtain ⟨rs, rfl, hsub, hrs⟩ := ihInside
    obtain ⟨rs', rfl, hsub', hrs'⟩ := ihRest
    refine ⟨rs ++ rs', List.map_append, ?_, fun r hmem => ?_⟩
    · rw [literals_cons, List.map_append]
      exact (hsub.trans (List.sublist_append_right _ _)).append hsub'
    · rcases List.mem_append.mp hmem with hmem | hmem
      · exact hrs r hmem
      · exact hrs' r hmem

theorem rewrittenNodes_cons_eq_none_iff {n : Node} {rest : List Node} :
    rewrittenNodes rules source (n :: rest) = none ↔
      n.rewritten rules source = none ∨ rewrittenNodes rules source rest = none := by
  rw [rewrittenNodes]
  cases n.rewritten rules source with
  | none => simp
  | some r =>
    cases rewrittenNodes rules source rest with
    | none => simp
    | some r' => simp

/-- A walk comes to no end just when it comes to an outermost node (`IsOutermost`) whose literal
cannot be rewritten. Literals inside or without a verdict that asks for them do no harm. -/
theorem rewrittenNodes_eq_none_iff {nodes : List Node} :
    rewrittenNodes rules source nodes = none ↔
      ∃ a n l, Program.IsOutermost rules nodes a n ∧ n.specifier = .literal l ∧
        l.rewritten source n.kind (rules.classify n) = none := by
  induction nodes using Program.induction with
  | nil =>
    rw [rewrittenNodes]
    refine ⟨nofun, ?_⟩
    rintro ⟨a, n, l, hn, -⟩
    exact absurd hn not_isOutermost_empty
  | cons n rest ihInside ihRest =>
    rw [rewrittenNodes_cons_eq_none_iff, ihRest]
    constructor
    · rintro (hfirst | ⟨a, m, l, hm, hl, hfails⟩)
      · cases hv : (rules.classify n).rewrites with
        | true =>
          obtain ⟨l, hl⟩ := Rules.literal_of_rewrites hv
          rw [Node.rewritten_of_rewrites hl hv, Option.map_eq_none_iff] at hfirst
          exact ⟨[0], n, l, isOutermost_head_iff.mpr ⟨rfl, hv⟩, hl, hfirst⟩
        | false =>
          rw [Node.rewritten_of_keeps hv, Option.map_eq_none_iff, ihInside] at hfirst
          obtain ⟨a, m, l, hm, hl, hfails⟩ := hfirst
          cases a with
          | nil => exact absurd hm not_isOutermost_nil
          | cons i a => exact ⟨_, m, l, isOutermost_head_inside_iff.mpr ⟨hv, hm⟩, hl, hfails⟩
      · cases a with
        | nil => exact absurd hm not_isOutermost_nil
        | cons i a => exact ⟨_, m, l, isOutermost_tail_iff.mpr hm, hl, hfails⟩
    · rintro ⟨a, m, l, hm, hl, hfails⟩
      match a, hm with
      | [], hm => exact absurd hm not_isOutermost_nil
      | [0], hm =>
        obtain ⟨rfl, hv⟩ := isOutermost_head_iff.mp hm
        left
        rw [Node.rewritten_of_rewrites hl hv, hfails, Option.map_none]
      | 0 :: i :: a, hm =>
        obtain ⟨hv, hm⟩ := isOutermost_head_inside_iff.mp hm
        left
        rw [Node.rewritten_of_keeps hv, ihInside.mpr ⟨_, m, l, hm, hl, hfails⟩, Option.map_none]
      | (i + 1) :: a, hm => exact .inr ⟨_, m, l, isOutermost_tail_iff.mp hm, hl, hfails⟩

/-- A walk comes to its end when every literal has a text to which the extension can be added,
whatever the rules. -/
theorem exists_rewrittenNodes (rules : Rules) (source : Text) {nodes : List Node}
    (h : ∀ l ∈ literals nodes, ∀ kind verdict, ∃ r, l.rewritten source kind verdict = some r) :
    ∃ nodes' edits, rewrittenNodes rules source nodes = some (nodes', edits) := by
  rcases hwalk : rewrittenNodes rules source nodes with _ | ⟨nodes', edits⟩
  · obtain ⟨a, n, l, hn, hl, hfails⟩ := rewrittenNodes_eq_none_iff.mp hwalk
    obtain ⟨r, hr⟩ := h l (mem_literals_of_at? hn.at_eq hl) n.kind (rules.classify n)
    rw [hr] at hfails
    cases hfails
  · exact ⟨nodes', edits, rfl⟩

end Program

end DotJs
