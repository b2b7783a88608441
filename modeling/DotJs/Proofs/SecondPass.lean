import DotJs.Proofs.AddedExtension
import DotJs.Proofs.OnlyInserts

/-!
# What one pass leaves to do

A text that was rewritten is read and rewritten once more. Whether anything changes then can be
told from the program before the first pass.

* `Program.IsQuiet` says that a pass has nothing to do (`Program.Walks.edits_eq_nil_iff`);
* `Program.Settles` says that it leaves nothing to do: no specifier that gets an extension asks for
  another one, and no node that is to be rewritten stands inside another such node.
  `Program.Walks.isQuiet_iff` is the reason for both conditions.

The second pass sees the text and not the program that the first one has left. What is needed of
reading is that it finds the same kinds and specifiers in both (`Source.Rereads`).
-/

namespace DotJs

variable {rules : Rules} {source : Text} {language : Language}

/-! ## Passes over a program -/

/-- Whether a node that gets an extension leaves nothing to do. Both conditions can fail by design:
a slash or a force rule makes a specifier ask again, and a rewritten node is not entered. -/
structure Node.Settles (rules : Rules) (n : Node) : Prop where
  /-- its specifier does not ask for another one -/
  specifier : ∀ l ∈ n.specifier.literal?, rules.asksAgain l.value = false
  /-- nothing inside it is to be rewritten -/
  inside : ∀ m ∈ Program.nodes n.inside, (rules.classify m).rewrites = false

instance (rules : Rules) (n : Node) : Decidable (n.Settles rules) :=
  decidable_of_iff
    ((∀ l ∈ n.specifier.literal?, rules.asksAgain l.value = false) ∧
      ∀ m ∈ Program.nodes n.inside, (rules.classify m).rewrites = false)
    ⟨fun h => ⟨h.1, h.2⟩, fun h => ⟨h.specifier, h.inside⟩⟩

namespace Program

/-- Whether nothing in a program is to be rewritten, at any depth (`nodes`). -/
def IsQuiet (rules : Rules) (program : Program) : Prop :=
  ∀ n ∈ nodes program, (rules.classify n).rewrites = false

/-- Whether a pass over a program leaves nothing to do, told by the program before the pass: all
that is rewritten settles (`Node.Settles`). -/
def Settles (rules : Rules) (program : Program) : Prop :=
  ∀ n ∈ nodes program, (rules.classify n).rewrites → n.Settles rules

instance (rules : Rules) (program : Program) : Decidable (program.Settles rules) :=
  inferInstanceAs (Decidable (∀ n ∈ nodes program, (rules.classify n).rewrites → n.Settles rules))

theorem nodes_cons (n : Node) (rest : List Node) :
    nodes (n :: rest) = n :: (nodes n.inside ++ nodes rest) := by
  obtain ⟨kind, start, specifier, inside⟩ := n
  rw [nodes, Node.all]
  rfl

theorem isQuiet_cons {n : Node} {rest : List Node} :
    IsQuiet rules (n :: rest) ↔
      (rules.classify n).rewrites = false ∧ IsQuiet rules n.inside ∧ IsQuiet rules rest := by
  unfold IsQuiet
  rw [nodes_cons, List.forall_mem_cons, List.forall_mem_append]

theorem settles_cons {n : Node} {rest : List Node} :
    Settles rules (n :: rest) ↔
      ((rules.classify n).rewrites → n.Settles rules) ∧ Settles rules n.inside ∧
        Settles rules rest := by
  unfold Settles
  rw [nodes_cons, List.forall_mem_cons, List.forall_mem_append]

theorem IsQuiet.settles {program : Program} (h : program.IsQuiet rules) :
    program.Settles rules := by
  intro n hn hv
  rw [h n hn] at hv
  cases hv

/-- A walk makes no edit just when nothing is to be rewritten (`IsQuiet`). A node inside a rewritten
one does not count, but then the outer one has an edit. -/
theorem Walks.edits_eq_nil_iff {nodes nodes' : List Node} {edits : List Edit}
    (h : Walks rules source nodes nodes' edits) : edits = [] ↔ IsQuiet rules nodes := by
  induction h with
  | nil => exact ⟨fun _ n hn => absurd hn List.not_mem_nil, fun _ => rfl⟩
  | rewritten hv =>
    rw [isQuiet_cons, hv]
    constructor
    · intro hnil
      cases hnil
    · rintro ⟨hkeeps, -⟩
      cases hkeeps
  | kept hv _ _ ihInside ihRest =>
    rw [isQuiet_cons, List.append_eq_nil_iff, ihInside, ihRest]
    exact ⟨fun h => ⟨hv, h⟩, fun h => h.2⟩

/-- **A walk leaves nothing to do** just when the program settles. The induction follows `Walks`: a
rewritten node is where `Node.Settles` is needed, a kept one stays as it was. -/
theorem Walks.isQuiet_iff {nodes nodes' : List Node} {edits : List Edit}
    (h : Walks rules source nodes nodes' edits) : IsQuiet rules nodes' ↔ Settles rules nodes := by
  induction h with
  | nil => exact ⟨IsQuiet.settles, fun _ n hn => absurd hn List.not_mem_nil⟩
  | @rewritten n l e rest rest' es hv hl _ _ ih =>
    have hagain : (rules.classify (n.withLiteral (l.extendedBy e))).rewrites = false ↔
        rules.asksAgain l.value = false := by
      rw [← Bool.not_eq_true, ← Bool.not_eq_true, Rules.rewrites_withLiteral_iff e hv]
    have hn : n.Settles rules ↔ rules.asksAgain l.value = false ∧ IsQuiet rules n.inside := by
      constructor
      · intro h
        exact ⟨h.specifier l (by rw [hl]; rfl), h.inside⟩
      · rintro ⟨hlast, hinside⟩
        refine ⟨fun l' hl' => ?_, hinside⟩
        rw [hl] at hl'
        obtain rfl : l = l' := Option.some.inj hl'
        exact hlast
    have hinside : (n.withLiteral (l.extendedBy e)).inside = n.inside := rfl
    rw [isQuiet_cons, settles_cons, hagain, hinside, ih, hn]
    constructor
    · rintro ⟨hlast, hquiet, hrest⟩
      exact ⟨fun _ => ⟨hlast, hquiet⟩, hquiet.settles, hrest⟩
    · rintro ⟨hn, -, hrest⟩
      exact ⟨(hn hv).1, (hn hv).2, hrest⟩
  | @kept n inside rest rest' es es' hv _ _ ihInside ihRest =>
    -- a node that is kept has its old verdict
    have hsame : rules.classify (n.withInside inside) = rules.classify n :=
      Rules.classify_congr rfl rfl
    rw [isQuiet_cons, settles_cons, hsame, hv, Node.inside_withInside, ihInside, ihRest]
    constructor
    · rintro ⟨-, hboth⟩
      exact ⟨fun hv' => (Bool.false_ne_true hv').elim, hboth⟩
    · rintro ⟨-, hboth⟩
      exact ⟨rfl, hboth⟩

/-- A pass (`Program.rewritten`) makes no edit just when nothing is to be rewritten. -/
theorem rewritten_edits_eq_nil_iff {program program' : Program} {edits : List Edit}
    (h : program.rewritten rules source = some (program', edits)) :
    edits = [] ↔ program.IsQuiet rules := by
  obtain ⟨es, hwalk, rfl⟩ := rewritten_eq_some_iff.mp h
  rw [← hwalk.edits_eq_nil_iff, ← List.length_eq_zero_iff,
    (stableSort_perm Edit.startsBefore es).length_eq, List.length_eq_zero_iff]

/-- A pass leaves a quiet program just when the program before it settles (`Settles`). -/
theorem rewritten_isQuiet_iff {program program' : Program} {edits : List Edit}
    (h : program.rewritten rules source = some (program', edits)) :
    program'.IsQuiet rules ↔ program.Settles rules := by
  obtain ⟨es, hwalk, -⟩ := rewritten_eq_some_iff.mp h
  exact hwalk.isQuiet_iff

end Program

/-! ## Kinds and specifiers -/

/-- A `Specifier` without the place at which it stands: places differ when a text is read again, and
the verdict does not look at them. -/
def Specifier.unplaced : Specifier → Specifier
  | .literal l => .literal ⟨l.value, ⟨0, 0⟩, none⟩
  | specifier => specifier

namespace Program

/-- What a program says about other modules: the kinds of its nodes and how they name their modules
(`unplaced`), wherever that stands in the source. -/
def mentions (program : Program) : List (ModuleKind × Specifier) :=
  (nodes program).map fun n => (n.kind, n.specifier.unplaced)

/-- A program is quiet when what it says about other modules is, by `classify_congr`. -/
theorem isQuiet_iff_mentions {program : Program} :
    program.IsQuiet rules ↔
      ∀ m ∈ program.mentions, (rules.classify (.mk m.1 0 m.2 [])).rewrites = false := by
  have hsame : ∀ n : Node, rules.classify (.mk n.kind 0 n.specifier.unplaced []) =
      rules.classify n := by
    intro n
    unfold Rules.classify
    cases hs : n.specifier <;> simp only [Node.kind, Node.specifier] <;> rfl
  unfold IsQuiet mentions
  simp only [List.forall_mem_map, hsame]

end Program

/-! ## Reading again -/

namespace Source

/-- Whether a text is read as a program that says the same about other modules, by
`Program.mentions`. -/
def ReadsAs (language : Language) (text : Text) (program : Program) : Prop :=
  (parse language text).map Program.mentions = some program.mentions

instance (language : Language) (text : Text) (program : Program) :
    Decidable (ReadsAs language text program) :=
  inferInstanceAs (Decidable ((parse language text).map Program.mentions = some program.mentions))

/-- A program and its text, both rewritten. It is `rewriteSource` with the program kept, if the text
is one. -/
def rewritten? (rules : Rules) (language : Language) (text : Text) : Option (Program × Text) := do
  let program ← parse language text
  let (program, edits) ← program.rewritten rules text
  let code ← spliced text edits
  return (program, code)

/-- Whether a text, once it is rewritten, is read as its rewritten program (`ReadsAs`). It is what a
second pass needs of a parser, and can be evaluated for a given text. -/
def Rereads (rules : Rules) (language : Language) (text : Text) : Prop :=
  ∀ r ∈ rewritten? rules language text, ReadsAs language r.2 r.1

instance (rules : Rules) (language : Language) (text : Text) :
    Decidable (Rereads rules language text) :=
  inferInstanceAs (Decidable (∀ r ∈ rewritten? rules language text, ReadsAs language r.2 r.1))

/-- Whether a pass over a text leaves nothing to do, if it is a program (`Program.Settles`). -/
def Settles (rules : Rules) (language : Language) (text : Text) : Prop :=
  ∀ program ∈ parse language text, program.Settles rules

instance (rules : Rules) (language : Language) (text : Text) :
    Decidable (Settles rules language text) :=
  inferInstanceAs (Decidable (∀ program ∈ parse language text, program.Settles rules))

end Source

/-- **The second pass** over a text that is read again as its rewritten program (`Source.Rereads`)
makes no edit just when the first one left nothing to do. -/
theorem rewriteSource_code_edits_eq_nil_iff {output : Output}
    (hreads : Source.Rereads rules language source)
    (h : rewriteSource rules language source = some output) :
    ∃ again, rewriteSource rules language output.code = some again ∧
      (again.edits = [] ↔ Source.Settles rules language source) := by
  obtain ⟨program, hparse, h⟩ := Option.bind_eq_some_iff.mp h
  obtain ⟨⟨program', edits⟩, hrewritten, h⟩ := Option.bind_eq_some_iff.mp h
  obtain ⟨code, hcode, h⟩ := Option.bind_eq_some_iff.mp h
  obtain rfl := Option.some.inj h
  have hboth : Source.rewritten? rules language source = some (program', code) := by
    simp only [Source.rewritten?]
    rw [hparse]
    change (program.rewritten rules source).bind _ = _
    rw [hrewritten]
    change (spliced source edits).bind _ = _
    rw [hcode]
    rfl
  -- the second pass sees another program, which says the same
  obtain ⟨read, hread, hsame⟩ := Option.map_eq_some_iff.mp (hreads _ hboth)
  have hplaced := Source.parse_isPlaced hread
  obtain ⟨read', edits', hagain⟩ := Program.exists_rewritten rules hplaced
  obtain ⟨code', hcode'⟩ := Program.exists_spliced hplaced hagain
  refine ⟨_, rewriteSource_eq_some hread hagain hcode', ?_⟩
  have hquiet : read.IsQuiet rules ↔ program'.IsQuiet rules := by
    rw [Program.isQuiet_iff_mentions, hsame, ← Program.isQuiet_iff_mentions]
  have hsettles : Source.Settles rules language source ↔ program.Settles rules := by
    unfold Source.Settles
    rw [hparse]
    exact ⟨fun h => h program rfl, fun h p hp => Option.some.inj hp ▸ h⟩
  rw [Program.rewritten_edits_eq_nil_iff hagain, hquiet,
    Program.rewritten_isQuiet_iff hrewritten, hsettles]

end DotJs
