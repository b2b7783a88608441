import DotJs.Rules

/-!
# Addresses in a program

A program is a forest, so a node of it has an `Address`: the number of an outermost node,
the number of one of the nodes inside that, and so on. `Program.at?` is the node at an
address.

`Program.IsOutermost` says which nodes are to be rewritten: those whose verdict asks for it,
provided that no node around them is one of these. The lemmas on it follow an address from its
first number on, which is how a walk through the program meets it.

`Program.induction` is the induction on forests that everything about walks uses: on the
nodes inside the first node and on the nodes behind it.
-/

namespace DotJs

/-- Induction on forests: on the nodes `inside` the first node and on the nodes behind it. The
recursor of `Node` has a motive for single nodes as well, which no statement about walks has a use
for. -/
theorem Program.induction {motive : List Node → Prop} (nil : motive [])
    (cons : ∀ n rest, motive n.inside → motive rest → motive (n :: rest)) :
    ∀ nodes, motive nodes
  | [] => nil
  | .mk kind start specifier inside :: rest =>
    cons (.mk kind start specifier inside) rest (Program.induction nil cons inside)
      (Program.induction nil cons rest)

/-! ## The node at an address -/

/-- The way to a node from outside: its number among its neighbours on each level. Two nodes that
look the same have different addresses, so statements about “this node” are made with them. -/
abbrev Address := List Nat

/-- The node at an `Address` that starts inside a node. The empty address is that of the node
itself. -/
def Node.at? : Node → Address → Option Node
  | n, [] => some n
  | n, i :: rest => n.inside[i]?.bind fun m => m.at? rest

/-- The node of a program at an address, by way of `Node.at?`. No node is at the empty address, as a
program is a forest and has no root. -/
def Program.at? (program : Program) : Address → Option Node
  | [] => none
  | i :: rest => program[i]?.bind fun n => n.at? rest

namespace Program

@[simp] theorem at?_empty (a : Address) : Program.at? [] a = none := by
  cases a with
  | nil => rfl
  | cons i a => rfl

@[simp] theorem at?_head (n : Node) (rest : List Node) :
    Program.at? (n :: rest) [0] = some n := rfl

end Program

/-! ## Outermost places -/

/-- Whether a node at an address is to be rewritten: its verdict asks for it, and that of no node
around it does. `Node.rewritten` does not enter a node that it rewrites, so these are the nodes that
get an edit. -/
structure Program.IsOutermost (rules : Rules) (program : Program) (a : Address) (n : Node) :
    Prop where
  /-- the node is at the address -/
  at_eq : program.at? a = some n
  /-- its verdict asks for it -/
  rewrites : (rules.classify n).rewrites
  /-- the address does not lead through another such node -/
  above : ∀ b m, b <+: a → b ≠ a → program.at? b = some m → (rules.classify m).rewrites = false

/-- A verdict asks only for literals to be rewritten, never for a specifier that is `computed` or
`absent`. -/
theorem Rules.literal_of_rewrites {rules : Rules} {n : Node}
    (h : (rules.classify n).rewrites) : ∃ l, n.specifier = .literal l := by
  simp only [Rules.classify] at h
  split at h
  · cases h
  · simp only [Rules.classifySpecifier] at h
    split at h
    · cases h
    · cases h
    · next l hl => exact ⟨l, hl⟩

namespace Program

variable {rules : Rules} {n m : Node} {rest : List Node} {i : Nat} {a : Address}

theorem not_isOutermost_nil {program : Program} : ¬program.IsOutermost rules [] m :=
  fun h => nomatch h.at_eq

theorem not_isOutermost_empty : ¬Program.IsOutermost rules [] a m := fun h => by
  have := h.at_eq
  rw [at?_empty] at this
  cases this

/-- The first node `n` is outermost just when its verdict asks for it, since there is no node around
it. -/
theorem isOutermost_head_iff :
    Program.IsOutermost rules (n :: rest) [0] m ↔ m = n ∧ (rules.classify n).rewrites := by
  constructor
  · intro h
    obtain rfl : n = m := Option.some.inj h.at_eq
    exact ⟨rfl, h.rewrites⟩
  · rintro ⟨rfl, hn⟩
    refine ⟨rfl, hn, fun b k hb hne hk => ?_⟩
    cases b with
    | nil => cases hk
    | cons j b =>
      obtain ⟨rfl, hb'⟩ := List.cons_prefix_cons.mp hb
      rw [List.prefix_nil.mp hb'] at hne
      exact absurd rfl hne

/-- Inside the first node there are outermost nodes only if it is not to be rewritten; then they are
those of the forest `n.inside`. -/
theorem isOutermost_head_inside_iff :
    Program.IsOutermost rules (n :: rest) (0 :: i :: a) m ↔
      (rules.classify n).rewrites = false ∧ Program.IsOutermost rules n.inside (i :: a) m := by
  constructor
  · intro h
    have hn : (rules.classify n).rewrites = false :=
      h.above [0] n (List.prefix_append [0] (i :: a)) (by simp) rfl
    refine ⟨hn, h.at_eq, h.rewrites, fun b k hb hne hk => ?_⟩
    cases b with
    | nil => cases hk
    | cons j b =>
      exact h.above (0 :: j :: b) k (List.cons_prefix_cons.mpr ⟨rfl, hb⟩)
        (fun he => hne (List.cons.inj he).2) hk
  · rintro ⟨hn, h⟩
    refine ⟨h.at_eq, h.rewrites, fun b k hb hne hk => ?_⟩
    cases b with
    | nil => cases hk
    | cons j b =>
      obtain ⟨rfl, hb'⟩ := List.cons_prefix_cons.mp hb
      -- on the way there is the first node itself, and what lies inside it
      cases b with
      | nil =>
        obtain rfl : n = k := Option.some.inj hk
        exact hn
      | cons j' b =>
        exact h.above (j' :: b) k hb' (fun he => hne (by rw [he])) hk

/-- Behind the first node, the outermost nodes are those of the nodes `rest` behind it, with one
less as their first number. -/
theorem isOutermost_tail_iff :
    Program.IsOutermost rules (n :: rest) ((i + 1) :: a) m ↔
      Program.IsOutermost rules rest (i :: a) m := by
  constructor
  · intro h
    refine ⟨h.at_eq, h.rewrites, fun b k hb hne hk => ?_⟩
    cases b with
    | nil => cases hk
    | cons j b =>
      obtain ⟨rfl, hb'⟩ := List.cons_prefix_cons.mp hb
      exact h.above ((j + 1) :: b) k (List.cons_prefix_cons.mpr ⟨rfl, hb'⟩)
        (fun he => hne (by rw [(List.cons.inj he).2])) hk
  · intro h
    refine ⟨h.at_eq, h.rewrites, fun b k hb hne hk => ?_⟩
    cases b with
    | nil => cases hk
    | cons j b =>
      obtain ⟨rfl, hb'⟩ := List.cons_prefix_cons.mp hb
      exact h.above (i :: b) k (List.cons_prefix_cons.mpr ⟨rfl, hb'⟩)
        (fun he => hne (by rw [(List.cons.inj he).2])) hk

end Program

end DotJs
