import Mathlib.Data.List.Nodup
import DotJs.Proofs.Placement

/-!
# Visiting the nodes in any order

A walk goes through neighbouring nodes from the first to the last. `Program.Visits` leaves the
order open: of the nodes that are still to be visited, any can be the next one, on every level of
the program. A visit may also come to no end, when a literal cannot be extended.

The order can show only in the order of the edits (`Visits.rel_rewrittenNodes`), and sorting
hides even that as long as no two edits start at the same place (`Visits.map_sorted`).
-/

namespace DotJs

/-- What visiting a forest leads to: the forest afterwards and the edits in the order in which they
were made, or nothing if some literal cannot be extended. It is what `rewrittenNodes` returns. -/
abbrev Program.Outcome := Option (List Node × List Edit)

/-- The outcome for a forest from those for its node number `i` and for the others: the node goes
back to its place, and its edits come first, since it was visited first. -/
def Program.Outcome.put (i : Nat) : Option (Node × List Edit) → Outcome → Outcome
  | some (n, es), some (nodes, es') => some (nodes.take i ++ n :: nodes.drop i, es ++ es')
  | _, _ => none

/-- A visit of all nodes of a forest, each once, but with no fixed order among neighbours. Unlike
`Walks` it also tells of visits that come to no end, so that no order of visits can hide a
failure. -/
inductive Program.Visits (rules : Rules) (source : Text) : List Node → Outcome → Prop
  /-- all nodes are visited -/
  | nil : Visits rules source [] (some ([], []))
  /-- the next node is one that gets a new literal, and it is not entered -/
  | rewritten (before behind : List Node) (n : Node) {l : Literal} {others : Outcome}
      (hv : (rules.classify n).rewrites) (hl : n.specifier = .literal l)
      (hothers : Visits rules source (before ++ behind) others) :
      Visits rules source (before ++ n :: behind)
        (.put before.length
          ((l.rewritten source n.kind (rules.classify n)).map fun r => (n.withLiteral r.1, [r.2]))
          others)
  /-- the next node is one that is kept, and those inside it are visited -/
  | kept (before behind : List Node) (n : Node) {inside others : Outcome}
      (hv : (rules.classify n).rewrites = false) (hinside : Visits rules source n.inside inside)
      (hothers : Visits rules source (before ++ behind) others) :
      Visits rules source (before ++ n :: behind)
        (.put before.length (inside.map fun r => (n.withInside r.1, r.2)) others)

namespace Program

variable {rules : Rules} {source : Text}

/-- Whether two results agree up to the order of the edits. It is used under `Option.Rel`, by which
visits without an end agree with each other only. -/
def SameButOrder {α : Type} (r s : α × List Edit) : Prop := r.1 = s.1 ∧ r.2.Perm s.2

theorem rel_put {i : Nat} {n m : Option (Node × List Edit)} {r s : Outcome}
    (hn : Option.Rel SameButOrder n m) (hr : Option.Rel SameButOrder r s) :
    Option.Rel SameButOrder (Outcome.put i n r) (Outcome.put i m s) := by
  cases hn with
  | none => exact .none
  | some hn =>
    cases hr with
    | none => exact .none
    | some hr =>
      refine .some ⟨?_, hn.2.append hr.2⟩
      rw [hn.1, hr.1]

theorem rel_trans {r s t : Outcome} (h : Option.Rel SameButOrder r s)
    (h' : Option.Rel SameButOrder s t) : Option.Rel SameButOrder r t := by
  cases h with
  | none => exact h'
  | some h =>
    cases h' with
    | some h' => exact .some ⟨h.1.trans h'.1, h.2.trans h'.2⟩

theorem rel_map {α : Type} {f : List Node → α} {r s : Outcome}
    (h : Option.Rel SameButOrder r s) :
    Option.Rel SameButOrder (r.map fun x => (f x.1, x.2)) (s.map fun x => (f x.1, x.2)) := by
  cases h with
  | none => exact .none
  | some h => exact .some ⟨congrArg f h.1, h.2⟩

theorem rel_refl {α : Type} (r : Option (α × List Edit)) : Option.Rel SameButOrder r r := by
  cases r with
  | none => exact .none
  | some r => exact .some ⟨rfl, .refl _⟩

/-! ## The walk from the first node to the last -/

theorem Walks.length_eq {nodes nodes' : List Node} {edits : List Edit}
    (h : Walks rules source nodes nodes' edits) : nodes'.length = nodes.length := by
  induction h with
  | nil => rfl
  | rewritten _ _ _ _ ih => rw [List.length_cons, List.length_cons, ih]
  | kept _ _ _ _ ih => rw [List.length_cons, List.length_cons, ih]

/-- Two forests side by side are walked through one after the other, so a walk can be cut before the
node that a visit begins with. -/
theorem rewrittenNodes_append (xs ys : List Node) :
    rewrittenNodes rules source (xs ++ ys)
      = (rewrittenNodes rules source xs).bind fun r =>
          (rewrittenNodes rules source ys).map fun s => (r.1 ++ s.1, r.2 ++ s.2) := by
  induction xs with
  | nil =>
    rw [rewrittenNodes, List.nil_append, Option.bind_some]
    simp
  | cons n xs ih =>
    rw [List.cons_append, rewrittenNodes, rewrittenNodes, ih]
    rcases n.rewritten rules source with _ | ⟨n', es⟩
    · rfl
    · rcases rewrittenNodes rules source xs with _ | ⟨xs', es'⟩
      · rfl
      · rcases rewrittenNodes rules source ys with _ | ⟨ys', es''⟩
        · rfl
        · simp only [Option.bind_some, Option.map_some, List.cons_append, List.append_assoc]

/-- A node can as well be dealt with (`Outcome.put`) before its neighbours: this is one step of a
visit, compared with the walk. -/
theorem rel_put_rewritten (before behind : List Node) (n : Node) :
    Option.Rel SameButOrder
      (Outcome.put before.length (n.rewritten rules source)
        (rewrittenNodes rules source (before ++ behind)))
      (rewrittenNodes rules source (before ++ n :: behind)) := by
  rw [rewrittenNodes_append, rewrittenNodes_append, rewrittenNodes]
  rcases hbefore : rewrittenNodes rules source before with _ | ⟨before', es⟩
  · rcases n.rewritten rules source with _ | r
    · exact .none
    · exact .none
  · -- a walk keeps the number of nodes, so the new node is put where the old one was
    have hlength := (rewrittenNodes_eq_some_iff.mp hbefore).length_eq
    rcases n.rewritten rules source with _ | ⟨n', es'⟩
    · exact .none
    · rcases rewrittenNodes rules source behind with _ | ⟨behind', es''⟩
      · exact .none
      · refine .some ⟨?_, ?_⟩
        · rw [← hlength, List.take_left, List.drop_left]
        · exact List.perm_append_comm_assoc es' es es''

/-! ## Visits -/

/-- Whatever the order of a visit, its outcome is that of `rewrittenNodes` up to the order of the
edits. The induction is on the visit; `rel_put_rewritten` moves the node that it begins with to its
place. -/
theorem Visits.rel_rewrittenNodes {nodes : List Node} {outcome : Outcome}
    (h : Visits rules source nodes outcome) :
    Option.Rel SameButOrder outcome (rewrittenNodes rules source nodes) := by
  induction h with
  | nil =>
    rw [rewrittenNodes]
    exact rel_refl _
  | @rewritten before behind n l others hv hl _ ih =>
    refine rel_trans (rel_put ?_ ih) (rel_put_rewritten before behind n)
    rw [Node.rewritten_of_rewrites hl hv]
    exact rel_refl _
  | @kept before behind n inside others hv _ _ ihInside ihOthers =>
    refine rel_trans (rel_put ?_ ihOthers) (rel_put_rewritten before behind n)
    rw [Node.rewritten_of_keeps hv]
    exact rel_map ihInside

/-- Going from the first node to the last is one of the orders, so `Visits` is not empty of
content. -/
theorem visits_rewrittenNodes (nodes : List Node) :
    Visits rules source nodes (rewrittenNodes rules source nodes) := by
  induction nodes using Program.induction with
  | nil =>
    rw [rewrittenNodes]
    exact .nil
  | cons n rest ihInside ihRest =>
    have hput : rewrittenNodes rules source (n :: rest)
        = Outcome.put 0 (n.rewritten rules source) (rewrittenNodes rules source rest) := by
      rw [rewrittenNodes]
      rcases n.rewritten rules source with _ | ⟨n', es⟩
      · rfl
      · rcases rewrittenNodes rules source rest with _ | ⟨rest', es'⟩
        · rfl
        · rfl
    rw [hput]
    cases hv : (rules.classify n).rewrites with
    | true =>
      obtain ⟨l, hl⟩ := Rules.literal_of_rewrites hv
      rw [Node.rewritten_of_rewrites hl hv]
      exact .rewritten [] rest n hv hl ihRest
    | false =>
      rw [Node.rewritten_of_keeps hv]
      exact .kept [] rest n hv ihInside ihRest

/-- **The order of visits does not show.** If a program can be rewritten and no two of its edits
start at the same place, then a visit in any order (`Visits`) comes to its end with the same program
and, once sorted, the same edits. -/
theorem Visits.map_sorted {program program' : Program} {edits : List Edit} {outcome : Outcome}
    (h : program.rewritten rules source = some (program', edits))
    (hstarts : (edits.map fun e => e.span.start).Nodup)
    (hvisit : Visits rules source program outcome) :
    outcome.map (fun r => (r.1, stableSort Edit.startsBefore r.2)) = some (program', edits) := by
  obtain ⟨es, hwalk, rfl⟩ := rewritten_eq_some_iff.mp h
  have hrel := hvisit.rel_rewrittenNodes
  rw [rewrittenNodes_eq_some_iff.mpr hwalk] at hrel
  cases hrel with
  | @some r _ hsame =>
    obtain ⟨hprogram, hperm⟩ := hsame
    have hnodup : (r.2.map fun e => e.span.start).Nodup := by
      refine List.Perm.nodup ?_ hstarts
      exact ((stableSort_perm _ es).trans hperm.symm).map _
    -- different starts leave sorting no choice
    have hsorted : stableSort Edit.startsBefore r.2 = stableSort Edit.startsBefore es := by
      refine stableSort_eq_of_perm startsBefore_total startsBefore_trans hperm ?_
      intro a ha b hb hab hba
      refine List.inj_on_of_nodup_map hnodup ha hb ?_
      exact Nat.le_antisymm (of_decide_eq_true hab) (of_decide_eq_true hba)
    rw [Option.map_some, hprogram, hsorted]

end Program

end DotJs
