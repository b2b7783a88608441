import DotJs.Proofs.Walk

/-!
# Specifiers with an extension added

A specifier is rewritten by adding `.js`. Whether it would be rewritten once more hangs on how
its text ends and on the force rules:

* `extension_append_dotJs`: the new text has the extension `.js`, unless the old one ended with a
  slash. The last segment is then `.js`, a name that starts with its only dot.
* `Rules.classifyText_append_dotJs`: a relative specifier has got an extension then, with the same
  exception, and a second `.js` always gives it one;
* `Rules.asksAgain` is the condition under which a rewritten specifier qualifies once more;
  `Rules.rewrites_append_dotJs_iff` says so of its text, `Rules.rewrites_withLiteral_iff` of a
  node that has got a new literal.

Where nothing is forced, no specifier qualifies a third time (`Rules.asksAgain_append_dotJs`).
-/

namespace DotJs

/-! ## The extension -/

/-- A scan that is `dotted` only collects the rest of the segment, up to a slash. The text goes
backwards through the scan, which starts at the end of the path. -/
theorem Extension.Scan.run_dotted (found before t : Text) :
    Scan.run (.dotted found before) t =
      .dotted found ((t.takeWhile (· ≠ '/')).reverse ++ before) := by
  induction t generalizing before with
  | nil => rfl
  | cons c t ih =>
    by_cases hc : c = '/'
    · simp [Scan.run, hc]
    · simp [Scan.run, Scan.push, hc, ih]

/-- Behind `.js`, a path has this extension unless a slash or nothing at all stands before. In these
two cases the whole segment is `.js`, a name that starts with its only dot. -/
theorem extension_append_dotJs (path : Text) :
    extension (path ++ dotJs) =
      if path = [] ∨ path.getLast? = some '/' then [] else dotJs := by
  have hrun : Extension.Scan.run .slashes (path ++ dotJs).reverse =
      .dotted dotJs (path.reverse.takeWhile (· ≠ '/')).reverse := by
    have hscan := Extension.Scan.run_dotted dotJs [] path.reverse
    rw [List.append_nil] at hscan
    rw [← hscan, List.reverse_append]
    rfl
  -- nothing stands between the last slash and the dot just when the path ends with a slash
  have hempty : (path.reverse.takeWhile (· ≠ '/')).reverse = [] ↔
      path = [] ∨ path.getLast? = some '/' := by
    have hnil : path = [] ↔ path.reverse = [] := List.reverse_eq_nil_iff.symm
    rw [List.getLast?_eq_head?_reverse, List.reverse_eq_nil_iff, hnil]
    cases path.reverse with
    | nil => simp
    | cons c t => by_cases hc : c = '/' <;> simp [hc]
  have hdots : dotJs ≠ ['.'] := by decide
  rw [extension, hrun, Extension.Scan.result]
  simp only [hempty, hdots, and_false, or_false]

/-! ## Verdicts -/

namespace Rules

variable {rules : Rules} {v : Text}

/-- Whether a specifier is relative is not changed by `.js` behind it: `isRelative` looks at how it
starts. -/
theorem isRelative_append_dotJs (v : Text) : isRelative (v ++ dotJs) = isRelative v := by
  match v with
  | [] => rfl
  | [c] => by_cases hc : c = '.' <;> simp [isRelative, dotJs, hc]
  | [c, d] =>
    by_cases hc : c = '.'
    · by_cases hd : d = '/'
      · simp [isRelative, hc, hd]
      · by_cases hd' : d = '.' <;> simp [isRelative, dotJs, hc, hd, hd']
    · simp [isRelative, hc]
  | c :: d :: e :: t =>
    by_cases hc : c = '.'
    · by_cases hd : d = '/'
      · simp [isRelative, hc, hd]
      · by_cases hd' : d = '.' <;> by_cases he : e = '/' <;> simp [isRelative, hc, hd, hd', he]
    · simp [isRelative, hc]

/-- A relative specifier is rewritten if it has no `extension`, any other if the rules force it
(`Rules.forces`). These have no say about a relative one. -/
theorem rewrites_classifyText_iff :
    (rules.classifyText v).rewrites ↔
      if isRelative v then extension v = [] else rules.forces v := by
  rw [classifyText_eq]
  cases isRelative v with
  | true => by_cases h : extension v = [] <;> simp [h, Verdict.rewrites]
  | false =>
    cases rules.forces v with
    | true => simp [Verdict.rewrites]
    | false => by_cases h : extension v = [] <;> simp [h, Verdict.rewrites]

/-- Whether a specifier that gets an extension qualifies with it once more: a relative one if it
ends with a slash, any other if the force rules ask for the new text too (`forces`). It is told from
the old text, before anything is rewritten. -/
def asksAgain (rules : Rules) (specifier : Text) : Bool :=
  if isRelative specifier then specifier.getLast? == some '/'
  else rules.forces (specifier ++ dotJs)

/-- The verdict on a relative specifier hangs on its `extension` only, and so is the same by all
rules. -/
theorem classifyText_of_isRelative (h : isRelative v) :
    rules.classifyText v = if extension v = [] then .relative else .hasExtension := by
  rw [classifyText_eq, if_pos h]

theorem isRelative_of_classifyText (h : rules.classifyText v = .relative) : isRelative v := by
  by_cases hrelative : isRelative v
  · exact hrelative
  · rw [classifyText_eq, if_neg hrelative] at h
    split at h
    · cases h
    · split at h <;> cases h

theorem ne_nil_of_isRelative (h : isRelative v) : v ≠ [] := by
  rintro rfl
  cases h

/-- A rewritten specifier is rewritten again just when it `asksAgain`. -/
theorem rewrites_append_dotJs_iff (rules : Rules) (v : Text) :
    (rules.classifyText (v ++ dotJs)).rewrites ↔ rules.asksAgain v := by
  rw [rewrites_classifyText_iff, isRelative_append_dotJs]
  unfold asksAgain
  cases hv : isRelative v with
  | true =>
    have hne := ne_nil_of_isRelative hv
    have hdot : dotJs ≠ [] := by decide
    simp [extension_append_dotJs, hne, hdot]
  | false => simp

theorem forces_eq_false (hrules : rules.forced = []) (v : Text) : rules.forces v = false := by
  simp [forces, forcesBy, hrules]

/-- Where nothing is forced, a specifier with an extension added does not ask for one more
(`asksAgain`): it no longer ends with a slash. -/
theorem asksAgain_append_dotJs (hrules : rules.forced = []) (v : Text) :
    rules.asksAgain (v ++ dotJs) = false := by
  unfold asksAgain
  rw [forces_eq_false hrules]
  have hlast : (v ++ dotJs).getLast? = some 's' := by simp [dotJs]
  simp [hlast]

/-- **What the extension does to the verdict on a relative specifier.** With `.js` behind it, it has
an extension unless it ends with a slash; then its verdict is `relative` again. It stays relative,
and has an extension at the latest with a second `.js`. Once a relative specifier has an extension,
it has one by all rules. -/
theorem classifyText_append_dotJs (rules : Rules) :
    (∀ v, rules.classifyText v = .relative →
      (rules.classifyText (v ++ dotJs) = .hasExtension ↔ v.getLast? ≠ some '/') ∧
        (rules.classifyText (v ++ dotJs) = .relative ↔ v.getLast? = some '/') ∧
        rules.classifyText (v ++ dotJs ++ dotJs) = .hasExtension ∧
        isRelative (v ++ dotJs)) ∧
      ∀ v, isRelative v → rules.classifyText v = .hasExtension →
        ∀ others : Rules, others.classifyText v = .hasExtension := by
  constructor
  · intro v hv
    have hrelative := isRelative_of_classifyText hv
    have hadded : isRelative (v ++ dotJs) := by rwa [isRelative_append_dotJs]
    have htwice : isRelative (v ++ dotJs ++ dotJs) := by rwa [isRelative_append_dotJs]
    have hdot : dotJs ≠ [] := by decide
    have hlast : (v ++ dotJs).getLast? ≠ some '/' := by simp [dotJs]
    have hext := extension_append_dotJs v
    have hext' := extension_append_dotJs (v ++ dotJs)
    rw [if_neg (not_or.mpr ⟨by simp [hdot], hlast⟩)] at hext'
    rw [classifyText_of_isRelative hadded, classifyText_of_isRelative htwice, hext', if_neg hdot,
      hext]
    by_cases hslash : v.getLast? = some '/'
    · simp [hslash, hadded]
    · simp [hslash, hadded, ne_nil_of_isRelative hrelative, hdot]
  · intro v hrelative hv others
    rwa [classifyText_of_isRelative hrelative] at hv ⊢

/-- A directory that is named with a slash, and a file with an extension, which has one also where
everything is forced. -/
theorem classifyText_append_dotJs_slash :
    let directory := "../lib/".toList
    let file := "./a.json".toList
    (none.classifyText directory = .relative ∧
      none.classifyText (directory ++ dotJs) = .relative ∧
      none.classifyText (directory ++ dotJs ++ dotJs) = .hasExtension) ∧
      (isRelative file ∧ none.classifyText file = .hasExtension ∧
        ∀ forced, Rules.classifyText ⟨forced, [], true⟩ file = .hasExtension) := by
  intro directory file
  obtain ⟨hadded, hkept⟩ := classifyText_append_dotJs none
  have hdirectory : none.classifyText directory = .relative := by decide +kernel
  obtain ⟨-, hsame, htwice, -⟩ := hadded directory hdirectory
  have hfile : isRelative file := by decide +kernel
  have hext : none.classifyText file = .hasExtension := by decide +kernel
  exact ⟨⟨hdirectory, hsame.mpr (by decide +kernel), htwice⟩, hfile, hext,
    fun forced => hkept file hfile hext ⟨forced, [], true⟩⟩

/-! ## Nodes -/

/-- A node that is rewritten is judged by its text also when it has got another one, since
`withLiteral` leaves its kind alone. -/
theorem classify_withLiteral {n : Node} (hv : (rules.classify n).rewrites) (l : Literal) :
    rules.classify (n.withLiteral l) = rules.classifyText l.value := by
  unfold classify at hv ⊢
  split at hv
  · cases hv
  · next hkind => exact if_neg hkind

/-- A node that was rewritten is to be rewritten again just when its specifier `asksAgain` for
it. -/
theorem rewrites_withLiteral_iff {n : Node} {l : Literal} (e : Edit)
    (hv : (rules.classify n).rewrites) :
    (rules.classify (n.withLiteral (l.extendedBy e))).rewrites ↔ rules.asksAgain l.value := by
  rw [classify_withLiteral hv]
  exact rewrites_append_dotJs_iff rules l.value

/-- The verdict on a node hangs on its kind and its specifier only, not on its place or on what is
`inside` it. -/
theorem classify_congr {n m : Node} (hkind : m.kind = n.kind) (hs : m.specifier = n.specifier) :
    rules.classify m = rules.classify n := by
  unfold classify
  rw [hkind, hs]

end Rules

end DotJs
