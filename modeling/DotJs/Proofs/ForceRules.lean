import DotJs.Settings

/-!
# What force rules can do

The patterns of a project come from its settings file and from the options of a command, and are
compiled one by one. What they do to a specifier is told by two questions only: whether some pattern
of the ones to force is found in it, and whether some pattern of the others is.

* `mem_compilePatterns_iff` and `exists_compilePatterns_iff`: what patterns are compiled to, and
  when they can be;
* `Rules.forcesBy_iff`: which specifiers the compiled rules force, told by the texts of patterns. It
  does not say in which order the patterns come, and how often;
* `Rules.eq_of_classifyTextBy_ne`: where two rules disagree on a specifier, it is not relative, and
  one of them forces it;
* `Settings.forcesBy_mono` and `Settings.classifyTextBy_congr` compare settings with more patterns,
  and with the same in another order.

`Settings.force_rules_exact` puts this together.

Nothing here depends on how a pattern is looked for. Rules are therefore read with any way of
looking for patterns (`Rules.forcesBy`, `Rules.classifyTextBy`), of which `Regex.isFoundIn` is the
one that a run uses.
-/

namespace DotJs

variable {texts forced excluded : List Text} {regexes : List Regex} {dynamicImports : Bool}

/-! ## Compiled patterns -/

theorem compilePatterns_cons_eq_ok {p : Text} (h : compilePatterns (p :: texts) = .ok regexes) :
    ∃ r rest, Regex.parse? p = some r ∧ compilePatterns texts = .ok rest ∧ regexes = r :: rest := by
  rw [compilePatterns] at h
  cases hr : Regex.parse? p with
  | none => simp [hr] at h
  | some r =>
    cases hrest : compilePatterns texts with
    | error e => simp [hr, hrest] at h
    | ok rest =>
      simp only [hr, hrest, Except.ok.injEq] at h
      exact ⟨r, rest, rfl, rfl, h.symm⟩

/-- `compilePatterns` compiles each pattern on its own: what one text comes to does not depend on
the others. -/
theorem mem_compilePatterns_iff (h : compilePatterns texts = .ok regexes) {r : Regex} :
    r ∈ regexes ↔ ∃ p ∈ texts, Regex.parse? p = some r := by
  induction texts generalizing regexes with
  | nil =>
    obtain rfl := Except.ok.inj h
    simp
  | cons p texts ih =>
    obtain ⟨r', rest, hr', hrest, rfl⟩ := compilePatterns_cons_eq_ok h
    simp [ih hrest, hr', eq_comm]

/-- Texts can be compiled when each of them is a pattern by `Regex.parse?`. -/
theorem exists_compilePatterns_iff :
    (∃ regexes, compilePatterns texts = .ok regexes) ↔ ∀ p ∈ texts, (Regex.parse? p).isSome := by
  induction texts with
  | nil => simp [compilePatterns]
  | cons p texts ih =>
    rw [List.forall_mem_cons, ← ih]
    constructor
    · rintro ⟨regexes, h⟩
      obtain ⟨r, rest, hr, hrest, -⟩ := compilePatterns_cons_eq_ok h
      exact ⟨by simp [hr], rest, hrest⟩
    · rintro ⟨hsome, rest, hrest⟩
      obtain ⟨r, hr⟩ := Option.isSome_iff_exists.mp hsome
      exact ⟨r :: rest, by simp [compilePatterns, hr, hrest]⟩

namespace Rules

variable {rules others : Rules} {t : Text}

theorem ofPatterns_eq_ok_iff :
    ofPatterns forced excluded dynamicImports = .ok rules ↔
      compilePatterns forced = .ok rules.forced ∧ compilePatterns excluded = .ok rules.excluded ∧
        rules.dynamicImports = dynamicImports := by
  obtain ⟨regexes, regexes', d⟩ := rules
  unfold ofPatterns
  cases compilePatterns forced with
  | error e => simp
  | ok rs => cases compilePatterns excluded <;> simp [eq_comm]

/-! ## Looking for patterns -/

variable {finds : Regex → Text → Bool}

/-- Whether some of the given patterns is found in a specifier, by the given `finds`. It is told by
texts, before anything is compiled. -/
def FindsSome (finds : Regex → Text → Bool) (texts : List Text) (specifier : Text) : Prop :=
  ∃ p ∈ texts, ∃ r, Regex.parse? p = some r ∧ finds r specifier

theorem any_compilePatterns_iff (h : compilePatterns texts = .ok regexes) :
    regexes.any (fun r => finds r t) ↔ FindsSome finds texts t := by
  simp only [List.any_eq_true, mem_compilePatterns_iff h, FindsSome]
  constructor
  · rintro ⟨r, ⟨p, hp, hr⟩, hfound⟩
    exact ⟨p, hp, r, hr, hfound⟩
  · rintro ⟨p, hp, r, hr, hfound⟩
    exact ⟨r, ⟨p, hp, hr⟩, hfound⟩

/-- **What is forced**: a specifier in which some pattern of the first list is found and none of the
second. With `FindsSome` neither order nor repetition shows. -/
theorem forcesBy_iff (h : ofPatterns forced excluded dynamicImports = .ok rules) :
    rules.forcesBy finds t ↔ FindsSome finds forced t ∧ ¬ FindsSome finds excluded t := by
  obtain ⟨hforced, hexcluded, -⟩ := ofPatterns_eq_ok_iff.mp h
  rw [← any_compilePatterns_iff hforced, ← any_compilePatterns_iff hexcluded, forcesBy,
    Bool.and_eq_true, Bool.not_eq_true', Bool.not_eq_true]

theorem FindsSome.mono {texts' : List Text} (h : FindsSome finds texts t)
    (hsub : ∀ p ∈ texts, p ∈ texts') : FindsSome finds texts' t := by
  obtain ⟨p, hp, hfound⟩ := h
  exact ⟨p, hsub p hp, hfound⟩

/-! ## Verdicts under two rules -/

/-- A specifier that `isRelative` has its verdict under all rules, whatever they force. -/
theorem classifyTextBy_of_isRelative (h : isRelative t) :
    others.classifyTextBy finds t = rules.classifyTextBy finds t := by
  simp [classifyTextBy, h]

/-- The verdict on a specifier that is neither relative nor forced: it hangs on its `extension`. -/
def unforcedVerdict (specifier : Text) : Verdict :=
  if extension specifier = [] then .notRelative else .hasExtension

theorem classifyTextBy_of_not_isRelative (h : isRelative t = false) :
    rules.classifyTextBy finds t =
      if rules.forcesBy finds t then .forceIncluded else unforcedVerdict t := by
  by_cases hext : extension t = [] <;> simp [classifyTextBy, unforcedVerdict, h, hext]

/-- **Rules that disagree on a specifier** disagree on whether it is forced. If the second rules
force whatever the first do, it is the second that force it, and the first give it its
`unforcedVerdict`. -/
theorem eq_of_classifyTextBy_ne (hforces : rules.forcesBy finds t → others.forcesBy finds t)
    (hne : others.classifyTextBy finds t ≠ rules.classifyTextBy finds t) :
    rules.classifyTextBy finds t = unforcedVerdict t ∧
      others.classifyTextBy finds t = .forceIncluded := by
  have hrelative : isRelative t = false := by
    apply Bool.eq_false_iff.mpr
    intro h
    exact hne (classifyTextBy_of_isRelative h)
  rw [classifyTextBy_of_not_isRelative hrelative, classifyTextBy_of_not_isRelative hrelative] at *
  by_cases hothers : others.forcesBy finds t
  · by_cases hrules : rules.forcesBy finds t
    · simp [hothers, hrules] at hne
    · simp [hothers, hrules]
  · have hrules : ¬ rules.forcesBy finds t := fun h => hothers (hforces h)
    simp [hothers, hrules] at hne

end Rules

/-! ## Settings with more patterns -/

namespace Settings

open Rules (FindsSome)

variable {s s' : Settings} {rules rules' : Rules} {finds : Regex → Text → Bool} {t : Text}

/-- Settings that can be compiled can be compiled with more patterns (`Settings.extend`), if these
are patterns. -/
theorem exists_extend_rules {inc exc : List Text} (dynamicImports : Bool)
    (hinc : ∀ p ∈ s.forceInclude ++ inc, (Regex.parse? p).isSome)
    (hexc : ∀ p ∈ s.forceExclude ++ exc, (Regex.parse? p).isSome) :
    ∃ rules, (s.extend inc exc dynamicImports).rules = .ok rules := by
  obtain ⟨forced, hforced⟩ := exists_compilePatterns_iff.mpr hinc
  obtain ⟨excluded, hexcluded⟩ := exists_compilePatterns_iff.mpr hexc
  refine ⟨⟨forced, excluded, s.dynamicImports || dynamicImports⟩, ?_⟩
  exact Rules.ofPatterns_eq_ok_iff.mpr ⟨hforced, hexcluded, rfl⟩

/-- With more patterns to force and fewer that exclude, no less is forced. -/
theorem forcesBy_mono (h : s.rules = .ok rules) (h' : s'.rules = .ok rules')
    (hinc : s.forceInclude ⊆ s'.forceInclude) (hexc : s'.forceExclude ⊆ s.forceExclude)
    (hforces : rules.forcesBy finds t) : rules'.forcesBy finds t := by
  obtain ⟨hfound, hnot⟩ := (Rules.forcesBy_iff h).mp hforces
  apply (Rules.forcesBy_iff h').mpr
  constructor
  · exact hfound.mono hinc
  · intro hexcluded
    exact hnot (hexcluded.mono hexc)

/-- **The same patterns**, in whatever order and however often: no verdict differs. -/
theorem classifyTextBy_congr (h : s.rules = .ok rules) (h' : s'.rules = .ok rules')
    (hinc : ∀ p, p ∈ s.forceInclude ↔ p ∈ s'.forceInclude)
    (hexc : ∀ p, p ∈ s.forceExclude ↔ p ∈ s'.forceExclude) :
    rules'.classifyTextBy finds t = rules.classifyTextBy finds t := by
  have hforces : rules'.forcesBy finds t = rules.forcesBy finds t := by
    apply Bool.eq_iff_iff.mpr
    constructor
    · exact forcesBy_mono h' h (fun p => (hinc p).mpr) (fun p => (hexc p).mp)
    · exact forcesBy_mono h h' (fun p => (hinc p).mp) (fun p => (hexc p).mpr)
  simp [Rules.classifyTextBy, hforces]

/-- **What force rules do**, whatever it means that a pattern is found (`finds`); `Regex.isFoundIn`
is the case of a run. The patterns of the settings and those of the command line count alike: what
is forced is told by which of them are found (`FindsSome`), not by their order. More patterns to
force, or more that exclude, have one effect each on verdicts. -/
theorem force_rules_exact (finds : Regex → Text → Bool) :
    (∀ rules : Rules, rules.forces = rules.forcesBy Regex.isFoundIn ∧
      rules.classifyText = rules.classifyTextBy Regex.isFoundIn) ∧
    (∀ (s : Settings) (inc exc : List Text) (dynamicImports : Bool),
      (∀ p ∈ s.forceInclude ++ inc, (Regex.parse? p).isSome) →
      (∀ p ∈ s.forceExclude ++ exc, (Regex.parse? p).isSome) →
      ∃ rules, (s.extend inc exc dynamicImports).rules = .ok rules ∧
        ∀ t, rules.forcesBy finds t ↔
          FindsSome finds (s.forceInclude ++ inc) t ∧
            ¬ FindsSome finds (s.forceExclude ++ exc) t) ∧
    ∀ (s s' : Settings) (rules rules' : Rules), s.rules = .ok rules → s'.rules = .ok rules' →
      (∀ t, Rules.isRelative t → rules'.classifyTextBy finds t = rules.classifyTextBy finds t) ∧
      ((∀ p, p ∈ s.forceInclude ↔ p ∈ s'.forceInclude) →
        (∀ p, p ∈ s.forceExclude ↔ p ∈ s'.forceExclude) →
        ∀ t, rules'.classifyTextBy finds t = rules.classifyTextBy finds t) ∧
      (s.forceInclude ⊆ s'.forceInclude → (∀ p, p ∈ s.forceExclude ↔ p ∈ s'.forceExclude) →
        ∀ t, rules'.classifyTextBy finds t ≠ rules.classifyTextBy finds t →
          (rules.classifyTextBy finds t = .hasExtension ∨
            rules.classifyTextBy finds t = .notRelative) ∧
          rules'.classifyTextBy finds t = .forceIncluded) ∧
      ((∀ p, p ∈ s.forceInclude ↔ p ∈ s'.forceInclude) → s.forceExclude ⊆ s'.forceExclude →
        ∀ t, rules'.classifyTextBy finds t ≠ rules.classifyTextBy finds t →
          rules.classifyTextBy finds t = .forceIncluded ∧
          rules'.classifyTextBy finds t =
            if extension t = [] then .notRelative else .hasExtension) := by
  refine ⟨fun rules => ⟨Rules.forces_eq_forcesBy rules, Rules.classifyText_eq_classifyTextBy rules⟩,
    ?_, ?_⟩
  · intro s inc exc dynamicImports hinc hexc
    obtain ⟨rules, hrules⟩ := exists_extend_rules dynamicImports hinc hexc
    exact ⟨rules, hrules, fun t => Rules.forcesBy_iff hrules⟩
  · intro s s' rules rules' h h'
    refine ⟨?relative, ?same, ?moreForced, ?moreExcluded⟩
    case relative =>
      intro t ht
      exact Rules.classifyTextBy_of_isRelative ht
    case same =>
      intro hinc hexc t
      exact classifyTextBy_congr h h' hinc hexc
    case moreForced =>
      intro hinc hexc t hne
      obtain ⟨hold, hnew⟩ := Rules.eq_of_classifyTextBy_ne
        (forcesBy_mono h h' hinc fun p => (hexc p).mpr) hne
      refine ⟨?_, hnew⟩
      rw [hold, Rules.unforcedVerdict]
      split <;> simp
    case moreExcluded =>
      intro hinc hexc t hne
      obtain ⟨hnew, hold⟩ := Rules.eq_of_classifyTextBy_ne
        (forcesBy_mono h' h (fun p => (hinc p).mpr) hexc) (Ne.symm hne)
      exact ⟨hold, hnew⟩

/-- A package that is forced, and then all of it but what is internal. -/
theorem force_rules_exact_package :
    let plain := Settings.default
    let forcing := plain.extend ["^my-pkg".toList] [] false
    let excluding := forcing.extend [] ["internal".toList] true
    ∃ rules₁ rules₂ rules₃, plain.rules = .ok rules₁ ∧ forcing.rules = .ok rules₂ ∧
      excluding.rules = .ok rules₃ ∧
      (∀ t, rules₃.forcesBy Regex.isFoundIn t ↔
        FindsSome Regex.isFoundIn ["^my-pkg".toList] t ∧
          ¬ FindsSome Regex.isFoundIn ["internal".toList] t) ∧
      rules₂.classifyText "my-pkg".toList ≠ rules₁.classifyText "my-pkg".toList ∧
      (rules₁.classifyText "my-pkg".toList = .hasExtension ∨
        rules₁.classifyText "my-pkg".toList = .notRelative) ∧
      rules₂.classifyText "my-pkg".toList = .forceIncluded ∧
      rules₃.classifyText "my-pkg/internal".toList = .notRelative ∧
      rules₃.classifyText "my-pkg/internal.js".toList = .hasExtension ∧
      rules₃.classifyText "./my-pkg".toList = rules₁.classifyText "./my-pkg".toList := by
  intro plain forcing excluding
  obtain ⟨-, hcompile, hcompare⟩ := force_rules_exact Regex.isFoundIn
  obtain ⟨rules₁, h₁, -⟩ := hcompile plain [] [] false (by decide) (by decide)
  obtain ⟨rules₂, h₂, -⟩ := hcompile plain ["^my-pkg".toList] [] false
    (by decide +kernel) (by decide)
  obtain ⟨rules₃, h₃, hforces⟩ := hcompile forcing [] ["internal".toList] true
    (by decide +kernel) (by decide +kernel)
  replace h₁ : plain.rules = .ok rules₁ := h₁
  have hverdict : ∀ {s : Settings} {rules : Rules} {t : Text} {v : Verdict}, s.rules = .ok rules →
      (s.rules.toOption.map fun r => r.classifyText t) = some v → rules.classifyText t = v := by
    intro s rules t v h hv
    simpa [h, Except.toOption] using hv
  -- what the three settings differ on
  have hpackage : rules₂.classifyText "my-pkg".toList ≠ rules₁.classifyText "my-pkg".toList := by
    rw [hverdict h₂ (v := .forceIncluded) (by decide +kernel),
      hverdict h₁ (v := .notRelative) (by decide +kernel)]
    decide
  have hinternal : rules₃.classifyText "my-pkg/internal".toList ≠
      rules₂.classifyText "my-pkg/internal".toList := by
    rw [hverdict h₃ (v := .notRelative) (by decide +kernel),
      hverdict h₂ (v := .forceIncluded) (by decide +kernel)]
    decide
  have hfile : rules₃.classifyText "my-pkg/internal.js".toList ≠
      rules₂.classifyText "my-pkg/internal.js".toList := by
    rw [hverdict h₃ (v := .hasExtension) (by decide +kernel),
      hverdict h₂ (v := .forceIncluded) (by decide +kernel)]
    decide
  obtain ⟨-, -, hmore, -⟩ := hcompare plain forcing rules₁ rules₂ h₁ h₂
  obtain ⟨hold, hnew⟩ := hmore (by decide) (by simp [forcing, extend]) _ hpackage
  obtain ⟨-, -, -, hexclude⟩ := hcompare forcing excluding rules₂ rules₃ h₂ h₃
  have hexcluded := hexclude (by simp [excluding, extend]) (by simp [excluding, extend])
  obtain ⟨hrelative, -⟩ := hcompare plain excluding rules₁ rules₃ h₁ h₃
  refine ⟨rules₁, rules₂, rules₃, h₁, h₂, h₃, hforces, hpackage, hold, hnew, ?_, ?_, ?_⟩
  · exact (hexcluded _ hinternal).2.trans (by decide)
  · exact (hexcluded _ hfile).2.trans (by decide)
  · exact hrelative _ (by decide)

end Settings

end DotJs
