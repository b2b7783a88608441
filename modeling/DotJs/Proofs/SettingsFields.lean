import DotJs.Proofs.JsonReading
import DotJs.Proofs.JsonSkipping
import DotJs.SettingsFile

/-!
# The fields of settings

What is read for a known key, by the value that stands under it, and what the members of an object
come to: what was read so far is a record with one place for each `Field`, so that it is one fold,
told place by place.

* `Field.gives_read` is about the value of a field, and `Settings.takesMembers_readMember` about a
  member;
* `Settings.foldlM_addValue`: what all members come to is what is found under each known key.
-/

namespace DotJs

open Json (Tree Stands Blanks)
open Json.Reader (Gives run_bind run_bind_error next_of_blanks)

variable {text rest start : Text}

/-! ## Values of settings -/

namespace Json.Tree

/-- The truth value (`bool`) that a value is, if it is one. -/
def bool? : Tree → Option Bool
  | .bool b => some b
  | _ => none

/-- The text that a value is (`string`). A string that spells none, with half of a surrogate pair,
is no text. -/
def text? : Tree → Option Text
  | .string t => t
  | _ => none

/-- The texts of a list (`array`) that holds nothing else, as the extensions and the ignore patterns
have to be. -/
def texts? : Tree → Option (List Text)
  | .array ts => ts.mapM text?
  | _ => none

/-- The patterns that a value stands for, as `Settings.patternsOf` finds them: a single string, or
the strings of a list. Whatever else there is, in the list or in its place, is passed over. -/
def patterns : Tree → List Text
  | .string t => t.toList
  | .array ts => ts.filterMap text?
  | _ => []

theorem bool?_eq_some {t : Tree} {b : Bool} : t.bool? = some b ↔ t = .bool b := by
  cases t <;> simp [bool?]

theorem text?_eq_some {t : Tree} {a : Text} : t.text? = some a ↔ t = .string (some a) := by
  cases t <;> simp [text?]

/-- A list of texts and nothing else. -/
theorem mapM_text?_eq_some {ts : List Tree} {texts : List Text} :
    ts.mapM text? = some texts ↔ ts = texts.map fun a => .string (some a) := by
  induction ts generalizing texts with
  | nil => cases texts <;> simp
  | cons t ts ih =>
    rw [List.mapM_cons]
    constructor
    · intro h
      obtain ⟨a, ha, h⟩ := Option.bind_eq_some_iff.mp h
      obtain ⟨others, hothers, h⟩ := Option.bind_eq_some_iff.mp h
      obtain rfl : a :: others = texts := Option.some.inj h
      rw [text?_eq_some.mp ha, ih.mp hothers, List.map_cons]
    · intro h
      cases texts with
      | nil => cases h
      | cons a others =>
        obtain ⟨rfl, hothers⟩ := List.cons.inj h
        simp [text?, ih.mpr hothers]

/-- A list of texts, as the `Tree` that it is written as. -/
def ofTexts (texts : List Text) : Tree := .array (texts.map fun a => .string (some a))

theorem texts?_eq_some {t : Tree} {texts : List Text} :
    t.texts? = some texts ↔ t = ofTexts texts := by
  cases t with
  | array ts => simp [texts?, ofTexts, mapM_text?_eq_some]
  | _ => simp [texts?, ofTexts]

theorem filterMap_of_mapM {α β γ : Type} {f : α → Option β} {g : β → Option γ} {k : α → Option γ}
    (hfg : ∀ x y, f x = some y → g y = k x) {xs : List α} {ys : List β}
    (h : xs.mapM f = some ys) : ys.filterMap g = xs.filterMap k := by
  induction xs generalizing ys with
  | nil =>
    obtain rfl : [] = ys := Option.some.inj h
    rfl
  | cons x xs ih =>
    rw [List.mapM_cons] at h
    obtain ⟨y, hy, h⟩ := Option.bind_eq_some_iff.mp h
    obtain ⟨others, hothers, h⟩ := Option.bind_eq_some_iff.mp h
    obtain rfl : y :: others = ys := Option.some.inj h
    rw [List.filterMap_cons, List.filterMap_cons, hfg x y hy, ih hothers]

/-- A value is kept (`json?`) as a string, as a list of the values that are kept, or as neither. -/
theorem json?_cases {t : Tree} {j : Json} {levels : Nat} (h : t.json? levels = some j) :
    (∃ a, t = .string (some a) ∧ j = .string a) ∨
      (∃ below ts js, t = .array ts ∧ j = .array js ∧ ts.mapM (json? below) = some js) ∨
      (t.text? = none ∧ t.patterns = []) ∧ (∀ a, j ≠ .string a) ∧ ∀ js, j ≠ .array js := by
  cases t with
  | null | bool b =>
    rw [json?] at h
    cases h
    exact .inr (.inr ⟨⟨rfl, rfl⟩, by simp, by simp⟩)
  | number n =>
    rw [json?] at h
    obtain ⟨x, -, rfl⟩ := Option.map_eq_some_iff.mp h
    exact .inr (.inr ⟨⟨rfl, rfl⟩, by simp, by simp⟩)
  | string t =>
    rw [json?] at h
    obtain ⟨a, rfl, rfl⟩ := Option.map_eq_some_iff.mp h
    exact .inl ⟨a, rfl, rfl⟩
  | array ts =>
    cases levels with
    | zero => cases h
    | succ levels =>
      rw [json?] at h
      obtain ⟨js, hjs, rfl⟩ := Option.map_eq_some_iff.mp h
      exact .inr (.inl ⟨levels, ts, js, rfl, rfl, hjs⟩)
  | object ms =>
    cases levels with
    | zero => cases h
    | succ levels =>
      rw [json?] at h
      obtain ⟨x, -, rfl⟩ := Option.map_eq_some_iff.mp h
      exact .inr (.inr ⟨⟨rfl, rfl⟩, by simp, by simp⟩)

/-- A value is kept as a string if it is a text. -/
theorem text?_of_json? {levels : Nat} : ∀ (t : Tree) (j : Json), t.json? levels = some j →
    (match j with
      | .string p => some p
      | _ => none) = t.text? := by
  intro t j h
  rcases json?_cases h with ⟨a, rfl, rfl⟩ | ⟨_, ts, js, rfl, rfl, -⟩ | ⟨⟨htext, -⟩, hstring, -⟩
  · rfl
  · rfl
  · rw [htext]
    cases j with
    | string a => exact absurd rfl (hstring a)
    | _ => rfl

/-- The patterns of the value that is kept are those of the tree, so that `Json` need not be
mentioned later on. -/
theorem patternsOf_json? {t : Tree} {j : Json} {levels : Nat} (h : t.json? levels = some j) :
    Settings.patternsOf j = t.patterns := by
  rcases json?_cases h with
    ⟨a, rfl, rfl⟩ | ⟨_, ts, js, rfl, rfl, hjs⟩ | ⟨⟨-, hpatterns⟩, hstring, harray⟩
  · rfl
  · exact filterMap_of_mapM text?_of_json? hjs
  · rw [hpatterns]
    cases j with
    | string a => exact absurd rfl (hstring a)
    | array js => exact absurd rfl (harray js)
    | _ => rfl

theorem isWithin_ofTexts {levels : Nat} (texts : List Text) :
    (ofTexts texts).IsWithin (levels + 1) := by
  refine .array fun t ht => ?_
  obtain ⟨a, -, rfl⟩ := List.mem_map.mp ht
  exact .string

theorem isText_ofTexts (texts : List Text) : (ofTexts texts).IsText := by
  refine .array fun t ht => ?_
  obtain ⟨a, -, rfl⟩ := List.mem_map.mp ht
  exact .string

theorem patterns_ofTexts (texts : List Text) : (ofTexts texts).patterns = texts := by
  rw [ofTexts, patterns, List.filterMap_map]
  exact List.filterMap_some

theorem isSome_bool? {t : Tree} : t.bool?.isSome ↔ ∃ b, t = .bool b := by
  simp only [Option.isSome_iff_exists, bool?_eq_some]

theorem isSome_texts? {t : Tree} : t.texts?.isSome ↔ ∃ texts, t = ofTexts texts := by
  simp only [Option.isSome_iff_exists, texts?_eq_some]

end Json.Tree

namespace Settings

/-! ## Readers of values -/

/-- A reader that never comes to a value, as one that is given a value of the wrong type. -/
def Fails {α : Type} (r : Json.Reader α) : Prop := ∀ text, ∃ fault, r text = .error fault

theorem Fails.bind {α β : Type} (r : Json.Reader α) {k : α → Json.Reader β} (h : ∀ a, Fails (k a)) :
    Fails (r >>= k) := by
  intro text
  cases hr : r text with
  | error fault => exact ⟨fault, run_bind_error hr⟩
  | ok a =>
    obtain ⟨fault, hk⟩ := h a.1 a.2
    exact ⟨fault, (run_bind hr).trans hk⟩

theorem wrongType_fails {α : Type} (expected : String) :
    Fails (wrongType expected : Json.Reader α) := by
  have hfail : ∀ found, Fails (Json.Reader.fail (.wrongType found expected.toList) :
      Json.Reader α) := fun found text => ⟨_, rfl⟩
  refine Fails.bind _ fun head => ?_
  split
  · exact hfail _
  · exact hfail _
  · refine Fails.bind _ fun j? => ?_
    split <;> exact hfail _

/-- A number starts with no other character than a dash or a digit. -/
theorem beq_of_number {c d : Char} (hc : c = '-' ∨ c.isDigit) (hdash : d ≠ '-')
    (hdigit : d.isDigit = false) : (some c == some d) = false := by
  refine beq_false_of_ne ?_
  rintro ⟨⟩
  rcases hc with hc | hc
  · exact hdash hc
  · exact Bool.false_ne_true (hdigit.symm.trans hc)

theorem gives_readBool {t : Tree} (h : Stands (.value t) text rest) (hstart : Blanks start text) :
    Gives readBool start t.bool? rest := by
  cases h with
  | yes =>
    refine Gives.congr (run_bind (next_of_blanks hstart rfl)) ?_
    exact run_bind (Json.Reader.scalar_word (Blanks.refl _) (.inr (.inl ⟨rfl, rfl, rfl⟩)))
  | no =>
    refine Gives.congr (run_bind (next_of_blanks hstart rfl)) ?_
    exact run_bind (Json.Reader.scalar_word (Blanks.refl _) (.inr (.inr ⟨rfl, rfl, rfl⟩)))
  | number n hrest =>
    obtain ⟨c, hnext, hc⟩ := Json.Reader.next_number n hstart
    refine Gives.congr (run_bind hnext) ?_
    generalize hhead : some c = head
    split
    · cases hhead
      rcases hc with hc | hc <;> cases hc
    · cases hhead
      rcases hc with hc | hc <;> cases hc
    · exact wrongType_fails _ _
  | _ => exact Gives.congr (run_bind (next_of_blanks hstart rfl)) (wrongType_fails _ _)

theorem gives_readString {t : Tree} (h : Stands (.value t) text rest) (hstart : Blanks start text) :
    Gives readString start t.text? rest := by
  cases h with
  | string h =>
    exact Gives.congr (run_bind (next_of_blanks hstart rfl)) (Json.Reader.gives_quotedString h)
  | number n hrest =>
    obtain ⟨c, hnext, hc⟩ := Json.Reader.next_number n hstart
    refine Gives.congr (run_bind hnext) ?_
    rw [beq_of_number hc (by decide) rfl]
    exact wrongType_fails _ _
  | _ => exact Gives.congr (run_bind (next_of_blanks hstart rfl)) (wrongType_fails _ _)

theorem gives_readStrings {t : Tree} (h : Stands (.value t) text rest)
    (hstart : Blanks start text) : Gives readStrings start t.texts? rest := by
  cases t with
  | array ts =>
    have hstep : ∀ t ∈ ts, ∀ text rest (read : List Text), Stands (.value t) text rest →
        Gives (do return (← readString) :: read) text (t.text?.map (· :: read)) rest :=
      fun t _ text rest read ht => (gives_readString ht (Blanks.refl _)).map
    have harray := Json.Reader.gives_array (a := []) List.reverse hstep h
    rw [Json.Reader.foldlM_cons, Option.map_map] at harray
    obtain ⟨behind, rfl⟩ := (Json.Reader.exists_bracket h).1 ts rfl
    refine Gives.congr (run_bind (next_of_blanks hstart rfl)) ?_
    simpa [Tree.texts?, Function.comp_def] using harray
  | number n =>
    cases h with
    | number n hrest =>
      obtain ⟨c, hnext, hc⟩ := Json.Reader.next_number n hstart
      refine Gives.congr (run_bind hnext) ?_
      rw [beq_of_number hc (by decide) rfl]
      exact wrongType_fails _ _
  | _ => cases h <;> exact Gives.congr (run_bind (next_of_blanks hstart rfl)) (wrongType_fails _ _)

theorem gives_readPatterns {t : Tree} (h : Stands (.value t) text rest)
    (hstart : Blanks start text) :
    Gives readPatterns start ((t.json? (Json.depthLimit - 1)).map patternsOf) rest :=
  (Json.Reader.gives_value _ h hstart).map

/-! ## Fields -/

namespace Field

/-- What a `Field` holds. The type depends on the field, so that one statement can be about all
five. -/
def Value : Field → Type
  | forceInclude | forceExclude | extensions | ignorePatterns => List Text
  | dynamicImports => Bool

/-- What is kept of a value for a field, if it can stand there. Force rules take any value
(`patternsOf`), and the other fields one type only. -/
def value? : (f : Field) → Tree → Option f.Value
  | forceInclude, t | forceExclude, t => (t.json? (Json.depthLimit - 1)).map patternsOf
  | dynamicImports, t => t.bool?
  | extensions, t | ignorePatterns, t => t.texts?

/-- What was read for a field, in its place of `Partial`. -/
def get (p : Partial) : (f : Field) → Option f.Value
  | forceInclude => p.forceInclude
  | forceExclude => p.forceExclude
  | dynamicImports => p.dynamicImports
  | extensions => p.extensions
  | ignorePatterns => p.ignorePatterns

/-- Puts in what was read for a field, in its place of `Partial`. -/
def set (p : Partial) : (f : Field) → f.Value → Partial
  | forceInclude, v => { p with forceInclude := some v }
  | forceExclude, v => { p with forceExclude := some v }
  | dynamicImports, v => { p with dynamicImports := some v }
  | extensions, v => { p with extensions := some v }
  | ignorePatterns, v => { p with ignorePatterns := some v }

variable {p : Partial} {f g : Field}

theorem get_set (v : f.Value) : get (set p f v) f = some v := by
  cases f <;> rfl

theorem get_set_of_ne (h : g ≠ f) (v : f.Value) : get (set p f v) g = get p g := by
  cases f <;> cases g <;> first | rfl | exact absurd rfl h

theorem isRead_eq (f : Field) : f.isRead p = (get p f).isSome := by
  cases f <;> rfl

theorem get_nothing (f : Field) : get Partial.nothing f = none := by
  cases f <;> rfl

theorem key_injective (h : f.key = g.key) : f = g := by
  revert h
  cases f <;> cases g <;> decide

/-- A field is found by its `key`, as no two have the same. -/
theorem find?_key (f : Field) : (all.find? fun g => g.key == f.key) = some f := by
  cases f <;> decide

theorem find?_eq_none {key : Text} (h : ∀ f : Field, f.key ≠ key) :
    (all.find? fun f => f.key == key) = none := by
  simp [h]

/-- **The value of a field is read**, or refused if it cannot stand there (`value?`). There is one
case for each reader, and not for each field. -/
theorem gives_read (f : Field) {t : Tree} (h : Stands (.value t) text rest)
    (hstart : Blanks start text) : Gives (f.read p) start ((f.value? t).map (set p f)) rest := by
  cases f with
  | forceInclude | forceExclude => exact (gives_readPatterns h hstart).map
  | dynamicImports => exact (gives_readBool h hstart).map
  | extensions | ignorePatterns => exact (gives_readStrings h hstart).map

end Field

/-! ## Members -/

/-- What a member does to what was read before it (`Partial`). A known key that comes a second time
is refused, and an unknown one changes nothing. -/
def addValue (p : Partial) (key : Text) (t : Tree) : Option Partial :=
  match Field.all.find? fun f => f.key == key with
  | some f => if f.isRead p then none else (f.value? t).map (f.set p)
  | none => some p

variable {p : Partial} {key : Text} {t : Tree} {f : Field}

theorem addValue_key (f : Field) (t : Tree) :
    addValue p f.key t = if (f.get p).isSome then none else (f.value? t).map (f.set p) := by
  rw [addValue, f.find?_key, ← f.isRead_eq]

theorem addValue_of_ne (h : ∀ f : Field, f.key ≠ key) (t : Tree) : addValue p key t = some p := by
  rw [addValue, Field.find?_eq_none h]

/-- A known key that was not there before is put in. -/
theorem addMember_key {v : f.Value} (hnone : f.get p = none) (hv : f.value? t = some v) :
    Json.Reader.addMember addValue p (some f.key, t) = some (f.set p v) := by
  change addValue p f.key t = _
  rw [addValue_key, hnone, hv]
  rfl

/-- **A member is read** behind its key (`addValue`): a known one as its field, while any other is
skipped. -/
theorem takesMembers_readMember (ms : List (Option Text × Tree)) :
    Json.Reader.TakesMembers readMember addValue ms := by
  intro m _ key _ text behind value rest p hcolon hblanks ht
  rw [readMember, addValue]
  cases Field.all.find? fun f => f.key == key with
  | none =>
    refine Gives.congr (run_bind (Json.Reader.colon_eq hcolon)) ?_
    exact run_bind (Json.Reader.skipValue_eq ht hblanks)
  | some f =>
    dsimp only
    cases f.isRead p with
    | true => exact ⟨_, rfl⟩
    | false =>
      refine Gives.congr (run_bind (Json.Reader.colon_eq hcolon)) ?_
      exact Field.gives_read f ht hblanks

/-- Whether each known key (`Field.key`) stands once at most. Unknown keys may be repeated. -/
def KnownOnce (ms : List (Option Text × Tree)) : Prop :=
  ms.Pairwise fun m m' => ∀ f : Field, m.1 = some f.key → m'.1 ≠ some f.key

variable {ms : List (Option Text × Tree)}

/-- The value under a known key that stands once is the one that is found, wherever it stands. -/
theorem KnownOnce.lookup_eq_some (h : KnownOnce ms) :
    ms.lookup (some f.key) = some t ↔ (some f.key, t) ∈ ms := by
  induction ms with
  | nil => simp
  | cons m ms ih =>
    obtain ⟨key, t'⟩ := m
    obtain ⟨hfirst, hothers⟩ := List.pairwise_cons.mp h
    by_cases hkey : key = some f.key
    · subst hkey
      have hothers : (some f.key, t) ∉ ms := fun hm => hfirst _ hm f rfl rfl
      simp [hothers, eq_comm]
    · have hne : (some f.key == key) = false := beq_false_of_ne fun h => hkey h.symm
      have hother : (some f.key, t) ≠ (key, t') := fun h => hkey (congrArg Prod.fst h).symm
      simp [List.lookup_cons, hne, hother, ih hothers]

/-- What was read of an object is what was found under each known key. The induction is on the
members, and `p` is what those before have come to. -/
theorem foldlM_addValue (hkeys : ∀ m ∈ ms, m.1.isSome) (honce : KnownOnce ms)
    (hvalues : ∀ (f : Field) t, (some f.key, t) ∈ ms → (f.value? t).isSome)
    (hfresh : ∀ (f : Field) t, (some f.key, t) ∈ ms → f.get p = none) :
    ∃ q, ms.foldlM (Json.Reader.addMember addValue) p = some q ∧
      ∀ f : Field, f.get q = ((ms.lookup (some f.key)).bind f.value?).or (f.get p) := by
  induction ms generalizing p with
  | nil => exact ⟨p, rfl, fun f => rfl⟩
  | cons m ms ih =>
    obtain ⟨key, t⟩ := m
    obtain ⟨key, rfl⟩ := Option.isSome_iff_exists.mp (hkeys _ List.mem_cons_self)
    obtain ⟨hfirst, hothers⟩ := List.pairwise_cons.mp honce
    have hbehind := fun p hfresh => ih (p := p) (fun m hm => hkeys m (List.mem_cons_of_mem _ hm))
      hothers (fun f t hm => hvalues f t (List.mem_cons_of_mem _ hm)) hfresh
    rw [List.foldlM_cons]
    by_cases hknown : ∃ f : Field, f.key = key
    · obtain ⟨f, rfl⟩ := hknown
      obtain ⟨v, hv⟩ := Option.isSome_iff_exists.mp (hvalues f t List.mem_cons_self)
      have hadd := addMember_key (hfresh f t List.mem_cons_self) hv
      have hnone : ∀ t, (some f.key, t) ∉ ms := fun t hm => hfirst _ hm f rfl rfl
      obtain ⟨q, hq, hget⟩ := hbehind (f.set p v) fun g t hm => by
        have hne : g ≠ f := fun h => hnone t (h ▸ hm)
        rw [Field.get_set_of_ne hne]
        exact hfresh g t (List.mem_cons_of_mem _ hm)
      refine ⟨q, by rw [hadd]; exact hq, fun g => ?_⟩
      rw [hget g]
      by_cases hg : g = f
      · subst hg
        have hlookup : ms.lookup (some g.key) = none :=
          Option.eq_none_iff_forall_not_mem.mpr fun t ht =>
            hnone t ((KnownOnce.lookup_eq_some hothers).mp ht)
        simp [hlookup, Field.get_set, hv]
      · have hne : (some g.key == some f.key) = false :=
          beq_false_of_ne fun h => hg (Field.key_injective (Option.some.inj h))
        rw [List.lookup_cons, hne, Field.get_set_of_ne hg]
    · have hadd : Json.Reader.addMember addValue p (some key, t) = some p :=
        addValue_of_ne (fun f hf => hknown ⟨f, hf⟩) t
      obtain ⟨q, hq, hget⟩ := hbehind p fun f t hm => hfresh f t (List.mem_cons_of_mem _ hm)
      refine ⟨q, by rw [hadd]; exact hq, fun f => ?_⟩
      have hne : (some f.key == some key) = false :=
        beq_false_of_ne fun h => hknown ⟨f, Option.some.inj h⟩
      rw [List.lookup_cons, hne, hget f]

/-- An object is refused with any of its members that `step` refuses. -/
theorem foldlM_eq_none {α β : Type} {step : α → β → Option α} {m : β} {ms : List β} (hm : m ∈ ms)
    (h : ∀ a, step a m = none) (a : α) : ms.foldlM step a = none := by
  induction ms generalizing a with
  | nil => cases hm
  | cons m' ms ih =>
    rw [List.foldlM_cons]
    rcases List.mem_cons.mp hm with rfl | hm
    · rw [h a]
      rfl
    · cases step a m' with
      | none => rfl
      | some a => exact ih hm a

end Settings

end DotJs
