import DotJs.Proofs.SettingsFields

/-!
# Reading settings

What a settings file comes to that is a JSON object, by its members: in any order, between any
blanks, with anything at all under keys that are not known.

* `Settings.IsSettings` says which objects are settings, and `Settings.settingsOf` which settings
  they are;
* `Settings.ofText_toJson`: settings that were written are read back;
* `Settings.ofText_object` is all of it.
-/

namespace DotJs

open Json (Tree Stands Blanks Quotes)
open Json.Reader (Gives run_bind next_of_blanks)

namespace Settings

variable {text rest start : Text} {ms : List (Option Text × Tree)} {f : Field} {t : Tree}

/-! ## Objects -/

/-- Which objects are settings. Only a `Field` has a condition; what stands under other keys does
not matter, as long as these are texts. -/
structure IsSettings (ms : List (Option Text × Tree)) : Prop where
  /-- all keys are texts -/
  keys : ∀ m ∈ ms, m.1.isSome
  /-- the strings in the value of a force rule are texts, whatever it is -/
  patterns : ∀ f : Field, f = .forceInclude ∨ f = .forceExclude →
    ∀ t, (some f.key, t) ∈ ms → t.IsText
  /-- there is no other value than a truth value -/
  dynamicImports : ∀ t, (some (Field.key .dynamicImports), t) ∈ ms → ∃ b, t = .bool b
  /-- there is no other value than a list of texts -/
  texts : ∀ f : Field, f = .extensions ∨ f = .ignorePatterns →
    ∀ t, (some f.key, t) ∈ ms → ∃ texts, t = .ofTexts texts

/-- The `Settings` that an object is: under each known key its value, or else the default. It looks
members up and so does not see their order. -/
def settingsOf (ms : List (Option Text × Tree)) : Settings where
  forceInclude := (ms.lookup (some (Field.key .forceInclude))).elim [] Tree.patterns
  forceExclude := (ms.lookup (some (Field.key .forceExclude))).elim [] Tree.patterns
  dynamicImports := ((ms.lookup (some (Field.key .dynamicImports))).bind Tree.bool?).getD false
  extensions :=
    ((ms.lookup (some (Field.key .extensions))).bind Tree.texts?).getD defaultExtensions
  ignorePatterns :=
    ((ms.lookup (some (Field.key .ignorePatterns))).bind Tree.texts?).getD defaultIgnorePatterns

/-- Whether the values of the force rules are not nested too deeply, and their numbers in range
(`Tree.IsWithin`). These values are kept before they are looked at, which has limits that skipping
has not. -/
def AreWithin (ms : List (Option Text × Tree)) : Prop :=
  ∀ f : Field, f = .forceInclude ∨ f = .forceExclude → ∀ t, (some f.key, t) ∈ ms →
    t.IsWithin (Json.depthLimit - 1)

theorem isSome_patternsOf (h : t.IsWithin (Json.depthLimit - 1)) :
    ((t.json? (Json.depthLimit - 1)).map patternsOf).isSome ↔ t.IsText := by
  rw [Option.isSome_map, Tree.isSome_json?]
  exact ⟨fun h => h.2, fun htext => ⟨h, htext⟩⟩

/-- An object is settings if something is kept under each known key (`value?`). -/
theorem isSettings_iff (hwithin : AreWithin ms) :
    IsSettings ms ↔ (∀ m ∈ ms, m.1.isSome) ∧
      ∀ (f : Field) t, (some f.key, t) ∈ ms → (f.value? t).isSome := by
  constructor
  · rintro ⟨hkeys, hpatterns, hbool, htexts⟩
    refine ⟨hkeys, fun f t ht => ?_⟩
    cases f with
    | forceInclude =>
      exact (isSome_patternsOf (hwithin _ (.inl rfl) t ht)).mpr (hpatterns _ (.inl rfl) t ht)
    | forceExclude =>
      exact (isSome_patternsOf (hwithin _ (.inr rfl) t ht)).mpr (hpatterns _ (.inr rfl) t ht)
    | dynamicImports => exact Tree.isSome_bool?.mpr (hbool t ht)
    | extensions => exact Tree.isSome_texts?.mpr (htexts _ (.inl rfl) t ht)
    | ignorePatterns => exact Tree.isSome_texts?.mpr (htexts _ (.inr rfl) t ht)
  · rintro ⟨hkeys, hvalues⟩
    refine ⟨hkeys, ?_, fun t ht => Tree.isSome_bool?.mp (hvalues _ t ht), ?_⟩
    · rintro f (rfl | rfl) t ht
      · exact (isSome_patternsOf (hwithin _ (.inl rfl) t ht)).mp (hvalues _ t ht)
      · exact (isSome_patternsOf (hwithin _ (.inr rfl) t ht)).mp (hvalues _ t ht)
    · rintro f (rfl | rfl) t ht
      · exact Tree.isSome_texts?.mp (hvalues _ t ht)
      · exact Tree.isSome_texts?.mp (hvalues _ t ht)

/-- The patterns of a value that is kept, or none where there is no value. -/
theorem getD_patternsOf {t? : Option Tree} {levels : Nat}
    (h : ∀ t ∈ t?, (t.json? levels).isSome) :
    (t?.bind fun t => (t.json? levels).map patternsOf).getD [] = t?.elim [] Tree.patterns := by
  cases t? with
  | none => rfl
  | some t =>
    obtain ⟨j, hj⟩ := Option.isSome_iff_exists.mp (h t rfl)
    simp [hj, Tree.patternsOf_json? hj]

/-- What was read of an object is completed to its settings, with defaults for what was not
there. -/
theorem complete_eq {q : Partial} (honce : KnownOnce ms)
    (hvalues : ∀ (f : Field) t, (some f.key, t) ∈ ms → (f.value? t).isSome)
    (hget : ∀ f : Field, f.get q = (ms.lookup (some f.key)).bind f.value?) :
    q.complete = settingsOf ms := by
  have hkept : ∀ f : Field, f = .forceInclude ∨ f = .forceExclude →
      ∀ t ∈ ms.lookup (some f.key), (t.json? (Json.depthLimit - 1)).isSome := by
    rintro f (rfl | rfl) t ht
    · exact Option.isSome_map.symm.trans (hvalues .forceInclude t (honce.lookup_eq_some.mp ht))
    · exact Option.isSome_map.symm.trans (hvalues .forceExclude t (honce.lookup_eq_some.mp ht))
  have hinclude := getD_patternsOf (hkept .forceInclude (.inl rfl))
  have hexclude := getD_patternsOf (hkept .forceExclude (.inr rfl))
  have hincludes : q.forceInclude = _ := hget .forceInclude
  have hexcludes : q.forceExclude = _ := hget .forceExclude
  have hdynamic : q.dynamicImports = _ := hget .dynamicImports
  have hextensions : q.extensions = _ := hget .extensions
  have hignores : q.ignorePatterns = _ := hget .ignorePatterns
  rw [Partial.complete, settingsOf, hincludes, hexcludes, hdynamic, hextensions, hignores,
    ← hinclude, ← hexclude]
  rfl

/-- An object is read by its members (`addMember`), one after the other. -/
theorem gives_reader (h : Stands (.value (.object ms)) text rest) (hstart : Blanks start text) :
    Gives reader start
      ((ms.foldlM (Json.Reader.addMember addValue) Partial.nothing).map Partial.complete) rest := by
  have hobject := Json.Reader.gives_object (a := Partial.nothing) Partial.complete
    (takesMembers_readMember ms) h
  obtain ⟨behind, rfl⟩ := (Json.Reader.exists_bracket h).2 ms rfl
  exact Gives.congr (run_bind (next_of_blanks hstart rfl)) hobject

/-- An object that is settings (`IsSettings`) is read as these. -/
theorem ofText_eq_ok (h : (Tree.object ms).IsHeldBy text) (honce : KnownOnce ms)
    (hwithin : AreWithin ms) (hsettings : IsSettings ms) : ofText text = .ok (settingsOf ms) := by
  obtain ⟨hkeys, hvalues⟩ := (isSettings_iff hwithin).mp hsettings
  obtain ⟨first, behind, hfirst, hstands, hbehind⟩ := h
  obtain ⟨q, hq, hget⟩ := foldlM_addValue (p := .nothing) hkeys honce hvalues
    fun f _ _ => Field.get_nothing f
  have hreader := gives_reader hstands hfirst
  rw [hq, Option.map_some] at hreader
  rw [ofText, read, Json.document_of_ok hreader hbehind]
  refine congrArg _ (complete_eq honce hvalues fun f => ?_)
  rw [hget, Field.get_nothing, Option.or_none]

/-- An object that is no settings (`IsSettings`) is refused, whatever else is in it. -/
theorem ofText_eq_error (h : (Tree.object ms).IsHeldBy text) (hwithin : AreWithin ms)
    (hsettings : ¬IsSettings ms) : ∃ fault, ofText text = .error (.unparsable fault) := by
  obtain ⟨first, behind, hfirst, hstands, -⟩ := h
  have hbad : ∃ m ∈ ms, ∀ p, Json.Reader.addMember addValue p m = none := by
    by_cases hkeys : ∀ m ∈ ms, m.1.isSome
    · have hvalues : ¬∀ (f : Field) t, (some f.key, t) ∈ ms → (f.value? t).isSome :=
        fun h => hsettings ((isSettings_iff hwithin).mpr ⟨hkeys, h⟩)
      simp only [Classical.not_forall, Option.not_isSome_iff_eq_none] at hvalues
      obtain ⟨f, t, ht, hnone⟩ := hvalues
      refine ⟨_, ht, fun p => ?_⟩
      change addValue p f.key t = none
      rw [addValue_key, hnone]
      split <;> rfl
    · simp only [Classical.not_forall, Option.not_isSome_iff_eq_none] at hkeys
      obtain ⟨⟨key, t⟩, hm, hnone⟩ := hkeys
      obtain rfl : key = none := hnone
      exact ⟨_, hm, fun _ => rfl⟩
  obtain ⟨m, hm, hnone⟩ := hbad
  have hreader := gives_reader hstands hfirst
  rw [foldlM_eq_none hm hnone] at hreader
  obtain ⟨fault, hfault⟩ := hreader
  refine ⟨fault, ?_⟩
  rw [ofText, read, Json.document_of_error hfault]

/-! ## What settings files come to -/

/-- Objects with the same members under known keys are the same settings. -/
theorem settingsOf_congr {ms' : List (Option Text × Tree)} (honce : KnownOnce ms)
    (honce' : KnownOnce ms')
    (hsame : ∀ (f : Field) t, (some f.key, t) ∈ ms' ↔ (some f.key, t) ∈ ms) :
    settingsOf ms' = settingsOf ms := by
  have hlookup : ∀ f : Field, ms'.lookup (some f.key) = ms.lookup (some f.key) := fun f =>
    Option.ext fun t => (honce'.lookup_eq_some.trans (hsame f t)).trans honce.lookup_eq_some.symm
  simp only [settingsOf, hlookup]

theorem isSettings_congr {ms' : List (Option Text × Tree)} (hkeys : ∀ m ∈ ms, m.1.isSome)
    (hkeys' : ∀ m ∈ ms', m.1.isSome)
    (hsame : ∀ (f : Field) t, (some f.key, t) ∈ ms' ↔ (some f.key, t) ∈ ms) :
    IsSettings ms' ↔ IsSettings ms := by
  constructor
  · rintro ⟨-, hpatterns, hbool, htexts⟩
    exact ⟨hkeys, fun f hf t ht => hpatterns f hf t ((hsame f t).mpr ht),
      fun t ht => hbool t ((hsame _ t).mpr ht), fun f hf t ht => htexts f hf t ((hsame f t).mpr ht)⟩
  · rintro ⟨-, hpatterns, hbool, htexts⟩
    exact ⟨hkeys', fun f hf t ht => hpatterns f hf t ((hsame f t).mp ht),
      fun t ht => hbool t ((hsame _ t).mp ht), fun f hf t ht => htexts f hf t ((hsame f t).mp ht)⟩

/-- The value under a known key of settings that are written, as `Settings.toJson` has it. -/
def valueOf (s : Settings) : Field → Tree
  | .forceInclude => .ofTexts s.forceInclude
  | .forceExclude => .ofTexts s.forceExclude
  | .dynamicImports => .bool s.dynamicImports
  | .extensions => .ofTexts s.extensions
  | .ignorePatterns => .ofTexts s.ignorePatterns

/-- The members of settings that are written, with all known keys (`Field.all`). -/
def members (s : Settings) : List (Option Text × Tree) :=
  Field.all.map fun f => (some f.key, s.valueOf f)

variable (s : Settings)

/-- Settings are written as an object with their members. -/
theorem tree_toJson : s.toJson.tree = .object s.members := by
  have htexts : ∀ ts : List Text,
      Json.treesOf (ts.map .string) = ts.map fun a => .string (some a) := by
    intro ts
    induction ts with
    | nil => rfl
    | cons t ts ih => rw [List.map_cons, Json.treesOf, Json.tree, ih, List.map_cons]
  simp only [toJson, Json.tree, Json.treesIn, htexts]
  rfl

theorem mem_members : (some f.key, t) ∈ s.members ↔ t = s.valueOf f := by
  have hall : f ∈ Field.all := by cases f <;> decide
  rw [members, List.mem_map]
  constructor
  · rintro ⟨g, -, heq⟩
    obtain ⟨hkey, rfl⟩ := Prod.mk.inj heq
    rw [Field.key_injective (Option.some.inj hkey)]
  · rintro rfl
    exact ⟨f, hall, rfl⟩

theorem knownOnce_members : KnownOnce s.members := by
  have hdistinct : Field.all.Pairwise (· ≠ ·) := by decide
  refine List.pairwise_map.mpr (hdistinct.imp fun hne f hf hg => hne ?_)
  exact Field.key_injective (Option.some.inj (hf.trans hg.symm))

theorem areWithin_members : AreWithin s.members := by
  rintro f (rfl | rfl) t ht <;> rw [s.mem_members.mp ht] <;> exact Tree.isWithin_ofTexts _

theorem isSettings_members : IsSettings s.members := by
  refine ⟨fun m hm => ?_, ?_, fun t ht => ⟨_, s.mem_members.mp ht⟩, ?_⟩
  · obtain ⟨f, -, rfl⟩ := List.mem_map.mp hm
    rfl
  · rintro f (rfl | rfl) t ht <;> rw [s.mem_members.mp ht] <;> exact Tree.isText_ofTexts _
  · rintro f (rfl | rfl) t ht <;> exact ⟨_, s.mem_members.mp ht⟩

theorem settingsOf_members : settingsOf s.members = s := by
  have hlookup : ∀ f : Field, s.members.lookup (some f.key) = some (s.valueOf f) := fun f =>
    s.knownOnce_members.lookup_eq_some.mpr (s.mem_members.mpr rfl)
  have htexts : ∀ ts, (Tree.ofTexts ts).texts? = some ts := fun ts => Tree.texts?_eq_some.mpr rfl
  simp only [settingsOf, hlookup, Option.elim_some, Option.bind_some, valueOf, htexts,
    Tree.patterns_ofTexts, Tree.bool?, Option.getD_some]

/-- **Settings that were written are read back.** The text may be any document with the value
(`Json.IsDocument`), not just the one that is printed. -/
theorem ofText_toJson (h : Json.IsDocument s.toJson text) : ofText text = .ok s := by
  obtain ⟨first, behind, hfirst, hwrites, hbehind⟩ := h
  have hstands := hwrites.stands
  rw [Json.Part.tree, tree_toJson] at hstands
  rw [ofText_eq_ok ⟨first, behind, hfirst, hstands, hbehind⟩ s.knownOnce_members
    s.areWithin_members s.isSettings_members, settingsOf_members]

theorem isDocument_toJson : Json.IsDocument s.toJson s.toJson.text := by
  have htexts : ∀ ts : List Text,
      (Json.array (ts.map .string)).AllNumbers Json.Number.IsWhole := by
    intro ts
    refine Json.allNumbersOf_iff.mpr fun j hj => ?_
    obtain ⟨a, -, rfl⟩ := List.mem_map.mp hj
    trivial
  exact Json.isDocument_text ⟨htexts _, htexts _, trivial, htexts _, htexts _, trivial⟩

/-- **What a settings file comes to that is an object**, if each known key stands once at most
(`KnownOnce`). It is settings (`IsSettings`, `settingsOf`) or it is refused, by what stands under
known keys only, wherever that is; and settings that were written are read back. -/
theorem ofText_object (h : (Tree.object ms).IsHeldBy text) (honce : KnownOnce ms)
    (hwithin : AreWithin ms) :
    (IsSettings ms → ofText text = .ok (settingsOf ms)) ∧
      (¬IsSettings ms → ∃ fault, ofText text = .error (.unparsable fault)) ∧
      (∀ ms' text', (Tree.object ms').IsHeldBy text' → KnownOnce ms' →
        (∀ m ∈ ms, m.1.isSome) → (∀ m ∈ ms', m.1.isSome) →
        (∀ (f : Field) t, (some f.key, t) ∈ ms' ↔ (some f.key, t) ∈ ms) →
        ∀ s, ofText text' = .ok s ↔ ofText text = .ok s) ∧
      ∀ s : Settings, (∀ written, Json.IsDocument s.toJson written → ofText written = .ok s) ∧
        ofText s.toJson.text = .ok s := by
  refine ⟨ofText_eq_ok h honce hwithin, ofText_eq_error h hwithin, ?_, fun s => ?_⟩
  · intro ms' text' h' honce' hkeys hkeys' hsame s
    have hwithin' : AreWithin ms' := fun f hf t ht => hwithin f hf t ((hsame f t).mp ht)
    by_cases hsettings : IsSettings ms
    · have hsettings' := (isSettings_congr hkeys hkeys' hsame).mpr hsettings
      rw [ofText_eq_ok h honce hwithin hsettings, ofText_eq_ok h' honce' hwithin' hsettings',
        settingsOf_congr honce honce' hsame]
    · have hsettings' := fun h => hsettings ((isSettings_congr hkeys hkeys' hsame).mp h)
      obtain ⟨fault, hfault⟩ := ofText_eq_error h hwithin hsettings
      obtain ⟨fault', hfault'⟩ := ofText_eq_error h' hwithin' hsettings'
      rw [hfault, hfault']
      exact ⟨nofun, nofun⟩
  · exact ⟨fun written => s.ofText_toJson, s.ofText_toJson s.isDocument_toJson⟩

/-- A member stands where its key is printed. -/
theorem stands_printed (key : Text) {value : Text} (h : Stands (.value t) value rest) :
    Stands (.member (some key, t)) (Json.stringText key ++ ':' :: value) rest := by
  have hmember := Stands.member (.text (Json.spells_escaped key (':' :: value))) (Blanks.refl _)
    (Blanks.refl _) h
  simpa [Json.stringText] using hmember

/-- The number `9e999`, which no binary fraction can hold. -/
def tooLarge : Json.Numeral :=
  { Json.Numeral.ofNat false 9 with
    exponent := some
      { mark := 'e'
        sign := none
        digits := List.replicate 3 '9'
        isMark := .inl rfl
        isSign := nofun
        isDigits := ⟨nofun, fun _ hc => List.eq_of_mem_replicate hc ▸ rfl⟩ } }

/-- An unknown key can stand anywhere, with a number that no other value could hold. -/
theorem ofText_object_unknown_key :
    let text := "\x7b\"x\":9e999,\"dynamicImports\":true\x7d".toList
    let ms :=
      [(some "x".toList, Tree.number tooLarge), (some "dynamicImports".toList, Tree.bool true)]
    (Tree.object ms).IsHeldBy text ∧ KnownOnce ms ∧ AreWithin ms ∧ IsSettings ms ∧
      ofText text = .ok { Settings.default with dynamicImports := true } := by
  intro text ms
  have hyes : Stands (.value (.bool true)) ('t' :: ("rue".toList ++ ['}'])) ['}'] := .yes
  have hdynamic := stands_printed "dynamicImports".toList hyes
  have hlarge := stands_printed "x".toList (Stands.number tooLarge (Json.endsNumber_comma
    (Json.stringText "dynamicImports".toList ++ ':' :: 't' :: ("rue".toList ++ ['}']))))
  have hheld : (Tree.object ms).IsHeldBy text :=
    ⟨_, [], Blanks.refl _, .object (Blanks.refl _) hlarge
      (.memberBehind (Blanks.refl _) (Blanks.refl _) hdynamic (.objectEnd (Blanks.refl _))),
      Blanks.refl _⟩
  have hknown : ∀ (f : Field) t, (some f.key, t) ∈ ms → f = .dynamicImports ∧ t = .bool true := by
    intro f t ht
    rcases List.mem_cons.mp ht with h | h
    · obtain ⟨hkey, -⟩ := Prod.mk.inj h
      cases f <;> exact absurd hkey (by decide)
    · obtain ⟨hkey, rfl⟩ := Prod.mk.inj (List.mem_singleton.mp h)
      exact ⟨Field.key_injective (Option.some.inj hkey), rfl⟩
  have honce : KnownOnce ms := by
    refine List.pairwise_pair.mpr fun f hkey => ?_
    cases f <;> exact absurd hkey (by decide)
  have hwithin : AreWithin ms := by
    rintro f (rfl | rfl) t ht <;> exact absurd (hknown _ t ht).1 (by decide)
  have hsettings : IsSettings ms := by
    refine ⟨by simp [ms], ?_, fun t ht => ⟨true, (hknown _ t ht).2⟩, ?_⟩
    · rintro f (rfl | rfl) t ht <;> exact absurd (hknown _ t ht).1 (by decide)
    · rintro f (rfl | rfl) t ht <;> exact absurd (hknown _ t ht).1 (by decide)
  exact ⟨hheld, honce, hwithin, hsettings, (ofText_object hheld honce hwithin).1 hsettings⟩

/-- A string that ends with half of a surrogate pair spells no text (`Spells`). -/
theorem not_spells_half {n : Nat} {behind : Text} (hn : Json.FourDigits n text ('"' :: rest))
    (hhalf : 0xD800 ≤ n ∧ n ≤ 0xDFFF) (t : Text) : ¬Json.Spells t ('\\' :: 'u' :: text) behind := by
  have hunique : ∀ m text', Json.FourDigits m text text' → m = n ∧ text' = '"' :: rest := by
    intro m text' hm
    have heq := (Json.Reader.fourDigits_eq hm).symm.trans (Json.Reader.fourDigits_eq hn)
    exact Prod.mk.inj (Except.ok.inj heq)
  intro h
  cases h with
  | plain _ hslash => exact hslash rfl
  | letter he => cases he
  | number hm hwhole =>
    obtain ⟨rfl, -⟩ := hunique _ _ hm
    omega
  | pair hm => cases (hunique _ _ hm).2

theorem eq_error_of_match {ε α : Type} {x : Except ε α} {e : ε}
    (h : (match x with
      | .ok _ => none
      | .error e => some e) = some e) : x = .error e := by
  cases x with
  | ok a => cases h
  | error e => rw [Option.some.inj h]

/-- A key with half of a surrogate pair is no text, and no object with it is settings. And of two
values that are wrong, the one that comes first is told. -/
theorem ofText_unpaired_surrogate :
    let text := "\x7b\"\\ud800\":true\x7d".toList
    let ms := [((none : Option Text), Tree.bool true)]
    (Tree.object ms).IsHeldBy text ∧ KnownOnce ms ∧ AreWithin ms ∧
      (∀ (f : Field) t, (some f.key, t) ∉ ms) ∧
      ofText text = .error (.unparsable .halfEscape) ∧
      ofText "\x7b\"dynamicImports\":null,\"extensions\":null\x7d".toList =
        .error (.unparsable (.wrongType .null "a boolean".toList)) ∧
      ofText "\x7b\"extensions\":null,\"dynamicImports\":null\x7d".toList =
        .error (.unparsable (.wrongType .null "a sequence".toList)) := by
  intro text ms
  have hdigits (behind : Text) :
      Json.FourDigits 0xD800 ('d' :: '8' :: '0' :: '0' :: behind) behind :=
    .digits (x := 13) (y := 8) (z := 0) (w := 0) rfl rfl rfl rfl
  have hkey (behind : Text) :
      Quotes none ('\\' :: 'u' :: 'd' :: '8' :: '0' :: '0' :: '"' :: behind) behind :=
    .half (.number (hdigits _) .close) (not_spells_half (hdigits _) (by decide))
  have hyes : Stands (.value (.bool true)) ('t' :: ("rue".toList ++ ['}'])) ['}'] := .yes
  have hmember := Stands.member (hkey _) (Blanks.refl _) (Blanks.refl _) hyes
  have hheld : (Tree.object ms).IsHeldBy text :=
    ⟨_, [], Blanks.refl _, .object (Blanks.refl _) hmember (.objectEnd (Blanks.refl _)),
      Blanks.refl _⟩
  have hknown : ∀ (f : Field) t, (some f.key, t) ∉ ms := by simp [ms]
  exact ⟨hheld, List.pairwise_singleton _ _, fun f _ t ht => absurd ht (hknown f t), hknown, rfl,
    eq_error_of_match (by decide +kernel), eq_error_of_match (by decide +kernel)⟩

end Settings

end DotJs
