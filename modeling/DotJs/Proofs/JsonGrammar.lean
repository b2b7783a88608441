import DotJs.Json.Printer
import DotJs.Json.Reader

/-!
# The grammar of JSON

What a JSON document is, told without a reader: any number of blanks between its tokens, strings
with all escapes that there are, and whole numbers. A document with fractions or exponents is not
meant here. A place in a text is told by all that follows it, so that `Writes part text rest` says
that a part is written between two places.

* `Spells` is about strings, `Writes` about values and about what follows an opening bracket;
* `isDocument_text`: whatever is printed is a document, if it holds whole numbers only.
-/

namespace DotJs.Json

/-! ## Places in a text -/

/-- Whether there are only blanks (`isBlank`) between two places, or none at all. -/
def Blanks (text rest : Text) : Prop :=
  ∃ blanks : Text, (∀ c ∈ blanks, Reader.isBlank c) ∧ text = blanks ++ rest

/-- Whether a number ends here. Without this `12` would also be written as `1` with a rest. -/
def EndsNumber (rest : Text) : Prop :=
  ∀ c, rest.head? = some c → c.isDigit = false ∧ c ≠ '.' ∧ c ≠ 'e' ∧ c ≠ 'E'

/-- The number of four hexadecimal digits, as an escape has them behind its `u`. -/
inductive FourDigits : Nat → Text → Text → Prop
  /-- the digits, of which the first one counts most -/
  | digits {a b c d : Char} {x y z w : Nat} {rest : Text} (ha : hexDigit? a = some x)
      (hb : hexDigit? b = some y) (hc : hexDigit? c = some z) (hd : hexDigit? d = some w) :
      FourDigits (((x * 16 + y) * 16 + z) * 16 + w) (a :: b :: c :: d :: rest) rest

/-- The characters of a string, from behind its opening quote on. Two escapes that are a surrogate
pair spell one character, and one half alone spells none. -/
inductive Spells : Text → Text → Text → Prop
  /-- the closing quote -/
  | close {rest : Text} : Spells [] ('"' :: rest) rest
  /-- a character that stands for itself -/
  | plain {c : Char} {cs text rest : Text} (hquote : c ≠ '"') (hslash : c ≠ '\\')
      (hcontrol : 0x20 ≤ c.toNat) (h : Spells cs text rest) : Spells (c :: cs) (c :: text) rest
  /-- an escape of one letter -/
  | letter {e c : Char} {cs text rest : Text} (he : Reader.letterEscape? e = some c)
      (h : Spells cs text rest) : Spells (c :: cs) ('\\' :: e :: text) rest
  /-- an escape by number -/
  | number {n : Nat} {cs text text' rest : Text} (hn : FourDigits n text text')
      (hwhole : n < 0xD800 ∨ 0xDFFF < n) (h : Spells cs text' rest) :
      Spells (Char.ofNat n :: cs) ('\\' :: 'u' :: text) rest
  /-- an escape by the two numbers of a surrogate pair -/
  | pair {n m : Nat} {cs text text' text'' rest : Text}
      (hn : FourDigits n text ('\\' :: 'u' :: text')) (hfirst : 0xD800 ≤ n ∧ n ≤ 0xDBFF)
      (hm : FourDigits m text' text'') (hsecond : 0xDC00 ≤ m ∧ m ≤ 0xDFFF)
      (h : Spells cs text'' rest) :
      Spells (Char.ofNat ((n - 0xD800) * 0x400 + (m - 0xDC00) + 0x10000) :: cs)
        ('\\' :: 'u' :: text) rest

/-- A part of a document. What follows an element is a part of its own, so that `Writes` need not be
mutual with a relation for lists. -/
inductive Part where
  /-- a value -/
  | value (j : Json)
  /-- a member of an object -/
  | member (m : Text × Json)
  /-- what follows an element of a list, up to the closing bracket -/
  | elements (js : List Json)
  /-- what follows a member of an object, up to the closing brace -/
  | members (ms : List (Text × Json))

/-- A part of a document is written between two places. The rules are those of the grammar, with
blanks wherever it allows them, and know nothing of how a report is laid out. -/
inductive Writes : Part → Text → Text → Prop
  /-- `null` -/
  | null {rest : Text} : Writes (.value .null) ('n' :: ("ull".toList ++ rest)) rest
  /-- `true` -/
  | yes {rest : Text} : Writes (.value (.bool true)) ('t' :: ("rue".toList ++ rest)) rest
  /-- `false` -/
  | no {rest : Text} : Writes (.value (.bool false)) ('f' :: ("alse".toList ++ rest)) rest
  /-- a whole number -/
  | natural {n : Nat} {rest : Text} (hrest : EndsNumber rest) :
      Writes (.value (.number (.natural n))) (Text.ofNat n ++ rest) rest
  /-- a negative whole number -/
  | negative {n : Nat} {rest : Text} (hn : 0 < n) (hrest : EndsNumber rest) :
      Writes (.value (.number (.negative n))) ('-' :: (Text.ofNat n ++ rest)) rest
  /-- a string -/
  | string {t text rest : Text} (h : Spells t text rest) :
      Writes (.value (.string t)) ('"' :: text) rest
  /-- a list without elements -/
  | noElement {text rest : Text} (h : Blanks text (']' :: rest)) :
      Writes (.value (.array [])) ('[' :: text) rest
  /-- a list -/
  | array {j : Json} {js : List Json} {text first others rest : Text} (hblanks : Blanks text first)
      (hj : Writes (.value j) first others) (hjs : Writes (.elements js) others rest) :
      Writes (.value (.array (j :: js))) ('[' :: text) rest
  /-- an object without members -/
  | noMember {text rest : Text} (h : Blanks text ('}' :: rest)) :
      Writes (.value (.object [])) ('{' :: text) rest
  /-- an object -/
  | object {m : Text × Json} {ms : List (Text × Json)} {text first others rest : Text}
      (hblanks : Blanks text first) (hm : Writes (.member m) first others)
      (hms : Writes (.members ms) others rest) :
      Writes (.value (.object (m :: ms))) ('{' :: text) rest
  /-- a member -/
  | member {key : Text} {j : Json} {text colon behind value rest : Text}
      (hkey : Spells key text colon) (hcolon : Blanks colon (':' :: behind))
      (hblanks : Blanks behind value) (hj : Writes (.value j) value rest) :
      Writes (.member (key, j)) ('"' :: text) rest
  /-- the end of a list -/
  | listEnd {text rest : Text} (h : Blanks text (']' :: rest)) : Writes (.elements []) text rest
  /-- one more element -/
  | element {j : Json} {js : List Json} {text behind value others rest : Text}
      (hcomma : Blanks text (',' :: behind)) (hblanks : Blanks behind value)
      (hj : Writes (.value j) value others) (hjs : Writes (.elements js) others rest) :
      Writes (.elements (j :: js)) text rest
  /-- the end of an object -/
  | objectEnd {text rest : Text} (h : Blanks text ('}' :: rest)) : Writes (.members []) text rest
  /-- one more member -/
  | memberBehind {m : Text × Json} {ms : List (Text × Json)}
      {text behind member others rest : Text} (hcomma : Blanks text (',' :: behind))
      (hblanks : Blanks behind member) (hm : Writes (.member m) member others)
      (hms : Writes (.members ms) others rest) : Writes (.members (m :: ms)) text rest

/-- Whether a text is a document that holds a value: the value (`Writes`), and nothing but blanks
around it. -/
def IsDocument (j : Json) (text : Text) : Prop :=
  ∃ first behind, Blanks text first ∧ Writes (.value j) first behind ∧ Blanks behind []

/-! ## Numbers in a value -/

mutual

/-- Whether all numbers in a value are of some kind. The range of numbers is a matter of the reader
and not of the grammar. -/
def AllNumbers (p : Number → Prop) : Json → Prop
  | .null | .bool _ | .string _ => True
  | .number n => p n
  | .array js => AllNumbersOf p js
  | .object ms => AllNumbersIn p ms

/-- Whether all numbers in some values are of some kind, as `Json` is nested through lists. -/
def AllNumbersOf (p : Number → Prop) : List Json → Prop
  | [] => True
  | j :: js => AllNumbers p j ∧ AllNumbersOf p js

/-- Whether all numbers in some members are of some kind. -/
def AllNumbersIn (p : Number → Prop) : List (Text × Json) → Prop
  | [] => True
  | (_, j) :: ms => AllNumbers p j ∧ AllNumbersIn p ms

end

theorem allNumbersOf_iff {p : Number → Prop} {js : List Json} :
    AllNumbersOf p js ↔ ∀ j ∈ js, j.AllNumbers p := by
  induction js with
  | nil => simp [AllNumbersOf]
  | cons j js ih => simp [AllNumbersOf, ih]

/-- Whether a `Number` is a whole one, written without an exponent. Reports hold no others. -/
def Number.IsWhole : Number → Prop
  | .natural _ => True
  | .negative n => 0 < n
  | .float _ _ => False

/-! ## What is printed -/

variable {text rest : Text} {level : Nat}

theorem Blanks.refl (text : Text) : Blanks text text := ⟨[], List.forall_mem_nil _, rfl⟩

theorem blanks_newLine (level : Nat) (rest : Text) : Blanks (newLine level ++ rest) rest := by
  refine ⟨newLine level, fun c hc => ?_, rfl⟩
  rcases List.mem_cons.mp hc with rfl | hc
  · rfl
  · rw [List.eq_of_mem_replicate hc]
    rfl

theorem endsNumber_newLine (level : Nat) (rest : Text) : EndsNumber (newLine level ++ rest) := by
  intro c hc
  obtain rfl : '\n' = c := Option.some.inj hc
  decide

theorem endsNumber_comma (rest : Text) : EndsNumber (',' :: rest) := by
  intro c hc
  obtain rfl : ',' = c := Option.some.inj hc
  decide

theorem endsNumber_elementsAt (level : Nat) (js : List Json) (rest : Text) :
    EndsNumber (elementsAt level js ++ rest) := by
  cases js with
  | nil =>
    rw [elementsAt, List.append_assoc]
    exact endsNumber_newLine _ _
  | cons j js =>
    rw [elementsAt]
    exact endsNumber_comma _

theorem endsNumber_membersAt (level : Nat) (ms : List (Text × Json)) (rest : Text) :
    EndsNumber (membersAt level ms ++ rest) := by
  cases ms with
  | nil =>
    rw [membersAt, List.append_assoc]
    exact endsNumber_newLine _ _
  | cons m ms =>
    rw [membersAt]
    exact endsNumber_comma _

theorem hexDigit?_digitChar {n : Nat} (h : n < 16) : hexDigit? n.digitChar = some n := by
  revert n
  decide

/-- A character is spelled by its escape, or by itself if it has none. -/
theorem Spells.escapedChar {cs : Text} (c : Char) (h : Spells cs text rest) :
    Spells (c :: cs) (escapedChar c ++ text) rest := by
  unfold Json.escapedChar
  split
  · exact .letter rfl h
  · exact .letter rfl h
  · exact .letter rfl h
  · exact .letter rfl h
  · exact .letter rfl h
  · exact .letter rfl h
  · exact .letter rfl h
  · next hquote hslash _ _ _ _ _ =>
    split
    · next hcontrol =>
      have hdigits : FourDigits (((0 * 16 + 0) * 16 + c.toNat / 16) * 16 + c.toNat % 16)
          ('0' :: '0' :: (c.toNat / 16).digitChar :: (c.toNat % 16).digitChar :: text) text :=
        .digits rfl rfl (hexDigit?_digitChar (by omega)) (hexDigit?_digitChar (by omega))
      have hvalue : ((0 * 16 + 0) * 16 + c.toNat / 16) * 16 + c.toNat % 16 = c.toNat := by omega
      rw [hvalue] at hdigits
      have hspells := Spells.number hdigits (.inl (by omega)) h
      rwa [Char.ofNat_toNat] at hspells
    · next hcontrol => exact .plain hquote hslash (by omega) h

/-- What is printed between quotes spells the string (`Spells`), whatever characters it has. -/
theorem spells_escaped (t rest : Text) :
    Spells t (t.flatMap escapedChar ++ '"' :: rest) rest := by
  induction t with
  | nil => exact .close
  | cons c cs ih =>
    rw [List.flatMap_cons, List.append_assoc]
    exact ih.escapedChar c

theorem writes_stringText (t rest : Text) :
    Writes (.value (.string t)) (stringText t ++ rest) rest := by
  have h := Writes.string (spells_escaped t rest)
  simpa [stringText] using h

theorem writes_number {n : Number} (h : n.IsWhole) (hrest : EndsNumber rest) :
    Writes (.value (.number n)) (n.text ++ rest) rest := by
  cases n with
  | natural n => exact .natural hrest
  | negative n => exact .negative h hrest
  | float isNegative x => cases h

/-- A member is written as its key, a colon and its value. -/
theorem Writes.printedMember (key : Text) {j : Json} {value : Text}
    (hj : Writes (.value j) value rest) :
    Writes (.member (key, j)) (stringText key ++ ':' :: ' ' :: value) rest := by
  have h := Writes.member (spells_escaped key (':' :: ' ' :: value)) (Blanks.refl _)
    ⟨[' '], List.forall_mem_singleton.mpr rfl, rfl⟩ hj
  simpa [stringText] using h

mutual

/-- **What is printed for a value writes it** (`Writes`), at any level of indentation. -/
theorem writes_textAt (level : Nat) (j : Json) (h : j.AllNumbers Number.IsWhole) (rest : Text)
    (hrest : EndsNumber rest) : Writes (.value j) (textAt level j ++ rest) rest := by
  cases j with
  | null => exact .null
  | bool b => cases b with
    | true => exact .yes
    | false => exact .no
  | number n => exact writes_number h hrest
  | string t => exact writes_stringText t rest
  | array js => cases js with
    | nil => exact .noElement (Blanks.refl _)
    | cons j js =>
      obtain ⟨hj, hjs⟩ : j.AllNumbers Number.IsWhole ∧ AllNumbersOf Number.IsWhole js := h
      have hothers := writes_elementsAt level js hjs rest
      have hfirst := writes_textAt (level + 1) j hj _ (endsNumber_elementsAt level js rest)
      rw [textAt, List.append_assoc, List.append_assoc]
      exact .array (blanks_newLine _ _) hfirst hothers
  | object ms => cases ms with
    | nil => exact .noMember (Blanks.refl _)
    | cons m ms =>
      obtain ⟨key, j⟩ := m
      obtain ⟨hj, hms⟩ : j.AllNumbers Number.IsWhole ∧ AllNumbersIn Number.IsWhole ms := h
      have hothers := writes_membersAt level ms hms rest
      have hfirst := writes_textAt (level + 1) j hj _ (endsNumber_membersAt level ms rest)
      have hobject := Writes.object (blanks_newLine (level + 1) _) (hfirst.printedMember key)
        hothers
      simpa [textAt] using hobject

/-- What is printed behind an element writes the other elements. -/
theorem writes_elementsAt (level : Nat) (js : List Json) (h : AllNumbersOf Number.IsWhole js)
    (rest : Text) : Writes (.elements js) (elementsAt level js ++ rest) rest := by
  cases js with
  | nil =>
    rw [elementsAt, List.append_assoc]
    exact .listEnd (blanks_newLine _ _)
  | cons j js =>
    obtain ⟨hj, hjs⟩ : j.AllNumbers Number.IsWhole ∧ AllNumbersOf Number.IsWhole js := h
    have hothers := writes_elementsAt level js hjs rest
    have hfirst := writes_textAt (level + 1) j hj _ (endsNumber_elementsAt level js rest)
    rw [elementsAt, List.append_assoc, List.append_assoc]
    exact .element (Blanks.refl _) (blanks_newLine _ _) hfirst hothers

/-- What is printed behind a member writes the other members. -/
theorem writes_membersAt (level : Nat) (ms : List (Text × Json))
    (h : AllNumbersIn Number.IsWhole ms) (rest : Text) :
    Writes (.members ms) (membersAt level ms ++ rest) rest := by
  cases ms with
  | nil =>
    rw [membersAt, List.append_assoc]
    exact .objectEnd (blanks_newLine _ _)
  | cons m ms =>
    obtain ⟨key, j⟩ := m
    obtain ⟨hj, hms⟩ : j.AllNumbers Number.IsWhole ∧ AllNumbersIn Number.IsWhole ms := h
    have hothers := writes_membersAt level ms hms rest
    have hfirst := writes_textAt (level + 1) j hj _ (endsNumber_membersAt level ms rest)
    have hmember := Writes.memberBehind (Blanks.refl _) (blanks_newLine (level + 1) _)
      (hfirst.printedMember key) hothers
    simpa [membersAt] using hmember

end

/-- **Whatever is printed is a document**, if it holds whole numbers only (`Number.IsWhole`). -/
theorem isDocument_text {j : Json} (h : j.AllNumbers Number.IsWhole) : IsDocument j j.text := by
  refine ⟨j.text, [], Blanks.refl _, ?_, Blanks.refl _⟩
  have hwrites := writes_textAt 0 j h [] (fun c hc => nomatch hc)
  rwa [List.append_nil] at hwrites

end DotJs.Json
