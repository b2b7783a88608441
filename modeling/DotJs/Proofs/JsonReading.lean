import DotJs.Proofs.JsonTokens

/-!
# Reading JSON

A reader takes from a text what the grammar says stands there, and refuses what cannot be kept. A
list is gone through by any reader of its elements, and an object by any reader of what follows its
keys: for each, one lemma says that what is read is a fold over the parts.

* `Tree.json?` is what is kept of a tree, and `Tree.isSome_json?` says when there is something;
* `Reader.gives_array` and `Reader.gives_object` are about lists and objects;
* `Reader.gives_value`: a value is read as `Tree.json?`, or refused if that is none;
* `read_of_isDocument`: every document is read as the value that it holds.
-/

namespace DotJs.Json

variable {text rest : Text} {c : Char} {levels : Nat}

/-! ## What is kept of a tree -/

namespace Tree

/-- The value that is kept of a `Tree`, with at most so many levels of lists and objects. There is
none if it has more, or a number that is too large, or a string that is no text. -/
def json? : (levels : Nat) → Tree → Option Json
  | _, .null => some .null
  | _, .bool b => some (.bool b)
  | _, .number n => n.number.toOption.map .number
  | _, .string t => t.map .string
  | 0, .array _ | 0, .object _ => none
  | levels + 1, .array ts => (ts.mapM (json? levels)).map .array
  | levels + 1, .object ms =>
    (ms.mapM fun (m : Option Text × Tree) =>
      m.1.bind fun key => (json? levels m.2).map (key, ·)).map .object

theorem isSome_mapM {α β : Type} {f : α → Option β} {xs : List α} :
    (xs.mapM f).isSome ↔ ∀ x ∈ xs, (f x).isSome := by
  induction xs with
  | nil => simp
  | cons x xs ih =>
    rw [List.mapM_cons, List.forall_mem_cons, ← ih]
    cases f x with
    | none => simp
    | some y => cases xs.mapM f <;> simp

theorem isWithin_array {ts : List Tree} :
    IsWithin (levels + 1) (.array ts) ↔ ∀ t ∈ ts, IsWithin levels t :=
  ⟨fun | .array h => h, .array⟩

theorem isWithin_object {ms : List (Option Text × Tree)} :
    IsWithin (levels + 1) (.object ms) ↔ ∀ m ∈ ms, IsWithin levels m.2 :=
  ⟨fun | .object h => h, .object⟩

theorem isText_array {ts : List Tree} : IsText (.array ts) ↔ ∀ t ∈ ts, IsText t :=
  ⟨fun | .array h => h, .array⟩

theorem isText_object {ms : List (Option Text × Tree)} :
    IsText (.object ms) ↔ (∀ m ∈ ms, m.1.isSome) ∧ ∀ m ∈ ms, IsText m.2 :=
  ⟨fun | .object hkeys h => ⟨hkeys, h⟩, fun h => .object h.1 h.2⟩

/-- A value without parts takes no level. -/
theorem isSome_json?_scalar {t : Tree} (harray : ∀ ts, t ≠ .array ts)
    (hobject : ∀ ms, t ≠ .object ms) :
    (t.json? levels).isSome ↔ IsWithin levels t ∧ IsText t := by
  cases t with
  | null => simp [json?, IsWithin.null, IsText.null]
  | bool b => simp [json?, IsWithin.bool, IsText.bool]
  | number n =>
    rw [json?]
    constructor
    · intro h
      cases hnumber : n.number with
      | error fault => simp [hnumber, Except.toOption] at h
      | ok x => exact ⟨.number ⟨x, hnumber⟩, .number⟩
    · rintro ⟨hwithin, -⟩
      cases hwithin with
      | number h =>
        obtain ⟨x, hnumber⟩ := h
        simp [hnumber, Except.toOption]
  | string t =>
    rw [json?]
    cases t with
    | none => exact ⟨nofun, fun h => nomatch h.2⟩
    | some t => exact ⟨fun _ => ⟨.string, .string⟩, fun _ => rfl⟩
  | array ts => exact absurd rfl (harray ts)
  | object ms => exact absurd rfl (hobject ms)

/-- **What can be kept**: a value that is not nested too deeply, with numbers in range (`IsWithin`)
and texts for strings (`IsText`). -/
theorem isSome_json? {t : Tree} : (t.json? levels).isSome ↔ IsWithin levels t ∧ IsText t := by
  induction levels generalizing t with
  | zero =>
    cases t with
    | array ts => exact ⟨nofun, fun h => nomatch h.1⟩
    | object ms => exact ⟨nofun, fun h => nomatch h.1⟩
    | _ => exact isSome_json?_scalar (by simp) (by simp)
  | succ levels ih =>
    cases t with
    | array ts =>
      rw [json?, Option.isSome_map, isSome_mapM, isWithin_array, isText_array]
      constructor
      · exact fun h => ⟨fun t ht => (ih.mp (h t ht)).1, fun t ht => (ih.mp (h t ht)).2⟩
      · exact fun h t ht => ih.mpr ⟨h.1 t ht, h.2 t ht⟩
    | object ms =>
      have hmember : ∀ m : Option Text × Tree,
          (m.1.bind fun key => (json? levels m.2).map (key, ·)).isSome ↔
            IsWithin levels m.2 ∧ m.1.isSome ∧ IsText m.2 := by
        rintro ⟨key, t⟩
        rw [and_left_comm, ← ih]
        cases key <;> simp
      rw [json?, Option.isSome_map, isSome_mapM, isWithin_object, isText_object]
      constructor
      · exact fun h => ⟨fun m hm => ((hmember m).mp (h m hm)).1,
          fun m hm => ((hmember m).mp (h m hm)).2.1, fun m hm => ((hmember m).mp (h m hm)).2.2⟩
      · exact fun h m hm => (hmember m).mpr ⟨h.1 m hm, h.2.1 m hm, h.2.2 m hm⟩
    | _ => exact isSome_json?_scalar (by simp) (by simp)

end Tree

namespace Reader

/-! ## Lists -/

section Elements

variable {α β : Type} {step : α → Reader α} {f : α → Tree → Option α} {a : α} {steps : Nat}
  {start behind : Text}

theorem elements_end (first : Bool) (h : Blanks start (']' :: rest)) :
    elements step (steps + 1) first a start = .ok (a, ']' :: rest) := by
  rw [elements]
  exact run_bind (next_of_blanks h rfl)

theorem elements_first (h : Blanks start (c :: text)) (hblank : isBlank c = false)
    (hc : c ≠ ']') :
    elements step (steps + 1) true a start =
      (step a >>= fun a => elements step steps false a) (c :: text) := by
  rw [elements]
  refine (run_bind (next_of_blanks h hblank)).trans ?_
  generalize hhead : some c = head
  split
  · cases hhead
  · cases hhead
    exact absurd rfl hc
  · rfl

theorem elements_comma (hcomma : Blanks start (',' :: behind)) (h : Blanks behind (c :: text))
    (hblank : isBlank c = false) (hc : c ≠ ']') :
    elements step (steps + 1) false a start =
      (step a >>= fun a => elements step steps false a) (c :: text) := by
  rw [elements]
  refine (run_bind (next_of_blanks hcomma rfl)).trans ?_
  refine (run_bind (drop_cons _ behind)).trans ?_
  refine (run_bind (next_of_blanks h hblank)).trans ?_
  generalize hhead : some c = head
  split
  · cases hhead
  · cases hhead
    exact absurd rfl hc
  · rfl

theorem listEnd_eq : listEnd (']' :: rest) = .ok ((), rest) := by
  rw [listEnd]
  exact run_bind (next_of_blanks (Blanks.refl _) rfl)

/-- What follows an element (`Stands (.elements ts)`) is gone through one by one. The reader counts
its steps, and there are enough of them when there is one for each character left. -/
theorem gives_elements {ts : List Tree}
    (hstep : ∀ t ∈ ts, ∀ text rest a, Stands (.value t) text rest →
      Gives (step a) text (f a t) rest)
    (h : Stands (.elements ts) text rest) (hsteps : text.length < steps) :
    Gives (elements step steps false a) text (ts.foldlM f a) (']' :: rest) := by
  induction ts generalizing text steps a with
  | nil =>
    obtain ⟨steps, rfl⟩ := Nat.exists_eq_add_of_le' (Nat.zero_lt_of_lt hsteps)
    cases h with
    | listEnd h => exact elements_end false h
  | cons t ts ih =>
    obtain ⟨steps, rfl⟩ := Nat.exists_eq_add_of_le' (Nat.zero_lt_of_lt hsteps)
    cases h with
    | element hcomma hblanks ht hts =>
      have hcomma' := hcomma.length_le
      have hblanks' := hblanks.length_le
      have hshort := ht.length_lt
      rw [List.length_cons] at hcomma'
      have hfirst := hstep t List.mem_cons_self _ _ a ht
      obtain ⟨c, text', rfl, hblank, hc⟩ := ht.exists_head
      refine Gives.congr (elements_comma hcomma hblanks hblank hc) ?_
      exact hfirst.bind fun a _ =>
        ih (fun t ht => hstep t (List.mem_cons_of_mem _ ht)) hts (by omega)

/-- **A list is gone through** by any reader of its elements. The settings and generic values are
read by different readers, hence `step` and `finish`. -/
theorem gives_array {ts : List Tree} (finish : α → β)
    (hstep : ∀ t ∈ ts, ∀ text rest a, Stands (.value t) text rest →
      Gives (step a) text (f a t) rest)
    (h : Stands (.value (.array ts)) text rest) :
    Gives (do
      drop
      let a ← elements step (← bound) true a
      listEnd
      return finish a) text ((ts.foldlM f a).map finish) rest := by
  cases h with
  | @noElement text _ h =>
    refine (run_bind (drop_cons _ text)).trans ?_
    refine (run_bind (bound_eq text)).trans ?_
    refine (run_bind (elements_end true h)).trans ?_
    exact run_bind listEnd_eq
  | @array t ts text first others _ hblanks ht hts =>
    have hfirst := hstep t List.mem_cons_self _ _ a ht
    have hshort := Nat.lt_of_lt_of_le ht.length_lt hblanks.length_le
    have helements : Gives (elements step (text.length + 1) true a) text
        ((t :: ts).foldlM f a) (']' :: rest) := by
      obtain ⟨c, text', rfl, hblank, hc⟩ := ht.exists_head
      refine Gives.congr (elements_first hblanks hblank hc) ?_
      exact hfirst.bind fun a _ =>
        gives_elements (fun t ht => hstep t (List.mem_cons_of_mem _ ht)) hts hshort
    refine Gives.congr (run_bind (drop_cons _ text)) ?_
    refine Gives.congr (run_bind (bound_eq text)) ?_
    rw [Option.map_eq_bind]
    exact helements.bind fun a _ => run_bind listEnd_eq

end Elements

/-! ## Objects -/

section Members

variable {α β : Type} {step : Text → α → Reader α} {f : α → Text → Tree → Option α} {a : α}
  {steps : Nat} {start behind key : Text} {m : Option Text × Tree}

theorem members_end (first : Bool) (h : Blanks start ('}' :: rest)) :
    members step (steps + 1) first a start = .ok (a, '}' :: rest) := by
  rw [members]
  exact run_bind (next_of_blanks h rfl)

theorem members_first (h : Blanks start ('"' :: text)) :
    members step (steps + 1) true a start =
      ((do step (← quotedString) a) >>= fun a => members step steps false a) ('"' :: text) := by
  rw [members, bind_assoc]
  exact run_bind (next_of_blanks h rfl)

theorem members_comma (hcomma : Blanks start (',' :: behind)) (h : Blanks behind ('"' :: text)) :
    members step (steps + 1) false a start =
      ((do step (← quotedString) a) >>= fun a => members step steps false a) ('"' :: text) := by
  rw [members, bind_assoc]
  refine (run_bind (next_of_blanks hcomma rfl)).trans ?_
  refine (run_bind (drop_cons _ behind)).trans ?_
  exact run_bind (next_of_blanks h rfl)

theorem objectEnd_eq : objectEnd ('}' :: rest) = .ok ((), rest) := by
  rw [objectEnd]
  exact run_bind (next_of_blanks (Blanks.refl _) rfl)

/-- Whether a reader takes each value of some members as it should, from behind the key on
(`Gives`). -/
def TakesMembers (step : Text → α → Reader α) (f : α → Text → Tree → Option α)
    (ms : List (Option Text × Tree)) : Prop :=
  ∀ m ∈ ms, ∀ key ∈ m.1, ∀ text behind value rest a, Blanks text (':' :: behind) →
    Blanks behind value → Stands (.value m.2) value rest →
      Gives (step key a) text (f a key m.2) rest

/-- What a member does, if its key is a text. A key that is none makes the whole object fail. -/
def addMember (f : α → Text → Tree → Option α) (a : α) (m : Option Text × Tree) : Option α :=
  m.1.bind fun key => f a key m.2

/-- A member is read (`addMember`) by its key and what follows. -/
theorem gives_member {ms : List (Option Text × Tree)} (hstep : TakesMembers step f ms) (hm : m ∈ ms)
    (h : Stands (.member m) text rest) :
    Gives (do step (← quotedString) a) text (addMember f a m) rest := by
  cases h with
  | member hkey hcolon hblanks ht =>
    exact (gives_quotedString hkey).bind fun key hsome =>
      hstep _ hm key hsome _ _ _ _ a hcolon hblanks ht

/-- What follows a member is gone through one by one, as `gives_elements` does it for lists. -/
theorem gives_members {ms : List (Option Text × Tree)} (hstep : TakesMembers step f ms)
    (h : Stands (.members ms) text rest) (hsteps : text.length < steps) :
    Gives (members step steps false a) text (ms.foldlM (addMember f) a) ('}' :: rest) := by
  induction ms generalizing text steps a with
  | nil =>
    obtain ⟨steps, rfl⟩ := Nat.exists_eq_add_of_le' (Nat.zero_lt_of_lt hsteps)
    cases h with
    | objectEnd h => exact members_end false h
  | cons m ms ih =>
    obtain ⟨steps, rfl⟩ := Nat.exists_eq_add_of_le' (Nat.zero_lt_of_lt hsteps)
    cases h with
    | memberBehind hcomma hblanks hm hms =>
      have hcomma' := hcomma.length_le
      have hblanks' := hblanks.length_le
      have hshort := hm.length_lt
      rw [List.length_cons] at hcomma'
      have hfirst : Gives _ _ (addMember f a m) _ :=
        gives_member (a := a) hstep List.mem_cons_self hm
      obtain ⟨text', rfl⟩ := hm.exists_quote
      refine Gives.congr (members_comma hcomma hblanks) ?_
      exact hfirst.bind fun a _ =>
        ih (fun m hm => hstep m (List.mem_cons_of_mem _ hm)) hms (by omega)

/-- **An object is gone through** by any reader of what follows its keys, if this `TakesMembers`. -/
theorem gives_object {ms : List (Option Text × Tree)} (finish : α → β)
    (hstep : TakesMembers step f ms) (h : Stands (.value (.object ms)) text rest) :
    Gives (do
      drop
      let a ← members step (← bound) true a
      objectEnd
      return finish a) text ((ms.foldlM (addMember f) a).map finish) rest := by
  cases h with
  | @noMember text _ h =>
    refine (run_bind (drop_cons _ text)).trans ?_
    refine (run_bind (bound_eq text)).trans ?_
    refine (run_bind (members_end true h)).trans ?_
    exact run_bind objectEnd_eq
  | @object m ms text first others _ hblanks hm hms =>
    have hfirst := gives_member (a := a) hstep List.mem_cons_self hm
    have hshort := Nat.lt_of_lt_of_le hm.length_lt hblanks.length_le
    have hmembers : Gives (members step (text.length + 1) true a) text
        ((m :: ms).foldlM (addMember f) a) ('}' :: rest) := by
      obtain ⟨text', rfl⟩ := hm.exists_quote
      refine Gives.congr (members_first hblanks) ?_
      exact hfirst.bind fun a _ =>
        gives_members (fun m hm => hstep m (List.mem_cons_of_mem _ hm)) hms hshort
    refine Gives.congr (run_bind (drop_cons _ text)) ?_
    refine Gives.congr (run_bind (bound_eq text)) ?_
    rw [Option.map_eq_bind]
    exact hmembers.bind fun a _ => run_bind objectEnd_eq

end Members

/-! ## Values -/

/-- What is read one by one is read in reverse. -/
theorem foldlM_cons {α β : Type} (g : α → Option β) (xs : List α) (ys : List β) :
    xs.foldlM (fun ys x => (g x).map (· :: ys)) ys = (xs.mapM g).map (·.reverse ++ ys) := by
  induction xs generalizing ys with
  | nil => rfl
  | cons x xs ih =>
    rw [List.foldlM_cons, List.mapM_cons]
    cases g x with
    | none => rfl
    | some y =>
      refine (ih (y :: ys)).trans ?_
      cases xs.mapM g with
      | none => rfl
      | some zs => simp

/-- The reader `value` starts with the values that have no parts. -/
theorem gives_value_of_scalar {start : Text} {j? : Option Json} (levels : Nat)
    (h : Gives scalar start (j?.map some) rest) : Gives (value levels) start j? rest := by
  cases j? with
  | none =>
    obtain ⟨fault, h⟩ := h
    cases levels <;> exact ⟨fault, run_bind_error h⟩
  | some j => cases levels <;> exact run_bind h

/-- A value without parts is read by `scalar`, whatever the levels. -/
theorem gives_scalar {t : Tree} {start : Text} (levels : Nat) (h : Stands (.value t) text rest)
    (hstart : Blanks start text) (harray : ∀ ts, t ≠ .array ts) (hobject : ∀ ms, t ≠ .object ms) :
    Gives scalar start ((t.json? levels).map some) rest := by
  cases h with
  | null =>
    rw [Tree.json?]
    exact scalar_word hstart (.inl ⟨rfl, rfl, rfl⟩)
  | yes =>
    rw [Tree.json?]
    exact scalar_word hstart (.inr (.inl ⟨rfl, rfl, rfl⟩))
  | no =>
    rw [Tree.json?]
    exact scalar_word hstart (.inr (.inr ⟨rfl, rfl, rfl⟩))
  | number n hrest =>
    rw [Tree.json?, Option.map_map]
    exact gives_scalar_number n hrest hstart
  | string h =>
    rw [Tree.json?, Option.map_map]
    exact gives_scalar_string hstart h
  | noElement | array => exact absurd rfl (harray _)
  | noMember | object => exact absurd rfl (hobject _)

/-- A list or an object starts with its bracket. -/
theorem exists_bracket {t : Tree} (h : Stands (.value t) text rest) :
    (∀ ts, t = .array ts → ∃ behind, text = '[' :: behind) ∧
      ∀ ms, t = .object ms → ∃ behind, text = '{' :: behind := by
  constructor
  · rintro ts rfl
    cases h <;> exact ⟨_, rfl⟩
  · rintro ms rfl
    cases h <;> exact ⟨_, rfl⟩

/-- **A value is read**, or refused if there is none to be kept. The induction is on the levels, and
the parts are left to `gives_array` and `gives_object`. -/
theorem gives_value {t : Tree} {start : Text} (levels : Nat) (h : Stands (.value t) text rest)
    (hstart : Blanks start text) : Gives (value levels) start (t.json? levels) rest := by
  induction levels generalizing t start text rest with
  | zero =>
    cases t with
    | array ts =>
      obtain ⟨behind, rfl⟩ := (exists_bracket h).1 ts rfl
      exact ⟨.tooDeep, run_bind (scalar_bracket hstart (.inl rfl))⟩
    | object ms =>
      obtain ⟨behind, rfl⟩ := (exists_bracket h).2 ms rfl
      exact ⟨.tooDeep, run_bind (scalar_bracket hstart (.inr rfl))⟩
    | _ => exact gives_value_of_scalar 0 (gives_scalar 0 h hstart (by simp) (by simp))
  | succ levels ih =>
    cases t with
    | array ts =>
      have hstep : ∀ t ∈ ts, ∀ text rest (js : List Json), Stands (.value t) text rest →
          Gives (do return (← value levels) :: js) text ((t.json? levels).map (· :: js)) rest :=
        fun t _ text rest js ht => (ih ht (Blanks.refl _)).map
      have harray := gives_array (a := []) (fun js => Json.array js.reverse) hstep h
      rw [foldlM_cons, Option.map_map] at harray
      obtain ⟨behind, rfl⟩ := (exists_bracket h).1 ts rfl
      rw [value]
      refine Gives.congr (run_bind (scalar_bracket hstart (.inl rfl))) ?_
      refine Gives.congr (run_bind (next_of_blanks (Blanks.refl _) rfl)) ?_
      simpa [Tree.json?, Function.comp_def] using harray
    | object ms =>
      have hstep : TakesMembers (fun key ms => do
          colon
          return (key, ← value levels) :: ms)
          (fun ms key t => (t.json? levels).map fun j => (key, j) :: ms) ms := by
        intro m _ key _ text behind value rest ms hcolon hblanks ht
        refine Gives.congr (run_bind (colon_eq hcolon)) ?_
        exact (ih ht hblanks).map (f := fun j => (key, j) :: ms)
      have hobject := gives_object (a := []) (fun ms => Json.object ms.reverse) hstep h
      obtain ⟨behind, rfl⟩ := (exists_bracket h).2 ms rfl
      have hadd : addMember (fun ms key t => (t.json? levels).map fun j => (key, j) :: ms) =
          fun ms (m : Option Text × Tree) =>
            (m.1.bind fun key => (m.2.json? levels).map (key, ·)).map (· :: ms) := by
        funext ms m
        simp [addMember, Option.map_bind, Function.comp_def]
      rw [hadd, foldlM_cons, Option.map_map] at hobject
      rw [value]
      refine Gives.congr (run_bind (scalar_bracket hstart (.inr rfl))) ?_
      refine Gives.congr (run_bind (next_of_blanks (Blanks.refl _) rfl)) ?_
      simpa [Tree.json?, Function.comp_def] using hobject
    | _ => exact gives_value_of_scalar _ (gives_scalar _ h hstart (by simp) (by simp))

/-! ## Whole numbers -/

theorem isDigit_of_mem_ofNat {n : Nat} (h : c ∈ Text.ofNat n) : c.isDigit :=
  Nat.isDigit_of_mem_toDigits (by decide) (by decide) h

/-- A number starts with a digit. -/
theorem exists_ofNat_eq_cons (n : Nat) : ∃ c digits, Text.ofNat n = c :: digits ∧ c.isDigit := by
  obtain ⟨c, digits, hdigits⟩ : ∃ c digits, Text.ofNat n = c :: digits :=
    List.exists_cons_of_ne_nil Nat.toDigits_ne_nil
  refine ⟨c, digits, hdigits, isDigit_of_mem_ofNat (n := n) ?_⟩
  rw [hdigits]
  exact List.mem_cons_self

/-- No other number than zero starts with a zero, as the grammar asks. -/
theorem head_ofNat_ne_zero {n : Nat} (hn : 0 < n) : (Text.ofNat n).head? ≠ some '0' := by
  induction n using Nat.strongRecOn with
  | ind n ih =>
    by_cases hsmall : n < 10
    · have hdigit : ∀ n < 10, 0 < n → n.digitChar ≠ '0' := by decide
      rw [Text.ofNat, Nat.toDigits_of_lt_base hsmall, List.head?_cons]
      exact fun h => hdigit n hsmall hn (Option.some.inj h)
    · have hhead := ih (n / 10) (by omega) (by omega)
      obtain ⟨c, digits, hdigits, -⟩ := exists_ofNat_eq_cons (n / 10)
      rw [hdigits] at hhead
      rw [Text.ofNat] at hdigits
      rwa [Text.ofNat, Nat.toDigits_of_base_le (by decide) (by omega), hdigits]

theorem le_ofDigitChars (digits : Text) (n : Nat) : n ≤ Nat.ofDigitChars 10 digits n := by
  induction digits generalizing n with
  | nil => exact Nat.le_refl n
  | cons c digits ih =>
    rw [Nat.ofDigitChars_cons]
    exact Nat.le_trans (by omega) (ih _)

/-- The digits of a number of 64 bits are all counted in, and none is dropped. -/
theorem significand_eq {digits : Text} {n : Nat}
    (h : Nat.ofDigitChars 10 digits n < 0x10000000000000000) :
    significand n digits = (Nat.ofDigitChars 10 digits n, 0) := by
  induction digits generalizing n with
  | nil => rfl
  | cons c digits ih =>
    rw [Nat.ofDigitChars_cons, Nat.mul_comm] at h ⊢
    simp only [significand]
    rw [if_pos (Nat.lt_of_le_of_lt (le_ofDigitChars digits _) h), ih h]

theorem significand_ofNat {n : Nat} (h : n < 0x10000000000000000) :
    significand 0 (Text.ofNat n) = (n, 0) := by
  have hvalue : Nat.ofDigitChars 10 (Text.ofNat n) 0 = n := Nat.ofDigitChars_ten_toDigits
  rw [significand_eq (by rwa [hvalue]), hvalue]

end Reader

namespace Numeral

variable {n : Nat}

/-- A whole number as it is printed (`Text.ofNat`), which the grammar allows. -/
def ofNat (isNegative : Bool) (n : Nat) : Numeral where
  isNegative := isNegative
  whole := Text.ofNat n
  fraction := none
  exponent := none
  isWhole := ⟨Nat.toDigits_ne_nil, fun _ => Reader.isDigit_of_mem_ofNat⟩
  isZero h := by
    have hzero : n = 0 := Nat.eq_zero_of_not_pos fun hn => Reader.head_ofNat_ne_zero hn h
    rw [hzero]
    rfl
  isFraction := nofun

theorem text_ofNat (isNegative : Bool) (n : Nat) :
    (ofNat isNegative n).text = (if isNegative then ['-'] else []) ++ Text.ofNat n :=
  congrArg _ (List.append_nil _)

theorem number_natural (h : n < 0x10000000000000000) :
    (ofNat false n).number = .ok (.natural n) := by
  simp [number, ofNat, Reader.significand_ofNat h]

theorem number_negative (hn : 0 < n) (h : n ≤ 0x8000000000000000) :
    (ofNat true n).number = .ok (.negative n) := by
  have hsmall : ¬(n = 0 ∨ 0x8000000000000000 < n) := by omega
  simp [number, ofNat, Reader.significand_ofNat (Nat.lt_of_le_of_lt h (by decide)), hsmall]

end Numeral

/-! ## Documents -/

mutual

/-- How many levels of lists and objects a value has; `depthLimit` bounds it. -/
def depth : Json → Nat
  | .null | .bool _ | .number _ | .string _ => 0
  | .array js => depthOf js + 1
  | .object ms => depthIn ms + 1

/-- How many levels some values have, the most of any of them. -/
def depthOf : List Json → Nat
  | [] => 0
  | j :: js => max (depth j) (depthOf js)

/-- How many levels some members have, the most of any of them. -/
def depthIn : List (Text × Json) → Nat
  | [] => 0
  | (_, j) :: ms => max (depth j) (depthIn ms)

end

theorem depthOf_le_iff {js : List Json} {n : Nat} : depthOf js ≤ n ↔ ∀ j ∈ js, j.depth ≤ n := by
  induction js with
  | nil => simp [depthOf]
  | cons j js ih => rw [depthOf, Nat.max_le, ih, List.forall_mem_cons]

/-- Whether a number is a whole one of 64 bits. A larger one would be read as a fraction
(`float`). -/
def Number.Has64Bits : Number → Prop
  | .natural n => n < 0x10000000000000000
  | .negative n => n ≤ 0x8000000000000000
  | .float _ _ => False

namespace Part

/-- Whether a part has at most so many levels, and numbers of 64 bits: what `Part.IsKept` needs. -/
def Fits (levels : Nat) : Part → Prop
  | .value j => j.AllNumbers Number.Has64Bits ∧ j.depth ≤ levels
  | .member (_, j) => j.AllNumbers Number.Has64Bits ∧ j.depth ≤ levels
  | .elements js => AllNumbersOf Number.Has64Bits js ∧ depthOf js ≤ levels
  | .members ms => AllNumbersIn Number.Has64Bits ms ∧ depthIn ms ≤ levels

variable {levels : Nat} {j : Json} {js : List Json} {m : Text × Json} {ms : List (Text × Json)}

theorem Fits.of_elements (h : (elements (j :: js)).Fits levels) :
    (value j).Fits levels ∧ (elements js).Fits levels := by
  obtain ⟨⟨hj, hjs⟩, hdepth⟩ := h
  simp only [depthOf, Nat.max_le] at hdepth
  exact ⟨⟨hj, hdepth.1⟩, hjs, hdepth.2⟩

theorem Fits.of_members (h : (members (m :: ms)).Fits levels) :
    (member m).Fits levels ∧ (members ms).Fits levels := by
  obtain ⟨key, j⟩ := m
  obtain ⟨⟨hj, hms⟩, hdepth⟩ := h
  simp only [depthIn, Nat.max_le] at hdepth
  exact ⟨⟨hj, hdepth.1⟩, hms, hdepth.2⟩

/-- A list takes one level. -/
theorem Fits.of_array (h : (value (.array js)).Fits levels) :
    ∃ below, levels = below + 1 ∧ (elements js).Fits below := by
  obtain ⟨hjs, hdepth⟩ := h
  obtain ⟨below, rfl⟩ := Nat.exists_eq_add_of_le' (Nat.le_trans (Nat.le_add_left 1 _) hdepth)
  exact ⟨below, rfl, hjs, Nat.le_of_succ_le_succ hdepth⟩

/-- An object takes one level. -/
theorem Fits.of_object (h : (value (.object ms)).Fits levels) :
    ∃ below, levels = below + 1 ∧ (members ms).Fits below := by
  obtain ⟨hms, hdepth⟩ := h
  obtain ⟨below, rfl⟩ := Nat.exists_eq_add_of_le' (Nat.le_trans (Nat.le_add_left 1 _) hdepth)
  exact ⟨below, rfl, hms, Nat.le_of_succ_le_succ hdepth⟩

end Part

mutual

/-- The tree of a value that holds whole numbers only. Fractions have no tree here, as no document
of `Writes` has one. -/
def tree : Json → Tree
  | .null | .number (.float _ _) => .null
  | .bool b => .bool b
  | .number (.natural n) => .number (.ofNat false n)
  | .number (.negative n) => .number (.ofNat true n)
  | .string t => .string (some t)
  | .array js => .array (treesOf js)
  | .object ms => .object (treesIn ms)

/-- The trees of some values, each by `tree`. -/
def treesOf : List Json → List Tree
  | [] => []
  | j :: js => tree j :: treesOf js

/-- The trees of some members, each by `tree`, whose keys are texts. -/
def treesIn : List (Text × Json) → List (Option Text × Tree)
  | [] => []
  | (key, j) :: ms => (some key, tree j) :: treesIn ms

end

/-- The tree of a part, by which `Writes` becomes a case of `Stands`. -/
def Part.tree : Part → Tree.Part
  | .value j => .value j.tree
  | .member (key, j) => .member (some key, j.tree)
  | .elements js => .elements (treesOf js)
  | .members ms => .members (treesIn ms)

/-- Whether all of a part is kept of its tree (`Part.tree`, `Tree.json?`). -/
def Part.IsKept (levels : Nat) : Part → Prop
  | .value j | .member (_, j) => j.tree.json? levels = some j
  | .elements js => (treesOf js).mapM (Tree.json? levels) = some js
  | .members ms => (treesIn ms).mapM (fun (m : Option Text × Tree) =>
      m.1.bind fun key => (m.2.json? levels).map (key, ·)) = some ms

namespace Part.IsKept

variable {j : Json} {js : List Json} {m : Text × Json} {ms : List (Text × Json)}

theorem array (h : (Part.elements js).IsKept levels) :
    (Part.value (.array js)).IsKept (levels + 1) := by
  change (treesOf js).mapM (Tree.json? levels) = some js at h
  change (Tree.array (treesOf js)).json? (levels + 1) = some (.array js)
  rw [Tree.json?, h]
  rfl

theorem object (h : (Part.members ms).IsKept levels) :
    (Part.value (.object ms)).IsKept (levels + 1) := by
  change (treesIn ms).mapM _ = some ms at h
  change (Tree.object (treesIn ms)).json? (levels + 1) = some (.object ms)
  rw [Tree.json?, h]
  rfl

theorem elements (hj : (Part.value j).IsKept levels) (hjs : (Part.elements js).IsKept levels) :
    (Part.elements (j :: js)).IsKept levels := by
  change j.tree.json? levels = some j at hj
  change (treesOf js).mapM (Tree.json? levels) = some js at hjs
  change (j.tree :: treesOf js).mapM (Tree.json? levels) = some (j :: js)
  rw [List.mapM_cons, hj, hjs]
  rfl

theorem members (hm : (Part.member m).IsKept levels) (hms : (Part.members ms).IsKept levels) :
    (Part.members (m :: ms)).IsKept levels := by
  obtain ⟨key, j⟩ := m
  change j.tree.json? levels = some j at hm
  change (treesIn ms).mapM _ = some ms at hms
  change ((some key, j.tree) :: treesIn ms).mapM _ = some ((key, j) :: ms)
  rw [List.mapM_cons, hms]
  simp only [Option.bind_some, hm]
  rfl

end Part.IsKept

namespace Writes

variable {part : Part}

/-- What is written is a tree (`Stands`), so the reader of trees reads it. -/
theorem stands (h : Writes part text rest) : Stands part.tree text rest := by
  induction h with
  | null => exact .null
  | yes => exact .yes
  | no => exact .no
  | @natural n rest hrest =>
    have hstands := Stands.number (.ofNat false n) hrest
    rwa [Numeral.text_ofNat] at hstands
  | @negative n rest _ hrest =>
    have hstands := Stands.number (.ofNat true n) hrest
    rwa [Numeral.text_ofNat] at hstands
  | string h => exact .string (.text h)
  | noElement h => exact .noElement h
  | array hblanks _ _ ihj ihjs => exact .array hblanks ihj ihjs
  | noMember h => exact .noMember h
  | object hblanks _ _ ihm ihms => exact .object hblanks ihm ihms
  | member hkey hcolon hblanks _ ihj => exact .member (.text hkey) hcolon hblanks ihj
  | listEnd h => exact .listEnd h
  | element hcomma hblanks _ _ ihj ihjs => exact .element hcomma hblanks ihj ihjs
  | objectEnd h => exact .objectEnd h
  | memberBehind hcomma hblanks _ _ ihm ihms => exact .memberBehind hcomma hblanks ihm ihms

/-- All of what is written is kept, if it `Fits`. -/
theorem isKept (h : Writes part text rest) (hfits : part.Fits levels) : part.IsKept levels := by
  induction h generalizing levels with
  | null | yes | no | string => rw [Part.IsKept, tree, Tree.json?] <;> rfl
  | natural _ =>
    rw [Part.IsKept, tree, Tree.json?, Numeral.number_natural hfits.1]
    rfl
  | negative hn _ =>
    rw [Part.IsKept, tree, Tree.json?, Numeral.number_negative hn hfits.1]
    rfl
  | noElement _ =>
    obtain ⟨below, rfl, -⟩ := hfits.of_array
    exact Part.IsKept.array rfl
  | array _ _ _ ihj ihjs =>
    obtain ⟨below, rfl, hbelow⟩ := hfits.of_array
    obtain ⟨hj, hjs⟩ := hbelow.of_elements
    exact Part.IsKept.array ((ihj hj).elements (ihjs hjs))
  | noMember _ =>
    obtain ⟨below, rfl, -⟩ := hfits.of_object
    exact Part.IsKept.object rfl
  | object _ _ _ ihm ihms =>
    obtain ⟨below, rfl, hbelow⟩ := hfits.of_object
    obtain ⟨hm, hms⟩ := hbelow.of_members
    exact Part.IsKept.object ((ihm hm).members (ihms hms))
  | member _ _ _ _ ihj => exact ihj hfits
  | listEnd _ => rfl
  | element _ _ _ _ ihj ihjs =>
    obtain ⟨hj, hjs⟩ := hfits.of_elements
    exact (ihj hj).elements (ihjs hjs)
  | objectEnd _ => rfl
  | memberBehind _ _ _ _ ihm ihms =>
    obtain ⟨hm, hms⟩ := hfits.of_members
    exact (ihm hm).members (ihms hms)

end Writes

section Document

variable {α : Type} {r : Reader α} {a : α}

/-- A document is read by a reader of what it holds, with blanks behind it. -/
theorem document_of_ok (h : r text = .ok (a, rest)) (hrest : Blanks rest []) :
    r.document text = .ok a := by
  have hend : Reader.documentEnd rest = .ok ((), []) :=
    Reader.run_bind (Reader.next_of_blanks_nil hrest)
  have hrun : (do
      let a ← r
      Reader.documentEnd
      return a : Reader α) text = .ok (a, []) :=
    (Reader.run_bind h).trans (Reader.run_bind hend)
  rw [Reader.document, StateT.run, hrun]
  rfl

theorem document_of_error {fault : Fault} (h : r text = .error fault) :
    r.document text = .error fault := by
  rw [Reader.document, StateT.run, Reader.run_bind_error h]
  rfl

end Document

/-- **Every document is read as the value that it holds** (`IsDocument`), if its numbers have 64
bits and it is not nested too deeply. -/
theorem read_of_isDocument {j : Json} (h : IsDocument j text)
    (hnumbers : j.AllNumbers Number.Has64Bits) (hdepth : j.depth ≤ depthLimit) :
    read text = .ok j := by
  obtain ⟨first, behind, hfirst, hwrites, hbehind⟩ := h
  have hkept : j.tree.json? depthLimit = some j := hwrites.isKept ⟨hnumbers, hdepth⟩
  have hvalue := Reader.gives_value depthLimit hwrites.stands hfirst
  rw [hkept] at hvalue
  exact document_of_ok hvalue hbehind

end DotJs.Json
