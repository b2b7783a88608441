import DotJs.Proofs.JoinedPaths
import DotJs.Scope

/-!
# Which paths the default patterns pass over

Ignore patterns are held against the whole text of a path, and so is the name of the directories
for installed packages. Still, what comes of it with the patterns that hold by default can be told
from the segments of the path one by one.

* `Text.join_piecesBetween` puts a text together again from what stands between its slashes, and
  `infix_iff_exists_mem_piecesBetween` looks for a text without slashes in it;
* `Glob.admits_below_iff` is about a pattern `**/name/**`: some segment but the last is `name`;
* `Settings.ignores_iff` puts the default patterns together;
* `Settings.ignores_foldl_join_iff`: below a root that has nothing to do with the patterns, only the
  names on the way to a file decide.
-/

namespace DotJs

/-! ## Texts and their pieces -/

section Pieces

variable {x : Char} {t part piece : Text} {pieces pieces' : List Text}

theorem Text.join_append (separator : Text) (h : pieces ≠ []) (h' : pieces' ≠ []) :
    Text.join separator (pieces ++ pieces') =
      Text.join separator pieces ++ separator ++ Text.join separator pieces' := by
  obtain ⟨u, rest', rfl⟩ := List.exists_cons_of_ne_nil h'
  induction pieces with
  | nil => exact absurd rfl h
  | cons t rest ih =>
    cases rest with
    | nil => rfl
    | cons t' rest =>
      have hrest := ih (List.cons_ne_nil t' rest)
      simp only [List.cons_append, Text.join, List.append_assoc] at hrest ⊢
      rw [hrest]

/-- A text can be put together again from its pieces (`piecesBetween`), so nothing said of pieces is
lost on the text. -/
theorem Text.join_piecesBetween (x : Char) (t : Text) :
    Text.join [x] (piecesBetween x t) = t := by
  induction t with
  | nil => rfl
  | cons c t ih =>
    obtain ⟨first, others, hpieces⟩ := List.exists_cons_of_ne_nil (piecesBetween_ne_nil x t)
    rw [hpieces] at ih
    rw [piecesBetween, hpieces]
    split
    · next hc =>
      rw [Text.join, ih, hc]
      rfl
    · cases others with
      | nil => rw [← ih]; rfl
      | cons second others => rw [← ih]; rfl

/-- What stands around a piece that is not the last: an `x` behind it, and the start or another `x`
in front of it. -/
theorem Text.join_append_cons (x : Char) (piece : Text) (pieces : List Text) (h : pieces' ≠ []) :
    Text.join [x] (pieces ++ piece :: pieces') = piece ++ x :: Text.join [x] pieces' ∨
      ∃ before, Text.join [x] (pieces ++ piece :: pieces') =
        before ++ x :: (piece ++ x :: Text.join [x] pieces') := by
  have hpiece : Text.join [x] (piece :: pieces') = piece ++ x :: Text.join [x] pieces' := by
    have hjoin := Text.join_append [x] (List.cons_ne_nil piece []) h
    rwa [List.append_assoc] at hjoin
  by_cases hfirst : pieces = []
  · exact .inl (by rw [hfirst, List.nil_append, hpiece])
  · refine .inr ⟨Text.join [x] pieces, ?_⟩
    rw [Text.join_append _ hfirst (List.cons_ne_nil _ _), hpiece, List.append_assoc]
    rfl

/-- The pieces but the last are the texts in front of an `x`, as far back as the start or another
`x`. -/
theorem mem_dropLast_piecesBetween_iff (hpiece : x ∉ piece) :
    piece ∈ (piecesBetween x t).dropLast ↔
      ∃ after, t = piece ++ x :: after ∨ ∃ before, t = before ++ x :: (piece ++ x :: after) := by
  constructor
  · intro h
    obtain ⟨pre, post, hsplit⟩ := List.append_of_mem h
    have hpieces := List.dropLast_concat_getLast (piecesBetween_ne_nil x t)
    rw [hsplit, List.append_assoc, List.cons_append] at hpieces
    have ht := Text.join_piecesBetween x t
    rw [← hpieces] at ht
    rcases Text.join_append_cons x piece pre (List.concat_ne_nil _ post) with
      hjoin | ⟨before, hjoin⟩
    · exact ⟨_, .inl (ht.symm.trans hjoin)⟩
    · exact ⟨_, .inr ⟨before, ht.symm.trans hjoin⟩⟩
  · rintro ⟨after, rfl | ⟨before, rfl⟩⟩
    · rw [piecesBetween_append_cons, piecesBetween_of_notMem hpiece,
        List.dropLast_append_of_ne_nil (piecesBetween_ne_nil x after)]
      exact List.mem_append_left _ (List.mem_singleton_self piece)
    · rw [piecesBetween_append_cons, piecesBetween_append_cons, piecesBetween_of_notMem hpiece,
        List.singleton_append, List.dropLast_append_of_ne_nil (List.cons_ne_nil _ _),
        List.dropLast_cons_of_ne_nil (piecesBetween_ne_nil x after)]
      exact List.mem_append_right _ List.mem_cons_self

theorem Text.isPartOf_iff_infix : Text.isPartOf part t ↔ part <:+: t := by
  induction t with
  | nil => simp [Text.isPartOf]
  | cons c t ih =>
    rw [Text.isPartOf, Bool.or_eq_true, ih, List.isPrefixOf_iff_prefix, List.infix_cons_iff]

/-- A text without `x` is found on either side of an `x`, since it cannot stand across. -/
theorem infix_append_cons_iff (hpart : x ∉ part) (a b : Text) :
    part <:+: a ++ x :: b ↔ part <:+: a ∨ part <:+: b := by
  rw [List.infix_append_iff_ne_nil, List.infix_cons_iff]
  constructor
  · have hstart : ∀ p, p ≠ [] → x ∉ p → ¬ p <+: x :: b := by
      rintro p hne hx hp
      rcases List.prefix_cons_iff.mp hp with rfl | ⟨q, rfl, -⟩
      · exact hne rfl
      · exact hx List.mem_cons_self
    rintro (h | (h | h) | ⟨p, q, -, hq, rfl, -, h⟩)
    · exact .inl h
    · by_cases hne : part = []
      · exact .inl (hne ▸ List.nil_infix)
      · exact absurd h (hstart part hne hpart)
    · exact .inr h
    · exact absurd h (hstart q hq fun hx => hpart (List.mem_append_right p hx))
  · exact fun h => h.imp_right fun h => .inl (.inr h)

/-- A text without `x` is found in one of the pieces. -/
theorem infix_iff_exists_mem_piecesBetween (hpart : x ∉ part) :
    part <:+: t ↔ ∃ piece ∈ piecesBetween x t, part <:+: piece := by
  have hjoin : ∀ pieces ≠ [], part <:+: Text.join [x] pieces ↔
      ∃ piece ∈ pieces, part <:+: piece := by
    intro pieces hne
    induction pieces with
    | nil => exact absurd rfl hne
    | cons piece rest ih =>
      cases rest with
      | nil => simp [Text.join]
      | cons piece' rest =>
        rw [Text.join, List.append_assoc, List.singleton_append, infix_append_cons_iff hpart,
          ih (List.cons_ne_nil piece' rest)]
        simp only [List.mem_cons, or_and_right, exists_or, exists_eq_left]
  rw [← hjoin _ (piecesBetween_ne_nil x t), Text.join_piecesBetween]

end Pieces

/-! ## Patterns for what is below a directory -/

namespace Glob

variable {c : Char} {name t rest : Text} {ts : List Text} {path : FilePath}

/-- The pattern `**/name/**`, for a name without special characters. All default patterns are of
this form. -/
def below (name : Text) : Glob := ⟨.components :: (name.map .char ++ [.char '/', .components])⟩

theorem mem_left_char_iff : t ∈ (Token.char c).left ts ↔ c :: t ∈ ts := by
  cases ts with
  | nil => simp [Token.left]
  | cons u ts =>
    simp only [Token.left, List.mem_filterMap]
    constructor
    · rintro ⟨v, hv, ht⟩
      cases v with
      | nil => cases ht
      | cons d v =>
        obtain ⟨hd, hv'⟩ := Option.ite_none_right_eq_some.mp ht
        rw [← eq_of_beq hd, ← Option.some.inj hv']
        exact hv
    · exact fun h => ⟨c :: t, h, by simp [Token.admits]⟩

/-- Characters take themselves off the front. What is left is a list of texts, as `**` can stand for
several stretches. -/
theorem mem_foldl_left_char_iff :
    t ∈ (name.map Token.char).foldl (fun ts token => token.left ts) ts ↔ name ++ t ∈ ts := by
  induction name generalizing ts with
  | nil => rfl
  | cons c name ih => rw [List.map_cons, List.foldl_cons, ih, mem_left_char_iff, List.cons_append]

theorem mem_behindSlashes_iff : t ∈ behindSlashes path ↔ ∃ before, path = before ++ '/' :: t := by
  induction path with
  | nil => simp [behindSlashes]
  | cons c path ih =>
    rw [behindSlashes]
    constructor
    · intro h
      split at h
      · next hc =>
        rcases List.mem_cons.mp h with rfl | h
        · exact ⟨[], by rw [hc]; rfl⟩
        · obtain ⟨before, hbefore⟩ := ih.mp h
          exact ⟨c :: before, by rw [hbefore]; rfl⟩
      · obtain ⟨before, hbefore⟩ := ih.mp h
        exact ⟨c :: before, by rw [hbefore]; rfl⟩
    · rintro ⟨before, hbefore⟩
      cases before with
      | nil =>
        obtain ⟨rfl, rfl⟩ := List.cons.inj hbefore
        rw [if_pos rfl]
        exact List.mem_cons_self
      | cons d before =>
        have h := ih.mpr ⟨before, (List.cons.inj hbefore).2⟩
        split
        · exact List.mem_cons_of_mem _ h
        · exact h

/-- Components leave what stands behind a slash, or all, or nothing: `**` stands for whole
segments. -/
theorem mem_left_components_iff (ht : t ≠ []) :
    t ∈ Token.components.left [path] ↔ path = t ∨ ∃ before, path = before ++ '/' :: t := by
  rw [Token.left]
  split
  · next hpath =>
    rw [hpath]
    simp [ht, Ne.symm ht]
  · simp [mem_behindSlashes_iff, ht, eq_comm]

/-- Whatever is left, components can stand for it. -/
theorem nil_mem_left_components_iff : [] ∈ Token.components.left ts ↔ ts ≠ [] := by
  cases ts with
  | nil => simp [Token.left]
  | cons t ts =>
    rw [Token.left]
    split <;> simp

/-- **The pattern for what is `below` a directory** holds when the directory is on the path, as one
of its segments but the last. -/
theorem admits_below_iff (hname : '/' ∉ name) :
    (below name).admits path ↔ name ∈ (FilePath.segments path).dropLast := by
  have hleft : ∀ rest, rest ∈ (name.map Token.char ++ [Token.char '/']).foldl
      (fun ts token => Token.left token ts) (Token.components.left [path]) ↔
      path = name ++ '/' :: rest ∨ ∃ before, path = before ++ '/' :: (name ++ '/' :: rest) := by
    intro rest
    rw [List.foldl_append, List.foldl_cons, List.foldl_nil, mem_left_char_iff,
      mem_foldl_left_char_iff, mem_left_components_iff]
    exact List.append_ne_nil_of_right_ne_nil _ (List.cons_ne_nil _ _)
  rw [FilePath.segments, mem_dropLast_piecesBetween_iff hname, admits, below, List.contains_iff_mem,
    List.foldl_cons, List.append_cons, List.foldl_append, List.foldl_cons, List.foldl_nil,
    nil_mem_left_components_iff]
  simp only [← hleft]
  constructor
  · exact List.exists_mem_of_ne_nil _
  · rintro ⟨rest, hrest⟩
    exact List.ne_nil_of_mem hrest

end Glob

/-! ## The default patterns -/

namespace Settings

variable {s : Settings} {root path : FilePath} {names : Location}

/-- The names that the default patterns (`defaultIgnorePatterns`) are about, one for each
pattern. -/
def skippedNames : List Text := ["node_modules", "dist", "build", ".git"].map String.toList

/-- Each default pattern is about what is below directories of one name, and can be read. -/
theorem defaultIgnorePatterns_map_parse? :
    defaultIgnorePatterns.map Glob.parse? = skippedNames.map (some <| Glob.below ·) := by
  decide +kernel

/-- **What the default patterns pass over**: whatever is below a directory of one of the
`skippedNames`, and whatever has a segment in which the name of the directories for packages occurs.
The latter does not come from a pattern, and holds with any settings. -/
theorem ignores_iff (h : s.ignorePatterns = defaultIgnorePatterns) :
    s.ignores path ↔
      (∃ name ∈ skippedNames, name ∈ (FilePath.segments path).dropLast) ∨
        ∃ segment ∈ FilePath.segments path, packages.isPartOf segment := by
  have hglobs : s.ignorePatterns.any (fun p => (Glob.parse? p).any fun g => g.admits path) =
      skippedNames.any fun name => (Glob.below name).admits path := by
    have hmap := congrArg (fun globs => globs.any fun g => g.any fun g => g.admits path)
      defaultIgnorePatterns_map_parse?
    rw [h]
    simpa only [List.any_map, Function.comp_def, Option.any_some] using hmap
  have hpackages : '/' ∉ packages := by decide +kernel
  have hslash : ∀ name ∈ skippedNames, '/' ∉ name := by decide +kernel
  rw [ignores, hglobs, Bool.or_eq_true, List.any_eq_true, Text.isPartOf_iff_infix,
    infix_iff_exists_mem_piecesBetween hpackages]
  simp only [Text.isPartOf_iff_infix]
  refine or_congr_left (exists_congr fun name => and_congr_right fun hname => ?_)
  exact Glob.admits_below_iff (hslash name hname)

/-- Whether the default patterns have nothing to do with a path to a directory. Paths are ignored by
their whole text (`Settings.ignores`), so a root that is not neutral would hide all files below
it. -/
def IsNeutral (root : FilePath) : Prop :=
  ∀ segment ∈ FilePath.segments root,
    segment ∉ skippedNames ∧ packages.isPartOf segment = false

instance (root : FilePath) : Decidable (IsNeutral root) :=
  inferInstanceAs (Decidable (∀ segment ∈ FilePath.segments root,
    segment ∉ skippedNames ∧ packages.isPartOf segment = false))

/-- Below a neutral directory (`IsNeutral`) only the names on the way to a file decide. -/
theorem ignores_foldl_join_iff (h : s.ignorePatterns = defaultIgnorePatterns)
    (hroot : root ≠ []) (hneutral : IsNeutral root) (hnames : ∀ name ∈ names, IsName name)
    (hne : names ≠ []) :
    s.ignores (names.foldl FilePath.join root) ↔
      (∃ name ∈ skippedNames, name ∈ names.dropLast) ∨
        ∃ name ∈ names, packages.isPartOf name := by
  obtain ⟨stem, hsegments, hstem⟩ := FilePath.segments_foldl_join hroot hnames
  have hclean : ∀ segment ∈ stem, segment ∉ skippedNames ∧ ¬ packages.isPartOf segment := by
    intro segment hmem
    rw [Bool.not_eq_true]
    refine hneutral segment ?_
    rcases hstem with hstem | hstem
    · rw [hstem]
      exact hmem
    · rw [hstem]
      exact List.mem_append_left _ hmem
  rw [ignores_iff h, hsegments, List.dropLast_append_of_ne_nil hne]
  simp only [List.mem_append, or_and_right, exists_or, and_or_left]
  constructor
  · rintro ((⟨name, hname, hmem⟩ | hmem) | (⟨segment, hmem, hpart⟩ | hmem))
    · exact absurd hname (hclean name hmem).1
    · exact .inl hmem
    · exact absurd hpart (hclean segment hmem).2
    · exact .inr hmem
  · exact Or.imp .inr .inr

end Settings

end DotJs
