import Stencil.Proofs.Code.Pathnames
import Stencil.Report.Home

/-!
# The home directory inside paths

Of a path that is reported as such, the home directory is cut off at the front,
name by name (`Report.reported`, `shorten_path_iff`). In a text it is replaced
wherever it stands with a slash behind it. So a path comes out of both alike
unless the home directory stands in it once more, behind the front
(`shorten_text_iff`); where it stands is said by names (`standing_iff`), and it
need not be a directory below the home directory at all.

The root as home directory has no name, and no path but itself is shortened by
it.
-/

namespace Stencil.Code.Path

/-! ## Segments around a slash -/

/-- A text has segments. -/
theorem segments_ne_nil (cs : List Char) : segments cs ≠ [] := by
  have plain : '/' ∉ ([] : List Char) := List.not_mem_nil
  obtain ⟨before, last, segments, _⟩ := segments_extended plain cs
  rw [segments]
  exact List.concat_ne_nil _ _

/-- A slash parts the segments in front of it from those behind. -/
theorem segments_slash (front behind : List Char) :
    segments (front ++ '/' :: behind) = segments front ++ segments behind := by
  induction front with
  | nil => rfl
  | cons c rest inductionHypothesis =>
    rw [List.cons_append, segments, segments, inductionHypothesis]
    split
    · rfl
    · obtain ⟨first, others, cut⟩ := List.exists_cons_of_ne_nil (segments_ne_nil rest)
      rw [cut]
      rfl

/-- A text is its segments with slashes between them. -/
theorem intercalate_segments (cs : List Char) : ['/'].intercalate (segments cs) = cs := by
  induction cs with
  | nil => rfl
  | cons c rest inductionHypothesis =>
    obtain ⟨first, others, cut⟩ := List.exists_cons_of_ne_nil (segments_ne_nil rest)
    rw [cut] at inductionHypothesis
    rw [segments, cut]
    split
    · rename_i slash
      rw [List.intercalate_cons_cons, inductionHypothesis, slash]
      rfl
    · cases others with
      | nil => simpa using inductionHypothesis
      | cons next others =>
        rw [List.intercalate_cons_cons] at inductionHypothesis ⊢
        rw [← inductionHypothesis]
        rfl

/-- Segments in front and behind have a slash between them. -/
theorem intercalate_append {front behind : List (List Char)} (some : front ≠ [])
    (others : behind ≠ []) :
    ['/'].intercalate (front ++ behind) =
      ['/'].intercalate front ++ '/' :: ['/'].intercalate behind := by
  induction front with
  | nil => exact absurd rfl some
  | cons text rest inductionHypothesis =>
    cases rest with
    | nil =>
      rw [List.singleton_append, List.intercalate_cons_of_ne_nil others,
        List.intercalate_singleton, List.append_assoc, List.singleton_append]
    | cons next rest =>
      rw [List.cons_append, List.intercalate_cons_of_ne_nil (by simp),
        inductionHypothesis (List.cons_ne_nil _ _), List.intercalate_cons_cons]
      simp

/-- Names stand in a text between slashes if they are segments in a row of it, and neither the first
nor the last. -/
theorem standing_iff {names : List (List Char)} (any : names ≠ [])
    (plain : ∀ name ∈ names, '/' ∉ name) (text : List Char) :
    '/' :: (['/'].intercalate names ++ ['/']) <:+: text ↔
      ∃ before behind, before ≠ [] ∧ behind ≠ [] ∧ segments text = before ++ names ++ behind := by
  constructor
  · rintro ⟨front, rest, rfl⟩
    refine ⟨segments front, segments rest, segments_ne_nil front, segments_ne_nil rest, ?_⟩
    have parted : front ++ '/' :: (['/'].intercalate names ++ ['/']) ++ rest =
        front ++ '/' :: (['/'].intercalate names ++ '/' :: rest) := by simp
    rw [parted, segments_slash, segments_slash, segments_intercalate any plain, List.append_assoc]
  · rintro ⟨before, behind, some, others, cut⟩
    refine ⟨['/'].intercalate before, ['/'].intercalate behind, ?_⟩
    rw [← intercalate_segments text, cut, intercalate_append (by simp [some]) others,
      intercalate_append some any]
    simp

end Stencil.Code.Path

namespace Stencil.Report

open Code

/-! ## Replacing -/

section Replacing

variable {part replacement : List Char}

/-- Characters that belong to the occurrence before are left out. -/
theorem replace_skipped (skipped : Nat) (cs : List Char) :
    replaceFrom part replacement skipped cs =
      replaceFrom part replacement 0 (cs.drop skipped) := by
  induction cs generalizing skipped with
  | nil => cases skipped <;> rfl
  | cons c rest inductionHypothesis =>
    cases skipped with
    | zero => rfl
    | succ skipped => exact inductionHypothesis skipped

/-- What is replaced is no longer than what it stands for was. The induction is on the text. -/
theorem replace_length (shorter : replacement.length ≤ part.length) (skipped : Nat)
    (cs : List Char) :
    (replaceFrom part replacement skipped cs).length ≤ cs.length - skipped := by
  induction cs generalizing skipped with
  | nil => cases skipped <;> simp [replaceFrom]
  | cons c rest inductionHypothesis =>
    cases skipped with
    | succ skipped =>
      have bound := inductionHypothesis skipped
      rw [replaceFrom, List.length_cons]
      omega
    | zero =>
      rw [replaceFrom]
      split
      · rename_i found
        have fits := (List.isPrefixOf_iff_prefix.mp found).length_le
        have bound := inductionHypothesis (part.length - 1)
        rw [List.length_append]
        rw [List.length_cons] at fits ⊢
        omega
      · have bound := inductionHypothesis 0
        rw [List.length_cons, List.length_cons]
        omega

/-- A text in which the part does not stand is left as it is. -/
theorem replace_absent {cs : List Char} (absent : ¬part <:+: cs) :
    replaceFrom part replacement 0 cs = cs := by
  induction cs with
  | nil => rfl
  | cons c rest inductionHypothesis =>
    have elsewhere : ¬part.isPrefixOf (c :: rest) = true :=
      fun found => absent (List.isPrefixOf_iff_prefix.mp found).isInfix
    rw [replaceFrom, if_neg elsewhere,
      inductionHypothesis fun found => absent (found.trans (List.infix_cons (List.infix_refl _)))]

variable (nonempty : part ≠ [])

include nonempty

/-- A part at the front is replaced, and so is what is behind it. -/
theorem replace_front (rest : List Char) :
    replaceFrom part replacement 0 (part ++ rest) =
      replacement ++ replaceFrom part replacement 0 rest := by
  obtain ⟨c, others, rfl⟩ := List.exists_cons_of_ne_nil nonempty
  have found : (c :: others).isPrefixOf (c :: (others ++ rest)) = true :=
    List.isPrefixOf_iff_prefix.mpr ⟨rest, rfl⟩
  rw [List.cons_append, replaceFrom, if_pos found, replace_skipped]
  simp

variable (replacement) in
/-- Where the part stands in a text, its first occurrence is replaced, and what is behind it is
replaced on its own. -/
theorem replace_first {cs : List Char} (present : part <:+: cs) :
    ∃ front rest, cs = front ++ part ++ rest ∧
      replaceFrom part replacement 0 cs =
        front ++ replacement ++ replaceFrom part replacement 0 rest := by
  induction cs with
  | nil => exact absurd (List.eq_nil_of_infix_nil present) nonempty
  | cons c others inductionHypothesis =>
    by_cases found : part <+: c :: others
    · obtain ⟨rest, whole⟩ := found
      exact ⟨[], rest, whole.symm, by rw [← whole, replace_front nonempty]; rfl⟩
    · obtain ⟨front, rest, rfl, replaced⟩ :=
        inductionHypothesis ((List.infix_cons_iff.mp present).resolve_left found)
      have elsewhere : ¬part.isPrefixOf (c :: (front ++ part ++ rest)) = true :=
        fun here => found (List.isPrefixOf_iff_prefix.mp here)
      exact ⟨c :: front, rest, rfl, by rw [replaceFrom, if_neg elsewhere, replaced]; rfl⟩

/-- Replacing by something that is no longer changes exactly the texts in which the part stands. -/
theorem replace_eq_iff (other : part ≠ replacement) (shorter : replacement.length ≤ part.length)
    (cs : List Char) : replaceFrom part replacement 0 cs = cs ↔ ¬part <:+: cs := by
  refine ⟨fun same present => ?_, replace_absent⟩
  obtain ⟨front, rest, whole, replaced⟩ := replace_first replacement nonempty present
  have behind : replacement ++ replaceFrom part replacement 0 rest = part ++ rest := by
    rw [same, whole, List.append_assoc, List.append_assoc] at replaced
    exact (List.append_cancel_left replaced).symm
  -- The first occurrence begins the same as what is put for it, which takes as much room at least.
  have lengths := congrArg List.length behind
  have bound := replace_length shorter 0 rest
  rw [List.length_append, List.length_append] at lengths
  have even : replacement.length = part.length := by omega
  exact other (List.append_inj_left behind even).symm

/-- Replacing a part by itself changes nothing. -/
theorem replace_self (cs : List Char) : replaceFrom part part 0 cs = cs := by
  induction len : cs.length using Nat.strongRecOn generalizing cs with
  | ind n inductionHypothesis =>
    by_cases present : part <:+: cs
    · obtain ⟨front, rest, whole, replaced⟩ := replace_first part nonempty present
      have shorter : rest.length < n := by
        have positive := List.length_pos_iff.mpr nonempty
        rw [← len, whole, List.length_append, List.length_append]
        omega
      rw [replaced, inductionHypothesis _ shorter rest rfl, ← whole]
    · exact replace_absent present

end Replacing

/-! ## The home directory in a path -/

/-- The home directory's path with a slash behind it. -/
def slashed (home : Path) : List Char := home.text.toList ++ ['/']

/-- What is behind the home directory in a text, or the text if that does not start with it. -/
def beyond (home : Path) (text : String) : List Char :=
  if (slashed home).isPrefixOf text.toList then text.toList.drop (slashed home).length
  else text.toList

/-- The home directory's path stands in a text, with a slash behind it, once more than at the
front. -/
def StandsInside (home : Path) (text : String) : Prop := slashed home <:+: beyond home text

/-- How a path is to be reported: the home directory is `~`, and so is the front of a path below
it. -/
def reported (home path : Path) : String :=
  if path = home then "~"
  else if path.root = home.root ∧ home.parts <+: path.parts then
    "~/" ++ "/".intercalate (path.parts.drop home.parts.length)
  else path.text

variable {home path : Path}

/-- The text of a path has a character. -/
theorem text_nonempty (normal : path.Normal) : path.text.toList ≠ [] := by
  obtain ⟨root, parts⟩ := path
  cases parts with
  | nil => cases root <;> simp [Path.text, Path.Root.text]
  | cons name rest =>
    have start := Path.name_ne_nil (normal name List.mem_cons_self).1
    obtain ⟨c, others, is⟩ := List.exists_cons_of_ne_nil start
    rw [Path.text_named (List.cons_ne_nil _ _), List.map_cons, is]
    cases rest <;> simp [List.intercalate_cons_cons]

/-- The home directory's path with a slash is as it is put only if it is a tilde. -/
theorem slashed_tilde : slashed home = ['~', '/'] ↔ home.text = "~" := by
  constructor
  · intro same
    have split : home.text.toList ++ ['/'] = ['~'] ++ ['/'] := same
    exact String.toList_inj.mp (List.append_cancel_right split)
  · intro same
    rw [slashed, same]
    rfl

/-- The home directory's path with a slash, as it is looked for. -/
theorem slashed_text (home : Path) : (home.text ++ "/").toList = slashed home :=
  String.toList_append

/-- What a text other than the home directory's path is reported as, and what it would be as a
path. -/
theorem shorten_other {text : String} (other : text ≠ home.text) :
    shortenText home text = String.ofList (replaceFrom (slashed home) ['~', '/'] 0 text.toList) ∧
      shortenPath home text =
        if (slashed home).isPrefixOf text.toList then
          "~/" ++ String.ofList (text.toList.drop (slashed home).length)
        else text := by
  unfold shortenText shortenPath
  rw [if_neg other, if_neg other, slashed_text]
  exact ⟨rfl, rfl⟩

/-- A text comes out as a path does if what is behind the home directory at its front is left as it
is. -/
theorem shorten_text_beyond {text : String} (other : text ≠ home.text) :
    shortenText home text = shortenPath home text ↔
      replaceFrom (slashed home) ['~', '/'] 0 (beyond home text) = beyond home text := by
  obtain ⟨inText, inPath⟩ := shorten_other other
  rw [inText, inPath, beyond]
  split
  · rename_i found
    obtain ⟨rest, whole⟩ := List.isPrefixOf_iff_prefix.mp found
    have nonempty : slashed home ≠ [] := List.concat_ne_nil _ _
    have tilde : "~/" ++ String.ofList rest = String.ofList (['~', '/'] ++ rest) :=
      String.ofList_append.symm
    rw [← whole, List.drop_left, replace_front nonempty, tilde, String.ofList_inj]
    exact List.append_right_inj _
  · rw [← String.toList_inj, String.toList_ofList]

/-- The home directory's path, being shorter than itself with a slash, does not stand in itself. -/
theorem not_inside_itself (home : Path) : ¬StandsInside home home.text := by
  have longer (cs : List Char) (part : cs.length ≤ home.text.toList.length) :
      ¬slashed home <:+: cs := by
    intro inside
    have fits := inside.length_le
    rw [slashed, List.length_append, List.length_singleton] at fits
    omega
  apply longer
  unfold beyond
  split
  · rw [List.length_drop]
    exact Nat.sub_le _ _
  · exact Nat.le_refl _

/-- A text is reported in the same way as a path, unless the home directory's path stands inside.
Beyond the front, replacing changes a text as soon as there is something to replace, since what is
put in is another text and no longer. -/
theorem shorten_text_iff (normal : home.Normal) (text : String) :
    shortenText home text = shortenPath home text ↔
      home.text = "~" ∨ ¬StandsInside home text := by
  by_cases itself : text = home.text
  · subst itself
    have same : shortenText home home.text = shortenPath home home.text := by
      unfold shortenText shortenPath
      rw [if_pos rfl, if_pos rfl]
    exact iff_of_true same (.inr (not_inside_itself home))
  · have nonempty : slashed home ≠ [] := List.concat_ne_nil _ _
    rw [shorten_text_beyond itself, ← slashed_tilde]
    by_cases tilde : slashed home = ['~', '/']
    · refine iff_of_true ?_ (.inl tilde)
      rw [tilde]
      exact replace_self (List.cons_ne_nil _ _) _
    · have shorter : ['~', '/'].length ≤ (slashed home).length := by
        have some := List.length_pos_iff.mpr (text_nonempty normal)
        rw [slashed, List.length_append]
        exact Nat.succ_le_succ some
      rw [or_iff_right tilde]
      exact replace_eq_iff nonempty tilde shorter _

/-! ## The home directory in front of a path -/

/-- The text of a path with a root is the root and the names with slashes between them. -/
theorem text_rooted (rooted : path.root ≠ .relative) :
    path.text.toList = (Path.Root.text path.root).toList ++
      ['/'].intercalate (path.parts.map String.toList) := by
  rw [Path.text, if_neg fun none => rooted none.1, String.toList_append, String.toList_intercalate]
  rfl

/-- Names with slashes between them, whatever is behind them, do not start with a slash. -/
theorem names_head (normal : path.Normal) (named : path.parts ≠ []) (behind : List Char) :
    (['/'].intercalate (path.parts.map String.toList) ++ behind).head? ≠ some '/' := by
  obtain ⟨name, rest, parts⟩ := List.exists_cons_of_ne_nil named
  obtain ⟨isName, plain⟩ := normal name (parts ▸ List.mem_cons_self)
  have start := Path.name_ne_nil isName
  obtain ⟨c, others, chars⟩ := List.exists_cons_of_ne_nil start
  have first : (['/'].intercalate (path.parts.map String.toList)).head? = some c := by
    rw [parts, List.map_cons, Path.intercalate_head start, chars]
    rfl
  rw [List.head?_append, first, Option.some_or]
  intro slash
  rw [chars, Option.some.inj slash] at plain
  exact plain List.mem_cons_self

/-- The names of a path hold no slash. -/
theorem names_plain (normal : path.Normal) : ∀ name ∈ path.parts.map String.toList, '/' ∉ name := by
  intro text member
  obtain ⟨name, among, rfl⟩ := List.mem_map.mp member
  exact (normal name among).2

/-- The text of a path starts with the home directory's path and a slash if the path has the same
root, and the names of the home directory and others behind them. Neither root is followed by a
slash, so the roots have to be the same; behind them both texts are cut at the slashes into
names. -/
theorem slashed_front (homeNormal : home.Normal) (named : home.parts ≠ []) (normal : path.Normal)
    (rooted : path.root ≠ .relative) (behind : List Char) :
    path.text.toList = slashed home ++ behind ↔
      path.root = home.root ∧
        path.parts.map String.toList = home.parts.map String.toList ++ Path.segments behind := by
  have some : home.parts.map String.toList ≠ [] := fun none => named (List.map_eq_nil_iff.mp none)
  have written : slashed home ++ behind = (Path.Root.text home.root).toList ++
      (['/'].intercalate (home.parts.map String.toList) ++ '/' :: behind) := by
    rw [slashed, Path.text_named named]
    simp
  rw [text_rooted rooted, written]
  constructor
  · intro same
    have first : (['/'].intercalate (path.parts.map String.toList)).head? ≠ Option.some '/' := by
      by_cases others : path.parts = []
      · simp [others]
      · simpa using names_head normal others []
    have root : path.root = home.root := by
      rw [← Path.root_of_text first path.root, same,
        Path.root_of_text (names_head homeNormal named _)]
    rw [root] at same
    have names := List.append_cancel_left same
    have others : path.parts.map String.toList ≠ [] := by
      intro none
      rw [none] at names
      exact List.append_ne_nil_of_right_ne_nil _ (List.cons_ne_nil _ _) names.symm
    refine ⟨root, ?_⟩
    rw [← Path.segments_intercalate others (names_plain normal), names, Path.segments_slash,
      Path.segments_intercalate some (names_plain homeNormal)]
  · rintro ⟨root, parts⟩
    rw [root, parts, Path.intercalate_append some (Path.segments_ne_nil behind),
      Path.intercalate_segments]

/-- A path whose text starts with the home directory's path and a slash is below the home
directory, and the names behind it are what is behind it in the text. -/
theorem slashed_prefix_iff (homeNormal : home.Normal) (named : home.parts ≠ [])
    (normal : path.Normal) (rooted : path.root ≠ .relative) :
    (slashed home).isPrefixOf path.text.toList = true ↔
      path ≠ home ∧ path.root = home.root ∧ home.parts <+: path.parts := by
  rw [List.isPrefixOf_iff_prefix]
  constructor
  · rintro ⟨behind, whole⟩
    obtain ⟨root, parts⟩ := (slashed_front homeNormal named normal rooted behind).mp whole.symm
    refine ⟨?_, root, ?_⟩
    · rintro rfl
      exact Path.segments_ne_nil behind (List.append_right_eq_self.mp parts.symm)
    · have names := congrArg (List.map String.ofList) parts
      rw [List.map_append, List.map_map, List.map_map] at names
      exact ⟨(Path.segments behind).map String.ofList, by simpa using names.symm⟩
  · rintro ⟨other, root, rest, parts⟩
    have some : rest.map String.toList ≠ [] := by
      intro none
      rw [List.map_eq_nil_iff.mp none, List.append_nil] at parts
      exact other (by cases path; cases home; simp_all)
    refine ⟨['/'].intercalate (rest.map String.toList), Eq.symm ?_⟩
    rw [slashed_front homeNormal named normal rooted, ← parts, List.map_append,
      Path.segments_intercalate some]
    · exact ⟨root, rfl⟩
    · intro text member
      refine names_plain normal text ?_
      rw [← parts, List.map_append]
      exact List.mem_append_right _ member

/-- A root has no name behind which a slash could stand: only the text of a path below `//` starts
with the text of the root and a slash. -/
theorem slashed_bare (bare : home.parts = []) (normal : path.Normal)
    (rooted : path.root ≠ .relative) :
    (slashed home).isPrefixOf path.text.toList = true ↔
      home.root = .single ∧ path.root = .double := by
  have first : (['/'].intercalate (path.parts.map String.toList)).head? ≠ some '/' := by
    by_cases none : path.parts = []
    · simp [none]
    · simpa using names_head normal none []
  obtain ⟨root, parts⟩ := home
  obtain rfl : parts = [] := bare
  rw [text_rooted rooted]
  generalize ['/'].intercalate (path.parts.map String.toList) = names at first
  cases names with
  | nil => cases root <;> cases path.root <;> simp [slashed, Path.text, Path.Root.text]
  | cons c rest =>
    have other : c ≠ '/' := fun slash => first (by rw [slash]; rfl)
    cases root <;> cases below : path.root <;>
      simp_all [slashed, Path.text, Path.Root.text, Ne.symm other]

/-- Different normal paths have different texts. -/
theorem text_inj (normal : path.Normal) (homeNormal : home.Normal) :
    path.text = home.text ↔ path = home := by
  refine ⟨fun same => ?_, fun same => by rw [same]⟩
  rw [← Path.of_text_text normal, same, Path.of_text_text homeNormal]

/-- The text of a path with a root does not start with a tilde. -/
theorem text_no_tilde (rooted : path.root ≠ .relative) (rest : String) :
    path.text ≠ "~/" ++ rest := by
  intro same
  have chars := congrArg String.toList same
  rw [text_rooted rooted, String.toList_append] at chars
  cases root : path.root with
  | relative => exact rooted root
  | single => rw [root] at chars; cases chars
  | double => rw [root] at chars; cases chars

/-- Where the home directory has a name, a path is reported as it is to be. -/
theorem shorten_named (homeNormal : home.Normal) (named : home.parts ≠ []) (normal : path.Normal)
    (rooted : path.root ≠ .relative) : shortenPath home path.text = reported home path := by
  by_cases itself : path = home
  · rw [reported, if_pos itself, shortenPath, if_pos (congrArg Path.text itself)]
  have other : path.text ≠ home.text := fun same => itself ((text_inj normal homeNormal).mp same)
  have below := slashed_prefix_iff homeNormal named normal rooted
  rw [(shorten_other other).2, reported, if_neg itself]
  by_cases found : path.root = home.root ∧ home.parts <+: path.parts
  · rw [if_pos found, if_pos (below.mpr ⟨itself, found⟩)]
    obtain ⟨behind, whole⟩ := List.isPrefixOf_iff_prefix.mp (below.mpr ⟨itself, found⟩)
    obtain ⟨_, parts⟩ := (slashed_front homeNormal named normal rooted behind).mp whole.symm
    have rest : (path.parts.drop home.parts.length).map String.toList = Path.segments behind := by
      rw [List.map_drop, parts]
      exact List.drop_left' (List.length_map _)
    have names : "/".intercalate (path.parts.drop home.parts.length) = String.ofList behind := by
      apply String.toList_inj.mp
      rw [String.toList_intercalate, rest]
      exact (Path.intercalate_segments behind).trans String.toList_ofList.symm
    rw [← whole, List.drop_left, names]
  · rw [if_neg found, if_neg fun front => found (below.mp front).2]

/-- A path is reported as it is to be, unless the home directory is a root: then the paths below it
are left as they are, and for `/` the front of those below `//` is taken for it. -/
theorem shorten_path_iff (homeNormal : home.Normal) (normal : path.Normal)
    (rooted : path.root ≠ .relative) :
    shortenPath home path.text = reported home path ↔
      home.parts ≠ [] ∨ home.root = .relative ∨ path = home ∨
        (home.root = .double ∧ path.root = .single) := by
  by_cases named : home.parts = []
  · by_cases itself : path = home
    · have same : shortenPath home path.text = reported home path := by
        rw [reported, if_pos itself, shortenPath, if_pos (congrArg Path.text itself)]
      exact iff_of_true same (.inr (.inr (.inl itself)))
    have other : path.text ≠ home.text := fun same => itself ((text_inj normal homeNormal).mp same)
    have front := slashed_bare named normal rooted
    have kept (rest : String) : "~/" ++ rest ≠ path.text := Ne.symm (text_no_tilde rooted rest)
    rw [(shorten_other other).2, reported, if_neg itself]
    cases root : home.root <;> cases below : path.root <;>
      simp_all [text_no_tilde rooted]
  · exact iff_of_true (shorten_named homeNormal named normal rooted) (.inl named)

/-! ## Both reports -/

/-- The home directory that a setting names is a normal path. -/
theorem home_normal {setting : String} (found : homeOf setting = .ok home) : home.Normal := by
  unfold homeOf at found
  cases checked : checkSetting setting with
  | error fault =>
    rw [checked] at found
    cases found
  | ok =>
    rw [checked] at found
    dsimp only [bind, Except.bind] at found
    split at found
    · cases found
      exact Path.normal_of_text _
    · cases found
    · cases found
      exact Path.normal_of_text _

/-- A home directory below `/` stands inside a path if its names follow each other in what is behind
the front, with something in front of them and behind them. -/
theorem stands_inside_iff (normal : home.Normal) (below : home.root = .single)
    (named : home.parts ≠ []) (text : String) :
    StandsInside home text ↔
      ∃ before behind, before ≠ [] ∧ behind ≠ [] ∧
        Path.segments (beyond home text) = before ++ home.parts.map String.toList ++ behind := by
  have some : home.parts.map String.toList ≠ [] := fun none => named (List.map_eq_nil_iff.mp none)
  have written : slashed home =
      '/' :: (['/'].intercalate (home.parts.map String.toList) ++ ['/']) := by
    rw [slashed, Path.text_named named, below]
    rfl
  rw [StandsInside, written]
  exact Path.standing_iff some (names_plain normal) _

/-- A path with a root is reported with `~` for the home directory at its front, unless that is a
root itself; and the text of it comes out the same unless the home directory stands inside, which
for one below `/` means that its names follow each other further inside.

Proof: both functions look for the text of the home directory with a slash behind it. The first
looks at the front only, where this is a question of names, as a normal path has single slashes
between its names (`shorten_path_iff`). The second replaces it wherever it stands, so they differ
exactly if it stands somewhere else (`shorten_text_iff`, `stands_inside_iff`). -/
theorem home_shortened {setting : String} (found : homeOf setting = .ok home)
    (normal : path.Normal) (rooted : path.root ≠ .relative) :
    (shortenPath home path.text = reported home path ↔
      home.parts ≠ [] ∨ home.root = .relative ∨ path = home ∨
        (home.root = .double ∧ path.root = .single)) ∧
    (shortenText home path.text = shortenPath home path.text ↔
      home.text = "~" ∨ ¬StandsInside home path.text) ∧
    (home.root = .single → home.parts ≠ [] →
      (StandsInside home path.text ↔
        ∃ before behind, before ≠ [] ∧ behind ≠ [] ∧
          Path.segments (beyond home path.text) =
            before ++ home.parts.map String.toList ++ behind)) := by
  have homeNormal := home_normal found
  refine ⟨?_, ?_, ?_⟩
  · exact shorten_path_iff homeNormal normal rooted
  · exact shorten_text_iff homeNormal path.text
  · exact fun below named => stands_inside_iff homeNormal below named path.text

/-- Below the home directory stands a copy of it. -/
theorem copied_home_shortened :
    ∃ home : Path, homeOf "/home/u/" = .ok home ∧
      shortenPath home "/home/u/x/home/u/y" = "~/x/home/u/y" ∧
      shortenText home "/home/u/x/home/u/y" ≠ "~/x/home/u/y" := by
  let home : Path := ⟨.single, ["home", "u"]⟩
  let path : Path := ⟨.single, ["home", "u", "x", "home", "u", "y"]⟩
  have found : homeOf "/home/u/" = .ok home := by rfl
  have normal : path.Normal := by decide
  obtain ⟨cut, alike, inside⟩ := home_shortened found normal (by decide)
  have shown : shortenPath home path.text = "~/x/home/u/y" :=
    (cut.mpr (.inl (by decide))).trans (by decide)
  have stands : StandsInside home path.text :=
    (inside rfl (by decide)).mpr ⟨[['x']], [['y']], by decide, by decide, by decide⟩
  refine ⟨home, found, shown, fun same => ?_⟩
  exact (alike.mp (same.trans shown.symm)).elim (by decide) fun apart => apart stands

/-- A directory that ends in the home directory's path is written with a tilde in its midst where it
stands in a text; and the root as home directory shortens no path below it. -/
theorem inner_home_replaced :
    (∃ home : Path, homeOf "/home/u" = .ok home ∧
      shortenText home "/mnt/home/u/x" = "/mnt~/x" ∧
      shortenPath home "/mnt/home/u/x" = "/mnt/home/u/x") ∧
    ∃ home path : Path, homeOf "/" = .ok home ∧ path = home.join (.ofText "a") ∧
      shortenText home path.text = "/a" ∧ shortenPath home path.text = "/a" := by
  refine ⟨⟨⟨.single, ["home", "u"]⟩, by rfl, by decide, by decide⟩, ?_⟩
  exact ⟨⟨.single, []⟩, ⟨.single, ["a"]⟩, by rfl, by decide, by decide, by decide⟩

end Stencil.Report
