import Stencil.Code.Path

/-!
# Texts of paths

A path that has been read is normal: its names are not empty, not `.`, and hold
no slash (`normal_of_text`), and joining keeps it so. The text of a normal path
is read as that path (`of_text_text`), since its segments are its names
(`segments_intercalate`). So putting characters behind the text puts them
behind the last name (`of_text_extended`).
-/

namespace Stencil.Code.Path

/-! ## Segments -/

/-- A text without slashes is one segment. -/
theorem segments_single {cs : List Char} (plain : '/' ∉ cs) : segments cs = [cs] := by
  induction cs with
  | nil => rfl
  | cons c rest inductionHypothesis =>
    rw [List.mem_cons, not_or] at plain
    rw [segments, if_neg (Ne.symm plain.1), inductionHypothesis plain.2]

/-- What stands before the first slash is the first segment. -/
theorem segments_first {cs : List Char} (plain : '/' ∉ cs) (rest : List Char) :
    segments (cs ++ '/' :: rest) = cs :: segments rest := by
  induction cs with
  | nil => rw [List.nil_append, segments, if_pos rfl]
  | cons c others inductionHypothesis =>
    rw [List.mem_cons, not_or] at plain
    rw [List.cons_append, segments, if_neg (Ne.symm plain.1), inductionHypothesis plain.2]

/-- Texts without slashes, put together with slashes, are the segments. The induction is on the
texts, and each of them ends at the slash behind it. -/
theorem segments_intercalate {names : List (List Char)} (any : names ≠ [])
    (plain : ∀ name ∈ names, '/' ∉ name) : segments (['/'].intercalate names) = names := by
  induction names with
  | nil => exact absurd rfl any
  | cons name rest inductionHypothesis =>
    rw [List.forall_mem_cons] at plain
    cases rest with
    | nil => rw [List.intercalate_singleton, segments_single plain.1]
    | cons next others =>
      rw [List.intercalate_cons_cons, List.append_assoc, List.singleton_append,
        segments_first plain.1, inductionHypothesis (List.cons_ne_nil _ _) plain.2]

/-- Characters behind a text, if they are no slashes, are behind its last segment. -/
theorem segments_extended {suffix : List Char} (plain : '/' ∉ suffix) (cs : List Char) :
    ∃ before last, segments cs = before ++ [last] ∧
      segments (cs ++ suffix) = before ++ [last ++ suffix] := by
  induction cs with
  | nil => exact ⟨[], [], rfl, segments_single plain⟩
  | cons c rest inductionHypothesis =>
    obtain ⟨before, last, here, extended⟩ := inductionHypothesis
    rw [List.cons_append, segments, segments, here, extended]
    by_cases slash : c = '/'
    · exact ⟨[] :: before, last, by rw [if_pos slash]; rfl, by rw [if_pos slash]; rfl⟩
    · rw [if_neg slash, if_neg slash]
      cases before with
      | nil => exact ⟨[], c :: last, rfl, rfl⟩
      | cons first others => exact ⟨(c :: first) :: others, last, rfl, rfl⟩

/-- The characters of a segment are characters of the text, and no slashes. -/
theorem segment_characters {cs segment : List Char} (member : segment ∈ segments cs) :
    ∀ c ∈ segment, c ∈ cs ∧ c ≠ '/' := by
  induction cs generalizing segment with
  | nil =>
    rcases List.mem_singleton.mp member with rfl
    exact fun _ none => nomatch none
  | cons first rest inductionHypothesis =>
    rw [segments] at member
    split at member
    · rcases List.mem_cons.mp member with rfl | behind
      · exact fun _ none => nomatch none
      · exact fun c among =>
          ⟨List.mem_cons_of_mem _ (inductionHypothesis behind c among).1,
            (inductionHypothesis behind c among).2⟩
    · rename_i other
      split at member
      · rcases List.mem_singleton.mp member with rfl
        intro c among
        rcases List.mem_singleton.mp among with rfl
        exact ⟨List.mem_cons_self, other⟩
      · rename_i next others split
        rw [split] at inductionHypothesis
        rcases List.mem_cons.mp member with rfl | behind
        · intro c among
          rcases List.mem_cons.mp among with rfl | inside
          · exact ⟨List.mem_cons_self, other⟩
          · have there := inductionHypothesis List.mem_cons_self c inside
            exact ⟨List.mem_cons_of_mem _ there.1, there.2⟩
        · intro c among
          have there := inductionHypothesis (List.mem_cons_of_mem _ behind) c among
          exact ⟨List.mem_cons_of_mem _ there.1, there.2⟩

/-! ## Normal paths -/

/-- The names of a path are names: not empty, not `.`, and without slashes. -/
def Normal (path : Path) : Prop :=
  ∀ name ∈ path.parts, isName name.toList = true ∧ '/' ∉ name.toList

instance (path : Path) : Decidable path.Normal :=
  inferInstanceAs (Decidable (∀ name ∈ path.parts, isName name.toList = true ∧ '/' ∉ name.toList))

/-- A name is not empty. -/
theorem name_ne_nil {segment : List Char} (named : isName segment = true) : segment ≠ [] := by
  rintro rfl
  cases named

/-- A name with characters behind it is a name. -/
theorem name_append {segment : List Char} (named : isName segment = true) (suffix : List Char) :
    isName (segment ++ suffix) = true := by
  cases segment with
  | nil => cases named
  | cons c rest => cases rest <;> cases suffix <;> simp_all [isName]

/-- More than one character is a name. -/
theorem name_of_long {segment : List Char} (long : 1 < segment.length) : isName segment = true := by
  match segment, long with
  | _ :: _ :: _, _ => simp [isName]

/-- A path that was read is normal. -/
theorem normal_of_text (text : String) : (ofText text).Normal := by
  intro name member
  obtain ⟨segment, among, rfl⟩ := List.mem_map.mp member
  obtain ⟨there, named⟩ := List.mem_filter.mp among
  rw [String.toList_ofList]
  exact ⟨named, fun slash => (segment_characters there _ slash).2 rfl⟩

/-- A text that ends in characters that make any segment a name is read as a path whose last name
ends in them. -/
theorem of_text_ends {suffix : String} (plain : '/' ∉ suffix.toList)
    (named : ∀ segment, isName (segment ++ suffix.toList) = true) (text : String) :
    ∃ names stem, (ofText (text ++ suffix)).parts = names ++ [stem ++ suffix] := by
  obtain ⟨before, last, _, extended⟩ := segments_extended plain text.toList
  refine ⟨(before.filter isName).map String.ofList, String.ofList last, ?_⟩
  rw [ofText, String.toList_append, extended, List.filter_append, List.filter_cons,
    if_pos (named last), List.map_append]
  simp

/-- Normal paths are joined to a normal path. -/
theorem normal_join {outer inner : Path} (one : outer.Normal) (other : inner.Normal) :
    (outer.join inner).Normal := by
  unfold join
  split
  · intro name member
    rcases List.mem_append.mp member with first | second
    · exact one name first
    · exact other name second
  · exact other

/-! ## The text of a path -/

/-- Leading slashes are read as the root that they write. -/
theorem root_of_text {rest : List Char} (plain : rest.head? ≠ some '/') (root : Root) :
    rootOf ((Root.text root).toList ++ rest) = root := by
  cases rest with
  | nil => cases root <;> rfl
  | cons c others =>
    have other : c ≠ '/' := fun slash => plain (by rw [slash]; rfl)
    cases root <;> simp [Root.text, rootOf, other]

/-- The slashes of the root write no names. -/
theorem segments_root (root : Root) (rest : List Char) :
    (segments ((Root.text root).toList ++ rest)).filter isName =
      (segments rest).filter isName := by
  cases root <;> simp [Root.text, segments, isName]

/-- A path joined to another ends as it does. -/
theorem join_ends {inner : Path} {names : List String} {last : String}
    (ends : inner.parts = names ++ [last]) (outer : Path) :
    (outer.join inner).parts.getLast? = some last := by
  unfold join
  split
  · rw [ends, ← List.append_assoc, List.getLast?_concat]
  · rw [ends, List.getLast?_concat]

/-- The characters of a path's text that has names. -/
theorem text_named {path : Path} (named : path.parts ≠ []) :
    path.text.toList =
      (Root.text path.root).toList ++ ['/'].intercalate (path.parts.map String.toList) := by
  rw [text, if_neg (fun none => named none.2), String.toList_append, String.toList_intercalate]
  rfl

/-- Texts put together start with the first of them. -/
theorem intercalate_head {between text : List Char} (any : text ≠ []) (rest : List (List Char)) :
    (between.intercalate (text :: rest)).head? = text.head? := by
  obtain ⟨c, others, rfl⟩ := List.exists_cons_of_ne_nil any
  cases rest with
  | nil => rw [List.intercalate_singleton]
  | cons next behind => rw [List.intercalate_cons_cons]; rfl

/-- The characters of texts put together are theirs and those between them. -/
theorem intercalate_characters {between : List Char} {texts : List (List Char)} {c : Char}
    (member : c ∈ between.intercalate texts) : c ∈ between ∨ ∃ text ∈ texts, c ∈ text := by
  induction texts with
  | nil => exact absurd member List.not_mem_nil
  | cons text rest inductionHypothesis =>
    cases rest with
    | nil =>
      rw [List.intercalate_singleton] at member
      exact .inr ⟨text, List.mem_cons_self, member⟩
    | cons next others =>
      rw [List.intercalate_cons_cons, List.mem_append, List.mem_append] at member
      rcases member with (here | separating) | behind
      · exact .inr ⟨text, List.mem_cons_self, here⟩
      · exact .inl separating
      · rcases inductionHypothesis behind with separating | ⟨each, among, there⟩
        · exact .inl separating
        · exact .inr ⟨each, List.mem_cons_of_mem _ among, there⟩

/-- The characters of a path's text are those of its names, slashes, and the dot of the path without
names. -/
theorem text_characters {path : Path} {c : Char} (member : c ∈ path.text.toList) :
    c = '/' ∨ c = '.' ∨ ∃ name ∈ path.parts, c ∈ name.toList := by
  by_cases named : path.parts = []
  · obtain ⟨root, parts⟩ := path
    subst named
    cases root <;> simp [text, Root.text] at member <;> simp [member]
  · rw [text_named named, List.mem_append] at member
    rcases member with root | names
    · left
      cases is : path.root <;> simp [is, Root.text] at root
      · exact root
      · exact root
    · rcases intercalate_characters names with separating | ⟨text, among, there⟩
      · exact .inl (List.mem_singleton.mp separating)
      · obtain ⟨name, inside, rfl⟩ := List.mem_map.mp among
        exact .inr (.inr ⟨name, inside, there⟩)

/-- The text of a normal path is read as that path. No name of a normal path is dropped when its
text is read, and none of them is split at a slash. -/
theorem of_text_text {path : Path} (normal : path.Normal) : ofText path.text = path := by
  obtain ⟨root, parts⟩ := path
  cases parts with
  | nil => cases root <;> rfl
  | cons name rest =>
    obtain ⟨named, slash⟩ := normal name List.mem_cons_self
    have plain : (['/'].intercalate ((name :: rest).map String.toList)).head? ≠ some '/' := by
      rw [List.map_cons, intercalate_head (name_ne_nil named)]
      exact fun first => slash (List.mem_of_mem_head? first)
    have names : (segments (['/'].intercalate ((name :: rest).map String.toList))).filter isName =
        (name :: rest).map String.toList := by
      rw [segments_intercalate (by simp)]
      · refine List.filter_eq_self.mpr fun segment member => ?_
        obtain ⟨each, among, rfl⟩ := List.mem_map.mp member
        exact (normal each among).1
      · intro segment member
        obtain ⟨each, among, rfl⟩ := List.mem_map.mp member
        exact (normal each among).2
    rw [ofText, text_named (List.cons_ne_nil _ _), root_of_text plain, segments_root, names,
      List.map_map]
    simp

/-- Characters behind the last of some texts are behind all of them put together. -/
theorem intercalate_extended (between last suffix : List Char) (texts : List (List Char)) :
    between.intercalate (texts ++ [last ++ suffix]) =
      between.intercalate (texts ++ [last]) ++ suffix := by
  induction texts with
  | nil => simp
  | cons text rest inductionHypothesis =>
    rw [List.cons_append, List.cons_append, List.intercalate_cons_of_ne_nil (by simp),
      List.intercalate_cons_of_ne_nil (by simp), inductionHypothesis, List.append_assoc,
      List.append_assoc, List.append_assoc]

/-- Characters behind the text of a normal path are read as characters behind its last name. -/
theorem of_text_extended {path : Path} {names : List String} {name suffix : String}
    (normal : path.Normal) (parts : path.parts = names ++ [name]) (plain : '/' ∉ suffix.toList) :
    ofText (path.text ++ suffix) = ⟨path.root, names ++ [name ++ suffix]⟩ := by
  have longer : Normal ⟨path.root, names ++ [name ++ suffix]⟩ := by
    intro each member
    rcases List.mem_append.mp member with before | last
    · exact normal each (by rw [parts]; exact List.mem_append_left _ before)
    · rcases List.mem_singleton.mp last with rfl
      obtain ⟨named, slash⟩ := normal name (by rw [parts]; exact List.mem_concat_self)
      rw [String.toList_append]
      exact ⟨name_append named _, fun among => (List.mem_append.mp among).elim slash plain⟩
  have texts : path.text ++ suffix = (⟨path.root, names ++ [name ++ suffix]⟩ : Path).text := by
    refine String.toList_inj.mp ?_
    rw [String.toList_append, text_named (by rw [parts]; simp), text_named (by simp), parts,
      List.append_assoc, List.map_append, List.map_append, List.map_singleton, List.map_singleton,
      String.toList_append, intercalate_extended]
  rw [texts, of_text_text longer]

end Stencil.Code.Path
