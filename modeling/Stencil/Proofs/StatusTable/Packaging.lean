import Stencil.Proofs.Code.Grammar
import Stencil.Proofs.Code.Pathnames
import Stencil.Proofs.StatusTable.Generation

/-!
# Packages that import from themselves

A package of a table has two files. The first imports the lookup function from
the module whose dotted name is that of the maker; the second defines it. The
dots of an import are read as the slashes of a path, and its parts as names. A
name of a module becomes a path by other rules, with its own slashes and nothing
said about dots. Both lead to one file exactly if the name is a single name of
the language, spelled as itself, and not that of the first file
(`package_consistent`).
-/

namespace Stencil.Code

/-- A line that imports a name from the module of a dotted name, relative to the package it is in. The
parts between the dots are read as these names. -/
def ImportsFrom (spelling : Spelling) (line imported : String) (names : List String) : Prop :=
  ∃ parts, line = "from ." ++ ".".intercalate parts ++ " import " ++ imported ∧
    parts.map spelling.name? = names.map some

/-- The path of a module, relative to the package it is in: all names but the last are directories. -/
def modulePath (directories : List String) (name : String) : Path :=
  ⟨.relative, directories ++ [name ++ ".py"]⟩

/-- Two files of a package in a directory fit together: they are different files, the first imports a
name, and the module it is imported from is the second, which defines it as a function. -/
structure FitTogether (spelling : Spelling) (directory : Path) (root module : OutputFile)
    (imported : String) : Prop where
  apart : root.path ≠ module.path
  imports : ∃ line directories name, root.text = Outline.fileText [line] ∧
    ImportsFrom spelling line imported (directories ++ [name]) ∧
    module.path = directory.join (modulePath directories name)
  defines : ∃ before behind,
    module.text = Outline.fileText (before ++ ("def " ++ imported ++ "(code):") :: behind)

namespace Path

/-- A text without slashes that names something is read as one name. -/
theorem of_text_single {text : String} (plain : '/' ∉ text.toList)
    (named : isName text.toList = true) : ofText text = ⟨.relative, [text]⟩ := by
  have head : text.toList.head? ≠ some '/' := fun first => plain (List.mem_of_mem_head? first)
  have root : rootOf text.toList = .relative := root_of_text head .relative
  rw [ofText, root, segments_single plain, List.filter_singleton, named]
  simp

end Path

variable {spelling : WordSpelling} {name : String}

/-- The file of a module whose name has no slashes is in the directory of the package. -/
theorem path_of_plain (plain : '/' ∉ name.toList) :
    Path.ofText (name ++ ".py") = ⟨.relative, [name ++ ".py"]⟩ := by
  apply Path.of_text_single
  · rw [String.toList_append, List.mem_append, not_or]
    exact ⟨plain, by decide⟩
  · apply Path.name_of_long
    rw [String.toList_append, List.length_append]
    have suffix : ".py".toList.length = 3 := rfl
    omega

/-- A name has no slashes. -/
theorem name_plain {part : String} (named : spelling.name? part = some name) : '/' ∉ part.toList :=
  name_apart spelling named (by decide) (by decide)

/-- A dotted name has no slashes, since names have none. -/
theorem dotted_plain {parts names : List String} (spelled : parts.map spelling.name? = names.map some) :
    '/' ∉ (".".intercalate parts).toList := by
  intro slash
  rw [String.toList_intercalate] at slash
  rcases Path.intercalate_characters slash with dot | ⟨chars, among, inside⟩
  · exact absurd dot (by decide)
  · obtain ⟨part, member, rfl⟩ := List.mem_map.mp among
    have known : spelling.name? part ∈ names.map some := spelled ▸ List.mem_map_of_mem member
    obtain ⟨name, _, named⟩ := List.mem_map.mp known
    exact name_plain named.symm inside

/-- The module that is imported from is the file of a module's name exactly if that is a single
name, spelled as itself. A path that is read from a name has a part for each slash and none for
dots, so it meets the dotted parts only if there is one, which is the name. -/
theorem imported_path_iff (spelling : WordSpelling) (directory : Path) (name imported : String) :
    (∃ directories last,
      ImportsFrom spelling.toSpelling ("from ." ++ name ++ " import " ++ imported) imported
        (directories ++ [last]) ∧
      directory.join (.ofText (name ++ ".py")) = directory.join (modulePath directories last)) ↔
      spelling.name? name = some name := by
  constructor
  · rintro ⟨directories, last, ⟨parts, line, spelled⟩, paths⟩
    have dotted : name = ".".intercalate parts := by
      simpa [String.append_assoc] using line
    have plain : '/' ∉ name.toList := by
      rw [dotted]
      exact dotted_plain spelled
    rw [path_of_plain plain] at paths
    have names : [] ++ [name ++ ".py"] = directories ++ [last ++ ".py"] :=
      List.append_cancel_left (congrArg Path.parts paths)
    obtain ⟨rfl, same⟩ := List.append_inj' names rfl
    have single : name = last := by
      simpa using same
    obtain ⟨part, rfl, named⟩ := List.map_eq_singleton_iff.mp spelled
    rw [String.intercalate_singleton] at dotted
    rw [← dotted, ← single] at named
    exact named
  · intro named
    have plain := name_plain named
    refine ⟨[], name, ⟨[name], ?_, ?_⟩, ?_⟩
    · rw [String.intercalate_singleton]
    · rw [List.map_singleton, named]
      rfl
    · rw [path_of_plain plain]
      rfl

end Stencil.Code

namespace Stencil.StatusTable

open Code

variable {naming : Naming} {default text moduleName packageName : String} {table : Table}

/-- The files of a package are different unless the module has the name of the first file. -/
theorem files_apart {name : String} (plain : '/' ∉ name.toList) (directory : Path) :
    directory.join (.ofText "__init__.py") ≠ directory.join (.ofText (name ++ ".py")) ↔
      name ≠ "__init__" := by
  have root : Path.ofText "__init__.py" = ⟨.relative, ["__init__" ++ ".py"]⟩ := by
    decide
  rw [root, path_of_plain plain]
  apply not_congr
  constructor
  · intro same
    have names : ["__init__" ++ ".py"] = [name ++ ".py"] :=
      List.append_cancel_left (congrArg Path.parts same)
    exact ((String.append_left_inj ".py").mp (List.cons.inj names).1).symm
  · rintro rfl
    rfl

/-- The files of a package fit together exactly if the module's name is a single name, spelled as
itself, and not that of the first file. -/
theorem fit_together_iff (spelling : WordSpelling) (naming : Naming) (default moduleName : String)
    (directory : Path) (table : Table) :
    FitTogether spelling.toSpelling directory
        ⟨directory.join (.ofText "__init__.py"),
          Outline.fileText ["from ." ++ moduleName ++ " import status_for_code"]⟩
        ⟨directory.join (.ofText (moduleName ++ ".py")),
          Outline.fileText (moduleLines naming default table)⟩ lookupName ↔
      moduleName ≠ "__init__" ∧ spelling.name? moduleName = some moduleName := by
  have line : "from ." ++ moduleName ++ " import status_for_code" =
      "from ." ++ moduleName ++ " import " ++ lookupName := by
    have behind : " import " ++ lookupName = " import status_for_code" := by decide
    rw [← behind, ← String.append_assoc]
  have imported := imported_path_iff spelling directory moduleName lookupName
  rw [line]
  constructor
  · rintro ⟨apart, ⟨other, directories, last, text, imports, path⟩, _⟩
    obtain rfl : "from ." ++ moduleName ++ " import " ++ lookupName = other := by
      simpa [Outline.fileText] using text
    have named := imported.mp ⟨directories, last, imports, path⟩
    exact ⟨(files_apart (name_plain named) directory).mp apart, named⟩
  · rintro ⟨other, named⟩
    obtain ⟨directories, last, imports, path⟩ := imported.mpr named
    refine ⟨(files_apart (name_plain named) directory).mpr other, ?_, ?_⟩
    · exact ⟨_, directories, last, rfl, imports, path⟩
    · exact ⟨table.map (constantLine naming), _, rfl⟩

/-- From every table a package is made if the codes are within the limit for writing integers, and
none otherwise. It has two files, the second with the text of the table's module. They fit together
exactly if the name of the module is a single name of the language, spelled as itself, and not that
of the first file.

Proof: the two files and their texts are known (`make_files`). The first text imports from a path
made of the name's parts between dots, while the path of the second file is read from the name as it
is; they meet only where the name is a single word that is read as itself (`fit_together_iff`). -/
theorem package_consistent (naming : Naming) (default : Value) (text : String)
    (expression : default.expressionText? = some text) (moduleName packageName : String)
    (table : Table) (store : Store) :
    let maker := makerOf ⟨moduleName, default, naming⟩ (some packageName)
    ((∀ entry ∈ table, entry.Writable) → ∃ made after root module,
      (maker.make (.ofTable table)).Yields store made after ∧
      after.files made = .ok [root, module] ∧
      module.text = Outline.fileText (moduleLines naming text table) ∧
      ∀ spelling : WordSpelling,
        FitTogether spelling.toSpelling (.ofText packageName) root module lookupName ↔
          moduleName ≠ "__init__" ∧ spelling.name? moduleName = some moduleName) ∧
    ((∃ entry ∈ table, ¬entry.Writable) → ∃ after,
      (maker.make (.ofTable table)).Fails store .tooManyDigitsToWrite after) := by
  intro maker
  let module : ModuleMaker := ⟨moduleName, default, naming⟩
  constructor
  · intro writable
    obtain ⟨made, after, yields, written⟩ :=
      make_files module (some packageName) expression writable store
    exact ⟨made, after, _, _, yields, written, rfl,
      fun spelling => fit_together_iff spelling naming text moduleName _ table⟩
  · intro long
    exact make_fails module (some packageName) long store

/-- A package with a module of a single name fits together. -/
theorem single_name_fits :
    ∃ made after root module,
      ((makerOf ⟨"codes", .literal (.text "None"), .upperSnake⟩ (some "http")).make
        (.ofTable [⟨404, "Not Found"⟩])).Yields Store.empty made after ∧
      after.files made = .ok [root, module] ∧
      FitTogether Spelling.plain (.ofText "http") root module lookupName := by
  obtain ⟨made, after, root, module, yields, written, _, fits⟩ := (package_consistent .upperSnake
    (.literal (.text "None")) "None" rfl "codes" "http" [⟨404, "Not Found"⟩] Store.empty).1
    (by decide)
  exact ⟨made, after, root, module, yields, written,
    (fits WordSpelling.plain).mpr ⟨by decide, by decide⟩⟩

/-- A package with a module of a dotted name imports from another module than it has, and one with a
module of the first file's name has two files of one path. -/
theorem dotted_name_misses :
    (∃ made after root module,
      ((makerOf ⟨"a.b", .literal (.text "None"), .upperSnake⟩ (some "http")).make
        (.ofTable [⟨404, "Not Found"⟩])).Yields Store.empty made after ∧
      after.files made = .ok [root, module] ∧
      root.text = "from .a.b import status_for_code\n" ∧ module.path = .ofText "http/a.b.py" ∧
      ∀ spelling : WordSpelling,
        ¬FitTogether spelling.toSpelling (.ofText "http") root module lookupName) ∧
    ∃ made after root module,
      ((makerOf ⟨"__init__", .literal (.text "None"), .upperSnake⟩ (some "http")).make
        (.ofTable [⟨404, "Not Found"⟩])).Yields Store.empty made after ∧
      after.files made = .ok [root, module] ∧ root.path = module.path := by
  have writable : ∀ entry ∈ ([⟨404, "Not Found"⟩] : Table), entry.Writable := by decide
  constructor
  · let maker : ModuleMaker := ⟨"a.b", .literal (.text "None"), .upperSnake⟩
    obtain ⟨made, after, yields, written⟩ :=
      make_files maker (some "http") rfl writable Store.empty
    refine ⟨made, after, _, _, yields, written, by decide, by decide,
      fun spelling fits => ?_⟩
    have named := ((fit_together_iff spelling .upperSnake "None" "a.b" _ _).mp fits).2
    rw [spelling.ascii "a.b" (by decide), if_neg (by decide)] at named
    cases named
  · let maker : ModuleMaker := ⟨"__init__", .literal (.text "None"), .upperSnake⟩
    obtain ⟨made, after, yields, written⟩ :=
      make_files maker (some "http") rfl writable Store.empty
    exact ⟨made, after, _, _, yields, written, rfl⟩

end Stencil.StatusTable
