import Stencil.StatusTable.Naming
import Stencil.StatusTable.Table
import Stencil.Conversion.Table
import Stencil.Code.Literal
import Stencil.Template.Call

/-!
# Makers

Roles that make code from status code tables. A lookup maker makes the function
that maps a code back to its name, a module maker the module of one constant
for each entry with that function behind them, and a package maker the package
around such a module.

What a maker converts is a table, an entry of a table or any other value. Each
maker has a rule table; its functions look at the parts of their subject, and
a subject without those parts is refused only then.

The checks of a lookup function are made first, and the function is then filled
with them. Making each one only when the function's body comes to it would give
the same result for every table: a check is made of its entry alone, it looks at
nothing that is stored, and the checks stand in the order of the entries either
way. If an entry has no check, both ways fail with the same fault, and what they
have stored by then differs only in objects that nothing leads to.
-/

namespace Stencil.StatusTable

open Code Conversion

/-- An entry whose parts may be any values. -/
structure Item where
  code : Value
  name : Value
deriving Repr

/-- What makers convert. -/
inductive Subject where
  | table (items : List Item)
  | item (item : Item)
  | value (value : Value)
deriving Repr

namespace Subject

/-- The subject that a table is. -/
def ofTable (table : Table) : Subject :=
  .table (table.map fun entry => ⟨.int entry.code, .text entry.name⟩)

/-- The name of a subject's kind. -/
def kind : Subject → String
  | table _ => "StatusCodes"
  | item _ => "StatusCode"
  | value held => held.kind

/-- The entries of a table. -/
def items : Subject → Except Fault (List Item)
  | table all => .ok all
  | other => .error (.noAttribute other.kind "codes")

/-- The code of an entry. -/
def code : Subject → Except Fault Value
  | item entry => .ok entry.code
  | other => .error (.noAttribute other.kind "code")

/-- The name of an entry, a variable or a function. -/
def name (subject : Subject) : Build Value := do
  match subject with
  | item entry => return entry.name
  | value (.reference inner) => return inner
  | value (.object (.statement ref)) => match ← Build.statementAt ref with
    | .function name _ _ => return .text name
    | _ => throw (.noAttribute subject.kind "name")
  | other => throw (.noAttribute other.kind "name")

end Subject

/-- The name of the function that maps codes back to names. -/
def lookupName : String := "status_for_code"

/-- The lookup function: a check for each entry, and what is returned for other codes. -/
def lookupTemplate : Except Template.SyntaxError Template.Template :=
  Template.Template.compile .functionDefinition
    ("\n    def status_for_code(code): \x7b\n        $(checks)*\n        return $(default)\n" ++
      "    \x7d\n    ")
    "status_for_code"

/-- The check for one entry. -/
def checkTemplate : Except Template.SyntaxError Template.Template :=
  Template.Template.compile .statement
    "\n    if code == $(code): \x7b\n        return $(name)\n    \x7d\n    " "status_check"

/-- Call a template that was read from a text. -/
def callRead (read : Except Template.SyntaxError Template.Template)
    (bindings : Template.Bindings) : Build Value :=
  match read with
  | .ok template => template.call bindings
  | .error fault => throw (.template fault)

/-- A rule table whose functions are run as they are. -/
abbrev Making := Conversion.Table (Subject → Build Value)

/-- The row of a rule from a kind of subjects to a kind of nodes. -/
def makingRow (owner input output : String) (function : Subject → Build Value) :
    Row (Subject → Build Value) :=
  let pair := Pair.ofTags (.kind input) (.kind output)
  ⟨pair, pair, function, owner⟩

/-- Convert a subject by the rule for its kind, or for an input tag that is given, and the output
tag. -/
def convertBy (making : Making) (subject : Subject) (output : Tag) (input : Option Tag) :
    Build Value := do
  let input := (input.bind Tag.given?).getD (.kind subject.kind)
  let rule ← making.resolve (.ofTags input output)
  rule.function subject

/-- Makes lookup functions. The default is what they return for unknown codes. -/
structure LookupMaker where
  default : Value
deriving Repr

namespace LookupMaker

/-- The check for one entry. -/
def check (subject : Subject) : Build Value := do
  let code ← literalOf (← subject.code)
  let name ← literalOf (← subject.name)
  callRead checkTemplate [("code", code), ("name", name)]

/-- The lookup function of a table. -/
def function (maker : LookupMaker) (subject : Subject) : Build Value := do
  let checks ← (← subject.items).mapM fun item => check (.item item)
  callRead lookupTemplate [("checks", .list checks), ("default", maker.default)]

/-- The rules of a lookup maker. -/
def making (maker : LookupMaker) : Making :=
  let row := makingRow "LookupFunctionMaker"
  ⟨"LookupFunctionMaker",
    [row "StatusCodes" "FunctionDefinition" maker.function, row "StatusCode" "Statement" check]⟩

end LookupMaker

/-- Makes modules of constants and a lookup function. -/
structure ModuleMaker where
  moduleName : String
  default : Value
  naming : Naming
deriving Repr

namespace ModuleMaker

/-- The constant of one entry. -/
def constant (maker : ModuleMaker) (subject : Subject) : Build Value := do
  let target ← maker.naming.apply (← subject.name)
  let value ← literalOf (← subject.code)
  return .object (.statement (← Build.newStatement (.assignment target value)))

/-- The module of a table. -/
def module (maker : ModuleMaker) (subject : Subject) : Build Value := do
  let id ← Build.newModule maker.moduleName
  let body ← Build.moduleBody id
  (← subject.items).forM fun item => do Build.push body (← maker.constant (.item item))
  let lookup : LookupMaker := ⟨maker.default⟩
  Build.push body (← convertBy lookup.making subject (.kind "FunctionDefinition") none)
  return .object (.module id)

/-- The rules of a module maker. -/
def making (maker : ModuleMaker) : Making :=
  let row := makingRow "StatusModuleMaker"
  ⟨"StatusModuleMaker",
    [row "StatusCodes" "Module" maker.module, row "StatusCode" "Assignment" maker.constant]⟩

end ModuleMaker

/-- Makes packages of one module, whose lookup function they pass on. -/
structure PackageMaker where
  packageName : String
  module : ModuleMaker
deriving Repr

namespace PackageMaker

/-- The package of a table. -/
def package (maker : PackageMaker) (subject : Subject) : Build Value := do
  let id ← Build.newPackage maker.packageName
  let line := "from ." ++ maker.module.moduleName ++ " import " ++ lookupName
  let statement ← Build.newStatement (.raw line)
  Build.push (← Build.moduleBody (← Build.packageRoot id)) (.object (.statement statement))
  let inner ← convertBy maker.module.making subject (.kind "Module") (some (.kind "StatusCodes"))
  Build.attach .module (.object (.package id)) inner

/-- The rules of a package maker. -/
def making (maker : PackageMaker) : Making :=
  let row := makingRow "StatusPackageMaker"
  ⟨"StatusPackageMaker", [row "StatusCodes" "Package" maker.package]⟩

end PackageMaker

/-- A maker. -/
inductive Maker where
  | lookup (maker : LookupMaker)
  | module (maker : ModuleMaker)
  | package (maker : PackageMaker)
deriving Repr

namespace Maker

/-- The rules of a maker. -/
def making : Maker → Making
  | lookup maker => maker.making
  | module maker => maker.making
  | package maker => maker.making

/-- What a maker's top-level conversion makes, if it has one. -/
def goal? : Maker → Option String
  | lookup _ => none
  | module _ => some "Module"
  | package _ => some "Package"

/-- Convert a subject by the rule for its kind, or for an input tag that is given, and the output
tag. -/
def convert (maker : Maker) (subject : Subject) (output : Tag) (input : Option Tag) :
    Build Value :=
  convertBy maker.making subject output input

/-- Make a table's module or package. -/
def make (maker : Maker) (subject : Subject) : Build Value :=
  match maker.goal? with
  | some goal => maker.convert subject (.kind goal) (some (.kind "StatusCodes"))
  | none => throw (.noConversion maker.making.role)

end Maker

end Stencil.StatusTable
