import Stencil.Code.Store
import Stencil.Code.Outline

/-!
# Rendering

What stored objects look like as text. A statement's own line is made of the
texts of its values; its bodies become the bodies of an outline. Rendering
reads the store and never changes it.

Statements may contain themselves, and then have no text. The recursion is
bounded by the number of stored statements, which no chain of nested statements
exceeds unless one contains itself.
-/

namespace Stencil.Code

/-- What the text of a value needs to know about stored objects: how one is named, and what source
text one stands for. -/
structure Look where
  name : Ref → String
  source : Ref → Except Fault String

mutual

/-- The text of a value. Expressions give their source text, which has to be a text. -/
def Value.textBy (look : Look) : Value → Except Fault String
  | .text written => .ok written
  | .literal inner => match inner.plain with
    | .text written => .ok written
    | _ => .error (.textNotText inner.kind)
  | .reference inner => match inner.plain with
    | .text written => .ok written
    | _ => .error (.textNotText inner.kind)
  | .equals lhs rhs => do
    let left ← lhs.sourceBy look
    let right ← rhs.sourceBy look
    return left ++ " == " ++ right
  | .object ref => .ok (look.name ref)
  | .declared _ value => value.textBy look
  | value => .ok (value.display look.name)

/-- The source text of an operand. Only expressions and modules have one. -/
def Value.sourceBy (look : Look) : Value → Except Fault String
  | .literal inner => inner.textBy look
  | .reference inner => inner.textBy look
  | .equals lhs rhs => do
    let left ← lhs.sourceBy look
    let right ← rhs.sourceBy look
    return left ++ " == " ++ right
  | .object ref => look.source ref
  | value => .error (.noAttribute value.kind "render")

end

namespace Store

/-- How a stored object is named inside messages and lists. A growing list is not written out once
more inside itself; the lists that it stands in are given. -/
def nameOf (store : Store) : Nat → List Nat → Ref → String
  | 0, _, _ => "[...]"
  | fuel + 1, outer, .cell id =>
    if id ∈ outer then "[...]"
    else (Value.list (store.cell id)).display (store.nameOf fuel (id :: outer))
  | _, _, .module id => match store.modules[id]? with
    | some item =>
      "Module(" ++ Text.display item.path.text ++ ", statements="
        ++ toString (store.block item.body).length ++ ")"
    | none => "Module"
  | _, _, .package id => match store.packages[id]? with
    | some item =>
      "Package(" ++ Text.display item.path.text ++ ", modules=" ++ toString item.modules.length
        ++ ", packages=" ++ toString item.packages.length ++ ")"
    | none => "Package"
  | _, _, .template id => match store.templates[id]? with
    | some item => "Template(" ++ Text.display item.name ++ ", kind=" ++ item.kind.text ++ ")"
    | none => "Template"
  | _, _, ref => Value.nameKind ref

/-- How a stored object is named; no growing list is nested deeper than there are lists. -/
def name (store : Store) (ref : Ref) : String := store.nameOf (store.cells.size + 1) [] ref

/-- The source text of a stored object, from the outlines of statements. -/
def sourceWith (store : Store) (outline : StatementRef → Except Fault Outline) (ref : Ref) :
    Except Fault String :=
  match ref with
  | .module id => match store.modules[id]? with
    | some item => do
      let outlines ← (store.block item.body).mapM outline
      return Outline.fileText (Outline.linesOf 0 outlines)
    | none => .ok ""
  | .statement _ | .block _ => .ok (Value.nameKind ref)
  | ref => .error (.noAttribute ref.kind "render")

/-- The outlines of a value that stands as a body, from the outlines of statements. -/
def bodyWith (store : Store) (outline : StatementRef → Except Fault Outline) (body : Value) :
    Except Fault (List Outline) :=
  match body with
  | .object (.block id) => (store.block id).mapM outline
  | .object (.statement ref) => return [← outline ref]
  | .literal _ | .reference _ | .equals .. | .object (.module _) =>
    .error (.unexpectedDepth body.kind)
  | body => .error (.noAttribute body.kind "render")

/-- The outlines of a value that stands as the second body of a conditional. -/
def elseWith (store : Store) (outline : StatementRef → Except Fault Outline) (body : Value) :
    Except Fault (List Outline) :=
  match body with
  | .object (.block id) => (store.block id).mapM outline
  | body => .error (.noAttribute body.kind "is_empty")

/-- The outline of a statement. The bound counts the statements that contain each other. -/
def outlineOf (store : Store) : Nat → StatementRef → Except Fault Outline
  | 0, _ => .error .tooDeep
  | fuel + 1, ref =>
    let text := Value.textBy ⟨store.name, store.sourceWith (store.outlineOf fuel)⟩
    match store.statements[ref.id]? with
    | none => .error .tooDeep
    | some (.assignment target value) => do
      return .line ((← text target) ++ " = " ++ (← text value))
    | some (.result expression) => do return .line ("return " ++ (← text expression))
    | some (.raw line) => .ok (.line line)
    | some (.function name args body) => do
      let outlines ← (store.block body).mapM (store.outlineOf fuel)
      return .headed ("def " ++ name ++ "(" ++ ", ".intercalate args ++ "):") outlines
    | some (.conditional condition thenBody elseBody) => do
      let head ← text condition
      let thenOutlines ← store.bodyWith (store.outlineOf fuel) thenBody
      let elseOutlines ← store.elseWith (store.outlineOf fuel) elseBody
      return .branch ("if " ++ head ++ ":") thenOutlines elseOutlines

/-- The outline of a statement. -/
def outline (store : Store) (ref : StatementRef) : Except Fault Outline :=
  store.outlineOf (store.statements.size + 1) ref

/-- What the texts of values need to know of the store. -/
def look (store : Store) : Look := ⟨store.name, store.sourceWith store.outline⟩

/-- The text of a value. -/
def text (store : Store) (value : Value) : Except Fault String := value.textBy store.look

/-- The lines of a statement at a depth. -/
def statementLines (store : Store) (depth : Int) (ref : StatementRef) :
    Except Fault (List String) :=
  (store.outline ref).map (Outline.lines depth)

/-- The lines of a body at a depth. -/
def blockLines (store : Store) (depth : Int) (id : Nat) : Except Fault (List String) :=
  ((store.block id).mapM store.outline).map (Outline.bodyLines depth)

/-- The text of a module. -/
def moduleText (store : Store) (id : Nat) : Except Fault String :=
  store.sourceWith store.outline (.module id)

/-- A rendering: lines for what stands in a body, a text for what stands in a line or a file. -/
inductive Rendered where
  | lines (lines : List String)
  | text (value : Value)

/-- The parts of a rendering that stands in a list: its lines, or its characters. -/
def Rendered.parts : Rendered → Except Fault (List String)
  | .lines all => .ok all
  | .text value => match value.plain with
    | .text written => .ok (written.toList.map String.singleton)
    | _ => .error (.notIterable value.kind)

/-- Render a value at a depth, lists item by item. The bound counts the lists inside each other. -/
def renderOf (store : Store) (depth : Int) : Nat → Value → Except Fault Rendered
  | 0, _ => .error .tooDeep
  | fuel + 1, value =>
    let joined (items : List Value) : Except Fault Rendered := do
      let parts ← items.mapM fun item => do (← store.renderOf depth fuel item).parts
      return .lines parts.flatten
    match value with
    | .object (.statement ref) => .lines <$> store.statementLines depth ref
    | .object (.block id) => .lines <$> store.blockLines depth id
    | .object (.module id) => (.text ∘ .text) <$> store.moduleText id
    | .literal inner => .ok (.text inner)
    | .reference inner => .ok (.text inner)
    | .equals .. => (.text ∘ .text) <$> store.text value
    | .list items => joined items
    | .object (.cell id) => joined (store.cell id)
    | value => .error (.notRenderable value.kind)

/-- How deep lists may be nested to be rendered. -/
def nestingLimit : Nat := 1000

/-- Render a value at a depth. -/
def render (store : Store) (depth : Int) (value : Value) : Except Fault Rendered :=
  store.renderOf depth nestingLimit value

end Store

end Stencil.Code
