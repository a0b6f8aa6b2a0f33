/-!
# Outlines

Generated code as a tree of lines: a line that stands alone, a header with a
body, or a branch with one or two bodies. `Outline.lines` lays a tree out by
indentation, four spaces to a level. A body without lines is written `pass`; the
second body of a branch is written only if it has lines.
-/

namespace Stencil.Code

/-- A tree of lines. -/
inductive Outline where
  | line (text : String)
  | headed (head : String) (body : List Outline)
  | branch (head : String) (thenBody elseBody : List Outline)
deriving Repr

namespace Outline

/-- A text at a depth; a depth below zero indents nothing. -/
def indent (depth : Int) (text : String) : String :=
  String.ofList (List.replicate (4 * depth.toNat) ' ') ++ text

mutual

/-- The lines of a tree at a depth. -/
def lines (depth : Int) : Outline → List String
  | line text => [indent depth text]
  | headed head body => indent depth head :: bodyLines (depth + 1) body
  | branch head thenBody elseBody =>
    indent depth head :: bodyLines (depth + 1) thenBody ++
      match elseBody with
      | [] => []
      | first :: rest =>
        indent depth "else:" :: (lines (depth + 1) first ++ linesOf (depth + 1) rest)

/-- The lines of trees one after the other. -/
def linesOf (depth : Int) : List Outline → List String
  | [] => []
  | outline :: rest => lines depth outline ++ linesOf depth rest

/-- The lines of a body, of which there is at least one. -/
def bodyLines (depth : Int) : List Outline → List String
  | [] => [indent depth "pass"]
  | outline :: rest => lines depth outline ++ linesOf depth rest

end

/-- Lines as the text of a file, each ended by a line feed. -/
def fileText (lines : List String) : String := String.join (lines.map (· ++ "\n"))

end Outline

end Stencil.Code
