import StructuredShell.Json
import StructuredShell.Syntax.Tree

/-!
# Programs as JSON values

Every node that has alternatives is an object with one field, whose key names the alternative. The
other nodes are objects with their parts as fields, in the order given here.
-/

set_option autoImplicit false

namespace StructuredShell

/-- An alternative of a node: one field that names it and holds its content. -/
def Json.tagged (tag : String) (content : Json) : Json :=
  .object [(tag, content)]

def Json.named (name : String) : Json :=
  .object [("name", .text name)]

/-! ## Values and conditions -/

def ArithOp.name : ArithOp → String
  | add => "Add"
  | subtract => "Subtract"
  | multiply => "Multiply"
  | divide => "Divide"
  | modulo => "Modulo"

def RelOp.name : RelOp → String
  | less => "Less"
  | greater => "Greater"
  | lessEqual => "LessEqual"
  | greaterEqual => "GreaterEqual"
  | equal => "Equal"
  | notEqual => "NotEqual"

def Json.operation (operator : String) (left right : Json) : Json :=
  .object [("operator", .text operator), ("left", left), ("right", right)]

mutual

def Expr.toJson : Expr → Json
  | .var name => .tagged "Variable" (.named name)
  | .number value => .tagged "Number" (.object [("value", .number value)])
  | .text value => .tagged "String" (.object [("value", .text value)])
  | .binary operator left right =>
    .tagged "Binary" (.operation operator.name left.toJson right.toJson)
  | .call name arguments =>
    .tagged "Call" (.object [("name", .text name),
      ("arguments", .list (Expr.listToJson arguments))])
  | .raw fragments => .tagged "Raw" (.object [("fragments", .list (Fragment.listToJson fragments))])

def Expr.listToJson : List Expr → List Json
  | [] => []
  | value :: rest => value.toJson :: Expr.listToJson rest

def Fragment.listToJson : List Fragment → List Json
  | [] => []
  | .shell text :: rest =>
    .tagged "Bash" (.object [("text", .text text)]) :: Fragment.listToJson rest
  | .splice value :: rest =>
    .tagged "Splice" (.object [("expression", value.toJson)]) :: Fragment.listToJson rest

end

/-- A condition. The constants have no content, so their name alone stands for them. -/
def Condition.toJson : Condition → Json
  | .constant true => .text "True"
  | .constant false => .text "False"
  | .comparison operator left right =>
    .tagged "Comparison" (.operation operator.name left.toJson right.toJson)
  | .conjunction left right =>
    .tagged "Conjunction" (.object [("left", left.toJson), ("right", right.toJson)])
  | .disjunction left right =>
    .tagged "Disjunction" (.object [("left", left.toJson), ("right", right.toJson)])

/-! ## Statements -/

def Assignment.toJson (binding : Assignment) : Json :=
  .object [("declaration", .boolean binding.declaration), ("target", .named binding.target),
    ("value", binding.value.toJson)]

def Json.simple (condition body : Json) : Json :=
  .object [("condition", condition), ("body", body)]

def Json.branching (condition body alternative : Json) : Json :=
  .object [("condition", condition), ("if_body", body), ("else_body", alternative)]

mutual

/-- A statement. A conditional is named for whether it has an alternative. -/
def Statement.toJson : Statement → Json
  | .assignment binding => .tagged "Assignment" binding.toJson
  | .returnValue value => .tagged "Return" (.object [("value", value.toJson)])
  | .block statements =>
    .tagged "Block" (.object [("statements", .list (Statement.listToJson statements))])
  | .conditional condition body alternative =>
    match alternative.toJson? with
    | none => .tagged "SimpleConditional" (.simple condition.toJson body.toJson)
    | some other => .tagged "BranchingConditional" (.branching condition.toJson body.toJson other)
  | .expression value => .tagged "Expression" value.toJson

def Alternative.toJson? : Alternative → Option Json
  | .absent => none
  | .otherwise body => some (.tagged "Statement" body.toJson)
  | .elseIf condition body alternative =>
    match alternative.toJson? with
    | none =>
      some (.tagged "Conditional" (.tagged "Simple" (.simple condition.toJson body.toJson)))
    | some other =>
      some (.tagged "Conditional"
        (.tagged "Branching" (.branching condition.toJson body.toJson other)))

def Statement.listToJson : List Statement → List Json
  | [] => []
  | statement :: rest => statement.toJson :: Statement.listToJson rest

end

/-! ## Programs -/

def FunctionDecl.toJson (function : FunctionDecl) : Json :=
  .object [("name", .text function.name), ("parameters", .list (function.parameters.map .named)),
    ("body", .list (Statement.listToJson function.body))]

def Program.toJson (program : Program) : Json :=
  .object [("globals", .list (program.globals.map Assignment.toJson)),
    ("functions", .list (program.functions.map FunctionDecl.toJson))]

end StructuredShell
