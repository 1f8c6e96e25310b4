import Rehearsal.Code.Basic
import Rehearsal.Numeral
import Rehearsal.Text.Quoted

namespace Rehearsal.Code

-- Why a tree has no source text.
inductive RenderError where
  | expression (kind : String)
  | statement (kind : String)
  | misplaced (kind : String)
  | notText
  | oversizedNumber
  deriving DecidableEq, Repr

def RenderError.message : RenderError → String
  | .expression kind => "Cannot render expression " ++ kind
  | .statement kind => "Cannot render statement " ++ kind
  | .misplaced kind => "Cannot use " ++ kind ++ " here"
  | .notText => "Cannot list what is not a text"
  | .oversizedNumber => "Cannot write a number of that size"

-- Words of the target language that name nothing, and the name of the instance.
def reservedWords : List String :=
  ["False", "None", "True", "and", "as", "assert", "async", "await", "break", "class", "continue",
   "def", "del", "elif", "else", "except", "finally", "for", "from", "global", "if", "import",
   "in", "is", "lambda", "nonlocal", "not", "or", "pass", "raise", "return", "try", "while",
   "with", "yield", "self"]

-- A name that clashes with a reserved word gets an underscore.
def safeName (name : String) : String := if name ∈ reservedWords then name ++ "_" else name

-- Types of the tree that the target language spells differently.
def TypeRef.render (type : TypeRef) : String :=
  if type.rank ≠ 0 then "list" else if type.name = "string" then "str" else type.name

def renderType : Slot TypeRef → Except RenderError String
  | .of type => .ok type.render
  | .foreign thing => .error (.misplaced thing.kind)

def Literal.render : Literal → Except RenderError String
  | .null => .ok "None"
  | .bool true => .ok "True"
  | .bool false => .ok "False"
  | .int n =>
      match Numeral.write? n with
      | some digits => .ok digits
      | none => .error .oversizedNumber
  | .text value => .ok (Rehearsal.literal value)

def Expr.isBinary : Expr → Bool
  | .binary .. => true
  | _ => false

-- An operation that is an operand stands in parentheses.
def operand (e : Expr) (rendered : String) : String :=
  if e.isBinary then "(" ++ rendered ++ ")" else rendered

def listed (items : List String) : String := ", ".intercalate items

mutual

def Expr.render : Expr → Except RenderError String
  | .literal value => value.render
  | .var name => .ok (safeName name)
  | .this => .ok "self"
  | .typeName type => renderType type
  | .field target name => do
      let target ← target.render
      return target ++ "." ++ safeName name
  | .call target method arguments => do
      let target ← target.render
      let arguments ← Expr.renderAll arguments
      return target ++ "." ++ safeName method ++ "(" ++ listed arguments ++ ")"
  | .create type arguments => do
      let type ← renderType type
      let arguments ← Expr.renderAll arguments
      return type ++ "(" ++ listed arguments ++ ")"
  | .array _ items => do
      let items ← Expr.renderAll items
      return "[" ++ listed items ++ "]"
  | .cast _ inner => inner.render
  | .binary left operator right => do
      let first ← left.render
      let second ← right.render
      return operand left first ++ " " ++ operator.symbol ++ " " ++ operand right second
  | .format template arguments => do
      let arguments ← Expr.renderAll arguments
      return Rehearsal.literal template ++ ".format(" ++ listed arguments ++ ")"
  | .concat left right => do
      let left ← left.render
      let right ← right.render
      return "list(" ++ left ++ ") + list(" ++ right ++ ")"
  | .foreign thing => .error (.expression thing.kind)

def Expr.renderAll : List Expr → Except RenderError (List String)
  | [] => .ok []
  | e :: rest => do
      let first ← e.render
      let others ← Expr.renderAll rest
      return first :: others

end

-- A missing value is the null of the target language.
def renderInit : Option Expr → Except RenderError String
  | none => .ok "None"
  | some e => e.render

-- Blank lines stay blank.
def indented (unit : String) (lines : List String) : List String :=
  lines.map fun line => if line.isEmpty then line else unit ++ line

def orPass (lines : List String) : List String := if lines.isEmpty then ["pass"] else lines

-- A block that is never empty.
def block (unit : String) (lines : List String) : List String := indented unit (orPass lines)

mutual

-- The lines of a statement, with one unit of indentation for each block around them.
def Stmt.render (unit : String) : Stmt → Except RenderError (List String)
  | .eval value => do
      let value ← value.render
      return [value]
  | .declare _ name init => do
      let value ← renderInit init
      return [safeName name ++ " = " ++ value]
  | .assign left right => do
      let left ← left.render
      let right ← right.render
      return [left ++ " = " ++ right]
  | .loop init test increment body => do
      let lines ← Stmt.renderAll unit body
      let increment ← increment.render unit
      let init ← init.render unit
      let test ← test.render
      return init ++ ("while " ++ test ++ ":") :: indented unit (lines ++ increment)
  | .guarded body handlers => do
      let lines ← Stmt.renderAll unit body
      let clauses ← Handler.renderAll unit handlers
      let rethrow := if handlers.isEmpty then ["except Exception:", unit ++ "raise"] else []
      return "try:" :: block unit lines ++ clauses ++ rethrow
  | .branch condition yes no => do
      let condition ← condition.render
      let first ← Stmt.renderAll unit yes
      let second ← Stmt.renderAll unit no
      let otherwise := if no.isEmpty then [] else "else:" :: indented unit second
      return ("if " ++ condition ++ ":") :: block unit first ++ otherwise
  | .leave none => .ok ["return"]
  | .leave (some value) => do
      let value ← value.render
      return ["return " ++ value]
  | .throw none => .ok ["raise"]
  | .throw (some value) => do
      let value ← value.render
      return ["raise " ++ value]
  | .foreign thing => .error (.statement thing.kind)

def Stmt.renderAll (unit : String) : List Stmt → Except RenderError (List String)
  | [] => .ok []
  | s :: rest => do
      let first ← s.render unit
      let others ← Stmt.renderAll unit rest
      return first ++ others

def Handler.render (unit : String) : Handler → Except RenderError (List String)
  | .mk name type body => do
      let type ← renderType type
      let lines ← Stmt.renderAll unit body
      return ("except " ++ type ++ " as " ++ safeName name ++ ":") :: block unit lines
  | .foreign thing => .error (.misplaced thing.kind)

def Handler.renderAll (unit : String) : List Handler → Except RenderError (List String)
  | [] => .ok []
  | h :: rest => do
      let first ← h.render unit
      let others ← Handler.renderAll unit rest
      return first ++ others

end

-- Backslashes are doubled, and each run of three quotes loses its meaning.
def docEscaped : List Char → List Char
  | [] => []
  | '"' :: '"' :: '"' :: rest => '\\' :: '"' :: '\\' :: '"' :: '\\' :: '"' :: docEscaped rest
  | '\\' :: rest => '\\' :: '\\' :: docEscaped rest
  | c :: rest => c :: docEscaped rest

-- A quote at the end would run into the closing quotes.
def guardLast (text : List Char) : List Char :=
  match text.reverse with
  | '"' :: front => front.reverse ++ ['\\', '"']
  | _ => text

-- A description as the documentation literal of a class or a method.
def docLiteral (text : List Char) : List Char :=
  let quotes := ['"', '"', '"']
  quotes ++ guardLast (docEscaped text) ++ quotes

def docLines : Option String → List String
  | none => []
  | some text => if text.isEmpty then [] else [String.ofList (docLiteral text.toList)]

def Attribute.render (a : Attribute) : Except RenderError String := do
  let arguments ← Expr.renderAll a.arguments
  if a.arguments.isEmpty then return "@" ++ a.name
  else return "@" ++ a.name ++ "(" ++ listed arguments ++ ")"

def renderAttribute : Slot Attribute → Except RenderError String
  | .of a => a.render
  | .foreign thing => .error (.misplaced thing.kind)

-- Anything that has a name can stand for a parameter.
def renderParameter : Slot Parameter → Except RenderError String
  | .of p => .ok (safeName p.name)
  | .foreign thing =>
      match thing.content.field? "name" with
      | some (.text name) => .ok (safeName name)
      | some _ => .error .notText
      | none => .error (.misplaced thing.kind)

def FieldDecl.render (f : FieldDecl) : Except RenderError (List String) := do
  let value ← renderInit f.init
  return [safeName f.name ++ " = " ++ value]

def Method.render (unit : String) (m : Method) : Except RenderError (List String) := do
  let attributes ← m.attributes.mapM renderAttribute
  let parameters ← m.parameters.mapM renderParameter
  let statements ← Stmt.renderAll unit m.statements
  return attributes ++
    ("def " ++ safeName m.name ++ "(" ++ listed ("self" :: parameters) ++ "):") ::
    block unit (docLines m.description ++ statements)

def Member.render (unit : String) : Member → Except RenderError (List String)
  | .field f => f.render
  | .method m => m.render unit
  | .foreign thing attributes => do
      let _ ← attributes.mapM renderAttribute
      .error (.misplaced thing.kind)

-- A blank line sets each method apart from what goes before it.
def bodyLines (unit : String) (before : List String) :
    List Member → Except RenderError (List String)
  | [] => .ok before
  | member :: rest => do
      let lines ← member.render unit
      let gap := if member.method?.isSome && !before.isEmpty then [""] else []
      bodyLines unit (before ++ gap ++ lines) rest

def ClassDecl.render (unit : String) (c : ClassDecl) : Except RenderError String := do
  let attributes ← c.attributes.mapM renderAttribute
  let bases ← c.bases.mapM renderType
  let opening := "class " ++ safeName c.name
  let source := match c.sourceFile with
    | some file => if file.isEmpty then [] else ["# source: " ++ file]
    | none => []
  let body ← bodyLines unit (docLines c.description ++ source) c.members
  return "\n".intercalate (attributes ++
    (if (listed bases).isEmpty then opening ++ ":" else opening ++ "(" ++ listed bases ++ "):") ::
    block unit body)

def Import.render (i : Import) : String :=
  match i.members with
  | some (first :: rest) => "from " ++ i.name ++ " import " ++ listed (first :: rest)
  | _ => "import " ++ i.name

-- The texts that a value lists. A text lists its characters, and what is empty lists nothing.
def listedTexts? : Value → Option (List String)
  | .list items => items.mapM fun item =>
      match item with
      | .text value => some value
      | _ => none
  | .text value => some (value.toList.map String.singleton)
  | value => if value.isTruthy then none else some []

-- Anything that has a name and members can stand for an import.
def renderForeignImport (thing : Foreign) : Except RenderError String :=
  match thing.content.field? "name", thing.content.field? "members" with
  | some name, some members =>
      match name.plain?, listedTexts? members with
      | none, _ => .error .oversizedNumber
      | _, none => .error .notText
      | some name, some members => .ok (Import.render { name, members := some members })
  | _, _ => .error (.misplaced thing.kind)

def renderImport : Slot Import → Except RenderError String
  | .of i => .ok i.render
  | .foreign thing => renderForeignImport thing

-- The name and the comments of all classes, each once, then the imports, then the classes.
def ModuleDecl.render (unit : String) (m : ModuleDecl) : Except RenderError String := do
  let comments := (m.classes.flatMap (·.comments)).eraseDups
  let imports ← m.imports.mapM renderImport
  let classes ← m.classes.mapM (ClassDecl.render unit)
  return "# " ++ m.name.getD "None" ++ String.join (comments.map ("\n# " ++ ·)) ++ "\n" ++
    String.join (imports.map ("\n" ++ ·)) ++ "\n" ++
    String.join (classes.map ("\n\n" ++ ·)) ++ "\n"

-- Blocks are indented by four blanks.
def indentUnit : String := "    "

end Rehearsal.Code
