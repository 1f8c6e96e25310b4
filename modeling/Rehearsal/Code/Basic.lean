import Rehearsal.Value

namespace Rehearsal.Code

-- Something that stands where it does not belong: its kind, and all that it holds.
structure Foreign where
  kind : String
  content : Value
  deriving Repr, Inhabited

-- The kind of a thing is part of its content, or follows from it.
instance : BEq Foreign := ⟨fun a b => a.content.same b.content⟩

-- The place of an α in a tree. A tree that was built by hand may hold anything there.
inductive Slot (α : Type) where
  | of (value : α)
  | foreign (thing : Foreign)
  deriving BEq, Repr

instance {α : Type} : Coe α (Slot α) := ⟨.of⟩

def Slot.value? {α : Type} : Slot α → Option α
  | .of value => some value
  | .foreign _ => none

-- A type by its name. A rank other than zero makes it an array.
structure TypeRef where
  name : String
  rank : Int := 0
  deriving DecidableEq, Repr

def TypeRef.element (type : TypeRef) : TypeRef := ⟨type.name, max (type.rank - 1) 0⟩

inductive Literal where
  | null
  | bool (value : Bool)
  | int (value : Int)
  | text (value : String)
  deriving DecidableEq, Repr

inductive Operator where
  | plus
  | atMost
  | equals
  | identical
  | distinct
  deriving DecidableEq, Repr

namespace Operator

def symbol : Operator → String
  | .plus => "+"
  | .atMost => "<="
  | .equals => "=="
  | .identical => "is"
  | .distinct => "is not"

def all : List Operator := [.plus, .atMost, .equals, .identical, .distinct]

def ofSymbol? (symbol : String) : Option Operator := all.find? (·.symbol == symbol)

end Operator

-- In a tree that was built by hand something else may stand in the place of an expression.
inductive Expr where
  | literal (value : Literal)
  | var (name : String)
  | this
  | typeName (type : Slot TypeRef)
  | field (target : Expr) (name : String)
  | call (target : Expr) (method : String) (arguments : List Expr)
  | create (type : Slot TypeRef) (arguments : List Expr)
  | array (type : Slot TypeRef) (items : List Expr)
  | cast (type : Slot TypeRef) (inner : Expr)
  | binary (left : Expr) (operator : Operator) (right : Expr)
  | format (template : String) (arguments : List Expr)
  | concat (left right : Expr)
  | foreign (thing : Foreign)
  deriving BEq, Repr, Inhabited

mutual

inductive Stmt where
  | eval (value : Expr)
  | declare (type : Slot TypeRef) (name : String) (init : Option Expr)
  | assign (left right : Expr)
  | loop (init : Stmt) (test : Expr) (increment : Stmt) (body : List Stmt)
  | guarded (body : List Stmt) (handlers : List Handler)
  | branch (condition : Expr) (yes no : List Stmt)
  | leave (value : Option Expr)
  | throw (value : Option Expr)
  | foreign (thing : Foreign)

-- Takes over when the guarded statements throw something of the type.
inductive Handler where
  | mk (name : String) (type : Slot TypeRef) (body : List Stmt)
  | foreign (thing : Foreign)

end

deriving instance BEq, Repr for Stmt, Handler

structure Attribute where
  name : String
  arguments : List Expr := []
  deriving BEq, Repr

structure Parameter where
  type : Slot TypeRef
  name : String
  deriving BEq, Repr

structure FieldDecl where
  type : Option (Slot TypeRef)
  name : String
  init : Option Expr := none
  deriving BEq, Repr

structure Method where
  name : String := ""
  isPublic : Bool := true
  parameters : List (Slot Parameter) := []
  statements : List Stmt := []
  attributes : List (Slot Attribute) := []
  description : Option String := none
  deriving BEq, Repr

-- A class is no member, yet its attributes are known.
inductive Member where
  | field (value : FieldDecl)
  | method (value : Method)
  | foreign (thing : Foreign) (attributes : List (Slot Attribute))
  deriving BEq, Repr

structure ClassDecl where
  name : String
  members : List Member := []
  bases : List (Slot TypeRef) := []
  attributes : List (Slot Attribute) := []
  comments : List String := []
  isPublic : Bool := true
  isPartial : Bool := false
  description : Option String := none
  sourceFile : Option String := none
  deriving BEq, Repr

-- The whole of a name, or the listed members of it.
structure Import where
  name : String
  members : Option (List String) := none
  deriving DecidableEq, Repr

structure ModuleDecl where
  name : Option String
  imports : List (Slot Import) := []
  classes : List ClassDecl := []
  deriving BEq, Repr

def Member.method? : Member → Option Method
  | .method value => some value
  | _ => none

namespace ClassDecl

def methods (c : ClassDecl) : List Method := c.members.filterMap Member.method?

-- The first method of that name.
def method? (c : ClassDecl) (name : String) : Option Method := c.methods.find? (·.name == name)

def push (c : ClassDecl) (member : Member) : ClassDecl :=
  { c with members := c.members ++ [member] }

end ClassDecl

namespace ModuleDecl

-- An import that is there already is not repeated.
def require (m : ModuleDecl) (i : Slot Import) : ModuleDecl :=
  if m.imports.contains i then m else { m with imports := m.imports ++ [i] }

-- Of two classes with one name the last one counts.
def class? (m : ModuleDecl) (name : String) : Option ClassDecl :=
  m.classes.reverse.find? (·.name == name)

def updateLast (name : String) (f : ClassDecl → ClassDecl) : List ClassDecl → List ClassDecl
  | [] => []
  | c :: rest =>
      if c.name = name && !rest.any (·.name == name) then f c :: rest
      else c :: updateLast name f rest

def updateClass (m : ModuleDecl) (name : String) (f : ClassDecl → ClassDecl) : ModuleDecl :=
  { m with classes := updateLast name f m.classes }

end ModuleDecl

end Rehearsal.Code
