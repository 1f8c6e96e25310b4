import Rehearsal.Code.Basic

namespace Rehearsal.Code

def stringType : TypeRef := ⟨"string", 0⟩

def stringArrayType : TypeRef := ⟨"string", 1⟩

def intType : TypeRef := ⟨"int", 0⟩

def exceptionType : TypeRef := ⟨"Exception", 0⟩

def typeNamed (name : String) : TypeRef := ⟨name, 0⟩

def nullLiteral : Expr := .literal .null

def int (n : Int) : Expr := .literal (.int n)

def text (value : String) : Expr := .literal (.text value)

def textOrNull : Option String → Expr
  | some value => text value
  | none => nullLiteral

def thisField (name : String) : Expr := .field .this name

-- A null that is known to be of a type.
def nullOf (type : TypeRef) : Expr := .cast type nullLiteral

def stringArray (items : List Expr) : Expr := .array stringArrayType items

def invoke (target : Expr) (method : String) (arguments : List Expr) : Stmt :=
  .eval (.call target method arguments)

def invokeThis (method : String) (arguments : List Expr) : Stmt := invoke .this method arguments

def generatedComment : String :=
  "This code was generated by retrygen. Changes to this file will be lost."

def generatedClass (name : String) : ClassDecl := { name, comments := [generatedComment] }

-- The file that a class was generated from. An empty name leaves it unknown.
def ClassDecl.bindTo (c : ClassDecl) (file : String) : ClassDecl :=
  { c with sourceFile := if file.isEmpty then none else some file }

end Rehearsal.Code
