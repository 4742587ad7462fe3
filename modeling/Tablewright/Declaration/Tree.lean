import Tablewright.Declaration.Token

namespace Tablewright.Declaration

inductive Arguments
  | none
  | angled (size : Nat)
  deriving DecidableEq, Repr

structure Segment where
  name : String
  arguments : Arguments := .none
  deriving DecidableEq, Repr

structure Path where
  rooted : Bool
  segments : List Segment
  deriving DecidableEq, Repr

namespace Path

def isPlain (path : Path) : Bool :=
  path.segments.all fun segment => segment.arguments = .none

def takesArguments (path : Path) : Bool :=
  path.segments.getLast?.any fun segment =>
    segment.arguments = .none || segment.arguments = .angled 0

def isName (path : Path) (name : String) : Bool :=
  path = ⟨false, [⟨name, .none⟩]⟩

def lastName? (path : Path) : Option String :=
  path.segments.getLast?.map Segment.name

end Path

/-- A type is known by its outer form. A path is qualified when it starts at another type. A sum
of bounds is single when it has one bound and no plus sign. All forms without a use for tables
are alike. -/
inductive TypeTree
  | path (qualified : Bool) (path : Path)
  | reference (target : TypeTree)
  | enclosed (inner : TypeTree)
  | array (element : TypeTree)
  | slice (element : TypeTree)
  | tuple (size : Nat)
  | bounds (single : Bool)
  | other
  deriving DecidableEq, Repr

inductive BoundTree
  | lifetime
  | capture
  | trait
  deriving DecidableEq, Repr

/-- A pattern is known by what it may not be next to. An open range has the line of its sign. -/
inductive PatternTree
  | rest
  | openRange (line : Nat)
  | other
  deriving DecidableEq, Repr

/-- An expression is known by its outer form. A macro call keeps its tokens. All forms without a
use for tables are alike. A grouped expression has brackets that no text shows. -/
inductive Expression
  | text (value : String)
  | array (elements : List Expression)
  | reference (target : Expression)
  | enclosed (inner : Expression)
  | grouped (inner : Expression)
  | returned (value : Option Expression)
  | methodCall (receiver : Expression) (method : String) (arguments : Nat)
  | macroCall (path : Path) (bracket : Bracket) (body : List Token)
  | range (line : Nat)
  | comparison
  | block
  | other
  deriving Repr

inductive Statement
  | expression (value : Expression)
  | other
  deriving Repr

inductive AttributeForm
  | bare
  | list (body : List Token)
  | value (text : Option String)
  deriving Repr

structure Attribute where
  path : Path
  form : AttributeForm
  deriving Repr

/-- A field has a name in a record and none in a tuple. The line is that of the name. -/
structure Field where
  attributes : List Attribute
  name : Option String
  line : Nat
  type : TypeTree
  deriving Repr

structure StructDeclaration where
  name : String
  fields : List Field
  deriving Repr

structure FunctionDeclaration where
  name : String
  body : List Statement
  deriving Repr

structure Implementation where
  selfType : TypeTree
  functions : List FunctionDeclaration
  deriving Repr

inductive Item
  | struct (declaration : StructDeclaration)
  | implementation (declaration : Implementation)
  | other
  deriving Repr

end Tablewright.Declaration
