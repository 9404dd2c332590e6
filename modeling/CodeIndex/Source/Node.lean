import CodeIndex.Text.CodePoint

/-!
Syntax trees of Python source text.

A node has a form, the place it takes in its parent, the lines of its first and last token, and its
parts in the order in which they are visited. Only the forms that the outline of a module or the
check of assignment targets looks at have names; any other construct is known by its parts alone.
-/

namespace CodeIndex.Source

/-- The place of a node in its parent, where the parent's meaning depends on it. -/
inductive Role where
  /-- A positional argument of a class statement. -/
  | base
  /-- A statement of the body of a module, a class or a function. -/
  | body
  /-- What a call calls. -/
  | callee
  /-- A parameter that is neither positional only nor keyword only. -/
  | parameter
  | part
  deriving DecidableEq, Repr

inductive Form where
  | module
  | function (name : String) (isAsync : Bool)
  | classDef (name : String)
  | parameters
  | parameter (name : String)
  /-- Imports of whole modules. -/
  | importModules (names : List String)
  /-- An import of names from a module, which a relative import may leave out. -/
  | importNames (source : Option String) (names : List String)
  /-- An expression as a statement. -/
  | expression
  | call
  | name (id : String)
  | member (name : String)
  | subscript
  | starred
  | tuple
  | list
  /-- A string constant. -/
  | text (value : Text.CodeText)
  | other
  deriving DecidableEq, Repr

inductive Node where
  | mk (role : Role) (form : Form) (line endLine : Nat) (parts : List Node)

namespace Node

def role : Node → Role
  | .mk r _ _ _ _ => r

def form : Node → Form
  | .mk _ f _ _ _ => f

def line : Node → Nat
  | .mk _ _ l _ _ => l

def endLine : Node → Nat
  | .mk _ _ _ e _ => e

def parts : Node → List Node
  | .mk _ _ _ _ ps => ps

/-- The same node in another place. -/
def inRole (r : Role) : Node → Node
  | .mk _ f l e ps => .mk r f l e ps

/-- The parts that take the given place. -/
def partsIn (n : Node) (r : Role) : List Node :=
  n.parts.filter fun p => p.role == r

end Node

end CodeIndex.Source
