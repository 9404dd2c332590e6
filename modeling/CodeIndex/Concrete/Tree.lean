import CodeIndex.Text.Utf8

/-!
Concrete syntax trees over the bytes of a text, as an incremental parser gives them.

A node has a kind, a span of bytes, the field it fills in its parent, if any, and its children.
Spans are taken as they come: a span that leaves the text is cut to it.
-/

namespace CodeIndex.Concrete

inductive Tree where
  | node (kind : String) (start stop : Nat) (field : Option String) (children : List Tree)
  deriving Inhabited

namespace Tree

def kind : Tree → String
  | .node k _ _ _ _ => k

/-- The offset of the first byte. -/
def start : Tree → Nat
  | .node _ s _ _ _ => s

/-- The offset after the last byte. -/
def stop : Tree → Nat
  | .node _ _ s _ _ => s

def field : Tree → Option String
  | .node _ _ _ f _ => f

def children : Tree → List Tree
  | .node _ _ _ _ cs => cs

/-- The first child that fills the field. -/
def child? (t : Tree) (name : String) : Option Tree :=
  t.children.find? fun c => c.field == some name

/-- The children of a kind. -/
def childrenOf (t : Tree) (kind : String) : List Tree :=
  t.children.filter fun c => c.kind == kind

/-- The bytes of the span. -/
def bytesIn (t : Tree) (bytes : List UInt8) : List UInt8 :=
  (bytes.take t.stop).drop t.start

/-- The characters whose positions are the offsets of the span: those of its text where every
character before its end is a single byte. -/
def charsIn (t : Tree) (content : List Char) : List Char :=
  (content.take t.stop).drop t.start

end Tree

/-- The line, counted from one, that an offset lies on. -/
def lineAt (bytes : List UInt8) (offset : Nat) : Nat :=
  (bytes.take offset).count 10 + 1

namespace Tree

def firstLine (t : Tree) (bytes : List UInt8) : Nat :=
  lineAt bytes t.start

def lastLine (t : Tree) (bytes : List UInt8) : Nat :=
  lineAt bytes t.stop

end Tree

end CodeIndex.Concrete
