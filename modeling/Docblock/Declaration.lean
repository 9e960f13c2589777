/-
# Docblock.Declaration — what the line behind a comment declares.

The first line of the code behind a comment is compared with nine shapes of declaration, in a fixed
order of priority: explicit owners come before shorthand members, functions before properties, and
the bare variable last.  The first shape that reads the line gives the declaration.  Only the two
shorthand shapes look at the block the line stands in, and only for the name of the owner.
-/
import Docblock.OwnerBlock

namespace Docblock

/-- What sort of thing is declared. -/
inductive DeclarationKind where
  | function
  | method
  | property
  | declaration
  | other (name : Text)
  deriving DecidableEq, Repr, Inhabited

namespace DeclarationKind

/-- The name of a kind. -/
def name : DeclarationKind → Text
  | function => "function".toList
  | method => "method".toList
  | property => "property".toList
  | declaration => "declaration".toList
  | other n => n

/-- The kind of the given name. -/
def ofName (n : Text) : DeclarationKind :=
  if n = "function".toList then .function
  else if n = "method".toList then .method
  else if n = "property".toList then .property
  else if n = "declaration".toList then .declaration
  else .other n

end DeclarationKind

/-- How a member belongs to its owner. -/
inductive Membership where
  | ofInstance
  | ofClass
  | other (name : Text)
  deriving DecidableEq, Repr, Inhabited

namespace Membership

/-- The name of a membership. -/
def name : Membership → Text
  | ofInstance => "instance".toList
  | ofClass => "class".toList
  | other n => n

/-- The membership of the given name. -/
def ofName (n : Text) : Membership :=
  if n = "instance".toList then .ofInstance
  else if n = "class".toList then .ofClass
  else .other n

end Membership

/-- The owner of a member; it has no name when it could not be found. -/
structure Scope where
  owner : Option Text
  membership : Membership
  deriving DecidableEq, Repr

/-- What a comment documents. -/
structure Declaration where
  kind : DeclarationKind
  name : Text
  string : Text
  scope : Option Scope := none
  value : Option Text := none
  deriving DecidableEq, Repr

namespace Declaration

/-! ## Pieces of a line -/

/-- An identifier at the front of a line, and the rest behind it. -/
def identifier? (s : Text) : Option (Text × Text) :=
  let n := s.takeWhile isIdentifier
  if n.isEmpty then none else some (n, s.dropWhile isIdentifier)

/-- What stands behind a sign, which spaces and tabs may precede. -/
def behindSign? (sign : Char) (s : Text) : Option Text :=
  Text.after? [sign] (s.dropWhile isIndent)

/-- Whether a right-hand side begins with the letters of the keyword for functions. -/
def beginsFunction (r : Text) : Bool :=
  Text.beginsWith "function".toList (r.dropWhile isIndent)

/-- The value on a right-hand side: what stands before the first semicolon.  There is none on an
empty right-hand side or one that begins with the semicolon. -/
def value? (r : Text) : Option Text :=
  match r with
  | [] => none
  | c :: _ => if c == ';' then none else some (Text.trim (r.takeWhile (· != ';')))

/-- A dotted path at the front of a line, cut at its last dot, and the rest behind it.  Neither part
is empty. -/
def dotted? (s : Text) : Option (Text × Text × Text) :=
  let path := s.takeWhile isPath
  let name := (path.reverse.takeWhile isIdentifier).reverse
  let owner := path.take (path.length - name.length - 1)
  if name.isEmpty || owner.isEmpty then none else some (owner, name, s.dropWhile isPath)

/-- A plain owner and a name with the word `prototype` between them at the front of a line, and the
rest behind. -/
def prototyped? (s : Text) : Option (Text × Text × Text) := do
  let (owner, r) ← identifier? s
  let r ← Text.after? ".prototype.".toList r
  let (name, r) ← identifier? r
  some (owner, name, r)

/-! ## Shapes of a line -/

/-- The shapes of a line that declare something. -/
inductive Shape where
  | functionStatement
  | functionExpression
  | prototypeMethod
  | prototypeProperty
  | method
  | shorthandMethod
  | property
  | shorthandProperty
  | bareVariable
  deriving DecidableEq, Repr

/-- What a shape reads off a line.  Parts that the shape does not have are empty. -/
structure Reading where
  owner : Text := []
  name : Text
  value : Text := []
  deriving DecidableEq, Repr

namespace Shape

/-- Read a line by a shape.  Only the beginning of the line matters. -/
def read? (s : Text) : Shape → Option Reading
  | functionStatement => do
    let r ← Text.after? "function ".toList s
    let (name, r) ← identifier? r
    let _ ← Text.after? ['('] (r.dropWhile (· == ' '))
    some { name }
  | functionExpression => do
    let r ← Text.after? "var".toList s
    let (name, r) ← identifier? (r.dropWhile (· == ' '))
    let r ← behindSign? '=' r
    if beginsFunction r then some { name } else none
  | prototypeMethod => do
    let (owner, name, r) ← prototyped? s
    let r ← behindSign? '=' r
    if beginsFunction r then some { owner, name } else none
  | prototypeProperty => do
    let (owner, name, r) ← prototyped? s
    let value ← value? (← behindSign? '=' r)
    some { owner, name, value }
  | method => do
    let (owner, name, r) ← dotted? s
    let r ← behindSign? '=' r
    if beginsFunction r then some { owner, name } else none
  | shorthandMethod => do
    let (name, r) ← identifier? s
    let r ← behindSign? ':' r
    if beginsFunction r then some { name } else none
  | property => do
    let (owner, name, r) ← dotted? s
    let value ← value? (← behindSign? '=' r)
    some { owner, name, value }
  | shorthandProperty => do
    let (name, r) ← identifier? s
    let value ← value? (← behindSign? ':' r)
    some { name, value := Text.trimEnd (Text.dropEndWhile (· == ',') value) }
  | bareVariable => do
    let r ← Text.after? ['v', 'a', 'r', ' '] s
    let (name, r) ← identifier? (r.dropWhile (· == ' '))
    some { name, value := ((behindSign? '=' r).bind value?).getD [] }

/-- Whether the owner comes from the block around the line. -/
def isScoped : Shape → Bool
  | shorthandMethod | shorthandProperty => true
  | _ => false

/-- The order in which shapes are tried. -/
def order : List Shape :=
  [functionStatement, functionExpression, prototypeMethod, prototypeProperty, method,
    shorthandMethod, property, shorthandProperty, bareVariable]

end Shape

/-- A member behind its owner and a dot; without an owner, or with an empty one, the name alone. -/
def memberText (owner : Option Text) (name : Text) : Text :=
  match owner with
  | some (c :: o) => (c :: o) ++ '.' :: name
  | _ => name

/-- A text behind which a call is written. -/
def called (s : Text) : Text := s ++ ['(', ')']

/-- The declaration that a shape makes of its reading, given the owner around the line. -/
def ofReading (r : Reading) (enclosing : Option Text) : Shape → Declaration
  | .functionStatement | .functionExpression =>
    { kind := .function, name := r.name, string := called r.name }
  | .prototypeMethod =>
    { kind := .method, name := r.name, string := called (r.owner ++ ".prototype.".toList ++ r.name),
      scope := some ⟨some r.owner, .ofInstance⟩ }
  | .prototypeProperty =>
    { kind := .property, name := r.name, string := r.owner ++ ".prototype.".toList ++ r.name,
      scope := some ⟨some r.owner, .ofInstance⟩, value := some r.value }
  | .method =>
    { kind := .method, name := r.name, string := called (memberText (some r.owner) r.name),
      scope := some ⟨some r.owner, .ofClass⟩ }
  | .shorthandMethod =>
    { kind := .method, name := r.name, string := called (memberText enclosing r.name),
      scope := some ⟨enclosing, .ofInstance⟩ }
  | .property =>
    { kind := .property, name := r.name, string := memberText (some r.owner) r.name,
      scope := some ⟨some r.owner, .ofClass⟩, value := some r.value }
  | .shorthandProperty =>
    { kind := .property, name := r.name, string := memberText enclosing r.name,
      scope := some ⟨enclosing, .ofInstance⟩, value := some r.value }
  | .bareVariable =>
    { kind := .declaration, name := r.name, string := r.name, value := some r.value }

/-- The declaration on a line, by the first shape of an order that reads it. -/
def onLine? (shapes : List Shape) (s : Text) (offset : Int) (blocks : List OwnerBlock) :
    Option Declaration :=
  shapes.findSome? fun shape =>
    (shape.read? s).map fun r =>
      ofReading r (if shape.isScoped then OwnerBlock.ownerAt offset blocks else none) shape

/-- The declaration at the front of a piece of code that stands at `offset` in its source. -/
def ofCode? (code : Text) (offset : Int) (blocks : List OwnerBlock) : Option Declaration :=
  onLine? Shape.order (Text.firstLine (Text.trim code)) offset blocks

end Declaration

end Docblock
