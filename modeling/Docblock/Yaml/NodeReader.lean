/-
# Docblock.Yaml.NodeReader — reading a tree from tokens.

Every function here reads something from the front of the tokens and says what is left, with the
reason why that is less; so reading ends.  Where a key, a value or an entry may be left out, the
token behind it shows that nothing is written.
-/
import Docblock.Yaml.Node
import Docblock.Yaml.TokenReader

namespace Docblock.Yaml

/-- The nodes that have a name, the latest first. -/
abbrev Names := List (Text × Node)

/-- What was read from fewer than `n` tokens, with the names given so far. -/
structure Part (α : Type) (n : Nat) where
  value : α
  names : Names
  rest : List Token
  shorter : rest.length < n

/-- The fault of a token that does not fit where it stands. -/
def misfit : List Token → Fault
  | .unreadable f :: _ => f
  | _ => .unexpectedToken

/-! ## Tags and names -/

/-- The short forms for the beginnings of tags. -/
abbrev Handles := List (Text × Text)

/-- The short forms that need not be declared. -/
def Handles.usual : Handles := [("!".toList, "!".toList), ("!!".toList, Kind.uriStem)]

/-- What stands in front of a node. -/
structure Properties where
  name : Option Text
  tag : Option (Option Text × Text)
  rest : List Token

/-- The anchor and the tag at the front of the tokens, in either order. -/
def properties : List Token → Properties
  | .anchor a :: .tag h s :: r => { name := some a, tag := some (h, s), rest := r }
  | .anchor a :: r => { name := some a, tag := none, rest := r }
  | .tag h s :: .anchor a :: r => { name := some a, tag := some (h, s), rest := r }
  | .tag h s :: r => { name := none, tag := some (h, s), rest := r }
  | r => { name := none, tag := none, rest := r }

theorem properties_rest_le (ts : List Token) : (properties ts).rest.length ≤ ts.length := by
  unfold properties
  split <;> simp only [List.length_cons] <;> omega

/-- The complete tag, when there is one. -/
def completeTag (handles : Handles) : Option (Option Text × Text) → Except Fault (Option Text)
  | none => .ok none
  | some (none, s) => .ok (some s)
  | some (some h, s) =>
    match handles.lookup h with
    | some uri => .ok (some (uri ++ s))
    | none => .error .undefinedHandle

/-- Whether a tag leaves open what a node stands for. -/
def leavesOpen (tag : Option Text) : Bool := tag.isNone || tag = some ['!']

/-- The kind of a collection with the given tag. -/
def collectionKind (usual : Kind) (tag : Option Text) : Kind :=
  if leavesOpen tag then usual else (tag.map Kind.ofUri).getD usual

/-- The kind of a scalar with the given tag. -/
def scalarKind (tag : Option Text) (plain : Bool) (s : Text) : Kind :=
  match tag with
  | none => if plain then .ofPlain s else .string
  | some t => if t = ['!'] then .ofPlain s else .ofUri t

/-- Give a node its name. -/
def nameNode {n : Nat} (name : Option Text) (p : Part Node n) : Part Node n :=
  match name with
  | none => p
  | some a =>
    let node := p.value.unroll a
    { p with value := node, names := (a, node) :: p.names }

/-- The names inside a named node: its own name stands for a use within itself. -/
def namesInside (name : Option Text) (names : Names) : Except Fault Names :=
  match name with
  | none => .ok names
  | some a => if (names.lookup a).isSome then .error .repeatedAnchor
      else .ok ((a, .enclosing a) :: names)

/-! ## Nodes -/

/-- Whether nothing is written in the place of a part of a block mapping. -/
def endsBlockPart : Token → Bool
  | .key | .value | .blockEnd => true
  | _ => false

/-- Whether nothing is written in the place of an entry of a block sequence. -/
def endsBlockEntry : Token → Bool
  | .blockEntry | .blockEnd => true
  | _ => false

/-- Whether nothing is written in the place of an entry of a block sequence that is not indented
further than the mapping around it. -/
def endsFlushEntry : Token → Bool
  | .blockEntry | .key | .value | .blockEnd => true
  | _ => false

/-- Whether nothing is written in the place of a part of a flow collection. -/
def endsFlowPart : Token → Bool
  | .flowEntry | .flowSequenceEnd | .flowMappingEnd => true
  | _ => false

/-- Whether nothing is written in the place of a key in a flow collection. -/
def endsFlowKey (t : Token) : Bool := t == .value || endsFlowPart t

/-- The tokens behind the comma that stands in front of every part of a flow collection but the
first. -/
def behindComma (first : Bool) (ts : List Token) :
    Except Fault { r : List Token // r.length ≤ ts.length } :=
  if first then .ok ⟨ts, Nat.le_refl _⟩
  else
    match ts with
    | .flowEntry :: r => .ok ⟨r, Nat.le_succ _⟩
    | r => .error (misfit r)

mutual

/-- A node at the front of the tokens.  Block collections are read when `block`, block sequences
whose entries are flush with their surroundings when `flush`. -/
def node (handles : Handles) (block flush : Bool) (names : Names) (ts : List Token) :
    Except Fault (Part Node ts.length) :=
  match ts with
  | .alias a :: r =>
    match names.lookup a with
    | some n => .ok { value := n, names, rest := r, shorter := by simp }
    | none => .error .undefinedAlias
  | ts =>
    let p := properties ts
    have hp : p.rest.length ≤ ts.length := properties_rest_le ts
    do
      let tag ← completeTag handles p.tag
      let inside ← namesInside p.name names
      match h : p.rest with
      | .scalar s plain :: r =>
        return nameNode p.name
          { value := .scalar (scalarKind tag plain s) s, names, rest := r,
            shorter := by rw [h, List.length_cons] at hp; omega }
      | .flowSequence :: r =>
        have hr : r.length < ts.length := by rw [h, List.length_cons] at hp; omega
        let q ← flowItems handles true inside r
        return nameNode p.name
          { q with
            value := .sequence (collectionKind .sequence tag) q.value
            shorter := Nat.lt_trans q.shorter hr }
      | .flowMapping :: r =>
        have hr : r.length < ts.length := by rw [h, List.length_cons] at hp; omega
        let q ← flowPairs handles true inside r
        return nameNode p.name
          { q with
            value := .mapping (collectionKind .mapping tag) q.value
            shorter := Nat.lt_trans q.shorter hr }
      | .blockSequence :: r =>
        if block then
          have hr : r.length < ts.length := by rw [h, List.length_cons] at hp; omega
          let q ← blockItems handles inside r
          return nameNode p.name
            { q with
              value := .sequence (collectionKind .sequence tag) q.value
              shorter := Nat.lt_trans q.shorter hr }
        else throw .unexpectedToken
      | .blockMapping :: r =>
        if block then
          have hr : r.length < ts.length := by rw [h, List.length_cons] at hp; omega
          let q ← blockPairs handles inside r
          return nameNode p.name
            { q with
              value := .mapping (collectionKind .mapping tag) q.value
              shorter := Nat.lt_trans q.shorter hr }
        else throw .unexpectedToken
      | .blockEntry :: r =>
        have hr : r.length < ts.length := by rw [h, List.length_cons] at hp; omega
        if flush then
          let q ← flushItems handles inside r
          return nameNode p.name
            { q with
              value := .sequence (collectionKind .sequence tag) q.value
              shorter := by have := q.shorter; omega }
        else if h : r.length + 1 < ts.length then
          return nameNode p.name
            { value := .scalar (scalarKind tag true []) [], names, rest := .blockEntry :: r,
              shorter := h }
        else throw .unexpectedToken
      | r =>
        if h : r.length < ts.length then
          return nameNode p.name
            { value := .scalar (scalarKind tag true []) [], names, rest := r, shorter := h }
        else throw (misfit r)
termination_by (ts.length, 0)

/-- A node, or the empty node where a token says that nothing is written. -/
def nodeOrNone (handles : Handles) (ends : Token → Bool) (block flush : Bool) (names : Names)
    (ts : List Token) : Except Fault (Part Node (ts.length + 1)) :=
  if ts.head?.any ends then
    .ok { value := .empty, names, rest := ts, shorter := Nat.lt_succ_self _ }
  else do
    let p ← node handles block flush names ts
    return { p with shorter := Nat.lt_succ_of_lt p.shorter }
termination_by (ts.length, 1)

/-- The entries of a block sequence. -/
def blockItems (handles : Handles) (names : Names) (ts : List Token) :
    Except Fault (Part (List Node) ts.length) :=
  match ts with
  | .blockEntry :: r => do
    let ⟨n, names, r', h⟩ ← nodeOrNone handles endsBlockEntry true false names r
    let q ← blockItems handles names r'
    return { q with value := n :: q.value, shorter := by have := q.shorter; grind }
  | .blockEnd :: r => .ok { value := [], names, rest := r, shorter := by simp }
  | r => .error (misfit r)
termination_by (ts.length, 0)
decreasing_by all_goals grind

/-- The entries of a flush block sequence from the node of one of them on. -/
def flushItems (handles : Handles) (names : Names) (ts : List Token) :
    Except Fault (Part (List Node) (ts.length + 1)) := do
  let ⟨n, names, r', h⟩ ← nodeOrNone handles endsFlushEntry true false names ts
  match r', h with
  | .blockEntry :: r'', h =>
    let q ← flushItems handles names r''
    return { q with value := n :: q.value, shorter := by have := q.shorter; grind }
  | r', h => return { value := [n], names, rest := r', shorter := h }
termination_by (ts.length, 2)
decreasing_by all_goals grind

/-- The pairs of a block mapping. -/
def blockPairs (handles : Handles) (names : Names) (ts : List Token) :
    Except Fault (Part (List (Node × Node)) ts.length) :=
  match ts with
  | .key :: r => do
    let ⟨k, names, r', h⟩ ← nodeOrNone handles endsBlockPart true true names r
    match r', h with
    | .value :: r'', h =>
      let ⟨v, names, r₃, h₃⟩ ← nodeOrNone handles endsBlockPart true true names r''
      let q ← blockPairs handles names r₃
      return { q with value := (k, v) :: q.value, shorter := by have := q.shorter; grind }
    | r', h =>
      let q ← blockPairs handles names r'
      return { q with value := (k, .empty) :: q.value, shorter := by have := q.shorter; grind }
  | .blockEnd :: r => .ok { value := [], names, rest := r, shorter := by simp }
  | r => .error (misfit r)
termination_by (ts.length, 0)
decreasing_by all_goals grind

/-- The items of a flow sequence; a comma stands in front of each but the first.  A single pair is
an item that is a mapping. -/
def flowItems (handles : Handles) (first : Bool) (names : Names) (ts : List Token) :
    Except Fault (Part (List Node) ts.length) :=
  match ts with
  | .flowSequenceEnd :: r => .ok { value := [], names, rest := r, shorter := by simp }
  | ts => do
    let ⟨r, hr⟩ ← behindComma first ts
    match r, hr with
    | .flowSequenceEnd :: r, hr => return { value := [], names, rest := r, shorter := by grind }
    | .key :: r, hr =>
      let ⟨k, names, r', h⟩ ← nodeOrNone handles endsFlowKey false false names r
      match r', h with
      | .value :: r'', h =>
        let ⟨v, names, r₃, h₃⟩ ← nodeOrNone handles endsFlowPart false false names r''
        let q ← flowItems handles false names r₃
        return { q with value := .mapping .mapping [(k, v)] :: q.value
                        shorter := by have := q.shorter; grind }
      | r', h =>
        let q ← flowItems handles false names r'
        return { q with value := .mapping .mapping [(k, .empty)] :: q.value
                        shorter := by have := q.shorter; grind }
    | r, hr =>
      let ⟨n, names, r', h⟩ ← node handles false false names r
      let q ← flowItems handles false names r'
      return { q with value := n :: q.value, shorter := by have := q.shorter; grind }
termination_by (ts.length, 1)
decreasing_by all_goals grind

/-- The pairs of a flow mapping; a comma stands in front of each but the first. -/
def flowPairs (handles : Handles) (first : Bool) (names : Names) (ts : List Token) :
    Except Fault (Part (List (Node × Node)) ts.length) :=
  match ts with
  | .flowMappingEnd :: r => .ok { value := [], names, rest := r, shorter := by simp }
  | ts => do
    let ⟨r, hr⟩ ← behindComma first ts
    match r, hr with
    | .flowMappingEnd :: r, hr => return { value := [], names, rest := r, shorter := by grind }
    | .key :: r, hr =>
      let ⟨k, names, r', h⟩ ← nodeOrNone handles endsFlowKey false false names r
      match r', h with
      | .value :: r'', h =>
        let ⟨v, names, r₃, h₃⟩ ← nodeOrNone handles endsFlowPart false false names r''
        let q ← flowPairs handles false names r₃
        return { q with value := (k, v) :: q.value, shorter := by have := q.shorter; grind }
      | r', h =>
        let q ← flowPairs handles false names r'
        return { q with value := (k, .empty) :: q.value, shorter := by have := q.shorter; grind }
    | r, hr =>
      let ⟨n, names, r', h⟩ ← node handles false false names r
      let q ← flowPairs handles false names r'
      return { q with value := (n, .empty) :: q.value, shorter := by have := q.shorter; grind }
termination_by (ts.length, 1)
decreasing_by all_goals grind

end

end Docblock.Yaml
