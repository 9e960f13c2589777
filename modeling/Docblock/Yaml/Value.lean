/-
# Docblock.Yaml.Value — what a document says.

The value of a document is made from its tree, the outer collections first: a collection is filled
only in the round after the one that it was made in.  So of several faults the one that is told is
not the one written first but the one that is the least deep inside.  A mapping keeps its pairs in
order, and of two pairs with one key the later counts.  Pairs that are merged into a mapping stand
in front of its own, so that its own count.
-/
import Docblock.Yaml.NodeReader
import Docblock.Yaml.Sextet

namespace Docblock.Yaml

/-- What a document says. -/
inductive Value where
  | null
  | bool (b : Bool)
  | int (i : Int)
  | float (x : Binary64)
  | string (s : Text)
  | octets (os : Octets)
  | moment
  | list (items : List Value)
  | map (pairs : List (Value × Value))
  | set (members : List Value)
  /-- A value inside of which this place is. -/
  | enclosing
  deriving Repr, Inhabited

namespace Value

/-! ## Scalars -/

/-- The flag that a text stands for. -/
def flag? (s : Text) : Option Bool :=
  let t := Text.lower s
  if (["yes", "true", "on"].map String.toList).contains t then some true
  else if (["no", "false", "off"].map String.toList).contains t then some false
  else none

/-- The value of a text of the given kind. -/
def ofScalar (kind : Kind) (s : Text) : Except Fault Value :=
  match kind with
  | .null => .ok .null
  | .bool =>
    match flag? s with
    | some b => .ok (.bool b)
    | none => .error .noSuchFlag
  | .int => return .int (← whole s)
  | .float => return .float (← real s)
  | .moment => do
    Moment.check s
    return .moment
  | .string => .ok (.string s)
  | .octets =>
    match sextetOctets? s with
    | some os => .ok (.octets os)
    | none => .error .badOctets
  | .sequence | .mapping | .set | .orderedMapping => .error .wrongShape
  | .merge | .ownValue | .unknown => .error .unknownTag

/-- The kind of a node. -/
def kindOf : Node → Kind
  | .scalar kind _ | .sequence kind _ | .mapping kind _ => kind
  | .enclosing _ => .mapping

mutual

/-- The text of a node: a mapping can say what it stands for as a scalar. -/
def textOf : Node → Except Fault Text
  | .scalar _ s => .ok s
  | .sequence _ _ => .error .wrongShape
  | .mapping _ ps => ownText ps
  | .enclosing _ => .error .endlessText

/-- What a mapping stands for as a scalar. -/
def ownText : List (Node × Node) → Except Fault Text
  | [] => .error .wrongShape
  | (k, v) :: ps => if kindOf k = .ownValue then textOf v else ownText ps

end

/-- Whether a value never changes, so that it can be a key. -/
def canBeKey : Value → Bool
  | list _ | map _ | set _ | enclosing => false
  | _ => true

end Value

/-! ## Rounds -/

/-- Faults by the round in which they show.  A collection is made in one round and filled in the
next, so what it holds is looked at after everything that stands beside it. -/
abbrev Rounds := List (List Fault)

namespace Rounds

/-- The faults of two things that are looked at one after the other. -/
def alongside : Rounds → Rounds → Rounds
  | [], qs => qs
  | ps, [] => ps
  | p :: ps, q :: qs => (p ++ q) :: alongside ps qs

/-- The faults of several things that are looked at one after the other. -/
def together (rs : List Rounds) : Rounds := rs.foldr alongside []

/-- Nothing is at fault in two things exactly when nothing is in either. -/
theorem flatten_alongside_eq_nil {ps qs : Rounds} :
    (ps.alongside qs).flatten = [] ↔ ps.flatten = [] ∧ qs.flatten = [] := by
  fun_induction alongside ps qs with
  | case1 qs => simp
  | case2 ps => simp
  | case3 p ps q qs ih =>
    rw [List.flatten_cons, List.flatten_cons, List.flatten_cons]
    simp only [List.append_eq_nil_iff, ih]
    exact and_and_and_comm

theorem flatten_together_eq_nil {rs : List Rounds} :
    (together rs).flatten = [] ↔ ∀ r ∈ rs, r.flatten = [] := by
  induction rs with
  | nil => exact iff_of_true rfl fun r h => absurd h List.not_mem_nil
  | cons r rs ih =>
    rw [List.forall_mem_cons, ← ih]
    exact flatten_alongside_eq_nil

end Rounds

/-- What is made of a node: its value, and its faults. -/
structure Made where
  value : Value
  rounds : Rounds

namespace Made

/-- What is known at once. -/
def ofResult : Except Fault Value → Made
  | .ok v => { value := v, rounds := [] }
  | .error f => { value := .null, rounds := [[f]] }

/-- A collection that is made at once; its faults show when it is filled. -/
def filled (v : Value) (rounds : Rounds) : Made := { value := v, rounds := [] :: rounds }

/-- A collection that cannot be filled, and stays empty. -/
def misshapen : Made := filled (.list []) [[.wrongShape]]

/-- A collection of what is made of its items. -/
def list (items : List Made) : Made :=
  filled (.list (items.map (·.value))) (.together (items.map (·.rounds)))

/-- The value, or the first fault that shows. -/
def result (m : Made) : Except Fault Value :=
  match m.rounds.flatten with
  | [] => .ok m.value
  | f :: _ => .error f

theorem result_eq_ok_iff {m : Made} {v : Value} :
    m.result = .ok v ↔ m.rounds.flatten = [] ∧ m.value = v := by
  unfold result
  cases m.rounds.flatten <;> simp

end Made

/-- A pair of a mapping, and its faults. -/
structure Entry where
  key : Value
  value : Value
  rounds : Rounds

/-- The pair of what is made of its two sides: behind the key it is looked at whether that can be
one. -/
def Entry.ofMade (k v : Made) : Entry where
  key := k.value
  value := v.value
  rounds := .together [k.rounds, if k.value.canBeKey then [] else [[.changeableKey]], v.rounds]

/-- The pairs of a mapping: those merged into it, and its own.  What cannot be merged is refused
before any pair is looked at. -/
structure Entries where
  refused : List Fault
  merged : List Entry
  own : List Entry

namespace Entries

/-- All pairs in order. -/
def all (es : Entries) : List Entry := es.merged ++ es.own

/-- The faults of all pairs. -/
def rounds (es : Entries) : Rounds := .together ([es.refused] :: es.all.map (·.rounds))

/-- The mapping with these pairs. -/
def map (es : Entries) : Made := .filled (.map (es.all.map fun e => (e.key, e.value))) es.rounds

/-- The set of the keys. -/
def set (es : Entries) : Made := .filled (.set (es.all.map (·.key))) es.rounds

end Entries

/-! ## Nodes -/

namespace Value

/-- What is made of a node that is no collection of the given kind; as a scalar it has the given
text. -/
def ofText (kind : Kind) (text : Except Fault Text) : Made :=
  match kind with
  | .sequence | .mapping | .set | .orderedMapping => .misshapen
  | .merge | .ownValue | .unknown => .ofResult (.error .unknownTag)
  | kind => .ofResult (text >>= ofScalar kind)

/-- The text of a mapping for a value of the given kind; a date is written as a scalar only. -/
def textFor (kind : Kind) (ps : List (Node × Node)) : Except Fault Text := do
  let s ← ownText ps
  if kind = .moment then .error .notAText else .ok s

mutual

/-- What is made of a node. -/
def build : Node → Made
  | .scalar kind s => ofText kind (.ok s)
  | .sequence kind ns =>
    match kind with
    | .sequence => .list (buildAll ns)
    | .orderedMapping => .list (buildSingles ns)
    | kind => ofText kind (.error .wrongShape)
  | .mapping kind ps =>
    match kind with
    | .mapping => (entries ps).map
    | .set => (entries ps).set
    | kind => ofText kind (textFor kind ps)
  | .enclosing _ => .ofResult (.ok .enclosing)

/-- What is made of each of several nodes. -/
def buildAll : List Node → List Made
  | [] => []
  | n :: ns => build n :: buildAll ns

/-- What is made of each of several mappings with one pair. -/
def buildSingles : List Node → List Made
  | [] => []
  | .mapping _ [(k, v)] :: ns =>
    let k := build k
    let v := build v
    { value := .list [k.value, v.value], rounds := k.rounds.alongside v.rounds } :: buildSingles ns
  | .enclosing _ :: ns => .ofResult (.ok .enclosing) :: buildSingles ns
  | _ :: ns => .ofResult (.error .wrongShape) :: buildSingles ns

/-- The pairs of a mapping. -/
def entries : List (Node × Node) → Entries
  | [] => { refused := [], merged := [], own := [] }
  | (k, v) :: ps =>
    let more := entries ps
    if kindOf k = .merge then
      let here := mergedFrom v
      { more with refused := here.refused ++ more.refused, merged := here.all ++ more.merged }
    else
      let key := if kindOf k = .ownValue then ofText .string (textOf k) else build k
      { more with own := .ofMade key (build v) :: more.own }

/-- The pairs that a node merges into a mapping. -/
def mergedFrom : Node → Entries
  | .mapping _ ps => entries ps
  | .sequence _ ns => mergedFromAll ns
  | .enclosing _ => { refused := [], merged := [], own := [] }
  | .scalar _ _ => { refused := [.badMerge], merged := [], own := [] }

/-- The pairs that several mappings merge into another: those of the last one stand in front. -/
def mergedFromAll : List Node → Entries
  | [] => { refused := [], merged := [], own := [] }
  | .mapping _ ps :: ns =>
    let here := entries ps
    let more := mergedFromAll ns
    { refused := here.refused ++ more.refused, merged := more.all ++ here.merged, own := here.own }
  | .enclosing _ :: ns => mergedFromAll ns
  | _ :: ns =>
    let more := mergedFromAll ns
    { more with refused := .badMerge :: more.refused }

end

/-- The value of a node, or what is at fault first. -/
def ofNode (n : Node) : Except Fault Value := (build n).result

/-- The value of the last pair with the given string as its key. -/
def member? (name : Text) : Value → Option Value
  | map ps => ps.reverse.findSome? fun
    | (.string k, v) => if k = name then some v else none
    | _ => none
  | _ => none

end Value

/-! ## Documents -/

/-- Whether a document has nothing in it when the given token is the next. -/
def endsDocument : Token → Bool
  | .directive _ | .documentStart | .documentEnd | .finish => true
  | _ => false

/-- The short forms of tags that the directives at the front declare, and the tokens behind.  Only
one version of the language is known, and nothing may be said twice. -/
def declared (versionSeen : Bool) (handles : Handles) :
    List Token → Except Fault (Handles × List Token)
  | .directive (.version n) :: r =>
    if versionSeen || n != 1 then .error .badDirective else declared true handles r
  | .directive (.shortTag h uri) :: r =>
    if (handles.lookup h).isSome then .error .badDirective
    else declared versionSeen ((h, uri) :: handles) r
  | .directive .reserved :: r => declared versionSeen handles r
  | r => .ok (handles, r)

/-- Check that nothing but the end follows a document. -/
def atFinish (ts : List Token) : Except Fault Unit :=
  match ts.dropWhile (· == .documentEnd) with
  | .finish :: _ => .ok ()
  | .unreadable f :: _ => .error f
  | _ => .error .severalDocuments

/-- The tree of the only document of a text, if there is one. -/
def tree (s : Text) : Except Fault (Option Node) := do
  match tokens s with
  | .finish :: _ => return none
  | ts =>
    let explicit := ts.head?.any fun t => t == .documentStart || endsDocument t && t != .documentEnd
    let (handles, r) ← if explicit then declared false [] ts else .ok ([], ts)
    let r ←
      if explicit then
        match r with
        | .documentStart :: r => Except.ok r
        | r => .error (misfit r)
      else .ok r
    if explicit && r.head?.any endsDocument then
      atFinish r
      return some .empty
    else
      let p ← node (handles ++ Handles.usual) true false [] r
      atFinish p.rest
      return some p.value

/-- A reader of documents: what a text says, or why it says nothing. -/
abbrev Reader := Text → Except Fault Value

/-- What the only document of a text says; a text without a document says nothing. -/
def read : Reader := fun s => do
  match ← tree s with
  | some n => Value.ofNode n
  | none => return .null

end Docblock.Yaml
