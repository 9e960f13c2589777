/-
# Docblock.Proofs.Yaml.Flat — documents of plain pairs.

Most documents are one block mapping whose keys and values are plain texts.  Such a document holds
what its tokens show, one pair after the other, so what it says can be told without following the
reader of trees (`read_of_tokens`).
-/
import Docblock.Yaml.Value

namespace Docblock.Yaml

variable (handles : Handles) (names : Names)

/-! ## Plain texts -/

/-- The node of a plain text. -/
def plainNode (s : Text) : Node := .scalar (.ofPlain s) s

theorem node_plain (block flush : Bool) (s : Text) (r : List Token) :
    node handles block flush names (.scalar s true :: r) =
      .ok { value := plainNode s, names, rest := r, shorter := Nat.lt_succ_self _ } := by
  rw [node]
  · rfl
  · -- the token is no alias
    intro a r h
    cases h

theorem nodeOrNone_plain {ends : Token → Bool} {s : Text} (h : ends (.scalar s true) = false)
    (block flush : Bool) (r : List Token) :
    nodeOrNone handles ends block flush names (.scalar s true :: r) =
      .ok { value := plainNode s, names, rest := r,
            shorter := Nat.lt_succ_of_lt (Nat.lt_succ_self _) } := by
  have hhead : ¬ (Token.scalar s true :: r).head?.any ends = true := by
    rw [List.head?_cons, Option.any_some, h]
    exact Bool.false_ne_true
  rw [nodeOrNone, if_neg hhead, node_plain]
  rfl

/-! ## Plain pairs -/

/-- The tokens of a key and its value, both plain texts. -/
def pairTokens (p : Text × Text) : List Token :=
  [.key, .scalar p.1 true, .value, .scalar p.2 true]

/-- The nodes of a key and its value. -/
def pairNodes (p : Text × Text) : Node × Node := (plainNode p.1, plainNode p.2)

/-- The pairs of a block mapping are read one after the other. -/
theorem blockPairs_plain (ps : List (Text × Text)) (r : List Token) :
    ∃ h, blockPairs handles names (ps.flatMap pairTokens ++ .blockEnd :: r) =
      .ok { value := ps.map pairNodes, names, rest := r, shorter := h } := by
  induction ps with
  | nil =>
    refine ⟨Nat.lt_succ_self _, ?_⟩
    show blockPairs handles names (.blockEnd :: r) = _
    rw [blockPairs]
    rfl
  | cons p ps ih =>
    obtain ⟨h, ih⟩ := ih
    have hlen : r.length < ((p :: ps).flatMap pairTokens ++ .blockEnd :: r).length := by
      rw [List.length_append, List.length_cons]
      omega
    refine ⟨hlen, ?_⟩
    -- key and value are plain, so the reader is behind both with the names that it had before
    show blockPairs handles names (.key :: .scalar p.1 true :: .value :: .scalar p.2 true ::
      (ps.flatMap pairTokens ++ .blockEnd :: r)) = _
    have hends : ∀ s, endsBlockPart (.scalar s true) = false := by
      intro s
      rfl
    have hkey := nodeOrNone_plain handles names (hends p.1) true true
    have hvalue := nodeOrNone_plain handles names (hends p.2) true true
    rw [blockPairs]
    simp only [bind, Except.bind, hkey, hvalue, ih]
    rfl

/-- A document whose tokens are those of plain pairs is the mapping of these pairs. -/
theorem tree_of_tokens {s : Text} {ps : List (Text × Text)}
    (h : tokens s = .blockMapping :: (ps.flatMap pairTokens ++ [.blockEnd, .finish])) :
    tree s = .ok (some (.mapping .mapping (ps.map pairNodes))) := by
  obtain ⟨hlt, hpairs⟩ := blockPairs_plain Handles.usual [] ps [.finish]
  have hnode : ∃ hn, node Handles.usual true false []
      (.blockMapping :: (ps.flatMap pairTokens ++ [.blockEnd, .finish])) =
      .ok { value := .mapping .mapping (ps.map pairNodes), names := [], rest := [.finish],
            shorter := hn } := by
    refine ⟨Nat.lt_succ_of_lt hlt, ?_⟩
    rw [node]
    · show (blockPairs Handles.usual [] (ps.flatMap pairTokens ++ [.blockEnd, .finish]) >>= _) = _
      rw [hpairs]
      rfl
    · intro a r h
      cases h
  obtain ⟨hn, hnode⟩ := hnode
  unfold tree
  rw [h]
  show (node Handles.usual true false []
    (.blockMapping :: (ps.flatMap pairTokens ++ [.blockEnd, .finish])) >>= _) = _
  rw [hnode]
  rfl

theorem read_of_tokens {s : Text} {ps : List (Text × Text)}
    (h : tokens s = .blockMapping :: (ps.flatMap pairTokens ++ [.blockEnd, .finish])) :
    read s = Value.ofNode (.mapping .mapping (ps.map pairNodes)) := by
  unfold read
  rw [tree_of_tokens h]
  rfl

/-! ## What plain pairs say -/

section

variable {s : Text}

theorem ofScalar_word (h : Kind.ofPlain s = .string) :
    Value.ofScalar (.ofPlain s) s = .ok (.string s) := by
  rw [h, Value.ofScalar]

theorem ofScalar_flag (h : Kind.ofPlain s = .bool) {b : Bool} (hb : Value.flag? s = some b) :
    Value.ofScalar (.ofPlain s) s = .ok (.bool b) := by
  rw [h, Value.ofScalar, hb]

theorem ofScalar_whole (h : Kind.ofPlain s = .int) {i : Int} (hi : whole s = .ok i) :
    Value.ofScalar (.ofPlain s) s = .ok (.int i) := by
  rw [h, Value.ofScalar, hi]
  rfl

end

/-- The values that plain pairs stand for; their keys are words. -/
inductive PlainValues : List (Text × Text) → List (Value × Value) → Prop where
  | nil : PlainValues [] []
  | cons {k s : Text} {v : Value} {ps : List (Text × Text)} {vs : List (Value × Value)}
    (hk : Kind.ofPlain k = .string) (hs : Value.ofScalar (.ofPlain s) s = .ok v)
    (h : PlainValues ps vs) : PlainValues ((k, s) :: ps) ((.string k, v) :: vs)

/-- A scalar that has a value is at no fault. -/
theorem ofText_of_ok {kind : Kind} {s : Text} {v : Value} (h : Value.ofScalar kind s = .ok v) :
    Value.ofText kind (.ok s) = { value := v, rounds := [] } := by
  have hmade : Made.ofResult (Except.ok s >>= Value.ofScalar kind) =
      { value := v, rounds := [] } := by
    show Made.ofResult (Value.ofScalar kind s) = _
    rw [h]
    rfl
  unfold Value.ofText
  -- a text has no value as a collection, nor as something of no known kind
  split
  all_goals try cases h
  exact hmade

/-- The pair of a key and a value that are at no fault. -/
def soundEntry (p : Value × Value) : Entry where
  key := p.1
  value := p.2
  rounds := []

theorem entries_plain {ps : List (Text × Text)} {vs : List (Value × Value)}
    (h : PlainValues ps vs) : Value.entries (ps.map pairNodes) =
      { refused := [], merged := [], own := vs.map soundEntry } := by
  induction h with
  | nil => rw [List.map_nil, Value.entries, List.map_nil]
  | @cons k s v ps vs hk hs h ih =>
    have hkey : Value.build (plainNode k) = { value := .string k, rounds := [] } := by
      rw [plainNode, Value.build, ofText_of_ok (ofScalar_word hk)]
    have hvalue : Value.build (plainNode s) = { value := v, rounds := [] } := by
      rw [plainNode, Value.build, ofText_of_ok hs]
    -- a word is neither of the two keys that a mapping is not looked up by
    have hkind : Value.kindOf (plainNode k) = .string := hk
    rw [List.map_cons, pairNodes, Value.entries]
    simp only [hkind, hkey, hvalue, ih, reduceCtorEq, if_false]
    rfl

/-- A document of plain pairs says the mapping of the values that they stand for. -/
theorem read_plain {s : Text} {ps : List (Text × Text)} {vs : List (Value × Value)}
    (h : tokens s = .blockMapping :: (ps.flatMap pairTokens ++ [.blockEnd, .finish]))
    (hvs : PlainValues ps vs) : read s = .ok (.map vs) := by
  have hall : (Value.entries (ps.map pairNodes)).all = vs.map soundEntry := by
    rw [entries_plain hvs]
    rfl
  have hsound : (Value.entries (ps.map pairNodes)).rounds.flatten = [] := by
    rw [Entries.rounds, Rounds.flatten_together_eq_nil, hall, entries_plain hvs, List.map_map]
    intro r hr
    rcases List.mem_cons.mp hr with rfl | hr
    · rfl
    · obtain ⟨p, -, rfl⟩ := List.mem_map.mp hr
      rfl
  have hpairs : (vs.map soundEntry).map (fun e => (e.key, e.value)) = vs := by
    rw [List.map_map]
    exact List.map_id vs
  rw [read_of_tokens h, Value.ofNode, Value.build]
  apply Made.result_eq_ok_iff.mpr
  constructor
  · exact hsound
  · show Value.map ((Value.entries (ps.map pairNodes)).all.map _) = _
    rw [hall, hpairs]

end Docblock.Yaml
