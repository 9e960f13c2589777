/-
# Docblock.Proofs.Settings.Meaning — values that mean something for a setting.

Any value may stand in a settings file.  Some mean a flag, an indentation, some texts or an output
format, possibly in the shape of another type; the readers of settings find a meaning in exactly
these.  Only for the output format there is a third case: a text that names no known one.
-/
import Docblock.Proofs.Settings.Report

namespace Docblock.Settings

/-! ## Values that mean something -/

/-- A value that stands for a flag. -/
inductive SaysFlag : Yaml.Value → Prop where
  | bool (b : Bool) : SaysFlag (.bool b)
  | word {s : Text} (h : Text.lower (Text.trim s) ∈ Yaml.Value.onWords ++ Yaml.Value.offWords) :
    SaysFlag (.string s)

/-- A value that stands for an indentation: a number that is not negative, or a numeral of one. -/
inductive SaysIndent : Yaml.Value → Prop where
  | int {i : Int} (h : 0 ≤ i) : SaysIndent (.int i)
  | numeral {s : Text} {i : Int} (hs : Numeral.toInt? s = some i) (h : 0 ≤ i) :
    SaysIndent (.string s)

/-- A value that stands for at least one text. -/
inductive SaysTexts : Yaml.Value → Prop where
  | string (s : Text) : SaysTexts (.string s)
  | list {vs : List Yaml.Value} {v : Yaml.Value} {s : Text} (h : v ∈ vs) (hs : v.asText? = some s) :
    SaysTexts (.list vs)
  | octets {os : Octets} (h : os ≠ []) : SaysTexts (.octets os)

/-- A value with a text that is not empty. -/
def SaysName (v : Yaml.Value) : Prop := ∃ s, v.asText? = some s ∧ s ≠ []

theorem isSome_asFlag?_iff {v : Yaml.Value} : v.asFlag?.isSome = true ↔ SaysFlag v := by
  cases v with
  | bool b => exact iff_of_true rfl (.bool b)
  | string s =>
    have hword : SaysFlag (.string s) ↔
        Text.lower (Text.trim s) ∈ Yaml.Value.onWords ++ Yaml.Value.offWords :=
      ⟨fun h => by cases h; assumption, .word⟩
    rw [hword, List.mem_append, ← List.contains_iff_mem, ← List.contains_iff_mem]
    unfold Yaml.Value.asFlag?
    dsimp only
    split
    · next hon => exact iff_of_true rfl (.inl hon)
    · next hon =>
      split
      · next hoff => exact iff_of_true rfl (.inr hoff)
      · next hoff => exact iff_of_false Bool.false_ne_true (not_or.mpr ⟨hon, hoff⟩)
  | _ => exact iff_of_false Bool.false_ne_true fun h => by cases h

theorem isSome_indentOf?_iff {v : Yaml.Value} : (indentOf? v).isSome = true ↔ SaysIndent v := by
  unfold indentOf?
  rw [Option.isSome_filter, Option.any_eq_true]
  constructor
  · rintro ⟨i, hi, h⟩
    have h := of_decide_eq_true h
    cases v with
    | int j =>
      cases hi
      exact .int h
    | string s => exact .numeral hi h
    | _ => cases hi
  · intro h
    cases h with
    | int h => exact ⟨_, rfl, decide_eq_true h⟩
    | numeral hs h => exact ⟨_, hs, decide_eq_true h⟩

theorem asTexts_ne_nil_iff {v : Yaml.Value} : v.asTexts ≠ [] ↔ SaysTexts v := by
  unfold Yaml.Value.asTexts
  rw [Ne, List.filterMap_eq_nil_iff]
  constructor
  · intro h
    obtain ⟨u, hu⟩ := Classical.not_forall.mp h
    obtain ⟨hu, hs⟩ := Classical.not_imp.mp hu
    obtain ⟨s, hs⟩ := Option.ne_none_iff_exists'.mp hs
    cases v with
    | string s => exact .string s
    | list vs => exact .list hu hs
    | octets os => exact .octets fun h => by subst h; cases hu
    | _ => cases hu
  · intro h hnone
    cases h with
    | string s => exact absurd (hnone _ List.mem_cons_self) (Option.some_ne_none s)
    | list h hs => exact absurd ((hnone _ h).symm.trans hs) (Option.some_ne_none _).symm
    | octets h =>
      obtain ⟨o, os, rfl⟩ := List.exists_cons_of_ne_nil h
      exact absurd (hnone _ List.mem_cons_self) (Option.some_ne_none _)

/-- The texts that a value stands for, when there are any. -/
def textsIn? (v : Yaml.Value) : Option (List Text) :=
  if v.asTexts.isEmpty then none else some v.asTexts

theorem isSome_textsIn?_iff {v : Yaml.Value} : (textsIn? v).isSome = true ↔ SaysTexts v := by
  rw [← asTexts_ne_nil_iff]
  unfold textsIn?
  cases v.asTexts <;> simp

theorem getD_textsIn? (v : Yaml.Value) : (textsIn? v).getD [] = v.asTexts := by
  unfold textsIn?
  cases v.asTexts <;> rfl

theorem extensionsOf?_asTexts (v : Yaml.Value) :
    extensionsOf? v.asTexts = (textsIn? v).map (·.map withPoint) := by
  unfold extensionsOf? textsIn?
  cases v.asTexts <;> rfl

/-! ## The output format -/

/-- The known output format that a value names, in letters of either case. -/
def formatIn? (v : Yaml.Value) : Option OutputFormat :=
  v.asText?.bind fun s => OutputFormat.names.lookup (Text.lower s)

/-- A value names an output format that is not known. -/
def NamesUnknown (v : Yaml.Value) : Prop :=
  ∃ s, v.asText? = some s ∧ s ≠ [] ∧ Text.lower s ∉ OutputFormat.names.map (·.1)

theorem lookup_names_eq_none_iff {name : Text} :
    OutputFormat.names.lookup name = none ↔ name ∉ OutputFormat.names.map (·.1) := by
  rw [List.lookup_eq_none_iff]
  simp [OutputFormat.names]

theorem formatOf_eq_ok {v : Yaml.Value} {f : Option OutputFormat} (h : formatOf v = .ok f) :
    f = formatIn? v := by
  unfold formatOf at h
  unfold formatIn?
  split at h
  · next hs =>
    rw [hs]
    cases h
    rfl
  · next hs =>
    rw [hs]
    cases h
    rfl
  · next s _ hs =>
    rw [hs, Option.bind_some]
    split at h
    · cases h
    · dsimp only at h
      split at h
      · next hname =>
        cases h
        exact hname.symm
      · cases h

/-- A value is accepted as output format unless it names one that is not known. -/
theorem exists_formatOf_iff {v : Yaml.Value} (hw : v.writable = true) :
    (∃ f, formatOf v = .ok f) ↔ ¬ NamesUnknown v := by
  unfold formatOf
  split
  · next hs =>
    refine iff_of_true ⟨none, rfl⟩ ?_
    rintro ⟨s, h, -⟩
    rw [hs] at h
    cases h
  · next hs =>
    refine iff_of_true ⟨none, rfl⟩ ?_
    rintro ⟨s, h, hne, -⟩
    rw [hs] at h
    cases h
    exact hne rfl
  · next s hne hs =>
    have hnames : NamesUnknown v ↔ OutputFormat.names.lookup (Text.lower s) = none := by
      rw [lookup_names_eq_none_iff]
      constructor
      · rintro ⟨t, ht, -, hunknown⟩
        rw [hs] at ht
        cases ht
        exact hunknown
      · exact fun hunknown => ⟨s, hs, hne, hunknown⟩
    rw [hnames]
    simp only [hw, Bool.not_true, Bool.false_eq_true, if_false]
    cases OutputFormat.names.lookup (Text.lower s) with
    | none => exact iff_of_false (fun ⟨f, h⟩ => by cases h) (fun h => h rfl)
    | some f => exact iff_of_true ⟨some f, rfl⟩ (Option.some_ne_none f)

theorem saysName_of_isSome {v : Yaml.Value} (h : (formatIn? v).isSome = true) : SaysName v := by
  obtain ⟨f, hf⟩ := Option.isSome_iff_exists.mp h
  obtain ⟨s, hs, hname⟩ := Option.bind_eq_some_iff.mp hf
  refine ⟨s, hs, ?_⟩
  rintro rfl
  cases hname

/-- A value that is accepted names a known format as soon as it has a text that is not empty. -/
theorem isSome_formatIn?_iff {v : Yaml.Value} {f : Option OutputFormat} (h : formatOf v = .ok f) :
    (formatIn? v).isSome = true ↔ SaysName v := by
  refine ⟨saysName_of_isSome, ?_⟩
  rintro ⟨s, hs, hne⟩
  have hw : v.writable = true := by
    cases hw : v.writable with
    | true => rfl
    | false => cases (formatOf_eq_hugeNumber_iff.mpr hw).symm.trans h
  have hknown : ¬ NamesUnknown v := (exists_formatOf_iff hw).mp ⟨f, h⟩
  unfold formatIn?
  rw [hs, Option.bind_some]
  cases hname : OutputFormat.names.lookup (Text.lower s) with
  | none => exact absurd ⟨s, hs, hne, lookup_names_eq_none_iff.mp hname⟩ hknown
  | some f => rfl

end Docblock.Settings
