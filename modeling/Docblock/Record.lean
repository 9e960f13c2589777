/-
# Docblock.Record — comments as structured values.

The form in which comments are handed out.  A tag writes only the fields that are set; a declaration
writes its scope and value only when it has them; a comment without code writes neither the code nor
what it declares.
-/
import Docblock.Comment
import Docblock.Json.Basic

namespace Docblock

/-- The members of an object, without those that are unset. -/
def Json.ofFields (fields : List (String × Option Json)) : Json :=
  .object (fields.filterMap fun (k, v) => v.map (k.toList, ·))

/-- The structured value of a tag. -/
def Tag.toJson (t : Tag) : Json :=
  .ofFields [
    ("type", some (.string t.type)),
    ("types", t.types.map fun ts => .array (ts.map .string)),
    ("name", t.name.map .string),
    ("description", t.description.map .string),
    ("title", t.title.map .string),
    ("url", t.url.map .string),
    ("local", t.target.map .string),
    ("visibility", t.visibility.map .string),
    ("parent", t.parent.map .string),
    ("otherClass", t.otherClass.map .string),
    ("otherMemberName", t.otherMemberName.map .string),
    ("thisMemberName", t.thisMemberName.map .string),
    ("string", t.string.map .string)]

/-- The structured value of a description. -/
def Description.toJson (d : Description) : Json :=
  .ofFields [
    ("full", some (.string d.full)),
    ("summary", some (.string d.summary)),
    ("body", some (.string d.body))]

/-- The structured value of a scope; an owner that is not known is null. -/
def Scope.toJson (s : Scope) : Json :=
  .ofFields [
    ("owner", some (.ofText? s.owner)),
    ("type", some (.string s.membership.name))]

/-- The structured value of a declaration. -/
def Declaration.toJson (d : Declaration) : Json :=
  .ofFields [
    ("type", some (.string d.kind.name)),
    ("name", some (.string d.name)),
    ("string", some (.string d.string)),
    ("scope", d.scope.map Scope.toJson),
    ("value", d.value.map .string)]

/-- The structured value of a comment. -/
def Comment.toJson (c : Comment) : Json :=
  .ofFields [
    ("tags", some (.array (c.tags.map Tag.toJson))),
    ("description", some c.description.toJson),
    ("isPrivate", some (.bool c.isPrivate)),
    ("ignore", some (.bool c.ignored)),
    ("code", c.code.map .string),
    ("ctx", c.code.map fun _ => (c.declaration.map Declaration.toJson).getD .null)]

end Docblock
