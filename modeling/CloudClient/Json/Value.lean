import CloudClient.Number.Binary64
import CloudClient.OrderedMap
import CloudClient.Text.Quoted

/-!
# Document values

Answers of a cloud are documents of nested arrays and objects, and a field of
one may hold anything, whatever a caller expects there. So the type of a
value is one of the few dynamic types of this library.

Three things set it apart from a mere tree. An integer and a fractional number
stay different values even where they are equal, `1` and `1.0`, since they
are written differently. The members of an object keep the order in which
their names came, a repeated name keeping its place and taking the last
value. And a text or a name is raw: it may have half of a pair of code units
in it, and keeps it.

A value is *empty* – `truthy` says it is not – when it is null, false, zero,
or a text, array or object with nothing in it. Fields that are empty count as
missing throughout.
-/

namespace CloudClient

/-- A value of a document. -/
inductive Json where
  | null
  | bool (b : Bool)
  | int (n : Int)
  | float (x : Binary64)
  | str (t : RawText)
  | arr (elements : List Json)
  | obj (members : List (RawText × Json))
  deriving Inhabited, Repr

namespace Json

/-- Whether a value counts as present. -/
def truthy : Json → Bool
  | .null => false
  | .bool b => b
  | .int n => n != 0
  | .float x => x.isNonzero
  | .str t => !t.isEmpty
  | .arr elements => !elements.isEmpty
  | .obj members => !members.isEmpty

/-- The object with the given members. -/
def ofEntries (entries : List (String × Json)) : Json :=
  .obj (entries.map fun e => (RawText.ofString e.1, e.2))

/-- The member of an object with the given name; none in any other value. -/
def member? (name : String) : Json → Option Json
  | .obj members => Entries.find? members (RawText.ofString name)
  | _ => none

/-- The first of two values that is present, the second if neither is. -/
def orElse (a b : Json) : Json := if a.truthy then a else b

/-- The name of the kind of a value, as complaints about a document use it. -/
def kindName : Json → String
  | .null => "NoneType"
  | .bool _ => "bool"
  | .int _ => "int"
  | .float _ => "float"
  | .str _ => "str"
  | .arr _ => "list"
  | .obj _ => "dict"

/-- The text of a value, or null if there is none. -/
def ofOption : Option String → Json
  | none => .null
  | some s => .str s

/-! ## Nesting

A value that stands by itself is not nested at all, and an array or object is
one level above the deepest of what it holds.
-/

mutual

/-- How many arrays and objects lie one inside the other at most. -/
def depth : Json → Nat
  | .arr elements => elementDepth elements + 1
  | .obj members => memberDepth members + 1
  | _ => 0

/-- The depth of the deepest element. -/
def elementDepth : List Json → Nat
  | [] => 0
  | v :: more => max (depth v) (elementDepth more)

/-- The depth of the deepest member. -/
def memberDepth : List (RawText × Json) → Nat
  | [] => 0
  | (_, v) :: more => max (depth v) (memberDepth more)

end

/-! ## Showing a value

Where a value of the wrong kind ends up in a message, it is shown in the
notation of literals: the constants are capitalised words, and texts inside
an array or object stand in quotes. A text by itself is shown bare.
-/

mutual

/-- The literal of a value. -/
def literal : Json → String
  | .null => "None"
  | .bool true => "True"
  | .bool false => "False"
  | .int n => toString n
  | .float x => x.text
  | .str t => Text.quoted t
  | .arr elements => "[" ++ literalElements elements ++ "]"
  | .obj members => "\x7b" ++ literalMembers members ++ "\x7d"

/-- The literals of the elements of an array. -/
def literalElements : List Json → String
  | [] => ""
  | [v] => literal v
  | v :: w :: more => literal v ++ ", " ++ literalElements (w :: more)

/-- The literals of the members of an object. -/
def literalMembers : List (RawText × Json) → String
  | [] => ""
  | [(k, v)] => Text.quoted k ++ ": " ++ literal v
  | (k, v) :: w :: more => Text.quoted k ++ ": " ++ literal v ++ ", " ++ literalMembers (w :: more)

end

/-- The value as text inside a message. -/
def shown : Json → RawText
  | .str t => t
  | v => RawText.ofString (literal v)

@[simp] theorem shown_str (t : RawText) : (Json.str t).shown = t := rfl

end Json

end CloudClient
