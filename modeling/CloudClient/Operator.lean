import CloudClient.Text.Case

/-!
# Families of operators

Operators differ in how they want credentials and in what their catalogs
leave out. What matters is the family an operator belongs to, which is found
by its name, in any case and with blanks around it. An unknown name belongs
to the family `other`.
-/

namespace CloudClient

/-- A family of operators. -/
inductive OperatorFamily where
  | dell
  | dreamhost
  | hp
  | ibm
  | metacloud
  | rackspace
  | other
  deriving DecidableEq, Repr

namespace OperatorFamily

/-- The name of a family. -/
def name : OperatorFamily → String
  | .dell => "dell"
  | .dreamhost => "dreamhost"
  | .hp => "hp"
  | .ibm => "ibm"
  | .metacloud => "metacloud"
  | .rackspace => "rackspace"
  | .other => "other"

/-- All families. -/
def all : List OperatorFamily := [.dell, .dreamhost, .hp, .ibm, .metacloud, .rackspace, .other]

/-- The family of the operator with the given name, if it has one. -/
def ofName (operator : Option String) : OperatorFamily :=
  let wanted := Text.lower (Text.trim (operator.getD ""))
  (all.find? fun f => f.name == wanted).getD .other

/-- Whether the operator is known to speak through headers only. -/
def headerOnly (f : OperatorFamily) : Bool := f == .rackspace

end OperatorFamily

end CloudClient
