import BackingServices.Error

/-!
# Names of namespaces

The namespace of a service is named by the service's name and a suffix, with
nothing between them.  The name must be a DNS-1123 label: letters in lower case,
digits and hyphens, of which neither the first nor the last is a hyphen, and no more
than 63 of them.
-/

namespace BackingServices.NamespaceName

/-- The name of a service's namespace. -/
def derive (service suffix : String) : String := service ++ suffix

/-- Whether a character may stand in a label. -/
def isLabelChar (c : Char) : Bool := c.isLower || c.isDigit || c == '-'

/-- Whether the characters of a text are those of a label. -/
def isLabel (cs : List Char) : Bool :=
  cs.all isLabelChar && cs.head?.any Char.isAlphanum && cs.getLast?.any Char.isAlphanum

/-- Checks a name. -/
def validate (name : String) : Except ProvisionError Unit :=
  if name = "" ∨ maxNamespaceLength < name.utf8ByteSize then .error (.request (.badLength name))
  else if isLabel name.toList then .ok ()
  else .error (.request (.notLabel name))

end BackingServices.NamespaceName
