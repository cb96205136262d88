/-
The ASCII name under which a key is known to generated functions and types: characters that are not
ASCII letters, digits or underscores become underscores. A name of such characters is its own.
-/

namespace SolidityWire.Text

/-- An ASCII letter, an ASCII digit or an underscore. -/
def isNameChar (c : Char) : Bool :=
  c.isAlphanum || c = '_'

/-- The character as it stands in an ASCII name. -/
def nameChar (c : Char) : Char :=
  if isNameChar c then c else '_'

/-- The ASCII name of a key. -/
def asciiName (key : String) : String :=
  String.ofList (key.toList.map nameChar)

/-- A name of ASCII name characters is its own ASCII name. -/
theorem asciiName_eq_self {key : String} (h : ∀ c ∈ key.toList, isNameChar c = true) :
    asciiName key = key := by
  have : key.toList.map nameChar = key.toList := by
    conv => rhs; rw [← List.map_id key.toList]
    exact List.map_congr_left fun c hc => by simp [nameChar, h c hc]
  rw [asciiName, this, String.ofList_toList]

end SolidityWire.Text
