/-!
# The release

Which release of the program this is.

Main definitions: `Release.numbers`, `Release.version`, `Release.author`, `Release.codename`.
-/

namespace Playbook.Release

/-- The numbers of the release: of the generation, of the stage in it, of the correction. -/
def numbers : List Nat := [0, 1, 0]

/-- The release as one text. -/
def version : String := String.intercalate "." (numbers.map toString)

/-- Who has made the program. -/
def author : String := "Voidspan Contributors"

/-- What the release is called. -/
def codename : String := "Threshold"

end Playbook.Release
