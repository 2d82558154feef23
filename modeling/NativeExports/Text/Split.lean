/-!
Splitting a text at a character, as a string split with a one-character separator does: the
pieces between the occurrences of the character, in order, empty pieces included.
-/

namespace NativeExports.Text

/-- The pieces of a text between the occurrences of a character, in order: one more piece than
there are occurrences, and an empty piece wherever two occurrences meet or one ends the text. -/
def splitOnChar (c : Char) (s : String) : List String :=
  (s.toList.splitOn c).map String.ofList

end NativeExports.Text
