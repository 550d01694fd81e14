import SessionSync.Text.Blank

/-!
# Previews

Long texts on one line: blanks are joined to single spaces and what goes beyond
a limit is replaced by an ellipsis.
-/

set_option autoImplicit false

namespace SessionSync.Text

/-- The words of a text: its longest runs without blanks. -/
def words (text : String) : List String :=
  let runs := text.toList.splitBy fun left right => isBlank left == isBlank right
  (runs.filter fun run => !run.any isBlank).map String.ofList

/-- The words of a text with single spaces between them. -/
def oneLine (text : String) : String := " ".intercalate (words text)

/-- At most `limit` characters of a text; an ellipsis stands for the rest. -/
def cut (limit : Nat) (text : String) : String :=
  let chars := text.toList
  if chars.length ≤ limit then text else String.ofList (chars.take limit ++ ['…'])

theorem length_cut_le (limit : Nat) (text : String) : (cut limit text).length ≤ limit + 1 := by
  unfold cut
  dsimp only
  split
  · next short => rw [← String.length_toList]; omega
  · simp only [String.length_ofList, List.length_append, List.length_take, List.length_singleton]
    omega

/-- A text with spaces before it that fill it up to a number of characters. -/
def padLeft (width : Nat) (text : String) : String :=
  String.ofList (List.replicate (width - text.length) ' ') ++ text

end SessionSync.Text
