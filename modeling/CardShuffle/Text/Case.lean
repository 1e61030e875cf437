/-!
# Letter case

Names that are given in any letter case are compared after their ASCII letters
have been made lower-case. Every other character stands for itself.
-/

namespace CardShuffle.Text

/-- Upper-case ASCII letters as lower-case ones; every other character stays. -/
def foldCase (text : String) : String :=
  text.map Char.toLower

end CardShuffle.Text
