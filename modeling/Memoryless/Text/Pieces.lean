/-!
# Pieces of a text

A text split at every occurrence of a character.
-/

namespace Memoryless.Text

/-- What stands between the occurrences of a character, before the first and after the last. -/
def pieces (separator : Char) : List Char → List (List Char)
  | [] => [[]]
  | c :: cs =>
    match pieces separator cs with
    | [] => [[c]]
    | piece :: rest => if c = separator then [] :: piece :: rest else (c :: piece) :: rest

/-- A text without the character is a single piece. -/
theorem pieces_of_not_mem {separator : Char} {text : List Char} (absent : separator ∉ text) :
    pieces separator text = [text] := by
  induction text with
  | nil => rfl
  | cons c cs ih =>
    simp only [List.mem_cons, not_or] at absent
    rw [pieces, ih absent.2]
    exact if_neg (Ne.symm absent.1)

end Memoryless.Text
