/-! The parts of a text between the occurrences of a character. -/

namespace TypedScalar.Text

def splitAt (sep : Char) : List Char → List (List Char)
  | [] => [[]]
  | c :: rest =>
    match splitAt sep rest with
    | [] => [[c]]
    | part :: parts => if c = sep then [] :: part :: parts else (c :: part) :: parts

end TypedScalar.Text
