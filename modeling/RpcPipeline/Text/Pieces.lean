/-!
# `RpcPipeline.Text.Pieces`: text between separators

A text with separators in it is a list of pieces, one more than there are
separators. Pieces may be empty.
-/

set_option autoImplicit false

namespace RpcPipeline.Text

/-- The pieces of a text between the characters that a test picks. -/
def pieces (separates : Char → Bool) : List Char → List (List Char)
  | [] => [[]]
  | c :: rest =>
    match pieces separates rest with
    | [] => [[c]]
    | first :: others =>
      if separates c then [] :: first :: others else (c :: first) :: others

end RpcPipeline.Text
