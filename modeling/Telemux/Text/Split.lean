namespace Telemux

/-- Cuts a text at every occurrence of a character; there is one part more than cuts. -/
def splitAtEvery (sep : Char) : List Char → List (List Char)
  | [] => [[]]
  | c :: cs =>
    if c = sep then [] :: splitAtEvery sep cs
    else match splitAtEvery sep cs with
      | part :: parts => (c :: part) :: parts
      | [] => [[c]]

end Telemux
