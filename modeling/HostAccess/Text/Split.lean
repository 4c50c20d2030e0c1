/-! # Splitting

The parts of a text between the occurrences of a separator. There is always one part more than there
are separators, so an empty text has one empty part. -/
namespace HostAccess.Text

def parts (separator : Char) : List Char → List (List Char)
  | [] => [[]]
  | c :: rest =>
    if c = separator then [] :: parts separator rest
    else
      match parts separator rest with
      | part :: others => (c :: part) :: others
      | [] => [[c]]

end HostAccess.Text
