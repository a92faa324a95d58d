/-! Text cut at every place where a character stands. -/

namespace GridSchema.Text

/-- The parts of a text between the places of a character. There is one more than there are
places. -/
def split (separator : Char) : List Char → List (List Char)
  | [] => [[]]
  | c :: rest =>
    if c = separator then [] :: split separator rest
    else match split separator rest with
      | [] => [[c]]
      | part :: parts => (c :: part) :: parts

/-- The two parts of a text around the first place of a character. -/
def splitFirst? (separator : Char) (text : List Char) : Option (List Char × List Char) :=
  match text.dropWhile (· != separator) with
  | _ :: after => some (text.takeWhile (· != separator), after)
  | [] => none

/-- The two parts of a text around the last place of a character. -/
def splitLast? (separator : Char) (text : List Char) : Option (List Char × List Char) :=
  match text.reverse.dropWhile (· != separator) with
  | _ :: before => some (before.reverse, (text.reverse.takeWhile (· != separator)).reverse)
  | [] => none

end GridSchema.Text
