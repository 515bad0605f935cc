/-!
# Lines

The lines of a text: parts ended by a line feed, each without a carriage return right before it.
A text that ends in a line feed has no empty line after it.
-/

namespace JavaConstants

/-- The lines of a list of characters; `line` holds those of the line begun, last first. -/
def linesAfter (line : List Char) : List Char → List (List Char)
  | [] => if line.isEmpty then [] else [line.reverse]
  | c :: cs =>
    if c = '\n' then
      (match line with
        | '\r' :: rest => rest.reverse
        | _ => line.reverse) :: linesAfter [] cs
    else linesAfter (c :: line) cs

/-- The lines of a text. -/
def textLines (s : String) : List String := (linesAfter [] s.toList).map String.ofList

example : linesAfter [] ['a', '\r', '\n', 'b', '\r'] = [['a'], ['b', '\r']] := rfl

end JavaConstants
