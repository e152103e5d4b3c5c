/-
This file cuts a text into its lines. A line ends at a line feed, which takes a
carriage return directly before it along; the text after the last line feed is a
line only if there is any.
-/

namespace ErrorLint.Text

/-- The lines of the text, without their ends. -/
def lines : List Char → List (List Char)
  | [] => []
  | '\r' :: '\n' :: rest => [] :: lines rest
  | '\n' :: rest => [] :: lines rest
  | char :: rest =>
    match lines rest with
    | [] => [[char]]
    | line :: more => (char :: line) :: more

end ErrorLint.Text
