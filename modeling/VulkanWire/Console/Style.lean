/-!
# Terminal colours

Pieces of console output carry a style. With colours on, a styled piece stands
between the control sequence of its style and the one that ends all styles;
where the piece itself holds such an ending, the style is taken up again after
it. With colours off, a styled piece is its text.
-/

namespace VulkanWire

/-- The styles of console output. -/
inductive Style where
  | red
  | green
  | yellow
  | cyan
  | bold
  | dimmed
  | boldRed
deriving DecidableEq, Repr

namespace Style

/-- The parameters of a style's control sequence. -/
def code : Style → String
  | red => "31"
  | green => "32"
  | yellow => "33"
  | cyan => "36"
  | bold => "1"
  | dimmed => "2"
  | boldRed => "1;31"

/-- The control sequence that starts a style. -/
def opening (s : Style) : List Char := '\x1b' :: '[' :: (s.code.toList ++ ['m'])

/-- The control sequence that ends all styles. -/
def closing : List Char := ['\x1b', '[', '0', 'm']

/-- Takes a style up again after every ending inside a text. -/
def resume (opening : List Char) : List Char → List Char
  | '\x1b' :: '[' :: '0' :: 'm' :: rest => closing ++ opening ++ resume opening rest
  | c :: rest => c :: resume opening rest
  | [] => []

/-- A piece of text in a style. -/
def paint (colours : Bool) (s : Style) (text : String) : String :=
  if colours then String.ofList (s.opening ++ resume s.opening text.toList ++ closing) else text

end Style

end VulkanWire
