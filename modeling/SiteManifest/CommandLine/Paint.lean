/-!
# Painted text

Text with the codes that make a terminal show it in colours and shapes.
-/

namespace SiteManifest

/-- How a text is shown. -/
inductive Paint where
  | bold
  | dim
  | italic
  | red
  | green
  | yellow
  | blue
  | magenta
  | cyan
  deriving DecidableEq, Repr

namespace Paint

/-- The number of the code that starts a paint. -/
def number : Paint → String
  | .bold => "1"
  | .dim => "2"
  | .italic => "3"
  | .red => "31"
  | .green => "32"
  | .yellow => "33"
  | .blue => "34"
  | .magenta => "35"
  | .cyan => "36"

/-- The code that starts a paint. -/
def start (p : Paint) : String := "\x1b[" ++ p.number ++ "m"

/-- The code that ends all paints. -/
def stop : String := "\x1b[0m"

/-- A text with some paints. Nothing is painted without colours. -/
def apply (colours : Bool) (ps : List Paint) (text : String) : String :=
  if colours && !ps.isEmpty then String.join (ps.map start) ++ text ++ stop else text

end Paint

end SiteManifest
