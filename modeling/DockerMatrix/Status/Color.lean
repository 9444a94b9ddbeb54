/-
# Colors of messages

The colors that a message can be painted with. A painted message is bold and colored, and leaves
the terminal as it was.

| color | code | color | code | color | code |
| --- | ---: | --- | ---: | --- | ---: |
| gray | 90 | yellow | 93 | white | 97 |
| red | 91 | blue | 94 | black | 30 |
| green | 92 | purple | 95 | default | 39 |
-/

import DockerMatrix.Text.Control

namespace DockerMatrix
namespace Status

/-- A color of the terminal's palette, or the color that the terminal writes in by default. -/
inductive Color
  | gray
  | red
  | green
  | yellow
  | blue
  | purple
  | white
  | black
  | default
  deriving DecidableEq, Repr, Inhabited

namespace Color

/-- The colors that have a name, with their names. -/
def named : List (String × Color) :=
  [("gray", gray), ("red", red), ("green", green), ("yellow", yellow), ("blue", blue),
   ("purple", purple), ("white", white), ("black", black)]

/-- The color of a name, the case of ASCII letters aside. Any other name means the default color. -/
def ofName (name : String) : Color :=
  (named.lookup (String.ofList (name.toList.map Char.toLower))).getD default

/-- The number that sets the color. -/
def code : Color → String
  | gray => "90"
  | red => "91"
  | green => "92"
  | yellow => "93"
  | blue => "94"
  | purple => "95"
  | white => "97"
  | black => "30"
  | default => "39"

end Color

/-- The sequence that sets a property of the text that follows it. -/
def sequence (code : String) : String :=
  "\x1b[" ++ code ++ "m"

/-- A message in bold and in a color, then the terminal's own color and weight again. -/
def paint (color : Color) (message : String) : String :=
  sequence "1" ++ sequence color.code ++ message ++ sequence "39" ++ sequence "0"

end Status
end DockerMatrix
