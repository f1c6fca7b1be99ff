-- SUMMARY: Terminal colours: text between the codes that switch a style on and off.

/-! # Painted text

A colour ends with the code for the default colour, a weight with the code
that resets everything. Paints nest: the outer one is applied last. -/

namespace DocAtlas.Text

inductive Paint where
  | red
  | green
  | yellow
  | cyan
  | brightBlue
  | bold
  | dimmed

namespace Paint

def code : Paint → String
  | red => "31"
  | green => "32"
  | yellow => "33"
  | cyan => "36"
  | brightBlue => "94"
  | bold => "1"
  | dimmed => "2"

def endCode : Paint → String
  | bold | dimmed => "0"
  | _ => "39"

/-- The code sequence for the given style numbers. -/
def escape (codes : String) : String := "\x1b[" ++ codes ++ "m"

def apply (p : Paint) (s : String) : String := escape p.code ++ s ++ escape p.endCode

end Paint

end DocAtlas.Text
