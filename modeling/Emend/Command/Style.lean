import Emend.Text.Occurrence

/-! # Styles

How a terminal is told to show a text: a style is switched on before the text and off
behind it.
-/

namespace Emend.Command

inductive Style where
  | bold | dimmed | red | green | yellow | cyan
  deriving Repr, DecidableEq

def Style.on : Style → String
  | .bold => "\x1b[1m"
  | .dimmed => "\x1b[2m"
  | .red => "\x1b[31m"
  | .green => "\x1b[32m"
  | .yellow => "\x1b[33m"
  | .cyan => "\x1b[36m"

def Style.off : String := "\x1b[0m"

/-- A text in a style, if styles are wanted. Where the text itself switches styles off,
its style is switched on again. -/
def paint (wanted : Bool) (style : Style) (text : String) : String :=
  if wanted then
    let off := Style.off.toList
    let body := Text.replaceAll off (off ++ style.on.toList) text.toList
    style.on ++ String.ofList body ++ Style.off
  else text

end Emend.Command
