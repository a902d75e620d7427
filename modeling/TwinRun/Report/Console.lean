import TwinRun.Report.Sink

/-!
The report on a console, in colour or plain.

In colour a styled line starts with a reset and its style and every line ends with a
reset, so that no style runs into the next line. Plain, the console shows what
`BufferSink` collects.
-/

namespace TwinRun.Console

inductive Colour where
  | red
  | green
  | yellow
  | cyan
  deriving DecidableEq, Repr

structure Appearance where
  bold : Bool := false
  dimmed : Bool := false
  colour : Option Colour := none
  deriving DecidableEq, Repr

inductive ColourChoice where
  | always
  | never
  deriving DecidableEq, Repr

/-- A graphic rendition sequence. -/
def escape (code : Nat) : String := "\x1b[" ++ Decimal.text code ++ "m"

/-- Ends every style. -/
def reset : String := escape 0

def Colour.code : Colour → Nat
  | .red => 31
  | .green => 32
  | .yellow => 33
  | .cyan => 36

/-- The sequences that switch to an appearance. -/
def Appearance.start (a : Appearance) : String :=
  reset ++ (if a.bold then escape 1 else "") ++ (if a.dimmed then escape 2 else "")
    ++ (a.colour.map (fun c => escape c.code)).getD ""

def separatorAppearance : Appearance := { bold := true, colour := some .yellow }

/-- The look of a shown line; a context line has none. -/
def appearance : LineStyle → Option Appearance
  | .fileHeader => some { bold := true }
  | .hunkHeader => some { colour := some .cyan }
  | .context => none
  | .removed => some { colour := some .red }
  | .added => some { colour := some .green }
  | .note => some { dimmed := true }

def line (choice : ColourChoice) (look : Option Appearance) (text : String) : String :=
  match choice with
  | .never => text ++ "\n"
  | .always => (look.map Appearance.start).getD "" ++ text ++ reset ++ "\n"

def output (choice : ColourChoice) : ReportCall → String
  | .separator name => line choice (some separatorAppearance) (separatorLine name)
  | .comparison c =>
      String.join (c.rendered.map (fun (style, text) => line choice (appearance style) text))

end TwinRun.Console
