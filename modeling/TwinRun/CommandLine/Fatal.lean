import TwinRun.Fault
import TwinRun.Text.Wrap

/-!
How a fault that ends the program is shown.

First its class, then the fault, what lies behind it and advice, each with a mark in front and
broken into lines that fit a terminal of eighty columns.
-/

namespace TwinRun.CommandLine.Fatal

def terminalWidth : Nat := 80

def causeText : Fault.Cause → String
  | .system e => e.message
  | .yaml => "not a configuration in YAML"

def lines (f : Fault) : List String :=
  [f.code, ""]
    ++ Wrap.wrap (terminalWidth - 2) "  × " "  │ " f.message
    ++ (f.cause?.map fun c => Wrap.wrap (terminalWidth - 2) "  ╰─▶ " "      " (causeText c)).getD []
    ++ (f.help?.map (Wrap.wrap (terminalWidth - 4) "  help: " "        ")).getD []
    ++ [""]

def text (f : Fault) : String := String.join ((lines f).map (· ++ "\n"))

end TwinRun.CommandLine.Fatal
