/-
  This file holds what the command says about its use.

  Key definitions include:
    * `usage`
    * `help`
-/

namespace Joinery

namespace Command

/- The name of the command. -/
def name : String := "cut-dado"

/- The shape of a command line. -/
def usage : String :=
  String.join
    [ "usage: cut-dado [-h] [--config CONFIG] [--output OUTPUT] ",
      "[--tree]\n",
      "                [--log-level \x7bDEBUG,INFO,WARNING,ERROR\x7d] ",
      "[--log-json]\n" ]

/- What every switch does. -/
def help : String :=
  usage ++ String.join
    [ "\n",
      "Generate G-code for a dado joint\n",
      "\n",
      "options:\n",
      "  -h, --help            show this help message and exit\n",
      "  --config CONFIG, -c CONFIG\n",
      "                        Job file path ",
      "(default: shipped dado.yaml)\n",
      "  --output OUTPUT, -o OUTPUT\n",
      "                        Write G-code to this file ",
      "instead of stdout\n",
      "  --tree                Print the nested program structure ",
      "instead of G-code\n",
      "  --log-level \x7bDEBUG,INFO,WARNING,ERROR\x7d\n",
      "                        Override the logging level ",
      "from the job file\n",
      "  --log-json            Emit logs as JSON lines\n" ]

end Command

end Joinery
