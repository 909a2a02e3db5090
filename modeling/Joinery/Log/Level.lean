import Joinery.Text.Basic

/-
  This file names the levels of log records.

  Key definitions include:
    * `Level.numbers`
    * `Level.number?`
    * `Level.name`
-/

namespace Joinery

namespace Level

/- The names of levels and their numbers. -/
def numbers : List (String × Int) :=
  [ ("CRITICAL", 50), ("FATAL", 50), ("ERROR", 40), ("WARN", 30),
    ("WARNING", 30), ("INFO", 20), ("DEBUG", 10), ("NOTSET", 0) ]

/- The number of a level by its name, in capitals. -/
def number?
    (name : Text) : Option Int :=
  name.string?.bind fun s => numbers.lookup s

/- The name of a level by its number. -/
def name : Int → String
  | 50 => "CRITICAL"
  | 40 => "ERROR"
  | 30 => "WARNING"
  | 20 => "INFO"
  | 10 => "DEBUG"
  | 0 => "NOTSET"
  | n => s!"Level {n}"

end Level

end Joinery
