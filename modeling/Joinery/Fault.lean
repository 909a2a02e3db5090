import Joinery.Config.Fault
import Joinery.FileTree.Fault

/-
  This file names everything that can go wrong, sorts it
  into families, and words it.

  Key definitions include:
    * `Family`
    * `Fault`
    * `Fault.family`
    * `Fault.message`
    * `Fault.reported`
-/

namespace Joinery

------------------------------------------------------------
-- Families
------------------------------------------------------------

/- The families of faults. Callers handle faults by family. -/
inductive Family where
  | kind
  | member
  | value
  | key
  | index
  | overflow
  | zeroDivision
  | decimal
  | encoding
  | decoding
  | conversion
  | compile
  | operand
  | runtime
  | config
  | markup
  | recursion
  | missingFile
  | existingFile
  | directory
  | notDirectory
  | system
  deriving DecidableEq, Repr

namespace Family

/- Faults of a value that has the right kind but cannot be used. -/
def isValue : Family → Bool
  | .value | .encoding | .decoding | .conversion => true
  | _ => false

/- Faults of a program that cannot be compiled. -/
def isCompile : Family → Bool
  | .compile | .operand => true
  | _ => false

/- Faults that the file system reports. -/
def isSystem : Family → Bool
  | .missingFile | .existingFile | .directory | .notDirectory
  | .system => true
  | _ => false

end Family

------------------------------------------------------------
-- Parts Of A Moment
------------------------------------------------------------

/- The parts of a moment that have a range. -/
inductive ClockPart where
  | month
  | day
  | hour
  | minute
  | second
  deriving DecidableEq, Repr

/- What is said of a part outside its range. -/
def ClockPart.message : ClockPart → String
  | .month => "month must be in 1..12"
  | .day => "day is out of range for month"
  | .hour => "hour must be in 0..23"
  | .minute => "minute must be in 0..59"
  | .second => "second must be in 0..59"

------------------------------------------------------------
-- Faults
------------------------------------------------------------

/- Everything that can go wrong, by cause. -/
inductive Fault where
  /- A token or an instruction needs a name. -/
  | emptyToken
  | emptyMnemonic
  /- A value lacks what an operation asks of its kind. -/
  | noAttribute
      (kind member : String)
  | notNumber
      (kind : String)
  | notOrdered
      (left right : String)
  | dayAgainstMoment
  | offsetOnOneSide
  | notHashable
      (kind : String)
  | notIterable
      (kind : String)
  | noLength
      (kind : String)
  | notTextItem
      (index : Nat)
      (kind : String)
  | unknownSetting
      (name : Text)
  /- Text that is no numeral, and integers too long for text. -/
  | notNumeral
      (kind : String)
  | badNumeral
      (raw : Value)
  | numeralTooLong
      (digits : Nat)
  | integerTooLong
  /- Numbers without the asked form. -/
  | integerBeyondDouble
  | quotientBeyondDouble
  | infinityToInteger
  | nanToInteger
  | noDecimalForm
  | divisionByZero
  /- Units, modes, and conversions. -/
  | notUnit
      (v : Value)
  | notPositioning
      (v : Value)
  | noConversion
      (unit amount target : Value)
  /- Programs. -/
  | raised
      (message : Text)
  | unsupportedOperation
      (kind : String)
  | unknownOperand
      (operand : Value)
  /- Dados. -/
  | cutterNotPositive
      (v : Value)
  | feedNotPositive
      (v : Value)
  | toleranceNegative
      (v : Value)
  | depthsNotFinite
      (radius width : Value)
  | radiusNotPositive
      (radius : Value)
  | tooManyPasses
      (width radius : Value)
      (limit : Nat)
  /- Job files. -/
  | config
      (problem : ConfigFault)
  | configMissing
      (path : Text)
  | markupMissing
      (path : Text)
  | markup
      (problem : String)
  | tooDeep
  | codePointBeyondUnicode
  | codePointBeyondWord
  | emptyNumber
  | noScope
  | notScalar
  | unknownWord
      (word : Text)
  | badInteger
      (base : Nat)
      (text : Text)
  | badClock
      (part : ClockPart)
  | offsetTooLarge
      (offset : Int)
  /- Files. -/
  | file
      (fault : FileFault)
      (path : Text)
      (target : Option Text)
  | writeFailed
      (path cause : Text)
  | noFileName
      (path : Text)
  | invalidSuffix
      (suffix : Text)
  | nullInPath
  | notPath
      (kind : String)
  | notEncodable
      (encoding : String)
  | notDecodable
  /- Logging. -/
  | unknownLogLevel
      (level : Text)
  | incompleteDirective
  | incompleteKey
  | unsupportedDirective
      (letter : Letter)
      (index : Nat)
  | missingName
      (name : Text)
  | characterBeyondUnicode
  | sizeBeyondWord
  | widthTooBig
  | placesTooMany
  | messageArguments
      (problem : String)
  | nanTime
  | timeBeyondClock
  | timeBeyondCalendar
  | yearOutOfRange
      (year : Int)
  | notJson
      (kind : String)

namespace Fault

/- The family of a file fault. -/
def fileFamily : FileFault → Family
  | .missing => .missingFile
  | .exists => .existingFile
  | .notDirectory => .notDirectory
  | .isDirectory => .directory
  | .nameTooLong => .system
  | .busy => .system
  | .readOnly => .system

/- The family of a fault. -/
def family : Fault → Family
  | .emptyToken => .value
  | .emptyMnemonic => .value
  | .noAttribute _ _ => .member
  | .notNumber _ => .kind
  | .notOrdered _ _ => .kind
  | .dayAgainstMoment => .kind
  | .offsetOnOneSide => .kind
  | .notHashable _ => .kind
  | .notIterable _ => .kind
  | .noLength _ => .kind
  | .notTextItem _ _ => .kind
  | .unknownSetting _ => .kind
  | .notNumeral _ => .kind
  | .badNumeral _ => .value
  | .numeralTooLong _ => .value
  | .integerTooLong => .value
  | .integerBeyondDouble => .overflow
  | .quotientBeyondDouble => .overflow
  | .infinityToInteger => .overflow
  | .nanToInteger => .value
  | .noDecimalForm => .decimal
  | .divisionByZero => .zeroDivision
  | .notUnit _ => .value
  | .notPositioning _ => .value
  | .noConversion _ _ _ => .conversion
  | .raised _ => .runtime
  | .unsupportedOperation _ => .compile
  | .unknownOperand _ => .operand
  | .cutterNotPositive _ => .value
  | .feedNotPositive _ => .value
  | .toleranceNegative _ => .value
  | .depthsNotFinite _ _ => .value
  | .radiusNotPositive _ => .value
  | .tooManyPasses _ _ _ => .value
  | .config _ => .config
  | .configMissing _ => .missingFile
  | .markupMissing _ => .missingFile
  | .markup _ => .markup
  | .tooDeep => .recursion
  | .codePointBeyondUnicode => .value
  | .codePointBeyondWord => .overflow
  | .emptyNumber => .index
  | .noScope => .index
  | .notScalar => .kind
  | .unknownWord _ => .key
  | .badInteger _ _ => .value
  | .badClock _ => .value
  | .offsetTooLarge _ => .value
  | .file fault _ _ => fileFamily fault
  | .writeFailed _ _ => .runtime
  | .noFileName _ => .value
  | .invalidSuffix _ => .value
  | .nullInPath => .value
  | .notPath _ => .kind
  | .notEncodable _ => .encoding
  | .notDecodable => .decoding
  | .unknownLogLevel _ => .value
  | .incompleteDirective => .value
  | .incompleteKey => .value
  | .unsupportedDirective _ _ => .value
  | .missingName _ => .key
  | .characterBeyondUnicode => .overflow
  | .sizeBeyondWord => .overflow
  | .widthTooBig => .value
  | .placesTooMany => .value
  | .messageArguments _ => .kind
  | .nanTime => .value
  | .timeBeyondClock => .overflow
  | .timeBeyondCalendar => .system
  | .yearOutOfRange _ => .value
  | .notJson _ => .kind

/- The advice that follows a refusal to handle a long integer. -/
def lengthAdvice : String :=
  "use sys.set_int_max_str_digits() to increase the limit"

/- The limit on the length of integers in text. -/
def lengthLimit : String :=
  s!"Exceeds the limit ({Decimal.digitLimit} digits) " ++
    "for integer string conversion"

/- How much of a text that is no integer is shown. -/
def longestShown : Nat := 200

/- The wording of a fault. -/
def message : Fault → Text
  | .emptyToken => "Token name must be non-empty"
  | .emptyMnemonic => "Instruction mnemonic must be non-empty"
  | .noAttribute kind member =>
      s!"'{kind}' object has no attribute '{member}'"
  | .notNumber kind => s!"must be real number, not {kind}"
  | .notOrdered left right =>
      s!"'<' not supported between instances of '{left}' and '{right}'"
  | .dayAgainstMoment =>
      "can't compare datetime.datetime to datetime.date"
  | .offsetOnOneSide =>
      "can't compare offset-naive and offset-aware datetimes"
  | .notHashable kind => s!"unhashable type: '{kind}'"
  | .notIterable kind => s!"'{kind}' object is not iterable"
  | .noLength kind => s!"object of type '{kind}' has no len()"
  | .notTextItem index kind =>
      s!"sequence item {index}: expected str instance, {kind} found"
  | .unknownSetting name =>
      "unexpected keyword argument '" ++ name ++ "'"
  | .notNumeral kind =>
      "float() argument must be a string or a real number, " ++
        s!"not '{kind}'"
  | .badNumeral raw =>
      s!"could not convert string to float: {raw.shown}"
  | .numeralTooLong digits =>
      s!"{lengthLimit}: value has {digits} digits; {lengthAdvice}"
  | .integerTooLong => s!"{lengthLimit}; {lengthAdvice}"
  | .integerBeyondDouble => "int too large to convert to float"
  | .quotientBeyondDouble =>
      "integer division result too large for a float"
  | .infinityToInteger => "cannot convert float infinity to integer"
  | .nanToInteger => "cannot convert float NaN to integer"
  | .noDecimalForm => "invalid operation"
  | .divisionByZero => "division by zero"
  | .notUnit v => s!"{v.shown} is not a valid Unit"
  | .notPositioning v => s!"{v.shown} is not a valid Positioning"
  | .noConversion unit amount target =>
      s!"Unrecognized conversion: {amount.shown} {unit.shown} -> " ++
        target.shown
  | .raised message => message
  | .unsupportedOperation kind => s!"Unsupported operation: {kind}"
  | .unknownOperand operand => s!"Unrecognized operand {operand.shown}"
  | .cutterNotPositive v =>
      "cutter_diameter must be positive, got " ++ v.plain
  | .feedNotPositive v =>
      "retract_feed must be positive, got " ++ v.plain
  | .toleranceNegative v =>
      "depth_tolerance must be >= 0, got " ++ v.plain
  | .depthsNotFinite radius width =>
      "Depths need finite values, got bit_radius=" ++ radius.plain ++
        ", dado_width=" ++ width.plain
  | .radiusNotPositive radius =>
      "bit_radius must be positive, got " ++ radius.plain
  | .tooManyPasses width radius limit =>
      "Dado of width " ++ width.plain ++ " with bit radius " ++
        radius.plain ++ s!" needs more than {limit} passes"
  | .config problem => problem.message
  | .configMissing path => "Configuration file not found: " ++ path
  | .markupMissing path => "YAML file not found: " ++ path
  | .markup problem => problem
  | .tooDeep => "maximum recursion depth exceeded"
  | .codePointBeyondUnicode => "chr() arg not in range(0x110000)"
  | .codePointBeyondWord => "signed integer is greater than maximum"
  | .emptyNumber => "string index out of range"
  | .noScope => "no scope is open"
  | .notScalar => "expected string or bytes-like object, got 'list'"
  | .unknownWord word => Text.quoted word
  | .badInteger base text =>
      let shown := (Text.quoted text).toList.take longestShown
      s!"invalid literal for int() with base {base}: " ++
        String.ofList shown
  | .badClock part => part.message
  | .offsetTooLarge offset =>
      "offset must be a timedelta strictly between " ++
        "-timedelta(hours=24) and timedelta(hours=24), not " ++
        Value.durationShown offset ++ "."
  | .file fault path target => fault.message path target
  | .writeFailed path cause =>
      "Failed to write " ++ path ++ " atomically: " ++ cause
  | .noFileName path =>
      s!"PosixPath({Text.quoted path}) has an empty name"
  | .invalidSuffix suffix => s!"Invalid suffix {Text.quoted suffix}"
  | .nullInPath => "embedded null byte"
  | .notPath kind =>
      s!"expected str, bytes or os.PathLike object, not {kind}"
  | .notEncodable encoding => s!"'{encoding}' codec can't encode"
  | .notDecodable => "'utf-8' codec can't decode"
  | .unknownLogLevel level => "Unknown log level: " ++ level
  | .incompleteDirective => "incomplete format"
  | .incompleteKey => "incomplete format key"
  | .unsupportedDirective letter index =>
      let shown :=
        if 31 ≤ letter.code ∧ letter.code < 127 then letter.toChar
        else '?'
      s!"unsupported format character '{shown}' (0x" ++
        String.ofList (Text.hexNumber letter.code) ++
        s!") at index {index}"
  | .missingName name => Text.quoted name
  | .characterBeyondUnicode => "%c arg not in range(0x110000)"
  | .sizeBeyondWord => "number too large for a directive"
  | .widthTooBig => "width too big"
  | .placesTooMany => "precision too big"
  | .messageArguments problem => problem
  | .nanTime => "Invalid value NaN (not a number)"
  | .timeBeyondClock => "timestamp out of range for platform time_t"
  | .timeBeyondCalendar =>
      "[Errno 75] Value too large for defined data type"
  | .yearOutOfRange year => s!"year {year} is out of range"
  | .notJson kind =>
      s!"Object of type {kind} is not JSON serializable"

/- The values that the wording of a fault shows. -/
def values : Fault → List Value
  | .badNumeral v => [v]
  | .notUnit v => [v]
  | .notPositioning v => [v]
  | .noConversion unit amount target => [unit, amount, target]
  | .unknownOperand v => [v]
  | .cutterNotPositive v => [v]
  | .feedNotPositive v => [v]
  | .toleranceNegative v => [v]
  | .depthsNotFinite radius width => [radius, width]
  | .radiusNotPositive v => [v]
  | .tooManyPasses width radius _ => [width, radius]
  | .config problem => problem.values
  | _ => []

/-
  The fault that is reported for a cause. Where the wording
  would show an integer that has no text, the report fails
  with that instead.
-/
def reported
    (fault : Fault) : Fault :=
  if fault.values.any Value.unwritable then .integerTooLong
  else fault

end Fault

/- A computation that may fail. -/
abbrev Outcome :=
  Except Fault

/- Fail with a cause, as it is reported. -/
def fail
    {α : Type}
    (fault : Fault) : Outcome α :=
  .error fault.reported

end Joinery
