import Joinery.Yaml.Token.Property

/-
  This file takes scalars from YAML text: plain ones, those
  in quotes, and those in blocks.

  Key definitions include:
    * `takeQuoted`
    * `takePlain`
    * `takeBlock`
-/

namespace Joinery

namespace Yaml

/-
  How a line break inside a scalar is folded, given the line
  breaks after it: a single one becomes a space, and of
  several the first is dropped.
-/
def folded
    (first breaks : String) : String :=
  if first ≠ "\n" then first ++ breaks
  else if breaks = "" then " "
  else breaks

------------------------------------------------------------
-- Quoted Scalars
------------------------------------------------------------

/- What a letter after a backslash stands for. -/
def escapes : List (Char × Char) :=
  [ ('0', '\x00'), ('a', '\x07'), ('b', '\x08'), ('t', '\t'),
    ('\t', '\t'), ('n', '\n'), ('v', '\x0b'), ('f', '\x0c'),
    ('r', '\r'), ('e', '\x1b'), (' ', ' '), ('\x22', '\x22'),
    ('\\', '\\'), ('/', '/'), ('N', '\u0085'), ('_', '\u00a0'),
    ('L', '\u2028'), ('P', '\u2029') ]

/- How many hexadecimal digits follow a letter after a backslash. -/
def codeLengths : List (Char × Nat) :=
  [('x', 2), ('u', 4), ('U', 8)]

/- A code point by its number, which must be that of one. -/
def ofCodePoint
    (code : Nat) : Scan Text := do
  match Letter.ofCode? code with
  | some letter => return .ofLetter letter
  | none =>
      if code < 0x80000000 then throw .codePointBeyondUnicode
      else throw .codePointBeyondWord

/- The number that so many hexadecimal digits ahead denote. -/
def codeAhead
    (length : Nat) : Scan Nat :=
  (List.range length).foldlM
    (fun n k => return 16 * n + (← hexAhead k)) 0

/- The code point that hexadecimal digits at the front denote. -/
def takeCode
    (length : Nat) : Scan Text := do
  let text ← ofCodePoint (← codeAhead length)
  forward length
  return text

/-
  The empty lines inside a scalar in quotes, at most one per
  character.
-/
def quotedBreaks : List Char → Scan String
  | [] => return ""
  | _ :: text => do
      if ← atDocumentMark then
        malformed "found unexpected document separator"
      skipWhile fun c => c == ' ' || c == '\t'
      if isBreak (← peek 0) then
        let first ← lineBreak
        return first ++ (← quotedBreaks text)
      else return ""

/- As many empty lines as there are. -/
def allQuotedBreaks : Scan String := do
  quotedBreaks (endMark :: (← get).rest)

/- What follows a backslash in double quotes. -/
def takeEscape : Scan Text := do
  let c ← peek 0
  match escapes.lookup c with
  | some d =>
      forward 1
      return String.singleton d
  | none =>
      match codeLengths.lookup c with
      | some length =>
          forward 1
          takeCode length
      | none =>
          if isBreak c then
            let _ ← lineBreak
            return (← allQuotedBreaks)
          else malformed "found unknown escape character"

/- A character that ends a run of ordinary ones inside quotes. -/
def endsQuotedRun
    (c : Char) : Bool :=
  c == '\x27' || c == '\x22' || c == '\\' || isBlankOrEnd c

/- Two quotes in a row, which stand for one. -/
def atTwinQuote : Scan Bool := do
  if (← peek 0) == '\x27' then return (← peek 1) == '\x27'
  else return false

/- A sign that quotes of one kind protect from those of the other. -/
def isProtected
    (double : Bool)
    (c : Char) : Bool :=
  if double then c == '\x27' else c == '\x22' || c == '\\'

/- The characters of a scalar in quotes up to a blank or the end. -/
def quotedRuns
    (double : Bool) : List Char → Scan Text
  | [] => return ""
  | _ :: text => do
      let run ← takeWhile fun c => !endsQuotedRun c
      let c ← peek 0
      let twin ← if double then pure false else atTwinQuote
      if twin then
        forward 2
        return run ++ "'" ++ (← quotedRuns double text)
      else if isProtected double c then
        forward 1
        return run ++ String.singleton c ++ (← quotedRuns double text)
      else if double && c == '\\' then
        forward 1
        let escaped ← takeEscape
        return run ++ escaped ++ (← quotedRuns double text)
      else return run

/- The blanks inside a scalar in quotes; line breaks are folded. -/
def quotedSpaces : Scan String := do
  let blanks ← takeWhile fun c => c == ' ' || c == '\t'
  let c ← peek 0
  if c == endMark then malformed "found unexpected end of stream"
  else if isBreak c then
    let first ← lineBreak
    return folded first (← allQuotedBreaks)
  else return blanks

/- The parts of a scalar in quotes up to the closing quote. -/
def quotedParts
    (double : Bool)
    (quote : Char) : List Char → Scan Text
  | [] => malformed "found unexpected end of stream"
  | _ :: text => do
      if (← peek 0) == quote then return ""
      else
        let spaces ← quotedSpaces
        let run ← quotedRuns double (endMark :: (← get).rest)
        return spaces ++ run ++ (← quotedParts double quote text)

/- A scalar in single or double quotes. -/
def takeQuoted
    (double : Bool) : Scan Token := do
  let quote := if double then '\x22' else '\x27'
  forward 1
  let first ← quotedRuns double (endMark :: (← get).rest)
  let others ← quotedParts double quote (endMark :: (← get).rest)
  forward 1
  return .scalar (first ++ others) false

------------------------------------------------------------
-- Plain Scalars
------------------------------------------------------------

/- An indicator of flow collections. -/
def isFlowMark
    (c : Char) : Bool :=
  c == ',' || c == '[' || c == ']' || c == '\x7b' || c == '\x7d'

/-
  The length of the run of a plain scalar at the front. A
  colon ends it only before a blank, or inside flow before
  an indicator of flow.
-/
def plainLength
    (flow : Bool) : List Char → Nat
  | [] => 0
  | c :: rest =>
      let next := rest.head?.getD endMark
      if isBlankOrEnd c then 0
      else if c == ':' &&
          (isBlankOrEnd next || (flow && isFlowMark next)) then 0
      else if flow && (isFlowMark c || c == '?') then 0
      else plainLength flow rest + 1

/- The empty lines after a line of a plain scalar. -/
def plainBreaks : List Char → Scan (Option String)
  | [] => return some ""
  | _ :: text => do
      let c ← peek 0
      if c == ' ' then
        forward 1
        plainBreaks text
      else if isBreak c then
        let first ← lineBreak
        if ← atDocumentMark then return none
        else return (← plainBreaks text).map (first ++ ·)
      else return some ""

/-
  The blanks between two runs of a plain scalar, line breaks
  folded; none where the scalar ends.
-/
def plainSpaces : Scan (Option String) := do
  let blanks ← takeWhile (· == ' ')
  if isBreak (← peek 0) then
    let first ← lineBreak
    modify fun cursor => { cursor with allowKey := true }
    if ← atDocumentMark then return none
    else
      let breaks ← plainBreaks (endMark :: (← get).rest)
      return breaks.map (folded first)
  else if blanks = "" then return none
  else return some blanks

/- The runs of a plain scalar, after the blanks before the first. -/
def plainRuns
    (indent : Int)
    (spaces : String) : List Char → Scan String
  | [] => return ""
  | _ :: text => do
      let cursor ← get
      let flow := cursor.flow ≠ 0
      let length := plainLength flow cursor.rest
      let _ ← peek length
      if (← peek 0) == '#' || length = 0 then return ""
      let run := String.ofList (cursor.rest.take length)
      modify fun cursor => { cursor with allowKey := false }
      forward length
      match ← plainSpaces with
      | none => return spaces ++ run
      | some more =>
          let outdented := !flow && decide ((← get).column < indent)
          if (← peek 0) == '#' || outdented then return spaces ++ run
          else return spaces ++ run ++ (← plainRuns indent more text)

/- A scalar without quotes. -/
def takePlain : Scan Token := do
  let cursor ← get
  let text ← plainRuns (cursor.indent + 1) "" (endMark :: cursor.rest)
  return .scalar text true

------------------------------------------------------------
-- Block Scalars
------------------------------------------------------------

/- What happens to the line breaks at the end of a block scalar. -/
inductive Chomping where
  | strip
  | clip
  | keep
  deriving DecidableEq, Repr

/- A sign that says how to chomp. -/
def takeChomping? : Scan (Option Chomping) := do
  let c ← peek 0
  if c == '+' then
    forward 1
    return some .keep
  else if c == '-' then
    forward 1
    return some .strip
  else return none

/- A digit that says how far a block scalar is indented. -/
def takeIncrement? : Scan (Option Nat) := do
  let c ← peek 0
  if c == '0' then malformed "expected an indentation of 1 to 9"
  else if '1' ≤ c ∧ c ≤ '9' then
    forward 1
    return some (c.toNat - '0'.toNat)
  else return none

/- The sign and the digit of a block scalar, in either order. -/
def blockHeader : Scan (Chomping × Option Nat) := do
  let sign ← takeChomping?
  let digit ← takeIncrement?
  let late ←
    if sign.isNone ∧ digit.isSome then takeChomping? else pure sign
  if !isSpaceOrEnd (← peek 0) then
    malformed "expected chomping or indentation indicators"
  return (late.getD .clip, digit)

/- The empty lines before a block scalar, and their greatest width. -/
def blockMargin
    (breaks : String)
    (widest : Nat) : List Char → Scan (String × Nat)
  | [] => return (breaks, widest)
  | _ :: text => do
      let c ← peek 0
      if c == ' ' then
        forward 1
        blockMargin breaks (max widest (← get).column) text
      else if isBreak c then
        let next ← lineBreak
        blockMargin (breaks ++ next) widest text
      else return (breaks, widest)

/- Spaces up to a column. -/
def skipIndent
    (indent : Int) : Scan Unit := do
  let column := (← get).column
  let spaces := (← get).rest.takeWhile (· == ' ')
  forward (min spaces.length (indent - column).toNat)

/- The empty lines inside a block scalar. -/
def blockBreaks
    (indent : Int) : List Char → Scan String
  | [] => return ""
  | _ :: text => do
      skipIndent indent
      if isBreak (← peek 0) then
        let first ← lineBreak
        return first ++ (← blockBreaks indent text)
      else return ""

/- As many empty lines as there are. -/
def allBlockBreaks
    (indent : Int) : Scan String := do
  blockBreaks indent (endMark :: (← get).rest)

/- A space or a tab. -/
def isInlineBlank
    (c : Char) : Bool :=
  c == ' ' || c == '\t'

/- No line of a block scalar begins here. -/
def atBlockEnd
    (indent : Int) : Scan Bool := do
  if (← get).column ≠ indent then return true
  else return (← peek 0) = endMark

/-
  The lines of a block scalar, its last line break, and the
  empty lines after it. Folding joins two lines unless one
  of them begins with a blank.
-/
def blockLines
    (fold : Bool)
    (indent : Int)
    (text lastBreak breaks : String) :
    List Char → Scan (String × String × String)
  | [] => return (text, lastBreak, breaks)
  | _ :: more => do
      if ← atBlockEnd indent then return (text, lastBreak, breaks)
      let inked := !isInlineBlank (← peek 0)
      let line ← takeWhile fun c => !isLineEnd c
      let first ← lineBreak
      let after ← allBlockBreaks indent
      let here := text ++ breaks ++ line
      if ← atBlockEnd indent then return (here, first, after)
      let joins :=
        fold && first == "\n" && inked && !isInlineBlank (← peek 0)
      let joint :=
        if joins then (if after = "" then " " else "") else first
      blockLines fold indent (here ++ joint) first after more

/- A scalar in a block, folded or not. -/
def takeBlock
    (fold : Bool) : Scan Token := do
  forward 1
  let (chomping, increment) ← blockHeader
  restOfLine
  let least := max 1 ((← get).indent + 1)
  let bound := endMark :: (← get).rest
  let (breaks, indent) ← match increment with
    | none => do
        let (breaks, widest) ← blockMargin "" 0 bound
        pure (breaks, max least widest)
    | some n => do
        let indent := least + n - 1
        pure (← allBlockBreaks indent, indent)
  let (text, lastBreak, after) ←
    blockLines fold indent "" "" breaks bound
  let ending :=
    match chomping with
    | .strip => ""
    | .clip => lastBreak
    | .keep => lastBreak ++ after
  return .scalar (text ++ ending) false

end Yaml

end Joinery
