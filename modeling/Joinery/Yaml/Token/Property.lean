import Joinery.Decimal.Reading
import Joinery.Encoding.Utf8
import Joinery.Text.Hex
import Joinery.Yaml.Token.Cursor

/-
  This file takes from YAML text what stands before a node:
  anchors, aliases, tags, and at the top the directives.

  Key definitions include:
    * `takeName`
    * `takeTag`
    * `takeDirective`
-/

namespace Joinery

namespace Yaml

------------------------------------------------------------
-- Anchors And Aliases
------------------------------------------------------------

/- A character that may follow the name of an anchor or alias. -/
def endsAnchor
    (c : Char) : Bool :=
  isBlankOrEnd c || c == '?' || c == ':' || c == ',' || c == ']' ||
    c == '\x7d' || c == '%' || c == '@' || c.toNat == 0x60

/- The name of an anchor or alias, after its indicator. -/
def takeName : Scan String := do
  forward 1
  let name ← takeWhile isNameChar
  if name = "" || !endsAnchor (← peek 0) then
    malformed "expected alphabetic or numeric character"
  return name

------------------------------------------------------------
-- Tags
------------------------------------------------------------

/- A character of a tag. -/
def isTagChar
    (c : Char) : Bool :=
  isNameChar c || "-;/?:@&=+$,_.!~*'()[]%".toList.contains c

/- The value of the hexadecimal digit so many places ahead. -/
def hexAhead
    (ahead : Nat) : Scan Nat := do
  match Text.hexValue? (← peek ahead) with
  | some n => return n
  | none => malformed "expected a hexadecimal digit"

/-
  The bytes at the front that are written as percent
  escapes, at most one per character.
-/
def escapedBytes : List Char → Scan (List UInt8)
  | [] => return []
  | _ :: text => do
      if (← peek 0) == '%' then
        forward 1
        let high ← hexAhead 0
        let low ← hexAhead 1
        forward 2
        return (16 * high + low).toUInt8 :: (← escapedBytes text)
      else return []

/- The characters of a tag, percent escapes decoded. -/
def tagChars : List Char → Scan String
  | [] => return ""
  | _ :: text => do
      let run ← takeWhile fun c => isTagChar c && c != '%'
      if (← peek 0) == '%' then
        let bytes ← escapedBytes (← get).rest
        match Encoding.decodeUtf8? bytes with
        | some cs =>
            return run ++ String.ofList cs ++ (← tagChars text)
        | none => malformed "invalid percent escapes"
      else return run

/- The text of a tag, which must not be empty. -/
def takeTagText : Scan String := do
  let before := (← get).index
  let text ← tagChars (endMark :: (← get).rest)
  if (← get).index = before then malformed "expected a tag"
  return text

/- A tag handle: an exclamation mark, or a name between two. -/
def takeHandle : Scan String := do
  if (← peek 0) != '!' then malformed "expected an exclamation mark"
  forward 1
  if (← peek 0) == ' ' then return "!"
  else
    let name ← takeWhile isNameChar
    if (← peek 0) != '!' then malformed "expected an exclamation mark"
    forward 1
    return "!" ++ name ++ "!"

/- A tag has a handle if an exclamation mark comes before any blank. -/
def hasHandle : Scan Bool := do
  let after := (← get).rest.drop 1
  let ends (c : Char) : Bool := c == '!' || isSpaceOrEnd c
  return (← peek (1 + (after.takeWhile fun c => !ends c).length)) == '!'

/- A tag: in angle brackets, alone, or with a handle. -/
def takeTag : Scan Token := do
  let next ← peek 1
  let token ← if next == '<' then do
      forward 2
      let text ← takeTagText
      if (← peek 0) != '>' then malformed "expected a bracket"
      forward 1
      pure (Token.tag none text)
    else if isBlankOrEnd next then do
      forward 1
      pure (Token.tag none "!")
    else if ← hasHandle then do
      let handle ← takeHandle
      pure (Token.tag (some handle) (← takeTagText))
    else do
      forward 1
      pure (Token.tag (some "!") (← takeTagText))
  if !isSpaceOrEnd (← peek 0) then malformed "expected a space"
  return token

------------------------------------------------------------
-- Directives
------------------------------------------------------------

/- A number of a version. It has a limit on its length. -/
def takeVersionNumber : Scan Nat := do
  let cs := (← get).rest.takeWhile fun c => '0' ≤ c && c ≤ '9'
  let _ ← peek cs.length
  if cs.isEmpty then malformed "expected a digit"
  if Decimal.digitLimit < cs.length then
    throw (.numeralTooLong cs.length)
  forward cs.length
  return Decimal.naturalOf cs

/- The version that a document is written in. -/
def takeVersion : Scan Token := do
  skipWhile (· == ' ')
  let major ← takeVersionNumber
  if (← peek 0) != '.' then malformed "expected a digit or a point"
  forward 1
  let minor ← takeVersionNumber
  if !isSpaceOrEnd (← peek 0) then malformed "expected a digit or a space"
  return .versionDirective major minor

/- A shorthand for the beginning of tags. -/
def takeShorthand : Scan Token := do
  skipWhile (· == ' ')
  let handle ← takeHandle
  if (← peek 0) != ' ' then malformed "expected a space"
  skipWhile (· == ' ')
  let text ← takeTagText
  if !isSpaceOrEnd (← peek 0) then malformed "expected a space"
  return .tagDirective handle text

/- A directive: of a version, of a shorthand, or unknown. -/
def takeDirective : Scan Token := do
  forward 1
  let name ← takeWhile isNameChar
  if name = "" || !isSpaceOrEnd (← peek 0) then
    malformed "expected a directive name"
  let token ← if name = "YAML" then takeVersion
    else if name = "TAG" then takeShorthand
    else do
      skipWhile fun c => !isLineEnd c
      pure Token.otherDirective
  restOfLine
  return token

end Yaml

end Joinery
