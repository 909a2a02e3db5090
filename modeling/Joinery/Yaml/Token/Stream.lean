import Joinery.Yaml.Token.Scalar

/-
  This file cuts YAML text into tokens.

  Block structure is not written with marks of its own: a
  block begins where the indentation grows, and ends where
  it shrinks. A key is known only by the colon after it, so
  the places where one may have begun are remembered.

  Tokens are cut on demand. One that may still turn out to
  be a key is held back until that is decided.

  Key definitions include:
    * `takeToken`
    * `settle`
    * `nextToken`
    * `dropToken`
-/

namespace Joinery

namespace Yaml

------------------------------------------------------------
-- Keys That May Have Begun
------------------------------------------------------------

/- Forget the place where a key of the innermost level may have begun. -/
def dropKey : Scan Unit := do
  let cursor ← get
  match cursor.keys.lookup cursor.flow with
  | some key =>
      if key.required then malformed "could not find expected ':'"
      set { cursor with
        keys := cursor.keys.filter fun e => e.1 != cursor.flow }
  | none => return

/- Remember that a key may begin here. -/
def noteKey : Scan Unit := do
  if (← get).allowKey then
    dropKey
    modify fun cursor =>
      let key : SimpleKey :=
        { tokens := cursor.found
          required :=
            cursor.flow = 0 && decide (cursor.indent = cursor.column)
          index := cursor.index
          line := cursor.line
          column := cursor.column }
      { cursor with keys := (cursor.flow, key) :: cursor.keys }

/- The longest key, in characters. -/
def longestKey : Nat := 1024

/- A key must end on the line on which it began, and not be too long. -/
def dropStaleKeys : Scan Unit := do
  let cursor ← get
  let stale (key : SimpleKey) : Bool :=
    key.line != cursor.line || longestKey < cursor.index - key.index
  if cursor.keys.any fun e => stale e.2 && e.2.required then
    malformed "could not find expected ':'"
  set { cursor with keys := cursor.keys.filter fun e => !stale e.2 }

------------------------------------------------------------
-- Blocks
------------------------------------------------------------

/- End the blocks that are indented further than a column. -/
def endBlocks
    (column : Int) : List Int → Scan Unit
  | [] => return
  | outer :: others => do
      if column < (← get).indent then
        emit .blockEnd
        modify fun cursor =>
          { cursor with indent := outer, indents := others }
        endBlocks column others

/- End the blocks that a column lies outside of. -/
def unwind
    (column : Int) : Scan Unit := do
  if (← get).flow = 0 then endBlocks column (← get).indents

/- Put a token before a token found earlier. -/
def insertAt
    (place : Nat)
    (token : Token) : Scan Unit :=
  modify fun cursor =>
    let count := place - cursor.taken
    { cursor with
      waiting :=
        cursor.waiting.take count ++ token :: cursor.waiting.drop count }

/- Begin a block at a column, if it lies further in than the open ones. -/
def beginBlock
    (column place : Nat)
    (token : Token) : Scan Unit := do
  let cursor ← get
  if cursor.indent < column then
    set { cursor with
      indent := column, indents := cursor.indent :: cursor.indents }
    insertAt place token

/- Begin a block here, where one must be allowed to begin. -/
def beginBlockHere
    (token : Token) : Scan Unit := do
  let cursor ← get
  if cursor.flow = 0 then
    if !cursor.allowKey then malformed "a block is not allowed here"
    beginBlock cursor.column cursor.found token

/- Say whether a key may begin after what comes next. -/
def allowKey
    (allow : Bool) : Scan Unit :=
  modify fun cursor => { cursor with allowKey := allow }

------------------------------------------------------------
-- Marks
------------------------------------------------------------

/- The end of the text ends everything. -/
def takeStreamEnd : Scan Unit := do
  unwind (-1)
  dropKey
  modify fun cursor =>
    { cursor with allowKey := false, keys := [], ended := true }
  emit .streamEnd

/- A token at the margin ends all blocks. -/
def takeAtMargin
    (take : Scan Token) : Scan Unit := do
  unwind (-1)
  dropKey
  allowKey false
  emit (← take)

/- The mark at the beginning or the end of a document. -/
def takeDocumentMark
    (token : Token) : Scan Unit :=
  takeAtMargin do
    forward 3
    return token

/- The beginning of a flow collection may be a key. -/
def takeFlowStart
    (token : Token) : Scan Unit := do
  noteKey
  modify fun cursor => { cursor with flow := cursor.flow + 1 }
  allowKey true
  forward 1
  emit token

/- The end of a flow collection, which must be open. -/
def takeFlowEnd
    (token : Token) : Scan Unit := do
  dropKey
  if (← get).flow = 0 then malformed "expected the node content"
  modify fun cursor => { cursor with flow := cursor.flow - 1 }
  allowKey false
  forward 1
  emit token

/- The comma between the items of a flow collection. -/
def takeFlowEntry : Scan Unit := do
  allowKey true
  dropKey
  forward 1
  emit .flowEntry

/- The dash before an item of a block. -/
def takeBlockEntry : Scan Unit := do
  beginBlockHere .blockSequenceStart
  allowKey true
  dropKey
  forward 1
  emit .blockEntry

/- The question mark before a key. -/
def takeKey : Scan Unit := do
  beginBlockHere .blockMappingStart
  allowKey ((← get).flow = 0)
  dropKey
  forward 1
  emit .key

/- The colon after a key that was marked, or that is missing. -/
def takeValueAlone : Scan Unit := do
  beginBlockHere .blockMappingStart
  allowKey ((← get).flow = 0)
  dropKey

/- The colon after a key that was not marked. -/
def takeValueAfter
    (key : SimpleKey) : Scan Unit := do
  modify fun cursor =>
    { cursor with keys := cursor.keys.filter fun e => e.1 != cursor.flow }
  insertAt key.tokens .key
  if (← get).flow = 0 then
    beginBlock key.column key.tokens .blockMappingStart
  allowKey false

/- The colon before a value. -/
def takeValue : Scan Unit := do
  let cursor ← get
  match cursor.keys.lookup cursor.flow with
  | some key => takeValueAfter key
  | none => takeValueAlone
  forward 1
  emit .value

/- A node that may be a key. -/
def takeNode
    (take : Scan Token) : Scan Unit := do
  noteKey
  allowKey false
  emit (← take)

/- A block scalar is never a key. -/
def takeBlockScalar
    (fold : Bool) : Scan Unit := do
  allowKey true
  dropKey
  emit (← takeBlock fold)

------------------------------------------------------------
-- The Next Token
------------------------------------------------------------

/- Skip blanks, comments, and line breaks. -/
def skipToToken : Scan Unit := do
  let c ← peek 0
  if (← get).index = 0 ∧ c.toNat = 0xfeff then forward 1
  looping do
    skipWhile (· == ' ')
    if (← peek 0) == '#' then skipWhile fun c => !isLineEnd c
    let broken ← lineBreak
    if broken = "" then return false
    if (← get).flow = 0 then allowKey true
    return true

/- The indicators that begin no plain scalar. -/
def indicators : List Char :=
  "-?:,[]\x7b\x7d#&*!|>'\x22%@".toList ++ [Char.ofNat 0x60]

/- A character at which a plain scalar may begin, given the next one. -/
def beginsPlain
    (flow : Bool)
    (c next : Char) : Bool :=
  (!isBlankOrEnd c && !indicators.contains c) ||
    (!isBlankOrEnd next &&
      (c == '-' || (!flow && (c == '?' || c == ':'))))

/- A mark of a document at the margin. -/
def atMarginMark : Scan Bool := do
  let c ← peek 0
  if (← get).column = 0 && (c == '-' || c == '.') then atDocumentMark
  else return false

/- Take the next token. -/
def takeToken : Scan Unit := do
  skipToToken
  dropStaleKeys
  unwind (← get).column
  let cursor ← get
  let flow := cursor.flow ≠ 0
  let c ← peek 0
  let next ← peek 1
  let apart := flow || isBlankOrEnd next
  let mark ← atMarginMark
  if c == endMark then takeStreamEnd
  else if c == '%' && cursor.column = 0 then takeAtMargin takeDirective
  else if c == '-' && mark then takeDocumentMark .documentStart
  else if c == '.' && mark then takeDocumentMark .documentEnd
  else if c == '[' then takeFlowStart .flowSequenceStart
  else if c == '\x7b' then takeFlowStart .flowMappingStart
  else if c == ']' then takeFlowEnd .flowSequenceEnd
  else if c == '\x7d' then takeFlowEnd .flowMappingEnd
  else if c == ',' then takeFlowEntry
  else if c == '-' && isBlankOrEnd next then takeBlockEntry
  else if c == '?' && apart then takeKey
  else if c == ':' && apart then takeValue
  else if c == '*' then takeNode do return .alias (← takeName)
  else if c == '&' then takeNode do return .anchor (← takeName)
  else if c == '!' then takeNode takeTag
  else if c == '|' && !flow then takeBlockScalar false
  else if c == '>' && !flow then takeBlockScalar true
  else if c == '\x27' then takeNode (takeQuoted false)
  else if c == '\x22' then takeNode (takeQuoted true)
  else if beginsPlain flow c next then takeNode takePlain
  else malformed "found character that cannot start any token"

------------------------------------------------------------
-- Tokens On Demand
------------------------------------------------------------

/- How many tokens come before the first that may be a key. -/
def firstKey?
    (cursor : Cursor) : Option Nat :=
  (cursor.keys.map fun e => e.2.tokens).min?

/- Nothing can come before the first token any more. -/
def isSettled : Scan Bool := do
  if (← get).ended then return true
  else if (← get).waiting.isEmpty then return false
  else
    dropStaleKeys
    let cursor ← get
    return firstKey? cursor ≠ some cursor.taken

/- Cut tokens until the first one is settled. -/
def settle : Scan Unit :=
  looping do
    if ← isSettled then return false
    else
      takeToken
      return true

/- The next token. -/
def nextToken : Scan Token := do
  settle
  match (← get).waiting with
  | token :: _ => return token
  | [] => malformed "expected a token"

/- Take the next token, which is settled. -/
def dropToken : Scan Unit :=
  modify fun cursor =>
    { cursor with
      waiting := cursor.waiting.drop 1, taken := cursor.taken + 1 }

end Yaml

end Joinery
