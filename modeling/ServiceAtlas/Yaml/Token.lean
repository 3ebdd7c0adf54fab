import ServiceAtlas.Json.Reader
import ServiceAtlas.Text.Encoding
import ServiceAtlas.Yaml.Cursor
import ServiceAtlas.Yaml.Malformation

/-!
The tokens of a YAML text. Indentation opens and closes the blocks of lists and tables; a key is known
by the colon behind it, so that its token is put in front of what was read already.
-/

namespace ServiceAtlas.Yaml

inductive Directive where
  | version (major : Nat)
  | tag (handle lead : String)
  | unknown

inductive Token where
  | directive (d : Directive)
  | documentStart
  | documentEnd
  | streamEnd
  | listStart
  | tableStart
  | blockEnd
  | flowListStart
  | flowListEnd
  | flowTableStart
  | flowTableEnd
  | entry
  | flowEntry
  | key
  | value
  | reference (name : String)
  | anchor (name : String)
  | tag (handle : Option String) (suffix : String)
  | scalar (text : List Char) (isPlain : Bool)
  | fault (m : Malformation)

namespace Token

/-- A place where a key may have begun. `required` says that nothing but a key may stand there. -/
structure Candidate where
  level : Nat
  position : Nat
  required : Bool
  index : Nat
  line : Nat
  column : Nat

/-- What has been read so far, the last token first. The indentations of open blocks stand innermost
first. -/
structure Progress where
  cursor : Cursor
  tokens : List Token
  count : Nat
  level : Nat
  indents : List Nat
  keyAllowed : Bool
  candidates : List Candidate

abbrev Read := StateT Progress (Except Malformation)

def start (cs : List Char) : Progress := ⟨Cursor.start cs, [], 0, 0, [], true, []⟩

def cursor : Read Cursor := return (← get).cursor

def moveTo (c : Cursor) : Read Unit := modify fun p => { p with cursor := c }

def emit (t : Token) : Read Unit :=
  modify fun p => { p with tokens := t :: p.tokens, count := p.count + 1 }

/-- A token in front of those from `position` on. -/
def insertAt (position : Nat) (t : Token) : Read Unit :=
  modify fun p =>
    let behind := p.count - position
    { p with
      tokens := p.tokens.take behind ++ t :: p.tokens.drop behind
      count := p.count + 1 }

def setKeyAllowed (allowed : Bool) : Read Unit := modify fun p => { p with keyAllowed := allowed }

/-- Block contents stand to the right of this column. -/
def Progress.indent (p : Progress) : Int :=
  match p.indents with
  | [] => -1
  | n :: _ => n

/-- Blocks to the right of a column end there. -/
def closeBlocks (column : Int) : Read Unit := do
  let p ← get
  if p.level = 0 then
    let closed := p.indents.takeWhile fun (n : Nat) => column < (n : Int)
    set { p with
      indents := p.indents.drop closed.length
      tokens := closed.map (fun _ => blockEnd) ++ p.tokens
      count := p.count + closed.length }

/-- Whether a block begins at this column. -/
def openBlock (column : Nat) : Read Bool := do
  let p ← get
  if p.indent < column then
    set { p with indents := column :: p.indents }
    return true
  else return false

/-- A key stands on one line and within this many characters. -/
def keyLimit : Nat := 1024

def dropStale : Read Unit := do
  let p ← get
  let stale := fun (k : Candidate) => k.line ≠ p.cursor.line || keyLimit < p.cursor.index - k.index
  if p.candidates.any fun k => stale k && k.required then throw .missingColon
  set { p with candidates := p.candidates.filter fun k => !stale k }

def dropCandidate : Read Unit := do
  let p ← get
  if p.candidates.any fun k => k.level = p.level && k.required then throw .missingColon
  set { p with candidates := p.candidates.filter fun k => k.level ≠ p.level }

def addCandidate : Read Unit := do
  let p ← get
  if p.keyAllowed then
    dropCandidate
    let c := p.cursor
    let required := p.level = 0 && p.indent = (c.column : Int)
    let k : Candidate := ⟨p.level, p.count, required, c.index, c.line, c.column⟩
    modify fun p => { p with candidates := k :: p.candidates }

def isWord (c : Char) : Bool := c.isAlphanum || c = '-' || c = '_'

/-! Directives. -/

def endsDirective (c : Cursor) : Bool := c.atEnd || c.head = ' ' || Cursor.isLineEnd c.head

def readNumber (c : Cursor) : Except Malformation (Nat × Cursor) :=
  match c.run Char.isDigit with
  | [] => .error .directive
  | ds =>
    if Text.digitLimit < ds.length then .error .unreadableNumber
    else .ok (Text.valueOf 10 (Json.digitsOf ds), c.skip ds.length)

def readVersion (c : Cursor) : Except Malformation (Directive × Cursor) := do
  let (major, c) ← readNumber c.skipSpaces
  if c.head ≠ '.' then throw .directive
  let (_, c) ← readNumber c.forward
  if !endsDirective c then throw .directive
  return (.version major, c)

/-- A handle is an exclamation mark, or a word between two. -/
def readHandle (c : Cursor) : Except Malformation (String × Cursor) := do
  if c.head ≠ '!' then throw .tagName
  let inner := c.forward
  if inner.head = ' ' then return ("!", inner)
  let word := inner.run isWord
  let close := inner.skip word.length
  if close.head ≠ '!' then throw .tagName
  return ("!" ++ String.ofList word ++ "!", close.forward)

def isUriChar (c : Char) : Bool := c.isAlphanum || "-;/?:@&=+$,_.!~*'()[]".toList.contains c

/-- The bytes of a run of escapes. -/
def readUriBytes (fuel : Nat) (c : Cursor) : Except Malformation (Text.Bytes × Cursor) :=
  match fuel with
  | 0 => .ok ([], c)
  | fuel + 1 =>
    if c.head ≠ '%' then .ok ([], c)
    else match Text.hexValue? (c.peek 1), Text.hexValue? (c.peek 2) with
      | some a, some b => do
        let (bytes, c) ← readUriBytes fuel (c.skip 3)
        return (.ofNat (16 * a + b) :: bytes, c)
      | _, _ => .error .tagName

def readUriParts (fuel : Nat) (c : Cursor) : Except Malformation (List Char × Cursor) :=
  match fuel with
  | 0 => .ok ([], c)
  | fuel + 1 => do
    if c.head = '%' then
      let (bytes, c) ← readUriBytes c.rest.length c
      match Text.decode bytes with
      | .error _ => throw .tagName
      | .ok cs =>
        let (more, c) ← readUriParts fuel c
        return (cs ++ more, c)
    else
      match c.run isUriChar with
      | [] => return ([], c)
      | cs =>
        let (more, c) ← readUriParts fuel (c.skip cs.length)
        return (cs ++ more, c)

def readUri (c : Cursor) : Except Malformation (String × Cursor) := do
  let (cs, after) ← readUriParts (c.rest.length + 1) c
  if after.index = c.index then throw .tagName
  return (String.ofList cs, after)

def readTagDirective (c : Cursor) : Except Malformation (Directive × Cursor) := do
  let (handle, c) ← readHandle c.skipSpaces
  if c.head ≠ ' ' then throw .directive
  let (lead, c) ← readUri c.skipSpaces
  if !endsDirective c then throw .directive
  return (.tag handle lead, c)

/-- The rest of a line that may hold nothing but a comment. -/
def skipComment (fault : Malformation) (c : Cursor) : Except Malformation Cursor :=
  let c := c.skipSpaces
  let c := if c.head = '#' then c.skipLine else c
  if c.atLineEnd then .ok c.lineBreak.2 else .error fault

def readDirective (c : Cursor) : Except Malformation (Directive × Cursor) := do
  let c := c.forward
  let name := c.run isWord
  if name.isEmpty then throw .directive
  let c := c.skip name.length
  if !endsDirective c then throw .directive
  let (d, c) ← match String.ofList name with
    | "YAML" => readVersion c
    | "TAG" => readTagDirective c
    | _ => pure (.unknown, c.skipLine)
  return (d, ← skipComment .directive c)

/-! Anchors and tags. -/

def readName (c : Cursor) : Except Malformation (String × Cursor) :=
  match c.forward.run isWord with
  | [] => .error .anchorName
  | name =>
    let c := c.forward.skip name.length
    if c.atGap || "?:,]\x7d%@\x60".toList.contains c.head then .ok (String.ofList name, c)
    else .error .anchorName

/-- Whether another exclamation mark comes before the next gap but tabs. -/
def hasHandle (c : Cursor) : Bool :=
  (c.forward.rest.dropWhile fun ch => ch ≠ '!' && ch ≠ ' ' && !Cursor.isLineEnd ch).head? = some '!'

def readTag (c : Cursor) : Except Malformation (Token × Cursor) := do
  let (t, c) ←
    if c.peek 1 = '<' then do
      let (suffix, c) ← readUri (c.skip 2)
      if c.head ≠ '>' then throw .tagName
      pure (Token.tag none suffix, c.forward)
    else if gapNext (c.rest.drop 1) then pure (Token.tag none "!", c.forward)
    else do
      let (handle, c) ← if hasHandle c then readHandle c else pure ("!", c.forward)
      let (suffix, c) ← readUri c
      pure (Token.tag (some handle) suffix, c)
  if !endsDirective c then throw .tagName
  return (t, c)

/-! Blocks of text. -/

/-- What becomes of the line breaks at the end of a block: one, none or all are kept. -/
inductive Chomping where
  | clip
  | strip
  | keep
deriving DecidableEq

def chomping? : Char → Option Chomping
  | '+' => some .keep
  | '-' => some .strip
  | _ => none

def increment? (c : Char) : Except Malformation (Option Nat) :=
  if c = '0' then .error .blockHeader
  else .ok (Text.plainDigit? c)

/-- The two marks behind the indicator, in either order. -/
def readBlockHeader (c : Cursor) : Except Malformation (Chomping × Option Nat × Cursor) := do
  let (chomping, increment, c) ←
    match chomping? c.head with
    | some chomping => do
      let c := c.forward
      match ← increment? c.head with
      | some n => pure (chomping, some n, c.forward)
      | none => pure (chomping, none, c)
    | none => do
      match ← increment? c.head with
      | none => pure (Chomping.clip, none, c)
      | some n =>
        let c := c.forward
        match chomping? c.head with
        | some chomping => pure (chomping, some n, c.forward)
        | none => pure (Chomping.clip, some n, c)
  if !endsDirective c then throw .blockHeader
  return (chomping, increment, c)

/-- Empty lines and blanks in front of a block, with the breaks and the greatest column reached. -/
def leadingLines (fuel : Nat) (c : Cursor) : List Char × Nat × Cursor :=
  match fuel with
  | 0 => ([], 0, c)
  | fuel + 1 =>
    if c.head = ' ' then
      let c := c.forward
      let (breaks, column, after) := leadingLines fuel c
      (breaks, max c.column column, after)
    else if !c.atEnd && Cursor.isLineEnd c.head then
      let (br, c) := c.lineBreak
      let (breaks, column, after) := leadingLines fuel c
      (br ++ breaks, column, after)
    else ([], 0, c)

/-- Blanks up to a column. -/
def skipTo (indent : Nat) (c : Cursor) : Cursor :=
  c.skip (min (indent - c.column) (c.run (· = ' ')).length)

/-- Empty lines of a block, whose text begins at `indent`. -/
def emptyLines (indent fuel : Nat) (c : Cursor) : List Char × Cursor :=
  let c := skipTo indent c
  match fuel with
  | 0 => ([], c)
  | fuel + 1 =>
    if !c.atEnd && Cursor.isLineEnd c.head then
      let (br, c) := c.lineBreak
      let (breaks, c) := emptyLines indent fuel c
      (br ++ breaks, c)
    else ([], c)

def isBlankOrTab (c : Char) : Bool := c = ' ' || c = '\t'

/-- The lines of a block, with the last line break and the empty lines behind it. -/
def blockLines (folded : Bool) (indent fuel : Nat) (breaks : List Char) (c : Cursor) :
    List Char × List Char × List Char × Cursor :=
  match fuel with
  | 0 => ([], [], breaks, c)
  | fuel + 1 =>
    if c.column ≠ indent || c.atEnd then ([], [], breaks, c)
    else
      let dense := !isBlankOrTab c.head
      let line := c.run fun ch => !Cursor.isLineEnd ch
      let (br, after) := (c.skip line.length).lineBreak
      let (more, next) := emptyLines indent after.rest.length after
      if next.column = indent && !next.atEnd then
        let between :=
          if folded && br == ['\n'] && dense && !isBlankOrTab next.head then
            if more.isEmpty then [' '] else []
          else br
        let (text, last, tail, c) := blockLines folded indent fuel more next
        (breaks ++ line ++ between ++ text, last, tail, c)
      else (breaks ++ line, br, more, next)

def readBlock (outer : Int) (folded : Bool) (c : Cursor) :
    Except Malformation (List Char × Cursor) := do
  let (chomping, increment, c) ← readBlockHeader c.forward
  let c ← skipComment .blockHeader c
  let least := (max (outer + 1) 1).toNat
  let (breaks, indent, c) := match increment with
    | none =>
      let (breaks, column, c) := leadingLines c.rest.length c
      (breaks, max least column, c)
    | some n =>
      let indent := least + n - 1
      let (breaks, c) := emptyLines indent c.rest.length c
      (breaks, indent, c)
  let (text, last, tail, c) := blockLines folded indent (c.rest.length + 1) breaks c
  let ending := match chomping with
    | .strip => []
    | .clip => last
    | .keep => last ++ tail
  return (text ++ ending, c)

/-! Quoted text. -/

def escapes : List (Char × Char) :=
  [('0', '\x00'), ('a', '\x07'), ('b', '\x08'), ('t', '\t'), ('\t', '\t'), ('n', '\n'),
    ('v', '\x0b'), ('f', '\x0c'), ('r', '\r'), ('e', '\x1b'), (' ', ' '), ('"', '"'),
    ('\\', '\\'), ('/', '/'), ('N', '\u0085'), ('_', '\u00A0'), ('L', '\u2028'), ('P', '\u2029')]

def hexWidths : List (Char × Nat) := [('x', 2), ('u', 4), ('U', 8)]

/-- Line breaks and blanks inside quoted text, which may hold no document separator. -/
def quotedBreaks (fuel : Nat) (c : Cursor) : Except Malformation (List Char × Cursor) :=
  match fuel with
  | 0 => .ok ([], c)
  | fuel + 1 => do
    if c.atSeparator then throw .separatorInText
    let c := c.skipWhile isBlankOrTab
    if !c.atEnd && Cursor.isLineEnd c.head then
      let (br, c) := c.lineBreak
      let (breaks, c) ← quotedBreaks fuel c
      return (br ++ breaks, c)
    else return ([], c)

def readEscape (c : Cursor) : Except Malformation (List Char × Cursor) := do
  match escapes.lookup c.head, hexWidths.lookup c.head with
  | some ch, _ => return ([ch], c.forward)
  | none, some width =>
    let digits := (c.forward.rest.take width).filterMap Text.hexValue?
    if digits.length ≠ width then throw .escape
    let code := Text.valueOf 16 digits
    if 0x80000000 ≤ code then throw .oversized
    if 0x110000 ≤ code then throw .codePoint
    return ([Text.charOfUnit code], c.forward.skip width)
  | none, none =>
    if !c.atEnd && Cursor.isLineEnd c.head then quotedBreaks c.rest.length c.lineBreak.2
    else throw .escape

def isQuotedWord (c : Char) : Bool := ! ['\'', '"', '\\'].contains c && !isGap c

/-- Text up to the next blank, line break or closing quote. -/
def quotedWord (double : Bool) (fuel : Nat) (c : Cursor) :
    Except Malformation (List Char × Cursor) :=
  match fuel with
  | 0 => .ok ([], c)
  | fuel + 1 => do
    let word := c.run isQuotedWord
    let c := c.skip word.length
    let (part, next) ←
      if !double && c.head = '\'' && c.peek 1 = '\'' then pure (['\''], c.skip 2)
      else if (double && c.head = '\'') || (!double && (c.head = '"' || c.head = '\\')) then
        pure ([c.head], c.forward)
      else if double && c.head = '\\' then readEscape c.forward
      else pure ([], c)
    if next.index = c.index then return (word, c)
    let (more, c) ← quotedWord double fuel next
    return (word ++ part ++ more, c)

/-- Blanks inside quoted text. A single line break becomes a blank. -/
def quotedGap (c : Cursor) : Except Malformation (List Char × Cursor) := do
  let blanks := c.run isBlankOrTab
  let c := c.skip blanks.length
  if c.atEnd then throw .unclosedText
  if Cursor.isLineEnd c.head then
    let (br, c) := c.lineBreak
    let (breaks, c) ← quotedBreaks (c.rest.length + 1) c
    let between := if br != ['\n'] then br else if breaks.isEmpty then [' '] else []
    return (between ++ breaks, c)
  else return (blanks, c)

def quotedRest (quote : Char) (fuel : Nat) (c : Cursor) :
    Except Malformation (List Char × Cursor) :=
  match fuel with
  | 0 => .error .unclosedText
  | fuel + 1 => do
    if c.head = quote then return ([], c.forward)
    let (gap, c) ← quotedGap c
    let (word, c) ← quotedWord (quote = '"') (c.rest.length + 1) c
    let (more, c) ← quotedRest quote fuel c
    return (gap ++ word ++ more, c)

def readQuoted (quote : Char) (c : Cursor) : Except Malformation (List Char × Cursor) := do
  let c := c.forward
  let (word, c) ← quotedWord (quote = '"') (c.rest.length + 1) c
  let (more, c) ← quotedRest quote (c.rest.length + 1) c
  return (word ++ more, c)

/-! Plain text. -/

def isFlowMark (c : Char) : Bool := [',', '[', ']', '\x7b', '\x7d'].contains c

/-- How much of a plain text stands at the cursor without a blank. -/
def plainWord (inFlow : Bool) : List Char → List Char
  | [] => []
  | ch :: rest =>
    if isGap ch || (inFlow && (isFlowMark ch || ch = '?')) then []
    else if ch = ':' && (gapNext rest || (inFlow && rest.head?.any isFlowMark)) then []
    else ch :: plainWord inFlow rest

/-- Empty lines and blanks behind a line of plain text. No result stands for a document separator. -/
def plainBreaks (fuel : Nat) (c : Cursor) : Option (List Char) × Cursor :=
  match fuel with
  | 0 => (some [], c)
  | fuel + 1 =>
    if c.atEnd then (some [], c)
    else if c.head = ' ' then plainBreaks fuel c.forward
    else if Cursor.isLineEnd c.head then
      let (br, c) := c.lineBreak
      if c.atSeparator then (none, c)
      else
        let (breaks, c) := plainBreaks fuel c
        (breaks.map (br ++ ·), c)
    else (some [], c)

/-- What may stand between two words of plain text, and whether it holds a line break. -/
def plainGap (c : Cursor) : Option (List Char) × Bool × Cursor :=
  let blanks := c.run (· = ' ')
  let c := c.skip blanks.length
  if !c.atEnd && Cursor.isLineEnd c.head then
    let (br, c) := c.lineBreak
    if c.atSeparator then (none, true, c)
    else
      match plainBreaks c.rest.length c with
      | (none, c) => (none, true, c)
      | (some breaks, c) =>
        let between := if br != ['\n'] then br else if breaks.isEmpty then [' '] else []
        (some (between ++ breaks), true, c)
  else (some blanks, false, c)

/-- A plain text, the blanks behind it passed, and whether the last of these hold a line break. -/
def plainRest (inFlow : Bool) (outer : Int) (fuel : Nat) (gap : List Char) (broken : Bool)
    (c : Cursor) : List Char × Bool × Cursor :=
  match fuel with
  | 0 => ([], broken, c)
  | fuel + 1 =>
    if c.head = '#' then ([], broken, c)
    else
      match plainWord inFlow c.rest with
      | [] => ([], broken, c)
      | word =>
        let (between, isBroken, next) := plainGap (c.skip word.length)
        match between with
        | none | some [] => (gap ++ word, isBroken, next)
        | some between =>
          if next.head = '#' || (!inFlow && (next.column : Int) < outer + 1) then
            (gap ++ word, isBroken, next)
          else
            let (more, broken, c) := plainRest inFlow outer fuel between isBroken next
            (gap ++ word ++ more, broken, c)

/-! One token after the other. -/

/-- Blanks, comments and line ends. Behind a line end a key may begin. -/
def skipToToken (fuel : Nat) : Read Unit := do
  match fuel with
  | 0 => return
  | fuel + 1 =>
    let c := (← cursor).skipSpaces
    let c := if c.head = '#' then c.skipLine else c
    match c.lineBreak with
    | ([], c) => moveTo c
    | (_, c) =>
      moveTo c
      if (← get).level = 0 then setKeyAllowed true
      skipToToken fuel

def closeAll : Read Unit := do
  closeBlocks (-1)
  dropCandidate
  setKeyAllowed false

def readEnd : Read Unit := do
  closeAll
  modify fun p => { p with candidates := [] }
  emit streamEnd

def readMark (t : Token) : Read Unit := do
  closeAll
  moveTo ((← cursor).skip 3)
  emit t

def readFlowStart (t : Token) : Read Unit := do
  addCandidate
  modify fun p => { p with level := p.level + 1 }
  setKeyAllowed true
  moveTo (← cursor).forward
  emit t

def readFlowEnd (t : Token) : Read Unit := do
  dropCandidate
  modify fun p => { p with level := p.level - 1 }
  setKeyAllowed false
  moveTo (← cursor).forward
  emit t

def readFlowEntry : Read Unit := do
  setKeyAllowed true
  dropCandidate
  moveTo (← cursor).forward
  emit flowEntry

/-- In a block, a mark stands where a key may; it may open the block. -/
def openFor (opening : Token) (fault : Malformation) : Read Unit := do
  let p ← get
  if p.level = 0 then
    if !p.keyAllowed then throw fault
    if ← openBlock p.cursor.column then emit opening

def readEntry : Read Unit := do
  openFor listStart .misplacedEntry
  setKeyAllowed true
  dropCandidate
  moveTo (← cursor).forward
  emit entry

def readKey : Read Unit := do
  openFor tableStart .misplacedKey
  setKeyAllowed ((← get).level = 0)
  dropCandidate
  moveTo (← cursor).forward
  emit key

def readValue : Read Unit := do
  let p ← get
  match p.candidates.find? fun k => k.level = p.level with
  | some k =>
    set { p with candidates := p.candidates.filter fun k => k.level ≠ p.level }
    insertAt k.position key
    if p.level = 0 then
      if ← openBlock k.column then insertAt k.position tableStart
    setKeyAllowed false
  | none =>
    openFor tableStart .misplacedValue
    setKeyAllowed (p.level = 0)
    dropCandidate
  moveTo (← cursor).forward
  emit value

/-- A token that may be, or begin, a key. -/
def readNodePart (read : Cursor → Except Malformation (Token × Cursor)) : Read Unit := do
  addCandidate
  setKeyAllowed false
  let (t, c) ← read (← cursor)
  moveTo c
  emit t

def readBlockText (folded : Bool) : Read Unit := do
  setKeyAllowed true
  dropCandidate
  let p ← get
  let (text, c) ← readBlock p.indent folded p.cursor
  moveTo c
  emit (scalar text false)

def readQuotedText (quote : Char) : Read Unit :=
  readNodePart fun c => do
    let (text, c) ← readQuoted quote c
    return (scalar text false, c)

def readPlain : Read Unit := do
  addCandidate
  setKeyAllowed false
  let p ← get
  let (text, broken, c) := plainRest (p.level ≠ 0) p.indent (p.cursor.rest.length + 1) [] false p.cursor
  moveTo c
  if broken then setKeyAllowed true
  emit (scalar text true)

def marks : List Char := "-?:,[]\x7b\x7d#&*!|>'\"%@\x60".toList

def startsPlain (inFlow : Bool) (c : Cursor) : Bool :=
  !c.atEnd &&
    ((!isGap c.head && !marks.contains c.head) ||
      (!gapNext (c.rest.drop 1) && (c.head = '-' || (!inFlow && (c.head = '?' || c.head = ':')))))

/-- The token at the cursor, by its first character and its surroundings. -/
def readToken : Read Unit := do
  let p ← get
  let c := p.cursor
  let inFlow : Bool := p.level ≠ 0
  let parted := gapNext (c.rest.drop 1)
  if c.column = 0 && c.head = '%' then
    closeAll
    let (d, c) ← readDirective c
    moveTo c
    emit (directive d)
  else if c.column = 0 && c.atMark '-' then readMark documentStart
  else if c.column = 0 && c.atMark '.' then readMark documentEnd
  else if c.head = '[' then readFlowStart flowListStart
  else if c.head = '\x7b' then readFlowStart flowTableStart
  else if c.head = ']' then readFlowEnd flowListEnd
  else if c.head = '\x7d' then readFlowEnd flowTableEnd
  else if c.head = ',' then readFlowEntry
  else if c.head = '-' && parted then readEntry
  else if c.head = '?' && (inFlow || parted) then readKey
  else if c.head = ':' && (inFlow || parted) then readValue
  else if c.head = '*' then
    readNodePart fun c => do
      let (name, c) ← readName c
      return (reference name, c)
  else if c.head = '&' then
    readNodePart fun c => do
      let (name, c) ← readName c
      return (anchor name, c)
  else if c.head = '!' then readNodePart readTag
  else if c.head = '|' && !inFlow then readBlockText false
  else if c.head = '>' && !inFlow then readBlockText true
  else if c.head = '\'' then readQuotedText '\''
  else if c.head = '"' then readQuotedText '"'
  else if startsPlain inFlow c then readPlain
  else throw .noToken

def step : Read Bool := do
  skipToToken ((← cursor).rest.length + 1)
  dropStale
  closeBlocks (← cursor).column
  if (← cursor).atEnd then
    readEnd
    return true
  readToken
  return false

/-- The tokens that are settled: from the first place on where a key may still turn out to begin, none
is. -/
def Progress.settled (p : Progress) : List Token :=
  p.tokens.reverse.take (p.candidates.foldl (fun n k => min n k.position) p.count)

/-- The tokens up to the end or to the first fault. Each step passes a character. -/
def readAll (fuel : Nat) (p : Progress) : List Token :=
  match fuel with
  | 0 => p.tokens.reverse
  | fuel + 1 =>
    match step.run p with
    | .error m => p.settled ++ [fault m]
    | .ok (true, p) => p.tokens.reverse
    | .ok (false, p) => readAll fuel p

/-- Characters that a text may hold at all. -/
def isPrintable (c : Char) : Bool :=
  let n := c.toNat
  n == 0x9 || n == 0xA || n == 0xD || (0x20 ≤ n && n ≤ 0x7E) || n == 0x85 ||
    (0xA0 ≤ n && n ≤ 0xD7FF) || (0xE000 ≤ n && n ≤ 0xFFFD) || (0x10000 ≤ n && (Text.half? c).isNone)

/-- A byte order mark at the start of a text is passed over. -/
def afterMark (c : Cursor) : Cursor := if c.head = '\uFEFF' then c.forward else c

def ofText (cs : List Char) : List Token :=
  if cs.all isPrintable then
    let p := start cs
    readAll (cs.length + 2) { p with cursor := afterMark p.cursor }
  else [fault .unprintable]

end Token
end ServiceAtlas.Yaml
