import PhpOutline.Lexer.Step

/-!
# Scanning bytes

The lexer as a scanner on the bytes of a source.  A place in the source is the number of bytes
before it; the scanner looks at bytes, moves its place forward and cuts texts out of the source by
the places of their two ends.  Such a slice is there only if both ends are boundaries between
characters of the source and in order.  A scan that asks for another slice fails, and so does one
that would never come to the end because its place does not move forward: `scan` then gives `none`.

A byte is kept as the character with its number.  ASCII characters are their own bytes, and all
other bytes count as letters of names, as all other characters do, so that what looks for the end of
a literal or of a name works on bytes as it works on characters.
-/

namespace PhpOutline.Lexer

/-! ### Bytes and slices -/

/-- The bytes of a source. -/
def octets (source : String) : List Char := source.toByteArray.data.toList.map Char.ofUInt8

/-- The bytes of a source from a place on. -/
def octetsFrom (source : String) (place : Nat) : List Char := (octets source).drop place

/-- The text of a source between two places, which have to be boundaries between characters. -/
def slice (source : String) (start stop : Nat) : Option String :=
  if start ≤ stop ∧ (⟨start⟩ : String.Pos.Raw).IsValid source ∧
      (⟨stop⟩ : String.Pos.Raw).IsValid source then
    String.fromUTF8? (source.toByteArray.extract start stop)
  else none

/-- The text of a source from a place on, which has to be a boundary between characters. -/
def sliceFrom (source : String) (start : Nat) : Option (List Char) :=
  (slice source start source.utf8ByteSize).map String.toList

/-- The number of bytes of a text in front of the first place where `pattern` starts. -/
def findText (pattern : List Char) : List Char → Option Nat
  | [] => none
  | c :: cs =>
    if pattern.isPrefixOf (c :: cs) then some 0
    else (findText pattern cs).map (c.utf8Size + ·)

/-- The number of bytes that satisfy `p` from a place on. -/
def countWhile (p : Char → Bool) (source : String) (place : Nat) : Nat :=
  ((octetsFrom source place).takeWhile p).length

/-- The number of bytes of a shell command.  A backslash counts for two, also as the last byte. -/
def shellLength : List Char → Nat
  | '\\' :: _ :: bs => 2 + shellLength bs
  | ['\\'] => 2
  | b :: bs => if b = '\x60' then 0 else 1 + shellLength bs
  | [] => 0

/-! ### The scanner -/

/-- The state of a scan: its place, what the last token says about the next word, and the tokens
behind it. -/
structure Scan where
  place : Nat := 0
  context : Context := .plain
  tokens : List RawToken := []

namespace Scan

variable (source : String)

/-- Reads the text up to `stop` as a token. -/
def readTo (s : Scan) (category : Category) (stop : Nat) (context : Context) : Option Scan := do
  let text ← slice source s.place stop
  return ⟨stop, context, s.tokens ++ [.named category text]⟩

/-- Reads the text up to `stop` as a token, unless there is none. -/
def readAnyTo (s : Scan) (category : Category) (stop : Nat) (context : Context) : Option Scan :=
  if s.place < stop then s.readTo source category stop context
  else some { s with place := stop, context := context }

/-- Reads one punctuation character. -/
def readChar (s : Scan) (c : Char) (context : Context) : Scan :=
  ⟨s.place + c.utf8Size, context, s.tokens ++ [.punctuation c]⟩

/-- The next open tag: its place, its category and its number of bytes.  The bytes behind `<?` are a
slice to the end of the source, which is there if it does not start behind that end. -/
def findTag (place : Nat) : Option (Option (Nat × Category × Nat)) := do
  let text ← sliceFrom source place
  match findText ['<', '?'] text with
  | none => return none
  | some offset =>
    if place + offset + 2 ≤ source.utf8ByteSize then
      match openTag? ('<' :: '?' :: octetsFrom source (place + offset + 2)) with
      | some (category, k) => return some (place + offset, category, k.text.length)
      | none => findTag (place + offset + 2)
    else none
termination_by source.utf8ByteSize - place

/-- Reads markup up to and with the next open tag. -/
def readMarkup (s : Scan) : Option Scan := do
  match ← findTag source s.place with
  | some (start, category, length) =>
    let s ← s.readAnyTo source .inlineHtml start .plain
    s.readTo source category (start + length) .plain
  | none => s.readAnyTo source .inlineHtml source.utf8ByteSize .plain

/-- Reads a comment that starts with a slash and a star. -/
def readBlockComment (s : Scan) : Option Scan := do
  let text ← sliceFrom source s.place
  let isDoc :=
    ['/', '*', '*'].isPrefixOf text && nextIs isSpace (octetsFrom source (s.place + 3))
  let text ← sliceFrom source (s.place + 2)
  let stop := ((findText ['*', '/'] text).map (s.place + 2 + · + 2)).getD source.utf8ByteSize
  s.readTo source (if isDoc then .docComment else .comment) stop s.context

/-- Reads a shell command and the backticks around it.  The place behind a backslash at the end of
the source is moved back to the end. -/
def readShell (s : Scan) : Option Scan := do
  let s := s.readChar '\x60' .plain
  let stop := min (s.place + shellLength (octetsFrom source s.place)) source.utf8ByteSize
  let s ← s.readAnyTo source .encapsedAndWhitespace stop .plain
  return if (octetsFrom source s.place).head? = some '\x60' then s.readChar '\x60' .plain else s

/-- The place of the label that closes a heredoc, looked for from the start of a line on. -/
def findLabel (label : String) (line : Nat) : Option (Option Nat) :=
  if source.utf8ByteSize ≤ line then some none
  else do
    let start := line + countWhile isBlank source line
    let text ← sliceFrom source start
    let after := octetsFrom source (start + label.utf8ByteSize)
    if label.toList.isPrefixOf text && !nextIs isNameChar after then return some start
    else
      let text ← sliceFrom source line
      match findText ['\n'] text with
      | some offset => findLabel label (line + offset + 1)
      | none => return none
termination_by source.utf8ByteSize - line

/-- Reads the body of a heredoc and the label that closes it. -/
def readHeredocBody (s : Scan) (label : String) : Option Scan := do
  match ← findLabel source label s.place with
  | some start =>
    let s ← s.readAnyTo source .encapsedAndWhitespace start .plain
    s.readTo source .endHeredoc (start + label.utf8ByteSize) .plain
  | none => s.readAnyTo source .encapsedAndWhitespace source.utf8ByteSize .plain

/-- The label that starts at a place and the place behind its line, which has to end with the quote
in front of the label and a line break. -/
def findLineEnd (quote : List Char) (start : Nat) : Option (Option (String × Nat)) :=
  if nextIs isNameStart (octetsFrom source start) then do
    let stop := start + countWhile isNameChar source start
    let label ← slice source start stop
    if quote.isPrefixOf (octetsFrom source stop) then
      return (lineBreak? (octetsFrom source (stop + quote.length))).map fun lineEnd =>
        (label, stop + quote.length + lineEnd.text.length)
    else return none
  else some none

/-- The label of the heredoc that starts at a place, and the place behind its opening line. -/
def findOpener (place : Nat) : Option (Option (String × Nat)) := do
  let text ← sliceFrom source place
  if ['<', '<', '<'].isPrefixOf text then
    let start := place + 3 + countWhile isBlank source (place + 3)
    let quote := labelQuote (octetsFrom source start)
    findLineEnd source quote (start + quote.length)
  else return none

/-- Reads a heredoc, if one starts here; `b` is the next byte. -/
def readHeredoc? (s : Scan) (b : Char) : Option (Option Scan) :=
  if b = '<' then do
    match ← findOpener source s.place with
    | some (label, stop) =>
      let s ← s.readTo source .startHeredoc stop .plain
      return some (← s.readHeredocBody source label)
    | none => return none
  else some none

/-- The category of a single word that ends at `stop`. -/
def wordCategory (s : Scan) (word : List Char) (stop : Nat) : Option Category :=
  if s.context.makesIdentifier word then some .identifier
  else if isWord "enum" word then do
    let rest ← sliceFrom source stop
    return if declaredNameFollows rest then .kwEnum else (reserved? word).getD .identifier
  else some ((reserved? word).getD .identifier)

/-- The category of a name whose first word ends at `firstStop`. -/
def nameCategory (s : Scan) (isFull : Bool) (firstStop stop : Nat) : Option Category := do
  let text ← slice source s.place stop
  if isFull then return .nameFullyQualified
  else if firstStop < stop then
    let first ← slice source s.place firstStop
    return if isWord "namespace" first.toList then .nameRelative else .nameQualified
  else s.wordCategory source text.toList stop

/-- Reads a word or a name, and the data behind the word that halts the compiler.  The flag says
that code goes on. -/
def readName (s : Scan) : Option (Bool × Scan) := do
  let bytes := octetsFrom source s.place
  let isFull := bytes.head? == some '\\'
  let start := s.place + if isFull then 1 else 0
  let firstStop := start + countWhile isNameChar source start
  let stop := s.place + (name bytes).text.length
  let category ← s.nameCategory source isFull firstStop stop
  let s ← s.readTo source category stop (if category = .kwFunction then .functionName else .plain)
  if category = .kwHaltCompiler then
    return (false, ← s.readAnyTo source .inlineHtml source.utf8ByteSize .plain)
  else return (true, s)

/-- Reads an operator or a single punctuation character. -/
def readOperator (s : Scan) : Option Scan := do
  let text ← sliceFrom source s.place
  match operator? text with
  | some (op, category) =>
    s.readTo source category (s.place + op.utf8ByteSize) (contextAfterOperator category)
  | none =>
    let c := text.head?.getD '\x00'
    return s.readChar c (contextAfterPunctuation s.context c)

/-- Reads the next token of code that is not a heredoc, a close tag, white space or a name; `b` is
the next byte and `bs` are the bytes behind it. -/
def readToken (s : Scan) (b : Char) (bs : List Char) : Option Scan :=
  if b = '#' ∧ bs.head? = some '[' then
    s.readTo source .attributeOpen (s.place + 2) .plain
  else if b = '#' ∨ (b = '/' ∧ bs.head? = some '/') then
    s.readTo source .comment (s.place + (lineComment (b :: bs)).text.length) s.context
  else if b = '/' ∧ bs.head? = some '*' then
    s.readBlockComment source
  else if b = '$' ∧ nextIs isNameStart bs then
    s.readTo source .variableName (s.place + 1 + countWhile isNameChar source (s.place + 1)) .plain
  else if b = '\'' ∨ b = '"' then
    s.readTo source .constantEncapsedString (s.place + 1 + (throughQuote b bs).text.length) .plain
  else if b = '\x60' then
    s.readShell source
  else if startsNumber b bs then
    let (isFloat, k) := number (b :: bs)
    s.readTo source (if isFloat then .dnumber else .lnumber) (s.place + k.text.length) .plain
  else if b = '\\' then
    s.readTo source .nsSeparator (s.place + 1) .plain
  else
    s.readOperator source

/-- Reads the next token of code that is not a close tag, with the flag that says that code goes
on. -/
def readNext (s : Scan) (b : Char) (bs : List Char) : Option (Bool × Scan) :=
  if isSpace b then
    (s.readTo source .whitespace (s.place + countWhile isSpace source s.place) s.context).map
      (true, ·)
  else do
    match ← s.readHeredoc? source b with
    | some s => return (true, s)
    | none =>
      if startsName b bs then s.readName source
      else (s.readToken source b bs).map (true, ·)

/-- Reads code up to and with the next close tag, or to the end of the source.  A token has to move
the place forward, and not behind that end. -/
def readCode (s : Scan) : Option Scan :=
  match octetsFrom source s.place with
  | [] => some s
  | b :: bs =>
    if b = '?' ∧ bs.head? = some '>' then
      s.readTo source .closeTag (s.place + 2 + (closeTagEnd bs.tail).text.length) s.context
    else do
      let (goesOn, t) ← s.readNext source b bs
      if !goesOn then return t
      else if s.place < t.place ∧ t.place ≤ source.utf8ByteSize then t.readCode
      else none
termination_by source.utf8ByteSize - s.place

/-- Reads markup and code in turn to the end of the source.  Both together have to move the place
forward. -/
def run (s : Scan) : Option Scan :=
  if s.place < source.utf8ByteSize then do
    let markup ← s.readMarkup source
    let code ← markup.readCode source
    if s.place < code.place then code.run else none
  else some s
termination_by source.utf8ByteSize - s.place

end Scan

/-- The tokens of a source, scanned byte by byte. -/
def scan (source : String) : Option (List RawToken) := (Scan.run source {}).map Scan.tokens

end PhpOutline.Lexer
