import PhpOutline.Toml.Item

/-!
# Reading TOML

Keys, texts, numbers, dates and times, truth values, arrays and tables, each line by line.  A reader
takes the characters that are left and returns what it read with the rest.
-/

namespace PhpOutline.Toml

/-! ### Blanks, comments and line ends -/

/-- A space or a tab. -/
def isBlank (c : Char) : Bool := c == ' ' || c == '\t'

/-- The characters behind the blanks at the front. -/
def skipBlanks (cs : List Char) : List Char := cs.dropWhile isBlank

/-- A character that may stand in a comment or, except for the quote, in a text. -/
def isPlain (c : Char) : Bool :=
  c == '\t' || (decide (0x20 ≤ c.toNat) && decide (c.toNat ≠ 0x7f))

/-- The characters behind blanks, line ends and comments. -/
def skipTrivia (inComment : Bool) : List Char → Except Fault (List Char)
  | [] => .ok []
  | '\r' :: '\n' :: cs => skipTrivia false cs
  | c :: cs =>
    if c = '\n' then skipTrivia false cs
    else if inComment then if isPlain c then skipTrivia true cs else .error .badComment
    else if isBlank c then skipTrivia false cs
    else if c = '#' then skipTrivia true cs
    else .ok (c :: cs)

/-- The characters behind the rest of a line that holds a comment. -/
def endOfComment : List Char → Except Fault (List Char)
  | [] => .ok []
  | '\n' :: cs | '\r' :: '\n' :: cs => .ok cs
  | c :: cs => if isPlain c then endOfComment cs else .error .badComment

/-- The characters behind the rest of a line that holds nothing more. -/
def endOfLine (cs : List Char) : Except Fault (List Char) :=
  match skipBlanks cs with
  | [] => .ok []
  | '\n' :: cs | '\r' :: '\n' :: cs => .ok cs
  | '#' :: cs => endOfComment cs
  | _ => .error .expectedLineEnd

/-! ### Texts -/

/-- The value of a hexadecimal digit. -/
def hexValue? (c : Char) : Option Nat :=
  if c.isDigit then some (c.toNat - '0'.toNat)
  else if 'a' ≤ c ∧ c ≤ 'f' then some (c.toNat - 'a'.toNat + 10)
  else if 'A' ≤ c ∧ c ≤ 'F' then some (c.toNat - 'A'.toNat + 10)
  else none

/-- The character with the code point that the digits spell. -/
def codePoint (digits : List Char) : Except Fault Char :=
  match digits.mapM hexValue? with
  | none => .error .badText
  | some values =>
    let n := values.foldl (fun n d => 16 * n + d) 0
    if n.isValidChar then .ok (Char.ofNat n) else .error .badText

/-- The character that an escape with one letter stands for. -/
def escaped (c : Char) : Except Fault Char :=
  match c with
  | 'b' => .ok '\x08'
  | 't' => .ok '\t'
  | 'n' => .ok '\n'
  | 'f' => .ok '\x0c'
  | 'r' => .ok '\r'
  | '"' => .ok '"'
  | '\\' => .ok '\\'
  | _ => .error .badText

/-- The result with one more character at the front of its text. -/
def push (c : Char) (r : List Char × List Char) : List Char × List Char := (c :: r.1, r.2)

/-- The text up to a double quote, on one line. -/
def basicText : List Char → Except Fault (List Char × List Char)
  | '"' :: cs => .ok ([], cs)
  | '\\' :: 'u' :: a :: b :: c :: d :: cs => do
    return push (← codePoint [a, b, c, d]) (← basicText cs)
  | '\\' :: 'U' :: a :: b :: c :: d :: e :: f :: g :: h :: cs => do
    return push (← codePoint [a, b, c, d, e, f, g, h]) (← basicText cs)
  | '\\' :: c :: cs => do return push (← escaped c) (← basicText cs)
  | c :: cs => do
    if isPlain c then return push c (← basicText cs) else .error .badText
  | [] => .error .badText

/-- The text up to a single quote, on one line. -/
def literalText : List Char → Except Fault (List Char × List Char)
  | '\'' :: cs => .ok ([], cs)
  | c :: cs => do
    if isPlain c then return push c (← literalText cs) else .error .badText
  | [] => .error .badText

/-- A line break follows, after blanks. -/
def breakFollows (cs : List Char) : Bool :=
  match skipBlanks cs with
  | '\n' :: _ | '\r' :: '\n' :: _ => true
  | _ => false

/-- The text up to three double quotes.  `joining` says that white space is dropped, as it is
behind a backslash at the end of a line.  Every line break reads as a line feed. -/
def longBasicText (joining : Bool) : List Char → Except Fault (List Char × List Char)
  | '"' :: '"' :: '"' :: '"' :: '"' :: cs => .ok (['"', '"'], cs)
  | '"' :: '"' :: '"' :: '"' :: cs => .ok (['"'], cs)
  | '"' :: '"' :: '"' :: cs => .ok ([], cs)
  | '\\' :: 'u' :: a :: b :: c :: d :: cs => do
    return push (← codePoint [a, b, c, d]) (← longBasicText false cs)
  | '\\' :: 'U' :: a :: b :: c :: d :: e :: f :: g :: h :: cs => do
    return push (← codePoint [a, b, c, d, e, f, g, h]) (← longBasicText false cs)
  | '\\' :: c :: cs => do
    if breakFollows (c :: cs) then longBasicText true cs
    else return push (← escaped c) (← longBasicText false cs)
  | '\r' :: '\n' :: cs => do
    let r ← longBasicText joining cs
    return if joining then r else push '\n' r
  | c :: cs => do
    if joining && (isBlank c || c == '\n') then longBasicText true cs
    else if isPlain c || c == '\n' then return push c (← longBasicText false cs)
    else .error .badText
  | [] => .error .badText

/-- The text up to three single quotes.  Every line break reads as a line feed. -/
def longLiteralText : List Char → Except Fault (List Char × List Char)
  | '\'' :: '\'' :: '\'' :: '\'' :: '\'' :: cs => .ok (['\'', '\''], cs)
  | '\'' :: '\'' :: '\'' :: '\'' :: cs => .ok (['\''], cs)
  | '\'' :: '\'' :: '\'' :: cs => .ok ([], cs)
  | '\r' :: '\n' :: cs => do return push '\n' (← longLiteralText cs)
  | c :: cs => do
    if isPlain c || c == '\n' then return push c (← longLiteralText cs) else .error .badText
  | [] => .error .badText

/-- A text of several lines starts behind a line break that follows its quotes at once. -/
def skipFirstBreak : List Char → List Char
  | '\n' :: cs | '\r' :: '\n' :: cs => cs
  | cs => cs

/-! ### Keys -/

/-- A character of a key without quotes. -/
def isKeyChar (c : Char) : Bool := c.isAlphanum || c == '_' || c == '-'

/-- A key without dots. -/
def simpleKey : List Char → Except Fault (String × List Char)
  | '"' :: cs => do
    let (text, rest) ← basicText cs
    return (String.ofList text, rest)
  | '\'' :: cs => do
    let (text, rest) ← literalText cs
    return (String.ofList text, rest)
  | cs =>
    let word := cs.takeWhile isKeyChar
    if word.isEmpty then .error .expectedKey
    else .ok (String.ofList word, cs.dropWhile isKeyChar)

/-- A key with dots, blanks around them not counting; at most `limit` parts are read. -/
def keyPath (limit : Nat) (cs : List Char) : Except Fault (List String × List Char) :=
  match limit with
  | 0 => .error .expectedKey
  | limit + 1 => do
    let (key, rest) ← simpleKey cs
    match skipBlanks rest with
    | '.' :: more =>
      let (keys, rest) ← keyPath limit (skipBlanks more)
      return (key :: keys, rest)
    | rest => return ([key], rest)

/-- Keys have fewer parts than this, and values are nested less deeply. -/
def depthBound : Nat := 80

/-- A key with dots that is not too deep. -/
def dottedKey (cs : List Char) : Except Fault (List String × List Char) := do
  let (keys, rest) ← keyPath (cs.length + 1) cs
  if keys.length < depthBound then return (keys, rest) else .error .tooDeep

/-! ### Numbers and words -/

/-- Digits with single underscores between them, without the underscores. -/
def digits? (isDigit : Char → Bool) : List Char → Option (List Char)
  | [] => none
  | [c] => if isDigit c then some [c] else none
  | c :: '_' :: cs => if isDigit c then (digits? isDigit cs).map (c :: ·) else none
  | c :: cs => if isDigit c then (digits? isDigit cs).map (c :: ·) else none

/-- The number that digits spell in a base. -/
def numeral? (base : Nat) (cs : List Char) : Option Nat := do
  let values ← cs.mapM hexValue?
  if values.all (· < base) then some (values.foldl (fun n d => base * n + d) 0) else none

/-- Decimal digits without a zero in front. -/
def decimal? (cs : List Char) : Option Nat := do
  let ds ← digits? Char.isDigit cs
  if ds.length > 1 && ds.head? == some '0' then none else numeral? 10 ds

/-- The sign in front of a number, and the rest. -/
def sign : List Char → Int × List Char
  | '+' :: cs => (1, cs)
  | '-' :: cs => (-1, cs)
  | cs => (1, cs)

/-- Digits in a base with a mark of its own. -/
def radix? (base : Nat) (cs : List Char) : Option Int :=
  (digits? (fun c => (hexValue? c).isSome) cs).bind fun ds => (numeral? base ds).map Int.ofNat

/-- An integer of sixty-four bits. -/
def integer? (cs : List Char) : Option Int :=
  let n : Option Int := match cs with
    | '0' :: 'x' :: cs => radix? 16 cs
    | '0' :: 'o' :: cs => radix? 8 cs
    | '0' :: 'b' :: cs => radix? 2 cs
    | cs => (decimal? (sign cs).2).map fun n => (sign cs).1 * n
  n.filter fun n => decide (Int64.minValue.toInt ≤ n) && decide (n ≤ Int64.maxValue.toInt)

/-- The exponent of a floating point number, with its letter. -/
def isExponent : List Char → Bool
  | e :: cs => (e == 'e' || e == 'E') && (digits? Char.isDigit (sign cs).2).isSome
  | [] => false

/-- The spelling is one of a floating point number. -/
def isFloat (cs : List Char) : Bool :=
  let unsigned := (sign cs).2
  let isMark (c : Char) : Bool := c.isDigit || c == '_'
  let whole := unsigned.takeWhile isMark
  let isTail : List Char → Bool
    | '.' :: rest =>
      (digits? Char.isDigit (rest.takeWhile isMark)).isSome &&
        (rest.dropWhile isMark == [] || isExponent (rest.dropWhile isMark))
    | rest => isExponent rest
  unsigned == "inf".toList || unsigned == "nan".toList ||
    ((decimal? whole).isSome && isTail (unsigned.dropWhile isMark))

/-! ### Dates and times -/

/-- A number of `count` digits within the given bounds, and the rest. -/
def field? (count low high : Nat) (cs : List Char) : Option (Nat × List Char) := do
  let digits := cs.take count
  let n ← if digits.length = count && digits.all Char.isDigit then numeral? 10 digits else none
  if low ≤ n ∧ n ≤ high then some (n, cs.drop count) else none

/-- The characters behind a first one that satisfies `p`. -/
def afterChar? (p : Char → Bool) : List Char → Option (List Char)
  | c :: cs => if p c then some cs else none
  | [] => none

/-- The number of days of a month. -/
def daysOf (year month : Nat) : Nat :=
  if month = 2 then
    if year % 4 = 0 ∧ (year % 100 ≠ 0 ∨ year % 400 = 0) then 29 else 28
  else if [4, 6, 9, 11].contains month then 30 else 31

/-- The characters behind a date. -/
def afterDate? (cs : List Char) : Option (List Char) := do
  let (year, cs) ← field? 4 0 9999 cs
  let (month, cs) ← field? 2 1 12 (← afterChar? (· == '-') cs)
  let (_, cs) ← field? 2 1 (daysOf year month) (← afterChar? (· == '-') cs)
  return cs

/-- The characters behind hours and minutes. -/
def afterMinutes? (cs : List Char) : Option (List Char) := do
  let (_, cs) ← field? 2 0 23 cs
  let (_, cs) ← field? 2 0 59 (← afterChar? (· == ':') cs)
  return cs

/-- The characters behind the fraction of a second, if there is one. -/
def afterFraction : List Char → List Char
  | '.' :: c :: cs => if c.isDigit then cs.dropWhile Char.isDigit else '.' :: c :: cs
  | cs => cs

/-- The characters behind a time of day, which has seconds and may have a leap second. -/
def afterTime? (cs : List Char) : Option (List Char) := do
  let cs ← afterMinutes? cs
  let (_, cs) ← field? 2 0 60 (← afterChar? (· == ':') cs)
  return afterFraction cs

/-- The characters behind the offset of a time zone, if there is one. -/
def afterOffset (cs : List Char) : List Char :=
  let zulu := afterChar? (fun c => c == 'Z' || c == 'z') cs
  let signed := (afterChar? (fun c => c == '+' || c == '-') cs).bind afterMinutes?
  (zulu <|> signed).getD cs

/-- The characters behind a date, a time of day, or a date and a time.  Only a time behind a date
may have an offset. -/
def afterMoment? (cs : List Char) : Option (List Char) :=
  match afterDate? cs with
  | none => afterTime? cs
  | some rest =>
    match (afterChar? (fun c => c == 'T' || c == 't' || c == ' ') rest).bind afterTime? with
    | none => some rest
    | some rest => some (afterOffset rest)

/-! ### Scalars -/

/-- A character of a number or a word. -/
def isScalarChar (c : Char) : Bool := isKeyChar c || c == '+' || c == '.'

/-- A number or a truth value. -/
def word (cs : List Char) : Except Fault (Item × List Char) :=
  let word := cs.takeWhile isScalarChar
  let rest := cs.dropWhile isScalarChar
  if word = [] then .error .expectedValue
  else if word = "true".toList then .ok (.boolean true, rest)
  else if word = "false".toList then .ok (.boolean false, rest)
  else
    match integer? word with
    | some n => .ok (.integer n, rest)
    | none =>
      if isFloat word then .ok (.float (String.ofList word), rest) else .error .badNumber

/-- A date or a time, a number or a truth value. -/
def scalar (cs : List Char) : Except Fault (Item × List Char) :=
  match afterMoment? cs with
  | some rest => .ok (.moment (String.ofList (cs.take (cs.length - rest.length))), rest)
  | none => word cs

/-! ### Values -/

/-- A text in one of its four forms. -/
def textValue : List Char → Option (Except Fault (List Char × List Char))
  | '"' :: '"' :: '"' :: cs => some (longBasicText false (skipFirstBreak cs))
  | '"' :: cs => some (basicText cs)
  | '\'' :: '\'' :: '\'' :: cs => some (longLiteralText (skipFirstBreak cs))
  | '\'' :: cs => some (literalText cs)
  | _ => none

mutual

/-- A value inside `depth` others; at most `limit` nested steps are taken. -/
def value (depth limit : Nat) (cs : List Char) : Except Fault (Item × List Char) :=
  match limit with
  | 0 => .error .expectedValue
  | limit + 1 =>
    match textValue cs with
    | some text => do
      let (text, rest) ← text
      return (.text (String.ofList text), rest)
    | none =>
      match cs with
      | '[' :: cs => do
        if depthBound ≤ depth + 1 then .error .tooDeep
        else
          let (items, rest) ← items (depth + 1) limit cs
          return (.array items, rest)
      | '{' :: cs => do
        if depthBound ≤ depth + 1 then .error .tooDeep
        else
          match skipBlanks cs with
          | '}' :: rest => return (.table .inline [], rest)
          | cs =>
            let (entries, rest) ← inlineEntries (depth + 1) limit [] cs
            return (.table .inline entries, rest)
      | cs => scalar cs

/-- The items of an array up to its closing bracket. -/
def items (depth limit : Nat) (cs : List Char) : Except Fault (List Item × List Char) :=
  match limit with
  | 0 => .error .expectedValue
  | limit + 1 => do
    match ← skipTrivia false cs with
    | ']' :: rest => return ([], rest)
    | cs =>
      let (item, rest) ← value depth limit cs
      match ← skipTrivia false rest with
      | ',' :: rest =>
        let (more, rest) ← items depth limit rest
        return (item :: more, rest)
      | ']' :: rest => return ([item], rest)
      | _ => .error .expectedBracket

/-- The entries of a table on one line up to its closing bracket. -/
def inlineEntries (depth limit : Nat) (entries : Entries) (cs : List Char) :
    Except Fault (Entries × List Char) :=
  match limit with
  | 0 => .error .expectedValue
  | limit + 1 => do
    let (path, rest) ← dottedKey (skipBlanks cs)
    match skipBlanks rest with
    | '=' :: rest =>
      let (item, rest) ← value depth limit (skipBlanks rest)
      let entries ← assign item path true entries
      match skipBlanks rest with
      | ',' :: rest => inlineEntries depth limit entries rest
      | '}' :: rest => return (entries, rest)
      | _ => .error .expectedBracket
    | _ => .error .expectedEquals

end

/-! ### Documents -/

/-- A line with a header or an assignment, and its end. -/
def statement (cs : List Char) : Except Fault (Statement × List Char) :=
  match cs with
  | '[' :: '[' :: rest => do
    let (path, rest) ← dottedKey (skipBlanks rest)
    match skipBlanks rest with
    | ']' :: ']' :: rest => return (.elementHeader path, ← endOfLine rest)
    | _ => .error .expectedBracket
  | '[' :: rest => do
    let (path, rest) ← dottedKey (skipBlanks rest)
    match skipBlanks rest with
    | ']' :: rest => return (.header path, ← endOfLine rest)
    | _ => .error .expectedBracket
  | _ => do
    let (path, rest) ← dottedKey cs
    match skipBlanks rest with
    | '=' :: rest =>
      let (item, rest) ← value 0 (cs.length + 1) (skipBlanks rest)
      return (.assignment path item, ← endOfLine rest)
    | _ => .error .expectedEquals

/-- The lines of a document; at most `limit` of them are read. -/
def statements (limit : Nat) (cs : List Char) : Except Fault (List Statement) :=
  match limit with
  | 0 => .ok []
  | limit + 1 => do
    match ← skipTrivia false cs with
    | [] => return []
    | cs =>
      let (first, rest) ← statement cs
      return first :: (← statements limit rest)

/-- Reads a document; a byte order mark in front does not count. -/
def parse (text : String) : Except Fault Entries := do
  let cs := match text.toList with
    | '\ufeff' :: cs => cs
    | cs => cs
  ofStatements (← statements (cs.length + 1) cs)

end PhpOutline.Toml
