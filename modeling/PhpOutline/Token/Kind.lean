import PhpOutline.Token.Category

/-!
# Token kinds

What a token means to the analysis.  A punctuation character has a kind only if the grammar knows
it (`Kind.ofPunctuation?`), while every lexical category has one (`Kind.ofCategory`): a category of
no interest is `Kind.other`.  The predicates below group the kinds by the part they play in a
declaration.
-/

namespace PhpOutline

/-- The meaning of a token for the analysis. -/
inductive Kind
  -- punctuation
  | openBracket | closeBracket | openSquare | closeSquare | openCurly | closeCurly | semicolon
  | dot | comma | equal | lt | gt | plus | minus | mult | div | questionMark | exclamationMark
  | colon | doubleQuotes | atSign | ampersand | percent | pipe | dollar | caret | tilde | backtick
  -- markup and trivia
  | openTag | openTagWithEcho | closeTag | inlineHtml | whitespace | comment | docComment
  | attributeOpen
  -- names and literals
  | identifier | nameQualified | nameFullyQualified | nameRelative | nsSeparator | variableName
  | constantEncapsedString | encapsedAndWhitespace | startHeredoc | endHeredoc | lnumber
  | dnumber | curlyOpen | dollarOpenCurlyBraces
  -- words and operators
  | kwNamespace | kwUse | kwClass | kwTrait | kwInterface | kwEnum | kwFunction | kwFn
  | kwExtends | kwImplements | kwConst | kwVar | kwPublic | kwProtected | kwPrivate | kwStatic
  | kwFinal | kwAbstract | kwReadonly | kwIf | kwElseIf | kwElse | kwFor | kwForeach | kwWhile
  | kwDo | kwSwitch | kwCase | kwDefault | kwMatch | kwBreak | kwContinue | kwReturn | kwTry
  | kwCatch | kwFinally | kwThrow | kwYield | booleanAnd | booleanOr | logicalAnd | logicalOr
  | logicalXor | coalesce | objectOperator | nullsafeObjectOperator | doubleColon | doubleArrow
  | ellipsis | kwNew | kwRequire | kwRequireOnce | kwInclude | kwIncludeOnce | kwHaltCompiler
  -- everything else
  | other
deriving DecidableEq, Inhabited

namespace Kind

/-- The name of a kind in reports. -/
def name : Kind → String
  | openBracket => "OpenBracket"
  | closeBracket => "CloseBracket"
  | openSquare => "OpenSquare"
  | closeSquare => "CloseSquare"
  | openCurly => "OpenCurly"
  | closeCurly => "CloseCurly"
  | semicolon => "Semicolon"
  | dot => "Dot"
  | comma => "Comma"
  | equal => "Equal"
  | lt => "Lt"
  | gt => "Gt"
  | plus => "Plus"
  | minus => "Minus"
  | mult => "Mult"
  | div => "Div"
  | questionMark => "QuestionMark"
  | exclamationMark => "ExclamationMark"
  | colon => "Colon"
  | doubleQuotes => "DoubleQuotes"
  | atSign => "At"
  | ampersand => "Ampersand"
  | percent => "Percent"
  | pipe => "Pipe"
  | dollar => "Dollar"
  | caret => "Caret"
  | tilde => "Tilde"
  | backtick => "Backtick"
  | openTag => "OpenTag"
  | openTagWithEcho => "OpenTagWithEcho"
  | closeTag => "CloseTag"
  | inlineHtml => "InlineHtml"
  | whitespace => "Whitespace"
  | comment => "Comment"
  | docComment => "DocComment"
  | attributeOpen => "Attribute"
  | identifier => "Identifier"
  | nameQualified => "NameQualified"
  | nameFullyQualified => "NameFullyQualified"
  | nameRelative => "NameRelative"
  | nsSeparator => "NsSeparator"
  | variableName => "Variable"
  | constantEncapsedString => "ConstantEncapsedString"
  | encapsedAndWhitespace => "EncapsedAndWhitespace"
  | startHeredoc => "StartHeredoc"
  | endHeredoc => "EndHeredoc"
  | lnumber => "LNumber"
  | dnumber => "DNumber"
  | curlyOpen => "CurlyOpen"
  | dollarOpenCurlyBraces => "DollarOpenCurlyBraces"
  | kwNamespace => "Namespace"
  | kwUse => "Use"
  | kwClass => "Class"
  | kwTrait => "Trait"
  | kwInterface => "Interface"
  | kwEnum => "Enum"
  | kwFunction => "Function"
  | kwFn => "Fn"
  | kwExtends => "Extends"
  | kwImplements => "Implements"
  | kwConst => "Const"
  | kwVar => "Var"
  | kwPublic => "Public"
  | kwProtected => "Protected"
  | kwPrivate => "Private"
  | kwStatic => "Static"
  | kwFinal => "Final"
  | kwAbstract => "Abstract"
  | kwReadonly => "Readonly"
  | kwIf => "If"
  | kwElseIf => "ElseIf"
  | kwElse => "Else"
  | kwFor => "For"
  | kwForeach => "Foreach"
  | kwWhile => "While"
  | kwDo => "Do"
  | kwSwitch => "Switch"
  | kwCase => "Case"
  | kwDefault => "Default"
  | kwMatch => "Match"
  | kwBreak => "Break"
  | kwContinue => "Continue"
  | kwReturn => "Return"
  | kwTry => "Try"
  | kwCatch => "Catch"
  | kwFinally => "Finally"
  | kwThrow => "Throw"
  | kwYield => "Yield"
  | booleanAnd => "BooleanAnd"
  | booleanOr => "BooleanOr"
  | logicalAnd => "LogicalAnd"
  | logicalOr => "LogicalOr"
  | logicalXor => "LogicalXor"
  | coalesce => "Coalesce"
  | objectOperator => "ObjectOperator"
  | nullsafeObjectOperator => "NullsafeObjectOperator"
  | doubleColon => "DoubleColon"
  | doubleArrow => "DoubleArrow"
  | ellipsis => "Ellipsis"
  | kwNew => "New"
  | kwRequire => "Require"
  | kwRequireOnce => "RequireOnce"
  | kwInclude => "Include"
  | kwIncludeOnce => "IncludeOnce"
  | kwHaltCompiler => "HaltCompiler"
  | other => "Other"

/-- The kind of a punctuation character, if the grammar has that character. -/
def ofPunctuation? : Char → Option Kind
  | '(' => some openBracket
  | ')' => some closeBracket
  | '[' => some openSquare
  | ']' => some closeSquare
  | '{' => some openCurly
  | '}' => some closeCurly
  | ';' => some semicolon
  | '.' => some dot
  | ',' => some comma
  | '=' => some equal
  | '<' => some lt
  | '>' => some gt
  | '+' => some plus
  | '-' => some minus
  | '*' => some mult
  | '/' => some div
  | '?' => some questionMark
  | '!' => some exclamationMark
  | ':' => some colon
  | '"' => some doubleQuotes
  | '@' => some atSign
  | '&' => some ampersand
  | '%' => some percent
  | '|' => some pipe
  | '$' => some dollar
  | '^' => some caret
  | '~' => some tilde
  | '\x60' => some backtick
  | _ => none

/-- The kind of a lexical category. -/
def ofCategory : Category → Kind
  | .openTag => openTag
  | .openTagWithEcho => openTagWithEcho
  | .closeTag => closeTag
  | .inlineHtml => inlineHtml
  | .whitespace => whitespace
  | .comment => comment
  | .docComment => docComment
  | .attributeOpen => attributeOpen
  | .identifier => identifier
  | .nameQualified => nameQualified
  | .nameFullyQualified => nameFullyQualified
  | .nameRelative => nameRelative
  | .nsSeparator => nsSeparator
  | .variableName => variableName
  | .constantEncapsedString => constantEncapsedString
  | .encapsedAndWhitespace => encapsedAndWhitespace
  | .startHeredoc => startHeredoc
  | .endHeredoc => endHeredoc
  | .lnumber => lnumber
  | .dnumber => dnumber
  | .curlyOpen => curlyOpen
  | .dollarOpenCurlyBraces => dollarOpenCurlyBraces
  | .kwNamespace => kwNamespace
  | .kwUse => kwUse
  | .kwClass => kwClass
  | .kwTrait => kwTrait
  | .kwInterface => kwInterface
  | .kwEnum => kwEnum
  | .kwFunction => kwFunction
  | .kwFn => kwFn
  | .kwExtends => kwExtends
  | .kwImplements => kwImplements
  | .kwConst => kwConst
  | .kwVar => kwVar
  | .kwPublic => kwPublic
  | .kwProtected => kwProtected
  | .kwPrivate => kwPrivate
  | .kwStatic => kwStatic
  | .kwFinal => kwFinal
  | .kwAbstract => kwAbstract
  | .kwReadonly => kwReadonly
  | .kwIf => kwIf
  | .kwElseif => kwElseIf
  | .kwElse => kwElse
  | .kwFor => kwFor
  | .kwForeach => kwForeach
  | .kwWhile => kwWhile
  | .kwDo => kwDo
  | .kwSwitch => kwSwitch
  | .kwCase => kwCase
  | .kwDefault => kwDefault
  | .kwMatch => kwMatch
  | .kwBreak => kwBreak
  | .kwContinue => kwContinue
  | .kwReturn => kwReturn
  | .kwTry => kwTry
  | .kwCatch => kwCatch
  | .kwFinally => kwFinally
  | .kwThrow => kwThrow
  | .kwYield => kwYield
  | .booleanAnd => booleanAnd
  | .booleanOr => booleanOr
  | .logicalAnd => logicalAnd
  | .logicalOr => logicalOr
  | .logicalXor => logicalXor
  | .coalesce => coalesce
  | .objectOperator => objectOperator
  | .nullsafeObjectOperator => nullsafeObjectOperator
  | .doubleColon => doubleColon
  | .paamayimNekudotayim => doubleColon
  | .doubleArrow => doubleArrow
  | .ellipsis => ellipsis
  | .kwNew => kwNew
  | .kwRequire => kwRequire
  | .kwRequireOnce => kwRequireOnce
  | .kwInclude => kwInclude
  | .kwIncludeOnce => kwIncludeOnce
  | .kwHaltCompiler => kwHaltCompiler
  | _ => other

/-- Blanks and line breaks between tokens. -/
def isWhitespace (k : Kind) : Bool := k == whitespace

/-- Comments of either form. -/
def isComment (k : Kind) : Bool := k == comment || k == docComment

/-- The pieces a possibly qualified name is made of. -/
def isNamePart : Kind → Bool
  | identifier | nameQualified | nameFullyQualified | nameRelative | nsSeparator => true
  | _ => false

/-- The words `public`, `protected` and `private`. -/
def isVisibility : Kind → Bool
  | kwPublic | kwProtected | kwPrivate => true
  | _ => false

/-- The words `static`, `final` and `abstract`. -/
def isModifier : Kind → Bool
  | kwStatic | kwFinal | kwAbstract => true
  | _ => false

/-- The tokens that a closing curly bracket balances. -/
def opensCurly : Kind → Bool
  | openCurly | curlyOpen | dollarOpenCurlyBraces => true
  | _ => false

/-- The tokens at which control flow branches, the ternary operator apart. -/
def isDecision : Kind → Bool
  | kwIf | kwElseIf | kwFor | kwForeach | kwWhile | kwCase | kwCatch => true
  | booleanAnd | booleanOr | logicalAnd | logicalOr => true
  | _ => false

end Kind

end PhpOutline
