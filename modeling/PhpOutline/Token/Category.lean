/-!
# Lexical categories

The vocabulary in which PHP tokens are named.  `Category` lists the categories that the lexer
emits and the few that only other lexers emit; every further name is kept as `Category.other`, so
that a stream from any lexer can be held.  `Category.name` is the spelling of a category and
`Category.ofName` reads it back.
-/

namespace PhpOutline

/-- A lexical category of PHP, such as whitespace, a variable or the word `class`. -/
inductive Category
  -- markup and trivia
  | openTag | openTagWithEcho | closeTag | inlineHtml | whitespace | comment | docComment
  | attributeOpen
  -- names and literals
  | identifier | nameQualified | nameFullyQualified | nameRelative | nsSeparator | variableName
  | constantEncapsedString | encapsedAndWhitespace | startHeredoc | endHeredoc | lnumber
  | dnumber | curlyOpen | dollarOpenCurlyBraces
  -- reserved words
  | kwAbstract | logicalAnd | kwArray | kwAs | kwBreak | kwCallable | kwCase | kwCatch | kwClass
  | kwClone | kwConst | kwContinue | kwDeclare | kwDefault | kwExit | kwDo | kwEcho | kwElse
  | kwElseif | kwEmpty | kwEnddeclare | kwEndfor | kwEndforeach | kwEndif | kwEndswitch
  | kwEndwhile | kwEval | kwExtends | kwFinal | kwFinally | kwFn | kwFor | kwForeach | kwFunction
  | kwGlobal | kwGoto | kwIf | kwImplements | kwInclude | kwIncludeOnce | kwInstanceof
  | kwInsteadof | kwInterface | kwIsset | kwList | kwMatch | kwNamespace | kwNew | logicalOr
  | kwPrint | kwPrivate | kwProtected | kwPublic | kwReadonly | kwRequire | kwRequireOnce
  | kwReturn | kwStatic | kwSwitch | kwThrow | kwTrait | kwTry | kwUnset | kwUse | kwVar
  | kwWhile | logicalXor | kwYield | kwHaltCompiler | kwClassC | kwDir | kwFile | kwFuncC
  | kwLine | kwMethodC | kwNsC | kwTraitC | kwEnum
  -- operators
  | spaceship | powEqual | ellipsis | slEqual | srEqual | isIdentical | isNotIdentical
  | coalesceEqual | nullsafeObjectOperator | pow | doubleColon | paamayimNekudotayim
  | objectOperator | doubleArrow | inc | dec | isEqual | isNotEqual | isSmallerOrEqual
  | isGreaterOrEqual | booleanAnd | booleanOr | coalesce | plusEqual | minusEqual | mulEqual
  | divEqual | concatEqual | modEqual | andEqual | orEqual | xorEqual | sl | sr
  /-- A category outside the vocabulary, known by its name alone. -/
  | other (name : String)
deriving DecidableEq, Inhabited

namespace Category

/-- The spelling of a category. -/
def name : Category → String
  | openTag => "T_OPEN_TAG"
  | openTagWithEcho => "T_OPEN_TAG_WITH_ECHO"
  | closeTag => "T_CLOSE_TAG"
  | inlineHtml => "T_INLINE_HTML"
  | whitespace => "T_WHITESPACE"
  | comment => "T_COMMENT"
  | docComment => "T_DOC_COMMENT"
  | attributeOpen => "T_ATTRIBUTE"
  | identifier => "T_STRING"
  | nameQualified => "T_NAME_QUALIFIED"
  | nameFullyQualified => "T_NAME_FULLY_QUALIFIED"
  | nameRelative => "T_NAME_RELATIVE"
  | nsSeparator => "T_NS_SEPARATOR"
  | variableName => "T_VARIABLE"
  | constantEncapsedString => "T_CONSTANT_ENCAPSED_STRING"
  | encapsedAndWhitespace => "T_ENCAPSED_AND_WHITESPACE"
  | startHeredoc => "T_START_HEREDOC"
  | endHeredoc => "T_END_HEREDOC"
  | lnumber => "T_LNUMBER"
  | dnumber => "T_DNUMBER"
  | curlyOpen => "T_CURLY_OPEN"
  | dollarOpenCurlyBraces => "T_DOLLAR_OPEN_CURLY_BRACES"
  | kwAbstract => "T_ABSTRACT"
  | logicalAnd => "T_LOGICAL_AND"
  | kwArray => "T_ARRAY"
  | kwAs => "T_AS"
  | kwBreak => "T_BREAK"
  | kwCallable => "T_CALLABLE"
  | kwCase => "T_CASE"
  | kwCatch => "T_CATCH"
  | kwClass => "T_CLASS"
  | kwClone => "T_CLONE"
  | kwConst => "T_CONST"
  | kwContinue => "T_CONTINUE"
  | kwDeclare => "T_DECLARE"
  | kwDefault => "T_DEFAULT"
  | kwExit => "T_EXIT"
  | kwDo => "T_DO"
  | kwEcho => "T_ECHO"
  | kwElse => "T_ELSE"
  | kwElseif => "T_ELSEIF"
  | kwEmpty => "T_EMPTY"
  | kwEnddeclare => "T_ENDDECLARE"
  | kwEndfor => "T_ENDFOR"
  | kwEndforeach => "T_ENDFOREACH"
  | kwEndif => "T_ENDIF"
  | kwEndswitch => "T_ENDSWITCH"
  | kwEndwhile => "T_ENDWHILE"
  | kwEval => "T_EVAL"
  | kwExtends => "T_EXTENDS"
  | kwFinal => "T_FINAL"
  | kwFinally => "T_FINALLY"
  | kwFn => "T_FN"
  | kwFor => "T_FOR"
  | kwForeach => "T_FOREACH"
  | kwFunction => "T_FUNCTION"
  | kwGlobal => "T_GLOBAL"
  | kwGoto => "T_GOTO"
  | kwIf => "T_IF"
  | kwImplements => "T_IMPLEMENTS"
  | kwInclude => "T_INCLUDE"
  | kwIncludeOnce => "T_INCLUDE_ONCE"
  | kwInstanceof => "T_INSTANCEOF"
  | kwInsteadof => "T_INSTEADOF"
  | kwInterface => "T_INTERFACE"
  | kwIsset => "T_ISSET"
  | kwList => "T_LIST"
  | kwMatch => "T_MATCH"
  | kwNamespace => "T_NAMESPACE"
  | kwNew => "T_NEW"
  | logicalOr => "T_LOGICAL_OR"
  | kwPrint => "T_PRINT"
  | kwPrivate => "T_PRIVATE"
  | kwProtected => "T_PROTECTED"
  | kwPublic => "T_PUBLIC"
  | kwReadonly => "T_READONLY"
  | kwRequire => "T_REQUIRE"
  | kwRequireOnce => "T_REQUIRE_ONCE"
  | kwReturn => "T_RETURN"
  | kwStatic => "T_STATIC"
  | kwSwitch => "T_SWITCH"
  | kwThrow => "T_THROW"
  | kwTrait => "T_TRAIT"
  | kwTry => "T_TRY"
  | kwUnset => "T_UNSET"
  | kwUse => "T_USE"
  | kwVar => "T_VAR"
  | kwWhile => "T_WHILE"
  | logicalXor => "T_LOGICAL_XOR"
  | kwYield => "T_YIELD"
  | kwHaltCompiler => "T_HALT_COMPILER"
  | kwClassC => "T_CLASS_C"
  | kwDir => "T_DIR"
  | kwFile => "T_FILE"
  | kwFuncC => "T_FUNC_C"
  | kwLine => "T_LINE"
  | kwMethodC => "T_METHOD_C"
  | kwNsC => "T_NS_C"
  | kwTraitC => "T_TRAIT_C"
  | kwEnum => "T_ENUM"
  | spaceship => "T_SPACESHIP"
  | powEqual => "T_POW_EQUAL"
  | ellipsis => "T_ELLIPSIS"
  | slEqual => "T_SL_EQUAL"
  | srEqual => "T_SR_EQUAL"
  | isIdentical => "T_IS_IDENTICAL"
  | isNotIdentical => "T_IS_NOT_IDENTICAL"
  | coalesceEqual => "T_COALESCE_EQUAL"
  | nullsafeObjectOperator => "T_NULLSAFE_OBJECT_OPERATOR"
  | pow => "T_POW"
  | doubleColon => "T_DOUBLE_COLON"
  | paamayimNekudotayim => "T_PAAMAYIM_NEKUDOTAYIM"
  | objectOperator => "T_OBJECT_OPERATOR"
  | doubleArrow => "T_DOUBLE_ARROW"
  | inc => "T_INC"
  | dec => "T_DEC"
  | isEqual => "T_IS_EQUAL"
  | isNotEqual => "T_IS_NOT_EQUAL"
  | isSmallerOrEqual => "T_IS_SMALLER_OR_EQUAL"
  | isGreaterOrEqual => "T_IS_GREATER_OR_EQUAL"
  | booleanAnd => "T_BOOLEAN_AND"
  | booleanOr => "T_BOOLEAN_OR"
  | coalesce => "T_COALESCE"
  | plusEqual => "T_PLUS_EQUAL"
  | minusEqual => "T_MINUS_EQUAL"
  | mulEqual => "T_MUL_EQUAL"
  | divEqual => "T_DIV_EQUAL"
  | concatEqual => "T_CONCAT_EQUAL"
  | modEqual => "T_MOD_EQUAL"
  | andEqual => "T_AND_EQUAL"
  | orEqual => "T_OR_EQUAL"
  | xorEqual => "T_XOR_EQUAL"
  | sl => "T_SL"
  | sr => "T_SR"
  | other name => name

/-- Every category of the vocabulary, each once. -/
def vocabulary : List Category :=
  [.openTag, .openTagWithEcho, .closeTag, .inlineHtml, .whitespace, .comment, .docComment,
   .attributeOpen, .identifier, .nameQualified, .nameFullyQualified, .nameRelative, .nsSeparator,
   .variableName, .constantEncapsedString, .encapsedAndWhitespace, .startHeredoc, .endHeredoc,
   .lnumber, .dnumber, .curlyOpen, .dollarOpenCurlyBraces, .kwAbstract, .logicalAnd, .kwArray,
   .kwAs, .kwBreak, .kwCallable, .kwCase, .kwCatch, .kwClass, .kwClone, .kwConst, .kwContinue,
   .kwDeclare, .kwDefault, .kwExit, .kwDo, .kwEcho, .kwElse, .kwElseif, .kwEmpty, .kwEnddeclare,
   .kwEndfor, .kwEndforeach, .kwEndif, .kwEndswitch, .kwEndwhile, .kwEval, .kwExtends, .kwFinal,
   .kwFinally, .kwFn, .kwFor, .kwForeach, .kwFunction, .kwGlobal, .kwGoto, .kwIf, .kwImplements,
   .kwInclude, .kwIncludeOnce, .kwInstanceof, .kwInsteadof, .kwInterface, .kwIsset, .kwList,
   .kwMatch, .kwNamespace, .kwNew, .logicalOr, .kwPrint, .kwPrivate, .kwProtected, .kwPublic,
   .kwReadonly, .kwRequire, .kwRequireOnce, .kwReturn, .kwStatic, .kwSwitch, .kwThrow, .kwTrait,
   .kwTry, .kwUnset, .kwUse, .kwVar, .kwWhile, .logicalXor, .kwYield, .kwHaltCompiler, .kwClassC,
   .kwDir, .kwFile, .kwFuncC, .kwLine, .kwMethodC, .kwNsC, .kwTraitC, .kwEnum, .spaceship,
   .powEqual, .ellipsis, .slEqual, .srEqual, .isIdentical, .isNotIdentical, .coalesceEqual,
   .nullsafeObjectOperator, .pow, .doubleColon, .paamayimNekudotayim, .objectOperator,
   .doubleArrow, .inc, .dec, .isEqual, .isNotEqual, .isSmallerOrEqual, .isGreaterOrEqual,
   .booleanAnd, .booleanOr, .coalesce, .plusEqual, .minusEqual, .mulEqual, .divEqual,
   .concatEqual, .modEqual, .andEqual, .orEqual, .xorEqual, .sl, .sr]

/-- The category with the given spelling. -/
def ofName (name : String) : Category :=
  (vocabulary.find? fun c => c.name == name).getD (.other name)

end Category

end PhpOutline
