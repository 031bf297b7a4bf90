import PhpOutline.Lexer.Charset
import PhpOutline.Lexer.Cut
import PhpOutline.Text.Ascii
import PhpOutline.Token.Category

/-!
# Words and names

A name is one word or several words joined by single backslashes, with or without a backslash in
front.  A single word is reserved or an identifier, and which of the two depends on its context:
after a member access and as the name of a function every word is an identifier.
-/

namespace PhpOutline.Lexer

/-- What the tokens before a word say about it; white space and comments say nothing. -/
inductive Context
  /-- Nothing: a reserved word is reserved. -/
  | plain
  /-- The word follows an object operator and names a member. -/
  | member
  /-- The word follows a double colon and names a member, unless it is `class`. -/
  | staticMember
  /-- The word follows `function`, with or without the `&` of a reference, and names it. -/
  | functionName
deriving DecidableEq, Inhabited

/-- The reserved words in small letters, with their categories. -/
def reservedWords : List (String × Category) :=
  [("abstract", .kwAbstract), ("and", .logicalAnd), ("array", .kwArray), ("as", .kwAs),
   ("break", .kwBreak), ("callable", .kwCallable), ("case", .kwCase), ("catch", .kwCatch),
   ("class", .kwClass), ("clone", .kwClone), ("const", .kwConst), ("continue", .kwContinue),
   ("declare", .kwDeclare), ("default", .kwDefault), ("die", .kwExit), ("exit", .kwExit),
   ("do", .kwDo), ("echo", .kwEcho), ("else", .kwElse), ("elseif", .kwElseif),
   ("empty", .kwEmpty), ("enddeclare", .kwEnddeclare), ("endfor", .kwEndfor),
   ("endforeach", .kwEndforeach), ("endif", .kwEndif), ("endswitch", .kwEndswitch),
   ("endwhile", .kwEndwhile), ("eval", .kwEval), ("extends", .kwExtends), ("final", .kwFinal),
   ("finally", .kwFinally), ("fn", .kwFn), ("for", .kwFor), ("foreach", .kwForeach),
   ("function", .kwFunction), ("global", .kwGlobal), ("goto", .kwGoto), ("if", .kwIf),
   ("implements", .kwImplements), ("include", .kwInclude), ("include_once", .kwIncludeOnce),
   ("instanceof", .kwInstanceof), ("insteadof", .kwInsteadof), ("interface", .kwInterface),
   ("isset", .kwIsset), ("list", .kwList), ("match", .kwMatch), ("namespace", .kwNamespace),
   ("new", .kwNew), ("or", .logicalOr), ("print", .kwPrint), ("private", .kwPrivate),
   ("protected", .kwProtected), ("public", .kwPublic), ("readonly", .kwReadonly),
   ("require", .kwRequire), ("require_once", .kwRequireOnce), ("return", .kwReturn),
   ("static", .kwStatic), ("switch", .kwSwitch), ("throw", .kwThrow), ("trait", .kwTrait),
   ("try", .kwTry), ("unset", .kwUnset), ("use", .kwUse), ("var", .kwVar), ("while", .kwWhile),
   ("xor", .logicalXor), ("yield", .kwYield), ("__halt_compiler", .kwHaltCompiler),
   ("__class__", .kwClassC), ("__dir__", .kwDir), ("__file__", .kwFile),
   ("__function__", .kwFuncC), ("__line__", .kwLine), ("__method__", .kwMethodC),
   ("__namespace__", .kwNsC), ("__trait__", .kwTraitC)]

/-- The category of a reserved word, in any case of its letters. -/
def reserved? (word : List Char) : Option Category :=
  reservedWords.lookup (String.ofList (Text.lower word))

/-- The word is `spelling`, in any case of its letters. -/
def isWord (spelling : String) (word : List Char) : Bool := Text.lower word == spelling.toList

/-- The word names a member or a function and is an identifier whatever its spelling. -/
def Context.makesIdentifier (context : Context) (word : List Char) : Bool :=
  match context with
  | .plain => false
  | .member | .functionName => true
  | .staticMember => !isWord "class" word

/-- What follows is white space and a word that can be declared: the word `enum` in front of it
starts a declaration. -/
def declaredNameFollows (rest : List Char) : Bool :=
  let name := rest.dropWhile isSpace
  let word := name.takeWhile isNameChar
  nextIs isSpace rest && nextIs isNameStart name &&
    !isWord "extends" word && !isWord "implements" word

/-- The category of a single word, given what follows it. -/
def wordCategory (context : Context) (word rest : List Char) : Category :=
  if context.makesIdentifier word then .identifier
  else if isWord "enum" word && declaredNameFollows rest then .kwEnum
  else (reserved? word).getD .identifier

/-- A name goes on: the next character belongs to a word, or is a backslash before one. -/
def continuesName : List Char → Bool
  | [] => false
  | c :: cs => isNameChar c || (c == '\\' && nextIs isNameStart cs)

/-- Cuts behind a name. -/
def name (cs : List Char) : Cut := Cut.before (fun rest => !continuesName rest) cs

/-- A name starts with the first character of a word, or with a backslash before one. -/
def startsName (c : Char) (cs : List Char) : Bool :=
  isNameStart c || (c == '\\' && nextIs isNameStart cs)

theorem name_lossless {c : Char} {cs : List Char} (h : startsName c cs = true) :
    (name (c :: cs)).whole = c :: cs ∧ (name (c :: cs)).text ≠ [] := by
  have hgoes : continuesName (c :: cs) = true := by
    simp only [startsName, Bool.or_eq_true] at h
    simp only [continuesName, isNameChar, Bool.or_eq_true]
    exact h.imp_left Or.inl
  simp [name, Cut.text_before_ne_nil, hgoes]

/-- The category of a name, given what follows it. -/
def nameCategory (context : Context) (text rest : List Char) : Category :=
  if text.head? = some '\\' then .nameFullyQualified
  else if '\\' ∈ text then
    if isWord "namespace" (text.takeWhile isNameChar) then .nameRelative else .nameQualified
  else wordCategory context text rest

end PhpOutline.Lexer
