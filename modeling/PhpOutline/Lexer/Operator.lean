import PhpOutline.Lexer.Cut
import PhpOutline.Token.Category

/-!
# Operators of several characters

The longest operator that starts the source is taken: an operator of three characters stands in
the table before those of two.
-/

namespace PhpOutline.Lexer

/-- The operators of several characters. -/
def operators : List (String × Category) :=
  [("<=>", .spaceship), ("**=", .powEqual), ("...", .ellipsis), ("<<=", .slEqual),
   (">>=", .srEqual), ("===", .isIdentical), ("!==", .isNotIdentical),
   ("??=", .coalesceEqual), ("?->", .nullsafeObjectOperator), ("**", .pow),
   ("::", .doubleColon), ("->", .objectOperator), ("=>", .doubleArrow), ("++", .inc),
   ("--", .dec), ("==", .isEqual), ("!=", .isNotEqual), ("<>", .isNotEqual),
   ("<=", .isSmallerOrEqual), (">=", .isGreaterOrEqual), ("&&", .booleanAnd),
   ("||", .booleanOr), ("??", .coalesce), ("+=", .plusEqual), ("-=", .minusEqual),
   ("*=", .mulEqual), ("/=", .divEqual), (".=", .concatEqual), ("%=", .modEqual),
   ("&=", .andEqual), ("|=", .orEqual), ("^=", .xorEqual), ("<<", .sl), (">>", .sr)]

/-- The operator that starts the source, if there is one. -/
def operator? (cs : List Char) : Option (String × Category) :=
  operators.find? fun op => op.1.toList.isPrefixOf cs

end PhpOutline.Lexer
