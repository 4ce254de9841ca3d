import PythonSyntax.Source

/-
Why a text is rejected.

A `Cause` has one constructor for each rule that a text can break, and `Cause.message` words it.
A `SyntaxError` is a cause with the span of the text at fault.
-/

namespace PythonSyntax

/-- Why a numeric literal has no value. -/
inductive NumberFault where
  | leadingZeros
  | malformed (text : String)
deriving DecidableEq, Repr

namespace NumberFault

/-- The wording of the fault. -/
def message : NumberFault → String
  | leadingZeros =>
    "leading zeros in decimal integer literals are not permitted; " ++
      "use an 0o prefix for octal integers"
  | malformed text => "invalid numeric literal '" ++ text ++ "'"

end NumberFault

/-- Why the body of a string literal has no value. -/
inductive StringFault where
  | nonAsciiBytes
  | truncatedByte
  | truncatedShort
  | truncatedLong
  | beyondUnicode
  | malformedName
  | unknownName
deriving DecidableEq, Repr

namespace StringFault

/-- The wording of the fault. -/
def message : StringFault → String
  | nonAsciiBytes => "bytes can only contain ASCII literal characters."
  | truncatedByte => "(unicode error) truncated \\xXX escape"
  | truncatedShort => "(unicode error) truncated \\uXXXX escape"
  | truncatedLong => "(unicode error) truncated \\UXXXXXXXX escape"
  | beyondUnicode => "(unicode error) illegal Unicode character"
  | malformedName => "(unicode error) malformed \\N character escape"
  | unknownName => "(unicode error) unknown Unicode character name"

end StringFault

/-- Why a text is no program. -/
inductive Cause where
  /-- A token that cannot continue the current rule. -/
  | unexpectedToken
  | unexpectedIndent
  | unexpectedEnd
  -- characters and lines
  | strayCharacter (c : Char)
  | openTripleQuote
  | openQuote
  | inconsistentDedent
  | missingBlock
  -- brackets and nesting
  | tooManyBrackets
  | tooManyLevels
  | unmatchedClosing (closing : String)
  | mismatchedClosing (opening closing : String)
  -- targets
  | cannotAssign (what : String)
  | cannotDelete (what : String)
  | cannotName (what : String)
  | cannotAugment
  | cannotAnnotateTuple
  | cannotAnnotateList
  | cannotAnnotate (what : String)
  -- arguments and parameters
  | starAfterDoubleStar
  | keywordNotName
  | bareGenerator
  | positionalAfterDoubleStar
  | positionalAfterKeyword
  | defaultBeforePlain
  | bareStar
  -- statements
  | bareExceptNotLast
  | trailingImportComma
  -- literals
  | number (fault : NumberFault)
  | string (fault : StringFault)
  | mixedBytes
  -- replacement fields of f-strings
  | fieldEmpty
  | fieldTrailing
  | fieldUnclosed
  | fieldBackslash
  | fieldComment
  | fieldOpenString
  | fieldConversion
  | fieldTooDeep
  | loneBrace
  /-- The step budget of a run is used up; that of `parseModule` is enough for every text. -/
  | outOfFuel
deriving DecidableEq, Repr

/-- The upper case hexadecimal text of a number, in at least four digits. -/
def codePointDigits (n : Nat) : String :=
  let ds := (Nat.toDigits 16 n).map Char.toUpper
  String.ofList (List.replicate (4 - ds.length) '0' ++ ds)

namespace Cause

/-- The wording of a cause. -/
def message : Cause → String
  | unexpectedToken => "invalid syntax"
  | unexpectedIndent => "unexpected indent"
  | unexpectedEnd => "unexpected EOF while parsing"
  | strayCharacter c =>
    "invalid character '" ++ c.toString ++ "' (U+" ++ codePointDigits c.toNat ++ ")"
  | openTripleQuote => "EOF while scanning triple-quoted string literal"
  | openQuote => "EOL while scanning string literal"
  | inconsistentDedent => "unindent does not match any outer indentation level"
  | missingBlock => "expected an indented block"
  | tooManyBrackets => "too many nested parentheses"
  | tooManyLevels => "too many levels of nesting"
  | unmatchedClosing closing => "unmatched '" ++ closing ++ "'"
  | mismatchedClosing opening closing =>
    "closing parenthesis '" ++ closing ++ "' does not match opening parenthesis '"
      ++ opening ++ "'"
  | cannotAssign what => "cannot assign to " ++ what
  | cannotDelete what => "cannot delete " ++ what
  | cannotName what => "cannot use assignment expressions with " ++ what
  | cannotAugment => "illegal expression for augmented assignment"
  | cannotAnnotateTuple => "only single target (not tuple) can be annotated"
  | cannotAnnotateList => "only single target (not list) can be annotated"
  | cannotAnnotate what => "illegal target for annotation: " ++ what
  | starAfterDoubleStar => "iterable argument unpacking follows keyword argument unpacking"
  | keywordNotName => "expression cannot contain assignment, perhaps you meant \"==\"?"
  | bareGenerator => "Generator expression must be parenthesized"
  | positionalAfterDoubleStar => "positional argument follows keyword argument unpacking"
  | positionalAfterKeyword => "positional argument follows keyword argument"
  | defaultBeforePlain => "non-default argument follows default argument"
  | bareStar => "named arguments must follow bare *"
  | bareExceptNotLast => "default 'except:' must be last"
  | trailingImportComma => "trailing comma not allowed without surrounding parentheses"
  | number fault => fault.message
  | string fault => fault.message
  | mixedBytes => "cannot mix bytes and nonbytes literals"
  | fieldEmpty => "f-string: empty expression not allowed"
  | fieldTrailing => "f-string: invalid syntax"
  | fieldUnclosed => "f-string: expecting '\x7d'"
  | fieldBackslash => "f-string expression part cannot include a backslash"
  | fieldComment => "f-string expression part cannot include '#'"
  | fieldOpenString => "f-string: unterminated string"
  | fieldConversion => "f-string: invalid conversion character: expected 's', 'r', or 'a'"
  | fieldTooDeep => "f-string: expressions nested too deeply"
  | loneBrace => "f-string: single '\x7d' is not allowed"
  | outOfFuel => "out of fuel"

/-- Whether the cause is one of the two that a higher nesting limit can remove. -/
def isNesting : Cause → Bool
  | tooManyBrackets | tooManyLevels => true
  | _ => false

end Cause

/-- A rejection: the cause and the text at fault. -/
structure SyntaxError where
  cause : Cause
  span : Span
deriving DecidableEq, Repr

/-- The description of an error within the text being read. -/
def SyntaxError.describe (e : SyntaxError) : String :=
  e.cause.message ++ " at byte " ++ toString e.span.start

end PythonSyntax
