/-! # Limits and errors of templates

Bounds on what is read as a template, the causes for which one is refused, and their wording.
Offsets are byte positions in the text. -/

namespace CacheKeys.Template

/-- Bounds applied while a template is read: on the braces open at once, and on the length in bytes.
-/
structure Limits where
  maxDepth : Nat
  maxLength : Nat
  deriving DecidableEq

/-- Thirty-two braces and eight kibibytes. -/
def Limits.standard : Limits := ⟨32, 8192⟩

/-- Why a template is refused; the offset is the byte position of the brace, quote, name or numeral
at fault. -/
inductive CompileError where
  | unbalancedBraces (offset : Nat)
  | unknownFunction (name : String) (offset : Nat)
  | unterminatedQuote (offset : Nat)
  | emptyExpression (offset : Nat)
  -- a lone numeral that is no index
  | invalidArgumentIndex (text : String) (offset : Nat)
  | nestingTooDeep (limit : Nat)
  | templateTooLong (length limit : Nat)
  deriving DecidableEq

namespace CompileError

/-- The byte position that the error points at, if it has one. -/
def offset? : CompileError → Option Nat
  | unbalancedBraces offset => some offset
  | unknownFunction _ offset => some offset
  | unterminatedQuote offset => some offset
  | emptyExpression offset => some offset
  | invalidArgumentIndex _ offset => some offset
  | nestingTooDeep _ => none
  | templateTooLong _ _ => none

def message : CompileError → String
  | unbalancedBraces offset => "Unbalanced braces at offset " ++ toString offset
  | unknownFunction name offset => "Unknown function `" ++ name ++ "` at offset " ++ toString offset
  | unterminatedQuote offset => "Unterminated quote at offset " ++ toString offset
  | emptyExpression offset => "Empty expression at offset " ++ toString offset
  | invalidArgumentIndex text offset =>
    "Invalid argument index `" ++ text ++ "` at offset " ++ toString offset
  | nestingTooDeep limit =>
    "Expressions nested deeper than " ++ toString limit ++ " levels"
  | templateTooLong length limit =>
    "Template is " ++ toString length ++ " bytes, limit is " ++ toString limit

end CompileError

end CacheKeys.Template
