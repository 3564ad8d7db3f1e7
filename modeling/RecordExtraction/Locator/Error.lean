/-!
# What can be wrong with a locator

A locator fails when its text is no expression, when it asks for something that does not exist, or
when it is evaluated and does not select nodes.
-/

namespace RecordExtraction

/-- Why a locator has no answer.  Offsets count the bytes of the expression. -/
inductive PathError where
  | empty
  | unexpectedChar (found : Char) (offset : Nat)
  | unexpectedEnd
  | unknownNodeTest (name : String)
  | unknownAxis (name : String)
  | unknownFunction (name : String)
  | argumentCount (function : String) (found : Nat)
  | unboundVariable (name : String)
  | notANodeSet
  | unterminatedLiteral (offset : Nat)
deriving DecidableEq, Repr

/-- The text that reports the error. -/
def PathError.message : PathError → String
  | .empty => "empty path expression"
  | .unexpectedChar found offset =>
      "unexpected character '" ++ String.singleton found ++ s!"' at offset {offset}"
  | .unexpectedEnd => "unexpected end of expression"
  | .unknownNodeTest name => "unsupported node test '" ++ name ++ "()'"
  | .unknownAxis name => "unknown axis '" ++ name ++ "'"
  | .unknownFunction name => "unknown function '" ++ name ++ "()'"
  | .argumentCount function found =>
      "function '" ++ function ++ s!"()' does not take {found} argument(s)"
  | .unboundVariable name => "variable '$" ++ name ++ "' is not bound"
  | .notANodeSet => "expression does not select nodes"
  | .unterminatedLiteral offset => s!"unterminated string literal starting at offset {offset}"

end RecordExtraction
