import Listfile.Text.Position
import Listfile.Text.Quoted

/-!
# What can be wrong with a list file

* `Cause`: what is wrong, and its wording.
* `Fault`: a cause with the place where it was found.
-/

namespace Listfile.Tree

/-- What is wrong with a list file. -/
inductive Cause
  | unexpectedCharacter (c : Char)
  | unterminatedQuote
  /-- A bracket that is never closed by the text it needs. -/
  | unterminatedBracket (closer : List Char)
  | missingOpenParen (command : List Char)
  | unclosedArguments
  | nestingTooDeep (limit : Nat)
  | unexpectedCloseParen
  | expectedCommand (found : List Char)
deriving DecidableEq

/-- A text between grave accents. -/
def Cause.marked (text : List Char) : List Char := '\x60' :: text ++ ['\x60']

/-- The wording of a cause. -/
def Cause.message : Cause → List Char
  | unexpectedCharacter c => "unexpected character ".toList ++ quoteChar c
  | unterminatedQuote => "unterminated quoted argument".toList
  | unterminatedBracket closer => "unterminated bracket, expected ".toList ++ marked closer
  | missingOpenParen command => "expected '(' after command name ".toList ++ marked command
  | unclosedArguments => "argument list is never closed".toList
  | nestingTooDeep limit =>
    "parentheses nested deeper than ".toList ++ (toString limit).toList ++ " levels".toList
  | unexpectedCloseParen => "unexpected ')'".toList
  | expectedCommand found => "expected a command name, found ".toList ++ marked found

/-- Something wrong at a byte offset. -/
structure Fault where
  cause : Cause
  offset : Nat
deriving DecidableEq

/-- Where the fault is. -/
def Fault.position (f : Fault) (source : List Char) : Position := .ofOffset source f.offset

/-- What is wrong, and where. -/
def Fault.message (f : Fault) (source : List Char) : List Char :=
  f.cause.message ++ " at ".toList ++ (f.position source).describe.toList

end Listfile.Tree
