/-!
# Warnings

What a script holds that is skipped, each with the number of its line.
-/
namespace Parley.Script

inductive Oddity where
  | malformedDefinition
  | unnamedArray
  | unsupportedDefinition (kind : String)
  | previousWithoutTrigger
  | responseWithoutTrigger
  | continuationWithoutResponse
  | unsupportedCommand (symbol : Char)
  | unnamedTopic
  /-- A word after a topic's name that belongs to no list. -/
  | strayWord (word : String)
  | unsupportedBlock (kind : String)
  | untypedBlock
  deriving DecidableEq

namespace Oddity

def message : Oddity → String
  | malformedDefinition => "malformed definition"
  | unnamedArray => "array definition without a name"
  | unsupportedDefinition kind => "unsupported definition '" ++ kind ++ "'"
  | previousWithoutTrigger => "'%' without a trigger"
  | responseWithoutTrigger => "'-' without a trigger"
  | continuationWithoutResponse => "'^' without a response to continue"
  | unsupportedCommand symbol => "unsupported command '" ++ symbol.toString ++ "'"
  | unnamedTopic => "topic without a name"
  | strayWord word => "stray word '" ++ word ++ "'"
  | unsupportedBlock kind => "unsupported block '" ++ kind ++ "'"
  | untypedBlock => "block without a type"

end Oddity

structure Warning where
  line : Nat
  oddity : Oddity
  deriving DecidableEq

namespace Warning

def message (w : Warning) : String := "line " ++ toString w.line ++ ": " ++ w.oddity.message

end Warning
end Parley.Script
