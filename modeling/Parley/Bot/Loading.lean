import Parley.Bot.Basic
import Parley.Script.Reader

/-!
# Loading scripts

A script is read as a whole and then applied to a bot, directive by directive. A script that
cannot be read is not applied at all; a trigger whose pattern is malformed is left out and
reported.
-/
namespace Parley

/-- What loading a script did. -/
structure LoadReport where
  version : Option Float
  /-- How many triggers were registered. -/
  triggers : Nat
  /-- Why the others were not. -/
  rejected : List Error
  warnings : List String

namespace Bot

/-- The topic of the triggers in the block that a script may begin with. -/
def beginTopic : String := "__begin__"

def scriptRules (b : Bot) : Script.Rules := ⟨b.options.supported, defaultTopic, beginTopic⟩

/-- A bot on which directives have been carried out, and the outcome of each trigger among them,
latest first. -/
structure Applied where
  bot : Bot
  outcomes : List (Except Error TriggerId)

def apply (a : Applied) : Script.Directive → Applied
  | .array name entries => { a with bot := a.bot.defineArray name entries }
  | .topic name includes inherits =>
    let bot := a.bot.ensureTopic name
    let bot := includes.foldl (·.addInclude name ·) bot
    { a with bot := inherits.foldl (·.addInherit name ·) bot }
  | .trigger t =>
    let (bot, outcome) := a.bot.register t.topic t.pattern t.responses t.previous
    ⟨bot, outcome :: a.outcomes⟩

def error? : Except Error TriggerId → Option Error
  | .ok _ => none
  | .error error => some error

/-- Loads the text of a script, which is read before the bot is touched. -/
def load (b : Bot) (source : String) : Bot × Except Error LoadReport :=
  match Script.read b.scriptRules source with
  | .error error => (b, .error error)
  | .ok script =>
    let applied := script.directives.foldl apply ⟨b, []⟩
    let outcomes := applied.outcomes.reverse
    let rejected := outcomes.filterMap error?
    (applied.bot, .ok
      { version := script.version
        triggers := outcomes.length - rejected.length
        rejected
        warnings := script.warnings.map Script.Warning.message })

end Bot
end Parley
