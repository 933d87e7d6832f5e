import CommandAdvisor.Text.Blank
import CommandAdvisor.Text.Lowercase

/-!
# Profiles of commands

A rough idea of what a saved command is for and of how much it does, for lists of
history entries.

## Main definitions
* `category`: what a command is for, by its first word.
* `weight` and `Complexity.ofWeight`: how much a command does.
-/
namespace CommandAdvisor.History

/-- The categories of common commands. -/
def categories : List (Text × Text) := [
  ("ls", "file-listing"),
  ("find", "search"),
  ("grep", "text-search"),
  ("tar", "archive"),
  ("git", "version-control"),
  ("curl", "network"),
  ("wget", "network"),
  ("docker", "container"),
  ("kubectl", "kubernetes"),
  ("ps", "process"),
  ("df", "disk-usage"),
  ("chmod", "permissions"),
  ("chown", "ownership")]

/-- The category of a command that has no other. -/
def generalCategory : Text := "general"

/-- What a command is for, by its first word in any case. -/
def category (command : Text) : Text :=
  match Text.words command with
  | [] => generalCategory
  | word :: _ => (categories.lookup (Text.lower word)).getD generalCategory

/-- How much a command does: each word counts once, each pipe and each angle bracket
twice. -/
def weight (command : Text) : Nat :=
  (Text.words command).length + 2 * command.count (.char '|') +
    2 * command.countP fun (l : Letter) => l = '<' || l = '>'

/-- How much a command does, in words. -/
inductive Complexity where
  | simple
  | moderate
  | complex
  deriving DecidableEq

namespace Complexity

/-- The name of a complexity where it is written out. -/
def name : Complexity → Text
  | simple => "simple"
  | moderate => "moderate"
  | complex => "complex"

/-- The complexity that goes with a weight. -/
def ofWeight (n : Nat) : Complexity :=
  if n ≤ 3 then simple else if n ≤ 6 then moderate else complex

end Complexity

/-- How much a command does, in words. -/
def complexity (command : Text) : Complexity := .ofWeight (weight command)

example : category "LS -la" = "file-listing" := by decide +kernel

example : complexity "a | b > c" = .complex := by decide +kernel

end CommandAdvisor.History
