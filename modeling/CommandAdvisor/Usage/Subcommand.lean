import CommandAdvisor.Usage.Page

/-!
# Subcommands

The program does one of four things, each with options and a help page of its own. Three
of them are followed by a command line.

## Main definitions
* `mainGrammar` and `mainPage`: the options in front of a subcommand.
* `Subcommand`, with its grammar and its page.
-/
namespace CommandAdvisor.Usage

/-- The name that the program goes by. -/
def programName : Text := "cmdlens"

/-- The version of the program. -/
def version : Text := "0.1.0"

/-- The program with its version. -/
def fullName : Text := programName ++ " " ++ version

/-- What can be asked for. -/
inductive Subcommand where
  | tokenize
  | assess
  | explain
  | history
  deriving DecidableEq

/-! ## Flags -/

/-- Shows a help page. -/
def helpFlag : Flag := ⟨some (.char 'h'), "help", [], "show this help message and exit", by simp⟩

/-- Shows the version. -/
def versionFlag : Flag :=
  ⟨some (.char 'V'), "version", [], "show program's version number and exit", by simp⟩

/-- Shows everything that the run reports. -/
def debugFlag : Flag := ⟨some (.char 'd'), "debug", [], "Enable debug logging", by simp⟩

/-- A flag without values and without a letter. -/
def plainFlag (word help : Text) : Flag := ⟨none, word, [], help, by simp⟩

/-- A flag with values and without a letter. -/
def valueFlag (word : Text) (values : List Text) (help : Text) : Flag :=
  ⟨none, word, values, help, by simp⟩

/-- Prints tokens as data. -/
def tokensAsDataFlag : Flag := plainFlag "json" "Print tokens as JSON"

/-- Prints the verdict as data. -/
def verdictAsDataFlag : Flag := plainFlag "json" "Print the analysis as JSON"

/-- Makes the status tell whether the command is safe. -/
def strictFlag : Flag :=
  plainFlag "strict" "Exit with status 1 when the command is not safe"

/-- Prints the explanation as data. -/
def explanationAsDataFlag : Flag := plainFlag "json" "Print the explanation as JSON"

/-- Leaves the history alone. -/
def noHistoryFlag : Flag :=
  plainFlag "no-history" "Do not save the explained command to history"

/-- Shows the entries that hold a query. -/
def searchFlag : Flag := valueFlag "search" ["QUERY"] "Only show matching commands"

/-- Shows the favorites. -/
def favoritesFlag : Flag := plainFlag "favorites" "Only show favorites"

/-- Shows the entries with a tag; may be given several times. -/
def tagFlag : Flag := valueFlag "tag" ["TAG"] "Only show tagged commands"

/-- Shows the entries of the last days. -/
def recentFlag : Flag :=
  valueFlag "recent" ["DAYS"] "Only show commands saved in the last DAYS days"

/-- Makes an entry a favorite, or no longer one. -/
def favoriteFlag : Flag := valueFlag "favorite" ["ID"] "Toggle the favorite flag of an entry"

/-- Puts a tag on an entry. -/
def addTagFlag : Flag := valueFlag "add-tag" ["ID", "TAG"] "Tag an entry"

/-- Takes a tag off an entry. -/
def removeTagFlag : Flag := valueFlag "remove-tag" ["ID", "TAG"] "Remove a tag from an entry"

/-- Drops all entries. -/
def clearFlag : Flag := plainFlag "clear" "Delete all saved commands"

/-- The flags of the history, of which only one may be used. -/
def historyFlags : List Flag := [searchFlag, favoritesFlag, tagFlag, recentFlag, favoriteFlag,
  addTagFlag, removeTagFlag, clearFlag]

/-- The options in front of a subcommand. -/
def mainGrammar : Grammar := ⟨[helpFlag, versionFlag, debugFlag], true⟩

namespace Subcommand

/-- Every subcommand. -/
def all : List Subcommand := [tokenize, assess, explain, history]

/-- The word for a subcommand. -/
def name : Subcommand → Text
  | tokenize => "tokenize"
  | assess => "assess"
  | explain => "explain"
  | history => "history"

/-- What a subcommand does. -/
def summary : Subcommand → Text
  | tokenize => "Split a command into typed tokens"
  | assess => "Check a command for risky operations"
  | explain => "Explain a command with an LLM"
  | history => "List saved commands"

/-- The subcommand with a name. -/
def ofName? (s : Text) : Option Subcommand := all.find? fun c => c.name == s

/-- The flags of a subcommand, apart from the one for help. -/
def flags : Subcommand → List Flag
  | tokenize => [tokensAsDataFlag]
  | assess => [verdictAsDataFlag, strictFlag]
  | explain => [explanationAsDataFlag, noHistoryFlag]
  | history => historyFlags

/-- The options of a subcommand. Where a command line follows, a word counts as a flag
only when it is spelled in full. -/
def grammar (c : Subcommand) : Grammar := ⟨helpFlag :: c.flags, c = history⟩

@[simp] theorem ofName?_name (c : Subcommand) : ofName? c.name = some c := by
  cases c <;> decide +kernel

end Subcommand

/-! ## Help pages -/

/-- Alternatives in braces. -/
def alternatives (names : List Text) : Text :=
  "\x7b" ++ Text.joinedBy "," names ++ "\x7d"

/-- Something that may be left out. -/
def optionally (s : Text) : Text := "[" ++ s ++ "]"

/-- What a program is called with for a flag: its shortest spelling. -/
def Flag.mention (f : Flag) : Text := Text.joinedBy " " (f.spellings.headD [] :: f.values)

/-- The page of the program. -/
def mainPage : Page :=
  let choices := alternatives (Subcommand.all.map Subcommand.name)
  { program := programName
    options := mainGrammar.flags.map fun f => optionally f.mention
    operands := [choices, "..."]
    introduction :=
      some "Break down shell commands and check them for risk before running them"
    sections := [
      ⟨"positional arguments:",
        ⟨2, choices, []⟩ :: Subcommand.all.map fun c => ⟨4, c.name, c.summary⟩⟩,
      .ofFlags mainGrammar.flags]
    closing := none }

namespace Subcommand

/-- The options that a subcommand is called with. Flags that exclude each other are one. -/
def callOptions (c : Subcommand) : List Text :=
  optionally helpFlag.mention ::
    (if c = history then [optionally (Text.joinedBy " | " (c.flags.map Flag.mention))]
    else c.flags.map fun f => optionally f.mention)

/-- The page of a subcommand. -/
def page (c : Subcommand) : Page :=
  { program := programName ++ " " ++ c.name
    options := c.callOptions
    operands := if c = history then [] else ["[command ...]"]
    introduction := none
    sections :=
      (if c = history then []
        else [⟨"positional arguments:", [⟨2, "command", "Command line"⟩]⟩]) ++
      [.ofFlags c.grammar.flags]
    closing :=
      if c = history then none
      else some "Put -- before a command that uses -h or one of these flags." }

end Subcommand

end CommandAdvisor.Usage
