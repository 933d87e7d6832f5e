import CommandAdvisor.Text.Basic

/-!
# Tokens of a command line

A token is a stretch of a command line with the part it plays there. White space is
a token too, so the texts of all tokens together are the line itself.
-/
namespace CommandAdvisor.Command

/-- The part that a token plays. -/
inductive TokenKind where
  | command
  | option
  | argument
  | pipe
  | redirect
  | operator
  | whitespace
  deriving DecidableEq, Inhabited

namespace TokenKind

/-- Every kind. -/
def all : List TokenKind :=
  [.command, .option, .argument, .pipe, .redirect, .operator, .whitespace]

/-- The name of a kind where it is written out. -/
def name : TokenKind → Text
  | .command => "command"
  | .option => "option"
  | .argument => "argument"
  | .pipe => "pipe"
  | .redirect => "redirect"
  | .operator => "operator"
  | .whitespace => "whitespace"

/-- The kind with a name. -/
def ofName? (s : Text) : Option TokenKind := all.find? fun k => k.name == s

@[simp] theorem ofName?_name (k : TokenKind) : ofName? k.name = some k := by
  cases k <;> decide +kernel

end TokenKind

/-- A stretch of a command line. -/
structure Token where
  text : Text
  kind : TokenKind
  deriving DecidableEq, Inhabited

namespace Token

/-- The command line that tokens were cut from. -/
def join (tokens : List Token) : Text := tokens.flatMap Token.text

@[simp] theorem join_nil : join [] = [] := rfl

end Token

end CommandAdvisor.Command
