import CommandAdvisor.Command.Token
import CommandAdvisor.Text.Blank
import CommandAdvisor.Text.Digit

/-!
# Cutting a command line into tokens

A line is cut twice. The first cut separates white space from everything else; a
word that opens a quote without closing it then takes in all runs up to the one in
which the quote closes, or the rest of the line when it never does. The second cut
reads the kinds off the pieces, from left to right, because a word names a command
only at the start of the line and behind a separator.

## Main definitions
* `Piece` and `Piece.gather`: the pieces of a line.
* `kindOfWord`: the kind of a word that holds no white space.
* `classify`: the tokens of a list of pieces.
* `tokenize`: the tokens of a line.
-/
namespace CommandAdvisor.Command

/-- The letters that open and close a quoted span. -/
def isQuote (l : Letter) : Bool := l = '\'' || l = '"'

/-- A piece of a command line. -/
inductive Piece where
  /-- White space. -/
  | blank (letters : Text)
  /-- A word free of white space that opens no quote, or closes the quote it opens. -/
  | word (letters : Text)
  /-- A quoted span that takes in white space. -/
  | span (letters : Text)
  /-- A quoted span that nothing closes. -/
  | unclosed (quote : Letter) (letters : Text)
  deriving DecidableEq

namespace Piece

/-- The letters of a piece. -/
def letters : Piece → Text
  | blank cs | word cs | span cs | unclosed _ cs => cs

/-- The quote that a word opens without closing it. -/
def openedQuote? : Text → Option Letter
  | [] => none
  | l :: s => if isQuote l && !s.contains l then some l else none

/-- The letters of runs that are listed with the last first. -/
def joined (runs : List Text) : Text := runs.reverse.flatten

/-- The pieces of the runs of a line. A pending span is the quote that opened it and the
runs it holds so far, the last first. -/
def gather : Option (Letter × List Text) → List Text → List Piece
  | none, [] => []
  | some (quote, soFar), [] => [.unclosed quote (joined soFar)]
  | some (quote, soFar), run :: rest =>
    if run.contains quote then .span (joined (run :: soFar)) :: gather none rest
    else gather (some (quote, run :: soFar)) rest
  | none, run :: rest =>
    if Text.startsBlank run then .blank run :: gather none rest
    else match openedQuote? run with
      | some quote => gather (some (quote, [run])) rest
      | none => .word run :: gather none rest

/-- The pieces of a line. -/
def ofLine (line : Text) : List Piece := gather none (Text.runs line)

@[simp] theorem joined_nil : joined [] = [] := rfl

@[simp] theorem joined_cons (run : Text) (runs : List Text) :
    joined (run :: runs) = joined runs ++ run := by
  simp [joined]

/-- No letter is lost or doubled. -/
theorem flatMap_letters_gather (pending : Option (Letter × List Text)) (rs : List Text) :
    (gather pending rs).flatMap letters =
      (pending.map fun p => joined p.2).getD [] ++ rs.flatten := by
  fun_induction gather pending rs <;> simp_all [letters]

end Piece

/-- Whether a word directs input or output: one of `<`, `>`, `&` and decimal digits, or
angle brackets only. -/
def isRedirect : Text → Bool
  | [] => false
  | l :: s =>
    ((l = '<' || l = '>' || l = '&') && s.all Text.isDecimalDigit) ||
      (l :: s).all fun d => d = '<' || d = '>'

/-- The words behind which a command may follow. -/
def isSeparator (word : Text) : Bool :=
  word = "|" || word = ";" || word = "&"

/-- The kind of a word that holds no white space. `atStart` says whether a command may
stand here. -/
def kindOfWord (known : List Text) (atStart : Bool) (word : Text) : TokenKind :=
  if word = "|" then .pipe
  else if word = "&&" || word = "||" || word = ";" || word = "&" then .operator
  else if isRedirect word then .redirect
  else if word.head? = some (.char '-') then .option
  else if atStart && known.contains word then .command
  else .argument

/-- The tokens of a list of pieces. -/
def classify (known : List Text) : Bool → List Piece → List Token
  | _, [] => []
  | atStart, piece :: rest =>
    let text := piece.letters
    match piece with
    | .blank _ => ⟨text, .whitespace⟩ :: classify known atStart rest
    | .word cs => ⟨text, kindOfWord known atStart cs⟩ :: classify known (isSeparator cs) rest
    | .span _ | .unclosed _ _ => ⟨text, .argument⟩ :: classify known false rest

/-- The commands that are recognised when no others are given. -/
def knownCommands : List Text := List.map Text.ofString [
  "grep", "awk", "sed", "find", "tar", "git", "curl", "wget", "ssh", "scp", "rsync",
  "docker", "kubectl", "npm", "pip", "apt", "yum", "systemctl", "journalctl", "ps",
  "kill", "chmod", "chown", "ls", "cd", "cp", "mv", "rm", "mkdir", "rmdir",
  "cat", "less", "more", "head", "tail", "sort", "uniq", "wc", "diff", "patch",
  "make", "gcc", "g++", "python", "node", "java", "go", "rust", "cargo"]

/-- The tokens of a command line, given the words that name commands. -/
def tokenize (known : List Text) (line : Text) : List Token :=
  classify known true (Piece.ofLine line)

/-- The quote that a line leaves open. -/
def unclosedQuote? (line : Text) : Option Letter :=
  match (Piece.ofLine line).getLast? with
  | some (.unclosed quote _) => some quote
  | _ => none

@[simp] theorem tokenize_empty (known : List Text) : tokenize known [] = [] := rfl

example : (tokenize knownCommands "ls 'a b' | wc").map Token.kind =
    [.command, .whitespace, .argument, .whitespace, .pipe, .whitespace, .command] := by
  decide +kernel

end CommandAdvisor.Command
