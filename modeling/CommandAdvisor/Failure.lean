import CommandAdvisor.Json.Room
import CommandAdvisor.Number.Quantity
import CommandAdvisor.Record.Issue
import CommandAdvisor.Storage.Disk

/-!
# Failures

The causes for which an operation ends without a result. Each has a label, the word by
which it is reported in short, and a message.
-/
namespace CommandAdvisor

/-- What an explanation service reports when it cannot answer. -/
inductive ServiceFault where
  /-- The service could not be reached or broke down. -/
  | outage (text : Text)
  /-- The service refused the request. -/
  | rejected (text : Text)
  /-- The service did not know something by this name. -/
  | unknownName (name : Text)
  deriving DecidableEq

/-- Why an operation ends without a result. -/
inductive Failure where
  /-- A value is not the record that it should be. -/
  | invalid (issues : List Record.Issue)
  /-- A text is not JSON. -/
  | notJson
  /-- A file does not hold text. -/
  | notText
  /-- A JSON text holds an integer that is too long to be read. -/
  | longInteger (digits : Nat)
  /-- There was no room left to read a JSON text to its end. -/
  | exhausted (during : Json.Strain)
  /-- A value that is to be stored holds an integer that is too long to be written. -/
  | oversized
  | storage (refusal : Storage.Refusal)
  | service (fault : ServiceFault)
  /-- A path starts in the home directory of somebody who has none. -/
  | noHome
  /-- There is no command to explain. -/
  | noCommand
  /-- A number of days was asked for and not given, at a time. -/
  | noAmount (now : Number.Quantity)
  /-- A whole number is too large to be rounded to a binary one. -/
  | hugeNumber
  /-- A text that others are to read holds half of a surrogate pair. -/
  | unreadable (obstacle : Text.Obstacle)
  deriving DecidableEq

namespace Storage

/-- The label of a fault. -/
def Fault.label : Fault → Text
  | notFound => "FileNotFoundError"
  | «exists» => "FileExistsError"
  | notDirectory => "NotADirectoryError"
  | isDirectory => "IsADirectoryError"
  | nullCharacter => "ValueError"
  | unwritable _ => "UnicodeEncodeError"
  | busy | nameTooLong => "OSError"

end Storage

namespace ServiceFault

/-- The label of a report. -/
def label : ServiceFault → Text
  | outage _ => "RuntimeError"
  | rejected _ => "ValueError"
  | unknownName _ => "KeyError"

/-- What the service said; a name is quoted. -/
def message : ServiceFault → Text
  | outage text | rejected text => text
  | unknownName name => Text.quoted name

end ServiceFault

namespace Failure

/-- The label of a failure. -/
def label : Failure → Text
  | invalid _ => "ValidationError"
  | notJson => "JSONDecodeError"
  | notText => "UnicodeDecodeError"
  | longInteger _ => "ValueError"
  | exhausted _ => "RecursionError"
  | oversized => "ValueError"
  | storage refusal => refusal.fault.label
  | service fault => fault.label
  | noHome => "RuntimeError"
  | noCommand => "ValueError"
  | noAmount _ => "TypeError"
  | hugeNumber => "OverflowError"
  | unreadable _ => "PydanticSerializationError"

/-- What a quantity is called in a message. -/
def kindOf : Number.Quantity → Text
  | .whole _ => "int"
  | .real _ => "float"

/-- What is said about a failure. -/
def message : Failure → Text
  | invalid issues => Text.ofNat issues.length ++ " issues"
  | notJson => "not JSON"
  | notText => "not text"
  | longInteger digits =>
    "Exceeds the limit (4300 digits) for integer string conversion: value has " ++
      Text.ofNat digits ++
      " digits; use sys.set_int_max_str_digits() to increase the limit"
  | exhausted during => "maximum recursion depth exceeded" ++ during.text
  | oversized =>
    "Exceeds the limit (4300 digits) for integer string conversion; " ++
      "use sys.set_int_max_str_digits() to increase the limit"
  | storage refusal => refusal.message
  | service fault => fault.message
  | noHome => "Could not determine home directory."
  | noCommand => "Command is required"
  | noAmount now =>
    "unsupported operand type(s) for -: '" ++ kindOf now ++ "' and 'list'"
  | hugeNumber => "int too large to convert to float"
  | unreadable obstacle =>
    "Error serializing to JSON: UnicodeEncodeError: " ++ obstacle.message

end Failure

end CommandAdvisor
