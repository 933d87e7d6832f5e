import CommandAdvisor.Record.Decoder
import CommandAdvisor.Record.Schema

/-!
# Settings

What the user can set: the explanation service and how to reach it, the history, and
colour. Two of the settings have limits, which are checked when they are read.

## Main definitions
* `Settings`, its form as a record, and `Settings.standard`.
* `Provider` and `providerOfModel?`.
-/
namespace CommandAdvisor

open Json (Value)
open Json.Value (member member?)
open Number (Binary64)
open Record

/-- What the user can set. -/
structure Settings where
  provider : Option Text
  model : Text
  apiKey : Option Text
  temperature : Binary64
  historyFile : Option Text
  maxHistory : Int
  color : Option Bool
  deriving DecidableEq, Inhabited

namespace Settings

/-- The model that is asked when none is set. -/
def standardModel : Text := "groq/llama-3.3-70b-versatile"

/-- One tenth. -/
def standardTemperature : Binary64 := .ofScaled false 1 (-1)

/-- How many commands are kept when no number is set. -/
def standardMaxHistory : Int := 100

/-- The settings of a user who has set nothing. -/
def standard : Settings :=
  { provider := none, model := standardModel, apiKey := none, temperature := standardTemperature
    historyFile := none, maxHistory := standardMaxHistory, color := none }

/-- A temperature within its limits, from zero to two. What is no number is not. -/
def temperature? : Decoder Binary64 := fun v =>
  (Decoder.real v).check fun x =>
    if x.lt (.ofInt 0) then .issue .greaterThanEqual
    else if x.le (.ofInt 2) then .valid x
    else .issue .lessThanEqual

/-- A positive number. -/
def positive? : Decoder Int := fun v =>
  (Decoder.whole v).check fun n => if 0 < n then .valid n else .issue .greaterThan

/-- The settings that a JSON value holds; every field may be left out. -/
def decode : Decoder Settings :=
  .record fun m => Settings.mk <$> withDefault "provider" none (.optional .text) m <*>
    withDefault "model" standardModel .text m <*>
    withDefault "api_key" none (.optional .text) m <*>
    withDefault "temperature" standardTemperature temperature? m <*>
    withDefault "history_file" none (.optional .text) m <*>
    withDefault "max_history" standardMaxHistory positive? m <*>
    withDefault "color" none (.optional .flag) m

/-- Settings as a JSON value, those that are not set included. -/
def encode (s : Settings) : Value :=
  .object [
    ("provider", (s.provider.map Value.string).getD .null),
    ("model", .string s.model),
    ("api_key", (s.apiKey.map Value.string).getD .null),
    ("temperature", .real s.temperature),
    ("history_file", (s.historyFile.map Value.string).getD .null),
    ("max_history", .integer s.maxHistory),
    ("color", (s.color.map Value.bool).getD .null)]

/-- Settings as they are saved: those that are not set are left out. -/
def encodeSet (s : Settings) : Value :=
  .object (member? "provider" (s.provider.map .string) ++ member "model" (.string s.model) ++
    member? "api_key" (s.apiKey.map .string) ++ member "temperature" (.real s.temperature) ++
    member? "history_file" (s.historyFile.map .string) ++
    member "max_history" (.integer s.maxHistory) ++ member? "color" (s.color.map .bool))

/-- The schema of the settings. -/
def schema : Schema where
  name := "CmdlensConfig"
  description := "Runtime configuration for cmdlens."
  fields := [
    (Field.given "provider" (.nullable .text) .null).describedAs
      "Active LLM provider (e.g. 'groq', 'openai', 'anthropic', 'gemini').",
    (Field.given "model" .text (.string standardModel)).describedAs
      "LiteLLM model string used by the explain command.",
    (Field.given "api_key" (.nullable .text) .null).describedAs
      ("API key for the active provider. Overridden at runtime by the provider's " ++
        "environment variable (e.g. GROQ_API_KEY)."),
    (Field.given "temperature" (.realWithin 0 2) (.real standardTemperature)).describedAs
      "Sampling temperature for explain requests.",
    (Field.given "history_file" (.nullable .text) .null).describedAs
      "Path of the history JSON file. Defaults to ~/.cmdlens/history.json.",
    (Field.given "max_history" (.integerAbove 0) (.integer standardMaxHistory)).describedAs
      "Maximum number of history entries kept on disk.",
    (Field.given "color" (.nullable .truth) .null).describedAs
      ("Force colored output on or off. None detects from the terminal. " ++
        "Overridden by CMDLENS_COLOR.")]
  definitions := []

/-- A service that models belong to. -/
structure Provider where
  name : Text
  /-- The environment variable that holds the key, for a service that needs one. -/
  keyVariable : Option Text

/-- The services that are known. -/
def providers : List Provider := [
  ⟨"groq", some "GROQ_API_KEY"⟩,
  ⟨"openai", some "OPENAI_API_KEY"⟩,
  ⟨"anthropic", some "ANTHROPIC_API_KEY"⟩,
  ⟨"gemini", some "GEMINI_API_KEY"⟩,
  ⟨"ollama", none⟩]

/-- The known service with a name. -/
def provider? (name : Text) : Option Provider := providers.find? fun p => p.name == name

/-- The known service that a model names before its first slash. -/
def providerOfModel? (model : Text) : Option Text :=
  match model.cutAt '/' with
  | (name, some _) => (provider? name).map Provider.name
  | (_, none) => none

end Settings

end CommandAdvisor
