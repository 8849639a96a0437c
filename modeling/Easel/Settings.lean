import Easel.Json.Basic
import Easel.Text.Case
import Easel.Text.Digits
import Easel.Text.Quoted

/-!
Settings, read from the environment. Whole numbers are checked as they are read, in a fixed order; then the provider must be
a known one, and in production its key must be there.
-/

namespace Easel

structure Settings where
  anthropicKey : String := ""
  openaiKey : String := ""
  provider : String := "anthropic"
  compilerModel : String := "claude-3-5-sonnet-20241022"
  openaiModel : String := "gpt-4o-mini"
  maxTokens : Int := 400
  transcriptLimit : Int := 1000
  requestsPerMinute : Int := 10
  requestsPerDay : Int := 100
  commandTtl : Int := 60
  connectionTtl : Int := 5
  environment : String := "development"
  logLevel : String := "INFO"

namespace Settings

inductive Fault
  | number (error : Text.IntegerError)
  | unknownProvider (name : String)
  | keyMissing (variableName : String)
  deriving Repr, DecidableEq

def Fault.message : Fault → String
  | .number error => error.message
  | .unknownProvider name => s!"COMPILER_PROVIDER must be 'anthropic' or 'openai', got {quoted name}"
  | .keyMissing variableName => s!"{variableName} environment variable is required"

def usesOpenai (s : Settings) : Bool :=
  s.provider = "openai"

/-- The key of the provider in use. -/
def compilerKey (s : Settings) : String :=
  if s.usesOpenai then s.openaiKey else s.anthropicKey

def compilerKeyName (s : Settings) : String :=
  if s.usesOpenai then "OPENAI_API_KEY" else "ANTHROPIC_API_KEY"

def readNumber (env : Keyed String) (name : String) (standard : Int) : Except Fault Int :=
  match env.lookup name with
  | none => .ok standard
  | some text => (Text.readInteger text).mapError .number

def read (env : Keyed String) : Except Fault Settings := do
  let standard : Settings := {}
  let text (name fallback : String) : String := (env.lookup name).getD fallback
  let maxTokens ← readNumber env "COMPILER_MAX_TOKENS" standard.maxTokens
  let transcriptLimit ← readNumber env "TRANSCRIPT_MAX_LENGTH" standard.transcriptLimit
  let requestsPerMinute ← readNumber env "RATE_LIMIT_PER_MINUTE" standard.requestsPerMinute
  let requestsPerDay ← readNumber env "RATE_LIMIT_PER_DAY" standard.requestsPerDay
  let commandTtl ← readNumber env "COMMAND_TTL_SECONDS" standard.commandTtl
  let connectionTtl ← readNumber env "PLUGIN_CONNECTION_TTL_SECONDS" standard.connectionTtl
  return {
    anthropicKey := text "ANTHROPIC_API_KEY" standard.anthropicKey
    openaiKey := text "OPENAI_API_KEY" standard.openaiKey
    provider := lowered (text "COMPILER_PROVIDER" standard.provider)
    compilerModel := text "COMPILER_MODEL" standard.compilerModel
    openaiModel := text "OPENAI_MODEL" standard.openaiModel
    maxTokens, transcriptLimit, requestsPerMinute, requestsPerDay, commandTtl, connectionTtl
    environment := text "ENVIRONMENT" standard.environment
    logLevel := uppered (text "LOG_LEVEL" standard.logLevel) }

/-- Keys may be missing in tests. -/
def isTesting (env : Keyed String) : Bool :=
  lowered ((env.lookup "TESTING").getD "") = "true"

def check (testing : Bool) (s : Settings) : Except Fault Settings :=
  if s.provider ≠ "anthropic" ∧ s.provider ≠ "openai" then .error (.unknownProvider s.provider)
  else if !testing && s.environment = "production" && s.compilerKey.isEmpty then .error (.keyMissing s.compilerKeyName)
  else .ok s

def load (env : Keyed String) : Except Fault Settings :=
  (read env).bind (check (isTesting env))

/-- Every setting under the name of its variable. -/
def toFields (s : Settings) : Fields :=
  [("ANTHROPIC_API_KEY", .str s.anthropicKey), ("OPENAI_API_KEY", .str s.openaiKey),
    ("COMPILER_PROVIDER", .str s.provider), ("COMPILER_MODEL", .str s.compilerModel), ("OPENAI_MODEL", .str s.openaiModel),
    ("COMPILER_MAX_TOKENS", Json.ofInt s.maxTokens), ("TRANSCRIPT_MAX_LENGTH", Json.ofInt s.transcriptLimit),
    ("RATE_LIMIT_PER_MINUTE", Json.ofInt s.requestsPerMinute), ("RATE_LIMIT_PER_DAY", Json.ofInt s.requestsPerDay),
    ("COMMAND_TTL_SECONDS", Json.ofInt s.commandTtl), ("PLUGIN_CONNECTION_TTL_SECONDS", Json.ofInt s.connectionTtl),
    ("ENVIRONMENT", .str s.environment), ("LOG_LEVEL", .str s.logLevel)]

end Settings

end Easel
