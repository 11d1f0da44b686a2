import AlarmScheduler.Limits
import AlarmScheduler.Log

namespace AlarmScheduler

inductive Invocation where
  | help
  | standard
  | missingPath
  | load (path : String)
  deriving DecidableEq, Repr

namespace Invocation

def configured : List String → Invocation
  | [] => standard
  | arg :: args =>
    if arg = "--config" then
      match args with
      | [] => missingPath
      | path :: _ => load path
    else configured args

def ofArgs (args : List String) : Invocation :=
  if "--help" ∈ args then help else configured args

def path? : Invocation → Option String
  | load path => some path
  | _ => none

end Invocation

inductive Fault where
  | missingPath
  | limits (e : LimitsError)
  deriving DecidableEq, Repr

def Fault.message : Fault → String
  | missingPath => "--config requires a path"
  | limits e => e.message

inductive Answer where
  | help
  | ready (ls : Limits)
  | failed (f : Fault)
  deriving DecidableEq, Repr

namespace Invocation

def answer (read : String → Except ReadError String) : Invocation → Answer
  | help => .help
  | standard => .ready Limits.standard
  | missingPath => .failed .missingPath
  | load path =>
    match Limits.load read path with
    | .ok ls => .ready ls
    | .error e => .failed (.limits e)

end Invocation

def helpText : String :=
  "alarmd reconciles alarm delivery windows. Usage: alarmd [--help] [--config <path>]"

namespace Answer

def text : Answer → String
  | help => helpText
  | ready ls =>
    "alarmd: ready (max_alarms_per_uid=" ++ Numeral.decimal ls.perUid ++ " max_alarms_total="
      ++ Numeral.decimal ls.total ++ ")"
  | failed f => "alarmd: config error: " ++ f.message

def log : Answer → List LogRecord
  | failed f => [⟨.error, (failed f).text⟩]
  | _ => []

def printed : Answer → String
  | failed (.limits (.unparsable path d)) => (failed (.limits (.unparsable path d))).text
  | a => a.text ++ "\n"

end Answer

def execute (read : String → Except ReadError String) (args : List String) : Answer :=
  (Invocation.ofArgs args).answer read

end AlarmScheduler
