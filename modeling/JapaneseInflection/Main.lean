import JapaneseInflection.CommandLine.Run

/-!
# The command

Reads the files that a command line names, runs the command and shows its outcome.
-/

namespace JapaneseInflection.CommandLine

/-- The contents of a file, if it can be read. -/
def readFile? (path : String) : IO (Option String) := do
  try
    return some (← IO.FS.readFile path)
  catch _ =>
    return none

/-- Test if a path leads somewhere, through directories that may all be searched. -/
def leadsSomewhere (path : String) : IO Bool := do
  try
    discard (IO.FS.realPath path)
    return true
  catch _ =>
    return false

/-- The state of the settings file at the standard place. There is none where the path leads nowhere
or to a directory; all else that a path leads to is taken for a file. -/
def standardFile (path : String) : IO StandardFile := do
  -- only the path of a directory still leads somewhere with a slash behind it
  if !(← leadsSomewhere path) || (← leadsSomewhere (path ++ "/")) then
    return .absent
  match ← readFile? path with
  | some text => return .contents text
  | none => return .unreadable

/-- The directory of settings: the one of the environment, or the usual one below the home of the
user. -/
def settingsHome : IO String := do
  let chosen ← IO.getEnv "XDG_CONFIG_HOME"
  match chosen with
  | some directory => if directory.startsWith "/" then return directory else inHome
  | none => inHome
where
  /-- The usual directory of settings. -/
  inHome : IO String := do
    return (← IO.getEnv "HOME").getD "" ++ "/.config"

/-- The files that a command line may read, already read. -/
def filesFor (line : List String) : IO Files := do
  let standardPath := (← settingsHome) ++ "/katsuyou/config.toml"
  let standard ← standardFile standardPath
  let named := (Arguments.parse? line).bind (·.settingsPath)
  let contents ← match named with
    | some path => readFile? path
    | none => pure none
  let contents? := fun path => if some path = named then contents else none
  return { contents?, standardPath, standard }

/-- Write the messages of a failure. -/
def complain (messages : List String) : IO Unit :=
  match messages with
  | [] => return
  | message :: causes => do
    IO.eprintln ("Error: " ++ message)
    unless causes.isEmpty do
      IO.eprintln "\nCaused by:"
      for cause in causes do
        IO.eprintln ("    " ++ cause)

end JapaneseInflection.CommandLine

open JapaneseInflection.CommandLine in
/-- Run the command with the given arguments. -/
def main (line : List String) : IO UInt32 := do
  let outcome := run (← filesFor line) line
  IO.print outcome.output
  match outcome.failure with
  | none => return 0
  | some failure =>
    complain failure.messages
    return 1
