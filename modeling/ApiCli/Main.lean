import ApiCli.Client.Run
import ApiCli.Recording

/-! # The command line

Run the commands that a document describes against a recording of the remote, which is read from
standard input. -/

namespace ApiCli

def programConfig : Config :=
  { Config.new "swagger-cmd" "Run the commands a remote swagger document describes"
      "http://localhost:8010" with
    sendRawArgs := true
    healthFailedMessage := some "health check failed, is the server up? (\x7berror\x7d)" }

/-- The values that a list of variables has in the process. -/
def readVariables (names : List String) : IO Environment := do
  let values ← names.filterMapM fun name => do
    return (← IO.getEnv name).map fun value => (name, value)
  return (Dict.ofList values).get?

/-- The name under which an event is printed. -/
def Severity.name : Severity → String
  | warning => "WARN"
  | error => "ERROR"

end ApiCli

open ApiCli in
/-- Run one invocation and end with its status. -/
def main (args : List String) : IO UInt32 := do
  let lines := Text.splitOn '\n' (← (← IO.getStdin).readToEnd)
  let recording := lines.filterMap RecordedReply.ofLine?
  let env ← readVariables
    (programConfig.globalArguments.filterMap (·.env) ++
      recording.flatMap RecordedReply.variables)
  let client : Client := ⟨programConfig, .none, env, env⟩
  let start := { Session.start with replies := recording.map RecordedReply.reply }
  let (result, session) := (client.run (programConfig.name :: args)).run start
  let stdout ← IO.getStdout
  let stderr ← IO.getStderr
  for e in session.log do
    stderr.putStrLn (e.severity.name ++ " " ++ e.message)
  stdout.write session.out.written.toByteArray
  stderr.write session.err.written.toByteArray
  match result with
  | .ok () => return 0
  | .error e =>
    stderr.putStrLn ("error: " ++ ": ".intercalate e.chain)
    return e.exitCode.toUInt32
