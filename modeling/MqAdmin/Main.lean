import MqAdmin.CommandLine.Run
import MqAdmin.Document.JsonText
import MqAdmin.Http.Client

/-!
The program. It keeps no connection itself: each request is printed as a line of JSON, and what the
server says is read as a line of JSON from the input. Whoever runs it relays the two.
-/

namespace MqAdmin

def Abort.message : Abort → String
  | .overflow => "a length of time is too long"
  | .endless => "a state was asked for too often"

namespace Relay

def line (request : Request) (posting : Http.Posting) : String :=
  (Json.object [
    ("url", .string request.url),
    ("headers", .ofAttributes (posting.headers.mapValues .string)),
    ("body", .string posting.body),
    ("timeout", request.timeout.elim .null fun timeout =>
      .array [.ofNat timeout.seconds, .ofNat timeout.subseconds]),
    ("verify_tls", .bool request.verifyTls)]).compact

def header? (json : Json) : Option (String × String) := do
  match ← json.array? with
  | [name, value] => return (← name.string?, ← value.string?)
  | _ => none

/-- What the server says, read from a line; none if it says nothing. -/
def message? (line : String) : Option Http.Message := do
  let answer ← Json.parse? line
  let status ← (← answer.get? "status").signedWord?
  let body ← (← answer.get? "body").string?
  let headers ← ((answer.get? "headers").bind Json.array?).elim (some []) (·.mapM header?)
  return { status := status.toNat, headers, body := body.toUTF8.toList }

def send (request : Request) : IO Reply := do
  let client : Http.Client := {}
  let output ← IO.getStdout
  if let .ok posting := client.posting request then
    output.putStrLn (line request posting)
    output.flush
    let answer ← (← IO.getStdin).getLine
    return client.post (fun _ => message? answer) request
  else return client.post (fun _ => none) request

/-- The longest wait in one piece, in milliseconds. -/
def longestWait : Nat := twoTo 32 - 1

def answer : (question : Question) → IO question.Answer
  | .send request => send request
  | .sleep duration =>
    IO.sleep (.ofNat (min longestWait ((duration.nanoseconds + 999999) / 1000000)))
  | .now => return ⟨← IO.monoNanosNow⟩
  | .read path => do
    try
      return .ok (← IO.FS.readFile path)
    catch error => return .error (toString error)

def readEnvironment : IO Variables.Source := do
  let found ← Variables.names.mapM fun name => return (name, ← IO.getEnv name)
  return fun name => (found.lookup name).join

def perform (words : List String) : IO UInt32 := do
  let stop (cause : Abort) : IO CommandLine.Ending :=
    return { messages := [cause.message], code := 101 }
  let ending ← (CommandLine.program words (← readEnvironment) true).run answer stop
  IO.print ending.output
  for message in ending.messages do IO.eprintln message
  return .ofNat ending.code

end Relay

end MqAdmin

def main (words : List String) : IO UInt32 := MqAdmin.Relay.perform words
