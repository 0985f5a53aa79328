import MqAdmin.Credentials.PrivateKey
import MqAdmin.Http.Address
import MqAdmin.Http.Message
import MqAdmin.Json.Printer

namespace MqAdmin.Http

structure Posting where
  target : String
  /-- The headers of the request itself, with names in small letters. -/
  headers : KeyMap String
  body : String
deriving DecidableEq

def Posting.line (posting : Posting) : String := "POST " ++ posting.target ++ " HTTP/1.1"

/-- A client; it may show an identity. -/
structure Client where
  identity : Option Identity := none
deriving DecidableEq

namespace Client

def summary (client : Client) : String :=
  "HttpTransport \x7b client_certificate: " ++
    (if client.identity.isSome then "true" else "false") ++ " \x7d"

/-- The headers that are sent: those given, without blanks around their values, and the kind of the
document unless it is given. -/
def headers (given : KeyMap String) : KeyMap String :=
  let own := KeyMap.ofList (given.entries.map fun (name, value) =>
    (Header.key name, Header.trimmed value))
  if own.contains "content-type" then own else own.insert "content-type" "application/json"

def headerObstacle? (name value : String) : Option Obstacle :=
  if !Header.isName name then some (.headerName name)
  else if !Header.isValue value then some .headerValue
  else none

def posting (client : Client) (request : Request) : Except Obstacle Posting :=
  if client.identity.any (!·.isUsable) then .error .noClient
  else match request.headers.entries.findSome? fun (name, value) => headerObstacle? name value with
    | some obstacle => .error obstacle
    | none => match Address.target? request.url with
      | none => .error .address
      | some target => .ok {
          target, headers := headers request.headers, body := request.payload.compact }

/-- The failure that an obstacle means. Without a client there is no address either. -/
def failure (request : Request) (obstacle : Obstacle) : Failure where
  url := if obstacle = .noClient then "" else request.url
  message := obstacle.message

/-- Posts a document to a server, which may give no answer. -/
def post (client : Client) (server : Posting → Option Message) (request : Request) : Reply :=
  let result : Except Obstacle Response := do
    let posting ← client.posting request
    match server posting with
    | none => throw .noAnswer
    | some message => message.response
  result.mapError (failure request)

end Client

end MqAdmin.Http
