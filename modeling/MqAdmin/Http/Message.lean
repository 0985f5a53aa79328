import MqAdmin.Dialogue.Basic
import MqAdmin.Http.Charset
import MqAdmin.Http.Header

namespace MqAdmin.Http

/-- Why a request comes to nothing. -/
inductive Obstacle where
  /-- The identity cannot be shown, so that there is no client. -/
  | noClient
  | headerName (name : String)
  | headerValue
  | address
  /-- The server does not answer, or not in the way that was agreed. -/
  | noAnswer
  | brokenAnswer
deriving DecidableEq

def Obstacle.message : Obstacle → String
  | .noClient => "failed to build HTTP client"
  | .headerName name => "invalid header name " ++ name ++ ": invalid HTTP header name"
  | .headerValue => "invalid header value: failed to parse header value"
  | .address => "builder error"
  | .noAnswer => "error sending request"
  | .brokenAnswer => "failed to read response: error decoding response body"

structure Message where
  status : Nat
  headers : List (String × String)
  body : List UInt8
  /-- How many bytes are announced beyond those that come. -/
  missing : Nat := 0
deriving DecidableEq

namespace Message

def headerLimit : Nat := 100

/-- Whether the status is one of an answer; the other ones below 200 only announce it. -/
def isFinal (status : Nat) : Bool := status == 101 || 200 ≤ status && status ≤ 999

def isAnswer (message : Message) : Bool :=
  isFinal message.status && message.headers.length ≤ headerLimit &&
    message.headers.all fun (name, value) => Header.isName name && Header.isValue value

/-- Whether the message has a body: some kinds have none whatever they announce. -/
def hasBody (message : Message) : Bool := message.status ∉ [101, 204, 304]

def header? (message : Message) (name : String) : Option String :=
  (message.headers.find? fun header => Header.key header.1 == Header.key name).map (·.2)

def text (message : Message) : String :=
  if message.hasBody then
    (((message.header? "content-type").filter Header.isPlain).elim .utf8
      Charset.ofContentType).decode message.body
  else ""

def response (message : Message) : Except Obstacle Response :=
  if !message.isAnswer then .error .noAnswer
  else if message.hasBody && 0 < message.missing then .error .brokenAnswer
  else .ok {
    status := message.status, body := message.text, headers := Header.gather message.headers }

end Message

end MqAdmin.Http
