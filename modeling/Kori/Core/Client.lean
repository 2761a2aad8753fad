import Kori.Core.Diagnostics
import Kori.Core.Frame
import Kori.Faulty.Turns

/-! # The client side of the local socket, and the two streams it speaks over -/

open Faulty

namespace Kori

def Response.kind : Response → String
  | hello .. => "hello"
  | status _ => "status"
  | capabilities _ => "capabilities"
  | profiles .. => "profiles"
  | activated _ => "activated"
  | saved _ => "saved"
  | deleted .. => "deleted"
  | telemetry _ => "telemetry"
  | applied _ => "applied"
  | lit _ => "lit"
  | shown _ => "shown"
  | diagnostics .. => "diagnostics"
  | error _ => "error"

/-- Why talking to the daemon failed. -/
inductive ClientError where
  | unreachable (path source : String)
  | disconnected (error : FrameError)
  | refused (error : IpcError)
  | unexpected (expected actual : String)
deriving DecidableEq

namespace ClientError

def display : ClientError → String
  | unreachable path source =>
    s!"the daemon is not running, or its socket is not reachable at {path}: {source}"
  | disconnected error => s!"the connection to the daemon was lost: {error.display}"
  | refused error => error.message
  | unexpected expected actual => s!"the daemon answered {actual} where {expected} was expected"

/-- One sentence a control surface can display verbatim. -/
def operatorMessage : ClientError → String
  | unreachable .. => "The background service is not running. Start korid to enable controls."
  | other => other.display

/-- A framing failure on the way out: a request refused for its size never left. -/
def fromWrite : FrameError → ClientError
  | .tooLarge maxBytes => refused (.frameTooLarge maxBytes)
  | other => disconnected other

end ClientError

/-! ## The buffered writing half -/

def DEFAULT_BUF_SIZE : Nat := 8 * 1024

/-- What a socket says of a read or of a write that took too long. -/
def TIMED_OUT : String := "Resource temporarily unavailable (os error 11)"

/-- What the buffer holds, what left for the socket, and how much more leaves before the time-out,
when that fires. -/
structure BufWriter where
  held : List UInt8
  sent : List UInt8
  room : Option Nat

namespace BufWriter

/-- What the socket takes of some bytes. -/
def taken (bytes : List UInt8) (writer : BufWriter) : List UInt8 :=
  match writer.room with
  | none => bytes
  | some room => bytes.take room

/-- Writes to the socket, past the buffer. -/
def give (bytes : List UInt8) (writer : BufWriter) : Except String Unit × BufWriter :=
  (if (writer.taken bytes).length = bytes.length then .ok () else .error TIMED_OUT,
    { writer with
      sent := writer.sent ++ writer.taken bytes
      room := writer.room.map (· - (writer.taken bytes).length) })

/-- Empties the buffer as far as the socket takes it. -/
def flushBuf (writer : BufWriter) : Except String Unit × BufWriter :=
  let (result, given) := writer.give writer.held
  (result, { given with held := writer.held.drop (writer.taken writer.held).length })

/-- What does not fit makes room first, and what no buffer would hold goes past it. -/
instance : Write BufWriter where
  writeAll bytes writer :=
    if bytes.length < DEFAULT_BUF_SIZE - writer.held.length then
      (.ok (), { writer with held := writer.held ++ bytes })
    else
      let (result, writer) := if DEFAULT_BUF_SIZE - writer.held.length < bytes.length then writer.flushBuf
        else (.ok (), writer)
      match result with
      | .error detail => (.error detail, writer)
      | .ok () =>
        if DEFAULT_BUF_SIZE ≤ bytes.length then writer.give bytes
        else (.ok (), { writer with held := writer.held ++ bytes })
  flush := flushBuf

end BufWriter

/-! ## One connection -/

/-- How the two ends write and read what they say. -/
structure Codec where
  encodeRequest : Encode Request
  decodeRequest : Decode Request
  encodeResponse : Encode Response
  decodeResponse : Decode Response

structure Codec.Faithful (codec : Codec) : Prop where
  request : Compact codec.encodeRequest codec.decodeRequest
  response : Compact codec.encodeResponse codec.decodeResponse

/-- Where a time-out cuts a call. -/
inductive Cut where
  /-- The socket took so many bytes. -/
  | write (taken : Nat)
  /-- The daemon handled so many frames, and so many bytes of its answers arrived. -/
  | read (handled arrived : Nat)

structure Call where
  request : Request
  cut : Option Cut

namespace Call

/-- What the socket takes before the time-out of the write. -/
def room (call : Call) : Option Nat :=
  match call.cut with
  | some (.write taken) => some taken
  | _ => none

/-- How many frames the daemon handles before the time-out of the read. -/
def handled (call : Call) (toServer : List UInt8) : Nat :=
  match call.cut with
  | some (.read handled _) => handled
  | _ => toServer.length

/-- How much arrives before the time-out of the read. -/
def arrived (call : Call) (toClient : List UInt8) : Nat :=
  match call.cut with
  | some (.read _ arrived) => arrived
  | _ => toClient.length

end Call

/-- What one call came to, and what the daemon handled while it ran. -/
structure Reply where
  result : Except ClientError Response
  handled : List (Request × Response)

/-- One connection: what the client's writer holds back, what is under way to the daemon, and what
is under way to the client. -/
structure Link (σ : Type) where
  held : List UInt8
  toServer : List UInt8
  server : σ
  /-- Whether the daemon still serves the connection. -/
  serving : Bool
  toClient : List UInt8

namespace Link

variable {σ : Type} (codec : Codec) (serve : Request → StateM σ Response)

def opened (server : σ) : Link σ := { held := [], toServer := [], server, serving := true, toClient := [] }

/-- The daemon takes the next frame, if one is there, and answers it. -/
def answerNext (link : Link σ) : List (Request × Response) × Link σ :=
  if link.serving = false ∨ NEWLINE ∉ link.toServer ∧ link.toServer.length < MAX_FRAME_BYTES then ([], link)
  else
    let (frame, reader) := readFrame codec.decodeRequest ⟨link.toServer, .closed⟩
    match frame with
    | .error error =>
      let toClient := match error.asIpcError with
        | none => link.toClient
        | some refusal => (writeFrame codec.encodeResponse (.error refusal) link.toClient).2
      ([], { link with toServer := reader.items, toClient, serving := false })
    | .ok request =>
      let (response, server) := serve request link.server
      let (sent, toClient) := writeFrame codec.encodeResponse response link.toClient
      ([(request, response)], { link with toServer := reader.items, server, toClient, serving := sent.isOk })

def answerMany : Nat → Link σ → List (Request × Response) × Link σ
  | 0, link => ([], link)
  | count + 1, link =>
    let (first, link) := link.answerNext codec serve
    let (rest, link) := answerMany count link
    (first ++ rest, link)

/-- What a read meets when so many bytes have arrived. -/
def arriving (count : Nat) (link : Link σ) : Incoming UInt8 :=
  ⟨link.toClient.take count,
    if link.serving = false ∧ link.toClient.length ≤ count then .closed else .failed TIMED_OUT⟩

/-- Reads the response, once the daemon has handled what it handled. -/
def receive (call : Call) (handled : List (Request × Response)) (link : Link σ) : Reply × Link σ :=
  let arrived := call.arrived link.toClient
  let (frame, reader) := readFrame codec.decodeResponse (link.arriving arrived)
  (⟨frame.mapError .disconnected, handled⟩, { link with toClient := reader.items ++ link.toClient.drop arrived })

/-- Sends one request and reads its response. -/
def request (call : Call) : StateM (Link σ) Reply := fun link =>
  let (result, writer) := writeFrame codec.encodeRequest call.request (⟨link.held, [], call.room⟩ : BufWriter)
  let sent := { link with held := writer.held, toServer := link.toServer ++ writer.sent }
  match result with
  | .error error => (⟨.error (.fromWrite error), []⟩, sent)
  | .ok () =>
    let (handled, waiting) := sent.answerMany codec serve (call.handled sent.toServer)
    waiting.receive codec call handled

/-- The handshake, and the version of the daemon it met. -/
def connect (cut : Option Cut) (link : Link σ) : Except ClientError String × Link σ :=
  let (reply, link) := request codec serve ⟨.hello PROTOCOL_VERSION, cut⟩ link
  (match reply.result with
    | .ok (.hello _ daemonVersion) => .ok daemonVersion
    | .ok (.error error) => .error (.refused error)
    | .ok other => .error (.unexpected "hello" other.kind)
    | .error error => .error error, link)

end Link

/-! ## What a call takes from its answer -/

/-- The one shape of response a call accepts. -/
def expect {T : Type} (result : Except ClientError Response) (expected : String) (take : Response → Option T) :
    Except ClientError T :=
  match result with
  | .error error => .error error
  | .ok (.error error) => .error (.refused error)
  | .ok other =>
    match take other with
    | some value => .ok value
    | none => .error (.unexpected expected other.kind)

namespace Client

/-- The calls that take one shape of response, from what their request came to. -/
def status (result : Except ClientError Response) : Except ClientError DaemonStatus :=
  expect result "status" fun
    | .status status => some status
    | _ => none

def capabilities (result : Except ClientError Response) : Except ClientError CapabilityRecord :=
  expect result "capabilities" fun
    | .capabilities record => some record
    | _ => none

def telemetry (result : Except ClientError Response) : Except ClientError TelemetrySnapshot :=
  expect result "telemetry" fun
    | .telemetry snapshot => some snapshot
    | _ => none

def apply (result : Except ClientError Response) : Except ClientError ApplyOutcome :=
  expect result "applied" fun
    | .applied outcome => some outcome
    | _ => none

def applyLighting (result : Except ClientError Response) : Except ClientError LightingOutcome :=
  expect result "lit" fun
    | .lit outcome => some outcome
    | _ => none

def applyDisplay (result : Except ClientError Response) : Except ClientError DisplayOutcome :=
  expect result "shown" fun
    | .shown outcome => some outcome
    | _ => none

def profiles (result : Except ClientError Response) : Except ClientError (String × List Profile) :=
  expect result "profiles" fun
    | .profiles active profiles => some (active, profiles)
    | _ => none

end Client

theorem expect_ok {T : Type} {result : Except ClientError Response} {expected : String}
    {take : Response → Option T} {value : T} (h : expect result expected take = .ok value) :
    ∃ response, result = .ok response ∧ take response = some value := by
  unfold expect at h
  split at h
  · cases h
  · cases h
  · split at h
    · cases h
      exact ⟨_, rfl, ‹_›⟩
    · cases h

end Kori
