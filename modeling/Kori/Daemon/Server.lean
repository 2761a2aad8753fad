import Kori.Core.Frame
import Kori.Core.Json
import Kori.Daemon.State
import Kori.Faulty.Turns

/-! # The local socket server: one daemon, and every connection to it -/

open Faulty

namespace Kori

def Request.isHello : Request → Bool
  | hello _ => true
  | _ => false

def Response.isHello : Response → Bool
  | hello _ _ => true
  | _ => false

/-- The owner of the other end of a connection. -/
structure Peer where
  uid : Nat
  pid : Int

/-- The writing half of a socket: what went out of it, and how far its next write gets if it fails. -/
structure Outgoing where
  written : List UInt8
  fault : Option (Nat × String)

instance : Write Outgoing where
  writeAll bytes socket :=
    match socket.fault with
    | none => (.ok (), { socket with written := socket.written ++ bytes })
    | some (taken, detail) => (.error detail, { socket with written := socket.written ++ bytes.take taken })
  flush socket := (.ok (), socket)

/-- What one pass of a connection meets: the surroundings of the request, the encoding of the
answer with the time stamps it carries, and how the writing half fails. -/
structure Moment where
  around : Surroundings
  encode : Encode Response
  fault : Option (Nat × String)

structure Connection where
  reader : Incoming UInt8
  written : List UInt8
  handshakeDone : Bool
  /-- Whether the loop that serves it still runs. -/
  serving : Bool

/-- A request that reached the daemon, and its answer. -/
structure Exchange where
  request : Request
  response : Response
  /-- Whether the frame of the answer went out. -/
  sent : Bool

namespace Connection

def opened (reader : Incoming UInt8) : Connection :=
  { reader, written := [], handshakeDone := false, serving := true }

/-- Writes one answer. -/
def respond (connection : Connection) (moment : Moment) (response : Response) :
    Except FrameError Unit × Connection :=
  let r := writeFrame moment.encode response (⟨connection.written, moment.fault⟩ : Outgoing)
  (r.1, { connection with written := r.2.written })

/-- Writes one refusal, and ends the connection. -/
def refuse (connection : Connection) (moment : Moment) (error : IpcError) : Connection :=
  { (connection.respond moment (.error error)).2 with serving := false }

/-- Writes the daemon's answer, and says whether it went out. A handshake it refused is one the
connection cannot recover from, and so is an answer that did not go out. -/
def answer (connection : Connection) (moment : Moment) (response : Response) : Bool × Connection :=
  let (result, answered) := connection.respond moment response
  let refusedHandshake := connection.handshakeDone = false ∧ response.isHello = false
  match result with
  | .error _ => (false, { answered with serving := false })
  | .ok () =>
    if refusedHandshake then (true, { answered with serving := false })
    else (true, { answered with handshakeDone := true })

variable {Raw : Type} (toml : Toml Raw)

/-- What becomes of a new connection before its loop. -/
def accept (ownUid : Nat) (peer : Except String Peer) (moment : Moment) (connection : Connection) :
    Act Raw Connection := do
  match peer with
  | .error reason => do
    Machine.note (.clientRejected (IpcError.peerRejected reason).message)
    return connection.refuse moment (.peerRejected reason)
  | .ok peer =>
    if peer.uid ≠ ownUid then
      let reason := s!"peer uid {peer.uid} does not own this daemon"
      Machine.note (.clientRejected (IpcError.peerRejected reason).message)
      return connection.refuse moment (.peerRejected reason)
    else
      Machine.note (.clientAccepted peer.uid peer.pid)
      return connection

/-- One pass of the loop: a frame in, at most one frame out. -/
def pass (decode : Decode Request) (moment : Moment) (before : Connection) :
    Act Raw (Option Exchange × Connection) := do
  let (frame, reader) := readFrame decode before.reader
  let connection := { before with reader }
  match frame with
  | .error error =>
    match error.asIpcError with
    | none => do
      Machine.note (.clientDisconnected "client closed the connection")
      return (none, { connection with serving := false })
    | some ipcError => do
      Machine.note (.clientDisconnected error.display)
      return (none, connection.refuse moment ipcError)
  | .ok request =>
    -- Nothing but the handshake is served before the handshake.
    if connection.handshakeDone = false ∧ request.isHello = false then
      return (none, connection.refuse moment .handshakeRequired)
    else
      let response ← Machine.handle toml moment.around request
      let (sent, answered) := connection.answer moment response
      return (some ⟨request, response, sent⟩, answered)

end Connection

/-- The daemon, and the connection each client opened. -/
structure Server (Raw ι : Type) where
  machine : Machine Raw
  connections : ι → Option Connection

namespace Server

variable {Raw ι : Type} [DecidableEq ι]

/-- One turn: a client connects, one of the connections makes a pass, or the clock runs. -/
inductive Event (ι : Type) where
  | accept (client : ι) (peer : Except String Peer) (reader : Incoming UInt8) (moment : Moment)
  | pass (client : ι) (moment : Moment)
  | tick (around : Surroundings)
  | tickAnimation (now : Instant)
  | dropDisplayFrame

def Event.client : Event ι → Option ι
  | accept client _ _ _ => some client
  | pass client _ => some client
  | _ => none

/-- Puts a connection where its client's is. -/
def set (server : Server Raw ι) (client : ι) (r : Connection × Machine Raw) : Server Raw ι :=
  { machine := r.2, connections := Function.update server.connections client (some r.1) }

@[simp] theorem set_self (server : Server Raw ι) (client : ι) (r : Connection × Machine Raw) :
    (server.set client r).connections client = some r.1 := Function.update_self ..

theorem set_other {client other : ι} (h : other ≠ client) (server : Server Raw ι) (r : Connection × Machine Raw) :
    (server.set client r).connections other = server.connections other := Function.update_of_ne h ..

/-- Lets the daemon's own clock do something. -/
def clock {α : Type} (f : Act Raw α) (server : Server Raw ι) : Server Raw ι :=
  { server with machine := (f server.machine).2 }

variable (toml : Toml Raw) (decode : Decode Request) (ownUid : Nat)

/-- One turn, and the exchange it was, when it was one. -/
def step (event : Event ι) : StateM (Server Raw ι) (Option (ι × Exchange)) := fun server =>
  match event with
  | .accept client peer reader moment =>
    match server.connections client with
    | some _ => (none, server)
    | none => (none, server.set client ((Connection.opened reader).accept ownUid peer moment server.machine))
  | .pass client moment =>
    match server.connections client with
    | none => (none, server)
    | some connection =>
      if connection.serving then
        let r := connection.pass toml decode moment server.machine
        (r.1.1.map fun exchange => (client, exchange), server.set client (r.1.2, r.2))
      else (none, server)
  | .tick around => (none, server.clock (Machine.tick around))
  | .tickAnimation now => (none, server.clock (Machine.tickAnimation now))
  | .dropDisplayFrame => (none, server.clock (Machine.draw fun display => return ((), display.dropFrame)))

abbrev ServerTurn (Raw ι : Type) := Turn (Server Raw ι) (Event ι) (Option (ι × Exchange))

/-- A server nobody has connected to. -/
def fresh (machine : Machine Raw) : Server Raw ι := { machine, connections := fun _ => none }

end Server

/-! ## A bench: a daemon that found no device, and the JSON of what passes it -/

/-- The fields of the events met here. -/
def eventFields : EventKind → String × List (String × String)
  | .daemonStarted version socketPath => ("info", [("event", quoted "daemon_started"),
      ("version", quoted version), ("socket_path", quoted socketPath)])
  | .accessModeChanged readOnly reason => (if readOnly then "warning" else "info",
      [("event", quoted "access_mode_changed"), ("read_only", toString readOnly), ("reason", quoted reason)])
  | .configLoaded path => ("info", [("event", quoted "config_loaded"), ("path", quoted path)])
  | .clientAccepted uid pid => ("info", [("event", quoted "client_accepted"), ("uid", toString uid),
      ("pid", toString pid)])
  | .clientDisconnected detail => ("info", [("event", quoted "client_disconnected"), ("detail", quoted detail)])
  | _ => ("info", [])

def eventJson (event : EventKind) : String :=
  object ([("at_unix_ms", "0"), ("severity", quoted (eventFields event).1)] ++ (eventFields event).2)

/-- The record of a probe that found nothing. -/
def emptyRecordJson : String :=
  object [("schema_version", "3"),
    ("context", object [("kernel_release", object [("state", quoted "unknown"), ("reason", quoted "not read"),
      ("source", quoted "bench")]), ("probed_at_unix_ms", "0")]), ("devices", "[]"), ("rejected", "[]")]

/-- The encoding of the responses met here. -/
def encodeResponse : Encode Response
  | .hello protocolVersion daemonVersion => .ok (ascii (object [("response", quoted "hello"),
      ("protocol_version", toString protocolVersion), ("daemon_version", quoted daemonVersion)]))
  | .saved name => .ok (ascii (object [("response", quoted "saved"), ("name", quoted name)]))
  | .error (.profileNotFound name) => .ok (ascii (object [("response", quoted "error"),
      ("error", quoted "profile_not_found"), ("name", quoted name)]))
  | .diagnostics version _ events => .ok (ascii (object [("response", quoted "diagnostics"),
      ("schema_version", "1"), ("generated_at_unix_ms", "0"), ("daemon_version", quoted version),
      ("capabilities", emptyRecordJson),
      ("events", "[" ++ joined (events.map eventJson) ++ "]")]))
  | _ => .error "not met here"

end Kori
