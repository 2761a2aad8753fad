import Kori.Daemon.Server.Handshake
import Kori.Daemon.State.Restart
import Kori.Daemon.State.Room

/-! # One frame for each request that leaves room for its answer, and what a saved profile does to that -/

open Faulty

namespace Kori

variable {Raw ι : Type} {toml : Toml Raw} {decode : Decode Request}

/-! ## One answer -/

/-- The encoding of a response fits in a frame. -/
def Moment.Fits (moment : Moment) (response : Response) : Prop :=
  ∃ encoded, moment.encode response = .ok encoded ∧ encoded.length + 1 ≤ MAX_FRAME_BYTES

instance (moment : Moment) (response : Response) : Decidable (moment.Fits response) :=
  match h : moment.encode response with
  | .error _ => isFalse fun ⟨_, hencoded, _⟩ => nomatch h.symm.trans hencoded
  | .ok encoded =>
    if hlength : encoded.length + 1 ≤ MAX_FRAME_BYTES then isTrue ⟨encoded, h, hlength⟩
    else isFalse fun ⟨_, hencoded, hfits⟩ => hlength (Except.ok.inj (h.symm.trans hencoded) ▸ hfits)

/-- The frame of a response. -/
def Moment.frame (moment : Moment) (response : Response) : List UInt8 :=
  match moment.encode response with
  | .error _ => []
  | .ok encoded => encoded ++ [NEWLINE]

namespace Connection

variable {connection : Connection} {moment : Moment} {response : Response}

theorem respond_sent (hfits : moment.Fits response) (hfault : moment.fault = none) :
    connection.respond moment response =
      (.ok (), { connection with written := connection.written ++ moment.frame response }) := by
  obtain ⟨encoded, hencoded, hlength⟩ := hfits
  unfold respond writeFrame Moment.frame
  simp only [hencoded, if_neg (Nat.not_lt.mpr hlength), Write.writeAll, Write.flush, hfault]

theorem respond_unfit (hfits : ¬ moment.Fits response) :
    ∃ error, connection.respond moment response = (.error error, connection) := by
  unfold respond writeFrame
  cases hencoded : moment.encode response with
  | error detail => exact ⟨_, rfl⟩
  | ok encoded =>
    have hlarge : MAX_FRAME_BYTES < encoded.length + 1 :=
      Nat.lt_of_not_le fun hlength => hfits ⟨encoded, hencoded, hlength⟩
    simp only [if_pos hlarge]
    exact ⟨_, rfl⟩

end Connection

/-- A frame that parses, with the request it holds. -/
structure Parses (decode : Decode Request) (frame : List UInt8 × Request) : Prop where
  line : NEWLINE ∉ frame.1
  fits : frame.1.length + 1 ≤ MAX_FRAME_BYTES
  decodes : decode frame.1 = .ok frame.2

/-- The bytes of some frames, one after the other. -/
def streamOf (frames : List (List UInt8 × Request)) : List UInt8 :=
  frames.flatMap fun frame => frame.1 ++ [NEWLINE]

theorem streamOf_cons (frame : List UInt8 × Request) (rest : List (List UInt8 × Request)) (tail : List UInt8) :
    streamOf (frame :: rest) ++ tail = frame.1 ++ NEWLINE :: (streamOf rest ++ tail) := by
  simp [streamOf]

namespace Connection

variable {connection : Connection} {moment : Moment} {machine : Machine Raw} {frame : List UInt8 × Request}
  {rest : List (List UInt8 × Request)} {tail : List UInt8} {ending : Ending}

theorem readFrame_parsed (hframe : Parses decode frame) :
    readFrame decode ⟨streamOf (frame :: rest) ++ tail, ending⟩ = (.ok frame.2, ⟨streamOf rest ++ tail, ending⟩) := by
  rw [streamOf_cons, readFrame_line hframe.line hframe.fits, hframe.decodes]
  rfl

theorem pass_parsed (hframe : Parses decode frame)
    (hreader : connection.reader = ⟨streamOf (frame :: rest) ++ tail, ending⟩)
    (hdone : connection.handshakeDone = true) :
    connection.pass toml decode moment machine =
      let handled := Machine.handle toml moment.around frame.2 machine
      let answered := { connection with reader := ⟨streamOf rest ++ tail, ending⟩ }.answer moment handled.1
      ((some ⟨frame.2, handled.1, answered.1⟩, answered.2), handled.2) := by
  refine pass_request ?_ (.inl hdone)
  rw [hreader]
  exact readFrame_parsed hframe

theorem answer_sent {response : Response} (hdone : connection.handshakeDone = true)
    (hfits : moment.Fits response) (hfault : moment.fault = none) :
    connection.answer moment response =
      (true, { connection with written := connection.written ++ moment.frame response }) := by
  unfold answer
  simp only [respond_sent hfits hfault, hdone, Bool.true_eq_false, false_and, if_false]

theorem answer_unfit {response : Response} (hfits : ¬ moment.Fits response) :
    connection.answer moment response = (false, { connection with serving := false }) := by
  obtain ⟨error, hrespond⟩ := @respond_unfit connection moment response hfits
  unfold answer
  simp only [hrespond]

end Connection

namespace Server

variable [DecidableEq ι] {ownUid : Nat} {server : Server Raw ι} {event : Event ι} {client : ι}

def Event.isPassOf (client : ι) : Event ι → Bool
  | .pass other _ => other = client
  | _ => false

/-- What a client asked and was answered in one turn, with the moment of it. -/
def answered (client : ι) (t : ServerTurn Raw ι) : Option (Moment × Exchange) :=
  match t.call, t.answer with
  | .pass _ moment, some (other, exchange) => if other = client then some (moment, exchange) else none
  | _, _ => none

theorem answered_none {t : ServerTurn Raw ι} (h : ∀ exchange, t.answer ≠ some (client, exchange)) :
    answered client t = none := by
  unfold answered
  split
  · rename_i other exchange hcall hanswer
    refine if_neg fun hclient => h exchange ?_
    rw [hanswer, hclient]
  · rfl

theorem answered_pass {t : ServerTurn Raw ι} {moment : Moment} {exchange : Exchange}
    (hcall : t.call = .pass client moment) (hanswer : t.answer = some (client, exchange)) :
    answered client t = some (moment, exchange) := by
  unfold answered
  rw [hcall, hanswer]
  exact if_pos rfl

theorem turn_of_not_pass {connection : Connection} (h : event.isPassOf client = false)
    (hconnection : server.connections client = some connection) :
    (turn (step toml decode ownUid) server event).after.connections client = some connection ∧
      answered client (turn (step toml decode ownUid) server event) = none := by
  cases @step_turned _ _ toml decode _ ownUid server event client with
  | apart hsame hother hidle => exact ⟨hsame.trans hconnection, answered_none hother⟩
  | opened other hcall hbefore hafter hnot hsame hnone => cases hbefore.symm.trans hconnection
  | passed moment other r hcall hbefore hserved hpassed hafter hmachine hmap =>
    obtain rfl : event = .pass client moment := hcall
    cases h.symm.trans (decide_eq_true rfl)

theorem turn_parsed {connection : Connection} {moment : Moment} {frame : List UInt8 × Request}
    {rest : List (List UInt8 × Request)} {tail : List UInt8} {ending : Ending}
    (hconnection : server.connections client = some connection) (hserving : connection.serving = true)
    (hdone : connection.handshakeDone = true) (hframe : Parses decode frame)
    (hreader : connection.reader = ⟨streamOf (frame :: rest) ++ tail, ending⟩) (hfault : moment.fault = none) :
    let t := turn (step toml decode ownUid) server (.pass client moment)
    let handled := Machine.handle toml moment.around frame.2 server.machine
    t.after.machine = handled.2 ∧ ∃ exchange, answered client t = some (moment, exchange) ∧
      exchange.request = frame.2 ∧ exchange.response = handled.1 ∧
      (moment.Fits exchange.response ∧ t.after.connections client = some { connection with
          reader := ⟨streamOf rest ++ tail, ending⟩
          written := connection.written ++ moment.frame exchange.response } ∨
        ¬ moment.Fits exchange.response ∧ t.after.connections client = some { connection with
          reader := ⟨streamOf rest ++ tail, ending⟩
          serving := false }) := by
  intro t handled
  have hstep := @step_pass _ _ toml decode _ ownUid server client moment connection hconnection hserving
  have hpass := @Connection.pass_parsed _ toml decode connection moment server.machine frame rest tail ending
    hframe hreader hdone
  have hanswer : t.answer = some (client, _) :=
    (congrArg Prod.fst hstep).trans (congrArg (fun r => r.1.1.map (Prod.mk client)) hpass)
  have hafter : t.after.connections client = some _ :=
    (congrArg (fun r => r.2.connections client) hstep).trans
      ((set_self ..).trans (congrArg (fun r => some r.1.2) hpass))
  refine ⟨?_, _, answered_pass rfl hanswer, rfl, rfl, ?_⟩
  · exact (congrArg (fun r => r.2.machine) hstep).trans (congrArg Prod.snd hpass)
  by_cases hfits : moment.Fits handled.1
  · refine .inl ⟨hfits, hafter.trans ?_⟩
    exact congrArg (fun r => some r.2) (@Connection.answer_sent
      { connection with reader := ⟨streamOf rest ++ tail, ending⟩ } moment _ hdone hfits hfault)
  · refine .inr ⟨hfits, hafter.trans ?_⟩
    exact congrArg (fun r => some r.2) (Connection.answer_unfit hfits)

/-- The client's turn, when the next of its frames holds this request. -/
structure Asks (decode : Decode Request) (client : ι) (t : ServerTurn Raw ι) (moment : Moment) (request : Request) :
    Prop where
  call : t.call = .pass client moment
  reads : ∃ connection reader, t.before.connections client = some connection ∧
    readFrame decode connection.reader = (.ok request, reader)

omit [DecidableEq ι] in
theorem Asks.parsed {t : ServerTurn Raw ι} {moment asked : Moment} {request : Request}
    (h : Asks decode client t asked request) (hcall : t.call = .pass client moment) {connection : Connection}
    (hconnection : t.before.connections client = some connection) {frame : List UInt8 × Request}
    {rest : List (List UInt8 × Request)} {tail : List UInt8} {ending : Ending}
    (hreader : connection.reader = ⟨streamOf (frame :: rest) ++ tail, ending⟩) (hframe : Parses decode frame) :
    asked = moment ∧ request = frame.2 := by
  obtain ⟨hasked, other, reader, hother, hreads⟩ := h
  cases hasked.symm.trans hcall
  cases hother.symm.trans hconnection
  rw [hreader, Connection.readFrame_parsed hframe] at hreads
  cases hreads
  exact ⟨rfl, rfl⟩

/-- Every request was answered in its turn by one frame, and the connection serves the next. -/
structure Answered (before : Connection) (requests : List Request) (pairs : List (Moment × Exchange))
    (after : Option Connection) : Prop where
  inOrder : pairs.map (fun pair => pair.2.request) = requests
  stays : ∃ connection, after = some connection ∧ connection.serving = true ∧ connection.handshakeDone = true ∧
    connection.written = before.written ++ pairs.flatMap fun pair => pair.1.frame pair.2.response

theorem run_answered {connection : Connection} {frames : List (List UInt8 × Request)} {tail : List UInt8}
    {ending : Ending} (events : List (Event ι)) (hconnection : server.connections client = some connection)
    (hserving : connection.serving = true) (hdone : connection.handshakeDone = true)
    (hreader : connection.reader = ⟨streamOf frames ++ tail, ending⟩)
    (hframes : ∀ frame ∈ frames, Parses decode frame)
    (hpasses : events.countP (Event.isPassOf client) ≤ frames.length)
    (hfault : ∀ moment, .pass client moment ∈ events → moment.fault = none)
    (hfits : ∀ t ∈ turns (step toml decode ownUid) server events, ∀ moment request, Asks decode client t moment request →
      moment.Fits (Machine.handle toml moment.around request t.before.machine).1) :
    Answered connection ((frames.take (events.countP (Event.isPassOf client))).map Prod.snd)
      ((turns (step toml decode ownUid) server events).filterMap (answered client))
      ((afterAll (step toml decode ownUid) server events).connections client) := by
  induction events generalizing server connection frames with
  | nil => exact ⟨rfl, connection, hconnection, hserving, hdone, by simp [turns]⟩
  | cons event rest ih =>
    rw [turns, afterAll, List.filterMap_cons]
    have hlater : ∀ t ∈ turns (step toml decode ownUid) (turn (step toml decode ownUid) server event).after rest,
        ∀ moment request, Asks decode client t moment request →
          moment.Fits (Machine.handle toml moment.around request t.before.machine).1 :=
      fun t hmem => hfits t (List.mem_cons_of_mem _ hmem)
    cases hevent : event.isPassOf client with
    | false =>
      obtain ⟨hafter, hnone⟩ := @turn_of_not_pass _ _ toml decode _ ownUid server event client connection
        hevent hconnection
      rw [hnone, List.countP_cons_of_neg (by rw [hevent]; exact Bool.false_ne_true)] at *
      exact ih hafter hserving hdone hreader hframes hpasses (fun moment hmem => hfault moment (.tail _ hmem)) hlater
    | true =>
      obtain ⟨moment, rfl⟩ : ∃ moment, event = .pass client moment := by
        cases event with
        | pass other moment => exact ⟨moment, congrArg (Event.pass · moment) (of_decide_eq_true hevent)⟩
        | _ => cases hevent
      rw [List.countP_cons_of_pos hevent] at hpasses ⊢
      cases frames with
      | nil => cases hpasses
      | cons frame more =>
        have hframe := hframes frame List.mem_cons_self
        obtain ⟨-, exchange, hanswered, hrequest, hresponse, hcase⟩ := @turn_parsed _ _ toml decode _ ownUid server
          client connection moment frame more tail ending hconnection hserving hdone hframe hreader
          (hfault moment List.mem_cons_self)
        have hroom : moment.Fits exchange.response := hresponse ▸ hfits _ List.mem_cons_self moment frame.2
          ⟨rfl, connection, _, hconnection, hreader ▸ Connection.readFrame_parsed hframe⟩
        obtain ⟨-, hafter⟩ := hcase.resolve_right fun h => h.1 hroom
        obtain ⟨horder, last, hlast, hopen, hgreeted, hwritten⟩ := ih hafter hserving hdone rfl
          (fun frame hmem => hframes frame (.tail _ hmem)) (Nat.le_of_succ_le_succ hpasses)
          (fun moment hmem => hfault moment (.tail _ hmem)) hlater
        rw [hanswered]
        refine ⟨?_, last, hlast, hopen, hgreeted, ?_⟩
        · rw [List.map_cons, List.take_succ_cons, List.map_cons, hrequest, horder]
        · rw [hwritten, List.flatMap_cons, List.append_assoc]

theorem answered_some {t : ServerTurn Raw ι} {pair : Moment × Exchange} (h : answered client t = some pair) :
    (∃ other, t.call = .pass other pair.1) ∧ t.answer = some (client, pair.2) := by
  unfold answered at h
  split at h
  · rename_i other moment named exchange hcall hanswer
    split at h
    · rename_i hclient
      cases h
      exact ⟨⟨other, hcall⟩, hclient ▸ hanswer⟩
    · cases h
  · cases h

theorem turn_answer {t : ServerTurn Raw ι} {pair : Moment × Exchange}
    (ht : turn (step toml decode ownUid) t.before t.call = t) (h : answered client t = some pair) :
    Asks decode client t pair.1 pair.2.request ∧
      pair.2.response = (Machine.handle toml pair.1.around pair.2.request t.before.machine).1 := by
  obtain ⟨⟨other, hcall⟩, hanswer⟩ := answered_some h
  have hturned := @step_turned _ _ toml decode _ ownUid t.before t.call client
  rw [ht] at hturned
  cases hturned with
  | apart hsame hother hidle => exact absurd hanswer (hother _)
  | opened connection hopened hbefore hafter hnot hsame hnone => cases hnone.symm.trans hanswer
  | passed moment connection r hpass hbefore hserving hpassed hafter hmachine hmap =>
    cases hcall.symm.trans hpass
    obtain ⟨exchange, hexchange, heq⟩ := Option.map_eq_some_iff.mp (hmap.symm.trans hanswer)
    cases heq
    obtain ⟨reader, hreads⟩ := hpassed.reads hexchange
    exact ⟨⟨hcall, connection, reader, hbefore, hreads⟩, hpassed.response hexchange⟩

end Server

/-- The moment's encoder writes a response the way the protocol has it, with these documents in it. -/
def Moment.Writes (documents : Documents) (moment : Moment) : Prop :=
  ∀ response, moment.encode response = .ok (response.json documents).compact

/-- What comes from outside is short, and the request and the state leave room for the answer. -/
structure Machine.HasRoom (documents : Documents) (around : Surroundings) (machine : Machine Raw) (request : Request) :
    Prop where
  terse : machine.Terse 4096 around
  roomy : machine.Roomy documents around request

theorem Machine.HasRoom.fits {machine : Machine Raw} {moment : Moment} {documents : Documents} {request : Request}
    (h : machine.HasRoom documents moment.around request) (hwrites : moment.Writes documents) :
    moment.Fits (Machine.handle toml moment.around request machine).1 := by
  refine ⟨_, hwrites _, ?_⟩
  rw [Value.length_compact]
  exact Machine.size_handle h.terse h.roomy

theorem Moment.frame_of_fits {moment : Moment} {response : Response} (h : moment.Fits response) {documents : Documents}
    (hwrites : moment.Writes documents) : ∃ line, moment.frame response = line ++ [NEWLINE] ∧ NEWLINE ∉ line ∧
      line.length + 1 ≤ MAX_FRAME_BYTES := by
  obtain ⟨encoded, hencoded, hlength⟩ := h
  refine ⟨encoded, ?_, ?_, hlength⟩
  · unfold frame
    rw [hencoded]
  · obtain rfl : (response.json documents).compact = encoded := Except.ok.inj ((hwrites response).symm.trans hencoded)
    exact Value.newline_notMem_compact _

namespace Server

variable [DecidableEq ι] {ownUid : Nat} {server : Server Raw ι} {event : Event ι} {client : ι}

/-- The requests of a client past its handshake are handled in order, each by the daemon as it stands, and each is
answered by one frame, as long as every request and the state it finds leave room for the answer. -/
theorem frame_for_each (toml : Toml Raw) (decode : Decode Request) (documents : Moment → Documents) (ownUid : Nat)
    (server : Server Raw ι) (client : ι) (connection : Connection) (frames : List (List UInt8 × Request))
    (tail : List UInt8) (ending : Ending) (events : List (Event ι))
    (hconnection : server.connections client = some connection) (hserving : connection.serving = true)
    (hdone : connection.handshakeDone = true) (hreader : connection.reader = ⟨streamOf frames ++ tail, ending⟩)
    (hframes : ∀ frame ∈ frames, Parses decode frame)
    (hpasses : events.countP (Event.isPassOf client) ≤ frames.length)
    (hfault : ∀ moment, .pass client moment ∈ events → moment.fault = none)
    (hwrites : ∀ moment, .pass client moment ∈ events → moment.Writes (documents moment))
    (hroom : ∀ t ∈ turns (step toml decode ownUid) server events, ∀ moment request, Asks decode client t moment request →
      t.before.machine.HasRoom (documents moment) moment.around request) :
    let run := turns (step toml decode ownUid) server events
    (∀ t ∈ run, ∀ pair, answered client t = some pair →
      pair.2.response = (Machine.handle toml pair.1.around pair.2.request t.before.machine).1 ∧
      ∃ line, pair.1.frame pair.2.response = line ++ [NEWLINE] ∧ NEWLINE ∉ line ∧ line.length + 1 ≤ MAX_FRAME_BYTES) ∧
    Answered connection ((frames.take (events.countP (Event.isPassOf client))).map Prod.snd)
      (run.filterMap (answered client)) ((afterAll (step toml decode ownUid) server events).connections client) := by
  intro run
  have hcalls : ∀ t ∈ run, ∀ moment request, Asks decode client t moment request →
      moment.Fits (Machine.handle toml moment.around request t.before.machine).1 := by
    intro t hmem moment request hasks
    exact (hroom t hmem moment request hasks).fits (hwrites moment (hasks.call ▸ call_mem_of_mem_turns hmem))
  refine ⟨fun t hmem pair hanswered => ?_,
    run_answered events hconnection hserving hdone hreader hframes hpasses hfault hcalls⟩
  obtain ⟨hasks, hresponse⟩ := turn_answer (eq_of_mem_turns hmem) hanswered
  refine ⟨hresponse, Moment.frame_of_fits (hresponse ▸ hcalls t hmem _ _ hasks) (hwrites pair.1 ?_)⟩
  exact hasks.call ▸ call_mem_of_mem_turns hmem

/-! ## A bench: a daemon that found no device -/

def benchMoment : Moment :=
  { around := { benchSurroundings false false with located := none }, encode := encodeResponse, fault := none }

def deviceless : Machine ConfigDocument :=
  .start plainToml configPath benchMoment.around { benchFound with capabilities := ⟨[]⟩, display := .absent }
    (benchOutside (fun _ => false) fun _ => false)

def helloFrame : List UInt8 :=
  ascii (object [("request", quoted "hello"), ("protocol_version", toString PROTOCOL_VERSION)])

/-- A connection from the daemon's own user. -/
def benchAccept (client : ι) (frames : List (List UInt8)) : Event ι :=
  .accept client (.ok ⟨1000, 4242⟩) ⟨frames.flatMap (· ++ [NEWLINE]), .closed⟩ benchMoment

theorem parses_hello {decode : Decode Request} (h : decode helloFrame = .ok (.hello PROTOCOL_VERSION)) :
    Parses decode (helloFrame, .hello PROTOCOL_VERSION) where
  line := by decide
  fits := by decide
  decodes := h

theorem fits_hello : benchMoment.Fits (.hello PROTOCOL_VERSION DAEMON_VERSION) := by decide

section

variable {moment : Moment} (hfits : moment.Fits (.hello PROTOCOL_VERSION DAEMON_VERSION)) (hfault : moment.fault = none)
include hfits hfault

theorem answer_greeting (connection : Connection) :
    connection.answer moment (.hello PROTOCOL_VERSION DAEMON_VERSION) = (true, { connection with
      written := connection.written ++ moment.frame (.hello PROTOCOL_VERSION DAEMON_VERSION)
      handshakeDone := true }) := by
  unfold Connection.answer
  rw [Connection.respond_sent hfits hfault]
  simp only [Response.isHello, Bool.true_eq_false, and_false, if_false]

theorem greeted_connection {toml : Toml Raw} {decode : Decode Request}
    (hdecode : decode helloFrame = .ok (.hello PROTOCOL_VERSION)) (hnew : server.connections client = none)
    (frames : List (List UInt8)) :
    let events := [benchAccept client (helloFrame :: frames), .pass client moment]
    (afterAll (step toml decode 1000) server events).machine =
        (Machine.note (.clientAccepted 1000 4242) server.machine).2 ∧
      (afterAll (step toml decode 1000) server events).connections client = some
        { reader := ⟨frames.flatMap (· ++ [NEWLINE]), .closed⟩
          written := moment.frame (.hello PROTOCOL_VERSION DAEMON_VERSION)
          handshakeDone := true
          serving := true } := by
  intro events
  let opened : Connection := .opened ⟨(helloFrame :: frames).flatMap (· ++ [NEWLINE]), .closed⟩
  let accepted := server.set client (opened, (Machine.note (.clientAccepted 1000 4242) server.machine).2)
  have hopened : step toml decode 1000 (benchAccept client (helloFrame :: frames)) server = (none, accepted) :=
    step_accept_new hnew
  have hpass := @step_pass _ _ toml decode _ 1000 accepted client moment opened (set_self ..) rfl
  have hframe : readFrame decode opened.reader =
      (.ok (.hello PROTOCOL_VERSION), ⟨frames.flatMap (· ++ [NEWLINE]), .closed⟩) := by
    have hparses := parses_hello hdecode
    have hreader : opened.reader = ⟨helloFrame ++ NEWLINE :: frames.flatMap (· ++ [NEWLINE]), .closed⟩ := by
      simp [opened, Connection.opened]
    rw [hreader, readFrame_line hparses.line hparses.fits, hdecode]
    rfl
  have hpassed := @Connection.pass_request _ toml decode accepted.machine opened moment _ _ hframe (.inr rfl)
  rw [show Machine.handle toml moment.around (.hello PROTOCOL_VERSION) accepted.machine =
    (.hello PROTOCOL_VERSION DAEMON_VERSION, accepted.machine) from rfl] at hpassed
  dsimp only at hpassed
  rw [answer_greeting hfits hfault] at hpassed
  rw [hpassed] at hpass
  change (step toml decode 1000 (.pass client moment)
      (step toml decode 1000 (benchAccept client (helloFrame :: frames)) server).2).2.machine = _ ∧
    (step toml decode 1000 (.pass client moment)
      (step toml decode 1000 (benchAccept client (helloFrame :: frames)) server).2).2.connections client = _
  rw [hopened, hpass]
  exact ⟨rfl, set_self ..⟩

end

/-- A name of some length. -/
def filler (length : Nat) : String := String.ofList (List.replicate length 'a')

theorem filler_length (n : Nat) : (filler n).length = n := by
  rw [filler, String.length_ofList, List.length_replicate]

/-! ## The same bench, its frames written as the protocol has them -/

/-- The documents of what nobody asks for here. -/
def benchDocuments : Documents :=
  { record := fun _ => [], sample := fun _ => [], generatedAtUnixMs := 0, redacted := fun _ => .null, events := fun _ => [] }

def writingMoment : Moment := { benchMoment with encode := fun response => .ok (response.json benchDocuments).compact }

/-- Reads the requests it knows. -/
def decodeKnown (known : List Request) : Decode Request := fun payload =>
  match known.find? fun request => request.json.compact = payload with
  | some request => .ok request
  | none => .error "expected value at line 1 column 1"

/-- A request, on the line it is sent on. -/
def sent (request : Request) : List UInt8 × Request := (request.json.compact, request)

theorem parses_sent {known : List Request} {request : Request} (hmem : request ∈ known)
    (hknown : ∀ other ∈ known, other.json.compact = request.json.compact → other = request)
    (hsize : request.json.size + 1 ≤ MAX_FRAME_BYTES) : Parses (decodeKnown known) (sent request) where
  line := Value.newline_notMem_compact _
  fits := by
    rw [sent, Value.length_compact]
    exact hsize
  decodes := by
    unfold decodeKnown sent
    dsimp only
    cases hfound : known.find? fun other => other.json.compact = request.json.compact with
    | none => exact absurd (decide_eq_true rfl) (List.find?_eq_none.mp hfound request hmem)
    | some other =>
      have hsame : other.json.compact = request.json.compact := by simpa using List.find?_some hfound
      rw [hknown other (List.mem_of_find?_eq_some hfound) hsame]

theorem fits_greeting : writingMoment.Fits (.hello PROTOCOL_VERSION DAEMON_VERSION) := ⟨_, rfl, by decide⟩

theorem hello_json : (Request.hello PROTOCOL_VERSION).json.compact = helloFrame := by decide

/-- What the daemon holds once somebody connected to it. -/
def visited : Machine ConfigDocument := (Machine.note (.clientAccepted 1000 4242) deviceless).2

theorem visited_persists : visited.Persists plainToml :=
  Machine.persists_start (fun _ => rfl) configPath _ _ fun _ => rfl

theorem visited_document : visited.daemon.config.document.profiles = [] ∧
    visited.daemon.config.document.activeProfile = SAFE_PROFILE_NAME := by decide +kernel

end Server

namespace Machine

/-- On a disk that works, a profile that validates is saved, and no device hears of it. -/
theorem saveProfile_saved (hinverse : toml.Inverse) {machine : Machine Raw} (h : machine.Persists toml)
    {profile : Profile} (hvalid : validateProfile profile = .ok ()) (hsafe : profile.name ≠ SAFE_PROFILE_NAME) :
    ∃ after, saveProfile toml profile machine = (.saved profile.name, after) ∧ after.Persists toml ∧
      after.daemon.config.document = { machine.daemon.config.document with
        schemaVersion := CONFIG_SCHEMA_VERSION
        profiles := replaceOrPush (fun p => p.name = profile.name) profile machine.daemon.config.document.profiles } ∧
      SameThermal machine after ∧ after.controller = machine.controller ∧ after.panel = machine.panel := by
  have hsave : machine.daemon.config.saveProfile toml profile = machine.daemon.config.commitChange toml fun document =>
      ((), { document with profiles := replaceOrPush (fun p => p.name = profile.name) profile document.profiles }) := by
    unfold Configuration.saveProfile
    rw [hvalid]
    exact if_neg hsafe
  obtain ⟨hok, hdocument, hpersists⟩ := Configuration.commitChange_reliable hinverse h (congrArg (fun p =>
    p.run (disk toml) machine.store) hsave.symm) (h.sound.loadable.save hvalid hsafe)
  have hanswer : (configure toml (fun config => config.saveProfile toml profile) machine).1 = .ok () := hok
  unfold saveProfile
  rw [bind_apply, hanswer]
  exact ⟨_, rfl, hpersists, hdocument, ⟨rfl, rfl, rfl, rfl⟩, rfl, rfl⟩

theorem handle_saved {around : Surroundings} {machine after : Machine Raw} {profile : Profile} {name : String}
    (h : saveProfile toml profile machine = (.saved name, after)) :
    handle toml around (.saveProfile profile) machine = (.saved name, after) := by
  unfold handle
  rw [bind_apply, show dispatch toml around (.saveProfile profile) machine = _ from h]
  rfl

end Machine

namespace Server

variable [DecidableEq ι] {server : Server Raw ι} {client : ι}

/-! ## A saved profile that leaves no room -/

/-- A profile whose preset draws the readings, and carries the path of an image. -/
def carrying (path : String) : Profile :=
  { Profile.safe with name := "Quiet", display := some { DisplayPreset.defaultInfographic with image := some path } }

theorem carrying_valid (path : String) : validateProfile (carrying path) = .ok () := by
  have hname : validateName "Quiet" = .ok () := by decide
  change (validateName "Quiet" >>= fun _ => _) = _
  rw [hname]
  rfl

theorem size_carrying (path : String) : (carrying path).json.size = textSize path + 474 := by
  have hname : textSize "display" = 7 := textSize_literal rfl
  have hfield : textSize "image" = 5 := textSize_literal rfl
  have hpreset : Value.sizeOfFields DisplayPreset.defaultInfographic.json.fields.dropLast = 378 := by decide
  have hprofile : Value.sizeOfFields (Profile.safe.json.fields.set 0 ("name", .string "Quiet")).dropLast = 72 := by
    decide
  change (Value.object ((Profile.safe.json.fields.set 0 ("name", .string "Quiet")).dropLast ++
    [("display", .object (DisplayPreset.defaultInfographic.json.fields.dropLast ++ [("image", .string path)]))])).size = _
  rw [Value.size_object_append, Value.size_object_append, Value.size]
  omega

theorem textSize_filler (n : Nat) : textSize (filler n) = n := by
  have ha : escaped 'a' = [0x61] := by decide
  simp [textSize, escapedText, filler, List.flatMap_replicate, ha]

theorem size_saving (path : String) : (Request.saveProfile (carrying path)).json.size = textSize path + 511 := by
  have hrequest : Value.sizeOfFields [("request", .string "save_profile")] = 25 := by decide
  have hname : textSize "profile" = 7 := textSize_literal rfl
  have hprofile := size_carrying path
  change (Value.object ([("request", .string "save_profile")] ++ [("profile", (carrying path).json)])).size = _
  rw [Value.size_object_append]
  omega

theorem size_listing (path : String) :
    ((Response.profiles SAFE_PROFILE_NAME [.safe, carrying path]).json benchDocuments).size = textSize path + 631 := by
  have hactive : textSize SAFE_PROFILE_NAME = 12 := by decide
  have hsafe : Profile.safe.json.size = 95 := by decide
  have hprofile := size_carrying path
  rw [Machine.size_profiles, List.map_cons, List.map_singleton, Value.sizeOfItems, Value.sizeOfItems, Value.sizeOfItems]
  omega

def knownRequests (path : String) : List Request :=
  [.hello PROTOCOL_VERSION, .profiles, .saveProfile (carrying path)]

theorem forall_known {path : String} {P : Request → Prop} (hhello : P (.hello PROTOCOL_VERSION)) (hprofiles : P .profiles)
    (hsave : P (.saveProfile (carrying path))) : ∀ request ∈ knownRequests path, P request :=
  List.forall_mem_cons.mpr ⟨hhello, List.forall_mem_cons.mpr ⟨hprofiles, List.forall_mem_singleton.mpr hsave⟩⟩

theorem compact_ne_saving {other : Request} {path : String} (h : other.json.size < 511) :
    other.json.compact ≠ (Request.saveProfile (carrying path)).json.compact := by
  intro heq
  have hlength := congrArg List.length heq
  rw [Value.length_compact, Value.length_compact, size_saving] at hlength
  omega

theorem parses_saving {path : String} (hfits : textSize path + 512 ≤ MAX_FRAME_BYTES) :
    Parses (decodeKnown (knownRequests path)) (sent (.saveProfile (carrying path))) := by
  refine parses_sent (by simp [knownRequests]) (forall_known ?_ ?_ fun _ => rfl) (by rwa [size_saving])
  · exact fun heq => absurd heq (compact_ne_saving (by decide))
  · exact fun heq => absurd heq (compact_ne_saving (by decide))

theorem parses_listing (path : String) : Parses (decodeKnown (knownRequests path)) (sent .profiles) := by
  refine parses_sent (by simp [knownRequests]) (forall_known ?_ (fun _ => rfl) ?_) (by decide)
  · exact fun heq => absurd heq (by decide)
  · exact fun heq => absurd heq.symm (compact_ne_saving (by decide))

theorem parses_greeting (path : String) :
    Parses (decodeKnown (knownRequests path)) (sent (.hello PROTOCOL_VERSION)) := by
  refine parses_sent (by simp [knownRequests]) (forall_known (fun _ => rfl) ?_ ?_) (by decide)
  · exact fun heq => absurd heq (by decide)
  · exact fun heq => absurd heq.symm (compact_ne_saving (by decide))

theorem decodeKnown_hello (path : String) :
    decodeKnown (knownRequests path) helloFrame = .ok (.hello PROTOCOL_VERSION) := by
  rw [← hello_json]
  exact (parses_greeting path).decodes

theorem not_fits_listing {path : String} (h : MAX_FRAME_BYTES < textSize path + 632) :
    ¬ writingMoment.Fits (.profiles SAFE_PROFILE_NAME [.safe, carrying path]) := by
  rintro ⟨encoded, hencoded, hlength⟩
  obtain rfl : ((Response.profiles SAFE_PROFILE_NAME [.safe, carrying path]).json benchDocuments).compact = encoded :=
    Except.ok.inj hencoded
  rw [Value.length_compact, size_listing] at hlength
  omega

theorem fits_saved : writingMoment.Fits (.saved "Quiet") := ⟨_, rfl, by decide⟩

/-- The bench, once a profile was saved on it. -/
def saved (path : String) : Machine ConfigDocument :=
  (Machine.handle plainToml writingMoment.around (.saveProfile (carrying path)) visited).2

theorem visited_saving (path : String) :
    (Machine.handle plainToml writingMoment.around (.saveProfile (carrying path)) visited).1 = .saved "Quiet" ∧
      (saved path).Persists plainToml ∧ (saved path).daemon.config.document.activeProfile = SAFE_PROFILE_NAME ∧
      (saved path).daemon.config.document.profiles = [carrying path] ∧
      Machine.SameThermal visited (saved path) ∧ (saved path).controller = visited.controller ∧
      (saved path).panel = visited.panel := by
  have hsafe : "Quiet" ≠ SAFE_PROFILE_NAME := by decide
  obtain ⟨after, hsaved, hpersists, hdocument, hsame⟩ := @Machine.saveProfile_saved _ plainToml (fun _ => rfl) _
    visited_persists _ (carrying_valid path) hsafe
  obtain ⟨hprofiles, hactive⟩ := visited_document
  have hhandled := @Machine.handle_saved _ plainToml writingMoment.around _ _ _ _ hsaved
  unfold saved
  rw [hhandled]
  refine ⟨rfl, hpersists, ?_, ?_, hsame⟩
  · exact (congrArg ConfigDocument.activeProfile hdocument).trans hactive
  · refine (congrArg ConfigDocument.profiles hdocument).trans ?_
    rw [hprofiles]
    rfl

theorem handle_listing (path : String) : (Machine.handle plainToml writingMoment.around .profiles (saved path)).1 =
    .profiles SAFE_PROFILE_NAME [.safe, carrying path] := by
  obtain ⟨-, -, hactive, hprofiles, -⟩ := visited_saving path
  have hlisted : (Machine.handle plainToml writingMoment.around .profiles (saved path)).1 =
    .profiles (saved path).daemon.config.document.activeProfile (.safe :: (saved path).daemon.config.document.profiles) := rfl
  rw [hlisted, hactive, hprofiles]

theorem terse_bench {machine : Machine ConfigDocument} (hpersists : machine.Persists plainToml)
    (hsame : Machine.SameThermal visited machine) (hcontroller : machine.controller = visited.controller)
    (hpanel : machine.panel = visited.panel) : machine.Terse 4096 writingMoment.around := by
  have hsupported : visited.daemon.capabilities.supported = [] := by decide +kernel
  have hreadOnly : visited.daemon.readOnly = some .nothingWritable := by decide +kernel
  have hreason : textSize ReadOnly.nothingWritable.reason ≤ 4 * 4096 := by decide
  have hundecodable : (DisplayError.imageUndecodable "/home/kori/cat.gif" "No such file or directory").size ≤
      2 * 4096 + 500 := by decide
  have hbytes : (List.replicate FRAME_BYTES (0 : UInt8)).length < 10 ^ 20 := by
    rw [List.length_replicate]
    decide
  have hdaemon : visited.daemon.Terse 4096 := by
    refine ⟨?_, ?_, fun cause hcause => ?_⟩
    · rw [hsupported]
      exact Nat.zero_le 8
    · rw [hsupported]
      exact fun device hmem => absurd hmem List.not_mem_nil
    · cases hreadOnly.symm.trans hcause
      exact hreason
  have hcooler : ∀ k, visited.cooler.faults k = none := fun _ => rfl
  have hunlit : ∀ k, visited.controller.faults k = none := fun _ => rfl
  have hunshown : ∀ k, visited.panel.faults k = none := fun _ => rfl
  have hnone : (visited.daemon.cooling.resolve writingMoment.around.located).control = none := rfl
  have hvisited : visited.TerseCooler 4096 writingMoment.around := by
    refine ⟨hdaemon, fun control hcontrol => ?_, fun k fault hfault => ?_⟩
    · cases hnone.symm.trans hcontrol
    · cases (hcooler k).symm.trans hfault
  refine ⟨hvisited.of_same hsame, fun k fault hfault => ?_, fun k fault hfault => ?_, fun k fault hfault => ?_, ?_⟩
  · cases (hpersists.reliable k).symm.trans hfault
  · rw [hcontroller] at hfault
    cases (hunlit k).symm.trans hfault
  · rw [hpanel] at hfault
    cases (hunshown k).symm.trans hfault
  · exact ⟨fun _ _ _ => hbytes, fun _ _ => hundecodable⟩

/-- The same client, with a path that leaves room: a greeting, the profile, and the listing. -/
theorem frame_for_each_saved :
    let path := "/home/kori/loop.gif"
    let decode := decodeKnown (knownRequests path)
    let frames := [sent (.hello PROTOCOL_VERSION), sent (.saveProfile (carrying path)), sent .profiles]
    let connection := { Connection.opened ⟨streamOf frames ++ [], .closed⟩ with handshakeDone := true }
    let server : Server ConfigDocument Unit := { machine := visited, connections := fun _ => some connection }
    let events : List (Event Unit) := [.pass () writingMoment, .pass () writingMoment, .pass () writingMoment]
    Answered connection [.hello PROTOCOL_VERSION, .saveProfile (carrying path), .profiles]
      ((turns (step plainToml decode 1000) server events).filterMap (answered ()))
      ((afterAll (step plainToml decode 1000) server events).connections ()) := by
  intro path decode frames connection server events
  obtain ⟨hsaved, hpersists, hactive, hprofiles, hsame, hcontroller, hpanel⟩ := visited_saving path
  have hvisited := terse_bench visited_persists (refl_of Machine.SameThermal visited) rfl rfl
  have hterse := terse_bench hpersists hsame hcontroller hpanel
  have hgreeting : Parses decode (sent (.hello PROTOCOL_VERSION)) := parses_greeting path
  have hsaving : Parses decode (sent (.saveProfile (carrying path))) := parses_saving (by decide)
  have hlisting : Parses decode (sent .profiles) := parses_listing path
  have hcounted : (carrying path).Counted := by
    refine ⟨fun command hmem => absurd hmem List.not_mem_nil, fun preset hpreset => ?_⟩
    cases hpreset
    decide
  have hroom : (saved path).Roomy benchDocuments writingMoment.around .profiles := by
    have hsize := size_listing path
    rw [Machine.size_profiles] at hsize
    have hpath : textSize path + 632 ≤ MAX_FRAME_BYTES := by decide
    change textSize (saved path).daemon.config.document.activeProfile + Value.sizeOfItems
      ((Profile.safe :: (saved path).daemon.config.document.profiles).map Profile.json) + 49 ≤ _
    rw [hactive, hprofiles]
    omega
  obtain ⟨hgreeted, hello, -, -, hresponse, hcase⟩ := @turn_parsed _ _ plainToml decode _ 1000 server () connection
    writingMoment (sent (.hello PROTOCOL_VERSION)) [sent (.saveProfile (carrying path)), sent .profiles] [] .closed rfl rfl
    rfl hgreeting rfl rfl
  obtain ⟨-, hfirst⟩ := hcase.resolve_right fun h => h.1 (hresponse ▸ fits_greeting)
  obtain ⟨hstored, saving, -, -, hresponse, hcase⟩ := @turn_parsed _ _ plainToml decode _ 1000 _ () _ writingMoment
    (sent (.saveProfile (carrying path))) [sent .profiles] [] .closed hfirst rfl rfl hsaving rfl rfl
  rw [hgreeted] at hstored hresponse
  obtain ⟨-, hsecond⟩ := hcase.resolve_right fun h => h.1 (hresponse.trans hsaved ▸ fits_saved)
  have hmoments : ∀ moment, Event.pass () moment ∈ events → moment = writingMoment := by
    intro moment hmem
    simp only [events, List.mem_cons, List.not_mem_nil, or_false, or_self] at hmem
    cases hmem
    rfl
  have hframes : ∀ frame ∈ frames, Parses decode frame :=
    List.forall_mem_cons.mpr ⟨hgreeting, List.forall_mem_cons.mpr ⟨hsaving, List.forall_mem_singleton.mpr hlisting⟩⟩
  have hasked : ∀ t ∈ turns (step plainToml decode 1000) server events, ∀ moment request, Asks decode () t moment request →
      t.before.machine.HasRoom benchDocuments moment.around request := by
    intro t hmem moment request hasks
    simp only [events, turns, List.mem_cons, List.not_mem_nil, or_false] at hmem
    rcases hmem with rfl | rfl | rfl
    · obtain ⟨rfl, rfl⟩ := hasks.parsed rfl rfl rfl hgreeting
      exact ⟨hvisited, show PROTOCOL_VERSION < 2 ^ 32 by decide⟩
    · obtain ⟨rfl, rfl⟩ := hasks.parsed rfl hfirst rfl hsaving
      change Machine.HasRoom benchDocuments _ (turn (step plainToml decode 1000) server _).after.machine _
      rw [hgreeted]
      exact ⟨hvisited, hcounted⟩
    · obtain ⟨rfl, rfl⟩ := hasks.parsed rfl hsecond rfl hlisting
      change Machine.HasRoom benchDocuments _ (turn (step plainToml decode 1000) _ _).after.machine _
      rw [hstored]
      exact ⟨hterse, hroom⟩
  have hpasses : events.countP (Event.isPassOf ()) = 3 := by decide
  have hrun := (frame_for_each plainToml decode (fun _ => benchDocuments) 1000 server () connection frames [] .closed
    events rfl rfl rfl rfl hframes (Nat.le_of_eq hpasses) (fun moment hmem => hmoments moment hmem ▸ rfl)
    (fun moment hmem => hmoments moment hmem ▸ fun _ => rfl) hasked).2
  rwa [hpasses] at hrun

/-- A client past its handshake saves a profile whose preset carries a long path, and is answered. The listing of the
profiles does not fit in a frame any more: whoever asks for it next is not answered, and its connection ends. -/
theorem saved_path_silences_profiles :
    let decode := decodeKnown (knownRequests (filler 261600))
    let save := sent (.saveProfile (carrying (filler 261600)))
    let start : List (Event Unit) :=
      [benchAccept () [helloFrame, save.1, (sent .profiles).1], .pass () writingMoment, .pass () writingMoment]
    Machine.Reachable plainToml deviceless ∧ writingMoment.Writes benchDocuments ∧
    Parses decode save ∧ Parses decode (sent .profiles) ∧
    ∃ connection after,
      (afterAll (step plainToml decode 1000) (fresh deviceless) start).connections () = some connection ∧
      connection.handshakeDone = true ∧ connection.serving = true ∧
      connection.written = writingMoment.frame (.hello PROTOCOL_VERSION DAEMON_VERSION) ++
        writingMoment.frame (.saved "Quiet") ∧
      connection.reader.items = (sent .profiles).1 ++ [NEWLINE] ∧
      (afterAll (step plainToml decode 1000) (fresh deviceless)
        (start ++ [Event.pass () writingMoment])).connections () = some after ∧
      after.written = connection.written ∧ after.serving = false := by
  obtain ⟨n, hn⟩ : ∃ n, n = 261600 := ⟨_, rfl⟩
  have hfits : textSize (filler n) + 512 ≤ MAX_FRAME_BYTES := by
    rw [textSize_filler, hn]
    decide
  have hlong : MAX_FRAME_BYTES < textSize (filler n) + 632 := by
    rw [textSize_filler, hn]
    decide
  rw [← hn]
  generalize filler n = path at hfits hlong ⊢
  intro decode save start
  obtain ⟨hmachine, hgreeted⟩ := @greeted_connection _ _ _ (fresh deviceless) () _ fits_greeting rfl plainToml decode
    (decodeKnown_hello path) rfl [save.1, (sent .profiles).1]
  obtain ⟨hsaved, -⟩ := visited_saving path
  obtain ⟨hstored, exchange, -, -, hresponse, hcase⟩ := @turn_parsed _ _ plainToml decode _ 1000 _ () _ writingMoment
    save [sent .profiles] [] .closed hgreeted rfl rfl (parses_saving hfits) (by simp [streamOf]) rfl
  rw [hmachine] at hstored hresponse
  obtain ⟨-, hanswered⟩ := hcase.resolve_right fun h => h.1 (hresponse.trans hsaved ▸ fits_saved)
  obtain ⟨-, listing, -, -, hrefused, hlast⟩ := @turn_parsed _ _ plainToml decode _ 1000 _ () _ writingMoment
    (sent .profiles) [] [] .closed hanswered rfl rfl (parses_listing path) rfl rfl
  rw [hstored] at hrefused
  obtain ⟨-, hclosed⟩ := hlast.resolve_left fun h => not_fits_listing hlong (hrefused.trans (handle_listing path) ▸ h.1)
  rw [hresponse.trans hsaved] at hanswered hclosed
  have hitems : streamOf [sent .profiles] ++ [] = (sent .profiles).1 ++ [NEWLINE] := by simp [streamOf]
  have hstart := @afterAll_concat _ _ _ (step plainToml decode 1000) (fresh deviceless)
    [benchAccept () [helloFrame, save.1, (sent .profiles).1], .pass () writingMoment] (.pass () writingMoment)
  have hall := (@afterAll_concat _ _ _ (step plainToml decode 1000) (fresh deviceless) start (.pass () writingMoment)).trans
    (congrArg (fun server => (turn (step plainToml decode 1000) server (.pass () writingMoment)).after) hstart)
  have hopen := (congrArg (fun server : Server ConfigDocument Unit => server.connections ()) hstart).trans hanswered
  have hend := (congrArg (fun server : Server ConfigDocument Unit => server.connections ()) hall).trans hclosed
  exact ⟨.start .., fun _ => rfl, parses_saving hfits, parses_listing path, _, _, hopen, rfl, rfl, rfl, hitems, hend, rfl,
    rfl⟩

end Server

end Kori
