import Kori.Daemon.Server
import Kori.Daemon.State.Unlogged

/-! # Nothing is done for a connection before its handshake -/

open Faulty

namespace Kori

variable {Raw ι : Type} {toml : Toml Raw} {decode : Decode Request} {machine : Machine Raw}

/-! ## One pass -/

namespace Connection

variable {before connection : Connection} {moment : Moment}

@[simp] theorem respond_reader (response : Response) :
    (connection.respond moment response).2.reader = connection.reader := rfl
@[simp] theorem respond_handshakeDone (response : Response) :
    (connection.respond moment response).2.handshakeDone = connection.handshakeDone := rfl
@[simp] theorem refuse_handshakeDone (error : IpcError) :
    (connection.refuse moment error).handshakeDone = connection.handshakeDone := rfl
@[simp] theorem refuse_serving (error : IpcError) : (connection.refuse moment error).serving = false := rfl

/-- What one pass may come to. -/
inductive Passed (toml : Toml Raw) (decode : Decode Request) (moment : Moment) (before : Connection)
    (machine : Machine Raw) : (Option Exchange × Connection) × Machine Raw → Prop where
  | ended {reader} (hframe : readFrame decode before.reader = (.error .closed, reader)) :
    Passed toml decode moment before machine ((none, { before with reader, serving := false }),
      (Machine.note (.clientDisconnected "client closed the connection") machine).2)
  | unreadable {error ipcError reader} (hframe : readFrame decode before.reader = (.error error, reader))
    (herror : error.asIpcError = some ipcError) :
    Passed toml decode moment before machine ((none, { before with reader }.refuse moment ipcError),
      (Machine.note (.clientDisconnected error.display) machine).2)
  | early {request reader} (hframe : readFrame decode before.reader = (.ok request, reader))
    (hdone : before.handshakeDone = false) (hrequest : request.isHello = false) :
    Passed toml decode moment before machine
      ((none, { before with reader }.refuse moment .handshakeRequired), machine)
  /-- The answer did not go out. -/
  | lost {request reader response after error answered}
    (hframe : readFrame decode before.reader = (.ok request, reader))
    (hallowed : before.handshakeDone = true ∨ request.isHello = true)
    (hhandle : Machine.handle toml moment.around request machine = (response, after))
    (hrespond : { before with reader }.respond moment response = (.error error, answered)) :
    Passed toml decode moment before machine
      ((some ⟨request, response, false⟩, { answered with serving := false }), after)
  /-- The handshake was refused. -/
  | turnedAway {request reader response after answered}
    (hframe : readFrame decode before.reader = (.ok request, reader))
    (hdone : before.handshakeDone = false) (hrequest : request.isHello = true)
    (hhandle : Machine.handle toml moment.around request machine = (response, after))
    (hresponse : response.isHello = false)
    (hrespond : { before with reader }.respond moment response = (.ok (), answered)) :
    Passed toml decode moment before machine
      ((some ⟨request, response, true⟩, { answered with serving := false }), after)
  | served {request reader response after answered}
    (hframe : readFrame decode before.reader = (.ok request, reader))
    (hhandle : Machine.handle toml moment.around request machine = (response, after))
    (hallowed : before.handshakeDone = true ∨ request.isHello = true ∧ response.isHello = true)
    (hrespond : { before with reader }.respond moment response = (.ok (), answered)) :
    Passed toml decode moment before machine
      ((some ⟨request, response, true⟩, { answered with handshakeDone := true }), after)

theorem pass_failed {error : FrameError} {reader : Incoming UInt8}
    (hframe : readFrame decode before.reader = (.error error, reader)) :
    before.pass toml decode moment machine = match error.asIpcError with
      | none => ((none, { before with reader, serving := false }),
          (Machine.note (.clientDisconnected "client closed the connection") machine).2)
      | some ipcError => ((none, { before with reader }.refuse moment ipcError),
          (Machine.note (.clientDisconnected error.display) machine).2) := by
  unfold pass
  simp only [hframe]
  cases error.asIpcError <;> rfl

variable {request : Request} {reader : Incoming UInt8}
  (hframe : readFrame decode before.reader = (.ok request, reader))
include hframe

theorem pass_early (hdone : before.handshakeDone = false) (hrequest : request.isHello = false) :
    before.pass toml decode moment machine =
      ((none, { before with reader }.refuse moment .handshakeRequired), machine) := by
  unfold pass
  simp only [hframe, hdone, hrequest, and_self, if_true]
  rfl

theorem pass_request (hallowed : before.handshakeDone = true ∨ request.isHello = true) :
    before.pass toml decode moment machine =
      let handled := Machine.handle toml moment.around request machine
      let answered := { before with reader }.answer moment handled.1
      ((some ⟨request, handled.1, answered.1⟩, answered.2), handled.2) := by
  have hnot : ¬ (before.handshakeDone = false ∧ request.isHello = false) := by
    rintro ⟨hdone, hrequest⟩
    rw [hdone, hrequest] at hallowed
    exact hallowed.elim Bool.false_ne_true Bool.false_ne_true
  unfold pass
  simp only [hframe, hnot, if_false]
  rfl

omit hframe

theorem passed (before : Connection) (moment : Moment) (machine : Machine Raw) :
    Passed toml decode moment before machine (before.pass toml decode moment machine) := by
  rcases hframe : readFrame decode before.reader with ⟨frame, reader⟩
  cases frame with
  | error error =>
    rw [pass_failed hframe]
    cases error with
    | closed => exact .ended hframe
    | tooLarge maxBytes => exact .unreadable hframe rfl
    | decode detail => exact .unreadable hframe rfl
    | io detail => exact .unreadable hframe rfl
  | ok request =>
    by_cases hallowed : before.handshakeDone = true ∨ request.isHello = true
    · rw [pass_request hframe hallowed]
      rcases hhandle : Machine.handle toml moment.around request machine with ⟨response, after⟩
      dsimp only
      unfold answer
      rcases hrespond : { before with reader }.respond moment response with ⟨result, answered⟩
      simp only [hrespond]
      cases result with
      | error error => exact .lost hframe hallowed hhandle hrespond
      | ok =>
        dsimp only
        by_cases hrefused : before.handshakeDone = false ∧ response.isHello = false
        · rw [if_pos hrefused]
          have hrequest := hallowed.resolve_left (by rw [hrefused.1]; exact Bool.false_ne_true)
          exact .turnedAway hframe hrefused.1 hrequest hhandle hrefused.2 hrespond
        · rw [if_neg hrefused]
          refine .served hframe hhandle ?_ hrespond
          cases hdone : before.handshakeDone with
          | true => exact .inl rfl
          | false =>
            rw [hdone] at hallowed hrefused
            simpa using And.intro hallowed hrefused
    · rw [not_or, Bool.not_eq_true, Bool.not_eq_true] at hallowed
      rw [pass_early hframe hallowed.1 hallowed.2]
      exact .early hframe hallowed.1 hallowed.2

end Connection

theorem Machine.handle_hello (toml : Toml Raw) (around : Surroundings) {request : Request}
    (h : request.isHello = true) (machine : Machine Raw) :
    request = .hello PROTOCOL_VERSION ∧
      handle toml around request machine = (.hello PROTOCOL_VERSION DAEMON_VERSION, machine) ∨
    ∃ error, handle toml around request machine = (.error error, (note (.requestRejected error) machine).2) := by
  cases request with
  | hello version =>
    by_cases hversion : version = PROTOCOL_VERSION
    · subst hversion
      exact .inl ⟨rfl, rfl⟩
    · have hdispatch : dispatch toml around (.hello version) =
          (return .error (.unsupportedProtocol version PROTOCOL_VERSION)) := if_pos hversion
      refine .inr ⟨.unsupportedProtocol version PROTOCOL_VERSION, ?_⟩
      unfold handle
      rw [hdispatch]
      rfl
  | _ => cases h

namespace Connection

variable {before : Connection} {moment : Moment} {r : (Option Exchange × Connection) × Machine Raw}

theorem Passed.done (h : Passed toml decode moment before machine r) (hdone : r.1.2.handshakeDone = true) :
    before.handshakeDone = true ∨
      r.1.1 = some ⟨.hello PROTOCOL_VERSION, .hello PROTOCOL_VERSION DAEMON_VERSION, true⟩ := by
  cases h with
  | ended hframe => exact .inl hdone
  | unreadable hframe herror => exact .inl hdone
  | early hframe hnot hrequest => exact .inl hdone
  | lost hframe hallowed hhandle hrespond =>
    left
    rwa [← congrArg (fun r => r.2.handshakeDone) hrespond] at hdone
  | turnedAway hframe hnot hrequest hhandle hresponse hrespond =>
    left
    rwa [← congrArg (fun r => r.2.handshakeDone) hrespond] at hdone
  | served hframe hhandle hallowed hrespond =>
    rcases hallowed with hbefore | ⟨hrequest, hresponse⟩
    · exact .inl hbefore
    · obtain ⟨rfl, htaken⟩ | ⟨error, hrefused⟩ := Machine.handle_hello toml moment.around hrequest machine
      · obtain ⟨rfl, rfl⟩ := Prod.mk.inj (hhandle.symm.trans htaken)
        exact .inr rfl
      · obtain ⟨rfl, rfl⟩ := Prod.mk.inj (hhandle.symm.trans hrefused)
        cases hresponse

theorem Passed.stays (h : Passed toml decode moment before machine r) (hdone : before.handshakeDone = true) :
    r.1.2.handshakeDone = true := by
  cases h with
  | ended hframe => exact hdone
  | unreadable hframe herror => exact hdone
  | early hframe hnot hrequest => exact hdone
  | lost hframe hallowed hhandle hrespond => exact (congrArg (fun r => r.2.handshakeDone) hrespond).symm.trans hdone
  | turnedAway hframe hnot hrequest hhandle hresponse hrespond =>
    exact (congrArg (fun r => r.2.handshakeDone) hrespond).symm.trans hdone
  | served hframe hhandle hallowed hrespond => rfl

theorem Passed.allowed (h : Passed toml decode moment before machine r) {exchange : Exchange}
    (hexchange : r.1.1 = some exchange) (hrequest : exchange.request.isHello = false) :
    before.handshakeDone = true := by
  cases h with
  | ended hframe => cases hexchange
  | unreadable hframe herror => cases hexchange
  | early hframe hdone hnot => cases hexchange
  | lost hframe hallowed hhandle hrespond =>
    cases hexchange
    exact hallowed.resolve_right (by rw [hrequest]; exact Bool.false_ne_true)
  | turnedAway hframe hdone hhello hhandle hresponse hrespond =>
    cases hexchange
    cases hrequest.symm.trans hhello
  | served hframe hhandle hallowed hrespond =>
    cases hexchange
    exact hallowed.resolve_right (by rw [hrequest]; exact fun h => nomatch h.1)

theorem Passed.response (h : Passed toml decode moment before machine r) {exchange : Exchange}
    (hexchange : r.1.1 = some exchange) :
    exchange.response = (Machine.handle toml moment.around exchange.request machine).1 := by
  cases h with
  | ended hframe => cases hexchange
  | unreadable hframe herror => cases hexchange
  | early hframe hdone hnot => cases hexchange
  | lost hframe hallowed hhandle hrespond =>
    cases hexchange
    exact (congrArg Prod.fst hhandle).symm
  | turnedAway hframe hdone hhello hhandle hresponse hrespond =>
    cases hexchange
    exact (congrArg Prod.fst hhandle).symm
  | served hframe hhandle hallowed hrespond =>
    cases hexchange
    exact (congrArg Prod.fst hhandle).symm

theorem Passed.reads (h : Passed toml decode moment before machine r) {exchange : Exchange}
    (hexchange : r.1.1 = some exchange) : ∃ reader, readFrame decode before.reader = (.ok exchange.request, reader) := by
  cases h with
  | ended hframe => cases hexchange
  | unreadable hframe herror => cases hexchange
  | early hframe hdone hnot => cases hexchange
  | lost hframe hallowed hhandle hrespond =>
    cases hexchange
    exact ⟨_, hframe⟩
  | turnedAway hframe hdone hhello hhandle hresponse hrespond =>
    cases hexchange
    exact ⟨_, hframe⟩
  | served hframe hhandle hallowed hrespond =>
    cases hexchange
    exact ⟨_, hframe⟩

theorem Passed.closes (h : Passed toml decode moment before machine r) (hdone : before.handshakeDone = false)
    (hnot : ∀ exchange, r.1.1 = some exchange → exchange.response.isHello = false) :
    r.1.2.serving = false ∧
      ((readFrame decode before.reader).1 = .error .closed ∧ r.1.2.written = before.written ∨
        ∃ error, r.1.2.written = (before.respond moment (.error error)).2.written) := by
  have hrefusal : ∀ {request response after}, request.isHello = true →
      Machine.handle toml moment.around request machine = (response, after) → response.isHello = false →
      ∃ error, response = .error error := by
    intro request response after hrequest hhandle hresponse
    obtain ⟨-, htaken⟩ | ⟨error, hrefused⟩ := Machine.handle_hello toml moment.around hrequest machine
    · obtain ⟨rfl, rfl⟩ := Prod.mk.inj (hhandle.symm.trans htaken)
      cases hresponse
    · exact ⟨error, (Prod.mk.inj (hhandle.symm.trans hrefused)).1⟩
  cases h with
  | ended hframe => exact ⟨rfl, .inl ⟨congrArg Prod.fst hframe, rfl⟩⟩
  | unreadable hframe herror => exact ⟨rfl, .inr ⟨_, rfl⟩⟩
  | early hframe _ hrequest => exact ⟨rfl, .inr ⟨_, rfl⟩⟩
  | lost hframe hallowed hhandle hrespond =>
    have hrequest := hallowed.resolve_left (by rw [hdone]; exact Bool.false_ne_true)
    obtain ⟨error, rfl⟩ := hrefusal hrequest hhandle (hnot _ rfl)
    exact ⟨rfl, .inr ⟨error, (congrArg (fun r => r.2.written) hrespond).symm⟩⟩
  | turnedAway hframe _ hrequest hhandle hresponse hrespond =>
    obtain ⟨error, rfl⟩ := hrefusal hrequest hhandle hresponse
    exact ⟨rfl, .inr ⟨error, (congrArg (fun r => r.2.written) hrespond).symm⟩⟩
  | served hframe hhandle hallowed hrespond =>
    have hresponse := hallowed.resolve_left (by rw [hdone]; exact Bool.false_ne_true)
    cases (hnot _ rfl).symm.trans hresponse.2

theorem Passed.sameButLog (h : Passed toml decode moment before machine r)
    (hdone : r.1.2.handshakeDone = false) (hbefore : before.handshakeDone = false) :
    machine.SameButLog r.2 := by
  have hgreeting : ∀ {request response after}, request.isHello = true →
      Machine.handle toml moment.around request machine = (response, after) → machine.SameButLog after := by
    intro request response after hrequest hhandle
    obtain ⟨-, htaken⟩ | ⟨error, hrefused⟩ := Machine.handle_hello toml moment.around hrequest machine
    · obtain ⟨-, rfl⟩ := Prod.mk.inj (hhandle.symm.trans htaken)
      exact refl_of Machine.SameButLog _
    · obtain ⟨-, rfl⟩ := Prod.mk.inj (hhandle.symm.trans hrefused)
      exact Machine.sameButLog_note _ machine
  cases h with
  | ended hframe => exact Machine.sameButLog_note _ machine
  | unreadable hframe herror => exact Machine.sameButLog_note _ machine
  | early hframe _ hrequest => exact refl_of Machine.SameButLog machine
  | lost hframe hallowed hhandle hrespond =>
    exact hgreeting (hallowed.resolve_left (by rw [hbefore]; exact Bool.false_ne_true)) hhandle
  | turnedAway hframe _ hrequest hhandle hresponse hrespond => exact hgreeting hrequest hhandle
  | served hframe hhandle hallowed hrespond => cases hdone

end Connection

/-! ## One turn -/

namespace Server

variable [DecidableEq ι] {ownUid : Nat} {server : Server Raw ι} {event : Event ι} {client : ι}

theorem step_accept_new {peer : Except String Peer} {reader : Incoming UInt8} {moment : Moment}
    (h : server.connections client = none) :
    step toml decode ownUid (.accept client peer reader moment) server =
      (none, server.set client ((Connection.opened reader).accept ownUid peer moment server.machine)) := by
  unfold step
  simp only [h]

theorem step_accept_taken {peer : Except String Peer} {reader : Incoming UInt8} {moment : Moment}
    {connection : Connection} (h : server.connections client = some connection) :
    step toml decode ownUid (.accept client peer reader moment) server = (none, server) := by
  unfold step
  simp only [h]

theorem step_pass {moment : Moment} {connection : Connection}
    (h : server.connections client = some connection) (hserving : connection.serving = true) :
    step toml decode ownUid (.pass client moment) server =
      let r := connection.pass toml decode moment server.machine
      (r.1.1.map fun exchange => (client, exchange), server.set client (r.1.2, r.2)) := by
  unfold step
  simp only [h, hserving, if_true]

theorem step_pass_idle {moment : Moment}
    (h : ∀ connection, server.connections client = some connection → connection.serving = false) :
    step toml decode ownUid (.pass client moment) server = (none, server) := by
  unfold step
  cases hconnection : server.connections client with
  | none => simp only [hconnection]
  | some connection => simp only [hconnection, h connection hconnection, Bool.false_eq_true, if_false]

theorem turn_idle {moment : Moment}
    (h : ∀ connection, server.connections client = some connection → connection.serving = false) :
    (turn (step toml decode ownUid) server (.pass client moment)).after = server :=
  congrArg Prod.snd (step_pass_idle h)

/-- What a turn may be to one client. -/
inductive Turned (toml : Toml Raw) (decode : Decode Request) (client : ι) (t : ServerTurn Raw ι) : Prop where
  | apart (hconnection : t.after.connections client = t.before.connections client)
    (hanswer : ∀ exchange, t.answer ≠ some (client, exchange))
    (hidle : t.call.client = some client → t.after = t.before)
  | opened (connection : Connection) (hcall : t.call.client = some client)
    (hbefore : t.before.connections client = none)
    (hconnection : t.after.connections client = some connection) (hdone : connection.handshakeDone = false)
    (hsame : t.before.machine.SameButLog t.after.machine) (hanswer : t.answer = none)
  | passed (moment : Moment) (connection : Connection) (r : (Option Exchange × Connection) × Machine Raw)
    (hcall : t.call = .pass client moment) (hbefore : t.before.connections client = some connection)
    (hserving : connection.serving = true)
    (h : Connection.Passed toml decode moment connection t.before.machine r)
    (hconnection : t.after.connections client = some r.1.2) (hmachine : t.after.machine = r.2)
    (hanswer : t.answer = r.1.1.map fun exchange => (client, exchange))

theorem accept_same (peer : Except String Peer) (moment : Moment) (connection : Connection) (machine : Machine Raw) :
    (connection.accept ownUid peer moment machine).1.handshakeDone = connection.handshakeDone ∧
      machine.SameButLog (connection.accept ownUid peer moment machine).2 := by
  unfold Connection.accept
  cases peer with
  | error reason => exact ⟨rfl, Machine.sameButLog_note _ machine⟩
  | ok peer =>
    dsimp only
    split
    · exact ⟨rfl, Machine.sameButLog_note _ machine⟩
    · exact ⟨rfl, Machine.sameButLog_note _ machine⟩

theorem step_turned (server : Server Raw ι) (event : Event ι) (client : ι) :
    Turned toml decode client (turn (step toml decode ownUid) server event) := by
  have hapart : ∀ {other : ι} {r : Connection × Machine Raw}, other ≠ client →
      (server.set other r).connections client = server.connections client :=
    fun hother => set_other (Ne.symm hother) ..
  cases event with
  | tick around => exact .apart rfl (fun _ h => nomatch h) fun h => nomatch h
  | tickAnimation now => exact .apart rfl (fun _ h => nomatch h) fun h => nomatch h
  | dropDisplayFrame => exact .apart rfl (fun _ h => nomatch h) fun h => nomatch h
  | accept other peer reader moment =>
    cases hconnection : server.connections other with
    | some connection =>
      have hstep := @step_accept_taken _ _ toml decode _ ownUid server other peer reader moment _ hconnection
      refine .apart ?_ ?_ fun _ => congrArg Prod.snd hstep
      · exact congrArg (fun r => r.2.connections client) hstep
      · exact fun _ h => nomatch (congrArg Prod.fst hstep).symm.trans h
    | none =>
      have hstep := @step_accept_new _ _ toml decode _ ownUid server other peer reader moment hconnection
      obtain ⟨hdone, hsame⟩ := @accept_same _ ownUid peer moment (.opened reader) server.machine
      by_cases hother : other = client
      · subst hother
        refine .opened _ rfl hconnection ?_ hdone ?_ (congrArg Prod.fst hstep)
        · exact (congrArg (fun r => r.2.connections other) hstep).trans (set_self ..)
        · exact (congrArg (fun r => r.2.machine) hstep) ▸ hsame
      · refine .apart ?_ ?_ fun h => absurd (Option.some.inj h) hother
        · exact (congrArg (fun r => r.2.connections client) hstep).trans (hapart hother)
        · exact fun _ h => nomatch (congrArg Prod.fst hstep).symm.trans h
  | pass other moment =>
    by_cases hserving : ∃ connection, server.connections other = some connection ∧ connection.serving = true
    · obtain ⟨connection, hconnection, hserving⟩ := hserving
      have hstep := @step_pass _ _ toml decode _ ownUid server other moment _ hconnection hserving
      by_cases hother : other = client
      · subst hother
        refine .passed moment connection _ rfl hconnection hserving (Connection.passed ..) ?_ ?_
          (congrArg Prod.fst hstep)
        · exact (congrArg (fun r => r.2.connections other) hstep).trans (set_self ..)
        · exact congrArg (fun r => r.2.machine) hstep
      · refine .apart ?_ ?_ fun h => absurd (Option.some.inj h) hother
        · exact (congrArg (fun r => r.2.connections client) hstep).trans (hapart hother)
        · intro exchange hanswer
          have hclient := (congrArg Prod.fst hstep).symm.trans hanswer
          obtain ⟨_, -, heq⟩ := Option.map_eq_some_iff.mp hclient
          exact hother (congrArg Prod.fst heq)
    · have hstep := @step_pass_idle _ _ toml decode _ ownUid server other moment fun connection hconnection =>
        Bool.eq_false_iff.mpr fun h => hserving ⟨connection, hconnection, h⟩
      refine .apart ?_ ?_ fun _ => congrArg Prod.snd hstep
      · exact congrArg (fun r => r.2.connections client) hstep
      · exact fun _ h => nomatch (congrArg Prod.fst hstep).symm.trans h

theorem connections_of_ne (h : event.client ≠ some client) :
    (turn (step toml decode ownUid) server event).after.connections client = server.connections client := by
  cases @step_turned _ _ toml decode _ ownUid server event client with
  | apart hconnection hanswer hidle => exact hconnection
  | opened connection hcall hbefore hconnection hnot hsame hanswer => exact absurd hcall h
  | passed moment connection r hcall hbefore hserving hpassed hconnection hmachine hanswer =>
    obtain rfl : event = .pass client moment := hcall
    exact absurd rfl h

/-! ## The run -/

/-- The client was answered with the daemon's own version. -/
def Greeted (past : List (ServerTurn Raw ι)) (client : ι) : Prop :=
  ∃ t ∈ past, t.answer = some (client, ⟨.hello PROTOCOL_VERSION, .hello PROTOCOL_VERSION DAEMON_VERSION, true⟩)

/-- Whether a client's connection is past its handshake. -/
def completed (server : Server Raw ι) (client : ι) : Bool :=
  (server.connections client).any Connection.handshakeDone

omit [DecidableEq ι] in
theorem completed_of_some {connection : Connection} (h : server.connections client = some connection) :
    server.completed client = connection.handshakeDone := by
  unfold completed
  rw [h]
  rfl

theorem turn_greeted {past : List (ServerTurn Raw ι)}
    (h : ∀ client, server.completed client = true → Greeted past client) :
    let t := turn (step toml decode ownUid) server event
    (∀ client exchange, t.answer = some (client, exchange) → exchange.request.isHello = false →
      Greeted past client) ∧
    ∀ client, t.after.completed client = true → Greeted (past ++ [t]) client := by
  intro t
  have hkept : ∀ client, Greeted past client → Greeted (past ++ [t]) client :=
    fun client ⟨u, hmem, hu⟩ => ⟨u, List.mem_append_left _ hmem, hu⟩
  refine ⟨fun client exchange hanswer hrequest => ?_, fun client hdone => ?_⟩
  · cases @step_turned _ _ toml decode _ ownUid server event client with
    | apart hconnection hother hidle => exact absurd hanswer (hother exchange)
    | opened connection hcall hbefore hconnection hnot hsame hnone => cases hnone.symm.trans hanswer
    | passed moment connection r hcall hbefore hserving hpassed hconnection hmachine hmap =>
      obtain ⟨_, hexchange, heq⟩ := Option.map_eq_some_iff.mp (hmap.symm.trans hanswer)
      cases heq
      exact h client ((completed_of_some hbefore).trans (hpassed.allowed hexchange hrequest))
  · cases @step_turned _ _ toml decode _ ownUid server event client with
    | apart hconnection hother hidle =>
      refine hkept client (h client ?_)
      rwa [completed, hconnection] at hdone
    | opened connection hcall hbefore hconnection hnot hsame hnone =>
      rw [completed_of_some hconnection, hnot] at hdone
      cases hdone
    | passed moment connection r hcall hbefore hserving hpassed hconnection hmachine hmap =>
      rw [completed_of_some hconnection] at hdone
      rcases hpassed.done hdone with hearlier | hgreeting
      · exact hkept client (h client ((completed_of_some hbefore).trans hearlier))
      · exact ⟨t, by simp, by rw [hmap, hgreeting]; rfl⟩

theorem turns_ended {connection : Connection} (hconnection : server.connections client = some connection)
    (hserving : connection.serving = false) (events : List (Event ι)) :
    (afterAll (step toml decode ownUid) server events).connections client = some connection ∧
      ∀ t ∈ turns (step toml decode ownUid) server events, ∀ exchange, t.answer ≠ some (client, exchange) := by
  induction events generalizing server with
  | nil => exact ⟨hconnection, fun _ h => nomatch h⟩
  | cons event rest ih =>
    have hturn : (turn (step toml decode ownUid) server event).after.connections client = some connection ∧
        ∀ exchange, (turn (step toml decode ownUid) server event).answer ≠ some (client, exchange) := by
      cases @step_turned _ _ toml decode _ ownUid server event client with
      | apart hsame hother hidle => exact ⟨hsame.trans hconnection, hother⟩
      | opened other hcall hbefore hafter hnot hsame hnone => cases hbefore.symm.trans hconnection
      | passed moment other r hcall hbefore hserved hpassed hafter hmachine hmap =>
        cases hbefore.symm.trans hconnection
        cases hserved.symm.trans hserving
    obtain ⟨hend, hrest⟩ := ih hturn.1
    exact ⟨hend, List.forall_mem_cons.mpr ⟨hturn.2, hrest⟩⟩

theorem completed_afterAll (h : server.completed client = true) (events : List (Event ι)) :
    (afterAll (step toml decode ownUid) server events).completed client = true := by
  refine (turns_invariant (fun server : Server Raw ι => server.completed client = true) (fun _ => True) ?_ events h
    fun _ _ => trivial).1
  intro server event hdone _
  cases @step_turned _ _ toml decode _ ownUid server event client with
  | apart hsame hother hidle => rwa [completed, hsame]
  | opened connection hcall hbefore hafter hnot hsame hnone =>
    obtain ⟨_, hsome, -⟩ := (Option.any_eq_true _ _).mp hdone
    cases hbefore.symm.trans hsome
  | passed moment connection r hcall hbefore hserving hpassed hafter hmachine hmap =>
    have hearlier := (completed_of_some hbefore).symm.trans hdone
    exact (completed_of_some hafter).trans (hpassed.stays hearlier)

end Server

end Kori
