import Kori.Daemon.Server.Answers

/-! # What clients that never complete the handshake leave behind -/

open Faulty

namespace Kori

variable {Raw ι : Type} {toml : Toml Raw} {decode : Decode Request}

namespace Connection

variable {connection other : Connection} {moment : Moment} {machine : Machine Raw}

/-- The connection, but for the bytes that went out of it. -/
def unwritten (connection : Connection) : Connection := { connection with written := [] }

theorem respond_result (response : Response) : (connection.respond moment response).1 =
    (other.respond moment response).1 := by
  unfold respond writeFrame
  cases moment.encode response with
  | error detail => rfl
  | ok encoded =>
    dsimp only
    split
    · rfl
    · simp only [Write.writeAll, Write.flush]
      cases moment.fault <;> rfl

theorem respond_fits {response : Response} (h : moment.Fits response) :
    (connection.respond moment response).1 = match moment.fault with
      | none => .ok ()
      | some (_, detail) => .error (.io detail) := by
  obtain ⟨encoded, hencoded, hfits⟩ := h
  unfold respond writeFrame
  simp only [hencoded, if_neg (Nat.not_lt.mpr hfits), Write.writeAll, Write.flush]
  cases moment.fault <;> rfl

theorem isHello_diagnostics (version : String) (record : CapabilityRecord) (events : List EventKind) :
    (Response.diagnostics version record events).isHello = false := rfl

theorem answer_alike {response response' : Response} (h : connection.unwritten = other.unwritten)
    (hhello : response.isHello = response'.isHello)
    (hresult : (connection.respond moment response).1 = (other.respond moment response').1) :
    (connection.answer moment response).2.unwritten = (other.answer moment response').2.unwritten := by
  obtain ⟨reader, written, done, serving⟩ := connection
  obtain ⟨reader', written', done', serving'⟩ := other
  obtain ⟨rfl, rfl, rfl⟩ : reader = reader' ∧ done = done' ∧ serving = serving' := by
    simpa [unwritten] using h
  unfold answer
  dsimp only
  rw [← hresult, ← hhello]
  split
  · rfl
  · split <;> rfl

theorem pass_alike {log : List EventKind} (h : connection.unwritten = other.unwritten)
    (hfit : ∀ exchange, (connection.pass toml decode moment machine).1.1 = some exchange →
      exchange.request = .diagnostics → moment.Fits exchange.response)
    (hfit' : ∀ exchange, (other.pass toml decode moment (machine.withLog log)).1.1 = some exchange →
      exchange.request = .diagnostics → moment.Fits exchange.response) :
    (connection.pass toml decode moment machine).1.2.unwritten =
        (other.pass toml decode moment (machine.withLog log)).1.2.unwritten ∧
      (connection.pass toml decode moment machine).2.SameButLog
        (other.pass toml decode moment (machine.withLog log)).2 := by
  obtain ⟨reader, written, done, serving⟩ := connection
  obtain ⟨reader', written', done', serving'⟩ := other
  obtain ⟨rfl, rfl, rfl⟩ : reader = reader' ∧ done = done' ∧ serving = serving' := by
    simpa [unwritten] using h
  rcases hframe : readFrame decode reader with ⟨frame, rest⟩
  cases frame with
  | error error =>
    rw [pass_failed hframe, pass_failed hframe]
    cases error.asIpcError with
    | none => exact ⟨rfl, _, rfl⟩
    | some ipcError => exact ⟨rfl, _, rfl⟩
  | ok request =>
    by_cases hallowed : done = true ∨ request.isHello = true
    · rw [pass_request hframe hallowed] at hfit hfit' ⊢
      rw [pass_request hframe hallowed]
      by_cases hrequest : request = .diagnostics
      · subst hrequest
        have hfirst : moment.Fits (Machine.handle toml moment.around .diagnostics machine).1 := hfit _ rfl rfl
        have hsecond : moment.Fits
            (Machine.handle toml moment.around .diagnostics (machine.withLog log)).1 := hfit' _ rfl rfl
        refine ⟨answer_alike rfl ?_ ?_, log, rfl⟩
        · rw [Machine.handle_diagnostics, Machine.handle_diagnostics, isHello_diagnostics, isHello_diagnostics]
        · rw [respond_fits hfirst, respond_fits hsecond]
      · obtain ⟨hsame, hafter⟩ := (Machine.unlogged_handle hrequest).same
          (⟨log, rfl⟩ : machine.SameButLog (machine.withLog log))
        refine ⟨answer_alike rfl (congrArg Response.isHello hsame.symm) ?_, hafter⟩
        rw [hsame]
        exact respond_result _
    · rw [not_or, Bool.not_eq_true, Bool.not_eq_true] at hallowed
      rw [pass_early hframe hallowed.1 hallowed.2, pass_early hframe hallowed.1 hallowed.2]
      exact ⟨rfl, log, rfl⟩

end Connection

namespace Server

variable [DecidableEq ι] {ownUid : Nat} {server other : Server Raw ι} {kept : ι → Bool}

/-- Whether a turn is that of a client some are kept of, or of none. -/
def Event.keptBy (kept : ι → Bool) (event : Event ι) : Bool := event.client.all kept

/-- Every export of the diagnostics fits in a frame. -/
def DiagnosticsFit (run : List (ServerTurn Raw ι)) : Prop :=
  ∀ t ∈ run, ∀ client moment exchange, t.call = .pass client moment → t.answer = some (client, exchange) →
    exchange.request = .diagnostics → moment.Fits exchange.response

/-- Two servers agree on the daemon but for its log, and on the clients that are kept. -/
structure Agree (kept : ι → Bool) (server other : Server Raw ι) : Prop where
  machine : server.machine.SameButLog other.machine
  connections : ∀ client, kept client = true →
    (server.connections client).map Connection.unwritten = (other.connections client).map Connection.unwritten

theorem Agree.skip (h : Agree kept server other) {event : Event ι} {client : ι} (hclient : event.client = some client)
    (hkept : kept client = false)
    (hdone : (turn (step toml decode ownUid) server event).after.completed client = false) :
    Agree kept (turn (step toml decode ownUid) server event).after other := by
  refine ⟨?_, fun other hother => ?_⟩
  · have hsame : server.machine.SameButLog (turn (step toml decode ownUid) server event).after.machine := by
      cases @step_turned _ _ toml decode _ ownUid server event client with
      | apart hconnection hanswer hidle =>
        rw [hidle hclient]
        exact refl_of Machine.SameButLog _
      | opened connection hcall hbefore hconnection hnot hsame hanswer => exact hsame
      | passed moment connection r hcall hbefore hserving hpassed hconnection hmachine hanswer =>
        rw [completed_of_some hconnection] at hdone
        rw [hmachine]
        exact hpassed.sameButLog hdone (Bool.eq_false_iff.mpr fun hearlier =>
          Bool.false_ne_true (hdone.symm.trans (hpassed.stays hearlier)))
    exact trans_of Machine.SameButLog hsame.symm h.machine
  · have hdiffer : event.client ≠ some other := by
      rw [hclient]
      rintro ⟨⟩
      cases hkept.symm.trans hother
    rw [connections_of_ne hdiffer]
    exact h.connections other hother

theorem Agree.set (h : Agree kept server other) {r r' : Connection × Machine Raw} (client : ι)
    (hconnection : r.1.unwritten = r'.1.unwritten) (hmachine : r.2.SameButLog r'.2) :
    Agree kept (server.set client r) (other.set client r') := by
  refine ⟨hmachine, fun client' hkept => ?_⟩
  by_cases hclient : client' = client
  · subst hclient
    rw [set_self, set_self]
    exact congrArg some hconnection
  · rw [set_other hclient, set_other hclient]
    exact h.connections client' hkept

theorem unlogged_accept (peer : Except String Peer) (moment : Moment) (connection : Connection) :
    Machine.Unlogged (@Connection.accept Raw ownUid peer moment connection) := by
  unfold Connection.accept
  cases peer with
  | error reason => exact .bind (Machine.unlogged_note _) fun _ => .pure _
  | ok peer =>
    dsimp only
    split
    · exact .bind (Machine.unlogged_note _) fun _ => .pure _
    · exact .bind (Machine.unlogged_note _) fun _ => .pure _

theorem Agree.keep (h : Agree kept server other) {event : Event ι} (hkept : event.keptBy kept = true)
    (hfit : DiagnosticsFit [turn (step toml decode ownUid) server event])
    (hfit' : DiagnosticsFit [turn (step toml decode ownUid) other event]) :
    Agree kept (turn (step toml decode ownUid) server event).after
      (turn (step toml decode ownUid) other event).after := by
  obtain ⟨log, hlog⟩ := h.machine
  have hclock : ∀ {α : Type} {f : Act Raw α}, Machine.Unlogged f →
      Agree kept (server.clock f) (other.clock f) := fun hf => ⟨(hf.same h.machine).2, h.connections⟩
  change Agree kept (step toml decode ownUid event server).2 (step toml decode ownUid event other).2
  cases event with
  | tick around => exact hclock Machine.unlogged_tick
  | tickAnimation now => exact hclock (Machine.unlogged_draw _)
  | dropDisplayFrame => exact hclock (Machine.unlogged_draw _)
  | accept client peer reader moment =>
    have hsame := h.connections client hkept
    cases hconnection : server.connections client with
    | none =>
      rw [hconnection, Option.map_none, eq_comm, Option.map_eq_none_iff] at hsame
      have hleft := @step_accept_new _ _ toml decode _ ownUid server client peer reader moment hconnection
      have hright := @step_accept_new _ _ toml decode _ ownUid other client peer reader moment hsame
      obtain ⟨hopened, hmachine⟩ := (@unlogged_accept Raw ownUid peer moment (.opened reader)).same h.machine
      rw [hleft, hright]
      exact h.set client (congrArg Connection.unwritten hopened.symm) hmachine
    | some connection =>
      rw [hconnection, Option.map_some, eq_comm, Option.map_eq_some_iff] at hsame
      obtain ⟨connection', hconnection', -⟩ := hsame
      have hleft := @step_accept_taken _ _ toml decode _ ownUid server client peer reader moment _ hconnection
      have hright := @step_accept_taken _ _ toml decode _ ownUid other client peer reader moment _ hconnection'
      rw [hleft, hright]
      exact h
  | pass client moment =>
    have hsame := h.connections client hkept
    by_cases hserved : ∃ connection, server.connections client = some connection ∧ connection.serving = true
    · obtain ⟨connection, hconnection, hserving⟩ := hserved
      rw [hconnection, Option.map_some, eq_comm, Option.map_eq_some_iff] at hsame
      obtain ⟨connection', hconnection', halike⟩ := hsame
      have hserving' : connection'.serving = true :=
        (congrArg Connection.serving halike).trans hserving
      have hleft := @step_pass _ _ toml decode _ ownUid server client moment _ hconnection hserving
      have hright := @step_pass _ _ toml decode _ ownUid other client moment _ hconnection' hserving'
      have hpassed := @Connection.pass_alike _ toml decode connection connection' moment server.machine log
        halike.symm ?_ ?_
      · rw [hleft, hright]
        rw [← hlog] at hpassed
        exact h.set client hpassed.1 hpassed.2
      · intro exchange hexchange
        refine hfit _ List.mem_cons_self client moment exchange rfl ?_
        exact (congrArg Prod.fst hleft).trans (congrArg (Option.map _) hexchange)
      · intro exchange hexchange
        rw [← hlog] at hexchange
        refine hfit' _ List.mem_cons_self client moment exchange rfl ?_
        exact (congrArg Prod.fst hright).trans (congrArg (Option.map _) hexchange)
    · have hidle : ∀ connection, server.connections client = some connection → connection.serving = false :=
        fun connection hconnection => Bool.eq_false_iff.mpr fun h => hserved ⟨connection, hconnection, h⟩
      have hidle' : ∀ connection, other.connections client = some connection → connection.serving = false := by
        intro connection' hconnection'
        rw [hconnection', Option.map_some, Option.map_eq_some_iff] at hsame
        obtain ⟨connection, hconnection, halike⟩ := hsame
        exact (congrArg Connection.serving halike).symm.trans (hidle connection hconnection)
      rw [step_pass_idle hidle, step_pass_idle hidle']
      exact h

theorem Agree.run (events : List (Event ι)) (h : Agree kept server other)
    (hkept : ∀ client, kept client = false →
      (afterAll (step toml decode ownUid) server events).completed client = false)
    (hfit : DiagnosticsFit (turns (step toml decode ownUid) server events))
    (hfit' : DiagnosticsFit (turns (step toml decode ownUid) other (events.filter (Event.keptBy kept)))) :
    Agree kept (afterAll (step toml decode ownUid) server events)
      (afterAll (step toml decode ownUid) other (events.filter (Event.keptBy kept))) := by
  induction events generalizing server other with
  | nil => exact h
  | cons event rest ih =>
    obtain ⟨hfirst, hrest⟩ := List.forall_mem_cons.mp hfit
    by_cases hevent : event.keptBy kept = true
    · rw [List.filter_cons_of_pos hevent] at hfit' ⊢
      obtain ⟨hfirst', hrest'⟩ := List.forall_mem_cons.mp hfit'
      exact ih (h.keep hevent (List.forall_mem_singleton.mpr hfirst) (List.forall_mem_singleton.mpr hfirst'))
        hkept hrest hrest'
    · rw [List.filter_cons_of_neg hevent] at hfit' ⊢
      obtain ⟨client, hclient, hnot⟩ := (Option.all_eq_false _ _).mp (Bool.eq_false_iff.mpr hevent)
      refine ih (h.skip hclient hnot ?_) hkept hrest hfit'
      refine Bool.eq_false_iff.mpr fun hdone => ?_
      exact Bool.false_ne_true ((hkept client hnot).symm.trans (completed_afterAll hdone rest))

/-- The turn ended the client's connection, with a refusal unless the client had left. -/
def Ends (decode : Decode Request) (t : ServerTurn Raw ι) (client : ι)
    (moment : Moment) (connection : Connection) : Prop :=
  ∃ after, t.after.connections client = some after ∧ after.serving = false ∧
    ((readFrame decode connection.reader).1 = .error .closed ∧ after.written = connection.written ∨
      ∃ error, after.written = (connection.respond moment (.error error)).2.written)

/-- Only greeted clients are answered anything else. A connection whose first frame earns no greeting
is ended, and asks nothing more. Without the clients that are never greeted, the daemon comes to the
same but for its log, as long as every export of that log fits in a frame. -/
theorem handshake_first (toml : Toml Raw) (decode : Decode Request) (ownUid : Nat) (machine : Machine Raw)
    (events : List (Event ι)) :
    let run := turns (step toml decode ownUid) (fresh machine) events
    let last := afterAll (step toml decode ownUid) (fresh machine) events
    let rest := events.filter (Event.keptBy last.completed)
    (∀ earlier t later, run = earlier ++ t :: later → ∀ client exchange, t.answer = some (client, exchange) →
      exchange.request.isHello = false → Greeted earlier client) ∧
    (∀ earlier t later, run = earlier ++ t :: later → ∀ client moment connection,
      t.call = .pass client moment → t.before.connections client = some connection →
      connection.serving = true → connection.handshakeDone = false →
      (∀ exchange, t.answer = some (client, exchange) → exchange.response.isHello = false) →
      Ends decode t client moment connection ∧
        ∀ later' ∈ later, ∀ exchange, later'.answer ≠ some (client, exchange)) ∧
    (DiagnosticsFit run → DiagnosticsFit (turns (step toml decode ownUid) (fresh machine) rest) →
      last.machine.SameButLog (afterAll (step toml decode ownUid) (fresh machine) rest).machine) := by
  intro run last rest
  refine ⟨?_, ?_, ?_⟩
  · intro earlier t later hsplit client exchange hanswer hrequest
    have hnobody : ∀ client : ι, (fresh machine).completed client = true → Greeted ([] : List (ServerTurn Raw ι)) client := fun _ h => nomatch h
    exact @turns_since _ _ _ (step toml decode ownUid)
      (fun past server => ∀ client, completed server client = true → Greeted past client)
      (fun past t => ∀ client exchange, t.answer = some (client, exchange) → exchange.request.isHello = false →
        Greeted past client)
      (fun past server event h => @turn_greeted _ _ toml decode _ ownUid server event past h)
      _ _ [] _ _ _ hnobody hsplit client exchange hanswer hrequest
  · intro earlier t later hsplit client moment connection hcall hbefore hserving hdone hnot
    have hturn : turn (step toml decode ownUid) t.before t.call = t :=
      eq_of_mem_turns (hsplit ▸ List.mem_append_right _ List.mem_cons_self)
    have hpassed := @Connection.passed _ toml decode connection moment t.before.machine
    have hstep := @step_pass _ _ toml decode _ ownUid t.before client moment _ hbefore hserving
    rw [hcall] at hturn
    have hafter : t.after.connections client = some (connection.pass toml decode moment t.before.machine).1.2 := by
      rw [← hturn]
      exact (congrArg (fun r => r.2.connections client) hstep).trans (set_self ..)
    obtain ⟨hended, hwritten⟩ := hpassed.closes hdone fun exchange hexchange => hnot exchange (by
      rw [← hturn]
      exact (congrArg Prod.fst hstep).trans (congrArg (Option.map _) hexchange))
    obtain ⟨calls, rfl⟩ := turns_split hsplit
    exact ⟨⟨_, hafter, hended, hwritten⟩, (turns_ended hafter hended calls).2⟩
  · intro hfit hfit'
    have hfresh : Agree last.completed (fresh machine : Server Raw ι) (fresh machine) :=
      ⟨refl_of Machine.SameButLog machine, fun _ _ => rfl⟩
    exact (hfresh.run events (fun _ hnot => hnot) hfit hfit').machine

/-! ## A stranger that fills the log -/

def strangerFrame (variant : String) : List UInt8 := ascii (object [("request", quoted variant)])

def diagnosticsFrame : List UInt8 := ascii (object [("request", quoted "diagnostics")])

def quietProfile : Profile := { Profile.safe with name := "Quiet" }

def saveFrame : List UInt8 :=
  ascii (object [("request", quoted "save_profile"), ("profile", object [("name", quoted "Quiet"),
    ("program", object [("mode", quoted "onboard")]), ("device", "null")])])

/-- What the decoder says of a request it does not know. -/
def unknownVariant (variant : String) : String :=
  "unknown variant `" ++ variant ++ "`, expected one of `hello`, `status`, `capabilities`, `profiles`, " ++
    "`save_profile`, `activate_profile`, `delete_profile`, `telemetry`, `apply_program`, " ++
    "`apply_lighting`, `apply_display`, `diagnostics` at line 1 column " ++ toString (variant.length + 13)

def decodeWith (variant : String) : Decode Request := fun payload =>
  if payload = helloFrame then .ok (.hello PROTOCOL_VERSION)
  else if payload = diagnosticsFrame then .ok .diagnostics
  else if payload = saveFrame then .ok (.saveProfile quietProfile)
  else if payload = strangerFrame variant then .error (unknownVariant variant)
  else .error "expected value at line 1 column 1"

theorem strangerFrame_length (n : Nat) : (strangerFrame (filler n)).length = n + 14 := by
  simp [strangerFrame, ascii, object, joined, quoted, filler]

theorem newline_not_mem_strangerFrame (n : Nat) : NEWLINE ∉ strangerFrame (filler n) := by
  simp [strangerFrame, ascii, object, joined, quoted, filler, NEWLINE]

theorem decodeWith_strangerFrame {n : Nat} (h : 200 < n) :
    decodeWith (filler n) (strangerFrame (filler n)) = .error (unknownVariant (filler n)) := by
  have hlong : ∀ frame : List UInt8, frame.length ≤ 200 → strangerFrame (filler n) ≠ frame := by
    rintro frame hshort rfl
    rw [strangerFrame_length] at hshort
    omega
  unfold decodeWith
  rw [if_neg (hlong _ (by decide)), if_neg (hlong _ (by decide)),
    if_neg (hlong _ (by decide)), if_pos rfl]

theorem parses_diagnostics (variant : String) : Parses (decodeWith variant) (diagnosticsFrame, .diagnostics) where
  line := by decide
  fits := by decide
  decodes := by
    unfold decodeWith
    rw [if_neg (by decide), if_pos rfl]

theorem parses_save (variant : String) : Parses (decodeWith variant) (saveFrame, .saveProfile quietProfile) where
  line := by decide
  fits := by decide
  decodes := by
    unfold decodeWith
    rw [if_neg (by decide), if_neg (by decide), if_pos rfl]

theorem not_fits_diagnostics {version : String} {record : CapabilityRecord} {events : List EventKind} {detail : String}
    (hevent : .clientDisconnected detail ∈ events) (hlong : MAX_FRAME_BYTES ≤ detail.length) :
    ¬ benchMoment.Fits (.diagnostics version record events) := by
  rintro ⟨encoded, hencoded, hlength⟩
  obtain rfl := Except.ok.inj hencoded
  rw [ascii_length] at hlength
  have hquoted : detail.length ≤ (quoted detail).length := by
    simp only [quoted, String.length_append]
    omega
  have hfield : (quoted detail).length ≤ (eventJson (.clientDisconnected detail)).length :=
    @le_object "detail" _ _ (by simp [eventFields])
  have hjoined := le_joined (List.mem_map_of_mem (f := eventJson) hevent)
  have hlist : (joined (events.map eventJson)).length ≤ ("[" ++ joined (events.map eventJson) ++ "]").length := by
    simp only [String.length_append]
    omega
  have hobject := @le_object "events" ("[" ++ joined (events.map eventJson) ++ "]")
    [("response", quoted "diagnostics"), ("schema_version", "1"), ("generated_at_unix_ms", "0"),
      ("daemon_version", quoted version), ("capabilities", emptyRecordJson),
      ("events", "[" ++ joined (events.map eventJson) ++ "]")] (by simp)
  omega

/-- A stranger's connection, before its only frame is read. -/
def strange (n : Nat) : Connection := .opened ⟨[strangerFrame (filler n)].flatMap (· ++ [NEWLINE]), .closed⟩

theorem readFrame_stranger {n : Nat} (h : 200 < n) (hfits : n + 15 ≤ MAX_FRAME_BYTES) :
    readFrame (decodeWith (filler n)) (strange n).reader = (.error (.decode (unknownVariant (filler n))), ⟨[], .closed⟩) := by
  have hreader : (strange n).reader = ⟨strangerFrame (filler n) ++ NEWLINE :: [], .closed⟩ := by
    simp [strange, Connection.opened]
  rw [hreader, readFrame_line (newline_not_mem_strangerFrame n) (by rwa [strangerFrame_length]),
    decodeWith_strangerFrame h]
  rfl

theorem stranger_noted {n : Nat} (h : 200 < n) (hfits : n + 15 ≤ MAX_FRAME_BYTES) :
    let server := afterAll (step plainToml (decodeWith (filler n)) 1000) (fresh deviceless)
      [benchAccept false [strangerFrame (filler n)], .pass false benchMoment]
    server.machine = (Machine.note (.clientDisconnected (FrameError.decode (unknownVariant (filler n))).display)
      (Machine.note (.clientAccepted 1000 4242) deviceless).2).2 ∧
    server.connections true = none ∧
    ∃ connection, server.connections false = some connection ∧ connection.handshakeDone = false ∧
      connection.serving = false := by
  intro server
  let accepted := (fresh deviceless).set false (strange n, (Machine.note (.clientAccepted 1000 4242) deviceless).2)
  have hopened : step plainToml (decodeWith (filler n)) 1000 (benchAccept false [strangerFrame (filler n)])
      (fresh deviceless) = (none, accepted) := step_accept_new rfl
  have hpass := @step_pass _ _ plainToml (decodeWith (filler n)) _ 1000 accepted false benchMoment (strange n)
    (set_self ..) rfl
  rw [Connection.pass_failed (readFrame_stranger h hfits)] at hpass
  have hserver : server = (step plainToml (decodeWith (filler n)) 1000 (.pass false benchMoment)
      (step plainToml (decodeWith (filler n)) 1000 (benchAccept false [strangerFrame (filler n)])
        (fresh deviceless)).2).2 := rfl
  rw [hserver, hopened, hpass]
  exact ⟨rfl, rfl, _, set_self .., rfl, rfl⟩

/-- A client that asks for the diagnostics, then saves a profile. -/
def saving : List (Event Bool) :=
  [benchAccept true [helloFrame, diagnosticsFrame, saveFrame], .pass true benchMoment] ++
    [.pass true benchMoment, .pass true benchMoment]

theorem reader_saving : (⟨[diagnosticsFrame, saveFrame].flatMap (· ++ [NEWLINE]), .closed⟩ : Incoming UInt8) =
    ⟨streamOf [(diagnosticsFrame, .diagnostics), (saveFrame, .saveProfile quietProfile)] ++ [], .closed⟩ := by
  simp [streamOf]

theorem decodeWith_helloFrame (variant : String) : decodeWith variant helloFrame = .ok (.hello PROTOCOL_VERSION) :=
  if_pos rfl

theorem visited_log : retained visited.daemon.diagnostics =
    [.daemonStarted DAEMON_VERSION "/run/kori/kori.sock", .configLoaded "/etc/kori/config.toml",
      .accessModeChanged true ("No writable control attribute is available to this user. " ++
        "Check the installed udev rule."), .clientAccepted 1000 4242] := rfl

theorem fits_export :
    benchMoment.Fits (Machine.handle plainToml benchMoment.around .diagnostics visited).1 := by
  rw [Machine.handle_diagnostics, visited_log]
  refine ⟨_, rfl, ?_⟩
  -- the lengths of the texts are added up, for the text itself is slow to build
  rw [ascii_length]
  simp only [object, joined, quoted, eventJson, eventFields, emptyRecordJson, List.map_cons, List.map_nil,
    List.cons_append, List.nil_append, String.length_append]
  decide +kernel

theorem saved_profiles :
    (Machine.handle plainToml benchMoment.around (.saveProfile quietProfile)
      (Machine.handle plainToml benchMoment.around .diagnostics visited).2).2.daemon.config.document.profiles =
        [quietProfile] := by decide +kernel

theorem saving_alone (variant : String) :
    (afterAll (step plainToml (decodeWith variant) 1000) (fresh deviceless)
      saving).machine.daemon.config.document.profiles = [quietProfile] := by
  obtain ⟨hmachine, hgreeted⟩ := @greeted_connection _ _ _ (fresh deviceless) true _ fits_hello rfl plainToml _
    (decodeWith_helloFrame variant) rfl [diagnosticsFrame, saveFrame]
  obtain ⟨hexported, exchange, -, -, hresponse, hcase⟩ := @turn_parsed _ _ plainToml _ _ 1000 _ true _ benchMoment
    _ _ _ _ hgreeted rfl rfl (parses_diagnostics variant) reader_saving rfl
  rw [hmachine] at hexported hresponse
  obtain ⟨-, hafter⟩ := hcase.resolve_right fun h => h.1 (hresponse ▸ fits_export)
  obtain ⟨hsaved, -⟩ := @turn_parsed _ _ plainToml _ _ 1000 _ true _ benchMoment _ [] [] _ hafter rfl rfl
    (parses_save variant) rfl rfl
  rw [hexported] at hsaved
  rw [saving, afterAll_append, afterAll, afterAll, afterAll, hsaved]
  exact saved_profiles

/-- The same client, after a stranger. -/
def crowd (variant : String) : List (Event Bool) :=
  [benchAccept false [strangerFrame variant], .pass false benchMoment] ++ saving

theorem kept_saving (variant : String) : (crowd variant).filter (Event.keptBy id) = saving := by
  simp [crowd, saving, Event.keptBy, Event.client, benchAccept]

theorem diagnosticsFit_of_asks {Raw ι : Type} [DecidableEq ι] {toml : Toml Raw} {decode : Decode Request} {ownUid : Nat}
    {server : Server Raw ι} {events : List (Event ι)}
    (h : ∀ t ∈ turns (step toml decode ownUid) server events, ∀ client moment, Asks decode client t moment .diagnostics →
      moment.Fits (Machine.handle toml moment.around .diagnostics t.before.machine).1) :
    DiagnosticsFit (turns (step toml decode ownUid) server events) := by
  intro t hmem client moment exchange hcall hanswer hrequest
  obtain ⟨hasks, hresponse⟩ := turn_answer (eq_of_mem_turns hmem) (answered_pass hcall hanswer)
  rw [hresponse]
  rw [hrequest] at hasks ⊢
  exact h t hmem client moment hasks

/-- Where the export fits, the client is answered all it asks. -/
theorem saving_fits {variant : String} {server : Server ConfigDocument Bool} (hnew : server.connections true = none)
    (hfits : benchMoment.Fits (Machine.handle plainToml benchMoment.around .diagnostics
      (Machine.note (.clientAccepted 1000 4242) server.machine).2).1) :
    DiagnosticsFit (turns (step plainToml (decodeWith variant) 1000) server saving) ∧
      (afterAll (step plainToml (decodeWith variant) 1000) server saving).completed true = true := by
  obtain ⟨hmachine, hgreeted⟩ := @greeted_connection _ _ _ server true _ fits_hello rfl plainToml _
    (decodeWith_helloFrame variant) hnew [diagnosticsFrame, saveFrame]
  obtain ⟨hexported, exchange, -, -, hresponse, hcase⟩ := @turn_parsed _ _ plainToml _ _ 1000 _ true _ benchMoment
    _ _ _ _ hgreeted rfl rfl (parses_diagnostics variant) reader_saving rfl
  rw [hmachine] at hresponse
  obtain ⟨-, hafter⟩ := hcase.resolve_right fun h => h.1 (hresponse ▸ hfits)
  obtain ⟨-, _, -, -, -, hlast⟩ := @turn_parsed _ _ plainToml _ _ 1000 _ true _ benchMoment _ [] [] _ hafter rfl rfl
    (parses_save variant) rfl rfl
  let opened : Connection := .opened ⟨[helloFrame, diagnosticsFrame, saveFrame].flatMap (· ++ [NEWLINE]), .closed⟩
  have hopened : (turn (step plainToml (decodeWith variant) 1000) server
      (benchAccept true [helloFrame, diagnosticsFrame, saveFrame])).after.connections true = some opened :=
    (congrArg (fun r => r.2.connections true) (step_accept_new hnew)).trans (set_self ..)
  constructor
  · refine diagnosticsFit_of_asks fun t hmem client moment hasks => ?_
    simp only [saving, turns, List.cons_append, List.nil_append, List.mem_cons, List.not_mem_nil, or_false] at hmem
    rcases hmem with rfl | rfl | rfl | rfl
    · cases hasks.call
    · obtain rfl : true = client := by cases hasks.call; rfl
      have hreader : opened.reader = ⟨streamOf [(helloFrame, .hello PROTOCOL_VERSION), (diagnosticsFrame, .diagnostics),
          (saveFrame, .saveProfile quietProfile)] ++ [], .closed⟩ := by simp [opened, Connection.opened, streamOf]
      obtain ⟨-, hrequest⟩ := hasks.parsed rfl hopened hreader (parses_hello (decodeWith_helloFrame variant))
      cases hrequest
    · obtain ⟨rfl, rfl⟩ : true = client ∧ benchMoment = moment := by
        cases hasks.call
        exact ⟨rfl, rfl⟩
      rw [← hmachine] at hfits
      exact hfits
    · obtain rfl : true = client := by cases hasks.call; rfl
      obtain ⟨-, hrequest⟩ := hasks.parsed rfl hafter rfl (parses_save variant)
      cases hrequest
  · rcases hlast with ⟨-, hdone⟩ | ⟨-, hdone⟩
    · exact completed_of_some hdone
    · exact completed_of_some hdone

theorem unknownVariant_length (variant : String) :
    (unknownVariant variant).length = variant.length + 233 + (toString (variant.length + 13)).length := by
  have hunknown : "unknown variant `".length = 17 := String.length_ofList.trans rfl
  have hfirst : "`, expected one of `hello`, `status`, `capabilities`, `profiles`, ".length = 66 :=
    String.length_ofList.trans rfl
  have hthen : "`save_profile`, `activate_profile`, `delete_profile`, `telemetry`, `apply_program`, ".length = 84 :=
    String.length_ofList.trans rfl
  have hlast : "`apply_lighting`, `apply_display`, `diagnostics` at line 1 column ".length = 66 :=
    String.length_ofList.trans rfl
  unfold unknownVariant
  simp only [String.length_append]
  omega

theorem display_decode_length (detail : String) : (FrameError.decode detail).display.length = detail.length + 25 := by
  have htext : "frame is not valid JSON: ".length = 25 := String.length_ofList.trans rfl
  have hlength : ("frame is not valid JSON: " ++ detail).length = "frame is not valid JSON: ".length + detail.length :=
    String.length_append ..
  change ("frame is not valid JSON: " ++ detail).length = _
  omega

/-- What the daemon holds once a stranger came, and then a client. -/
def crowded (variant : String) : Machine ConfigDocument :=
  (Machine.note (.clientAccepted 1000 4242) (Machine.note
    (.clientDisconnected (FrameError.decode (unknownVariant variant)).display) visited).2).2

theorem mem_retained_stranger (variant : String) :
    .clientDisconnected (FrameError.decode (unknownVariant variant)).display ∈
      retained (crowded variant).daemon.diagnostics := by
  have hlog : deviceless.daemon.diagnostics.length = 3 := rfl
  have hfew : (crowded variant).daemon.diagnostics.length - DEFAULT_CAPACITY = 0 := by
    simp [crowded, visited, Machine.note, Daemon.note, hlog, DEFAULT_CAPACITY]
  unfold retained
  rw [hfew]
  simp [crowded, Machine.note, Daemon.note]

/-- A stranger that says little, and what its refusal adds to the export. -/
theorem crowded_log (variant : String) : retained (crowded variant).daemon.diagnostics =
    [.daemonStarted DAEMON_VERSION "/run/kori/kori.sock", .configLoaded "/etc/kori/config.toml",
      .accessModeChanged true ("No writable control attribute is available to this user. " ++
        "Check the installed udev rule."), .clientAccepted 1000 4242,
      .clientDisconnected (FrameError.decode (unknownVariant variant)).display, .clientAccepted 1000 4242] := by
  have hlog : deviceless.daemon.diagnostics.length = 3 := rfl
  have hfew : visited.daemon.diagnostics.length - DEFAULT_CAPACITY = 0 := by
    simp [visited, Machine.note, Daemon.note, hlog, DEFAULT_CAPACITY]
  have hfew' : (crowded variant).daemon.diagnostics.length - DEFAULT_CAPACITY = 0 := by
    simp [crowded, visited, Machine.note, Daemon.note, hlog, DEFAULT_CAPACITY]
  have hvisited := visited_log
  unfold retained at hvisited ⊢
  rw [hfew, List.drop_zero] at hvisited
  rw [hfew', List.drop_zero]
  change visited.daemon.diagnostics ++ [_] ++ [_] = _
  rw [hvisited]
  rfl

theorem fits_crowded :
    benchMoment.Fits (Machine.handle plainToml benchMoment.around .diagnostics (crowded (filler 300))).1 := by
  rw [Machine.handle_diagnostics, crowded_log]
  refine ⟨_, rfl, ?_⟩
  rw [ascii_length]
  simp only [object, joined, quoted, eventJson, eventFields, emptyRecordJson, List.map_cons, List.map_nil,
    List.cons_append, List.nil_append, String.length_append, display_decode_length, unknownVariant_length, filler_length]
  decide +kernel

/-- A stranger asks nothing that is read. -/
theorem stranger_silent {n : Nat} (h : 200 < n) (hfits : n + 15 ≤ MAX_FRAME_BYTES) :
    DiagnosticsFit (turns (step plainToml (decodeWith (filler n)) 1000) (fresh deviceless)
      [benchAccept false [strangerFrame (filler n)], .pass false benchMoment]) := by
  refine diagnosticsFit_of_asks fun t hmem client moment hasks => ?_
  have hopened : (turn (step plainToml (decodeWith (filler n)) 1000) (fresh deviceless)
      (benchAccept false [strangerFrame (filler n)])).after.connections false = some (strange n) :=
    (congrArg (fun r => r.2.connections false) (@step_accept_new _ _ plainToml (decodeWith (filler n)) _ 1000
      (fresh deviceless) false _ _ _ rfl)).trans (set_self ..)
  simp only [turns, List.mem_cons, List.not_mem_nil, or_false] at hmem
  rcases hmem with rfl | rfl
  · cases hasks.call
  · obtain rfl : false = client := by cases hasks.call; rfl
    obtain ⟨connection, reader, hconnection, hreads⟩ := hasks.reads
    cases hconnection.symm.trans hopened
    rw [readFrame_stranger h hfits] at hreads
    cases hreads

/-- A stranger that fills little of the log changes nothing but that. -/
theorem handshake_first_crowd :
    let events := crowd (filler 300)
    let last := afterAll (step plainToml (decodeWith (filler 300)) 1000) (fresh deviceless) events
    last.completed = id ∧ last.machine.SameButLog
      (afterAll (step plainToml (decodeWith (filler 300)) 1000) (fresh deviceless)
        (events.filter (Event.keptBy last.completed))).machine := by
  intro events last
  have hshort : 300 + 15 ≤ MAX_FRAME_BYTES := by decide
  obtain ⟨hlogged, hnew, stranger, hstranger, hstrange, hclosed⟩ := @stranger_noted 300 (by decide) hshort
  have hexport := fits_crowded
  unfold crowded visited at hexport
  rw [← hlogged] at hexport
  obtain ⟨hfits, hdone⟩ := @saving_fits (filler 300) _ hnew hexport
  have hcompleted : last.completed = id := by
    funext client
    unfold last events
    rw [crowd, afterAll_append]
    cases client with
    | false =>
      have hkept := (@turns_ended _ _ plainToml (decodeWith (filler 300)) _ 1000 _ false _ hstranger hclosed saving).1
      exact (completed_of_some hkept).trans hstrange
    | true => exact hdone
  have hrun : DiagnosticsFit (turns (step plainToml (decodeWith (filler 300)) 1000) (fresh deviceless) events) := by
    unfold events
    rw [crowd, turns_append]
    exact fun t hmem => (List.mem_append.mp hmem).elim (stranger_silent (by decide) hshort t) (hfits t)
  have halone : DiagnosticsFit (turns (step plainToml (decodeWith (filler 300)) 1000) (fresh deviceless)
      (events.filter (Event.keptBy last.completed))) := by
    rw [hcompleted]
    unfold events
    rw [kept_saving]
    exact (@saving_fits (filler 300) (fresh deviceless) rfl fits_export).1
  exact ⟨hcompleted, (handshake_first plainToml (decodeWith (filler 300)) 1000 deviceless events).2.2 hrun halone⟩

theorem saving_after_stranger {n : Nat} (h : 200 < n) (hfits : n + 15 ≤ MAX_FRAME_BYTES)
    (hlong : MAX_FRAME_BYTES ≤ n + 44) :
    (afterAll (step plainToml (decodeWith (filler n)) 1000) (fresh deviceless) (crowd (filler n))).completed = id ∧
    (afterAll (step plainToml (decodeWith (filler n)) 1000) (fresh deviceless)
      (crowd (filler n))).machine.daemon.config.document.profiles = [] := by
  obtain ⟨hlogged, hnew, stranger, hstranger, hstrange, hclosed⟩ := stranger_noted h hfits
  obtain ⟨hmachine, hgreeted⟩ := @greeted_connection _ _ _ _ true _ fits_hello rfl plainToml _ (decodeWith_helloFrame (filler n)) hnew
    [diagnosticsFrame, saveFrame]
  obtain ⟨hexported, exchange, -, -, hresponse, hcase⟩ := @turn_parsed _ _ plainToml _ _ 1000 _ true _ benchMoment
    _ _ _ _ hgreeted rfl rfl (parses_diagnostics (filler n)) reader_saving rfl
  rw [hmachine, hlogged] at hexported hresponse
  have hlarge : ¬ benchMoment.Fits exchange.response := by
    rw [hresponse, Machine.handle_diagnostics]
    refine not_fits_diagnostics (mem_retained_stranger (filler n)) ?_
    have hdetail := unknownVariant_length (filler n)
    rw [filler_length] at hdetail
    rw [display_decode_length]
    omega
  obtain ⟨-, hafter⟩ := hcase.resolve_left fun h => hlarge h.1
  have hidle := @turn_idle _ _ plainToml (decodeWith (filler n)) _ 1000 _ true benchMoment
    fun connection hconnection => (Option.some.inj (hconnection.symm.trans hafter)) ▸ rfl
  rw [crowd, afterAll_append]
  constructor
  · funext client
    cases client with
    | false =>
      have hkept := (@turns_ended _ _ plainToml (decodeWith (filler n)) _ 1000 _ false _ hstranger hclosed saving).1
      exact (completed_of_some hkept).trans hstrange
    | true =>
      rw [saving, afterAll_append, afterAll, afterAll, afterAll, hidle]
      exact completed_of_some hafter
  · rw [saving, afterAll_append, afterAll, afterAll, afterAll, hidle, hexported]
    have hkept : deviceless.daemon.config.document.profiles = [] := rfl
    exact hkept

/-- A stranger whose only frame is refused fills the log with what it said. The export of that log no
longer fits in a frame, which ends the connection of a client that asked for it, so that what the
client asked for next is never done. -/
theorem stranger_changes_configuration :
    Machine.Reachable plainToml deviceless ∧
    (afterAll (step plainToml (decodeWith (filler 262100)) 1000) (fresh deviceless)
      (crowd (filler 262100))).completed false = false ∧
    ¬ (afterAll (step plainToml (decodeWith (filler 262100)) 1000) (fresh deviceless)
        (crowd (filler 262100))).machine.SameButLog
      (afterAll (step plainToml (decodeWith (filler 262100)) 1000) (fresh deviceless)
        ((crowd (filler 262100)).filter (Event.keptBy
          (afterAll (step plainToml (decodeWith (filler 262100)) 1000) (fresh deviceless)
            (crowd (filler 262100))).completed))).machine := by
  obtain ⟨n, hn⟩ : ∃ n, n = 262100 := ⟨_, rfl⟩
  have hlarge : 200 < n := by omega
  have hfits : n + 15 ≤ MAX_FRAME_BYTES := by rw [hn]; decide
  have hlong : MAX_FRAME_BYTES ≤ n + 44 := by rw [hn]; decide
  rw [← hn]
  obtain ⟨hcompleted, hprofiles⟩ := saving_after_stranger hlarge hfits hlong
  rw [hcompleted, kept_saving]
  refine ⟨.start .., rfl, ?_⟩
  rintro ⟨log, hsame⟩
  have halone := saving_alone (filler n)
  rw [hsame, Machine.withLog_config, hprofiles] at halone
  cases halone

end Server

end Kori
