import Kori.Core.Client
import Kori.Core.Json

/-! # Whose answer a call returns -/

open Faulty

namespace Kori

/-! ## What a write leaves in the buffer -/

namespace BufWriter

theorem taken_eq {bytes : List UInt8} {writer : BufWriter} (h : (writer.taken bytes).length = bytes.length) :
    writer.taken bytes = bytes := by
  unfold taken at h ⊢
  cases hroom : writer.room with
  | none => rfl
  | some room =>
    rw [hroom, List.length_take] at h
    exact List.take_of_length_le (by omega)

theorem taken_none {bytes : List UInt8} {writer : BufWriter} (h : writer.room = none) :
    writer.taken bytes = bytes := by
  unfold taken
  rw [h]

theorem give_ok {bytes : List UInt8} {writer : BufWriter} (h : (writer.give bytes).1 = .ok ()) :
    (writer.give bytes).2.held = writer.held ∧ (writer.give bytes).2.sent = writer.sent ++ bytes := by
  have htaken : (writer.taken bytes).length = bytes.length := by
    by_contra hne
    simp [give, hne] at h
  exact ⟨rfl, congrArg (writer.sent ++ ·) (taken_eq htaken)⟩

theorem flushBuf_ok {writer : BufWriter} (h : writer.flushBuf.1 = .ok ()) :
    writer.flushBuf.2.held = [] ∧ writer.flushBuf.2.sent = writer.sent ++ writer.held := by
  have htaken : writer.taken writer.held = writer.held := by
    apply taken_eq
    by_contra hne
    simp [flushBuf, give, hne] at h
  unfold flushBuf give
  rw [htaken]
  simp

theorem writeAll_ok {bytes : List UInt8} {writer : BufWriter} (h : (Write.writeAll bytes writer).1 = .ok ()) :
    (Write.writeAll bytes writer).2.sent ++ (Write.writeAll bytes writer).2.held =
      writer.sent ++ writer.held ++ bytes := by
  simp only [Write.writeAll] at h ⊢
  by_cases hsmall : bytes.length < DEFAULT_BUF_SIZE - writer.held.length
  · rw [if_pos hsmall, List.append_assoc]
  · rw [if_neg hsmall] at h ⊢
    by_cases hroom : DEFAULT_BUF_SIZE - writer.held.length < bytes.length
    · simp only [if_pos hroom] at h ⊢
      cases hflush : writer.flushBuf.1 with
      | error detail => simp [hflush] at h
      | ok done =>
        obtain ⟨hheld, hsent⟩ := flushBuf_ok hflush
        simp only [hflush] at h ⊢
        by_cases hlarge : DEFAULT_BUF_SIZE ≤ bytes.length
        · rw [if_pos hlarge] at h ⊢
          obtain ⟨hheld', hsent'⟩ := give_ok h
          rw [hheld', hsent', hheld, hsent, List.append_nil]
        · rw [if_neg hlarge, hheld, hsent]
          rfl
    · simp only [if_neg hroom] at h ⊢
      by_cases hlarge : DEFAULT_BUF_SIZE ≤ bytes.length
      · have hempty : writer.held = [] := by
          apply List.length_eq_zero_iff.mp
          have hpos : 0 < DEFAULT_BUF_SIZE := by decide
          omega
        rw [if_pos hlarge] at h ⊢
        obtain ⟨hheld, hsent⟩ := give_ok h
        rw [hheld, hsent, hempty, List.append_nil, List.append_nil]
      · rw [if_neg hlarge, List.append_assoc]

theorem give_none {bytes : List UInt8} {writer : BufWriter} (h : writer.room = none) :
    (writer.give bytes).1 = .ok () ∧ (writer.give bytes).2.room = none := by
  unfold give
  rw [taken_none h, h]
  simp

theorem flushBuf_none {writer : BufWriter} (h : writer.room = none) :
    writer.flushBuf.1 = .ok () ∧ writer.flushBuf.2.room = none := give_none h

theorem writeAll_none {bytes : List UInt8} {writer : BufWriter} (h : writer.room = none) :
    (Write.writeAll bytes writer).1 = .ok () ∧ (Write.writeAll bytes writer).2.room = none := by
  obtain ⟨hflush, hroom⟩ := flushBuf_none h
  simp only [Write.writeAll]
  by_cases hsmall : bytes.length < DEFAULT_BUF_SIZE - writer.held.length
  · rw [if_pos hsmall]
    exact ⟨rfl, h⟩
  · rw [if_neg hsmall]
    split_ifs with hfull hlarge hlarge
    · rw [hflush]
      exact give_none hroom
    · rw [hflush]
      exact ⟨rfl, hroom⟩
    · exact give_none h
    · exact ⟨rfl, h⟩

variable {T : Type} {encode : Encode T} {value : T} {writer : BufWriter}

theorem writeFrame_ok (h : (writeFrame encode value writer).1 = .ok ()) :
    ∃ encoded, encode value = .ok encoded ∧ encoded.length + 1 ≤ MAX_FRAME_BYTES ∧
      (writeFrame encode value writer).2.held = [] ∧
      (writeFrame encode value writer).2.sent = writer.sent ++ writer.held ++ (encoded ++ [NEWLINE]) := by
  by_cases hfits : ∃ encoded, encode value = .ok encoded ∧ encoded.length + 1 ≤ MAX_FRAME_BYTES
  · obtain ⟨encoded, hencoded, hfits⟩ := hfits
    refine ⟨encoded, hencoded, hfits, ?_⟩
    have hall := @writeAll_ok (encoded ++ [NEWLINE]) writer
    rw [writeFrame_fits hencoded hfits] at h ⊢
    generalize Write.writeAll (encoded ++ [NEWLINE]) writer = written at h hall ⊢
    obtain ⟨_ | _, writer'⟩ := written
    · simp at h
    · dsimp only at h hall ⊢
      have hleft : (Write.flush writer').1 = .ok () → (Write.flush writer').2.held = [] ∧
          (Write.flush writer').2.sent = writer'.sent ++ writer'.held := flushBuf_ok
      generalize Write.flush writer' = flushed at h hleft ⊢
      obtain ⟨_ | _, left⟩ := flushed
      · simp at h
      · obtain ⟨hheld, hsent⟩ := hleft rfl
        exact ⟨hheld, hsent.trans (hall rfl)⟩
  · obtain ⟨error, herror⟩ := @writeFrame_unfit _ _ encode value _ writer fun encoded hencoded =>
      Nat.lt_of_not_le fun hle => hfits ⟨encoded, hencoded, hle⟩
    rw [herror] at h
    cases h

theorem writeFrame_none (h : writer.room = none) :
    (writeFrame encode value writer).1 = .ok () ∨ (writeFrame encode value writer).2 = writer := by
  by_cases hfits : ∃ encoded, encode value = .ok encoded ∧ encoded.length + 1 ≤ MAX_FRAME_BYTES
  · obtain ⟨encoded, hencoded, hfits⟩ := hfits
    obtain ⟨hwritten, hroom⟩ := @writeAll_none (encoded ++ [NEWLINE]) writer h
    have hflushed : (Write.flush (Write.writeAll (encoded ++ [NEWLINE]) writer).2).1 = .ok () := (flushBuf_none hroom).1
    left
    rw [writeFrame_fits hencoded hfits]
    simp only [hwritten, hflushed]
  · obtain ⟨error, herror⟩ := @writeFrame_unfit _ _ encode value _ writer fun encoded hencoded =>
      Nat.lt_of_not_le fun hle => hfits ⟨encoded, hencoded, hle⟩
    exact .inr (congrArg Prod.snd herror)

end BufWriter

/-! ## Calls made in step -/

namespace Link

variable {σ : Type} {codec : Codec} {serve : Request → StateM σ Response} {link : Link σ} {call : Call}

/-- Nothing of an earlier call is under way. -/
structure InStep (link : Link σ) : Prop where
  toClient : link.toClient = []
  toServer : link.serving = true → link.held = [] ∧ link.toServer = []

theorem opened_inStep (server : σ) : (opened server).InStep := ⟨rfl, fun _ => ⟨rfl, rfl⟩⟩

/-- The answer is the one the daemon gave to this very request: it is the last thing the daemon
handled, and neither a request nor an answer is left under way. -/
def Paired (t : Turn (Link σ) Call Reply) : Prop :=
  ∀ response, t.answer.result = .ok response →
    t.answer.handled.getLast? = some (t.call.request, response) ∧ t.after.toServer = [] ∧ t.after.toClient = []

theorem answerNext_idle (h : link.serving = false ∨ link.toServer = []) :
    link.answerNext codec serve = ([], link) := by
  unfold answerNext
  rw [if_pos]
  rcases h with h | h
  · exact .inl h
  · right
    rw [h]
    exact ⟨List.not_mem_nil, by decide⟩

theorem answerMany_idle (h : link.serving = false ∨ link.toServer = []) (count : Nat) :
    link.answerMany codec serve count = ([], link) := by
  induction count with
  | zero => rfl
  | succ count ih => simp [answerMany, answerNext_idle h, ih]

theorem answerNext_frame {encoded : List UInt8} (h : codec.Faithful)
    (hencoded : codec.encodeRequest call.request = .ok encoded) (hfits : encoded.length + 1 ≤ MAX_FRAME_BYTES)
    (hserving : link.serving = true) (hframe : link.toServer = encoded ++ [NEWLINE]) :
    link.answerNext codec serve =
      let (response, server) := serve call.request link.server
      let (sent, toClient) := writeFrame codec.encodeResponse response link.toClient
      ([(call.request, response)], { link with toServer := [], server, toClient, serving := sent.isOk }) := by
  have hline : readFrame codec.decodeRequest ⟨encoded ++ NEWLINE :: [], .closed⟩ = _ :=
    readFrame_line (h.request.line _ _ hencoded) hfits
  rw [h.request.decodes _ _ hencoded] at hline
  unfold answerNext
  rw [if_neg (by simp [hserving, hframe]), hframe, hline]
  rfl

theorem readFrame_arriving_nil {decode : Decode Response} (h : link.toClient = []) (count : Nat) :
    ∃ error, readFrame decode (link.arriving count) = (.error error, ⟨[], (link.arriving count).ending⟩) := by
  unfold arriving
  rw [h, List.take_nil]
  exact ⟨_, readFrame_short List.not_mem_nil (by decide)⟩

theorem readFrame_arriving_frame {response : Response} {encoded : List UInt8} (h : codec.Faithful)
    (hencoded : codec.encodeResponse response = .ok encoded) (hfits : encoded.length + 1 ≤ MAX_FRAME_BYTES)
    (hframe : link.toClient = encoded ++ [NEWLINE]) (count : Nat) :
    (count ≤ encoded.length ∧ ∃ error, (readFrame codec.decodeResponse (link.arriving count)).1 = .error error) ∨
    encoded.length < count ∧ (readFrame codec.decodeResponse (link.arriving count)).1 = .ok response ∧
      (readFrame codec.decodeResponse (link.arriving count)).2.items ++ link.toClient.drop count = [] := by
  have hnewline := h.response.line _ _ hencoded
  unfold arriving
  rw [hframe]
  rcases Nat.lt_or_ge encoded.length count with hlong | hshort
  · right
    have hwhole : (encoded ++ [NEWLINE]).length ≤ count := by
      rw [List.length_append]
      exact hlong
    rw [List.take_of_length_le hwhole, List.drop_eq_nil_of_le hwhole, readFrame_line hnewline hfits,
      h.response.decodes _ _ hencoded]
    exact ⟨hlong, rfl, rfl⟩
  · left
    rw [List.take_append_of_le_length hshort]
    exact ⟨hshort, readFrame_cut _ fun hmem => hnewline (List.mem_of_mem_take hmem)⟩

theorem answerMany_frame {encoded : List UInt8} (h : codec.Faithful)
    (hencoded : codec.encodeRequest call.request = .ok encoded) (hfits : encoded.length + 1 ≤ MAX_FRAME_BYTES)
    (hserving : link.serving = true) (hframe : link.toServer = encoded ++ [NEWLINE]) (hnone : link.toClient = [])
    (count : Nat) :
    (count = 0 ∧ link.answerMany codec serve count = ([], link)) ∨
    ∃ response, (link.answerMany codec serve count).1 = [(call.request, response)] ∧
      (link.answerMany codec serve count).2.held = link.held ∧
      (link.answerMany codec serve count).2.toServer = [] ∧
      ((link.answerMany codec serve count).2.serving = false ∧ (link.answerMany codec serve count).2.toClient = [] ∨
        (link.answerMany codec serve count).2.serving = true ∧ ∃ answer,
          codec.encodeResponse response = .ok answer ∧ answer.length + 1 ≤ MAX_FRAME_BYTES ∧
          (link.answerMany codec serve count).2.toClient = answer ++ [NEWLINE]) := by
  cases count with
  | zero => exact .inl ⟨rfl, rfl⟩
  | succ count =>
    right
    have hfirst := @answerNext_frame _ _ serve _ _ _ h hencoded hfits hserving hframe
    generalize serve call.request link.server = answered at hfirst
    obtain ⟨response, server⟩ := answered
    rw [hnone] at hfirst
    simp only [answerMany, hfirst]
    rw [answerMany_idle (.inr rfl)]
    refine ⟨response, rfl, rfl, rfl, ?_⟩
    by_cases hanswer : ∃ answer, codec.encodeResponse response = .ok answer ∧ answer.length + 1 ≤ MAX_FRAME_BYTES
    · obtain ⟨answer, hanswer, hroom⟩ := hanswer
      right
      rw [writeFrame_buffer hanswer, if_neg (Nat.not_lt.mpr hroom)]
      exact ⟨rfl, answer, hanswer, hroom, rfl⟩
    · left
      obtain ⟨error, herror⟩ := @writeFrame_unfit _ _ codec.encodeResponse response _ ([] : List UInt8)
        fun answer hencoded => Nat.lt_of_not_le fun hle => hanswer ⟨answer, hencoded, hle⟩
      rw [herror]
      exact ⟨rfl, rfl⟩

theorem request_unsent {error : FrameError} {writer : BufWriter}
    (h : writeFrame codec.encodeRequest call.request (⟨link.held, [], call.room⟩ : BufWriter) = (.error error, writer)) :
    request codec serve call link = (⟨.error (.fromWrite error), []⟩,
      { link with held := writer.held, toServer := link.toServer ++ writer.sent }) := by
  unfold request
  rw [h]

theorem request_sent {writer : BufWriter}
    (h : writeFrame codec.encodeRequest call.request (⟨link.held, [], call.room⟩ : BufWriter) = (.ok (), writer)) :
    request codec serve call link =
      let sent := { link with held := writer.held, toServer := link.toServer ++ writer.sent }
      let (handled, waiting) := sent.answerMany codec serve (call.handled sent.toServer)
      waiting.receive codec call handled := by
  unfold request
  rw [h]

theorem receive_nil {handled : List (Request × Response)} (h : link.toClient = []) :
    ∃ error, link.receive codec call handled = (⟨.error error, handled⟩, link) := by
  obtain ⟨error, hframe⟩ := @readFrame_arriving_nil _ link codec.decodeResponse h (call.arrived link.toClient)
  refine ⟨.disconnected error, ?_⟩
  unfold receive
  dsimp only
  rw [hframe]
  obtain ⟨held, toServer, server, serving, toClient⟩ := link
  obtain rfl : toClient = [] := h
  simp [Except.mapError]

/-- What a call made in step comes to: its own answer, if any, and without a time-out nothing is left
under way. -/
structure Kept (call : Call) (r : Reply × Link σ) : Prop where
  answer : ∀ response, r.1.result = .ok response →
    r.1.handled = [(call.request, response)] ∧ r.2.toServer = [] ∧ r.2.InStep
  uncut : call.cut = none → r.2.InStep

theorem kept_receive_nil {handled : List (Request × Response)} (h : link.toClient = [])
    (huncut : call.cut = none → link.InStep) : Kept call (link.receive codec call handled) := by
  obtain ⟨error, hreceived⟩ := @receive_nil _ codec link call handled h
  rw [hreceived]
  exact ⟨fun _ hresult => (nomatch hresult), huncut⟩

theorem kept_receive_frame {response : Response} {answer : List UInt8} (h : codec.Faithful)
    (hanswer : codec.encodeResponse response = .ok answer) (hfits : answer.length + 1 ≤ MAX_FRAME_BYTES)
    (hheld : link.held = []) (hserver : link.toServer = []) (hframe : link.toClient = answer ++ [NEWLINE]) :
    Kept call (link.receive codec call [(call.request, response)]) := by
  have hread := readFrame_arriving_frame h hanswer hfits hframe (call.arrived link.toClient)
  unfold receive
  dsimp only
  rcases hread with ⟨hshort, error, herror⟩ | ⟨hlong, hvalue, hrest⟩
  · refine ⟨fun _ hresult => ?_, fun hcut => ?_⟩
    · rw [herror] at hresult
      cases hresult
    · have hall : call.arrived link.toClient = answer.length + 1 := by simp [Call.arrived, hcut, hframe]
      omega
  · have hstep : InStep { link with
        toClient := (readFrame codec.decodeResponse (link.arriving (call.arrived link.toClient))).2.items ++
          link.toClient.drop (call.arrived link.toClient) } := ⟨hrest, fun _ => ⟨hheld, hserver⟩⟩
    refine ⟨fun response' hresult => ?_, fun _ => hstep⟩
    rw [hvalue] at hresult
    cases hresult
    exact ⟨rfl, hserver, hstep⟩

theorem request_kept (h : codec.Faithful) (hlink : link.InStep) : Kept call (request codec serve call link) := by
  generalize hwritten : writeFrame codec.encodeRequest call.request (⟨link.held, [], call.room⟩ : BufWriter) = written
  obtain ⟨error | done, writer⟩ := written
  · rw [request_unsent hwritten]
    refine ⟨fun _ hresult => (nomatch hresult), fun hcut => ?_⟩
    have hroom : call.room = none := by rw [Call.room, hcut]
    rcases @BufWriter.writeFrame_none _ codec.encodeRequest call.request ⟨link.held, [], call.room⟩ hroom with hok | hsame
    · rw [hwritten] at hok
      cases hok
    · rw [hwritten] at hsame
      obtain rfl : writer = ⟨link.held, [], call.room⟩ := hsame
      refine ⟨hlink.toClient, fun hserving => ?_⟩
      obtain ⟨hheld, hserver⟩ := hlink.toServer hserving
      exact ⟨hheld, by rw [hserver]; rfl⟩
  · have hsent := @BufWriter.writeFrame_ok _ codec.encodeRequest call.request ⟨link.held, [], call.room⟩
      (by rw [hwritten])
    rw [hwritten] at hsent
    obtain ⟨encoded, hencoded, hfits, hheld, hbytes⟩ := hsent
    rw [request_sent hwritten]
    dsimp only at hheld hbytes ⊢
    generalize hcount : call.handled (link.toServer ++ writer.sent) = count
    cases hserving : link.serving with
    | false =>
      rw [answerMany_idle (.inl rfl)]
      exact kept_receive_nil hlink.toClient fun _ => ⟨hlink.toClient, fun h => (nomatch h)⟩
    | true =>
      obtain ⟨hempty, hserver⟩ := hlink.toServer hserving
      have hframe : link.toServer ++ writer.sent = encoded ++ [NEWLINE] := by
        rw [hserver, hbytes, hempty]
        rfl
      rcases @answerMany_frame _ codec serve
        ⟨writer.held, link.toServer ++ writer.sent, link.server, true, link.toClient⟩ call encoded h hencoded hfits rfl
        hframe hlink.toClient count with ⟨hzero, hnone⟩ | ⟨response, hhandled, hheld', hserver', hcase⟩
      · rw [hnone]
        refine kept_receive_nil hlink.toClient fun hcut => ?_
        have hall : count = encoded.length + 1 := by
          rw [← hcount, hframe]
          simp [Call.handled, hcut]
        omega
      · rw [hhandled]
        rcases hcase with ⟨hclosed, hnone⟩ | ⟨hopen, answer, hanswer, hroom, hanswered⟩
        · refine kept_receive_nil hnone fun _ => ⟨hnone, fun h => ?_⟩
          rw [hclosed] at h
          cases h
        · exact kept_receive_frame h hanswer hroom (hheld'.trans hheld) hserver' hanswered

theorem connect_inStep {cut : Option Cut} {version : String} (h : codec.Faithful) (hlink : link.InStep)
    (hconnect : (connect codec serve cut link).1 = .ok version) : (connect codec serve cut link).2.InStep := by
  have hkept := @request_kept _ codec serve link ⟨.hello PROTOCOL_VERSION, cut⟩ h hlink
  unfold connect at hconnect ⊢
  generalize request codec serve ⟨.hello PROTOCOL_VERSION, cut⟩ link = r at hconnect hkept ⊢
  obtain ⟨⟨result, handled⟩, link'⟩ := r
  cases result with
  | error error => cases hconnect
  | ok response => exact (hkept.answer response rfl).2.2

/-- No call so far was cut by a time-out that left something of it under way. -/
def Undisturbed (past : List (Turn (Link σ) Call Reply)) : Prop :=
  ∀ e ∈ past, e.call.cut = none ∨ e.after.InStep

theorem turn_paired {past : List (Turn (Link σ) Call Reply)} (h : codec.Faithful)
    (hlink : Undisturbed past → link.InStep) :
    (Undisturbed past → Paired (turn (request codec serve) link call)) ∧
      (Undisturbed (past ++ [turn (request codec serve) link call]) →
        (turn (request codec serve) link call).after.InStep) := by
  constructor
  · intro hpast response hresult
    obtain ⟨hhandled, hserver, hstep⟩ := (request_kept h (hlink hpast)).answer response hresult
    refine ⟨?_, hserver, hstep.toClient⟩
    change (request codec serve call link).1.handled.getLast? = some (call.request, response)
    rw [hhandled]
    rfl
  · intro hall
    obtain ⟨hpast, hlast⟩ := List.forall_mem_append.mp hall
    rcases List.forall_mem_singleton.mp hlast with hcut | hstep
    · exact (request_kept h (hlink hpast)).uncut hcut
    · exact hstep

/-- Every answer of a connection is the answer to its own request, as long as no call before it was cut
by a time-out that left something of it under way. -/
theorem answer_is_its_own (codec : Codec) (h : codec.Faithful) (serve : Request → StateM σ Response) (server : σ)
    (cut : Option Cut) (version : String) (hconnect : (connect codec serve cut (opened server)).1 = .ok version)
    (calls : List Call) :
    ∀ earlier t later,
      turns (request codec serve) (connect codec serve cut (opened server)).2 calls = earlier ++ t :: later →
      Undisturbed earlier → Paired t := by
  intro earlier t later hsplit hearlier
  have hconnected := connect_inStep h (opened_inStep server) hconnect
  exact @turns_since _ _ _ (request codec serve) (fun past link => Undisturbed past → link.InStep)
    (fun past t => Undisturbed past → Paired t) (fun _ _ _ hlink => turn_paired h hlink) _ calls [] _ _ _
    (fun _ => hconnected) hsplit hearlier

/-! ## An answer that comes late -/

variable {T : Type} [DecidableEq T]

/-- The encoding of the values of a table. -/
def encodeFrom (table : List (T × List UInt8)) : Encode T := fun value =>
  match table.find? (·.1 = value) with
  | some entry => .ok entry.2
  | none => .error "not met here"

def decodeFrom (table : List (T × List UInt8)) : Decode T := fun bytes =>
  match table.find? (·.2 = bytes) with
  | some entry => .ok entry.1
  | none => .error "not met here"

theorem compact_table {table : List (T × List UInt8)}
    (h : ∀ entry ∈ table, NEWLINE ∉ entry.2 ∧ table.find? (·.2 = entry.2) = some entry) :
    Compact (encodeFrom table) (decodeFrom table) := by
  have hfound : ∀ value encoded, encodeFrom table value = .ok encoded →
      ∃ entry ∈ table, entry.1 = value ∧ entry.2 = encoded := by
    intro value encoded hencoded
    unfold encodeFrom at hencoded
    split at hencoded
    · rename_i entry hentry
      cases hencoded
      exact ⟨entry, List.mem_of_find?_eq_some hentry, by simpa using List.find?_some hentry, rfl⟩
    · cases hencoded
  constructor
  · intro value encoded hencoded
    obtain ⟨entry, hmem, -, rfl⟩ := hfound value encoded hencoded
    exact (h entry hmem).1
  · intro value encoded hencoded
    obtain ⟨entry, hmem, rfl, rfl⟩ := hfound value encoded hencoded
    unfold decodeFrom
    rw [(h entry hmem).2]

def requestTable : List (Request × List UInt8) :=
  [(.hello PROTOCOL_VERSION, ascii (object [("request", quoted "hello"), ("protocol_version", "9")])),
    (.deleteProfile "Silent", ascii (object [("request", quoted "delete_profile"), ("name", quoted "Silent")])),
    (.deleteProfile "Loud", ascii (object [("request", quoted "delete_profile"), ("name", quoted "Loud")]))]

def responseTable : List (Response × List UInt8) :=
  [(.hello PROTOCOL_VERSION "0.1.1", ascii (object [("response", quoted "hello"), ("protocol_version", "9"),
      ("daemon_version", quoted "0.1.1")])),
    (.deleted "Silent" none, ascii (object [("response", quoted "deleted"), ("name", quoted "Silent"),
      ("activated_instead", "null")])),
    (.error (.profileNotFound "Loud"), ascii (object [("response", quoted "error"),
      ("error", quoted "profile_not_found"), ("name", quoted "Loud")]))]

def tableCodec : Codec where
  encodeRequest := encodeFrom requestTable
  decodeRequest := decodeFrom requestTable
  encodeResponse := encodeFrom responseTable
  decodeResponse := decodeFrom responseTable

theorem tableCodec_faithful : tableCodec.Faithful := ⟨compact_table (by decide +kernel), compact_table (by decide +kernel)⟩

/-- A daemon that gives its answers in turn. -/
def scripted (_ : Request) : StateM (List Response) Response := fun answers =>
  (answers.headD (.error .noDevice), answers.tail)

/-- It deletes one of the two profiles, and does not know the other. -/
def answers : List Response :=
  [.hello PROTOCOL_VERSION "0.1.1", .deleted "Silent" none, .error (.profileNotFound "Loud")]

def deletions (cut : Option Cut) : List Call := [⟨.deleteProfile "Silent", cut⟩, ⟨.deleteProfile "Loud", none⟩]

def deletionRun (cut : Option Cut) : List (Turn (Link (List Response)) Call Reply) :=
  turns (request tableCodec scripted) (connect tableCodec scripted none (opened answers)).2 (deletions cut)

theorem connect_answers : (connect tableCodec scripted none (opened answers)).1 = .ok "0.1.1" := by decide +kernel

/-- The run of both calls, of which a time-out cuts the first or none does. -/
def deletionTurns (cut : Option Cut) : Turn (Link (List Response)) Call Reply × Turn (Link (List Response)) Call Reply :=
  let first := turn (request tableCodec scripted) (connect tableCodec scripted none (opened answers)).2
    ⟨.deleteProfile "Silent", cut⟩
  (first, turn (request tableCodec scripted) first.after ⟨.deleteProfile "Loud", none⟩)

theorem deletions_paired :
    (deletionTurns none).2.answer.result = .ok (.error (.profileNotFound "Loud")) ∧ Paired (deletionTurns none).2 := by
  refine ⟨by decide +kernel, ?_⟩
  refine answer_is_its_own tableCodec tableCodec_faithful scripted answers none "0.1.1" connect_answers
    (deletions none) [(deletionTurns none).1] (deletionTurns none).2 [] rfl ?_
  exact List.forall_mem_singleton.mpr (.inl rfl)

/-- The answer to the first request comes after its call gave up on it, and the second call takes it. -/
theorem late_answer_taken :
    deletionRun (some (.read 1 0)) = [(deletionTurns (some (.read 1 0))).1, (deletionTurns (some (.read 1 0))).2] ∧
    (deletionTurns (some (.read 1 0))).1.answer.result = .error (.disconnected (.io TIMED_OUT)) ∧
    (deletionTurns (some (.read 1 0))).2.call.request = .deleteProfile "Loud" ∧
    (deletionTurns (some (.read 1 0))).2.answer.handled =
      [(.deleteProfile "Loud", .error (.profileNotFound "Loud"))] ∧
    (deletionTurns (some (.read 1 0))).2.answer.result = .ok (.deleted "Silent" none) ∧
    ¬ Paired (deletionTurns (some (.read 1 0))).2 := by
  have hhandled : (deletionTurns (some (.read 1 0))).2.answer.handled =
      [(.deleteProfile "Loud", .error (.profileNotFound "Loud"))] := by decide +kernel
  have hresult : (deletionTurns (some (.read 1 0))).2.answer.result = .ok (.deleted "Silent" none) := by decide +kernel
  refine ⟨rfl, by decide +kernel, rfl, hhandled, hresult, fun hpaired => ?_⟩
  have hlast := (hpaired _ hresult).1
  rw [hhandled] at hlast
  exact absurd hlast (by decide)

end Link

end Kori
