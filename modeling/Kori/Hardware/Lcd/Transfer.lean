import Kori.Hardware.Hid
import Kori.Hardware.Lcd

/-! # One frame on the wire: reports to the HID interface, pixels to the bulk endpoint -/

open Faulty

namespace Kori

namespace Transfer

def TRANSFER_START : Hid.Identifier := (0x36, 0x01)
def TRANSFER_END : Hid.Identifier := (0x36, 0x02)
/-- The panel answers both with this byte, and gives their second byte back. -/
def TRANSFER_ANSWER : UInt8 := 0x37

def BULK_ENDPOINT : UInt8 := 0x02

/-- Twelve bytes the firmware expects verbatim. -/
def BULK_MAGIC : List UInt8 :=
  [0x12, 0xfa, 0x01, 0xe8, 0xab, 0xcd, 0xef, 0x98, 0x76, 0x54, 0x32, 0x10]

def BULK_KIND_STATIC : UInt8 := 0x06

/-- How many times one picture is put on the wire. -/
def SEQUENCES_PER_FRAME : Nat := 2

/-- How long a frame waits for an acknowledgement, in nanoseconds. -/
def TRANSFER_ACK_TIMEOUT : Nat := 50000000

/-- What is written to one of the two interfaces. -/
inductive LcdOut where
  | report (report : Report)
  | bulk (endpoint : UInt8) (bytes : List UInt8)
deriving DecidableEq

abbrev LcdLine := Line LcdOut Report LcdError
abbrev LcdLineIo := LineIo LcdOut Report LcdError

/-- The report that opens a transfer. -/
def transferStart : Report :=
  let report : Report := Vector.replicate REPORT_BYTES 0
  let report := (report.setIfInBounds 0 TRANSFER_START.1).setIfInBounds 1 TRANSFER_START.2
  ((report.setIfInBounds 2 0x00).setIfInBounds 3 0x01).setIfInBounds 4 BULK_KIND_STATIC

/-- The report that closes one. -/
def transferEnd : Report := Hid.query TRANSFER_END

def toLeBytes (n : UInt32) : List UInt8 := [n.toUInt8, (n >>> 8).toUInt8, (n >>> 16).toUInt8, (n >>> 24).toUInt8]

/-- The header written to the bulk endpoint ahead of the pixels. -/
def bulkHeader (payloadBytes : UInt32) : List UInt8 :=
  BULK_MAGIC ++ [BULK_KIND_STATIC, 0, 0, 0] ++ toLeBytes payloadBytes

/-- Whether a report is the answer to one of the two commands. -/
def acknowledges (report : Report) (second : UInt8) : Bool :=
  report.get ⟨0, Hid.zero_lt_reportBytes⟩ == TRANSFER_ANSWER && report.get ⟨1, Hid.one_lt_reportBytes⟩ == second

/-- Reads until the answer comes, nothing does, or the deadline is there. -/
def awaitUntil (second : UInt8) (deadline : Nat) (line : LcdLine) : Except LcdError Bool × LcdLine :=
  if line.now < deadline then
    match line.incoming line.heard.length with
    | .ok (some report) =>
      if acknowledges report second then (.ok true, line.listened) else awaitUntil second deadline line.listened
    | .ok none | .error _ => (.ok false, line.listened)
  else (.ok false, line)
termination_by deadline - line.now
decreasing_by
  change deadline - (line.now + _) < _
  omega

/-- Waits for the panel to acknowledge one command. A panel that never does still gets its frame. -/
def awaitAck (command : Hid.Identifier) : LcdLineIo Bool := fun line =>
  awaitUntil command.2 (line.now + TRANSFER_ACK_TIMEOUT) line

/-- Exactly what one frame put on the wire. -/
structure FrameReport where
  start : Report
  header : List UInt8
  payloadBytes : Nat
  sequences : Nat
  acknowledged : Nat
  «end» : Report

/-- The sequences that are left of a frame, with the commands acknowledged so far. -/
def sendSequences (payload : Frame) : Nat → Nat → LcdLineIo Nat
  | 0, acknowledged => pure acknowledged
  | left + 1, acknowledged => do
    post (.report transferStart)
    let started ← awaitAck TRANSFER_START
    post (.bulk BULK_ENDPOINT (bulkHeader (UInt32.ofNat payload.length)))
    post (.bulk BULK_ENDPOINT payload)
    post (.report transferEnd)
    let ended ← awaitAck TRANSFER_END
    sendSequences payload left (acknowledged + started.toNat + ended.toNat)

/-- Sends one complete frame. Nothing partial is ever sent: the size is checked first. -/
def sendFrame (payload : Frame) : LcdLineIo FrameReport :=
  if payload.length ≠ FRAME_BYTES then throw (.frameSize payload.length FRAME_BYTES)
  else do
    let acknowledged ← sendSequences payload SEQUENCES_PER_FRAME 0
    pure {
      start := transferStart
      header := bulkHeader (UInt32.ofNat payload.length)
      payloadBytes := payload.length
      sequences := SEQUENCES_PER_FRAME
      acknowledged
      «end» := transferEnd }

/-! ## The trace -/

/-- The number four bytes of a header name, the lowest first. -/
def leValue (bytes : List UInt8) : Nat := bytes.foldr (fun byte value => byte.toNat + 256 * value) 0

theorem leValue_toLeBytes (n : UInt32) : leValue (toLeBytes n) = n.toNat := by
  have hlt := n.toNat_lt
  have h8 : (8 : UInt32).toNat % 32 = 8 := rfl
  have h16 : (16 : UInt32).toNat % 32 = 16 := rfl
  have h24 : (24 : UInt32).toNat % 32 = 24 := rfl
  simp only [leValue, toLeBytes, List.foldr_cons, List.foldr_nil, UInt32.toNat_toUInt8, UInt32.toNat_shiftRight,
    h8, h16, h24, Nat.shiftRight_eq_div_pow]
  omega

/-- What one sequence puts on the wire. -/
def sequence (payload : Frame) : List LcdOut :=
  [.report transferStart, .bulk BULK_ENDPOINT (bulkHeader (UInt32.ofNat payload.length)),
    .bulk BULK_ENDPOINT payload, .report transferEnd]

/-- What one frame puts on the wire. -/
def trace (payload : Frame) : List LcdOut := (List.replicate SEQUENCES_PER_FRAME (sequence payload)).flatten

theorem awaitUntil_quiet (second : UInt8) (deadline : Nat) (line : LcdLine) :
    (∃ b, (awaitUntil second deadline line).1 = .ok b) ∧
      (awaitUntil second deadline line).2.sent = line.sent ∧
      (awaitUntil second deadline line).2.refuses = line.refuses := by
  fun_induction awaitUntil second deadline line with
  | case1 line _ report _ _ => exact ⟨⟨true, rfl⟩, line.listened_sent, rfl⟩
  | case2 line _ report _ _ ih => exact ⟨ih.1, ih.2.1.trans line.listened_sent, ih.2.2⟩
  | case3 line _ _ => exact ⟨⟨false, rfl⟩, line.listened_sent, rfl⟩
  | case4 line _ _ _ => exact ⟨⟨false, rfl⟩, line.listened_sent, rfl⟩
  | case5 line _ => exact ⟨⟨false, rfl⟩, rfl, rfl⟩

theorem writes_awaitAck (command : Hid.Identifier) : Writes (awaitAck command) [] :=
  Writes.quiet (fun line => (awaitUntil_quiet _ _ line).1) (fun line => (awaitUntil_quiet _ _ line).2.1)
    fun line => (awaitUntil_quiet _ _ line).2.2

theorem writes_sendSequences (payload : Frame) (left acknowledged : Nat) :
    Writes (sendSequences payload left acknowledged) (List.replicate left (sequence payload)).flatten := by
  induction left generalizing acknowledged with
  | zero => exact Writes.pure acknowledged
  | succ left ih =>
    rw [List.replicate_succ, List.flatten_cons]
    exact (Writes.post _).bind fun _ => (writes_awaitAck TRANSFER_START).bind fun started =>
      (Writes.post _).bind fun _ => (Writes.post _).bind fun _ => (Writes.post _).bind fun _ =>
        (writes_awaitAck TRANSFER_END).bind fun ended => ih _

theorem writes_sendFrame {payload : Frame} (hsize : payload.length = FRAME_BYTES) :
    Writes (sendFrame payload) (trace payload) := by
  unfold sendFrame
  rw [if_neg (not_not_intro hsize)]
  have hreport : ∀ acknowledged, Writes (pure
      { start := transferStart
        header := bulkHeader (UInt32.ofNat payload.length)
        payloadBytes := payload.length
        sequences := SEQUENCES_PER_FRAME
        acknowledged
        «end» := transferEnd } : LcdLineIo FrameReport) [] := fun _ => Writes.pure _
  have hrun := (writes_sendSequences payload SEQUENCES_PER_FRAME 0).bind hreport
  rw [List.append_nil] at hrun
  exact hrun

/-! ## The count of acknowledgements -/

/-- The commands of a log whose answers were read in time, and the one that is still waited for. -/
structure Acks where
  /-- The second byte waited for, and the time that is left to begin a read. -/
  waiting : Option (UInt8 × Nat)
  reads : Nat
  answered : Nat

/-- Whether a read brought the answer that is waited for. -/
def brings (answer : Except LcdError (Option Report)) (second : UInt8) : Bool :=
  match answer with
  | .ok (some report) => acknowledges report second
  | .ok none | .error _ => false

/-- One more thing on the line. A report is a command, and is waited for from then on. -/
def Acks.step (took : Nat → Nat) (acks : Acks) : Traffic LcdOut Report LcdError → Acks
  | .sent (.report report) => { acks with waiting := some (report.get ⟨1, Hid.one_lt_reportBytes⟩, TRANSFER_ACK_TIMEOUT) }
  | .sent (.bulk _ _) => acks
  | .heard answer =>
    match acks.waiting with
    | none => { acks with reads := acks.reads + 1 }
    | some (second, left) =>
      if 0 < left ∧ brings answer second = true then
        { waiting := none, reads := acks.reads + 1, answered := acks.answered + 1 }
      else { acks with waiting := some (second, left - (took acks.reads + 1)), reads := acks.reads + 1 }

theorem Acks.step_answer {took : Nat → Nat} {acks : Acks} {answer : Except LcdError (Option Report)} {second : UInt8}
    {left : Nat} (hwaiting : acks.waiting = some (second, left)) (hleft : 0 < left)
    (hbrings : brings answer second = true) : (acks.step took (.heard answer)).answered = acks.answered + 1 := by
  simp [Acks.step, hwaiting, hleft, hbrings]

theorem Acks.step_noise {took : Nat → Nat} {acks : Acks} {answer : Except LcdError (Option Report)} {second : UInt8}
    {left : Nat} (hwaiting : acks.waiting = some (second, left)) (hbrings : brings answer second = false) :
    acks.step took (.heard answer) =
      { acks with waiting := some (second, left - (took acks.reads + 1)), reads := acks.reads + 1 } := by
  simp [Acks.step, hwaiting, hbrings]

/-- What a line's log comes to, read from its start. -/
def acksOf (line : LcdLine) : Acks := line.log.foldl (Acks.step line.took) ⟨none, 0, 0⟩

theorem acksOf_posted (line : LcdLine) (message : LcdOut) :
    acksOf (line.posted message) = (acksOf line).step line.took (.sent message) := by
  simp [acksOf, Line.posted]

theorem acksOf_listened (line : LcdLine) :
    acksOf line.listened = (acksOf line).step line.took (.heard (line.incoming line.heard.length)) := by
  simp [acksOf, Line.listened]

theorem foldl_step_reads (took : Nat → Nat) (log : List (Traffic LcdOut Report LcdError)) (acks : Acks) :
    (log.foldl (Acks.step took) acks).reads = acks.reads + (heardOf log).length := by
  induction log generalizing acks with
  | nil => rfl
  | cons entry log ih =>
    rw [List.foldl_cons, ih]
    cases entry with
    | sent message => cases message <;> rfl
    | heard answer =>
      have hstep : (acks.step took (.heard answer)).reads = acks.reads + 1 := by
        unfold Acks.step
        dsimp only
        split
        · rfl
        · split <;> rfl
      have hheard : heardOf (.heard answer :: log) = answer :: heardOf log := rfl
      rw [hstep, hheard, List.length_cons]
      omega

theorem acksOf_reads (line : LcdLine) : (acksOf line).reads = line.heard.length := by
  unfold acksOf
  rw [foldl_step_reads, Nat.zero_add]
  rfl

theorem awaitUntil_counted (second : UInt8) (deadline : Nat) (line : LcdLine)
    (hwaiting : (acksOf line).waiting = some (second, deadline - line.now)) :
    ∃ b, (awaitUntil second deadline line).1 = .ok b ∧
      (awaitUntil second deadline line).2.took = line.took ∧
      (acksOf (awaitUntil second deadline line).2).answered = (acksOf line).answered + b.toNat := by
  fun_induction awaitUntil second deadline line with
  | case1 line hnow report hread hanswer =>
    refine ⟨true, rfl, rfl, ?_⟩
    rw [acksOf_listened, hread]
    exact Acks.step_answer hwaiting (Nat.sub_pos_of_lt hnow) hanswer
  | case2 line hnow report hread hanswer ih =>
    have hnoise := @Acks.step_noise line.took _ (line.incoming line.heard.length) _ _ hwaiting
    have hstep := hnoise (by rw [hread]; exact Bool.not_eq_true _ ▸ hanswer)
    rw [← acksOf_listened, acksOf_reads] at hstep
    have htime : deadline - line.listened.now = deadline - line.now - (line.took line.heard.length + 1) :=
      (Nat.sub_sub ..).symm
    obtain ⟨b, hresult, htook, hcount⟩ := ih (by rw [hstep, htime])
    refine ⟨b, hresult, htook, ?_⟩
    rw [hcount, hstep]
  | case3 line hnow hread =>
    refine ⟨false, rfl, rfl, ?_⟩
    rw [acksOf_listened, hread, Acks.step_noise hwaiting rfl]
    rfl
  | case4 line hnow error hread =>
    refine ⟨false, rfl, rfl, ?_⟩
    rw [acksOf_listened, hread, Acks.step_noise hwaiting rfl]
    rfl
  | case5 line _ => exact ⟨false, rfl, rfl, rfl⟩

theorem awaitAck_counted {command : Hid.Identifier} {line after : LcdLine} {b : Bool}
    (hwaiting : (acksOf line).waiting = some (command.2, TRANSFER_ACK_TIMEOUT))
    (hrun : awaitAck command line = (.ok b, after)) :
    after.took = line.took ∧ (acksOf after).answered = (acksOf line).answered + b.toNat := by
  have htime : line.now + TRANSFER_ACK_TIMEOUT - line.now = TRANSFER_ACK_TIMEOUT := Nat.add_sub_cancel_left ..
  obtain ⟨c, hresult, htook, hcount⟩ := awaitUntil_counted command.2 (line.now + TRANSFER_ACK_TIMEOUT) line
    (by rw [htime]; exact hwaiting)
  have hafter : awaitUntil command.2 (line.now + TRANSFER_ACK_TIMEOUT) line = (.ok b, after) := hrun
  rw [hafter] at hresult htook hcount
  cases hresult
  exact ⟨htook, hcount⟩

theorem command_counted {report : Report} {command : Hid.Identifier} {line after : LcdLine} {b : Bool}
    (hsecond : report.get ⟨1, Hid.one_lt_reportBytes⟩ = command.2)
    (hrun : awaitAck command (line.posted (.report report)) = (.ok b, after)) :
    after.took = line.took ∧ (acksOf after).answered = (acksOf line).answered + b.toNat := by
  have hposted := acksOf_posted line (.report report)
  have hwaiting : (acksOf (line.posted (.report report))).waiting = some (command.2, TRANSFER_ACK_TIMEOUT) := by
    rw [hposted, ← hsecond]
    rfl
  obtain ⟨htook, hcount⟩ := awaitAck_counted hwaiting hrun
  rw [hposted] at hcount
  exact ⟨htook, hcount⟩

theorem sendSequences_counted {payload : Frame} {left acknowledged total : Nat} {line after : LcdLine}
    (hrun : sendSequences payload left acknowledged line = (.ok total, after)) :
    after.took = line.took ∧ total ≤ acknowledged + 2 * left ∧
      (acksOf after).answered + acknowledged = (acksOf line).answered + total := by
  induction left generalizing acknowledged line with
  | zero =>
    cases hrun
    exact ⟨rfl, Nat.le_refl _, rfl⟩
  | succ left ih =>
    obtain ⟨_, opened, hopen, hopened⟩ := lineIo_bind_ok hrun
    obtain ⟨started, ready, hstart, hready⟩ := lineIo_bind_ok hopened
    obtain ⟨_, headed, hhead, hheaded⟩ := lineIo_bind_ok hready
    obtain ⟨_, painted, hpaint, hpainted⟩ := lineIo_bind_ok hheaded
    obtain ⟨_, closed, hclose, hclosed⟩ := lineIo_bind_ok hpainted
    obtain ⟨ended, done, hend, hdone⟩ := lineIo_bind_ok hclosed
    obtain rfl := post_ok hopen
    obtain rfl := post_ok hhead
    obtain rfl := post_ok hpaint
    obtain rfl := post_ok hclose
    obtain ⟨htook, hcount⟩ := command_counted rfl hstart
    obtain ⟨htook', hcount'⟩ := command_counted rfl hend
    obtain ⟨hrest, hbound, htotal⟩ := ih hdone
    -- the two bulk transfers are no commands
    have hbulk : ∀ (line : LcdLine) (bytes : List UInt8),
        acksOf (line.posted (.bulk BULK_ENDPOINT bytes)) = acksOf line := fun line bytes =>
      acksOf_posted line (.bulk BULK_ENDPOINT bytes)
    rw [hbulk, hbulk, hcount] at hcount'
    have hstarted := Bool.toNat_le started
    have hended := Bool.toNat_le ended
    refine ⟨hrest.trans (htook'.trans htook), ?_, ?_⟩ <;> omega

/-! ## The frame -/

theorem sendFrame_refused {payload : Frame} (hsize : payload.length ≠ FRAME_BYTES) (line : LcdLine) :
    sendFrame payload line = (.error (.frameSize payload.length FRAME_BYTES), line) := by
  unfold sendFrame
  rw [if_pos hsize]
  rfl

theorem sendFrame_reported {payload : Frame} {line after : LcdLine} {report : FrameReport}
    (hrun : sendFrame payload line = (.ok report, after)) :
    report = { start := transferStart, header := bulkHeader (UInt32.ofNat payload.length),
               payloadBytes := payload.length, sequences := SEQUENCES_PER_FRAME,
               acknowledged := report.acknowledged, «end» := transferEnd } ∧
      report.acknowledged ≤ 2 * SEQUENCES_PER_FRAME ∧
      (acksOf after).answered = (acksOf line).answered + report.acknowledged := by
  unfold sendFrame at hrun
  split at hrun
  · cases hrun
  · obtain ⟨acknowledged, done, hsend, hrun⟩ := lineIo_bind_ok hrun
    obtain ⟨-, hbound, hcount⟩ := sendSequences_counted hsend
    rw [Nat.zero_add] at hbound
    cases hrun
    exact ⟨rfl, hbound, hcount⟩

/-- Whether something written is a command, which the panel answers. -/
def LcdOut.isCommand : LcdOut → Bool
  | .report _ => true
  | .bulk _ _ => false

theorem count_commands (payload : Frame) :
    (trace payload).countP LcdOut.isCommand = 2 * SEQUENCES_PER_FRAME := rfl

theorem leValue_bulkHeader (n : UInt32) : leValue ((bulkHeader n).drop 16) = n.toNat := leValue_toLeBytes n

/-- What a transfer amounts to for the panel as a whole, which it leaves as `left` when it fails. -/
def faultOf (left : Glass) : Except LcdError FrameReport → Option LcdFault
  | .ok _ => none
  | .error error => some { error, brightness := left.brightness, picture := left.picture }

/-- The wire simulates the panel's one command: both come to the same result. -/
theorem sendFrame_refines (payload : Frame) (line : LcdLine) (left : Glass) (world : LcdWorld)
    (hfault : world.faults 0 = faultOf left (sendFrame payload line).1) :
    ((LcdLink.sendFrame payload).run lcd world).1 = (sendFrame payload line).1.map fun _ => () := by
  unfold LcdLink.sendFrame
  by_cases hsize : payload.length ≠ FRAME_BYTES
  · rw [if_pos hsize, sendFrame_refused hsize]
    rfl
  · rw [if_neg hsize]
    change (Prog.run lcd (.issue (.sendFrame payload) .done) world).1 = _
    unfold Prog.run
    rw [hfault]
    cases (sendFrame payload line).1 <;> rfl

/-- A frame of the wrong size sends nothing. Any other is sent as one trace, whatever is read, up to the first
write that fails, and the answers read in time are the acknowledgements it counts. -/
theorem sendFrame_one_trace (payload : Frame) (line : LcdLine) :
    (payload.length ≠ FRAME_BYTES →
      sendFrame payload line = (.error (.frameSize payload.length FRAME_BYTES), line)) ∧
    (payload.length = FRAME_BYTES →
      leValue ((bulkHeader (UInt32.ofNat payload.length)).drop 16) = payload.length ∧
      (line.Takes (trace payload).length → ∃ report after,
        sendFrame payload line = (.ok report, after) ∧ after.sent = line.sent ++ trace payload ∧
        report.acknowledged ≤ (trace payload).countP LcdOut.isCommand ∧
        (acksOf after).answered = (acksOf line).answered + report.acknowledged ∧
        report.start = transferStart ∧ report.header = bulkHeader (UInt32.ofNat payload.length) ∧
        report.payloadBytes = payload.length ∧ report.end = transferEnd ∧
        report.sequences = SEQUENCES_PER_FRAME) ∧
      ∀ k error, k < (trace payload).length → line.RefusesAfter k error →
        (sendFrame payload line).1 = .error error ∧
        (sendFrame payload line).2.sent = line.sent ++ (trace payload).take k) := by
  refine ⟨fun hsize => sendFrame_refused hsize line, fun hsize => ⟨?_, fun htakes => ?_, ?_⟩⟩
  · rw [leValue_bulkHeader, UInt32.toNat_ofNat', hsize]
    rfl
  · obtain ⟨report, after, hrun, hsent, -⟩ := (writes_sendFrame hsize).finished htakes
    obtain ⟨hreport, hbound, hcount⟩ := sendFrame_reported hrun
    rw [count_commands]
    exact ⟨report, after, hrun, hsent, hbound, hcount, by rw [hreport], by rw [hreport], by rw [hreport],
      by rw [hreport], by rw [hreport]⟩
  · exact (writes_sendFrame hsize).refused line

/-- A black frame. -/
def benchPicture : Frame := List.replicate FRAME_BYTES 0

/-- A panel that answers the first command, and whose bulk endpoint goes away when the pixels come. -/
def benchEndpoint (refuses : Nat → Option LcdError) : LcdLine :=
  { log := [], now := 0
    incoming := fun n => .ok ([Hid.query (TRANSFER_ANSWER, TRANSFER_START.2)][n]?)
    took := fun _ => 1000000
    refuses }

theorem bench_frame_stops_at_its_pixels :
    (∃ report after, sendFrame benchPicture (benchEndpoint fun _ => none) = (.ok report, after) ∧
      after.sent = trace benchPicture) ∧
    (sendFrame benchPicture (benchEndpoint fun n => if n = 2 then some (.bulk "no device") else none)).1 =
      .error (.bulk "no device") ∧
    sendFrame [] (benchEndpoint fun _ => none) =
      (.error (.frameSize 0 FRAME_BYTES), benchEndpoint fun _ => none) := by
  have hsize : benchPicture.length = FRAME_BYTES := List.length_replicate ..
  refine ⟨?_, ?_, (sendFrame_one_trace [] _).1 (by decide)⟩
  · obtain ⟨report, after, hrun, hsent, -⟩ :=
      ((sendFrame_one_trace benchPicture (benchEndpoint fun _ => none)).2 hsize).2.1 fun _ _ => rfl
    exact ⟨report, after, hrun, hsent⟩
  · refine (((sendFrame_one_trace benchPicture _).2 hsize).2.2 2 (.bulk "no device") (by decide) ⟨?_, rfl⟩).1
    intro k hk
    exact if_neg (Nat.ne_of_lt (by simpa [benchEndpoint, Line.sent, sentOf] using hk))

end Transfer

end Kori
