import Kori.Core.Ipc
import Kori.Faulty.Stream

/-! # Newline-delimited frames, with a hard ceiling on both ends -/

open Faulty

namespace Kori

/-- The largest frame either side reads, its newline included. -/
def MAX_FRAME_BYTES : Nat := 256 * 1024

def NEWLINE : UInt8 := 0x0a

/-- A framing failure, as opposed to a refusal of the protocol. -/
inductive FrameError where
  | closed
  | tooLarge (maxBytes : Nat)
  | decode (detail : String)
  | io (detail : String)
deriving DecidableEq, Repr

namespace FrameError

def display : FrameError → String
  | closed => "connection closed"
  | tooLarge maxBytes => s!"frame exceeds {maxBytes} bytes"
  | decode detail => s!"frame is not valid JSON: {detail}"
  | io detail => detail

/-- What a daemon answers with, when it can answer. -/
def asIpcError : FrameError → Option IpcError
  | closed => none
  | tooLarge maxBytes => some (.frameTooLarge maxBytes)
  | decode detail => some (.malformed detail)
  | io detail => some (.io detail)

end FrameError

/-! ## The bytes of a value, and where they go -/

/-- The bytes a value is written as. -/
abbrev Encode (T : Type) := T → Except String (List UInt8)

/-- The value some bytes are read as. -/
abbrev Decode (T : Type) := List UInt8 → Except String T

/-- What frames are written to. -/
class Write (W : Type) where
  writeAll : List UInt8 → W → Except String Unit × W
  flush : W → Except String Unit × W

/-- A buffer takes everything. -/
instance : Write (List UInt8) where
  writeAll bytes buffer := (.ok (), buffer ++ bytes)
  flush buffer := (.ok (), buffer)

variable {T W : Type}

/-- Writes one frame. -/
def writeFrame [Write W] (encode : Encode T) (value : T) (writer : W) : Except FrameError Unit × W :=
  match encode value with
  | .error detail => (.error (.decode detail), writer)
  | .ok encoded =>
    if MAX_FRAME_BYTES < encoded.length + 1 then (.error (.tooLarge MAX_FRAME_BYTES), writer)
    else match Write.writeAll (encoded ++ [NEWLINE]) writer with
      | (.error detail, writer) => (.error (.io detail), writer)
      | (.ok (), writer) =>
        match Write.flush writer with
        | (.error detail, writer) => (.error (.io detail), writer)
        | (.ok (), writer) => (.ok (), writer)

/-- Reads one frame. The ceiling holds while reading, not after. -/
def readFrame (decode : Decode T) (reader : Incoming UInt8) : Except FrameError T × Incoming UInt8 :=
  let taken := reader.readUntil NEWLINE MAX_FRAME_BYTES
  let value := match taken.failure with
    | some detail => .error (.io detail)
    | none =>
      if taken.items.length = 0 then .error .closed
      -- Either the ceiling was hit in the middle of a line, or the peer went away there.
      else if taken.items.getLast? ≠ some NEWLINE then
        if MAX_FRAME_BYTES ≤ taken.items.length then .error (.tooLarge MAX_FRAME_BYTES)
        else .error .closed
      else (decode taken.items.dropLast).mapError .decode
  (value, taken.rest)

/-! ## Writing -/

variable {encode : Encode T} {decode : Decode T} {value : T} {encoded : List UInt8}

theorem writeFrame_fits [Write W] {writer : W} (h : encode value = .ok encoded)
    (hfits : encoded.length + 1 ≤ MAX_FRAME_BYTES) : writeFrame encode value writer =
      let written := Write.writeAll (encoded ++ [NEWLINE]) writer
      let flushed := Write.flush written.2
      match written.1, flushed.1 with
      | .error detail, _ => (.error (.io detail), written.2)
      | .ok (), .error detail => (.error (.io detail), flushed.2)
      | .ok (), .ok () => (.ok (), flushed.2) := by
  unfold writeFrame
  simp only [h, if_neg (Nat.not_lt.mpr hfits)]
  rcases Write.writeAll (encoded ++ [NEWLINE]) writer with ⟨_ | _, written⟩
  · rfl
  · rcases hflush : Write.flush written with ⟨_ | _, flushed⟩
    · simp [hflush]
    · simp [hflush]

theorem writeFrame_unfit [Write W] {writer : W}
    (h : ∀ encoded, encode value = .ok encoded → MAX_FRAME_BYTES < encoded.length + 1) :
    ∃ error, writeFrame encode value writer = (.error error, writer) := by
  unfold writeFrame
  cases hencoded : encode value with
  | error detail => exact ⟨_, rfl⟩
  | ok encoded => exact ⟨.tooLarge MAX_FRAME_BYTES, by simp [h encoded hencoded]⟩

theorem writeFrame_buffer (h : encode value = .ok encoded) (buffer : List UInt8) :
    writeFrame encode value buffer =
      if MAX_FRAME_BYTES < encoded.length + 1 then (.error (.tooLarge MAX_FRAME_BYTES), buffer)
      else (.ok (), buffer ++ (encoded ++ [NEWLINE])) := by
  unfold writeFrame
  rw [h]
  rfl

theorem writeFrame_ok_iff (buffer : List UInt8) : (writeFrame encode value buffer).1 = .ok () ↔
    ∃ encoded, encode value = .ok encoded ∧ encoded.length + 1 ≤ MAX_FRAME_BYTES := by
  cases h : encode value with
  | error detail =>
    unfold writeFrame
    rw [h]
    simp
  | ok encoded =>
    rw [writeFrame_buffer h]
    by_cases hlarge : MAX_FRAME_BYTES < encoded.length + 1
    · rw [if_pos hlarge]
      refine iff_of_false (by nofun) ?_
      rintro ⟨_, hencoded, hfits⟩
      cases hencoded
      exact Nat.not_lt.mpr hfits hlarge
    · rw [if_neg hlarge]
      exact iff_of_true rfl ⟨encoded, rfl, Nat.le_of_not_lt hlarge⟩

/-! ## Reading -/

variable {line rest : List UInt8} {ending : Ending}

theorem readFrame_line (hline : NEWLINE ∉ line) (hfits : line.length + 1 ≤ MAX_FRAME_BYTES) :
    readFrame decode ⟨line ++ NEWLINE :: rest, ending⟩ =
      ((decode line).mapError .decode, ⟨rest, ending⟩) := by
  unfold readFrame
  rw [Incoming.readUntil_line hline hfits]
  simp

theorem readFrame_tooLarge (hline : NEWLINE ∉ line) (hlarge : line.length = MAX_FRAME_BYTES) :
    readFrame decode ⟨line ++ rest, ending⟩ =
      (.error (.tooLarge MAX_FRAME_BYTES), ⟨rest, ending⟩) := by
  have hpos : MAX_FRAME_BYTES ≠ 0 := by decide
  have hlast : line.getLast? ≠ some NEWLINE := fun h => hline (List.mem_of_getLast? h)
  unfold readFrame
  rw [Incoming.readUntil_full hline hlarge]
  simp only [hlarge, if_neg hpos, if_pos hlast, Nat.le_refl, if_true]

theorem readFrame_short (hline : NEWLINE ∉ line) (hshort : line.length < MAX_FRAME_BYTES) :
    readFrame decode ⟨line, ending⟩ = (.error (match ending with
      | .closed => .closed
      | .failed detail => .io detail), ⟨[], ending⟩) := by
  have hlast : line.getLast? ≠ some NEWLINE := fun h => hline (List.mem_of_getLast? h)
  unfold readFrame
  rw [Incoming.readUntil_short hline hshort]
  cases ending with
  | closed => simp only [Ending.failure, if_pos hlast, if_neg (Nat.not_le.mpr hshort), ite_self]
  | failed detail => rfl

theorem readFrame_end : readFrame decode ⟨[], .closed⟩ = (.error .closed, ⟨[], .closed⟩) :=
  readFrame_short List.not_mem_nil (by decide)

/-! ## Round trips -/

/-- Encoded values have no newline in them, and decode to themselves. -/
structure Compact (encode : Encode T) (decode : Decode T) : Prop where
  line : ∀ value encoded, encode value = .ok encoded → NEWLINE ∉ encoded
  decodes : ∀ value encoded, encode value = .ok encoded → decode encoded = .ok value

/-- Writes every value to one buffer. -/
def writeFrames (encode : Encode T) (values : List T) (buffer : List UInt8) : List UInt8 :=
  values.foldl (fun buffer value => (writeFrame encode value buffer).2) buffer

/-- What each of the next reads answers. -/
def readFrames (decode : Decode T) : Nat → Incoming UInt8 → List (Except FrameError T)
  | 0, _ => []
  | count + 1, reader => (readFrame decode reader).1 :: readFrames decode count (readFrame decode reader).2

theorem readFrames_end (count : Nat) :
    readFrames decode count ⟨[], .closed⟩ = List.replicate count (.error .closed) := by
  induction count with
  | zero => rfl
  | succ count ih =>
    rw [readFrames, readFrame_end, ih]
    rfl

theorem writeFrames_append (values : List T) (buffer : List UInt8) :
    writeFrames encode values buffer = buffer ++ writeFrames encode values [] := by
  induction values generalizing buffer with
  | nil => exact (List.append_nil buffer).symm
  | cons value rest ih =>
    have hfirst : (writeFrame encode value buffer).2 = buffer ++ (writeFrame encode value []).2 := by
      cases hencoded : encode value with
      | error detail => simp [writeFrame, hencoded]
      | ok encoded =>
        rw [writeFrame_buffer hencoded, writeFrame_buffer hencoded]
        split <;> simp
    calc writeFrames encode (value :: rest) buffer
      _ = (writeFrame encode value buffer).2 ++ writeFrames encode rest [] := ih _
      _ = buffer ++ ((writeFrame encode value []).2 ++ writeFrames encode rest []) := by
        rw [hfirst, List.append_assoc]
      _ = buffer ++ writeFrames encode (value :: rest) [] := by rw [← ih]; rfl

/-- The values written are the values read, then the end. -/
theorem readFrames_writeFrames (h : Compact encode decode) (values : List T) (count : Nat)
    (hvalues : ∀ value ∈ values, (writeFrame encode value ([] : List UInt8)).1 = .ok ()) :
    readFrames decode (values.length + count) ⟨writeFrames encode values [], .closed⟩ =
      values.map .ok ++ List.replicate count (.error .closed) := by
  induction values with
  | nil =>
    rw [List.length_nil, Nat.zero_add]
    exact readFrames_end count
  | cons value rest ih =>
    rw [List.forall_mem_cons] at hvalues
    obtain ⟨encoded, hencoded, hfits⟩ := (writeFrame_ok_iff []).mp hvalues.1
    have hbytes : writeFrames encode (value :: rest) [] =
        encoded ++ NEWLINE :: writeFrames encode rest [] := by
      change writeFrames encode rest (writeFrame encode value []).2 = _
      rw [writeFrame_buffer hencoded, if_neg (Nat.not_lt.mpr hfits), writeFrames_append]
      simp
    rw [hbytes, List.length_cons, Nat.succ_add, readFrames,
      readFrame_line (h.line value encoded hencoded) hfits, h.decodes value encoded hencoded, ih hvalues.2]
    rfl

theorem readFrame_tooLarge_iff (h : NEWLINE ∉ encoded) {tail : List UInt8}
    (htail : tail = [] ∨ tail.head? = some NEWLINE) :
    (readFrame decode ⟨encoded ++ tail, ending⟩).1 = .error (.tooLarge MAX_FRAME_BYTES) ↔
      MAX_FRAME_BYTES < encoded.length + 1 := by
  obtain hfits | hlarge := Nat.lt_or_ge encoded.length MAX_FRAME_BYTES
  · refine iff_of_false ?_ (Nat.not_lt.mpr hfits)
    cases tail with
    | nil =>
      rw [List.append_nil, readFrame_short h hfits]
      cases ending <;> simp
    | cons byte rest =>
      obtain rfl : byte = NEWLINE := by simpa using htail
      rw [readFrame_line h hfits]
      cases decode encoded <;> simp [Except.mapError]
  · refine iff_of_true ?_ (Nat.lt_succ_of_le hlarge)
    have htaken : NEWLINE ∉ encoded.take MAX_FRAME_BYTES := fun hmem => h (List.mem_of_mem_take hmem)
    rw [← List.take_append_drop MAX_FRAME_BYTES encoded, List.append_assoc,
      readFrame_tooLarge htaken (List.length_take_of_le hlarge)]

theorem readFrame_consumes (decode : Decode T) (reader : Incoming UInt8) :
    ∃ taken, reader.items = taken ++ (readFrame decode reader).2.items ∧
      taken.length ≤ MAX_FRAME_BYTES ∧ NEWLINE ∉ taken.dropLast :=
  ⟨_, Incoming.readUntil_split reader.items, Incoming.readUntil_length reader.items,
    Incoming.readUntil_dropLast reader.items⟩

theorem readFrame_cut (decode : Decode T) (h : NEWLINE ∉ line) :
    ∃ error, (readFrame decode ⟨line, ending⟩).1 = .error error := by
  obtain hshort | hlong := Nat.lt_or_ge line.length MAX_FRAME_BYTES
  · rw [readFrame_short h hshort]
    exact ⟨_, rfl⟩
  · have htaken : NEWLINE ∉ line.take MAX_FRAME_BYTES := fun hmem => h (List.mem_of_mem_take hmem)
    rw [← List.take_append_drop MAX_FRAME_BYTES line,
      readFrame_tooLarge htaken (List.length_take_of_le hlong)]
    exact ⟨_, rfl⟩

/-- Streams of frames round-trip, both sides put the ceiling at the same length, and no read
consumes more than a frame or makes a value of half of one. -/
theorem frames_round_trip (encode : Encode T) (decode : Decode T) (h : Compact encode decode) :
    (∀ values count, (∀ value ∈ values, (writeFrame encode value ([] : List UInt8)).1 = .ok ()) →
      readFrames decode (values.length + count) ⟨writeFrames encode values [], .closed⟩ =
        values.map .ok ++ List.replicate count (.error .closed)) ∧
    (∀ value encoded, encode value = .ok encoded →
      ∀ (buffer tail : List UInt8) ending, tail = [] ∨ tail.head? = some NEWLINE →
      ((writeFrame encode value buffer).1 = .ok () ↔
        (readFrame decode ⟨encoded ++ tail, ending⟩).1 ≠ .error (.tooLarge MAX_FRAME_BYTES))) ∧
    ∀ reader : Incoming UInt8,
      (∃ taken, reader.items = taken ++ (readFrame decode reader).2.items ∧
        taken.length ≤ MAX_FRAME_BYTES ∧ NEWLINE ∉ taken.dropLast) ∧
      (NEWLINE ∉ reader.items → ∃ error, (readFrame decode reader).1 = .error error) := by
  refine ⟨readFrames_writeFrames h, ?_, fun reader => ⟨readFrame_consumes decode reader, readFrame_cut decode⟩⟩
  intro value encoded hencoded buffer tail ending htail
  rw [writeFrame_ok_iff, Ne, readFrame_tooLarge_iff (h.line value encoded hencoded) htail, Nat.not_lt]
  constructor
  · rintro ⟨encoded', hencoded', hfits⟩
    cases hencoded.symm.trans hencoded'
    exact hfits
  · exact fun hfits => ⟨encoded, hencoded, hfits⟩

/-- The JSON of a flag. -/
def encodeFlag : Encode Bool
  | true => .ok [0x74, 0x72, 0x75, 0x65]
  | false => .ok [0x66, 0x61, 0x6c, 0x73, 0x65]

def decodeFlag : Decode Bool
  | [0x74, 0x72, 0x75, 0x65] => .ok true
  | [0x66, 0x61, 0x6c, 0x73, 0x65] => .ok false
  | _ => .error "expected a boolean"

theorem compact_flag : Compact encodeFlag decodeFlag where
  line value encoded h := by cases value <;> cases h <;> decide
  decodes value encoded h := by cases value <;> cases h <;> rfl

theorem frames_round_trip_flags :
    readFrames decodeFlag 3 ⟨writeFrames encodeFlag [true, false] [], .closed⟩ =
      [.ok true, .ok false, .error .closed] := by
  refine (frames_round_trip encodeFlag decodeFlag compact_flag).1 [true, false] 1 ?_
  intro value _
  cases value
  · exact (writeFrame_ok_iff []).mpr ⟨_, rfl, by decide⟩
  · exact (writeFrame_ok_iff []).mpr ⟨_, rfl, by decide⟩

end Kori
