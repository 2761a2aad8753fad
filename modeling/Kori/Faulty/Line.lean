import Mathlib.Data.List.Basic

/-! # A line: messages go out, messages come in, and either may fail -/

namespace Faulty

variable {Out In ε α β : Type}

/-- One thing that happened on a line. A read brings a message, nothing in time, or an error. -/
inductive Traffic (Out In ε : Type) where
  | sent (message : Out)
  | heard (answer : Except ε (Option In))

/-- A line, with everything that happened on it so far, oldest first, and what is still to come. -/
structure Line (Out In ε : Type) where
  log : List (Traffic Out In ε)
  now : Nat
  /-- What each read brings, and how long it takes beyond the least a read can take. -/
  incoming : Nat → Except ε (Option In)
  took : Nat → Nat
  /-- Why the write that follows so many messages fails, when it does. -/
  refuses : Nat → Option ε

/-- A program over a line. -/
abbrev LineIo (Out In ε α : Type) := ExceptT ε (StateM (Line Out In ε)) α

/-- The messages of a log. -/
def sentOf (log : List (Traffic Out In ε)) : List Out := log.filterMap fun
  | .sent message => some message
  | .heard _ => none

/-- The answers of a log. -/
def heardOf (log : List (Traffic Out In ε)) : List (Except ε (Option In)) := log.filterMap fun
  | .sent _ => none
  | .heard answer => some answer

@[simp] theorem sentOf_append (log more : List (Traffic Out In ε)) :
    sentOf (log ++ more) = sentOf log ++ sentOf more := List.filterMap_append

@[simp] theorem heardOf_append (log more : List (Traffic Out In ε)) :
    heardOf (log ++ more) = heardOf log ++ heardOf more := List.filterMap_append

@[simp] theorem sentOf_sent (message : Out) : sentOf [(.sent message : Traffic Out In ε)] = [message] := rfl
@[simp] theorem sentOf_heard (answer : Except ε (Option In)) :
    sentOf [(.heard answer : Traffic Out In ε)] = [] := rfl
@[simp] theorem heardOf_sent (message : Out) : heardOf [(.sent message : Traffic Out In ε)] = [] := rfl
@[simp] theorem heardOf_heard (answer : Except ε (Option In)) :
    heardOf [(.heard answer : Traffic Out In ε)] = [answer] := rfl

namespace Line

variable (line : Line Out In ε)

def sent : List Out := sentOf line.log

def heard : List (Except ε (Option In)) := heardOf line.log

/-- The line after a message. -/
def posted (message : Out) : Line Out In ε := { line with log := line.log ++ [.sent message] }

/-- The line after a read, which takes some time. -/
def listened : Line Out In ε :=
  { line with log := line.log ++ [.heard (line.incoming line.heard.length)]
              now := line.now + (line.took line.heard.length + 1) }

@[simp] theorem posted_sent (message : Out) : (line.posted message).sent = line.sent ++ [message] := by
  simp [sent, posted]
@[simp] theorem posted_heard (message : Out) : (line.posted message).heard = line.heard := by
  simp [heard, posted]
@[simp] theorem listened_sent : line.listened.sent = line.sent := by simp [sent, listened]
@[simp] theorem listened_heard :
    line.listened.heard = line.heard ++ [line.incoming line.heard.length] := by simp [heard, listened]

end Line

/-- Writes one message. -/
def post (message : Out) : LineIo Out In ε Unit := fun line =>
  match line.refuses line.sent.length with
  | some error => (.error error, line)
  | none => (.ok (), line.posted message)

/-- Reads once. -/
def listen : LineIo Out In ε (Option In) := fun line =>
  (line.incoming line.heard.length, line.listened)

theorem lineIo_bind (p : LineIo Out In ε α) (f : α → LineIo Out In ε β) (line : Line Out In ε) :
    (p >>= f) line = match p line with
      | (.ok a, after) => f a after
      | (.error error, after) => (.error error, after) := by
  change ExceptT.bindCont f (p line).1 (p line).2 = _
  cases p line with
  | mk result after => cases result <;> rfl

theorem lineIo_bind_ok {p : LineIo Out In ε α} {f : α → LineIo Out In ε β} {line after : Line Out In ε} {b : β}
    (h : (p >>= f) line = (.ok b, after)) : ∃ a between, p line = (.ok a, between) ∧ f a between = (.ok b, after) := by
  rw [lineIo_bind] at h
  cases hrun : p line with
  | mk result between =>
    rw [hrun] at h
    cases result with
    | ok a => exact ⟨a, between, rfl, h⟩
    | error _ => cases h

theorem post_ok {message : Out} {line after : Line Out In ε} {u : Unit} (h : post message line = (.ok u, after)) :
    after = line.posted message := by
  unfold post at h
  split at h <;> cases h
  rfl

theorem lineIo_pure (a : α) (line : Line Out In ε) : (pure a : LineIo Out In ε α) line = (.ok a, line) := rfl

/-! ## Messages one after the other -/

/-- Writes messages one after the other. -/
def postAll : List Out → LineIo Out In ε Unit
  | [] => pure ()
  | message :: rest => do
    post message
    postAll rest

theorem heardOf_map_sent (messages : List Out) :
    heardOf (messages.map (Traffic.sent : Out → Traffic Out In ε)) = [] := by
  induction messages with
  | nil => rfl
  | cons message messages ih => exact ih

/-- The line after several messages. -/
def Line.postedAll (line : Line Out In ε) (messages : List Out) : Line Out In ε :=
  { line with log := line.log ++ messages.map .sent }

@[simp] theorem Line.postedAll_heard (line : Line Out In ε) (messages : List Out) :
    (line.postedAll messages).heard = line.heard := by
  simp [heard, postedAll, heardOf_map_sent]

theorem postAll_of_accepted {line : Line Out In ε} (haccepts : ∀ n, line.refuses n = none)
    (messages : List Out) : postAll messages line = (.ok (), line.postedAll messages) := by
  induction messages generalizing line with
  | nil => simp [postAll, lineIo_pure, Line.postedAll]
  | cons message messages ih =>
    have hpost : post message line = (.ok (), line.posted message) := by
      unfold post
      rw [haccepts]
    rw [postAll, lineIo_bind, hpost]
    dsimp only
    have haccepted : ∀ n, (line.posted message).refuses n = none := haccepts
    rw [ih haccepted]
    simp [Line.posted, Line.postedAll]

/-! ## What a program writes, whatever it reads -/

/-- The line takes the next so many writes. -/
def Line.Takes (line : Line Out In ε) (count : Nat) : Prop :=
  ∀ k < count, line.refuses (line.sent.length + k) = none

/-- The line refuses the write that comes after so many more. -/
def Line.RefusesAfter (line : Line Out In ε) (count : Nat) (error : ε) : Prop :=
  line.Takes count ∧ line.refuses (line.sent.length + count) = some error

/-- The program writes these messages in this order, up to the first write that is refused. -/
structure Writes (p : LineIo Out In ε α) (messages : List Out) : Prop where
  refuses : ∀ line, (p line).2.refuses = line.refuses
  taken : ∀ line : Line Out In ε, line.Takes messages.length →
    (∃ a, (p line).1 = .ok a) ∧ (p line).2.sent = line.sent ++ messages
  refused : ∀ (line : Line Out In ε) (k : Nat) (error : ε), k < messages.length → line.RefusesAfter k error →
    (p line).1 = .error error ∧ (p line).2.sent = line.sent ++ messages.take k

theorem Writes.pure (a : α) : Writes (pure a : LineIo Out In ε α) [] where
  refuses _ := rfl
  taken _ _ := ⟨⟨a, rfl⟩, (List.append_nil _).symm⟩
  refused _ _ _ hk := nomatch hk

theorem Writes.post (message : Out) : Writes (post message : LineIo Out In ε Unit) [message] where
  refuses line := by
    unfold Faulty.post
    cases line.refuses line.sent.length <;> rfl
  taken line htakes := by
    have hnext : line.refuses line.sent.length = none := htakes 0 Nat.zero_lt_one
    simp [Faulty.post, hnext]
  refused line k error hk hrefuses := by
    obtain rfl : k = 0 := Nat.lt_one_iff.mp hk
    have hnext : line.refuses line.sent.length = some error := hrefuses.2
    simp [Faulty.post, hnext]

theorem Writes.quiet {p : LineIo Out In ε α} (hok : ∀ line, ∃ a, (p line).1 = .ok a)
    (hsent : ∀ line, (p line).2.sent = line.sent) (hrefuses : ∀ line, (p line).2.refuses = line.refuses) :
    Writes p [] where
  refuses := hrefuses
  taken line _ := ⟨hok line, by rw [hsent, List.append_nil]⟩
  refused _ _ _ hk := nomatch hk

theorem Writes.finished {p : LineIo Out In ε α} {messages : List Out} (hp : Writes p messages)
    {line : Line Out In ε} (htakes : line.Takes messages.length) :
    ∃ a after, p line = (.ok a, after) ∧ after.sent = line.sent ++ messages ∧ after.refuses = line.refuses := by
  obtain ⟨⟨a, hok⟩, hsent⟩ := hp.taken line htakes
  exact ⟨a, (p line).2, Prod.ext hok rfl, hsent, hp.refuses line⟩

theorem Writes.bind {p : LineIo Out In ε α} {f : α → LineIo Out In ε β} {messages more : List Out}
    (hp : Writes p messages) (hf : ∀ a, Writes (f a) more) : Writes (p >>= f) (messages ++ more) where
  refuses line := by
    have hfirst := hp.refuses line
    rw [lineIo_bind]
    cases hrun : p line with
    | mk result after =>
      rw [hrun] at hfirst
      cases result with
      | ok a => exact ((hf a).refuses after).trans hfirst
      | error _ => exact hfirst
  taken line htakes := by
    rw [List.length_append] at htakes
    obtain ⟨a, after, hrun, hsent, hfirst⟩ := hp.finished fun k hk => htakes k (by omega)
    rw [lineIo_bind, hrun]
    have hnext : after.Takes more.length := by
      intro k hk
      rw [hfirst, hsent, List.length_append, Nat.add_assoc]
      exact htakes _ (by omega)
    obtain ⟨hresult, hrest⟩ := (hf a).taken after hnext
    refine ⟨hresult, ?_⟩
    rw [← List.append_assoc, ← hsent]
    exact hrest
  refused line k error hk hrefused := by
    rw [List.length_append] at hk
    rw [lineIo_bind]
    -- the write that is refused is one of the first program's, or the first program is through
    by_cases hearly : k < messages.length
    · obtain ⟨herror, hsent⟩ := hp.refused line k error hearly hrefused
      have hrun : p line = (.error error, (p line).2) := Prod.ext herror rfl
      rw [hrun]
      refine ⟨rfl, ?_⟩
      rw [List.take_append_of_le_length (Nat.le_of_lt hearly)]
      exact hsent
    · obtain ⟨a, after, hrun, hsent, hfirst⟩ := hp.finished fun j hj => hrefused.1 j (by omega)
      rw [hrun]
      have hnext : after.RefusesAfter (k - messages.length) error := by
        refine ⟨fun j hj => ?_, ?_⟩
        · rw [hfirst, hsent, List.length_append, Nat.add_assoc]
          exact hrefused.1 _ (by omega)
        · have hplace : after.sent.length + (k - messages.length) = line.sent.length + k := by
            rw [hsent, List.length_append]
            omega
          rw [hfirst, hplace]
          exact hrefused.2
      obtain ⟨herror, hrest⟩ := (hf a).refused after _ error (by omega) hnext
      refine ⟨herror, hrest.trans ?_⟩
      have hall : messages.take k = messages := List.take_of_length_le (by omega)
      rw [hsent, List.take_append, hall, List.append_assoc]

/-- A line nothing has happened on, whose writes and reads all succeed. -/
def Line.sound (incoming : Nat → Option In) (took : Nat → Nat) : Line Out In ε :=
  { log := [], now := 0, incoming := fun n => .ok (incoming n), took, refuses := fun _ => none }

end Faulty
