import Kori.Faulty.Transcript

/-! # What the two write probes share: the person watching, and their consent -/

open Faulty

namespace Kori

/-- What the operator must type to authorize a write this product has not validated. -/
def CONFIRMATION_PHRASE : String := "PROBE"

/-- What a probe asks of the operator, of a device and of the clock. -/
inductive ProbeCall (D : Type) where
  | ask (question : String)
  | note (message : String)
  | device (call : D)
  | sleep (millis : Nat)

variable {D α : Type} {B : D → Type}

abbrev ProbeCall.Answer (B : D → Type) : ProbeCall D → Type
  | ask _ => String
  | note _ => Unit
  | device call => B call
  | sleep _ => Unit

abbrev ProbeScript (B : D → Type) := Script (ProbeCall D) (ProbeCall.Answer B)

abbrev ProbeSaid (B : D → Type) := Transcript (ProbeCall.Answer B)

namespace Operator

def ask (question : String) : ProbeScript B String := request (ProbeCall.ask question)
def note (message : String) : ProbeScript B Unit := request (ProbeCall.note message)

end Operator

def sleep (millis : Nat) : ProbeScript B Unit := request (ProbeCall.sleep millis)

def confirmation : String := s!"Type {CONFIRMATION_PHRASE} to authorize, anything else to abort:"

/-- Whether the typed confirmation was given. -/
def authorized : ProbeScript B Bool := do
  let answer ← Operator.ask confirmation
  return answer == CONFIRMATION_PHRASE

/-- What the operator answered, in order. -/
def answered : ProbeSaid B → List String := List.filterMap fun
  | ⟨.ask _, answer⟩ => some answer
  | _ => none

/-- What a device was asked, each with its answer, in order. -/
def exchanged : ProbeSaid B → List (Sigma B) := List.filterMap fun
  | ⟨.device call, answer⟩ => some ⟨call, answer⟩
  | _ => none

@[simp] theorem always_ask {question : String} {Q : String → ProbeSaid B → Prop} :
    (Operator.ask question).Always Q ↔ ∀ answer, Q answer [⟨.ask question, answer⟩] := Iff.rfl

@[simp] theorem always_note {message : String} {Q : Unit → ProbeSaid B → Prop} :
    (Operator.note message).Always Q ↔ Q () [⟨.note message, ()⟩] := ⟨fun h => h (), fun h _ => h⟩

@[simp] theorem always_sleep {millis : Nat} {Q : Unit → ProbeSaid B → Prop} :
    (sleep millis).Always Q ↔ Q () [⟨.sleep millis, ()⟩] := ⟨fun h => h (), fun h _ => h⟩

section

variable (said more : ProbeSaid B)

@[simp] theorem answered_nil : answered ([] : ProbeSaid B) = [] := rfl
@[simp] theorem exchanged_nil : exchanged ([] : ProbeSaid B) = [] := rfl
@[simp] theorem answered_append : answered (said ++ more) = answered said ++ answered more := List.filterMap_append
@[simp] theorem exchanged_append : exchanged (said ++ more) = exchanged said ++ exchanged more :=
  List.filterMap_append
@[simp] theorem answered_ask (question answer : String) :
    answered (⟨.ask question, answer⟩ :: said) = answer :: answered said := rfl
@[simp] theorem answered_note (message : String) (answer : Unit) :
    answered (⟨.note message, answer⟩ :: said) = answered said := rfl
@[simp] theorem answered_device (call : D) (answer : B call) :
    answered (⟨.device call, answer⟩ :: said) = answered said := rfl
@[simp] theorem answered_sleep (millis : Nat) (answer : Unit) :
    answered (⟨.sleep millis, answer⟩ :: said) = answered said := rfl
@[simp] theorem exchanged_ask (question answer : String) :
    exchanged (⟨.ask question, answer⟩ :: said) = exchanged said := rfl
@[simp] theorem exchanged_note (message : String) (answer : Unit) :
    exchanged (⟨.note message, answer⟩ :: said) = exchanged said := rfl
@[simp] theorem exchanged_device (call : D) (answer : B call) :
    exchanged (⟨.device call, answer⟩ :: said) = ⟨call, answer⟩ :: exchanged said := rfl
@[simp] theorem exchanged_sleep (millis : Nat) (answer : Unit) :
    exchanged (⟨.sleep millis, answer⟩ :: said) = exchanged said := rfl

end

end Kori
