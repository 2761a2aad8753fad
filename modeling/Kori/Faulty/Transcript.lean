import Kori.Faulty.Processes

/-! # What a script says to whoever answers it -/

namespace Faulty

variable {C α β : Type} {A : C → Type}

/-- The calls made so far, each with its answer, in order. -/
abbrev Transcript (A : C → Type) := List (Sigma A)

/-- Whoever answers the calls, and may go by everything that was said before. -/
abbrev Oracle (A : C → Type) := Transcript A → (c : C) → A c

namespace Script

/-- What a script returns, and what it said, after what was said already. -/
def play (oracle : Oracle A) : Script C A α → Transcript A → α × Transcript A
  | done a, _ => (a, [])
  | call c next, past =>
    let answer := oracle past c
    let rest := (next answer).play oracle (past ++ [⟨c, answer⟩])
    (rest.1, ⟨c, answer⟩ :: rest.2)

/-- Runs the body for every element, in order, and keeps what each returned. -/
def each (f : β → Script C A α) : List β → Script C A (List α)
  | [] => return []
  | x :: xs => do
    let a ← f x
    let rest ← each f xs
    return a :: rest

/-- However the calls are answered, what is returned and what was said are `Q`. -/
def Always : Script C A α → (α → Transcript A → Prop) → Prop
  | done a, Q => Q a []
  | call c next, Q => ∀ answer, (next answer).Always fun a said => Q a (⟨c, answer⟩ :: said)

variable {script : Script C A α} {Q Q' : α → Transcript A → Prop}

theorem always_play (halways : script.Always Q) (oracle : Oracle A) (past : Transcript A) :
    Q (script.play oracle past).1 (script.play oracle past).2 := by
  induction script generalizing Q past with
  | done a => exact halways
  | call c next ih => exact ih _ (halways (oracle past c)) _

theorem always_mono (halways : script.Always Q) (himp : ∀ a said, Q a said → Q' a said) : script.Always Q' := by
  induction script generalizing Q Q' with
  | done a => exact himp _ _ halways
  | call c next ih => exact fun answer => ih _ (halways answer) fun _ _ => himp _ _

@[simp] theorem always_return (a : α) : (return a : Script C A α).Always Q ↔ Q a [] := Iff.rfl

@[simp] theorem always_request {c : C} {Q : A c → Transcript A → Prop} :
    (request c).Always Q ↔ ∀ answer, Q answer [⟨c, answer⟩] := Iff.rfl

@[simp] theorem always_bind {f : α → Script C A β} {Q : β → Transcript A → Prop} :
    (script >>= f).Always Q ↔ script.Always fun a said => (f a).Always fun b more => Q b (said ++ more) := by
  change (script.bind f).Always Q ↔ _
  induction script generalizing Q with
  | done a => exact Iff.rfl
  | call c next ih => exact forall_congr' fun answer => ih answer

theorem always_each {f : β → Script C A α} {P : List β → List α → Transcript A → Prop} (hnil : P [] [] [])
    (hcons : ∀ x xs, (f x).Always fun a said => ∀ as more, P xs as more → P (x :: xs) (a :: as) (said ++ more))
    (xs : List β) : (each f xs).Always (P xs) := by
  induction xs with
  | nil => exact hnil
  | cons x xs ih =>
    unfold each
    rw [always_bind]
    refine always_mono (hcons x xs) fun a said hpass => ?_
    rw [always_bind]
    refine always_mono ih fun as more hpasses => ?_
    rw [always_return, List.append_nil]
    exact hpass as more hpasses

/-- What was said is what the passes said, one after the other, each of them so. -/
inductive Passes (R : β → α → Transcript A → Prop) : List β → List α → Transcript A → Prop
  | nil : Passes R [] [] []
  | cons {x xs a as said more} (hpass : R x a said) (hrest : Passes R xs as more) :
    Passes R (x :: xs) (a :: as) (said ++ more)

theorem always_each_passes {f : β → Script C A α} {R : β → α → Transcript A → Prop}
    (hbody : ∀ x, (f x).Always (R x)) (xs : List β) : (each f xs).Always (Passes R xs) :=
  always_each .nil (fun x _ => always_mono (hbody x) fun _ _ hpass _ _ hrest => .cons hpass hrest) xs

end Script

end Faulty
