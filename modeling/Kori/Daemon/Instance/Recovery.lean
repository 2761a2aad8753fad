import Kori.Daemon.Instance.Runs

/-! # The next start after any run, and after any crash -/

open Faulty Faulty.Script

namespace Kori

variable {Raw : Type} {toml : Toml Raw} {used : Paths → Prop} {process : UInt32} {paths : Paths} {host : Host}
variable {locks : List String} {listener : Option (String × Nat)}

/-- Nothing fails, the process is not root, and something comes in. -/
structure Luck.Fortunate (luck : Luck Raw) : Prop where
  fault : luck.fault = none
  isRoot : luck.heard .isRoot = false
  ensure : luck.heard .ensure = .ok ()
  installSignals : luck.heard .installSignals = .ok ()
  incoming : luck.heard .incoming ≠ []

namespace Korid

/-- A script alone, with every call going well. -/
abbrev Alone {α : Type} (process : UInt32) (script : Script Raw α) (Q : α → Host → Prop) (host : Host) : Prop :=
  script.Ends linux process Luck.Fortunate Q host

/-- The accept loop, reached by whoever connects. -/
def Serving (process : UInt32) (paths : Paths) (call : Sys) (host : Host) : Prop :=
  call = .accept paths.socket ∧ host.Reaches paths.socket process

theorem alone_quiet (call : Sys) (good : call.Answer Raw → Prop)
    (hgood : ∀ luck : Luck Raw, luck.Fortunate → good (linux.serve process call luck host).1)
    (hquiet : ∀ luck : Luck Raw, (linux.serve process call luck host).2 = host) :
    Alone process (sys call) (fun answer after => good answer ∧ host = after) host :=
  fun luck hluck => ⟨hgood luck hluck, (hquiet luck).symm⟩

theorem alone_lockExclusive {path : String} (hfree : host.holder path = none)
    (hfile : ∀ inode, host.files path ≠ some (.socket inode)) :
    Alone process (lockExclusive path : Script Raw _) (fun attempt _ => attempt = .taken) host := by
  unfold lockExclusive
  refine ends_bind fun luck hluck => ?_
  have htaken : (linux.serve process (.openLock path) luck host).1 = .taken := by
    unfold linux
    dsimp only
    rw [hluck.fault]
    cases hentry : host.files path with
    | none => rfl
    | some entry =>
      cases entry with
      | socket inode => exact (hfile inode hentry).elim
      | lock content holder =>
        unfold Host.holder at hfree
        rw [hentry] at hfree
        dsimp only at hfree
        rw [hfree]
  rw [htaken]
  exact fun _ _ _ _ => rfl

theorem alone_removeFile {path : String} : Alone process (sys (.removeFile path) : Script Raw _) (fun answer host =>
    (∀ error, answer ≠ .error (.other error)) ∧ host.files path = none) host := by
  intro luck hluck
  unfold linux
  dsimp only
  rw [hluck.fault]
  cases hentry : host.files path with
  | none => exact ⟨fun error h => (by cases h), hentry⟩
  | some entry => exact ⟨fun error h => (by cases h), Host.files_put_self⟩

theorem alone_bind {path : String} (hfile : host.files path = none) :
    Alone process (sys (.bind path) : Script Raw _) (fun answer _ => answer = .ok ()) host := by
  intro luck hluck
  unfold linux
  dsimp only
  rw [hluck.fault, hfile]
  rfl

theorem alone_bindSocket {path : String} :
    Alone process (bindSocket path : Script Raw _) (fun answer _ => answer = .ok ()) host := by
  unfold bindSocket
  refine ends_bind (ends_mono alone_removeFile fun answer host h => ?_)
  obtain ⟨hanswer, hfile⟩ := h
  split
  · exact (hanswer _ rfl).elim
  · refine ends_bind (ends_mono (alone_bind hfile) fun answer host h => ?_)
    rw [h]
    intro luck hluck
    unfold linux
    dsimp only
    rw [hluck.fault]
    rfl

theorem visits_serve (hcovered : Covered used) (hpaths : used paths) (hkept : host.Kept used)
    (hclear : (∀ path, host.holder path ≠ some process) ∧ host.listener process = none)
    (hfree : host.holder paths.instanceLock = none)
    (hfile : ∀ inode, host.files paths.instanceLock ≠ some (.socket inode)) :
    (serve toml paths process).Visits linux process Luck.Fortunate (Serving process paths) host := by
  have h : host.Mine used process [] none := ⟨fun lock hmem => by simp at hmem, hclear.2, fun _ _ h => by cases h⟩
  unfold serve
  refine visits_bind (alone_quiet .isRoot (fun root => root = false) (fun _ h => h.isRoot) fun _ => rfl) ?_
  rintro root host ⟨rfl, rfl⟩
  rw [if_neg Bool.false_ne_true]
  refine visits_bind (alone_quiet .ensure (fun made => made = .ok ()) (fun _ h => h.ensure) fun _ => rfl) ?_
  rintro made host ⟨rfl, rfl⟩
  dsimp only
  refine visits_bind (ends_and (alone_lockExclusive hfree hfile)
    (ends_of_keeps (keeps_lockExclusive hcovered (fun a ha => (hcovered.apart a paths ha hpaths).1) h) hkept)) ?_
  rintro attempt host ⟨rfl, h, hkept⟩
  rw [if_pos rfl] at h
  dsimp only [acquireInstance]
  refine visits_bind (ends_and alone_bindSocket
    (ends_of_keeps (keeps_bindSocket hcovered hpaths List.mem_cons_self h) hkept)) ?_
  rintro bound host ⟨rfl, h, hkept⟩
  obtain ⟨inode, h⟩ := h rfl
  dsimp only
  refine visits_bind (alone_quiet .ensure (fun made => made = .ok ()) (fun _ h => h.ensure) fun _ => rfl) ?_
  rintro made host ⟨rfl, rfl⟩
  dsimp only
  refine visits_bind (ends_of_keeps (keeps_startDaemon hcovered hpaths h) hkept) ?_
  rintro started host ⟨⟨more, h, -⟩, -⟩
  refine visits_bind (alone_quiet .installSignals (fun installed => installed = .ok ())
    (fun _ h => h.installSignals) fun _ => rfl) ?_
  rintro installed host ⟨rfl, rfl⟩
  dsimp only
  unfold runServer
  refine visits_bind (alone_quiet .incoming (fun occasions => occasions ≠ []) (fun _ h => h.incoming) fun _ => rfl) ?_
  rintro occasions host ⟨hincoming, rfl⟩
  cases occasions with
  | nil => exact (hincoming rfl).elim
  | cons occasion rest => exact visits_first _ (.inl ⟨rfl, h.reaches⟩)

end Korid

/-- After any run, with whoever killed wherever: once nobody holds the instance lock, a daemon that is
started and meets no fault comes to accept, and whoever connects to its socket reaches it, whatever was
left behind at that path. -/
theorem next_start_serves (toml : Toml Raw) (used : Paths → Prop) (hcovered : Covered used) (host : Host)
    (hfresh : host.Fresh) (moves : List (SessionMove Raw)) (hstarts : Starts toml used moves) (paths : Paths)
    (hpaths : used paths) (process : UInt32) :
    let all := (booted host).moves linux moves
    let started := all.move linux (.start process (Korid.serve toml paths process))
    all.running process = none → all.host.holder paths.instanceLock = none →
    (∀ inode, all.host.files paths.instanceLock ≠ some (.socket inode)) →
    ∀ lucks : Nat → Luck Raw, (∀ n, (lucks n).Fortunate) → ∃ n next,
      let after := started.moves linux ((List.range n).map fun i => .call process (lucks i))
      after.running process = some (.call (.accept paths.socket) next) ∧
        after.host.Reaches paths.socket process := by
  intro all started hnone hfree hfile lucks hlucks
  have hholds : (korid used).Holds linux all := session_holds hcovered hfresh hstarts
  have hstarted : started =
      { all with running := Function.update all.running process (some (Korid.serve toml paths process)) } := by
    change all.move linux (.start process (Korid.serve toml paths process)) = _
    unfold Processes.move
    dsimp only
    rw [hnone]
    rfl
  have hrunning : started.running process = some (Korid.serve toml paths process) := by
    rw [hstarted]
    exact Function.update_self ..
  have hvisits : (Korid.serve toml paths process).Visits linux process Luck.Fortunate
      (Korid.Serving process paths) started.host := by
    rw [hstarted]
    exact Korid.visits_serve hcovered hpaths hholds.1 (hholds.clear hnone) hfree hfile
  obtain ⟨n, call, next, hafter, rfl, hreaches⟩ := visits_moves hrunning hvisits lucks hlucks
  exact ⟨n, next, hafter, hreaches⟩

/-- A call that goes well on a machine where the clock ticks. -/
def tickingLuck : Luck ConfigDocument where
  fault := none
  heard
    | .incoming => [(.tick (benchSurroundings true true), benchOutside (fun _ => false) fun _ => false)]
    | other => benchLuck.heard other

theorem fortunate_tickingLuck : tickingLuck.Fortunate :=
  ⟨rfl, rfl, rfl, rfl, List.cons_ne_nil _ _⟩

/-- A daemon is killed where it would bind; the next one serves. -/
theorem start_after_kill :
    let started := ((booted staleHost).moves linux (benchMoves ++ [.stop 7])).move linux
      (.start 9 (Korid.serve plainToml benchPaths 9))
    ∃ n next, let after := started.moves linux ((List.range n).map fun _ => .call 9 tickingLuck)
      after.running 9 = some (.call (.accept benchPaths.socket) next) ∧
        after.host.Reaches benchPaths.socket 9 := by
  refine next_start_serves plainToml Paths.Beside covered_beside staleHost fresh_staleHost (benchMoves ++ [.stop 7])
    (fun process script hmem => starts_benchMoves process script ?_) benchPaths (Paths.beside_new ..) 9 rfl rfl
    (fun inode h => ?_) (fun _ => tickingLuck) fun _ => fortunate_tickingLuck
  · simpa using hmem
  · cases h

end Kori
