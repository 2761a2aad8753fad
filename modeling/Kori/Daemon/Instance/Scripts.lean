import Kori.Daemon.Instance.Kept
import Kori.Daemon.State.Access

/-! # Both kinds of process keep to the discipline -/

open Faulty Faulty.Discipline

namespace Kori

variable {Raw : Type} {toml : Toml Raw} {used : Paths → Prop} {process : UInt32} {paths : Paths} {host : Host}
variable {locks : List String} {listener : Option (String × Nat)}

/-- What the host has of a process: these locks, this listener, and the path that leads to it. -/
structure Host.Mine (used : Paths → Prop) (process : UInt32) (locks : List String)
    (listener : Option (String × Nat)) (host : Host) : Prop where
  held : ∀ lock ∈ locks, host.holder lock = some process
  listens : host.listener process = listener
  bound : ∀ path inode, listener = some (path, inode) → host.files path = some (.socket inode) ∧
    ∃ paths, used paths ∧ paths.socket = path ∧ host.holder paths.instanceLock = some process

namespace Host

theorem Mine.leaves {after : Host} (h : host.Mine used process locks listener) (hleaves : host.Leaves used process after) :
    after.Mine used process locks listener := by
  refine ⟨fun lock hmem => (hleaves.holder lock).mpr (h.held lock hmem), hleaves.listener.trans h.listens,
    fun path inode hlistener => ?_⟩
  obtain ⟨hfile, paths, hused, hsocket, hholder⟩ := h.bound path inode hlistener
  refine ⟨?_, paths, hused, hsocket, (hleaves.holder _).mpr hholder⟩
  rw [← hsocket, hleaves.socket paths hused hholder, hsocket]
  exact hfile

theorem Mine.mono {fewer : List String} (h : host.Mine used process locks listener) (hsub : fewer ⊆ locks) :
    host.Mine used process fewer listener :=
  ⟨fun lock hmem => h.held lock (hsub hmem), h.listens, h.bound⟩

theorem Mine.reaches {path : String} {inode : Nat} (h : host.Mine used process locks (some (path, inode))) :
    host.Reaches path process :=
  ⟨inode, path, (h.bound path inode rfl).1, h.listens⟩

theorem Mine.put (h : host.Mine used process locks listener) {path content : String}
    (hpath : ∀ paths, used paths → paths.socket ≠ path) :
    (host.put path (some (.lock content (some process)))).Mine used process (path :: locks) listener := by
  have hholder : ∀ lock, host.holder lock = some process ∨ lock = path →
      (host.put path (some (.lock content (some process)))).holder lock = some process := by
    intro lock hlock
    by_cases hsame : lock = path
    · rw [hsame, holder_put_lock]
    · rw [holder_put_ne hsame]
      exact hlock.resolve_right hsame
  refine ⟨fun lock hmem => ?_, h.listens, fun place inode hlistener => ?_⟩
  · rcases List.mem_cons.mp hmem with hsame | hmem
    · exact hholder lock (.inr hsame)
    · exact hholder lock (.inl (h.held lock hmem))
  · obtain ⟨hfile, paths, hused, hsocket, hheld⟩ := h.bound place inode hlistener
    refine ⟨?_, paths, hused, hsocket, hholder _ (.inl hheld)⟩
    rw [files_put_ne (hsocket ▸ hpath paths hused)]
    exact hfile

theorem Mine.held_put_none (h : host.Mine used process locks listener) {path : String} (hplain : host.holder path = none) :
    ∀ lock ∈ locks, (host.put path none).holder lock = some process := by
  intro lock hmem
  have hheld := h.held lock hmem
  rw [holder_put_ne fun hsame => ?_]
  · exact hheld
  · rw [hsame, hplain] at hheld
    cases hheld

theorem Mine.bind (h : host.Mine used process locks none) (hpaths : used paths) (hlock : paths.instanceLock ∈ locks)
    (hplain : host.holder paths.socket = none) :
    (host.bound process paths.socket).Mine used process locks (some (paths.socket, host.nextInode)) := by
  have hheld : ∀ lock ∈ locks, (host.bound process paths.socket).holder lock = some process := by
    intro lock hmem
    rw [holder_bound_ne fun hsame => ?_]
    · exact h.held lock hmem
    · have hheld := h.held lock hmem
      rw [hsame, hplain] at hheld
      cases hheld
  refine ⟨hheld, listener_listen_self, fun path inode hlistener => ?_⟩
  cases hlistener
  exact ⟨files_put_self, paths, hpaths, rfl, hheld _ hlock⟩

end Host

/-- A process keeps to the discipline from here on, and ends with `Q`. -/
abbrev Korid.Keeps {α : Type} (used : Paths → Prop) (process : UInt32) (script : Korid.Script Raw α)
    (Q : α → Host → Prop) (host : Host) : Prop :=
  (korid used).Keeps linux process script Q host

namespace Korid

variable (hcovered : Covered used)
include hcovered

/-! ## One call -/

theorem keeps_sys {call : Sys} {Q : call.Answer Raw → Host → Prop} (I : Host → Prop)
    (hstable : ∀ h h' : Host, I h → h.Leaves used process h' → I h') (hI : I host)
    (hcall : ∀ h : Host, I h → h.Kept used → call.May used process h ∧ ∀ luck : Luck Raw,
      Q (linux.serve process call luck h).1 (linux.serve process call luck h).2) :
    Keeps used process (sys call) Q host := by
  refine keeps_request I hstable hI fun h hI hkept => ?_
  obtain ⟨hmay, hQ⟩ := hcall h hI hkept
  refine ⟨hmay, fun luck => ?_⟩
  obtain ⟨hafter, hothers⟩ := linux_keeps hcovered hkept hmay luck
  exact ⟨hafter, hothers, hQ luck⟩

theorem keeps_quiet (call : Sys) (h : host.Mine used process locks listener)
    (hmay : ∀ host : Host, host.Mine used process locks listener → call.May used process host)
    (hquiet : ∀ (host : Host) (luck : Luck Raw), (linux.serve process call luck host).2 = host) :
    Keeps used process (sys call : Script Raw _) (fun _ host => host.Mine used process locks listener) host := by
  refine keeps_sys hcovered (Host.Mine used process locks listener) (fun _ _ h => h.leaves) h fun host h _ => ?_
  refine ⟨hmay host h, fun luck => ?_⟩
  rw [hquiet]
  exact h

theorem keeps_rewrite {path : String} {call : Sys} (hcall : call = .truncate path ∨ call = .writePid path)
    (hpath : ∀ paths, used paths → paths.socket ≠ path) (h : host.Mine used process locks listener) :
    Keeps used process (sys call : Script Raw _) (fun _ host => host.Mine used process locks listener) host := by
  refine keeps_sys hcovered (Host.Mine used process locks listener) (fun _ _ h => h.leaves) h fun host h _ => ?_
  rcases hcall with rfl | rfl
  · refine ⟨hpath, fun luck => ?_⟩
    unfold linux
    dsimp only
    split
    · exact h
    · exact (h.put hpath).mono (List.subset_cons_self _ _)
  · refine ⟨hpath, fun luck => ?_⟩
    unfold linux
    dsimp only
    split
    · exact h
    · exact (h.put hpath).mono (List.subset_cons_self _ _)

/-! ## Locks -/

omit hcovered in
theorem quiet_readLock (path : String) (host : Host) (luck : Luck Raw) :
    (linux.serve process (.readLock path) luck host).2 = host := by
  unfold linux
  dsimp only
  split <;> rfl

/-- The locks a process holds once it was answered. -/
def held (path : String) (locks : List String) : LockAnswer → List String
  | .taken => path :: locks
  | _ => locks

theorem keeps_lockExclusive {path : String} (hpath : ∀ paths, used paths → paths.socket ≠ path)
    (h : host.Mine used process locks listener) :
    Keeps used process (lockExclusive path : Script Raw _) (fun attempt host =>
      host.Mine used process (if attempt = .taken then path :: locks else locks) listener) host := by
  have hopen : Keeps used process (sys (.openLock path) : Script Raw _) (fun answer host =>
      host.Mine used process (held path locks answer) listener) host := by
    refine keeps_sys hcovered (Host.Mine used process locks listener) (fun _ _ h => h.leaves) h fun host h _ => ?_
    refine ⟨hpath, fun luck => ?_⟩
    unfold linux
    dsimp only
    split
    · exact h
    · exact h
    · exact h
    · exact h.put hpath
    · exact h.put hpath
  unfold lockExclusive
  refine keeps_step hopen fun answer host h => ?_
  cases answer with
  | unopened error => exact h
  | refused error =>
    exact keeps_step (keeps_quiet hcovered (.readLock path) h (fun _ _ => trivial) (quiet_readLock path)) fun _ _ h => h
  | taken =>
    refine keeps_step (keeps_rewrite hcovered (.inl rfl) hpath h) fun _ host h => ?_
    refine keeps_step (keeps_rewrite hcovered (.inr rfl) hpath h) fun _ host h => ?_
    exact h

/-- The locks whose attempts went well. -/
structure Secured (paths : Paths) (devices : List DeviceRecord) (attempts : List LockAttempt) (locks : List String) :
    Prop where
  length : attempts.length = devices.length
  taken : ∀ (i : Nat) (device : DeviceRecord), devices[i]? = some device →
    attempts[i]? = some LockAttempt.taken → paths.deviceLock device.id ∈ locks

theorem keeps_lockDevices (hpaths : used paths) (devices : List DeviceRecord)
    (h : host.Mine used process locks listener) :
    Keeps used process (lockDevices paths devices : Script Raw _) (fun attempts host =>
      ∃ more, host.Mine used process (more ++ locks) listener ∧ Secured paths devices attempts more) host := by
  have happart : ∀ device : DeviceId, ∀ a, used a → a.socket ≠ paths.deviceLock device :=
    fun device a ha => (hcovered.apart a paths ha hpaths).2 device
  induction devices generalizing host locks with
  | nil => exact ⟨[], h, rfl, fun i device hdevice => by simp at hdevice⟩
  | cons device rest ih =>
    unfold lockDevices
    refine keeps_step (keeps_lockExclusive hcovered (happart device.id) h) fun attempt host h => ?_
    refine keeps_step (ih h) fun attempts host h => ?_
    obtain ⟨more, hmine, hlength, hsecured⟩ := h
    refine ⟨more ++ (if attempt = .taken then [paths.deviceLock device.id] else []), ?_, ?_, ?_⟩
    · refine hmine.mono ?_
      intro lock hlock
      split at hlock
      · rename_i htaken
        rw [if_pos htaken]
        simpa using hlock
      · rename_i htaken
        rw [if_neg htaken]
        simpa using hlock
    · rw [List.length_cons, List.length_cons, hlength]
    · intro i found hdevice hattempt
      rw [List.mem_append]
      cases i with
      | zero =>
        rw [List.getElem?_cons_zero] at hdevice hattempt
        cases hdevice
        rw [if_pos (Option.some.inj hattempt)]
        exact .inr List.mem_cons_self
      | succ i =>
        rw [List.getElem?_cons_succ] at hdevice hattempt
        exact .inl (hsecured i found hdevice hattempt)

theorem keeps_unlock {path : String} (hpath : ∀ paths, used paths → paths.socket ≠ path)
    (h : host.Mine used process locks none) :
    Keeps used process (sys (.unlock path) : Script Raw _) (fun _ host =>
      host.Mine used process (locks.filter (· ≠ path)) none) host := by
  refine keeps_sys hcovered (Host.Mine used process locks none) (fun _ _ h => h.leaves) h fun host h _ => ?_
  refine ⟨⟨hpath, h.listens⟩, fun luck => ?_⟩
  unfold linux
  dsimp only
  split
  · refine ⟨fun lock hmem => ?_, h.listens, fun _ _ hnone => by cases hnone⟩
    obtain ⟨hmem, hne⟩ := List.mem_filter.mp hmem
    rw [Host.holder_put_ne (of_decide_eq_true hne)]
    exact h.held lock hmem
  · exact h.mono (List.filter_subset_self _)

/-! ## Serving -/

omit hcovered in
theorem reached_of_mem {before after : Outside Raw} {device : DeviceId} (h : device ∈ before.reached after) :
    before.Reached after device := by
  unfold Outside.reached at h
  rw [List.mem_append] at h
  rcases h with h | h
  · split at h
    · rename_i hlog
      rw [List.mem_singleton] at h
      exact .inl ⟨h, hlog.imp (fun hne hsame => hne (hsame ▸ rfl)) fun hne hsame => hne (hsame ▸ rfl)⟩
    · simp at h
  · split at h
    · rename_i hlog
      rw [List.mem_singleton] at h
      exact .inr ⟨h, fun hsame => hlog (hsame ▸ rfl)⟩
    · simp at h

theorem keeps_reachAll (devices : List DeviceId) (hheld : ∀ device ∈ devices, paths.deviceLock device ∈ locks)
    (h : host.Mine used process locks listener) :
    Keeps used process (reachAll paths devices : Script Raw _)
      (fun _ host => host.Mine used process locks listener) host := by
  induction devices generalizing host with
  | nil => exact h
  | cons device rest ih =>
    refine keeps_step (keeps_quiet hcovered (.reach paths.runtimeDir device) h ?_ fun _ _ => rfl) fun _ host h => ?_
    · exact fun host h => h.held _ (hheld device List.mem_cons_self)
    · exact ih (fun device hmem => hheld device (List.mem_cons_of_mem _ hmem)) h

/-- A machine that reaches no device whose lock its process does not hold. -/
structure Ready (paths : Paths) (locks : List String) (machine : Machine Raw) : Prop where
  settled : machine.Settled
  secured : ∀ device, machine.daemon.MayWrite device → paths.deviceLock device ∈ locks

omit hcovered in
theorem Ready.governed {before after : Machine Raw} (h : Ready paths locks before) (hgoverned : before.Governed after) :
    Ready paths locks after :=
  ⟨hgoverned.settled h.settled, fun device hmay => h.secured device (hgoverned.mayWrite.mp hmay)⟩

theorem keeps_serveOne (call : Machine.Call) (outside : Outside Raw) {machine : Machine Raw}
    (hready : Ready paths locks machine) (h : host.Mine used process locks listener) :
    Keeps used process (serveOne toml paths call outside machine)
      (fun after host => host.Mine used process locks listener ∧ Ready paths locks after) host := by
  have hmet : Ready paths locks (machine.meeting outside) := ⟨hready.settled, hready.secured⟩
  have hserve : (machine.meeting outside).Governed (Machine.serve toml call (machine.meeting outside)).2 :=
    Machine.governed_operations.serve call _
  unfold serveOne
  refine keeps_step (keeps_reachAll hcovered _ (fun device hmem => ?_) h) fun _ host h => ?_
  · exact hmet.secured device (hserve.mayWrite_of_reached hmet.settled (reached_of_mem hmem))
  · exact ⟨h, hmet.governed hserve⟩

theorem keeps_serveAll (occasions : List (Machine.Call × Outside Raw)) {machine : Machine Raw} {inode : Nat}
    (hready : Ready paths locks machine) (h : host.Mine used process locks (some (paths.socket, inode))) :
    Keeps used process (serveAll toml paths occasions machine) (fun after host =>
      host.Mine used process locks (some (paths.socket, inode)) ∧ Ready paths locks after) host := by
  induction occasions generalizing host machine with
  | nil => exact ⟨h, hready⟩
  | cons occasion rest ih =>
    obtain ⟨call, outside⟩ := occasion
    unfold serveAll
    refine keeps_step (keeps_quiet hcovered (.accept paths.socket) h (fun _ h => h.reaches) fun _ _ => rfl) fun _ host h => ?_
    refine keeps_step (keeps_serveOne hcovered call outside hready h) fun after host h => ?_
    exact ih h.2 h.1

theorem keeps_serveLate (late : List ((Surroundings × Request) × Outside Raw)) {machine : Machine Raw}
    (hready : Ready paths locks machine) (h : host.Mine used process locks none) :
    Keeps used process (serveLate toml paths late machine) (fun _ _ => True) host := by
  induction late generalizing host machine with
  | nil => trivial
  | cons occasion rest ih =>
    obtain ⟨⟨around, request⟩, outside⟩ := occasion
    unfold serveLate
    refine keeps_step (keeps_serveOne hcovered (.request around request) outside hready h) fun after host h => ?_
    exact ih h.2 h.1

end Korid

end Kori
