import Kori.Daemon.Instance

/-! # What every process of the user keeps -/

open Faulty

namespace Kori

variable {Raw : Type} {host : Host} {process other : UInt32} {path : String} {entry : Option Entry}

namespace Host

@[simp] theorem files_put_self : (host.put path entry).files path = entry := Function.update_self ..

theorem files_put_ne {place : String} (h : place ≠ path) : (host.put path entry).files place = host.files place :=
  Function.update_of_ne h ..

@[simp] theorem listener_put : (host.put path entry).listener = host.listener := rfl

@[simp] theorem files_listen {listener : Option (String × Nat)} :
    (host.listen process listener).files = host.files := rfl

@[simp] theorem listener_listen_self {listener : Option (String × Nat)} :
    (host.listen process listener).listener process = listener := Function.update_self ..

theorem listener_listen_ne {listener : Option (String × Nat)} (h : other ≠ process) :
    (host.listen process listener).listener other = host.listener other := Function.update_of_ne h ..

@[simp] theorem holder_put_lock {content : String} {holder : Option UInt32} :
    (host.put path (some (.lock content holder))).holder path = holder := by
  unfold Host.holder
  rw [files_put_self]

@[simp] theorem holder_put_none : (host.put path none).holder path = none := by
  unfold Host.holder
  rw [files_put_self]

theorem holder_put_ne {place : String} (h : place ≠ path) : (host.put path entry).holder place = host.holder place := by
  unfold Host.holder
  rw [files_put_ne h]

theorem holder_eq_some (h : host.holder path = some process) :
    ∃ content, host.files path = some (.lock content (some process)) := by
  unfold Host.holder at h
  split at h
  · rename_i content holder hfile
    exact ⟨content, h ▸ hfile⟩
  · cases h

end Host

/-! ## Which paths go together -/

/-- Whoever binds one socket takes one lock first, and no socket is bound where a lock file is. -/
structure Covered (used : Paths → Prop) : Prop where
  covers : ∀ a b, used a → used b → a.socket = b.socket → a.instanceLock = b.instanceLock
  apart : ∀ a b, used a → used b → a.socket ≠ b.instanceLock ∧ ∀ device, a.socket ≠ b.deviceLock device

variable (used : Paths → Prop)

/-! ## The discipline -/

/-- What the others leave to a process: its locks, its listener, and the path of a socket whose lock it
holds. -/
structure Host.Leaves (process : UInt32) (before after : Host) : Prop where
  holder : ∀ path, after.holder path = some process ↔ before.holder path = some process
  listener : after.listener process = before.listener process
  socket : ∀ paths, used paths → before.holder paths.instanceLock = some process →
    after.files paths.socket = before.files paths.socket

/-- What every process keeps of the files and the sockets. -/
structure Host.Kept (host : Host) : Prop where
  /-- Who listens at a path holds its lock, and the path leads to that listener or nowhere. -/
  bound : ∀ process path inode, host.listener process = some (path, inode) → inode < host.nextInode ∧
    (∃ paths, used paths ∧ paths.socket = path ∧ host.holder paths.instanceLock = some process) ∧
    (host.files path = some (.socket inode) ∨ host.files path = none)
  fresh : ∀ path inode, host.files path = some (.socket inode) → inode < host.nextInode
  alone : ∀ process other path path' inode, host.listener process = some (path, inode) →
    host.listener other = some (path', inode) → process = other
  own : ∀ process path bound inode, host.files path = some (.socket inode) →
    host.listener process = some (bound, inode) → path = bound
  plain : ∀ paths, used paths → host.holder paths.socket = none

/-- Where a process may make a call. -/
def Sys.May (process : UInt32) (call : Sys) (host : Host) : Prop :=
  match call with
  | .openLock path | .truncate path | .writePid path => ∀ paths, used paths → paths.socket ≠ path
  | .unlock path => (∀ paths, used paths → paths.socket ≠ path) ∧ host.listener process = none
  -- Nobody else listens where a file is removed.
  | .removeFile path => ∃ paths, used paths ∧ paths.socket = path ∧ host.holder paths.instanceLock = some process
  | .bind path => (∃ paths, used paths ∧ paths.socket = path ∧ host.holder paths.instanceLock = some process) ∧
    host.listener process = none ∧ host.files path = none
  -- Whoever connects to the path reaches the process.
  | .setPermissions path | .accept path => host.Reaches path process
  | .reach runtimeDir device => host.holder (deviceLock runtimeDir device) = some process
  | _ => True

def korid : Discipline UInt32 Sys Host where
  rely := Host.Leaves used
  preorder _ :=
    { refl := fun _ => ⟨fun _ => Iff.rfl, rfl, fun _ _ _ => rfl⟩
      trans := fun _ _ _ h h' => ⟨fun path => (h'.holder path).trans (h.holder path), h'.listener.trans h.listener,
        fun paths hused hholder =>
          (h'.socket paths hused ((h.holder _).mpr hholder)).trans (h.socket paths hused hholder)⟩ }
  Inv := Host.Kept used
  pre process call := Sys.May used process call
  Clear process host := (∀ path, host.holder path ≠ some process) ∧ host.listener process = none
  clear h hleaves := ⟨fun path hholder => h.1 path ((hleaves.holder path).mp hholder), hleaves.listener.trans h.2⟩

/-! ## What each change of the host keeps -/

variable {used}

namespace Host

theorem Leaves.refl (process : UInt32) (host : Host) : host.Leaves used process host :=
  ⟨fun _ => Iff.rfl, rfl, fun _ _ _ => rfl⟩

theorem kept_relock (hkept : host.Kept used) {content : String} {holder : Option UInt32}
    (hpath : ∀ paths, used paths → paths.socket ≠ path) (hfile : ∀ inode, host.files path ≠ some (.socket inode))
    (hbefore : host.holder path = none ∨ host.holder path = some process)
    (hafter : holder = some process ∨ holder = none ∧ host.listener process = none) :
    (host.put path (some (.lock content holder))).Kept used ∧
      ∀ other ≠ process, host.Leaves used other (host.put path (some (.lock content holder))) := by
  have hsocket : ∀ place inode, (host.put path (some (.lock content holder))).files place = some (.socket inode) ↔
      host.files place = some (.socket inode) := by
    intro place inode
    by_cases hplace : place = path
    · subst hplace
      rw [files_put_self]
      exact ⟨fun h => (by cases h), fun h => (hfile inode h).elim⟩
    · rw [files_put_ne hplace]
  refine ⟨⟨?_, ?_, hkept.alone, ?_, ?_⟩, ?_⟩
  · intro owner place inode hlistener
    obtain ⟨hinode, ⟨paths, hused, hplace, hholder⟩, hplaced⟩ := hkept.bound owner place inode hlistener
    refine ⟨hinode, ⟨paths, hused, hplace, ?_⟩, ?_⟩
    · by_cases hlock : paths.instanceLock = path
      · rw [hlock] at hholder ⊢
        rw [holder_put_lock]
        have howner : owner = process := by
          rcases hbefore with hnone | hsome
          · rw [hnone] at hholder
            cases hholder
          · rw [hsome] at hholder
            exact (Option.some.inj hholder).symm
        subst howner
        rcases hafter with hafter | ⟨-, hnone⟩
        · exact hafter
        · rw [listener_put, hnone] at hlistener
          cases hlistener
      · rw [holder_put_ne hlock]
        exact hholder
    · rw [files_put_ne (hplace ▸ hpath paths hused)]
      exact hplaced
  · intro place inode hplaced
    exact hkept.fresh place inode ((hsocket place inode).mp hplaced)
  · intro owner place bound inode hplaced
    exact hkept.own owner place bound inode ((hsocket place inode).mp hplaced)
  · intro paths hused
    rw [holder_put_ne (hpath paths hused)]
    exact hkept.plain paths hused
  · intro other hother
    refine ⟨fun place => ?_, rfl, fun paths hused _ => files_put_ne (hpath paths hused)⟩
    by_cases hplace : place = path
    · subst hplace
      rw [holder_put_lock]
      constructor
      · intro hholder
        rcases hafter with hafter | ⟨hafter, -⟩
        · rw [hafter] at hholder
          exact (hother (Option.some.inj hholder).symm).elim
        · rw [hafter] at hholder
          cases hholder
      · intro hholder
        rcases hbefore with hnone | hsome
        · rw [hnone] at hholder
          cases hholder
        · rw [hsome] at hholder
          exact (hother (Option.some.inj hholder).symm).elim
    · rw [holder_put_ne hplace]

theorem leaves_of_socket (hcovered : Covered used) (hkept : host.Kept used) {after : Host} {paths : Paths}
    (hused : used paths) (hholder : host.holder paths.instanceLock = some process)
    (hfiles : ∀ place ≠ paths.socket, after.files place = host.files place)
    (hplain : after.holder paths.socket = none)
    (hlistener : ∀ other ≠ process, after.listener other = host.listener other) :
    ∀ other ≠ process, host.Leaves used other after := by
  intro other hother
  have hsame : ∀ place ≠ paths.socket, after.holder place = host.holder place := by
    intro place hplace
    unfold Host.holder
    rw [hfiles place hplace]
  refine ⟨fun place => ?_, hlistener other hother, fun paths' hused' hholder' => hfiles _ fun hsocket => ?_⟩
  · by_cases hplace : place = paths.socket
    · rw [hplace, hplain, hkept.plain paths hused]
    · rw [hsame place hplace]
  · rw [hcovered.covers paths' paths hused' hused hsocket, hholder] at hholder'
    exact hother (Option.some.inj hholder').symm

theorem kept_remove (hcovered : Covered used) (hkept : host.Kept used) {paths : Paths} (hused : used paths)
    (hholder : host.holder paths.instanceLock = some process) :
    (host.put paths.socket none).Kept used ∧ ∀ other ≠ process, host.Leaves used other (host.put paths.socket none) := by
  have hsocket : ∀ place inode, (host.put paths.socket none).files place = some (.socket inode) →
      host.files place = some (.socket inode) := by
    intro place inode hplaced
    by_cases hplace : place = paths.socket
    · subst hplace
      rw [files_put_self] at hplaced
      cases hplaced
    · rwa [files_put_ne hplace] at hplaced
  refine ⟨⟨?_, ?_, hkept.alone, ?_, ?_⟩, ?_⟩
  · intro owner place inode hlistener
    obtain ⟨hinode, ⟨paths', hused', hplace, hholder'⟩, hplaced⟩ := hkept.bound owner place inode hlistener
    refine ⟨hinode, ⟨paths', hused', hplace, ?_⟩, ?_⟩
    · rw [holder_put_ne (hcovered.apart paths paths' hused hused').1.symm]
      exact hholder'
    · by_cases hsame : place = paths.socket
      · subst hsame
        exact .inr files_put_self
      · rw [files_put_ne hsame]
        exact hplaced
  · intro place inode hplaced
    exact hkept.fresh place inode (hsocket place inode hplaced)
  · intro owner place bound inode hplaced
    exact hkept.own owner place bound inode (hsocket place inode hplaced)
  · intro paths' hused'
    by_cases hsame : paths'.socket = paths.socket
    · rw [hsame, holder_put_none]
    · rw [holder_put_ne hsame]
      exact hkept.plain paths' hused'
  · exact leaves_of_socket hcovered hkept hused hholder (fun _ h => files_put_ne h) holder_put_none fun _ _ => rfl

/-- The host after a process bound a socket at a path. -/
def bound (host : Host) (process : UInt32) (path : String) : Host :=
  { (host.put path (some (.socket host.nextInode))).listen process (some (path, host.nextInode)) with
    nextInode := host.nextInode + 1 }

theorem holder_bound_ne {place : String} (h : place ≠ path) :
    (host.bound process path).holder place = host.holder place := holder_put_ne h

theorem holder_bound_self : (host.bound process path).holder path = none := by
  unfold Host.holder bound
  dsimp only
  rw [files_listen, files_put_self]

theorem kept_bind (hcovered : Covered used) (hkept : host.Kept used) {paths : Paths} (hused : used paths)
    (hholder : host.holder paths.instanceLock = some process) (hlistener : host.listener process = none) :
    (host.bound process paths.socket).Kept used ∧
      ∀ other ≠ process, host.Leaves used other (host.bound process paths.socket) := by
  have hfiles : ∀ place ≠ paths.socket, (host.bound process paths.socket).files place = host.files place :=
    fun _ h => files_put_ne h
  have hself : (host.bound process paths.socket).files paths.socket = some (.socket host.nextInode) :=
    files_put_self
  have hown : (host.bound process paths.socket).listener process = some (paths.socket, host.nextInode) :=
    listener_listen_self
  have hothers : ∀ other ≠ process, (host.bound process paths.socket).listener other = host.listener other :=
    fun _ h => listener_listen_ne h
  -- An inode that was there before is not the new one.
  have hold : ∀ owner place inode, host.listener owner = some (place, inode) → inode ≠ host.nextInode :=
    fun owner place inode h => Nat.ne_of_lt (hkept.bound owner place inode h).1
  refine ⟨⟨?_, ?_, ?_, ?_, ?_⟩, ?_⟩
  · intro owner place inode h
    by_cases howner : owner = process
    · subst howner
      rw [hown] at h
      cases h
      refine ⟨Nat.lt_succ_self _, ⟨paths, hused, rfl, ?_⟩, .inl hself⟩
      rw [holder_bound_ne (hcovered.apart paths paths hused hused).1.symm]
      exact hholder
    · rw [hothers owner howner] at h
      obtain ⟨hinode, ⟨paths', hused', hplace, hholder'⟩, hplaced⟩ := hkept.bound owner place inode h
      refine ⟨Nat.lt_succ_of_lt hinode, ⟨paths', hused', hplace, ?_⟩, ?_⟩
      · rw [holder_bound_ne (hcovered.apart paths paths' hused hused').1.symm]
        exact hholder'
      · rw [hfiles place fun hsame => ?_]
        · exact hplaced
        · rw [hcovered.covers paths' paths hused' hused (hplace.trans hsame), hholder] at hholder'
          exact howner (Option.some.inj hholder').symm
  · intro place inode hplaced
    by_cases hsame : place = paths.socket
    · subst hsame
      rw [hself] at hplaced
      cases hplaced
      exact Nat.lt_succ_self _
    · rw [hfiles place hsame] at hplaced
      exact Nat.lt_succ_of_lt (hkept.fresh place inode hplaced)
  · intro first second place place' inode hfirst hsecond
    by_cases h₁ : first = process
    · by_cases h₂ : second = process
      · exact h₁.trans h₂.symm
      · subst h₁
        rw [hown] at hfirst
        rw [hothers second h₂] at hsecond
        cases hfirst
        exact (hold second place' _ hsecond rfl).elim
    · rw [hothers first h₁] at hfirst
      by_cases h₂ : second = process
      · subst h₂
        rw [hown] at hsecond
        cases hsecond
        exact (hold first place _ hfirst rfl).elim
      · rw [hothers second h₂] at hsecond
        exact hkept.alone first second place place' inode hfirst hsecond
  · intro owner place bound inode hplaced h
    by_cases howner : owner = process
    · subst howner
      rw [hown] at h
      cases h
      by_cases hsame : place = paths.socket
      · exact hsame
      · rw [hfiles place hsame] at hplaced
        exact (Nat.lt_irrefl _ (hkept.fresh place _ hplaced)).elim
    · rw [hothers owner howner] at h
      by_cases hsame : place = paths.socket
      · subst hsame
        rw [hself] at hplaced
        cases hplaced
        exact (hold owner bound _ h rfl).elim
      · rw [hfiles place hsame] at hplaced
        exact hkept.own owner place bound inode hplaced h
  · intro paths' hused'
    by_cases hsame : paths'.socket = paths.socket
    · rw [hsame, holder_bound_self]
    · rw [holder_bound_ne hsame]
      exact hkept.plain paths' hused'
  · exact leaves_of_socket hcovered hkept hused hholder hfiles holder_bound_self hothers

theorem kept_close (hkept : host.Kept used) :
    (host.listen process none).Kept used ∧ ∀ other ≠ process, host.Leaves used other (host.listen process none) := by
  have hlistener : ∀ owner place inode, (host.listen process none).listener owner = some (place, inode) →
      host.listener owner = some (place, inode) := by
    intro owner place inode h
    by_cases howner : owner = process
    · subst howner
      rw [listener_listen_self] at h
      cases h
    · rwa [listener_listen_ne howner] at h
  refine ⟨⟨fun owner place inode h => hkept.bound owner place inode (hlistener owner place inode h), hkept.fresh,
    fun first second place place' inode h h' => ?_, fun owner place bound inode hplaced h => ?_, hkept.plain⟩,
    fun other hother => ⟨fun _ => Iff.rfl, listener_listen_ne hother, fun _ _ _ => rfl⟩⟩
  · exact hkept.alone first second place place' inode (hlistener first place inode h) (hlistener second place' inode h')
  · exact hkept.own owner place bound inode hplaced (hlistener owner bound inode h)

end Host

/-! ## Every call -/

/-- A call made where it may be keeps what every process keeps, and leaves the others what is theirs. -/
theorem linux_keeps (hcovered : Covered used) (hkept : host.Kept used) {call : Sys}
    (hmay : call.May used process host) (luck : Luck Raw) :
    (linux.serve process call luck host).2.Kept used ∧
      ∀ other ≠ process, host.Leaves used other (linux.serve process call luck host).2 := by
  have hsame : host.Kept used ∧ ∀ other ≠ process, host.Leaves used other host :=
    ⟨hkept, fun other _ => .refl other host⟩
  have hheld : ∀ {path}, host.holder path = some process → ∀ inode, host.files path ≠ some (.socket inode) := by
    intro path hholder inode hfile
    obtain ⟨content, hlock⟩ := Host.holder_eq_some hholder
    rw [hlock] at hfile
    cases hfile
  cases call with
  | openLock path =>
    unfold linux
    dsimp only
    split
    · exact hsame
    · exact hsame
    · exact hsame
    · rename_i content _ hfile
      refine Host.kept_relock hkept hmay (fun inode h => ?_) (.inl ?_) (.inl rfl)
      · rw [hfile] at h
        cases h
      · unfold Host.holder
        rw [hfile]
    · rename_i _ hfile
      refine Host.kept_relock hkept hmay (fun inode h => ?_) (.inl ?_) (.inl rfl)
      · rw [hfile] at h
        cases h
      · unfold Host.holder
        rw [hfile]
  | readLock path =>
    unfold linux
    dsimp only
    split <;> exact hsame
  | truncate path =>
    unfold linux
    dsimp only
    split
    · exact hsame
    · rename_i h
      have hholder := not_not.mp (not_or.mp h).2
      exact Host.kept_relock hkept hmay (hheld hholder) (.inr hholder) (.inl rfl)
  | writePid path =>
    unfold linux
    dsimp only
    split
    · exact hsame
    · rename_i h
      have hholder := not_not.mp (not_or.mp h).2
      exact Host.kept_relock hkept hmay (hheld hholder) (.inr hholder) (.inl rfl)
  | unlock path =>
    unfold linux
    dsimp only
    split
    · rename_i hholder
      obtain ⟨content, hlock⟩ := Host.holder_eq_some hholder
      rw [hlock, Host.release, if_pos rfl]
      exact Host.kept_relock hkept hmay.1 (hheld hholder) (.inr hholder) (.inr ⟨rfl, hmay.2⟩)
    · exact hsame
  | removeFile path =>
    obtain ⟨paths, hused, rfl, hholder⟩ := hmay
    unfold linux
    dsimp only
    split
    · exact hsame
    · exact hsame
    · exact Host.kept_remove hcovered hkept hused hholder
  | bind path =>
    obtain ⟨⟨paths, hused, rfl, hholder⟩, hlistener, -⟩ := hmay
    unfold linux
    dsimp only
    split
    · exact hsame
    · exact hsame
    · exact Host.kept_bind hcovered hkept hused hholder hlistener
  | setPermissions path => exact hsame
  | closeListener => exact Host.kept_close hkept
  | isRoot => exact hsame
  | ensure => exact hsame
  | discover => exact hsame
  | processes => exact hsame
  | awaken => exact hsame
  | installSignals => exact hsame
  | incoming => exact hsame
  | accept path => exact hsame
  | lateClients => exact hsame
  | reach runtimeDir device => exact hsame
  | connect => exact hsame

/-! ## The end of a process -/

namespace Host

theorem release_socket_iff {inode : Nat} : release process entry = some (.socket inode) ↔ entry = some (.socket inode) := by
  unfold release
  split
  · exact ⟨fun h => (by cases h), fun h => (by cases h)⟩
  · exact Iff.rfl

/-- The host after a process ended. -/
def left (host : Host) (process : UInt32) : Host :=
  { files := fun path => release process (host.files path)
    listener := Function.update host.listener process none
    nextInode := host.nextInode }

theorem holder_left (path : String) :
    (host.left process).holder path = if host.holder path = some process then none else host.holder path := by
  unfold Host.holder left release
  dsimp only
  split
  · rename_i content holder hrelease
    split at hrelease
    · cases hrelease
      rfl
    · rename_i hother
      rw [hrelease] at hother
      exact (hother _ _ rfl).elim
  · rename_i hrelease
    split
    · rename_i hfile
      rw [hfile] at hrelease
      exact (hrelease _ _ rfl).elim
    · rfl

theorem holder_left_other (hother : other ≠ process) :
    (host.left process).holder path = some other ↔ host.holder path = some other := by
  rw [holder_left]
  split
  · rename_i hholder
    rw [hholder]
    exact ⟨fun h => (by cases h), fun h => (hother (Option.some.inj h).symm).elim⟩
  · exact Iff.rfl

end Host

theorem linux_ends : (korid used).Ends
    (linux : Kernel UInt32 Sys (Sys.Answer Raw) (Luck Raw) Host) where
  inv process host hkept := by
    have hlistener : ∀ owner place inode, (host.left process).listener owner = some (place, inode) →
        owner ≠ process ∧ host.listener owner = some (place, inode) := by
      intro owner place inode h
      unfold Host.left at h
      dsimp only at h
      by_cases howner : owner = process
      · subst howner
        rw [Function.update_self] at h
        cases h
      · rw [Function.update_of_ne howner] at h
        exact ⟨howner, h⟩
    refine (⟨?_, ?_, ?_, ?_, ?_⟩ : (host.left process).Kept used)
    · intro owner place inode h
      obtain ⟨howner, h⟩ := hlistener owner place inode h
      obtain ⟨hinode, ⟨paths, hused, hplace, hholder⟩, hplaced⟩ := hkept.bound owner place inode h
      refine ⟨hinode, ⟨paths, hused, hplace, (Host.holder_left_other howner).mpr hholder⟩, ?_⟩
      rcases hplaced with hplaced | hplaced
      · exact .inl (Host.release_socket_iff.mpr hplaced)
      · refine .inr ?_
        unfold Host.left
        dsimp only
        rw [hplaced, Host.release]
        intro content holder h
        cases h
    · exact fun place inode hplaced => hkept.fresh place inode (Host.release_socket_iff.mp hplaced)
    · intro first second place place' inode h h'
      exact hkept.alone first second place place' inode (hlistener _ _ _ h).2 (hlistener _ _ _ h').2
    · intro owner place bound inode hplaced h
      exact hkept.own owner place bound inode (Host.release_socket_iff.mp hplaced) (hlistener _ _ _ h).2
    · intro paths hused
      rw [Host.holder_left, hkept.plain paths hused]
      split <;> rfl
  others process host hkept other hother := by
    refine (⟨fun path => Host.holder_left_other hother, Function.update_of_ne hother .., fun paths hused hholder => ?_⟩ :
      host.Leaves used other (host.left process))
    have hplain := hkept.plain paths hused
    unfold Host.left
    dsimp only
    unfold Host.holder at hplain
    unfold Host.release
    split
    · rename_i content holder hfile
      rw [hfile] at hplain ⊢
      dsimp only at hplain
      rw [hplain]
      rfl
    · rfl
  clear process host := by
    refine ⟨fun path => ?_, Function.update_self ..⟩
    change (host.left process).holder path ≠ some process
    rw [Host.holder_left]
    split
    · exact fun h => by cases h
    · assumption

end Kori
