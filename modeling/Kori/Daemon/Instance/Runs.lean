import Kori.Daemon.Instance.Scripts

/-! # Any number of daemons and write probes, in any order, killed anywhere -/

open Faulty Faulty.Discipline

namespace Kori

variable {Raw : Type} {toml : Toml Raw} {used : Paths → Prop} {process : UInt32} {paths : Paths} {host : Host}
variable {locks : List String} {listener : Option (String × Nat)}

/-! ## The names of the locks -/

theorem DeviceId.length_display (device : DeviceId) : device.display.length = 9 := by
  have hcolon : ":".length = 1 := rfl
  unfold display hex4
  simp [String.length_append, hcolon]

theorem Paths.deviceLock_ne_instanceLock (paths : Paths) (device : DeviceId) :
    paths.deviceLock device ≠ paths.instanceLock := by
  intro h
  have hlength : (paths.runtimeDir ++ "/" ++ device.display ++ ".lock").length =
      (paths.runtimeDir ++ "/kori.lock").length := congrArg String.length h
  have hslash : "/".length = 1 := rfl
  have hlock : ".lock".length = 5 := rfl
  have hkori : "/kori.lock".length = 10 := rfl
  simp only [String.length_append, device.length_display, hslash, hlock, hkori] at hlength
  omega

/-! ## The start -/

theorem taken_of_no_conflict {runtimeDir : String} {ownPid : UInt32} {proc : Option ProcessTable}
    {capabilities : CapabilityRecord} {sites : Nat → Site}
    (h : (takeOwnership runtimeDir ownPid proc capabilities sites).2.1 = []) {i : Nat} {device : DeviceRecord}
    (hdevice : capabilities.supported[i]? = some device) : (sites i).attempt = .taken := by
  unfold takeOwnership at h
  have hrefused := (List.append_eq_nil_iff.mp h).1
  rw [List.filterMap_eq_nil_iff] at hrefused
  have hmem : (device.id, acquire runtimeDir device.id (sites i).attempt) ∈ attempts runtimeDir capabilities sites :=
    List.mem_map.mpr ⟨(device, i), List.mk_mem_zipIdx_iff_getElem?.mpr hdevice, rfl⟩
  have hattempt := hrefused _ hmem
  dsimp only at hattempt
  cases hsite : (sites i).attempt with
  | taken => rfl
  | unopened error =>
    rw [hsite] at hattempt
    cases hattempt
  | refused error content =>
    rw [hsite] at hattempt
    cases hattempt

namespace Korid

variable (hcovered : Covered used)
include hcovered

theorem keeps_startDaemon (hpaths : used paths) (h : host.Mine used process locks listener) :
    Keeps used process (startDaemon toml paths process) (fun r host => ∃ more,
      host.Mine used process (more ++ locks) listener ∧ Ready paths more r.1) host := by
  unfold startDaemon
  refine keeps_step (keeps_quiet hcovered .discover h (fun _ _ => trivial) fun _ _ => rfl) fun found host h => ?_
  refine keeps_step (keeps_lockDevices hcovered hpaths found.capabilities.supported h) fun attempts host h => ?_
  obtain ⟨more, h, hsecured⟩ := h
  refine keeps_step (keeps_quiet hcovered .processes h (fun _ _ => trivial) fun _ _ => rfl) fun proc host h => ?_
  dsimp only
  refine keeps_step (keeps_quiet hcovered .awaken h (fun _ _ => trivial) fun _ _ => rfl) fun met host h => ?_
  obtain ⟨around, outside⟩ := met
  dsimp only
  generalize hsites : (fun i => Site.mk (attempts.getD i (.unopened "")) (found.hidNodes i)) = sites
  generalize hfound : Found.mk found.capabilities _ _ _ _ = started
  obtain ⟨woken, hgoverned, hcapabilities, hconflicts, hdisplay, hreaches⟩ :=
    Machine.start_governed toml paths.configFile around started outside
  have hready : Ready paths more woken := by
    refine ⟨.inr ?_, fun device hmay => ?_⟩
    · rw [hdisplay, ← hfound]
      exact found.idle
    · obtain ⟨hnone, -, record, hrecord, rfl⟩ := Daemon.mayWrite_spec hmay
      rw [hconflicts, ← hfound] at hnone
      rw [hcapabilities, ← hfound] at hrecord
      obtain ⟨i, hi⟩ := List.mem_iff_getElem?.mp hrecord
      refine hsecured.taken i record hi ?_
      have htaken := taken_of_no_conflict hnone hi
      rw [← hsites] at htaken
      dsimp only at htaken
      have hlt : i < attempts.length := by
        rw [hsecured.length]
        exact (List.getElem?_eq_some_iff.mp hi).1
      rw [List.getD_eq_getElem?_getD, List.getElem?_eq_getElem hlt, Option.getD_some] at htaken
      rw [List.getElem?_eq_getElem hlt, htaken]
  refine keeps_step (keeps_reachAll hcovered _ (fun device hmem => ?_) h) fun _ host h => ?_
  · exact List.mem_append_left _ (hready.secured device
      (hgoverned.mayWrite_of_reached hready.settled (hreaches _ _ (reached_of_mem hmem))))
  · exact ⟨more, h, hready.governed hgoverned⟩

theorem keeps_bindSocket (hpaths : used paths) (hlock : paths.instanceLock ∈ locks)
    (h : host.Mine used process locks none) :
    Keeps used process (bindSocket paths.socket : Script Raw _) (fun answer host =>
      answer = .ok () → ∃ inode, host.Mine used process locks (some (paths.socket, inode))) host := by
  have hremove : Keeps used process (sys (.removeFile paths.socket) : Script Raw _) (fun answer host =>
      (∃ error, answer = .error (.other error)) ∨
        host.Mine used process locks none ∧ host.files paths.socket = none) host := by
    refine keeps_sys hcovered (Host.Mine used process locks none) (fun _ _ h => h.leaves) h
      fun host h hkept => ⟨⟨paths, hpaths, rfl, h.held _ hlock⟩, fun luck => ?_⟩
    unfold linux
    dsimp only
    split
    · exact .inl ⟨_, rfl⟩
    · rename_i hfile
      exact .inr ⟨h, hfile⟩
    · exact .inr ⟨⟨h.held_put_none (hkept.plain paths hpaths), h.listens, fun _ _ hnone => by cases hnone⟩,
        Host.files_put_self⟩
  have hbind : ∀ host : Host, host.Mine used process locks none ∧ host.files paths.socket = none →
      Keeps used process (sys (.bind paths.socket) : Script Raw _) (fun answer host =>
        answer = .ok () → ∃ inode, host.Mine used process locks (some (paths.socket, inode))) host := by
    intro host h
    refine keeps_sys hcovered (fun host : Host => host.Mine used process locks none ∧ host.files paths.socket = none)
      (fun before after h hleaves => ⟨h.1.leaves hleaves, ?_⟩) h fun host h hkept => ?_
    · rw [hleaves.socket paths hpaths (h.1.held _ hlock)]
      exact h.2
    · obtain ⟨h, hfile⟩ := h
      refine ⟨⟨⟨paths, hpaths, rfl, h.held _ hlock⟩, h.listens, hfile⟩, fun luck => ?_⟩
      unfold linux
      dsimp only
      split
      · exact fun herror => by cases herror
      · exact fun herror => by cases herror
      · exact fun _ => ⟨host.nextInode, h.bind hpaths hlock (hkept.plain paths hpaths)⟩
  unfold bindSocket
  refine keeps_step hremove fun answer host h => ?_
  split
  · exact fun herror => by cases herror
  · rename_i hremoved
    refine keeps_step (hbind host (h.resolve_left fun ⟨error, herror⟩ => hremoved error herror)) fun answer host h => ?_
    split
    · exact fun herror => by cases herror
    · obtain ⟨inode, h⟩ := h rfl
      refine keeps_mono (keeps_quiet hcovered (.setPermissions paths.socket) h (fun _ h => h.reaches)
        fun _ _ => rfl) fun _ host h _ => ⟨inode, h⟩

theorem keeps_removeOwn {inode : Nat} (hpaths : used paths) (hlock : paths.instanceLock ∈ locks)
    (h : host.Mine used process locks (some (paths.socket, inode))) :
    Keeps used process (sys (.removeFile paths.socket) : Script Raw _)
      (fun _ host => ∀ lock ∈ locks, host.holder lock = some process) host := by
  refine keeps_sys hcovered (Host.Mine used process locks (some (paths.socket, inode))) (fun _ _ h => h.leaves) h
    fun host h hkept => ⟨⟨paths, hpaths, rfl, h.held _ hlock⟩, fun luck => ?_⟩
  unfold linux
  dsimp only
  split
  · exact h.held
  · exact h.held
  · exact h.held_put_none (hkept.plain paths hpaths)

theorem keeps_closeListener (h : ∀ lock ∈ locks, host.holder lock = some process) :
    Keeps used process (sys .closeListener : Script Raw _) (fun _ host => host.Mine used process locks none) host := by
  refine keeps_sys hcovered (fun host => ∀ lock ∈ locks, host.holder lock = some process)
    (fun _ _ h hleaves lock hmem => (hleaves.holder lock).mpr (h lock hmem)) h fun host h _ => ⟨trivial, fun luck => ?_⟩
  exact ⟨h, Host.listener_listen_self, fun _ _ hnone => by cases hnone⟩

theorem keeps_unlockAll (hpaths : used paths) (devices : List DeviceId) (h : host.Mine used process [] none) :
    Keeps used process (unlockAll paths devices : Script Raw _)
      (fun _ host => host.Mine used process [] none) host := by
  induction devices generalizing host with
  | nil => exact h
  | cons device rest ih =>
    refine keeps_step (keeps_unlock hcovered (fun a ha => (hcovered.apart a paths ha hpaths).2 device) h) fun _ host h => ?_
    exact ih h

theorem keeps_runServer {inode : Nat} {machine : Machine Raw} {more : List String} (hpaths : used paths)
    (held : List DeviceId) (hready : Ready paths more machine)
    (h : host.Mine used process (more ++ [paths.instanceLock]) (some (paths.socket, inode))) :
    Keeps used process (runServer toml paths machine held) (fun _ _ => True) host := by
  have hapart : ∀ a, used a → a.socket ≠ paths.instanceLock := fun a ha => (hcovered.apart a paths ha hpaths).1
  have hall : Ready paths (more ++ [paths.instanceLock]) machine :=
    ⟨hready.settled, fun device hmay => List.mem_append_left _ (hready.secured device hmay)⟩
  unfold runServer
  refine keeps_step (keeps_quiet hcovered .incoming h (fun _ _ => trivial) fun _ _ => rfl) fun occasions host h => ?_
  refine keeps_step (keeps_serveAll hcovered occasions hall h) fun machine host h => ?_
  refine keeps_step (keeps_removeOwn hcovered hpaths (by simp) h.1) fun _ host hheld => ?_
  have hready := h.2
  refine keeps_step (keeps_closeListener hcovered hheld) fun _ host h => ?_
  refine keeps_step (keeps_quiet hcovered .lateClients h (fun _ _ => trivial) fun _ _ => rfl) fun late host h => ?_
  cases late with
  | none =>
    refine keeps_step (keeps_unlockAll hcovered hpaths held (h.mono (List.nil_subset _))) fun _ host h => ?_
    exact keeps_step (keeps_unlock hcovered hapart h) fun _ _ _ => trivial
  | some late =>
    refine keeps_step (keeps_unlock hcovered hapart h) fun _ host h => ?_
    refine keeps_step (keeps_serveLate hcovered late ⟨hready.settled, fun device hmay => ?_⟩ h) fun _ _ _ => trivial
    exact List.mem_filter.mpr ⟨hready.secured device hmay,
      decide_eq_true (paths.deviceLock_ne_instanceLock device)⟩

/-! ## Both kinds of process -/

theorem sound_serve (hpaths : used paths) : (korid used).Sound linux process (serve toml paths process) := by
  intro host _ hclear
  have h : host.Mine used process [] none := ⟨fun lock hmem => by simp at hmem, hclear.2, fun _ _ h => by cases h⟩
  unfold serve
  refine keeps_step (keeps_quiet hcovered .isRoot h (fun _ _ => trivial) fun _ _ => rfl) fun root host h => ?_
  split
  · trivial
  refine keeps_step (keeps_quiet hcovered .ensure h (fun _ _ => trivial) fun _ _ => rfl) fun made host h => ?_
  split
  · trivial
  refine keeps_step (keeps_lockExclusive hcovered (fun a ha => (hcovered.apart a paths ha hpaths).1) h)
    fun attempt host h => ?_
  split
  · trivial
  rename_i hacquired
  have htaken : attempt = .taken := by
    cases attempt with
    | taken => rfl
    | unopened error => cases hacquired
    | refused error content => cases hacquired
  rw [if_pos htaken] at h
  refine keeps_step (keeps_bindSocket hcovered hpaths List.mem_cons_self h) fun bound host h => ?_
  split
  · trivial
  obtain ⟨inode, h⟩ := h rfl
  refine keeps_step (keeps_quiet hcovered .ensure h (fun _ _ => trivial) fun _ _ => rfl) fun made host h => ?_
  split
  · trivial
  refine keeps_step (keeps_startDaemon hcovered hpaths h) fun started host h => ?_
  obtain ⟨more, h, hready⟩ := h
  refine keeps_step (keeps_quiet hcovered .installSignals h (fun _ _ => trivial) fun _ _ => rfl) fun installed host h => ?_
  split
  · trivial
  exact keeps_runServer hcovered hpaths started.2 hready h

theorem sound_underDeviceLock (hpaths : used paths) (device : DeviceId) :
    (korid used).Sound linux process (underDeviceLock paths device : Script Raw _) := by
  intro host _ hclear
  have hlock : ∀ a, used a → a.socket ≠ paths.deviceLock device :=
    fun a ha => (hcovered.apart a paths ha hpaths).2 device
  have h : host.Mine used process [] none := ⟨fun lock hmem => by simp at hmem, hclear.2, fun _ _ h => by cases h⟩
  unfold underDeviceLock
  refine keeps_step (keeps_quiet hcovered .isRoot h (fun _ _ => trivial) fun _ _ => rfl) fun root host h => ?_
  split
  · trivial
  refine keeps_step (keeps_quiet hcovered .discover h (fun _ _ => trivial) fun _ _ => rfl) fun found host h => ?_
  split
  · trivial
  refine keeps_step (keeps_quiet hcovered .ensure h (fun _ _ => trivial) fun _ _ => rfl) fun made host h => ?_
  split
  · trivial
  refine keeps_step (keeps_lockExclusive hcovered hlock h) fun attempt host h => ?_
  split
  · trivial
  rename_i hacquired
  have htaken : attempt = .taken := by
    cases attempt with
    | taken => rfl
    | unopened error => cases hacquired
    | refused error content => cases hacquired
  rw [if_pos htaken] at h
  refine keeps_step (keeps_quiet hcovered .connect h (fun _ _ => trivial) fun _ _ => rfl) fun connected host h => ?_
  split
  · trivial
  refine keeps_step (keeps_reachAll hcovered _ (fun found hmem => ?_) h) fun _ host h => ?_
  · rw [List.eq_of_mem_replicate hmem]
    exact List.mem_cons_self
  · exact keeps_step (keeps_unlock hcovered hlock h) fun _ _ _ => trivial

end Korid

/-! ## Every run -/

abbrev Computer (Raw : Type) := Processes UInt32 Sys (Sys.Answer Raw) Host (Except String Unit)

abbrev SessionMove (Raw : Type) := Move UInt32 Sys (Sys.Answer Raw) (Luck Raw) (Except String Unit)

/-- A machine just booted: whatever files are there, nobody holds a lock or listens. -/
structure Host.Fresh (host : Host) : Prop where
  unheld : ∀ path process, host.holder path ≠ some process
  silent : ∀ process, host.listener process = none
  inodes : ∀ path inode, host.files path = some (.socket inode) → inode < host.nextInode

/-- Nothing is started but daemons and write probes, each with paths in use. -/
def Starts (toml : Toml Raw) (used : Paths → Prop) (moves : List (SessionMove Raw)) : Prop :=
  ∀ process script, .start process script ∈ moves → ∃ paths, used paths ∧
    (script = Korid.serve toml paths process ∨ ∃ device, script = Korid.underDeviceLock paths device)

def booted (host : Host) : Computer Raw := { running := fun _ => none, host }

theorem session_holds (hcovered : Covered used) (hfresh : host.Fresh) {moves : List (SessionMove Raw)}
    (hstarts : Starts toml used moves) : (korid used).Holds linux ((booted host).moves linux moves) := by
  have hbooted : (korid used).Holds linux (booted host : Computer Raw) := by
    refine ⟨⟨fun process path inode h => ?_, hfresh.inodes, fun process other path path' inode h => ?_,
      fun process path bound inode _ h => ?_, fun paths _ => ?_⟩, fun process => ⟨?_, hfresh.silent process⟩⟩
    · rw [booted, hfresh.silent] at h
      cases h
    · rw [booted, hfresh.silent] at h
      cases h
    · rw [booted, hfresh.silent] at h
      cases h
    · exact Option.eq_none_iff_forall_ne_some.mpr (hfresh.unheld _)
    · exact fun path => hfresh.unheld path process
  refine holds_moves linux_ends hbooted moves fun process script hmem => ?_
  obtain ⟨paths, hpaths, rfl | ⟨device, rfl⟩⟩ := hstarts process script hmem
  · exact Korid.sound_serve hcovered hpaths
  · exact Korid.sound_underDeviceLock hcovered hpaths device

theorem Host.Kept.holder_of_listener (hcovered : Covered used) (hkept : host.Kept used) (hpaths : used paths) {inode : Nat}
    (h : host.listener process = some (paths.socket, inode)) : host.holder paths.instanceLock = some process := by
  obtain ⟨-, ⟨paths', hused, hsocket, hholder⟩, -⟩ := hkept.bound _ _ _ h
  rwa [hcovered.covers paths' paths hused hpaths hsocket] at hholder

/-! ## Paths from the environment -/

/-- The socket is beside the locks, as it is unless the environment puts it elsewhere. -/
def Paths.Beside (paths : Paths) : Prop := paths.socket = s!"{paths.runtimeDir}/{SOCKET_FILE_NAME}"

theorem Paths.beside_new (runtimeDir configDir : String) : (Paths.new runtimeDir configDir).Beside := rfl

theorem Paths.beside_fromEnv {env : String → Option String} (h : envPath env "KORI_SOCKET" = none) :
    (Paths.fromEnv env).Beside := by
  unfold Beside fromEnv socketPathFromEnv
  rw [h]

theorem sock_ne_lock (a b : List Char) : a ++ ".sock".toList ≠ b ++ ".lock".toList := by
  intro h
  have hlength : ".sock".toList.length = ".lock".toList.length := by simp
  have hsuffix : ".sock" = ".lock" := String.toList_inj.mp (List.append_inj_right' h hlength)
  exact absurd hsuffix (by decide)

theorem Paths.Beside.toList (h : paths.Beside) :
    paths.socket.toList = paths.runtimeDir.toList ++ "/kori".toList ++ ".sock".toList := by
  have hsocket : paths.socket = paths.runtimeDir ++ "/" ++ SOCKET_FILE_NAME := h
  rw [hsocket, String.toList_append, String.toList_append, List.append_assoc, List.append_assoc]
  rfl

theorem covered_beside : Covered Paths.Beside where
  covers a b ha hb hsame := by
    have hdir : a.runtimeDir ++ "/" ++ SOCKET_FILE_NAME = b.runtimeDir ++ "/" ++ SOCKET_FILE_NAME :=
      ha.symm.trans (hsame.trans hb)
    have hslash := (String.append_left_inj SOCKET_FILE_NAME).mp hdir
    unfold Paths.instanceLock
    rw [(String.append_left_inj "/").mp hslash]
  apart a b ha hb := by
    constructor
    · intro h
      have hlock : b.instanceLock.toList = (b.runtimeDir ++ "/kori").toList ++ ".lock".toList := by
        have hname : b.instanceLock = b.runtimeDir ++ "/kori.lock" := rfl
        rw [hname, String.toList_append, String.toList_append, List.append_assoc]
        rfl
      exact sock_ne_lock _ _ (ha.toList.symm.trans ((congrArg String.toList h).trans hlock))
    · intro device h
      have hlock : (b.deviceLock device).toList =
          (b.runtimeDir ++ "/" ++ device.display).toList ++ ".lock".toList := String.toList_append
      exact sock_ne_lock _ _ (ha.toList.symm.trans ((congrArg String.toList h).trans hlock))

/-- However many daemons and probes are started, in whatever order their calls come, whichever fail and
whoever is killed: connecting to a socket reaches nobody but the holder of its lock, so one daemon
listens at a path at a time; a daemon that accepts is the one its clients reach; what it removes is
never the socket of another that still listens, and nothing stands where it binds; and nothing is left
locked or listening by a process that is gone. -/
theorem one_daemon_at_a_socket (toml : Toml Raw) (used : Paths → Prop) (hcovered : Covered used) (host : Host)
    (hfresh : host.Fresh) (moves : List (SessionMove Raw)) (hstarts : Starts toml used moves) :
    let all := (booted host).moves linux moves
    (∀ paths process inode, used paths → all.host.listener process = some (paths.socket, inode) →
      all.host.holder paths.instanceLock = some process) ∧
    (∀ paths process, used paths → all.host.Reaches paths.socket process →
      all.host.holder paths.instanceLock = some process) ∧
    (∀ process path next, all.running process = some (.call (.accept path) next) → all.host.Reaches path process) ∧
    (∀ process path next, all.running process = some (.call (.bind path) next) → all.host.files path = none) ∧
    (∀ process path next, all.running process = some (.call (.removeFile path) next) →
      ∀ other ≠ process, ∀ inode, all.host.listener other ≠ some (path, inode)) ∧
    (∀ process, all.running process = none → (∀ path, all.host.holder path ≠ some process) ∧
      all.host.listener process = none) := by
  intro all
  have hholds : (korid used).Holds linux all := session_holds hcovered hfresh hstarts
  have hkept : all.host.Kept used := hholds.1
  refine ⟨fun paths process inode hpaths h => hkept.holder_of_listener hcovered hpaths h, ?_,
    fun process path next h => hholds.pre h, fun process path next h => (hholds.pre h).2.2, ?_,
    fun process h => hholds.clear h⟩
  · rintro paths process hpaths ⟨inode, bound, hfile, hlistener⟩
    have hbound := hkept.own process paths.socket bound inode hfile hlistener
    rw [← hbound] at hlistener
    exact hkept.holder_of_listener hcovered hpaths hlistener
  · intro process path next h other hother inode hlistener
    obtain ⟨paths, hpaths, rfl, hholder⟩ := hholds.pre h
    rw [hkept.holder_of_listener hcovered hpaths hlistener] at hholder
    exact hother (Option.some.inj hholder)

/-- In any such run, whatever is sent to a device after the questions of a start, which precede the locks, is
sent by the process that holds its lock, be it a daemon or a write probe: no two of them that keep their
locks in one directory are ever about to send something to one device. -/
theorem one_writer_for_a_device (toml : Toml Raw) (used : Paths → Prop) (hcovered : Covered used) (host : Host)
    (hfresh : host.Fresh) (moves : List (SessionMove Raw)) (hstarts : Starts toml used moves) :
    let all := (booted host).moves linux moves
    (∀ process runtimeDir device next, all.running process = some (.call (.reach runtimeDir device) next) →
      all.host.holder (deviceLock runtimeDir device) = some process) ∧
    ∀ process other runtimeDir device next next',
      all.running process = some (.call (.reach runtimeDir device) next) →
      all.running other = some (.call (.reach runtimeDir device) next') → process = other := by
  intro all
  have hholds : (korid used).Holds linux all := session_holds hcovered hfresh hstarts
  have hlock : ∀ process runtimeDir device next, all.running process = some (.call (.reach runtimeDir device) next) →
      all.host.holder (deviceLock runtimeDir device) = some process := fun process _ _ _ h => hholds.pre h
  refine ⟨hlock, fun process other runtimeDir device next next' h h' => ?_⟩
  have hheld := hlock process runtimeDir device next h
  rw [hlock other runtimeDir device next' h'] at hheld
  exact (Option.some.inj hheld).symm

/-! ## Two processes on a bench -/

def benchPaths : Paths := .new "/run/kori" "/etc/kori"

/-- A call that goes well. -/
def benchLuck : Luck ConfigDocument where
  fault := none
  heard
    | .isRoot => false
    | .ensure => .ok ()
    | .openLock _ => .taken
    | .readLock _ => none
    | .truncate _ | .writePid _ | .unlock _ | .closeListener | .accept _ | .reach _ _ => ()
    | .removeFile _ => .ok ()
    | .bind _ | .setPermissions _ | .installSignals => .ok ()
    | .discover => { capabilities := benchFound.capabilities, hidNodes := fun _ => [], lighting := .absent,
                     display := .absent, idle := ⟨rfl, rfl⟩ }
    | .processes => none
    | .awaken => (benchSurroundings true true, benchOutside (fun _ => false) fun _ => false)
    | .incoming => []
    | .lateClients => none
    | .connect => .ok 1

/-- A dead daemon left its socket behind. -/
def staleHost : Host :=
  { files := fun path => if path = benchPaths.socket then some (.socket 0) else none
    listener := fun _ => none, nextInode := 1 }

theorem fresh_staleHost : staleHost.Fresh where
  unheld path process h := by
    unfold Host.holder staleHost at h
    dsimp only at h
    split at h
    · rename_i hfile
      split at hfile <;> cases hfile
    · cases h
  silent _ := rfl
  inodes path inode h := by
    unfold staleHost at h
    dsimp only at h
    split at h
    · cases h
      exact Nat.zero_lt_one
    · cases h

/-- A daemon goes as far as its bind while another is started and killed. -/
def benchMoves : List (SessionMove ConfigDocument) :=
  [.start 7 (Korid.serve plainToml benchPaths 7), .start 8 (Korid.serve plainToml benchPaths 8)] ++
    List.replicate 3 (.call 7 benchLuck) ++ List.replicate 3 (.call 8 benchLuck) ++ [.stop 8] ++
    List.replicate 3 (.call 7 benchLuck)

theorem starts_benchMoves : Starts plainToml Paths.Beside benchMoves := by
  intro process script hmem
  refine ⟨benchPaths, Paths.beside_new .., .inl ?_⟩
  simp [benchMoves] at hmem
  rcases hmem with ⟨rfl, rfl⟩ | ⟨rfl, rfl⟩ <;> rfl

/-- Where the daemon binds, the stale socket is gone. -/
theorem stale_socket_removed :
    ((booted staleHost).moves linux benchMoves).host.files benchPaths.socket = none :=
  (one_daemon_at_a_socket plainToml Paths.Beside covered_beside staleHost fresh_staleHost benchMoves
    starts_benchMoves).2.2.2.1 7 benchPaths.socket _ rfl

/-- A write probe about to send its first report holds the lock of the cooler. -/
theorem probe_holds_lock :
    ((booted staleHost).moves linux ((.start 9 (Korid.underDeviceLock benchPaths KRAKEN_BASE) :
      SessionMove ConfigDocument) :: List.replicate 7 (.call 9 benchLuck))).host.holder
        (benchPaths.deviceLock KRAKEN_BASE) = some 9 := by
  refine (one_writer_for_a_device plainToml Paths.Beside covered_beside staleHost fresh_staleHost
    (.start 9 (Korid.underDeviceLock benchPaths KRAKEN_BASE) :: List.replicate 7 (.call 9 benchLuck))
    fun process script hmem => ?_).1 9 benchPaths.runtimeDir KRAKEN_BASE _ rfl
  refine ⟨benchPaths, Paths.beside_new .., .inr ⟨KRAKEN_BASE, ?_⟩⟩
  simp at hmem
  exact hmem.2

end Kori
