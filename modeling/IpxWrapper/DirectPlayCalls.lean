import IpxWrapper.DirectPlayRuns

/-!
# What the callbacks do under any rules (`directplay.c`)

Rules for the threads of the provider that let it open a socket and close it or keep it, close
the one it cannot read, and remember the name server, are kept by every callback but
`CloseEx` and `ShutdownEx`, and by the worker (`SpRules.Sound`). How often each holds the lock
at its end is found here as well: `IPX_Reply` once, if it has no header.
-/

namespace IpxWrapper

open Base LockProg

/-- `SP_Reply` with a `NULL` `lpSPMessageHeader`. -/
def SpCall.nullReply : SpCall → Bool
  | .reply _ none _ _ => true
  | _ => false

/-- How often the callback has taken the lock and not released it. -/
def SpCall.leaves (call : SpCall) : Nat := if call.nullReply then 1 else 0

/-- `SP_CloseEx` and `SP_ShutdownEx`. -/
def SpCall.closes : SpCall → Bool
  | .closeEx _ => true
  | .shutdownEx _ => true
  | _ => false

/-- Those that say something of when they come. -/
def SpOp.special : SpOp → Bool
  | .stopWorker _ => true
  | .deleteLock => true
  | .returned _ => true
  | _ => false

/-- The rules allow what these callbacks do. -/
structure SpRules.Sound (R : SpRules) (allowed : SpCall → Prop) : Prop where
  admits : ∀ op d, op.special = false → R.admits op d
  resumes : ∀ op, op.special = false → R.resumes op
  returns : ∀ call d, allowed call → R.level d → R.admits (.returned call) (d + call.leaves) ∧
    (R.resumes (.returned call) → R.level (d + call.leaves))
  good : ∀ s, R.inv s → R.good s
  opened : ∀ s fd, R.inv s → R.good (s.opened fd)
  reopen : ∀ s fd, R.inv s → fd ∉ s.unclosed → R.inv ((s.opened fd).closesocket (some fd))
  adopt : ∀ s fd which, R.inv s → fd ∉ s.unclosed → s.fd which = none →
    R.inv ((s.opened fd).setFd which (some fd))
  closed : ∀ s fd which, R.inv s → s.fd which = some fd → R.good (s.closesocket (some fd))
  drop : ∀ s fd which, R.inv s → s.fd which = some fd →
    R.inv ((s.closesocket (some fd)).setFd which none)
  nameServer : ∀ s addr id, R.inv s → R.inv { s with nsAddr := addr, nsId := id }

/-! ## Rules for programs -/

section Rules

variable {R : SpRules} {allowed : SpCall → Prop} {α β : Type} {role : SpRole} {i : Nat} {j : α → Nat} {k : β → Nat}
  {s : SpData}

/-- The function ends with `j` levels of the lock, and with the data as it is to be if it
holds it. -/
def EndsKept (R : SpRules) (role : SpRole) (j : α → Nat) (a : α) (role' : SpRole) (d : Nat)
    (s : SpData) : Prop :=
  role' = role ∧ d = j a ∧ (0 < d → R.inv s)

/-- With `i` levels of the lock at the start the function ends with `j` of them, and keeps the
rules. -/
def Keeping (R : SpRules) (role : SpRole) (p : SpProg α) (i : Nat) (j : α → Nat) : Prop :=
  ∀ s, (0 < i → R.inv s) → p.Keeps R.discipline role i s (EndsKept R role j)

namespace Keeping

theorem ret {a : α} (same : i = j a) : Keeping R role (pure a) i j :=
  fun _ kept => ⟨rfl, same, kept⟩

theorem stop : Keeping R role (LockProg.stop : SpProg α) i j :=
  fun _ _ => trivial

theorem andThen {p : SpProg β} {f : β → SpProg α} {post : α → SpRole → Nat → SpData → Prop}
    (first : Keeping R role p i k) (kept : 0 < i → R.inv s)
    (rest : ∀ b s', (0 < k b → R.inv s') → (f b).Keeps R.discipline role (k b) s' post) :
    (p >>= f).Keeps R.discipline role i s post := by
  rw [keeps_bind]
  refine (first s kept).mono fun b role' d s' reached => ?_
  obtain ⟨rfl, rfl, kept'⟩ := reached
  exact rest b s' kept'

theorem bind {p : SpProg β} {f : β → SpProg α} (first : Keeping R role p i k)
    (rest : ∀ b, Keeping R role (f b) (k b) j) : Keeping R role (p >>= f) i j :=
  fun _ kept => first.andThen kept rest

theorem release : Keeping R role LockProg.release (i + 1) fun _ => i :=
  fun _ kept => ⟨Nat.succ_pos i, fun _ => kept (Nat.succ_pos i), rfl, rfl,
    fun _ => kept (Nat.succ_pos i)⟩

/-- What follows may use what it has read. -/
theorem read {f : SpData → SpProg α} (rest : ∀ s, R.inv s →
      (f s).Keeps R.discipline role (i + 1) s (EndsKept R role j)) :
    Keeping R role (LockProg.read >>= f) (i + 1) j :=
  fun s kept => ⟨.inl (Nat.succ_pos i), rest s (kept (Nat.succ_pos i))⟩

theorem modify (sound : R.Sound allowed) {f : SpData → SpData} (keeps : ∀ s, R.inv s → R.inv (f s))
    (same : ∀ s, (f s).workerThread = s.workerThread) :
    Keeping R role (LockProg.modify f) (i + 1) fun _ => i + 1 := by
  intro s kept
  have after := keeps s (kept (Nat.succ_pos i))
  exact ⟨.inl (Nat.succ_pos i), .inl (Nat.succ_pos i), ⟨same s, sound.good _ after⟩,
    fun _ => after, rfl, rfl, fun _ => after⟩

/-- A function that releases the lock and returns. -/
theorem release_ret {a : α} : Keeping R role (do releaseSpData; pure a) (i + 1) fun _ => i :=
  release.bind fun _ => ret rfl

theorem held {p : SpProg α} (keeping : Keeping R role p (i + 1) j) (kept : R.inv s) :
    p.Keeps R.discipline role (i + 1) s (EndsKept R role j) :=
  keeping s fun _ => kept

end Keeping

theorem getSpData_keeping {spData : Bool} : Keeping R role (getSpData spData) i fun _ => i + 1 := by
  unfold getSpData
  split
  · intro s kept
    rw [keeps_acquire]
    split
    case isTrue free =>
      intro s' kept'
      exact ⟨rfl, free.symm ▸ rfl, fun _ => kept'⟩
    case isFalse held => exact ⟨rfl, rfl, fun _ => kept (Nat.pos_of_ne_zero held)⟩
  · exact .stop

/-- An operation that leaves the data as it is. -/
def SpOp.plain (op : SpOp) : Prop :=
  op.special = false ∧ ∀ worker start, op ≠ .createThread worker start

theorem await_bind (sound : R.Sound allowed) {op : SpOp} (plain : op.plain) {f : Unit → SpProg α}
    {post : α → SpRole → Nat → SpData → Prop}
    (rest : ∀ s', (0 < i → s' = s) → (f ()).Keeps R.discipline role i s' post) :
    (await op >>= f).Keeps R.discipline role i s post := by
  rw [keeps_bind, keeps_await]
  have admitted := sound.admits op i plain.1
  have resumed := sound.resumes op plain.1
  cases op with
  | createThread worker start => exact absurd rfl (plain.2 worker start)
  | stopWorker timesOut => cases plain.1
  | deleteLock => cases plain.1
  | returned call => cases plain.1
  | _ => exact ⟨⟨admitted, trivial⟩, fun _ s₀ same => rest s₀ fun held => same (.inl held)⟩

theorem await_keeping (sound : R.Sound allowed) {op : SpOp} (plain : op.plain) {f : Unit → SpProg α}
    (rest : Keeping R role (f ()) i j) : Keeping R role (await op >>= f) i j :=
  fun _ kept => await_bind sound plain fun s' same => rest s' fun held => same held ▸ kept held

theorem plain_bind (fd : Nat) (addr : SockaddrIpx) : (SpOp.bind fd addr).plain := ⟨rfl, nofun⟩

theorem plain_sendto (fd : Option Nat) (message : List Byte) (addr : SockaddrIpx) :
    (SpOp.sendto fd message addr).plain := ⟨rfl, nofun⟩

theorem plain_setPlayerData (idPlayer : UInt32) (addr : SockaddrIpx) :
    (SpOp.setPlayerData idPlayer addr).plain := ⟨rfl, nofun⟩

theorem plain_handleMessage (message : List Byte) (addr : SockaddrIpx) :
    (SpOp.handleMessage message addr).plain := ⟨rfl, nofun⟩

end Rules

/-! ## Opening -/

section Functions

variable {R : SpRules} {allowed : SpCall → Prop} (sound : R.Sound allowed) {role : SpRole} {i : Nat}
include sound

section Opening

variable {s : SpData} {fd : Nat} (kept : R.inv s)
include kept

theorem openSpSocket_bind {α : Type} {f : Unit → SpProg α}
    {post : α → SpRole → Nat → SpData → Prop}
    (rest : fd ∉ s.unclosed → (f ()).Keeps R.discipline role (i + 1) (s.opened fd) post) :
    (openSpSocket fd >>= f).Keeps R.discipline role (i + 1) s post := by
  unfold openSpSocket
  rw [keeps_bind, keeps_bind, keeps_read]
  refine ⟨.inl (Nat.succ_pos i), ?_⟩
  split
  · trivial
  · rename_i fresh
    exact ⟨.inl (Nat.succ_pos i), .inl (Nat.succ_pos i), ⟨rfl, sound.opened s fd kept⟩, nofun,
      rest fresh⟩

/-- A socket that cannot be used is closed. -/
theorem abandon_keeps (fresh : fd ∉ s.unclosed) :
    (do closeSpSocket (some fd); pure false : SpProg Bool).Keeps R.discipline role (i + 1)
      (s.opened fd) (EndsKept R role fun _ => i + 1) := by
  have after := sound.reopen s fd kept fresh
  exact ⟨.inl (Nat.succ_pos i), .inl (Nat.succ_pos i),
    ⟨SpData.closesocket_workerThread (some fd) (s.opened fd), sound.good _ after⟩, nofun, rfl, rfl,
    fun _ => after⟩

theorem adopt_keeps (fresh : fd ∉ s.unclosed) {which : SpSocket} (free : s.fd which = none) :
    (do modify (·.setFd which (some fd)); pure true : SpProg Bool).Keeps R.discipline role
      (i + 1) (s.opened fd) (EndsKept R role fun _ => i + 1) := by
  have after := sound.adopt s fd which kept fresh free
  exact ⟨.inl (Nat.succ_pos i), .inl (Nat.succ_pos i),
    ⟨SpData.setFd_workerThread which (some fd) (s.opened fd), sound.good _ after⟩, nofun, rfl, rfl,
    fun _ => after⟩

end Opening

theorem initWorker_keeping (shared : role ≠ .last) (createThread : Option (Nat × WorkerStart)) :
    Keeping R role (initWorker createThread) (i + 1) fun _ => i + 1 := by
  refine .read fun s kept => ?_
  split
  · exact (Keeping.ret rfl).held kept
  · rename_i none'
    rcases createThread with _ | ⟨worker, start⟩
    · exact (Keeping.ret rfl).held kept
    · have idle : s.workerThread = none := Option.not_isSome_iff_eq_none.mp none'
      refine ⟨⟨sound.admits _ _ rfl, shared, Nat.succ_pos i, idle⟩,
        fun _ s₀ same => ⟨rfl, rfl, fun _ => ?_⟩⟩
      rw [same (.inl (Nat.succ_pos i))]
      exact R.inv_effect (.createThread worker start) s kept

theorem initMainSocket_keeping {env : InitSocketEnv} :
    Keeping R role (initMainSocket env) (i + 1) fun _ => i + 1 := by
  refine .read fun s kept => ?_
  split
  · rename_i free
    rcases env.socket with _ | fd
    · exact (Keeping.ret rfl).held kept
    refine openSpSocket_bind sound kept fun fresh =>
      await_bind sound (plain_bind fd anyIpxAddr) fun s' same => ?_
    rw [same (Nat.succ_pos i)]
    split
    · exact abandon_keeps sound kept fresh
    split
    · exact abandon_keeps sound kept fresh
    · exact adopt_keeps sound kept fresh free
  · exact (Keeping.ret rfl).held kept

theorem initDiscSocket_keeping {env : InitSocketEnv} :
    Keeping R role (initDiscSocket env) (i + 1) fun _ => i + 1 := by
  refine .read fun s kept => ?_
  split
  · rename_i free
    rcases env.socket with _ | fd
    · exact (Keeping.ret rfl).held kept
    refine openSpSocket_bind sound kept fun fresh => ?_
    rcases env.getsockname with _ | addr
    · exact abandon_keeps sound kept fresh
    refine await_bind sound (plain_bind fd _) fun s' same => ?_
    rw [same (Nat.succ_pos i)]
    split
    · exact abandon_keeps sound kept fresh
    split
    · exact abandon_keeps sound kept fresh
    · exact adopt_keeps sound kept fresh free
  · exact (Keeping.ret rfl).held kept

/-! ## Callbacks -/

theorem sendAndRelease_keeping {message : List Byte} {addr : SockaddrIpx} {sendto : Bool} :
    Keeping R role (sendAndRelease message addr sendto) (i + 1) fun _ => i :=
  .read fun _ kept => (await_keeping sound (plain_sendto ..) .release_ret : Keeping ..).held kept

/-- A callback that needs the worker and the main socket. -/
theorem ready_keeping (shared : role ≠ .last) {createThread : Option (Nat × WorkerStart)}
    {mainSocket : InitSocketEnv} {rest : SpProg HResult}
    (after : Keeping R role rest (i + 1) fun _ => i) :
    Keeping R role (do
      if !(← initWorker createThread) then do
        releaseSpData
        pure DPERR_GENERIC
      else if !(← initMainSocket mainSocket) then do
        releaseSpData
        pure DPERR_GENERIC
      else
        rest) (i + 1) fun _ => i := by
  refine (initWorker_keeping sound shared createThread).bind fun worker => ?_
  cases worker with
  | false => exact .release_ret
  | true =>
      refine (initMainSocket_keeping sound).bind fun sock => ?_
      cases sock with
      | false => exact .release_ret
      | true => exact after

theorem ipxEnumSessions_keeping (shared : role ≠ .last) {message : List Byte}
    {env : SpEnumSessionsEnv} : Keeping R role (ipxEnumSessions message env) i fun _ => i := by
  refine getSpData_keeping.bind fun _ => ready_keeping sound shared ?_
  rcases env.getsockname with _ | myAddr
  · exact .release_ret
  · exact sendAndRelease_keeping sound

theorem sendTo_keeping {message : List Byte} {addr : SockaddrIpx} {env : SpSendEnv} :
    Keeping R role (sendTo message addr env) i fun _ => i :=
  getSpData_keeping.bind fun _ => sendAndRelease_keeping sound

theorem ipxSend_keeping {idPlayerTo : UInt32} {message : List Byte} {env : SpSendEnv} :
    Keeping R role (ipxSend idPlayerTo message env) i fun _ => i := by
  unfold ipxSend
  split
  · split
    · exact .ret rfl
    · split
      · exact sendTo_keeping sound
      · exact .ret rfl
    · exact .ret rfl
  · refine getSpData_keeping.bind fun _ => .read fun s kept => ?_
    refine (Keeping.release.bind fun _ => ?_ : Keeping ..).held kept
    split
    · exact .ret rfl
    · exact sendTo_keeping sound

theorem inv_updateNameServer (idNameServer : UInt32) (playerData : PlayerData) (s : SpData)
    (kept : R.inv s) : R.inv (s.updateNameServer idNameServer playerData) := by
  unfold SpData.updateNameServer
  split
  · split
    · split
      · exact sound.nameServer s _ _ kept
      · exact kept
    · exact kept
  · exact kept

/-- With a header `IPX_Reply` releases the lock, and without one it does not. -/
theorem ipxReply_keeping {idNameServer : UInt32} {spMessageHeader : Option SockaddrIpx}
    {message : List Byte} {env : SpReplyEnv} :
    Keeping R role (ipxReply idNameServer spMessageHeader message env) i
      fun _ => if spMessageHeader.isNone then i + 1 else i := by
  refine getSpData_keeping.bind fun _ => (Keeping.modify sound
    (inv_updateNameServer sound idNameServer env.playerData)
    (SpData.updateNameServer_workerThread idNameServer env.playerData)).bind fun _ => ?_
  rcases spMessageHeader with _ | toAddr
  · exact .ret rfl
  · exact sendAndRelease_keeping sound

theorem createLocalPlayer_keeping {idPlayer dwFlags : UInt32} {env : SpCreatePlayerEnv} :
    Keeping R role (createLocalPlayer idPlayer dwFlags env) i fun _ => i := by
  unfold createLocalPlayer
  dsimp only
  split
  · refine getSpData_keeping.bind fun _ => (initDiscSocket_keeping sound).bind fun _ =>
      Keeping.release.bind fun _ => getSpData_keeping.bind fun _ => Keeping.release.bind fun _ => ?_
    rcases env.getsockname with _ | myAddr
    · exact .ret rfl
    · exact await_keeping sound (plain_setPlayerData ..) (.ret rfl)
  · refine getSpData_keeping.bind fun _ => Keeping.release.bind fun _ => ?_
    rcases env.getsockname with _ | myAddr
    · exact .ret rfl
    · exact await_keeping sound (plain_setPlayerData ..) (.ret rfl)

theorem ipxCreatePlayer_keeping {idPlayer dwFlags : UInt32} {env : SpCreatePlayerEnv} :
    Keeping R role (ipxCreatePlayer idPlayer dwFlags env) i fun _ => i := by
  unfold ipxCreatePlayer
  split
  · exact createLocalPlayer_keeping sound
  · split <;> exact .ret rfl

theorem ipxOpen_keeping (shared : role ≠ .last) {bCreate : Bool}
    {spMessageHeader : Option SockaddrIpx} {env : SpOpenEnv} :
    Keeping R role (ipxOpen bCreate spMessageHeader env) i fun _ => i := by
  refine getSpData_keeping.bind fun _ => ready_keeping sound shared ?_
  refine Keeping.bind (k := fun _ => i + 1) ?_ fun _ => .release_ret
  unfold openNameServer
  split
  · exact .modify sound (fun s kept => sound.nameServer s _ _ kept) fun _ => rfl
  · exact .ret rfl

/-- What a callback holds at its end, if it does not close the sockets. -/
theorem prog_keeping (shared : role ≠ .last) {call : SpCall} (other : call.closes = false) :
    Keeping R role call.prog i fun _ => i + call.leaves := by
  cases call with
  | enumSessions message env => exact ipxEnumSessions_keeping sound shared
  | send idPlayerTo message env => exact ipxSend_keeping sound
  | reply idNameServer spMessageHeader message env =>
      have keeping : Keeping R role (ipxReply idNameServer spMessageHeader message env) i
          fun _ => if spMessageHeader.isNone then i + 1 else i := ipxReply_keeping sound
      cases spMessageHeader with
      | none => exact keeping
      | some toAddr => exact keeping
  | createPlayer idPlayer dwFlags env => exact ipxCreatePlayer_keeping sound
  | «open» bCreate spMessageHeader env => exact ipxOpen_keeping sound shared
  | closeEx spData => cases other
  | shutdownEx env => cases other

omit sound in
/-- The thread runs the callback, and is between two then; only that of the application is the
last, and only after `ShutdownEx`. -/
def RunKeeps (R : SpRules) (role : SpRole) (call : SpCall) : Prop :=
  ∀ d s, R.Between d s → call.run.Keeps R.discipline role d s
    fun _ role' d' s' => (role' = .worker ↔ role = .worker) ∧ R.Between d' s'

/-- The callback returns. -/
theorem returned_keeps (call : SpCall) {d : Nat} {s : SpData} {role' : SpRole} {r : HResult}
    (may : allowed call) (level : R.level d) (kept : 0 < d + call.leaves → R.inv s)
    (same : role' = .worker ↔ role = .worker) :
    (do await (.returned call); pure r : SpProg HResult).Keeps R.discipline role'
      (d + call.leaves) s
      fun _ role'' d' s' => (role'' = .worker ↔ role = .worker) ∧ R.Between d' s' := by
  obtain ⟨admitted, next⟩ := sound.returns call d may level
  refine ⟨⟨admitted, trivial⟩, fun resumed s₀ known => ⟨same, next resumed.1, fun held => ?_⟩⟩
  have same₀ : s₀ = s := known (.inl held)
  exact same₀.symm ▸ kept held

theorem run_keeps (shared : role ≠ .last) {call : SpCall} (other : call.closes = false)
    (may : allowed call) : RunKeeps R role call := by
  rintro d s ⟨level, kept⟩
  exact (prog_keeping sound shared other).andThen kept
    fun _ _ kept' => returned_keeps sound call may level kept' Iff.rfl

/-! ## The worker -/

section Worker

variable {calls : List SpCall} (runs : ∀ call ∈ calls, RunKeeps R .worker call)

omit sound in
include runs in
theorem handleCalls_keeps {d : Nat} {s : SpData} (between : R.Between d s) :
    (handleCalls calls).Keeps R.discipline .worker d s
      fun _ role d' s' => role = .worker ∧ R.Between d' s' := by
  induction calls generalizing d s with
  | nil => exact ⟨rfl, between⟩
  | cons call rest ih =>
      unfold handleCalls
      rw [keeps_bind]
      refine (runs call List.mem_cons_self d s between).mono fun _ role d' s' reached => ?_
      obtain ⟨same, between'⟩ := reached
      obtain rfl := same.mpr rfl
      exact ih (fun call member => runs call (List.mem_cons_of_mem _ member)) between'

end Worker

omit sound in
/-- The callbacks that `HandleMessage` calls for what the worker receives. -/
def RecvPacketEnv.calls (env : RecvPacketEnv) : List SpCall :=
  match env.recvfrom with
  | .failed _ => []
  | .received _ _ calls => calls

theorem recvSpPacket_keeps {which : SpSocket} {env : RecvPacketEnv}
    (runs : ∀ call ∈ env.calls, RunKeeps R .worker call) {d : Nat} {s : SpData}
    (between : R.Between d s) :
    (recvSpPacket which env).Keeps R.discipline .worker d s
      fun _ role d' s' => role = .worker ∧ R.Between d' s' := by
  have released {s' : SpData} (kept : R.inv s') : releaseSpData.Keeps R.discipline .worker (d + 1) s'
      fun _ role d' s' => role = .worker ∧ R.Between d' s' :=
    ⟨Nat.succ_pos d, fun _ => kept, rfl, between.1, fun _ => kept⟩
  have owns : R.discipline.Owns .worker (d + 1) := .inl (Nat.succ_pos d)
  refine getSpData_keeping.andThen between.2 fun _ s' held => ?_
  have kept := held (Nat.succ_pos d)
  rw [keeps_bind, keeps_read]
  refine ⟨owns, ?_⟩
  split
  · exact released kept
  · rename_i used
    obtain ⟨fd, used⟩ := Option.ne_none_iff_exists'.mp used
    unfold RecvPacketEnv.calls at runs
    split
    · split
      · exact released kept
      · -- the read error closes the socket
        rw [used]
        exact ⟨owns, owns, ⟨SpData.closesocket_workerThread (some fd) s',
          sound.closed s' fd which kept used⟩, nofun, owns, owns,
          ⟨SpData.setFd_workerThread which none _, sound.good _ (sound.drop s' fd which kept used)⟩,
          nofun, released (sound.drop s' fd which kept used)⟩
    · rename_i message addr calls received
      rw [received] at runs
      refine Keeping.release.andThen (fun _ => kept) fun _ s₁ kept₁ => ?_
      refine await_bind sound (plain_handleMessage message addr) fun s₂ same => ?_
      exact handleCalls_keeps runs ⟨between.1, fun held => same held ▸ kept₁ held⟩

omit sound in
theorem workerStart_starts (env : WorkerStart) : R.Starts .worker (workerStart env) := by
  rintro d s ⟨level, kept⟩
  refine getSpData_keeping.andThen kept fun _ _ kept' =>
    Keeping.release.andThen kept' fun _ _ kept'' => ?_
  split
  · exact ⟨rfl, level, kept''⟩
  · trivial

omit sound in
/-- The callbacks that are called in a pass of the worker. -/
def WorkerPassEnv.calls (env : WorkerPassEnv) : List SpCall :=
  env.sock.calls ++ env.nsSock.calls

/-- A pass of the worker; if it leaves its loop, `running` is not set and the lock is held. -/
theorem workerPass_starts {env : WorkerPassEnv}
    (runs : ∀ call ∈ env.calls, RunKeeps R .worker call)
    (leaves : ∀ d s, R.level d → R.inv s → s.running = false → R.leaves (d + 1)) :
    R.Starts .worker (workerPass env) := by
  rintro d s ⟨level, kept⟩
  refine getSpData_keeping.andThen kept fun _ s' held => ?_
  have kept' := held (Nat.succ_pos d)
  rw [keeps_bind, keeps_read]
  refine ⟨.inl (Nat.succ_pos d), ?_⟩
  split
  · rename_i stopped
    rw [Bool.not_eq_true'] at stopped
    exact ⟨rfl, leaves d s' level kept' stopped⟩
  · refine Keeping.release.andThen (fun _ => kept') fun _ s₁ kept₁ => ?_
    rw [keeps_bind]
    refine (recvSpPacket_keeps sound (fun call member =>
      runs call (List.mem_append_left _ member)) ⟨level, kept₁⟩).mono fun _ role d₂ s₂ reached => ?_
    obtain ⟨rfl, between⟩ := reached
    rw [keeps_bind]
    exact (recvSpPacket_keeps sound (fun call member =>
      runs call (List.mem_append_right _ member)) between).mono fun _ _ _ _ reached => reached

omit sound in
theorem thread_starts {call : SpCall} (runs : RunKeeps R .callback call) :
    R.Starts .callback call.thread := by
  intro d s between
  unfold SpCall.thread
  rw [keeps_bind]
  refine (runs d s between).mono fun r role d' s' reached => ⟨fun worker => ?_, reached.2⟩
  cases reached.1.mp worker

end Functions

end IpxWrapper
