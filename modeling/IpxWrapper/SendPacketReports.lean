import IpxWrapper.SendPacket

/-!
# When a failed send is reported (`winsock.c`)

`send_packet` says that it returns true on success, but it returns what
`r_sendto` returned, so that only a result of 0 is taken for a failure. This
module says for which results `ipx_send_packet` reports correctly.
-/

namespace IpxWrapper

open Base

/-! ## The attempts -/

/-- The addresses that `ipx_send_packet` sends to. -/
def SendEnv.targets (env : SendEnv) (p : OutgoingPacket) : List SockAddrIn :=
  if ¬ env.malloc then []
  else
    match addrCacheGet env.hostTable env.now p.destNet p.destNode p.destSocket with
    | some addr => [addr]
    | none =>
        match ipxInterfaceByAddr env.cache p.srcNet p.srcNode with
        | none => []
        | some iface => iface.ipaddr.map (bcastAddr env)

/-- What the calls of `r_sendto` return. -/
def SendEnv.results (env : SendEnv) (p : OutgoingPacket) : List Int :=
  (List.range (env.targets p).length).map env.rSendto

theorem SendEnv.mem_results {env : SendEnv} {p : OutgoingPacket} {r : Int} :
    r ∈ env.results p ↔ ∃ k < (env.targets p).length, env.rSendto k = r := by
  simp [SendEnv.results]

/-- With nowhere to send to the state stays and an error is returned. -/
theorem ipxSendPacket_of_targets_nil {env : SendEnv} {p : OutgoingPacket} {s : SendState}
    (nowhere : env.targets p = []) :
    (ipxSendPacket env p s).1 ≠ ERROR_SUCCESS ∧ (ipxSendPacket env p s).2 = s := by
  unfold SendEnv.targets at nowhere
  unfold ipxSendPacket
  by_cases malloc : env.malloc = true
  · rw [if_neg (not_not_intro malloc)] at nowhere ⊢
    rcases cached : addrCacheGet env.hostTable env.now p.destNet p.destNode p.destSocket with
      _ | addr
    · rcases found : ipxInterfaceByAddr env.cache p.srcNet p.srcNode with _ | iface
      · exact ⟨show WSAENETUNREACH ≠ ERROR_SUCCESS by decide, rfl⟩
      · simp only [cached, found, List.map_eq_nil_iff] at nowhere
        dsimp only
        rw [if_pos nowhere]
        exact ⟨show WSAENETUNREACH ≠ ERROR_SUCCESS by decide, rfl⟩
    · simp only [cached] at nowhere
      exact absurd nowhere (List.cons_ne_nil _ _)
  · rw [if_pos malloc]
    exact ⟨show ERROR_OUTOFMEMORY ≠ ERROR_SUCCESS by decide, rfl⟩

/-- With somewhere to send to each target is tried. -/
theorem ipxSendPacket_of_targets_ne {env : SendEnv} {p : OutgoingPacket} {s : SendState}
    (somewhere : env.targets p ≠ []) :
    ipxSendPacket env p s
      = finishSend p (attemptEach env p (env.targets p) 0 ⟨false, ERROR_SUCCESS, s⟩) := by
  unfold SendEnv.targets at somewhere ⊢
  unfold ipxSendPacket
  by_cases malloc : env.malloc = true
  · rw [if_neg (not_not_intro malloc)] at somewhere
    rw [if_neg (not_not_intro malloc), if_neg (not_not_intro malloc)]
    rcases cached : addrCacheGet env.hostTable env.now p.destNet p.destNode p.destSocket with
      _ | addr
    · rcases found : ipxInterfaceByAddr env.cache p.srcNet p.srcNode with _ | iface
      · simp only [cached, found] at somewhere
        exact absurd rfl somewhere
      · simp only [cached, found, ne_eq, List.map_eq_nil_iff] at somewhere
        dsimp only
        rw [if_neg somewhere]
    · rfl
  · rw [if_pos malloc] at somewhere
    exact absurd rfl somewhere

/-- One attempt that does not send the whole packet. -/
theorem attempt_state_of_short {env : SendEnv} {p : OutgoingPacket} {addr : SockAddrIn} {k : Nat}
    {sending : Sending} (short : env.rSendto k ≠ p.packetSize) :
    (attempt env p addr k sending).state =
      { sending.state with attempts := sending.state.attempts ++ [(addr, p.bytes)] } := by
  unfold attempt sendPacket
  dsimp only
  rw [if_neg short]
  dsimp only
  split <;> rfl

theorem attempt_sendOk {env : SendEnv} {p : OutgoingPacket} {addr : SockAddrIn} {k : Nat}
    {sending : Sending} :
    (attempt env p addr k sending).sendOk = true ↔
      sending.sendOk = true ∨ env.rSendto k ≠ 0 := by
  unfold attempt sendPacket
  by_cases zero : env.rSendto k = 0 <;> by_cases whole : env.rSendto k = p.packetSize <;>
    simp_all

theorem attempt_sendError {env : SendEnv} {p : OutgoingPacket} {addr : SockAddrIn} {k : Nat}
    {sending : Sending} (zero : env.rSendto k = 0) :
    (attempt env p addr k sending).sendError = env.lastError k := by
  unfold attempt sendPacket
  by_cases whole : env.rSendto k = p.packetSize <;> simp_all

/-- The attempts succeed when one returns anything but 0. -/
theorem attemptEach_sendOk {env : SendEnv} {p : OutgoingPacket} {addrs : List SockAddrIn} {k : Nat}
    {sending : Sending} :
    (attemptEach env p addrs k sending).sendOk = true ↔
      sending.sendOk = true ∨ ∃ j < addrs.length, env.rSendto (k + j) ≠ 0 := by
  induction addrs generalizing k sending with
  | nil => simp [attemptEach]
  | cons addr rest ih =>
      rw [attemptEach, ih, attempt_sendOk, or_assoc]
      refine or_congr_right ⟨fun sent => ?_, fun sent => ?_⟩
      · rcases sent with first | ⟨j, lt, later⟩
        · exact ⟨0, Nat.succ_pos _, first⟩
        · exact ⟨j + 1, Nat.succ_lt_succ lt, by rwa [Nat.add_comm j 1, ← Nat.add_assoc]⟩
      · rcases sent with ⟨_ | j, lt, ne⟩
        · exact Or.inl ne
        · refine Or.inr ⟨j, Nat.lt_of_succ_lt_succ lt, ?_⟩
          rwa [Nat.add_assoc, Nat.add_comm 1 j]

/-- Where every attempt returns 0 the error is that of the last. -/
theorem attemptEach_sendError {env : SendEnv} {p : OutgoingPacket} {addrs : List SockAddrIn}
    {k : Nat} {sending : Sending} (zero : ∀ j < addrs.length, env.rSendto (k + j) = 0)
    (nonempty : addrs ≠ []) :
    (attemptEach env p addrs k sending).sendError = env.lastError (k + (addrs.length - 1)) := by
  induction addrs generalizing k sending with
  | nil => exact absurd rfl nonempty
  | cons addr rest ih =>
      rw [attemptEach]
      rcases rest with _ | ⟨next, rest⟩
      · exact attempt_sendError (zero 0 Nat.one_pos)
      · have later : ∀ j < (next :: rest).length, env.rSendto (k + 1 + j) = 0 := by
          intro j lt
          rw [Nat.add_assoc, Nat.add_comm 1 j]
          exact zero (j + 1) (Nat.succ_lt_succ lt)
        rw [ih later (List.cons_ne_nil _ _)]
        congr 1
        simp only [List.length_cons]
        omega

/-- Attempts that do not send the whole packet leave their record only. -/
theorem attemptEach_state_of_short {env : SendEnv} {p : OutgoingPacket} {addrs : List SockAddrIn}
    {k : Nat} {sending : Sending} (short : ∀ j < addrs.length, env.rSendto (k + j) ≠ p.packetSize) :
    (attemptEach env p addrs k sending).state =
      { sending.state with
        attempts := sending.state.attempts ++ addrs.map fun addr => (addr, p.bytes) } := by
  induction addrs generalizing k sending with
  | nil => simp [attemptEach]
  | cons addr rest ih =>
      have later : ∀ j < rest.length, env.rSendto (k + 1 + j) ≠ p.packetSize := by
        intro j lt
        rw [Nat.add_assoc, Nat.add_comm 1 j]
        exact short (j + 1) (Nat.succ_lt_succ lt)
      have first : env.rSendto k ≠ p.packetSize := short 0 (Nat.succ_pos _)
      rw [attemptEach, ih later, attempt_state_of_short first]
      simp

/-- Each attempt is to send the packet. -/
theorem attempt_attempts {env : SendEnv} {p : OutgoingPacket} {addr : SockAddrIn} {k : Nat}
    {sending : Sending} :
    (attempt env p addr k sending).state.attempts =
      sending.state.attempts ++ [(addr, p.bytes)] := by
  unfold attempt sendPacket
  dsimp only
  split <;> split <;> rfl

theorem attemptEach_attempts {env : SendEnv} {p : OutgoingPacket} {addrs : List SockAddrIn}
    {k : Nat} {sending : Sending} :
    (attemptEach env p addrs k sending).state.attempts =
      sending.state.attempts ++ addrs.map fun addr => (addr, p.bytes) := by
  induction addrs generalizing k sending with
  | nil => simp [attemptEach]
  | cons addr rest ih =>
      rw [attemptEach, ih, attempt_attempts, List.append_assoc, List.map_cons]
      rfl

/-- An attempt delivers nothing here. -/
theorem attempt_delivered {env : SendEnv} {p : OutgoingPacket} {addr : SockAddrIn} {k : Nat}
    {sending : Sending} :
    (attempt env p addr k sending).state.delivered = sending.state.delivered := by
  unfold attempt sendPacket
  dsimp only
  split <;> split <;> rfl

theorem attemptEach_delivered {env : SendEnv} {p : OutgoingPacket} {addrs : List SockAddrIn}
    {k : Nat} {sending : Sending} :
    (attemptEach env p addrs k sending).state.delivered = sending.state.delivered := by
  induction addrs generalizing k sending with
  | nil => rfl
  | cons addr rest ih => rw [attemptEach, ih, attempt_delivered]

/-- The packet is sent to each target, and nothing else is sent. -/
theorem ipxSendPacket_attempts (env : SendEnv) (p : OutgoingPacket) (s : SendState) :
    (ipxSendPacket env p s).2.attempts =
      s.attempts ++ (env.targets p).map fun addr => (addr, p.bytes) := by
  by_cases nowhere : env.targets p = []
  · rw [(ipxSendPacket_of_targets_nil nowhere).2, nowhere, List.map_nil, List.append_nil]
  · rw [ipxSendPacket_of_targets_ne nowhere]
    have attempts : (attemptEach env p (env.targets p) 0 ⟨false, ERROR_SUCCESS, s⟩).state.attempts =
        _ := attemptEach_attempts
    unfold finishSend
    split <;> exact attempts

/-! ## What is reported -/

/-- What a send that fails leaves alone. -/
structure SendState.Unsent (s s' : SendState) : Prop where
  delivered : s'.delivered = s.delivered
  sendPackets : s'.sendPackets = s.sendPackets
  sendBytes : s'.sendBytes = s.sendBytes
  sendPacketsUdp : s'.sendPacketsUdp = s.sendPacketsUdp
  sendBytesUdp : s'.sendBytesUdp = s.sendBytesUdp

/-- Success is returned exactly when some `r_sendto` sent the whole packet, and
else nothing but the attempts happens and every `sendto` of the packet fails. -/
structure ReportsFailures (env : SendEnv) (p : OutgoingPacket) (s : SendState) : Prop where
  success : (ipxSendPacket env p s).1 = ERROR_SUCCESS ↔ (p.packetSize : Int) ∈ env.results p
  unsent : (p.packetSize : Int) ∉ env.results p → s.Unsent (ipxSendPacket env p s).2
  sendto : (p.packetSize : Int) ∉ env.results p → ∀ (call : SendtoCall) (underlying : Int) (w : World),
    call.send = env → (sendtoPacket call underlying w).1 = .inr p →
      (sendto call underlying w s).1.value = -1

/-- The condition: nothing is tried, or the whole packet is sent once, or every
attempt returns 0 and the last sets an error. -/
def SendEnv.ResultsTold (env : SendEnv) (p : OutgoingPacket) : Prop :=
  env.results p = [] ∨ (p.packetSize : Int) ∈ env.results p ∨
    (∀ r ∈ env.results p, r = 0) ∧ env.lastError ((env.results p).length - 1) ≠ ERROR_SUCCESS

/-- An error of `ipx_send_packet` is returned by `sendto`. -/
theorem sendto_value_of_error {call : SendtoCall} {underlying : Int} {w : World} {s : SendState}
    {p : OutgoingPacket} (sends : (sendtoPacket call underlying w).1 = .inr p)
    (error : (ipxSendPacket call.send p s).1 ≠ ERROR_SUCCESS) :
    (sendto call underlying w s).1.value = -1 := by
  unfold IpxWrapper.sendto
  rcases found : sendtoPacket call underlying w with ⟨out, w'⟩
  rw [found] at sends
  dsimp only at sends
  subst out
  dsimp only
  rw [if_neg error]
  rfl

/-- The result where something is tried and no attempt sends the whole packet. -/
theorem ipxSendPacket_of_short {env : SendEnv} {p : OutgoingPacket} {s : SendState}
    (somewhere : env.targets p ≠ []) (short : (p.packetSize : Int) ∉ env.results p) :
    ((ipxSendPacket env p s).1 = ERROR_SUCCESS ↔
      (∃ r ∈ env.results p, r ≠ 0) ∨
        env.lastError ((env.results p).length - 1) = ERROR_SUCCESS) ∧
    ((∀ r ∈ env.results p, r = 0) → s.Unsent (ipxSendPacket env p s).2) := by
  have lengthEq : (env.results p).length = (env.targets p).length := by simp [SendEnv.results]
  rw [ipxSendPacket_of_targets_ne somewhere]
  by_cases sent : ∃ r ∈ env.results p, r ≠ 0
  · obtain ⟨r, member, ne⟩ := sent
    obtain ⟨k, lt, rEq⟩ := SendEnv.mem_results.mp member
    have ok : (attemptEach env p (env.targets p) 0 ⟨false, ERROR_SUCCESS, s⟩).sendOk = true :=
      attemptEach_sendOk.mpr (Or.inr ⟨k, lt, by rwa [Nat.zero_add, rEq]⟩)
    unfold finishSend
    rw [if_pos ok]
    exact ⟨⟨fun _ => Or.inl ⟨r, member, ne⟩, fun _ => rfl⟩, fun zero => absurd (zero r member) ne⟩
  · have zero : ∀ j < (env.targets p).length, env.rSendto (0 + j) = 0 := by
      intro j lt
      rw [Nat.zero_add]
      by_contra ne
      exact sent ⟨_, SendEnv.mem_results.mpr ⟨j, lt, rfl⟩, ne⟩
    have shorts : ∀ j < (env.targets p).length, env.rSendto (0 + j) ≠ p.packetSize := by
      intro j lt
      rw [Nat.zero_add]
      exact fun whole => short (SendEnv.mem_results.mpr ⟨j, lt, whole⟩)
    have failed :
        ¬ (attemptEach env p (env.targets p) 0 ⟨false, ERROR_SUCCESS, s⟩).sendOk = true := by
      rw [attemptEach_sendOk]
      intro sendOk
      rcases sendOk with ok | ⟨j, lt, ne⟩
      · exact absurd ok Bool.false_ne_true
      · exact ne (zero j lt)
    have errorEq :
        (attemptEach env p (env.targets p) 0 ⟨false, ERROR_SUCCESS, s⟩).sendError = _ :=
      attemptEach_sendError zero somewhere
    have stateEq :
        (attemptEach env p (env.targets p) 0 ⟨false, ERROR_SUCCESS, s⟩).state = _ :=
      attemptEach_state_of_short shorts
    unfold finishSend
    rw [if_neg failed, errorEq, stateEq, lengthEq, Nat.zero_add]
    exact ⟨⟨Or.inr, fun told => told.resolve_left sent⟩, fun _ => ⟨rfl, rfl, rfl, rfl, rfl⟩⟩

/-- A whole packet sent is a send that succeeds. -/
theorem sendOk_of_whole {env : SendEnv} {p : OutgoingPacket} {s : SendState}
    (whole : (p.packetSize : Int) ∈ env.results p) :
    env.targets p ≠ [] ∧
      (attemptEach env p (env.targets p) 0 ⟨false, ERROR_SUCCESS, s⟩).sendOk = true := by
  obtain ⟨k, lt, rEq⟩ := SendEnv.mem_results.mp whole
  have nonzero : env.rSendto (0 + k) ≠ 0 := by
    rw [Nat.zero_add, rEq]
    unfold OutgoingPacket.packetSize IpxPacket.headerSize
    omega
  exact ⟨List.ne_nil_of_length_pos (Nat.zero_lt_of_lt lt),
    attemptEach_sendOk.mpr (Or.inr ⟨k, lt, nonzero⟩)⟩

/-- It is reported. -/
theorem ipxSendPacket_success_of_whole {env : SendEnv} {p : OutgoingPacket} {s : SendState}
    (whole : (p.packetSize : Int) ∈ env.results p) :
    (ipxSendPacket env p s).1 = ERROR_SUCCESS := by
  obtain ⟨somewhere, ok⟩ := sendOk_of_whole (s := s) whole
  rw [ipxSendPacket_of_targets_ne somewhere]
  unfold finishSend
  rw [if_pos ok]

/-- The packet is delivered here. -/
theorem ipxSendPacket_delivered_of_whole {env : SendEnv} {p : OutgoingPacket} {s : SendState}
    (whole : (p.packetSize : Int) ∈ env.results p) :
    (ipxSendPacket env p s).2.delivered = s.delivered ++ [p.delivered] := by
  obtain ⟨somewhere, ok⟩ := sendOk_of_whole (s := s) whole
  rw [ipxSendPacket_of_targets_ne somewhere]
  unfold finishSend
  rw [if_pos ok]
  exact congrArg (· ++ [p.delivered]) attemptEach_delivered

/-- Failures are reported exactly on the results that the code can tell. -/
theorem ipxSendPacket_reportsFailures_iff (env : SendEnv) (p : OutgoingPacket) (s : SendState) :
    ReportsFailures env p s ↔ env.ResultsTold p := by
  by_cases nowhere : env.targets p = []
  · -- Nothing is tried.
    have none : env.results p = [] := by simp [SendEnv.results, nowhere]
    obtain ⟨error, same⟩ := ipxSendPacket_of_targets_nil (s := s) nowhere
    refine ⟨fun _ => Or.inl none, fun _ => ⟨?_, fun _ => ?_, fun _ call underlying w sendEq sends => ?_⟩⟩
    · simp [error, none]
    · rw [same]
      exact ⟨rfl, rfl, rfl, rfl, rfl⟩
    · subst sendEq
      exact sendto_value_of_error sends error
  · have nonempty : env.results p ≠ [] := by simpa [SendEnv.results] using nowhere
    by_cases whole : (p.packetSize : Int) ∈ env.results p
    · exact ⟨fun _ => Or.inr (Or.inl whole),
        fun _ => ⟨⟨fun _ => whole, fun _ => ipxSendPacket_success_of_whole whole⟩,
          fun short => absurd whole short, fun short => absurd whole short⟩⟩
    · obtain ⟨successIff, unsent⟩ := ipxSendPacket_of_short (s := s) nowhere whole
      constructor
      · -- An error is returned, so every result was 0 and the last error is one.
        intro reports
        have error : ¬ (ipxSendPacket env p s).1 = ERROR_SUCCESS :=
          fun success => whole (reports.success.mp success)
        rw [successIff, not_or] at error
        obtain ⟨zero, last⟩ := error
        exact Or.inr (Or.inr ⟨fun r member => not_not.mp fun ne => zero ⟨r, member, ne⟩, last⟩)
      · intro told
        rcases told with none | sent | ⟨zero, last⟩
        · exact absurd none nonempty
        · exact absurd sent whole
        · have error : ¬ (ipxSendPacket env p s).1 = ERROR_SUCCESS := by
            rw [successIff, not_or]
            exact ⟨fun ⟨r, member, ne⟩ => ne (zero r member), last⟩
          refine ⟨⟨fun success => absurd success error, fun sent => absurd sent whole⟩,
            fun _ => unsent zero, fun _ call underlying w sendEq sends => ?_⟩
          subst sendEq
          exact sendto_value_of_error sends error

/-! ## A send that fails and is not reported -/

/-- An interface with one IP address; `r_sendto` fails with `WSAENETUNREACH`. -/
def failingSend : SendEnv where
  hostTable := []
  now := 0
  cache := ⟨[⟨1, 0x010000000000, [⟨0x0100007F, 0x000000FF, 0xFFFFFF7F⟩]⟩], true⟩
  udpPort := 54792
  malloc := true
  rSendto := fun _ => -1
  lastError := fun _ => WSAENETUNREACH

/-- An empty packet from that interface. -/
def emptyPacket : OutgoingPacket :=
  ⟨0, 1, 0x010000000000, 0x0040, 1, bcastNode, 0x0050, [], by decide⟩

/-- `ipx_send_packet` takes the -1 for success and delivers the packet. -/
theorem failingSend_not_reportsFailures :
    ¬ ReportsFailures failingSend emptyPacket ⟨[], [], 0, 0, 0, 0⟩ := by
  intro reports
  exact absurd (reports.success.mp (by decide)) (by decide)

end IpxWrapper
