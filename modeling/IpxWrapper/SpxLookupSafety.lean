import IpxWrapper.SpxNetworkSteps

/-!
# Where `_connect_spx` connects to

A reply that is taken was sent by a host on which a socket listened at the address asked
for. That was after the call began, or else after an earlier one did that looked up the
same address from the same host and had the same UDP port: nothing in a reply tells
which request it is for.
-/

namespace IpxWrapper

open Base

/-- In the step `m` the call with the lookup `k` begins. -/
structure Begins (k : Nat) (lookup : Lookup) (m : Move SpxInput SpxNet) : Prop where
  input : ∃ addrlen cache ips, m.input =
    .connect lookup.proc lookup.fd lookup.ipxaddr addrlen cache lookup.port ips
  before : m.before.lookups.length = k
  after : m.after.lookups.length = k + 1

/-- In the step `m` process `p` on the host at `ip` sends a reply; its socket `sock` listens on
the TCP port `port`, and is bound to `ipxaddr`. -/
structure RepliesFor (hostOf : UInt32 → Option Nat) (ip : UInt32) (port : UInt16)
    (ipxaddr : SockaddrIpx) (m : Move SpxInput SpxNet) (a : LookupAnswer) (p : Process)
    (sock : IpxSocket) : Prop where
  input : ∃ request fds, m.input = .serve a.proc request fds ip
  at_proc : m.before.procs[a.proc]? = some p
  host : hostOf ip = some p.host
  at_fd : (p.world.sockets a.fd).map TableEntry.sock = some sock
  isSpx : sock.flags.isSpx = true
  listening : sock.flags.listening = true
  bound : sock.flags.bound = true
  asks : AsksFor ipxaddr.netnum ipxaddr.nodenum ipxaddr.socket sock.addr
  ported : sock.port = port
  tcp : p.tcp a.fd = .listening port
  sent : m.after.answers = m.before.answers ++ [a]
  reply : a.reply = ⟨ipxaddr.netnum, ipxaddr.nodenum, ipxaddr.socket, port⟩

/-- Both look up one address, from one host and UDP port. -/
structure SameRequests (hosts : List Nat) (lookup lookup' : Lookup) : Prop where
  host : hosts[lookup.proc]? = hosts[lookup'.proc]?
  port : lookup.port = lookup'.port
  req : lookup.req = lookup'.req

section History

variable {hostOf : UInt32 → Option Nat} {hosts : List Nat} {past : List (Move SpxInput SpxNet)}
  {s : SpxNet}

/-- The socket for `lookup` sends from `ip` and `port`. -/
structure SendsFrom (hostOf : UInt32 → Option Nat) (hosts : List Nat) (lookup : Lookup)
    (ip : UInt32) (port : UInt16) : Prop where
  proc : lookup.proc < hosts.length
  host : hostOf ip = hosts[lookup.proc]?
  port : port = lookup.port

/-- The lookup began before the `n`th step. -/
def Began (past : List (Move SpxInput SpxNet)) (n k : Nat) (lookup : Lookup) : Prop :=
  ∃ b m, b < n ∧ past[b]? = some m ∧ Begins k lookup m

/-- The answer was sent after a lookup began that had asked for it. -/
def WasSent (hostOf : UInt32 → Option Nat) (hosts : List Nat)
    (past : List (Move SpxInput SpxNet)) (a : LookupAnswer) : Prop :=
  ∃ c m k lookup p sock, past[c]? = some m ∧ Began past c k lookup ∧
    SendsFrom hostOf hosts lookup a.toIp a.toPort ∧
      RepliesFor hostOf a.ip a.reply.port lookup.ipxaddr m a p sock

/-- What the steps so far tell about the state. -/
structure HistoryInv (hostOf : UInt32 → Option Nat) (hosts : List Nat)
    (past : List (Move SpxInput SpxNet)) (s : SpxNet) : Prop where
  processes : s.ProcessesInv
  placed : s.procs.map Process.host = hosts
  lookups : ∀ (k : Nat) (lookup : Lookup), s.lookups[k]? = some lookup →
    Began past past.length k lookup
  requests : ∀ q ∈ s.requests, ∃ (k : Nat) (lookup : Lookup), s.lookups[k]? = some lookup ∧
    q.req = lookup.req ∧ SendsFrom hostOf hosts lookup q.ip q.port
  answers : ∀ a ∈ s.answers, WasSent hostOf hosts past a
  grows : ∀ m ∈ past, m.after.lookups.length ≤ s.lookups.length

variable {lookup lookup' : Lookup} {k : Nat} {input : SpxInput} {s' : SpxNet}

theorem getElem?_append_of_some {m : Move SpxInput SpxNet} {i : Nat}
    (at_i : past[i]? = some m) (later : List (Move SpxInput SpxNet)) :
    (past ++ later)[i]? = some m := by
  obtain ⟨bound, -⟩ := List.getElem?_eq_some_iff.mp at_i
  rw [List.getElem?_append_left bound]
  exact at_i

theorem Began.append {n n' : Nat} (began : Began past n k lookup) (later : n ≤ n')
    (m : Move SpxInput SpxNet) : Began (past ++ [m]) n' k lookup := by
  obtain ⟨b, m', before, at_b, begins⟩ := began
  exact ⟨b, m', by omega, getElem?_append_of_some at_b [m], begins⟩

theorem WasSent.append {a : LookupAnswer} (sent : WasSent hostOf hosts past a)
    (m : Move SpxInput SpxNet) : WasSent hostOf hosts (past ++ [m]) a := by
  obtain ⟨c, m', k, lookup, p, sock, at_c, began, sends, replies⟩ := sent
  exact ⟨c, m', k, lookup, p, sock, getElem?_append_of_some at_c [m], began.append le_rfl m, sends,
    replies⟩

theorem SameLookup.began (same : SameLookup lookup lookup') {n : Nat}
    (began : Began past n k lookup) : Began past n k lookup' := by
  obtain ⟨b, m, before, at_b, ⟨addrlen, cache, ips, input⟩, new, after⟩ := began
  refine ⟨b, m, before, at_b, ⟨addrlen, cache, ips, ?_⟩, new, after⟩
  rw [input, same.proc, same.fd, same.ipxaddr, same.port]

theorem SameLookup.req (same : SameLookup lookup lookup') : lookup'.req = lookup.req := by
  unfold Lookup.req
  rw [same.ipxaddr]

theorem SameLookup.sendsFrom (same : SameLookup lookup lookup') {ip : UInt32} {port : UInt16}
    (sends : SendsFrom hostOf hosts lookup ip port) : SendsFrom hostOf hosts lookup' ip port where
  proc := by
    rw [same.proc]
    exact sends.proc
  host := by
    rw [same.proc]
    exact sends.host
  port := by
    rw [same.port]
    exact sends.port

/-- A process is on the host that it has been on from the start. -/
theorem HistoryInv.host_of (inv : HistoryInv hostOf hosts past s) {i : Nat} {p : Process}
    (at_i : s.procs[i]? = some p) : hosts[i]? = some p.host := by
  rw [← inv.placed, List.getElem?_map, at_i]
  rfl

theorem HistoryInv.sendsFrom (inv : HistoryInv hostOf hosts past s) {p : Process}
    (at_proc : s.procs[lookup.proc]? = some p) {ips : List UInt32}
    (allowed : ∀ ip ∈ ips, hostOf ip = some p.host) {q : LookupRequest}
    (sent : q ∈ lookup.batch ips) :
    q.req = lookup.req ∧ SendsFrom hostOf hosts lookup q.ip q.port := by
  obtain ⟨ip, member, rfl⟩ := List.mem_map.mp sent
  have host := inv.host_of at_proc
  obtain ⟨bound, -⟩ := List.getElem?_eq_some_iff.mp host
  exact ⟨rfl, bound, (allowed ip member).trans host.symm, rfl⟩

/-- A lookup stays, and its call is the same. -/
theorem LookupEffect.keeps {lookups : List Lookup} {requests : List LookupRequest}
    (effect : LookupEffect hostOf s input lookups requests) (at_k : s.lookups[k]? = some lookup) :
    ∃ lookup', lookups[k]? = some lookup' ∧ SameLookup lookup lookup' := by
  obtain ⟨bound, -⟩ := List.getElem?_eq_some_iff.mp at_k
  cases effect with
  | same => exact ⟨lookup, at_k, rfl, rfl, rfl, rfl, rfl⟩
  | begins =>
      rw [List.getElem?_append_left bound]
      exact ⟨lookup, at_k, rfl, rfl, rfl, rfl, rfl⟩
  | goesOn at_j same =>
      rw [List.getElem?_set]
      split
      case isTrue here =>
        subst here
        obtain rfl := Option.some.inj (at_j.symm.trans at_k)
        exact ⟨_, if_pos bound, same⟩
      case isFalse => exact ⟨lookup, at_k, rfl, rfl, rfl, rfl, rfl⟩

theorem LookupEffect.grows {lookups : List Lookup} {requests : List LookupRequest}
    (effect : LookupEffect hostOf s input lookups requests) :
    s.lookups.length ≤ lookups.length := by
  cases effect with
  | same => exact Nat.le_refl _
  | begins =>
      rw [List.length_append]
      exact Nat.le_add_right _ _
  | goesOn =>
      rw [List.length_set]

theorem HistoryInv.lookups_step (inv : HistoryInv hostOf hosts past s)
    (effect : LookupEffect hostOf s input s'.lookups s'.requests)
    (found : s'.lookups[k]? = some lookup) :
    Began (past ++ [⟨s, input, s'⟩]) (past.length + 1) k lookup := by
  have old (at_k : s.lookups[k]? = some lookup) :
      Began (past ++ [⟨s, input, s'⟩]) (past.length + 1) k lookup :=
    (inv.lookups k lookup at_k).append (Nat.le_succ _) _
  generalize after : s'.lookups = lookups at effect found
  generalize s'.requests = requests at effect
  cases effect with
  | same => exact old found
  | begins at_proc =>
      rcases Nat.lt_or_ge k s.lookups.length with before | new
      · rw [List.getElem?_append_left before] at found
        exact old found
      · rw [List.getElem?_append_right new] at found
        rw [List.getElem?_singleton] at found
        split at found
        case isTrue last =>
          obtain rfl := Option.some.inj found
          refine ⟨past.length, _, Nat.lt_succ_self _, List.getElem?_concat_length,
            ⟨_, _, _, rfl⟩, by dsimp only; omega, ?_⟩
          rw [after, List.length_append, List.length_singleton]
          omega
        case isFalse => cases found
  | goesOn at_j same =>
      rw [List.getElem?_set] at found
      split at found
      case isTrue here =>
        subst here
        split at found
        · obtain rfl := Option.some.inj found
          exact same.began ((inv.lookups _ _ at_j).append (Nat.le_succ _) _)
        · cases found
      case isFalse => exact old found

theorem HistoryInv.requests_step (inv : HistoryInv hostOf hosts past s)
    {lookups : List Lookup} {requests : List LookupRequest}
    (effect : LookupEffect hostOf s input lookups requests) {q : LookupRequest}
    (member : q ∈ requests) :
    ∃ (k : Nat) (lookup : Lookup), lookups[k]? = some lookup ∧ q.req = lookup.req ∧
      SendsFrom hostOf hosts lookup q.ip q.port := by
  have old (member : q ∈ s.requests) : ∃ (k : Nat) (lookup : Lookup),
      lookups[k]? = some lookup ∧ q.req = lookup.req ∧ SendsFrom hostOf hosts lookup q.ip q.port := by
    obtain ⟨k, lookup, at_k, req, sends⟩ := inv.requests q member
    obtain ⟨lookup', at_k', same⟩ := effect.keeps at_k
    exact ⟨k, lookup', at_k', req.trans same.req.symm, same.sendsFrom sends⟩
  cases effect with
  | same => exact old member
  | begins at_proc allowed =>
      rcases List.mem_append.mp member with before | sent
      · exact old before
      · obtain ⟨req, sends⟩ := inv.sendsFrom at_proc allowed sent
        exact ⟨s.lookups.length, _, List.getElem?_concat_length, req, sends⟩
  | goesOn at_k same at_proc allowed =>
      rcases List.mem_append.mp member with before | sent
      · exact old before
      · obtain ⟨req, sends⟩ := inv.sendsFrom at_proc allowed sent
        obtain ⟨bound, -⟩ := List.getElem?_eq_some_iff.mp at_k
        exact ⟨_, _, List.getElem?_set_self bound, req.trans same.req.symm, same.sendsFrom sends⟩

/-- The socket that a reply is for has its port. -/
theorem Replies.repliesFor {q : LookupRequest} {a : LookupAnswer} {p : Process} {e : TableEntry}
    (replies : Replies hostOf s q a p e) (inv : ProcessInv p) {request : Nat} {fds : List Nat}
    (sent : s'.answers = s.answers ++ [a]) (req : q.req = lookup.req) :
    RepliesFor hostOf a.ip a.reply.port lookup.ipxaddr
      ⟨s, .serve a.proc request fds a.ip, s'⟩ a p e.sock := by
  have agrees := inv.agrees a.fd e replies.at_fd replies.isSpx
  obtain ⟨bound, tcp⟩ := agrees.listening replies.listening
  have asks := replies.asks
  have reply := replies.reply
  rw [req] at asks reply
  have port : a.reply.port = e.sock.port := congrArg SpxlookupReply.port reply
  refine ⟨⟨request, fds, rfl⟩, replies.at_proc, replies.host, ?_, replies.isSpx,
    replies.listening, bound, asks, port.symm, ?_, sent, ?_⟩
  · rw [replies.at_fd]
    rfl
  · rw [tcp, port]
  · rw [port]
    exact reply

theorem HistoryInv.answers_step (inv : HistoryInv hostOf hosts past s)
    (effect : SpxEffect hostOf s input s') {a : LookupAnswer} (member : a ∈ s'.answers) :
    WasSent hostOf hosts (past ++ [⟨s, input, s'⟩]) a := by
  rcases effect.answers with same | ⟨q, a', p, e, request, fds, at_request, replies, rfl, sent⟩
  · rw [same] at member
    exact (inv.answers a member).append _
  · rw [sent, List.mem_append, List.mem_singleton] at member
    rcases member with before | rfl
    · exact (inv.answers a before).append _
    · obtain ⟨k, lookup, at_k, req, sends⟩ :=
        inv.requests q (List.mem_of_getElem? at_request)
      refine ⟨past.length, _, k, lookup, p, e.sock, List.getElem?_concat_length,
        (inv.lookups k lookup at_k).append le_rfl _, ?_,
        replies.repliesFor (inv.processes a.proc p replies.at_proc) sent req⟩
      rw [replies.toIp, replies.toPort]
      exact sends

theorem HistoryInv.step (inv : HistoryInv hostOf hosts past s)
    (enabled : spxStep hostOf input s = some s') :
    HistoryInv hostOf hosts (past ++ [⟨s, input, s'⟩]) s' := by
  have effect := spxStep_effect inv.processes enabled
  constructor
  · exact effect.procs.inv inv.processes
  · rw [effect.procs.hosts]
    exact inv.placed
  · intro k lookup found
    rw [List.length_append]
    exact inv.lookups_step effect.lookups found
  · intro q member
    exact inv.requests_step effect.lookups member
  · intro a member
    exact inv.answers_step effect member
  · intro m member
    rcases List.mem_append.mp member with before | last
    · exact (inv.grows m before).trans effect.lookups.grows
    · rw [List.mem_singleton.mp last]

theorem HistoryInv.start (hostOf : UInt32 → Option Nat) (hosts : List Nat) :
    HistoryInv hostOf hosts [] (SpxNet.start hosts) where
  processes := by
    intro i p found
    obtain ⟨host, -, rfl⟩ := List.mem_map.mp (List.mem_of_getElem? found)
    exact ⟨fun fd e => nofun, fun fd e => nofun⟩
  placed := by
    unfold SpxNet.start
    rw [List.map_map]
    exact List.map_id _
  lookups := fun k lookup => nofun
  requests := fun q => nofun
  answers := fun a => nofun
  grows := fun m => nofun

theorem spxMoves_historyInv (hostOf : UInt32 → Option Nat) (hosts : List Nat)
    (inputs : List SpxInput) {n : Nat} {m : Move SpxInput SpxNet}
    (at_n : (spxMoves hostOf hosts inputs)[n]? = some m) :
    HistoryInv hostOf hosts ((spxMoves hostOf hosts inputs).take n) m.before :=
  moves_history (I := HistoryInv hostOf hosts) (.start hostOf hosts)
    (fun _ _ inv enabled => inv.step enabled) at_n

end History

/-! ## Connections -/

/-- If a call of `_connect_spx` connects in the step: the number of its lookup, the lookup, and
the IP address and port. -/
def opensConnection (hostOf : UInt32 → Option Nat) (m : Move SpxInput SpxNet) :
    Option (Nat × Lookup × UInt32 × UInt16) :=
  match m.input with
  | .wake k event env _ _ =>
      match m.before.lookups[k]? with
      | none => none
      | some lookup =>
          match m.before.woken hostOf lookup event env.cache with
          | .connects _ _ _ _ ip port => some (k, lookup, ip, port)
          | _ => none
  | _ => none

/-- In step `c` the host at `ip` replies for a socket that listens on `port`. -/
def RepliedAt (hostOf : UInt32 → Option Nat) (steps : List (Move SpxInput SpxNet)) (c : Nat)
    (ip : UInt32) (port : UInt16) (ipxaddr : SockaddrIpx) : Prop :=
  ∃ m a p sock, steps[c]? = some m ∧ RepliesFor hostOf ip port ipxaddr m a p sock

/-- Where a call connects to, the host has replied since the call began. -/
def RepliedSince (hostOf : UInt32 → Option Nat) (steps : List (Move SpxInput SpxNet)) : Prop :=
  ∀ (n : Nat) m k lookup ip port, steps[n]? = some m →
    opensConnection hostOf m = some (k, lookup, ip, port) →
      ∃ c < n, RepliedAt hostOf steps c ip port lookup.ipxaddr ∧ Began steps c k lookup

section Connections

variable {hostOf : UInt32 → Option Nat} {hosts : List Nat} {steps : List (Move SpxInput SpxNet)}
  {s : SpxNet} {lookup : Lookup} {n k : Nat}

theorem getElem?_of_take {m : Move SpxInput SpxNet} {i : Nat} (at_i : (steps.take n)[i]? = some m) :
    i < n ∧ steps[i]? = some m := by
  rw [List.getElem?_take] at at_i
  split at at_i
  case isTrue before => exact ⟨before, at_i⟩
  case isFalse => cases at_i

theorem Began.of_take {c : Nat} (began : Began (steps.take n) c k lookup) :
    Began steps c k lookup := by
  obtain ⟨b, m, before, at_b, begins⟩ := began
  exact ⟨b, m, before, (getElem?_of_take at_b).2, begins⟩

theorem opensConnection_reaches {m : Move SpxInput SpxNet} {ip : UInt32} {port : UInt16}
    (opens : opensConnection hostOf m = some (k, lookup, ip, port)) :
    ∃ p e sock a, m.before.lookups[k]? = some lookup ∧ a ∈ m.before.answers ∧ ip = a.ip ∧
      port = a.reply.port ∧ Reaches hostOf m.before lookup a p e sock := by
  unfold opensConnection at opens
  split at opens
  case h_2 => cases opens
  case h_1 j event env target batch input =>
    split at opens
    case h_1 => cases opens
    case h_2 lookup' at_j =>
      split at opens
      case h_2 => cases opens
      case h_1 a p e sock ip' port' woken =>
        cases opens
        obtain ⟨i, -, at_i, same_ip, same_port, reaches⟩ := woken_connects woken
        exact ⟨p, e, sock, a, at_j, List.mem_of_getElem? at_i, same_ip, same_port, reaches⟩

/-- What a call takes as the reply was sent for a lookup with the same requests. -/
theorem HistoryInv.replied (inv : HistoryInv hostOf hosts (steps.take n) s)
    {m : Move SpxInput SpxNet} (before : m.before = s) {ip : UInt32} {port : UInt16}
    (opens : opensConnection hostOf m = some (k, lookup, ip, port)) :
    Began steps n k lookup ∧ ∃ c < n, RepliedAt hostOf steps c ip port lookup.ipxaddr ∧
      ∃ k' lookup', Began steps c k' lookup' ∧ SameRequests hosts lookup' lookup := by
  subst before
  obtain ⟨p, e, sock, a, at_k, sent, rfl, rfl, reaches⟩ := opensConnection_reaches opens
  have began := (inv.lookups k lookup at_k).of_take
  obtain ⟨c, m', k', lookup', p', sock', at_c, began', sends, replies⟩ :=
    inv.answers a sent
  obtain ⟨bound, at_c⟩ := getElem?_of_take at_c
  have taken := reaches.takes
  have netnum : lookup'.ipxaddr.netnum = lookup.ipxaddr.netnum :=
    (congrArg SpxlookupReply.netnum replies.reply).symm.trans taken.netnum
  have nodenum : lookup'.ipxaddr.nodenum = lookup.ipxaddr.nodenum :=
    (congrArg SpxlookupReply.nodenum replies.reply).symm.trans taken.nodenum
  have socket : lookup'.ipxaddr.socket = lookup.ipxaddr.socket :=
    (congrArg SpxlookupReply.socket replies.reply).symm.trans taken.socket
  refine ⟨?_, c, bound, ⟨m', a, p', sock', at_c, ?_⟩, k', lookup', began'.of_take, ?_⟩
  · obtain ⟨b, mb, before, at_b, begins⟩ := began
    have short : (steps.take n).length ≤ n := List.length_take_le n steps
    exact ⟨b, mb, Nat.lt_of_lt_of_le before short, at_b, begins⟩
  · have asks := replies.asks
    have reply := replies.reply
    rw [netnum, nodenum, socket] at asks reply
    exact { replies with asks := asks, reply := reply }
  · refine ⟨?_, sends.port.symm.trans reaches.port, ?_⟩
    · rw [← sends.host, reaches.host, inv.host_of reaches.at_proc]
    · unfold Lookup.req
      rw [netnum, nodenum, socket]

end Connections

/-- Where a call connects to, the host has replied since it or an earlier call began that
looked up the same address from the same host and UDP port. -/
theorem spxMoves_replied (hostOf : UInt32 → Option Nat) (hosts : List Nat)
    (inputs : List SpxInput) {n k : Nat} {m : Move SpxInput SpxNet} {lookup : Lookup}
    {ip : UInt32} {port : UInt16} (at_n : (spxMoves hostOf hosts inputs)[n]? = some m)
    (opens : opensConnection hostOf m = some (k, lookup, ip, port)) :
    ∃ c < n, RepliedAt hostOf (spxMoves hostOf hosts inputs) c ip port lookup.ipxaddr ∧
      (Began (spxMoves hostOf hosts inputs) c k lookup ∨
        ∃ k' < k, ∃ lookup', Began (spxMoves hostOf hosts inputs) c k' lookup' ∧
          SameRequests hosts lookup' lookup) := by
  have inv := spxMoves_historyInv hostOf hosts inputs at_n
  obtain ⟨began, c, before, replied, k', lookup', began', same⟩ := inv.replied rfl opens
  refine ⟨c, before, replied, ?_⟩
  obtain ⟨b, mb, -, at_b, begins⟩ := began
  rcases Nat.lt_or_ge b c with since | later
  · exact Or.inl ⟨b, mb, since, at_b, begins⟩
  · refine Or.inr ⟨k', ?_, lookup', began', same⟩
    -- The earlier lookup was there when this one began.
    obtain ⟨b', mb', before', at_b', begins'⟩ := began'
    have inv_b := spxMoves_historyInv hostOf hosts inputs at_b
    have past : ((spxMoves hostOf hosts inputs).take b)[b']? = some mb' := by
      rw [List.getElem?_take_of_lt (Nat.lt_of_lt_of_le before' later)]
      exact at_b'
    have there := inv_b.grows mb' (List.mem_of_getElem? past)
    rw [begins'.after, begins.before] at there
    exact there

/-! ## A reply that comes late -/

/-- Host 0 has the first address and host 1 the second. -/
def lanHostOf (ip : UInt32) : Option Nat :=
  if ip = 0x0100000A then some 0 else if ip = 0x0200000A then some 1 else none

def lanCache (node : Addr48) (ip : UInt32) : InterfaceCache :=
  ⟨[⟨1, node, [⟨ip, 0x00FFFFFF, 0xFF00000A⟩]⟩], true⟩

/-- A process makes a stream socket, in memory that is all zero. -/
def socketInput (proc fd : Nat) : SpxInput :=
  .call proc
    (.socket AF_IPX SOCK_STREAM 0
      ⟨some ⟨0, 0, {}, 0, 0, ⟨0, 0, 0, 0⟩, 0, ⟨0, 0, 0, 0⟩, 0⟩, none, none, some fd⟩) 0 0

/-- Process 0 makes a socket, binds it to a socket number and port 5000, and listens. -/
def listenInputs (fd handle : Nat) (socket : UInt16) : List SpxInput :=
  [socketInput 0 fd,
    .call 0
      (.bind fd ⟨AF_IPX, 1, 0, htons socket⟩ 14
        ⟨lanCache 0x10000 0x0100000A, ⟨fun _ => .created, handle⟩, true, some 5000⟩) 0 5000,
    .call 0 (.listen fd) 0 0]

/-- The process on host 1 connects to `addr`, and its lookup gets port 6000. -/
def connectInput (addr : SockaddrIpx) : SpxInput :=
  .connect 1 4 addr 14 (lanCache 0x20000 0x0200000A) 6000 [0x0200000A]

/-- A socket of process 0 listens, and has replied to a lookup of process 1. -/
def lookupInputs (addr : SockaddrIpx) : List SpxInput :=
  listenInputs 3 7 0x4000 ++ [socketInput 1 4, connectInput addr, .serve 0 0 [3] 0x0100000A]

def connectingEnv : ConnectEnv where
  bind := ⟨lanCache 0x20000 0x0200000A, ⟨fun _ => .created, 9⟩, true, some 7000⟩
  cache := lanCache 0x20000 0x0200000A
  packet := true
  lookupFd := true
  lookupBind := true
  tries := fun _ => ⟨fun _ => true, []⟩
  rConnect := fun _ _ => .connected
  rGetsockname := some 7000
  mutex := ⟨fun _ => .created, 9⟩
  spxinit := true

/-- The address of the socket of process 0. -/
def listenerAddr : SockaddrIpx := ⟨AF_IPX, 1, 0x10000, htons 0x4000⟩

/-- No reply comes while the first lookup waits. The socket of process 0 is closed, and another
has its port; then a reply comes to the second lookup, which has the port of the first. -/
def staleReplyRun : List SpxInput :=
  lookupInputs listenerAddr ++
    [.wake 0 (.received none) connectingEnv none (some [0x0200000A]),
      .wake 0 (.received none) connectingEnv none (some [0x0200000A]),
      .wake 0 (.received none) connectingEnv none (some [0x0200000A]),
      .call 0 (.closesocket 3) 0 0] ++
    listenInputs 6 8 0x5000 ++
    [connectInput listenerAddr, .wake 1 (.received (some 0)) connectingEnv (some (0, 6)) none]

/-- The second call connects to a host that has not replied since it began. -/
theorem staleReplyRun_not_repliedSince :
    ¬ RepliedSince lanHostOf (spxMoves lanHostOf [0, 1] staleReplyRun) := by
  intro safe
  have opens : ((spxMoves lanHostOf [0, 1] staleReplyRun)[14]?).bind (opensConnection lanHostOf) =
      some (1, ⟨1, 4, 0, listenerAddr, 6000, 2, false⟩, 0x0100000A, 5000) := by
    decide
  obtain ⟨m, at_n, opens⟩ := Option.bind_eq_some_iff.mp opens
  obtain ⟨c, before, -, b, mb, since, at_b, begins⟩ := safe 14 m _ _ _ _ at_n opens
  have early : ∀ b < 13, ((spxMoves lanHostOf [0, 1] staleReplyRun)[b]?).map
      (fun m => m.after.lookups.length) ≠ some 2 := by
    decide
  refine early b (by omega) ?_
  rw [at_b, Option.map_some, begins.after]

/-- The first call connects, once a reply has come. -/
def repliedRun : List SpxInput :=
  lookupInputs listenerAddr ++ [.wake 0 (.received (some 0)) connectingEnv (some (0, 3)) none]

theorem repliedRun_replied :
    ∃ c < 6, RepliedAt lanHostOf (spxMoves lanHostOf [0, 1] repliedRun) c 0x0100000A 5000
        listenerAddr ∧
      (Began (spxMoves lanHostOf [0, 1] repliedRun) c 0
          ⟨1, 4, 0, listenerAddr, 6000, 2, false⟩ ∨
        ∃ k' < 0, ∃ lookup', Began (spxMoves lanHostOf [0, 1] repliedRun) c k' lookup' ∧
          SameRequests [0, 1] lookup' ⟨1, 4, 0, listenerAddr, 6000, 2, false⟩) := by
  have opens : ((spxMoves lanHostOf [0, 1] repliedRun)[6]?).bind (opensConnection lanHostOf) =
      some (0, ⟨1, 4, 0, listenerAddr, 6000, 2, false⟩, 0x0100000A, 5000) := by
    decide
  obtain ⟨m, at_n, opens⟩ := Option.bind_eq_some_iff.mp opens
  exact spxMoves_replied lanHostOf [0, 1] repliedRun at_n opens

end IpxWrapper
