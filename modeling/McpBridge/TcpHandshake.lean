import McpBridge.TcpClient

/-!
`TCPClient.Connect` against the gateway's TCP frontend, as two parties that exchange frames. The client offers a range
of versions and waits, until a deadline, for an acknowledgement. The frontend handles only requests: it never
acknowledges.
-/
namespace McpBridge.TcpHandshake
open Runs Values Transparency WireTransport TcpFrontend MessageType

structure VersionRange where
  min : UInt16
  max : UInt16

def VersionRange.Has (range : VersionRange) (version : UInt16) : Prop := range.min ≤ version ∧ version ≤ range.max

instance (range : VersionRange) (version : UInt16) : Decidable (range.Has version) := inferInstanceAs (Decidable (_ ∧ _))

def negotiateVersion (client server : VersionRange) : Except String UInt16 :=
  let minSupported := if client.min < server.min then server.min else client.min
  let maxSupported := if server.max < client.max then server.max else client.max
  if maxSupported < minSupported then
    .error ("no compatible protocol version: client supports " ++ toString client.min ++ "-" ++ toString client.max ++
      ", server supports " ++ toString server.min ++ "-" ++ toString server.max)
  else .ok maxSupported

theorem negotiateVersion_eq_ok_iff {client server : VersionRange} {version : UInt16} :
    negotiateVersion client server = .ok version ↔
      (client.Has version ∧ server.Has version) ∧ (version = client.max ∨ version = server.max) := by
  unfold negotiateVersion VersionRange.Has
  simp only [UInt16.lt_iff_toNat_lt,UInt16.le_iff_toNat_le,← UInt16.toNat_inj]
  split
  next above =>
    split <;> split <;> simp only [reduceCtorEq,Except.ok.injEq,← UInt16.toNat_inj,false_iff] <;> omega
  next below =>
    split <;> split <;> simp only [reduceCtorEq,Except.ok.injEq,← UInt16.toNat_inj,false_iff] <;> omega

/-- The client's offer, the version of its frames and the server's range. -/
structure Handshake where
  client : VersionRange
  preferred : UInt16
  supported : List UInt16
  protocolVersion : UInt16
  server : VersionRange

/-- The text of the client's map; `json.Marshal` orders its keys. -/
def Handshake.negotiation (h : Handshake) : Any :=
  .object [("max_version",.number h.client.max.toNat),("min_version",.number h.client.min.toNat),
    ("preferred_version",.number h.preferred.toNat),
    ("supported_versions",.array (h.supported.map fun version => .number version.toNat))]

/-- The conversion of a `float64` to `uint16`, which drops the fraction and, usually, the high bits. -/
def toUint16 (q : Rat) : UInt16 := .ofNat ((if 0 ≤ q then q.floor else q.ceil) % 2 ^ 16).toNat

/-- The version that `performHandshake` takes from a frame. -/
def readAck (frame : Frame) : Except String UInt16 :=
  if frame.messageType ≠ versionAck then
    .error ("expected version ack, got message type: " ++ toString frame.messageType.toNat)
  else
    match frame.payload.unmarshal unmarshalMap with
    | .error err => .error ("failed to unmarshal version ack: " ++ err)
    | .ok ack =>
      match ack.bind (memberOf "agreed_version") with
      | some (.number q) => .ok (toUint16 q)
      | _ => .error "invalid version ack format"

inductive Connect where
  | start
  | awaiting (deadline : Nat)
  | connected (version : UInt16)
  | failed (err : String)

/-- Frames travel with the version in their header. -/
structure State where
  now : Nat := 0
  client : Connect := .start
  toFrontend : List (UInt16 × Frame) := []
  toClient : List Frame := []
  serving : Bool := true

inductive Label where
  | connect
  | serve (route : Request → Routed)
  | shutdown
  | tick (seconds : Nat)
  | read
  | timeout (cause : String)
  | closed

def defaultRetryCount : Nat := 10

/-- `Decode` refuses a version outside the server's range, and the loop returns. -/
def serveFrame (h : Handshake) (route : Request → Routed) (sent : UInt16 × Frame) : Turn :=
  if h.server.Has sent.1 then handleMessage route sent.2 else .stop

def finalizeConnection : Except String UInt16 → Connect
  | .ok version => .connected version
  | .error err => .failed ("handshake failed: " ++ err)

def failedRead (cause : String) : Except String UInt16 :=
  .error ("failed to read version ack: failed to read magic bytes: " ++ cause)

/-- One step of the client or of the frontend. -/
def step (h : Handshake) (s : State) : Label → Option State
  | .connect =>
    match s.client with
    | .start => some { s with
        client := .awaiting (s.now + defaultRetryCount)
        toFrontend := s.toFrontend ++ [(h.protocolVersion,⟨versionNegotiation,.json h.negotiation⟩)] }
    | _ => none
  | .serve route =>
    match s.toFrontend with
    | sent :: rest =>
      if s.serving then
        match serveFrame h route sent with
        | .stop => some { s with toFrontend := rest, serving := false }
        | .next => some { s with toFrontend := rest }
        | .write text => some { s with toFrontend := rest, toClient := s.toClient ++ [responseFrame text] }
      else none
    | [] => none
  | .shutdown => if s.serving then some { s with serving := false } else none
  | .tick seconds => some { s with now := s.now + seconds }
  | .read =>
    match s.client,s.toClient with
    | .awaiting deadline,frame :: rest =>
      if s.now < deadline then some { s with client := finalizeConnection (readAck frame), toClient := rest } else none
    | _,_ => none
  | .timeout cause =>
    match s.client with
    | .awaiting deadline =>
      if deadline ≤ s.now then some { s with client := finalizeConnection (failedRead cause) } else none
    | _ => none
  | .closed =>
    match s.client,s.toClient with
    | .awaiting _,[] =>
      if s.serving then none
      else some { s with client := finalizeConnection (failedRead "connection closed unexpectedly") }
    | _,_ => none

/-- Nothing is on its way to the client, only offers to the frontend, and the client is not connected. -/
structure Unacknowledged (s : State) : Prop where
  silent : s.toClient = []
  offers : ∀ sent ∈ s.toFrontend, sent.2.messageType = versionNegotiation
  unconnected : ∀ version, s.client ≠ .connected version

variable (h : Handshake)

theorem serveFrame_offer (route : Request → Routed) {sent : UInt16 × Frame}
    (offer : sent.2.messageType = versionNegotiation) (text : Any) :
    serveFrame h route sent ≠ .write text := by
  unfold serveFrame
  split
  next =>
    apply handleMessage_other
    rw [offer]
    decide
  next => exact fun same => by cases same

theorem step_unacknowledged (s : State) (label : Label) (next : State) (quiet : Unacknowledged s)
    (taken : step h s label = some next) : Unacknowledged next := by
  obtain ⟨silent,offers,unconnected⟩ := quiet
  revert taken
  fun_cases step h s label <;> rintro ⟨⟩
  case case1 =>
    refine ⟨silent,?_,fun version same => by cases same⟩
    intro sent listed
    obtain earlier | here := List.mem_append.mp listed
    · exact offers sent earlier
    · rw [List.mem_singleton.mp here]
  case case3 waiting _ _ | case4 waiting _ _ =>
    rw [waiting] at offers
    exact ⟨silent,fun other listed => offers other (List.mem_cons_of_mem _ listed),unconnected⟩
  case case5 route sent rest waiting _ text written =>
    exact absurd written (serveFrame_offer h route (offers sent (by rw [waiting]; exact List.mem_cons_self)) text)
  case case8 | case10 => exact ⟨silent,offers,unconnected⟩
  case case11 arrived _ _ =>
    rw [silent] at arrived
    cases arrived
  case case14 | case18 => exact ⟨silent,offers,nofun⟩

theorem reached_unacknowledged {labels : List Label} {t : State} (executed : run (step h) {} labels = some t) : Unacknowledged t :=
  reaches_keeps (step_unacknowledged h) ⟨rfl,fun _ listed => absurd listed List.not_mem_nil,fun _ same => by cases same⟩
    ⟨labels,executed⟩

/-- `Connect` completes in some run, with a version that both sides have. -/
def Completes (h : Handshake) : Prop :=
  ∃ labels t version, run (step h) {} labels = some t ∧ t.client = .connected version ∧ h.client.Has version ∧
    h.server.Has version

/-- `Connect` completes for overlapping ranges only where they do not overlap: in no run does it complete, and it always
    comes to fail, at the latest at its deadline. -/
theorem handshake_completes_iff (h : Handshake) :
    (((∃ version, negotiateVersion h.client h.server = .ok version) → Completes h) ↔
      ¬ ∃ version, negotiateVersion h.client h.server = .ok version) ∧
    ∀ labels t, run (step h) {} labels = some t → (∀ version, t.client ≠ .connected version) ∧
      ∀ deadline cause, t.client = .awaiting deadline →
        ∃ last err, run (step h) t [.tick deadline,.timeout cause] = some last ∧ last.client = .failed err := by
  have never : ¬ Completes h := by
    rintro ⟨labels,t,version,executed,connected,_⟩
    exact (reached_unacknowledged h executed).unconnected version connected
  constructor
  · exact ⟨fun completes overlap => never (completes overlap),fun disjoint overlap => absurd overlap disjoint⟩
  · intro labels t executed
    refine ⟨(reached_unacknowledged h executed).unconnected,fun deadline cause waiting => ?_⟩
    refine ⟨{ t with now := t.now + deadline, client := finalizeConnection (failedRead cause) },_,?_,rfl⟩
    simp only [run,step,Option.bind_some,waiting]
    rw [if_pos (Nat.le_add_left deadline t.now)]
    rfl

def versionOne : Handshake := ⟨⟨1,1⟩,1,[1],1,⟨1,1⟩⟩

/-- After the offer the client waits, and its deadline ends that. -/
theorem version_one_waits :
    ∃ t last err, run (step versionOne) {} [.connect,.tick 3] = some t ∧ t.client = .awaiting 10 ∧
      run (step versionOne) t [.tick 10,.timeout "i/o timeout"] = some last ∧ last.client = .failed err := by
  have waits := ((handshake_completes_iff versionOne).2 [.connect,.tick 3] _ rfl).2 10 "i/o timeout" rfl
  obtain ⟨last,err,executed,failed⟩ := waits
  exact ⟨_,last,err,rfl,rfl,executed,failed⟩

/-- With version 1 on both sides the offer is dropped, and the client fails after ten seconds. -/
theorem version_one_times_out : negotiateVersion versionOne.client versionOne.server = .ok 1 ∧ ¬ Completes versionOne ∧
      ∃ t, run (step versionOne) {} [.connect,.serve fun _ => .failed "",.tick 10,.timeout "i/o timeout"] = some t ∧
        t.serving = true ∧ t.client =
          .failed "handshake failed: failed to read version ack: failed to read magic bytes: i/o timeout" := by
  refine ⟨rfl,?_,_,rfl,rfl,rfl⟩
  rintro ⟨labels,t,version,executed,connected,_⟩
  exact (reached_unacknowledged versionOne executed).unconnected version connected

end McpBridge.TcpHandshake
