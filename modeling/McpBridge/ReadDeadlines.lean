import McpBridge.TcpDeadlines

/-!
The reads of the WebSocket client, and what the deadlines of both clients cost.
-/
namespace McpBridge.ReadDeadlines
open Values Runs Mailboxes TcpDeadlines List
open Transparency (receiveResponse)
open WireTransport (Payload)

/-- `defaultTimeoutSeconds * time.Second`, in nanoseconds. -/
def readTimeout : Nat := 30 * 1000000000

structure State where
  now : Nat := 0
  waiting : Option Nat := none
  failed : Bool := false
  wire : List Any := []
  sent : List Any := []
  results : List (Except String Response) := []

inductive Label where
  | send (data : Any)
  | call
  | read
  | expire
  | fail
  | tick (nanoseconds : Nat)

def received (s : State) (data : Any) (rest : List Any) : State :=
  { s with waiting := none, wire := rest, results := s.results ++ [receiveResponse data] }

def timedOut (s : State) : State :=
  { s with waiting := none, failed := true, results := s.results ++ [.error "read timeout: i/o timeout"] }

/-- One step of the WebSocket client. -/
def step (s : State) : Label → Option State
  | .send data => some { s with wire := s.wire ++ [data], sent := s.sent ++ [data] }
  | .call => if s.waiting = none then some { s with waiting := some (s.now + readTimeout) } else none
  | .read =>
    match s.waiting,s.wire with
    | some deadline,data :: rest =>
      if s.failed = false ∧ s.now < deadline then some (received s data rest) else none
    | _,_ => none
  | .expire =>
    match s.waiting with
    | some deadline => if s.failed = false ∧ deadline ≤ s.now then some (timedOut s) else none
    | none => none
  | .fail =>
    match s.waiting with
    | some _ => if s.failed = true then some (timedOut s) else none
    | none => none
  | .tick nanoseconds => some { s with now := s.now + nanoseconds }

def responses (messages : List Any) : List Response := messages.filterMap fun data => (receiveResponse data).toOption

def returned (s : State) : List Response := s.results.filterMap Except.toOption

def isOpen (s : State) : Bool :=
  !s.failed && match s.waiting with
    | none => true
    | some deadline => s.now < deadline

/-- A response is sent while the connection can be read, and is returned before a deadline passes. -/
def InTime (s : State) : Label → Prop
  | .send data => (receiveResponse data).toOption.isSome → isOpen s = true
  | .tick nanoseconds => isOpen s = true → isOpen { s with now := s.now + nanoseconds } = false →
      responses s.sent = returned s
  | _ => True

/-! ### Steps as moves of a mailbox -/

def mailbox (s : State) : Mailbox Response := ⟨returned s,[],responses s.wire,isOpen s⟩

def Shows (s : State) (b : Mailbox Response) : Prop :=
  returned s ++ responses s.wire = responses s.sent ∧ b = mailbox s

section
variable {s t : State}

theorem responses_append (first second : List Any) : responses (first ++ second) = responses first ++ responses second :=
  filterMap_append ..

theorem isOpen_iff : isOpen s = true ↔ s.failed = false ∧ ∀ deadline, s.waiting = some deadline → s.now < deadline := by
  unfold isOpen
  cases waiting : s.waiting with
  | none | some => simp

theorem isOpen_earlier {n : Nat} (later : isOpen { s with now := s.now + n } = true) : isOpen s = true := by
  rw [isOpen_iff] at later ⊢
  refine ⟨later.1,fun deadline same => ?_⟩
  exact Nat.lt_of_le_of_lt (Nat.le_add_right ..) (later.2 deadline same)

theorem isOpen_received (sound : s.failed = false) (data : Any) (rest : List Any) :
    isOpen (received s data rest) = true := by
  simp [isOpen,received,sound]

theorem returned_received (data : Any) (rest : List Any) :
    returned (received s data rest) = returned s ++ responses [data] := by
  show (s.results ++ [receiveResponse data]).filterMap Except.toOption = _
  rw [filterMap_append]
  rfl

section
variable (whole : returned s ++ responses s.wire = responses s.sent)
include whole

theorem moves_send (data : Any) (taken : step s (.send data) = some t) :
    Moved (Shows t) (mailbox s) (InTime s (.send data)) := by
  cases taken
  refine ⟨mailbox _,⟨?_,rfl⟩,?_,fun safe => ?_⟩
  · show returned s ++ responses (s.wire ++ [data]) = responses (s.sent ++ [data])
    rw [responses_append,responses_append,← whole,append_assoc]
  · have grown := Move.send (b := mailbox s) (responses [data])
    rwa [mailbox,← responses_append] at grown
  · have safe : responses s.wire = [] ∨ isOpen s = true := safe
    show (responses (s.wire ++ [data]) = [] ∨ isOpen s = true) ↔ _
    simp [InTime]
    cases read : (receiveResponse data).toOption with
    | none => simpa [responses,read] using safe
    | some response => simp [responses,read]

theorem moves_read (taken : step s .read = some t) : Moved (Shows t) (mailbox s) (InTime s .read) := by
  cases waiting : s.waiting with
  | none => simp [step,waiting] at taken
  | some deadline =>
    cases wire : s.wire with
    | nil => simp [step,waiting,wire] at taken
    | cons data rest =>
      simp only [step,waiting,wire,Option.ite_none_right_eq_some] at taken
      obtain ⟨⟨sound,early⟩,taken⟩ := taken
      cases taken
      have open_before : isOpen s = true := isOpen_iff.mpr ⟨sound,fun other same => by
        rw [waiting] at same
        cases same
        exact early⟩
      refine moved_of_kept ⟨?_,rfl⟩ ?_ (fun _ => .inr (isOpen_received sound data rest)) trivial
      · rw [returned_received,append_assoc]
        show returned s ++ (responses [data] ++ responses rest) = responses s.sent
        rw [← responses_append,singleton_append,← wire,whole]
      · have first : (mailbox s).coming = responses [data] ++ responses rest := by
          rw [← responses_append,singleton_append,← wire]
          rfl
        have same : mailbox (received s data rest) =
            { mailbox s with returned := returned s ++ responses [data], coming := responses rest } := by
          rw [mailbox,returned_received,isOpen_received sound,← open_before]
          rfl
        rw [same]
        exact Move.pass open_before rfl first

/-- A failed read leaves a connection that could not be read any more as it is. -/
theorem moves_timedOut {label : Label} (closed : isOpen s = false) (fine : InTime s label) :
    Moved (Shows (timedOut s)) (mailbox s) (InTime s label) := by
  have results : returned (timedOut s) = returned s := by
    simp [returned,timedOut,filterMap_append,Except.toOption]
  have unchanged : mailbox (timedOut s) = mailbox s := by
    rw [mailbox,results,mailbox,closed]
    rfl
  refine moved_of_kept ⟨?_,unchanged.symm⟩ .stay id fine
  rw [results]
  exact whole

theorem moves_tick (n : Nat) (taken : step s (.tick n) = some t) :
    Moved (Shows t) (mailbox s) (InTime s (.tick n)) := by
  cases taken
  refine ⟨mailbox _,⟨whole,rfl⟩,?_,fun safe => ?_⟩
  · cases later : isOpen { s with now := s.now + n } with
    | true =>
      have unchanged : mailbox { s with now := s.now + n } = mailbox s := by
        rw [mailbox,later,← isOpen_earlier later]
        rfl
      rw [unchanged]
      exact .stay
    | false =>
      have closed : mailbox { s with now := s.now + n } = { mailbox s with isOpen := false } := by
        rw [mailbox,later]
        rfl
      rw [closed]
      exact .close
  · have safe : responses s.wire = [] ∨ isOpen s = true := safe
    have settled : responses s.wire = [] ↔ responses s.sent = returned s := by
      rw [← whole]
      simp
    show (responses s.wire = [] ∨ isOpen { s with now := s.now + n } = true) ↔ _
    simp only [InTime]
    rw [← settled]
    cases later : isOpen { s with now := s.now + n } with
    | true => simp
    | false =>
      obtain nothing | before := safe
      · simp [nothing]
      · simp [before]

end

theorem step_moves (s : State) (label : Label) (t : State) (b : Mailbox Response) (shown : Shows s b)
    (taken : step s label = some t) : Moved (Shows t) b (InTime s label) := by
  obtain ⟨whole,rfl⟩ := shown
  cases label with
  | send data => exact moves_send whole data taken
  | call =>
    obtain ⟨idle,⟨⟩⟩ := Option.ite_none_right_eq_some.mp taken
    have unchanged : mailbox { s with waiting := some (s.now + readTimeout) } = mailbox s := by
      have same : isOpen { s with waiting := some (s.now + readTimeout) } = isOpen s := by
        simp [isOpen,idle,readTimeout]
      rw [mailbox,same]
      rfl
    exact moved_of_kept ⟨whole,unchanged.symm⟩ .stay id trivial
  | read => exact moves_read whole taken
  | expire | fail =>
    simp only [step] at taken
    split at taken
    next deadline waiting =>
      obtain ⟨ended,⟨⟩⟩ := Option.ite_none_right_eq_some.mp taken
      exact moves_timedOut whole (by simp [isOpen,waiting,ended]) trivial
    next => cases taken
  | tick n => exact moves_tick whole n taken

/-! ### What can be returned -/

/-- Calls return the messages that have come, one after the other. -/
theorem drain_wire (whole : returned s ++ responses s.wire = responses s.sent) (readable : isOpen s = true) :
    ∃ labels t, run step s labels = some t ∧ responses s.sent = returned t := by
  obtain ⟨wire,same⟩ : ∃ wire, s.wire = wire := ⟨_,rfl⟩
  induction wire generalizing s with
  | nil =>
    refine ⟨[],s,rfl,?_⟩
    rw [← whole,same]
    exact append_nil _
  | cons data rest ih =>
    have sound := (isOpen_iff.mp readable).1
    have early := (isOpen_iff.mp readable).2
    have whole' : returned (received s data rest) ++ responses rest = responses s.sent := by
      rw [returned_received,append_assoc,← responses_append,singleton_append,← same,whole]
    obtain ⟨labels,t,executed,all⟩ := ih whole' (isOpen_received sound data rest) rfl
    cases waiting : s.waiting with
    | some deadline =>
      refine ⟨.read :: labels,t,run_cons_eq_some.mpr ⟨_,?_,executed⟩,all⟩
      simp [step,waiting,same,sound,early deadline waiting]
    | none =>
      refine ⟨.call :: .read :: labels,t,?_,all⟩
      refine run_cons_eq_some.mpr ⟨{ s with waiting := some (s.now + readTimeout) },?_,?_⟩
      · simp [step,waiting]
      · refine run_cons_eq_some.mpr ⟨received s data rest,?_,executed⟩
        simp [step,same,sound,readTimeout,received]

theorem drains (s : State) (b : Mailbox Response) (shown : Shows s b) (safe : b.Safe) :
    Delivers step (fun s => responses s.sent) returned s := by
  obtain ⟨whole,rfl⟩ := shown
  obtain nothing | readable := safe
  · refine ⟨[],s,rfl,?_⟩
    have nothing : responses s.wire = [] := nothing
    show responses s.sent <+: returned s
    rw [← whole,nothing,append_nil]
  · obtain ⟨labels,t,executed,all⟩ := drain_wire whole readable
    refine ⟨labels,t,executed,?_⟩
    show responses s.sent <+: returned t
    rw [all]

end

theorem carrier : Carrier step InTime Shows (fun s => responses s.sent) returned where
  sent_eq := by
    rintro s b ⟨whole,rfl⟩
    exact whole
  returned_eq := by
    rintro s b ⟨whole,rfl⟩
    rfl
  moves := step_moves
  drains := drains

theorem connected_shows : Shows {} (mailbox {}) := ⟨rfl,rfl⟩

/-- Both clients return the gateway's responses in order and from the first; and all of them may still be returned
    exactly when every step is in time. -/
theorem responses_delivered_iff (parse : List UInt8 → Payload) :
    (∀ elapsed labels t, run (TcpDeadlines.step parse) (connected elapsed) labels = some t →
      TcpDeadlines.returned t <+: TcpDeadlines.responses parse t.sent ∧ (Always (TcpDeadlines.step parse)
          (Delivers (TcpDeadlines.step parse) (fun s => TcpDeadlines.responses parse s.sent) TcpDeadlines.returned)
          (connected elapsed) labels ↔
        Meets (TcpDeadlines.step parse) (TcpDeadlines.InTime parse) (connected elapsed) labels)) ∧
    ∀ labels t, run step {} labels = some t → returned t <+: responses t.sent ∧
      (Always step (Delivers step (fun s => responses s.sent) returned) {} labels ↔ Meets step InTime {} labels) := by
  constructor
  · intro elapsed labels t executed
    have shown := TcpDeadlines.connected_shows parse elapsed
    exact ⟨(TcpDeadlines.carrier parse).returned_of_sent shown executed,
      (TcpDeadlines.carrier parse).always_delivers_iff shown (.inl rfl) executed⟩
  · intro labels t executed
    exact ⟨carrier.returned_of_sent connected_shows executed,
      carrier.always_delivers_iff connected_shows (.inl rfl) executed⟩

def envelope : Any :=
  .object [("mcp_payload",.object [("jsonrpc",.string "2.0"),("id",.string "a"),("result",.string "done")])]

def response : Response := { jsonrpc := "2.0", id := .string "a", result := .string "done" }

def parseSample (_ : List UInt8) : Payload := .json envelope

def responseFrame : SentFrame := ⟨{ version := 1, messageType := 2, payload := [0] },by decide⟩

def promptFrame : List TcpDeadlines.Label := [.call,.tick (9 * 1000000000),.send responseFrame,.fill 17,.finish]

def promptMessage : List Label := [.call,.tick (29 * 1000000000),.send envelope,.read]

theorem prompt_responses_delivered : ((∃ t, run (TcpDeadlines.step parseSample) (connected 0) promptFrame = some t ∧
        TcpDeadlines.returned t = [response]) ∧
      Always (TcpDeadlines.step parseSample) (Delivers (TcpDeadlines.step parseSample)
        (fun s => TcpDeadlines.responses parseSample s.sent) TcpDeadlines.returned) (connected 0) promptFrame) ∧
    (∃ t, run step {} promptMessage = some t ∧ returned t = [response]) ∧
      Always step (Delivers step (fun s => responses s.sent) returned) {} promptMessage := by
  refine ⟨⟨⟨_,rfl,rfl⟩,((responses_delivered_iff parseSample).1 0 promptFrame _ rfl).2.mpr ?_⟩,⟨_,rfl,rfl⟩,
    ((responses_delivered_iff parseSample).2 promptMessage _ rfl).2.mpr ?_⟩
  · refine (meets_cons rfl).mpr ⟨trivial,?_⟩
    refine (meets_cons rfl).mpr ⟨fun _ late => absurd late (by decide),?_⟩
    refine (meets_cons rfl).mpr ⟨fun _ => by decide,?_⟩
    refine (meets_cons rfl).mpr ⟨trivial,?_⟩
    exact ⟨trivial,fun _ _ => trivial⟩
  · refine (meets_cons rfl).mpr ⟨trivial,?_⟩
    refine (meets_cons rfl).mpr ⟨fun _ closed => absurd closed (by decide),?_⟩
    refine (meets_cons rfl).mpr ⟨fun _ => by decide,?_⟩
    exact ⟨trivial,fun _ _ => trivial⟩

/-- A response ten seconds after the handshake is lost to the TCP client, one after a call of thirty seconds to the
    WebSocket client. -/
theorem late_response_lost : (∃ t, run (TcpDeadlines.step parseSample) (connected 0)
        [.tick (10 * 1000000000),.send responseFrame,.call,.expire] = some t ∧
      TcpDeadlines.responses parseSample t.sent = [response] ∧
      t.results = [.error "failed to read frame: failed to read magic bytes: i/o timeout"] ∧
      ¬ Delivers (TcpDeadlines.step parseSample) (fun s => TcpDeadlines.responses parseSample s.sent)
        TcpDeadlines.returned t) ∧
    ∃ t, run step {} [.call,.tick (30 * 1000000000),.expire,.send envelope,.call,.fail] = some t ∧
      responses t.sent = [response] ∧
      t.results = [.error "read timeout: i/o timeout",.error "read timeout: i/o timeout"] ∧
      ¬ Delivers step (fun s => responses s.sent) returned t := by
  refine ⟨⟨_,rfl,rfl,rfl,?_⟩,_,rfl,rfl,rfl,?_⟩
  · rw [(TcpDeadlines.carrier parseSample).delivers_iff
      ⟨[],[responseFrame],[],⟨rfl,rfl,fun early => absurd early (by decide),rfl⟩,rfl⟩,mailbox_safe_iff]
    rintro (none_sent | early)
    · cases none_sent
    · exact absurd early (by decide)
  · rw [carrier.delivers_iff ⟨rfl,rfl⟩]
    rintro (none_sent | readable)
    · cases none_sent
    · cases readable

end McpBridge.ReadDeadlines
