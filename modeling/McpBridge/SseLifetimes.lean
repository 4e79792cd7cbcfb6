import McpBridge.SseStreams

/-!
How long an SSE stream is read. Its response belongs to the HTTP request of the call that opened it, which carries the
call's context and whose client has a `Timeout` that also bounds the reading of the body.
-/
namespace McpBridge.SseLifetimes
open Runs SseStreams Function SseStreams.State
open SseStreams (Call Pc Reader Effect Delivery)

/-- `Timeout` of the client of an endpoint, in seconds: `defaultMaxConnections`. -/
def timeout : Nat := 5

/-- The streams with the clock and the contexts. -/
structure State where
  sse : SseStreams.State := init
  now : Nat := 0
  /-- When the request of a call that is to open a stream was sent. -/
  sentAt : Nat → Nat := fun _ => 0
  completed : Nat → Bool := fun _ => false
  ended : Nat → Bool := fun _ => false
  stopped : Bool := false

inductive Label where
  | call (label : SseStreams.Label)
  | contextEnd (c : Nat)
  | tick (seconds : Nat)
  | backendEnd (st : Nat)
  | stop

def Condemned (s : State) (st : Nat) : Prop := s.completed st = true ∨ s.sentAt st + timeout ≤ s.now

instance (s : State) (st : Nat) : Decidable (Condemned s st) := inferInstanceAs (Decidable (_ ∨ _))

/-- What a step needs besides: a request that opens a stream returns while its context and the `Timeout` last, and a
    reader leaves its loop when a read fails or the router was stopped. -/
def allowed (s : State) : SseStreams.Label → Bool
  | .initOk c _ _ _ => !decide (Condemned s c)
  | .getOk c _ => !decide (Condemned s c)
  | .readerEnd st => decide (Condemned s st) || s.ended st || s.stopped
  | _ => true

def sends : SseStreams.Label → Option Nat
  | .lookup c => some c
  | .initFail c => some c
  | _ => none

def resent (s : State) (label : SseStreams.Label) : Nat → Nat :=
  match sends label with
  | some c => update s.sentAt c s.now
  | none => s.sentAt

/-- One step of the streams, or of what may end them. -/
def step (calls : Nat → Call) (s : State) : Label → Option State
  | .call label =>
    if allowed s label then
      (SseStreams.step calls s.sse label).map fun next => { s with sse := next, sentAt := resent s label }
    else none
  | .contextEnd c => some { s with completed := update s.completed c true }
  | .tick seconds => some { s with now := s.now + seconds }
  | .backendEnd st => some { s with ended := update s.ended st true }
  | .stop => some { s with stopped := true }

def InHand (pc : Pc) : Prop := pc = .established ∨ ∃ event, pc = .initialized event

/-- The stream is registered and its reader in its loop. -/
def Read (s : SseStreams.State) (st : Nat) : Prop :=
  (s.stream st).reader = .running ∧ ¬ InHand (s.caller st).pc

/-- A stream that is read can end only by its backend or the router. -/
def Outlives (s : State) : Prop :=
  ∀ st, Read s.sse st → Condemned s st → s.ended st = true ∨ s.stopped = true

/-- No stream is registered after its request is over, and no context ends and no `Timeout` elapses while its stream is
    read. -/
def Spared (s : State) : Label → Prop
  | .call (.store c) => (s.sse.stream c).reader = .running → Condemned s c → s.ended c = true ∨ s.stopped = true
  | .contextEnd c => Read s.sse c → s.ended c = true ∨ s.stopped = true
  | .tick seconds => ∀ st, Read s.sse st → s.sentAt st + timeout ≤ s.now + seconds →
      s.ended st = true ∨ s.stopped = true
  | _ => True

section
variable {calls : Nat → Call} {s t : SseStreams.State}

variable {c st : Nat} {pc : Pc}

theorem read_goto (before : ¬ InHand (s.caller c).pc) (read : Read (s.goto c pc) st) : Read s st := by
  refine ⟨read.1,?_⟩
  by_cases same : st = c
  · rwa [same]
  · have after := read.2
    rwa [goto_caller,if_neg same] at after

theorem read_openStream {session : String} (hand : InHand pc)
    (read : Read (openStream s c session pc) st) : Read s st := by
  obtain ⟨running,registered⟩ := read
  rw [openStream_caller] at registered
  rw [openStream_stream] at running
  by_cases same : st = c
  · rw [if_pos same] at registered
    exact absurd hand registered
  · rw [if_neg same] at registered running
    exact ⟨running,registered⟩

theorem read_setPost {post : Post} (read : Read (s.setPost c post) st) : Read s st := by
  obtain ⟨running,registered⟩ := read
  rw [setPost_pc] at registered
  exact ⟨running,registered⟩

theorem read_setChan {chan : Channels.Slot Event} (read : Read (s.setChan c chan) st) : Read s st := by
  obtain ⟨running,registered⟩ := read
  rw [setChan_pc] at registered
  exact ⟨running,registered⟩

variable {other : Nat}

theorem read_erasePending {id : Option Values.Key} (read : Read (s.erasePending other id) st) : Read s st := by
  obtain ⟨running,registered⟩ := read
  rw [(erasePending_stream s other id st).1] at running
  rw [erasePending_caller] at registered
  exact ⟨running,registered⟩

theorem read_delivery {event : Event} (delivery : Delivery s other event t) (read : Read t st) : Read s st := by
  cases delivery with
  | unhashable | refused => exact read
  | unknown => exact read
  | delivered => exact read_setChan (read_erasePending read)

theorem read_closeAll {entries : List (Sigma fun _ : Values.Key => Nat)}
    (read : Read (closeAll s entries) st) : Read s st := by
  induction entries generalizing s with
  | nil => exact read
  | cons entry rest ih =>
    unfold closeAll at read
    split at read
    next => exact read
    next => exact read_setChan (ih read)

theorem read_setStream {stream : Stream} (reader : stream.reader = .running → (s.stream other).reader = .running)
    (read : Read (s.setStream other stream) st) : Read s st := by
  obtain ⟨running,registered⟩ := read
  refine ⟨?_,registered⟩
  rw [setStream_stream] at running
  split at running
  next same =>
    rw [same]
    exact reader running
  next => exact running

theorem read_list {url : String} {entry : Option Nat}
    (read : Read ((s.goto c pc).list url entry) st) : Read s st ∨ st = c ∧ (s.stream st).reader = .running := by
  by_cases same : st = c
  · exact .inr ⟨same,read.1⟩
  · have registered := read.2
    rw [list_caller,goto_caller,if_neg same] at registered
    exact .inl ⟨read.1,registered⟩

/-- A stream comes to be read by being registered. -/
theorem read_effect {label : SseStreams.Label} (effect : Effect calls s label t) (read : Read t st) :
    Read s st ∨ label = .store st ∧ (s.stream st).reader = .running := by
  cases effect with
  | lookup begun onward =>
    refine .inl (read_goto ?_ read)
    rw [begun]
    rintro (same | ⟨event,same⟩) <;> cases same
  | initOk asked => exact .inl (read_openStream (.inr ⟨_,rfl⟩) read)
  | getOk asked => exact .inl (read_openStream (.inl rfl) read)
  | initFail asked | getFail asked =>
    refine .inl (read_goto ?_ read)
    rw [asked]
    rintro (same | ⟨event,same⟩) <;> cases same
  | @storeFirst c event opened | @store c opened =>
    rcases read_list read with before | ⟨rfl,running⟩
    · exact .inl before
    · exact .inr ⟨rfl,running⟩
  | @panic c other here unlocked unkeyed =>
    have before : Read (s.goto c .panicked) st := by
      refine read_setStream ?_ read
      exact fun running => running
    refine .inl (read_goto ?_ before)
    rw [here]
    rintro (same | ⟨event,same⟩) <;> cases same
  | @register c other k here unlocked keyed =>
    have before : Read (s.setCaller c { pc := .posting other, post := .inFlight, stream := some other }) st := by
      refine read_setStream ?_ read
      exact fun running => running
    obtain ⟨running,registered⟩ := before
    refine .inl ⟨running,?_⟩
    by_cases same : st = c
    · rw [same,here]
      rintro (hand | ⟨event,hand⟩) <;> cases hand
    · rwa [setCaller_caller,if_neg same] at registered
  | abandon abandons registered unlocked =>
    refine .inl (read_goto ?_ (read_erasePending read))
    obtain here | here := registered <;> rw [here] <;> rintro (same | ⟨event,same⟩) <;> cases same
  | postOk posting =>
    refine .inl (read_goto ?_ read)
    rw [posting]
    rintro (same | ⟨event,same⟩) <;> cases same
  | @receive c other x chan waiting received =>
    refine .inl (read_setChan (read_goto ?_ read))
    rw [setChan_caller,if_pos rfl]
    rw [waiting]
    rintro (same | ⟨event,same⟩) <;> cases same
  | accept | refuse => exact .inl (read_setPost read)
  | answer sentOn accepted same running unlocked delivery => exact .inl (read_setPost (read_delivery delivery read))
  | message running unlocked delivery => exact .inl (read_delivery delivery read)
  | readerEnd running unlocked => exact .inl (read_setStream (fun ended => by cases ended) (read_closeAll read))
  | unlist closed =>
    have before : Read (s.setStream _ _) st := ⟨read.1,read.2⟩
    exact .inl (read_setStream (fun ended => by cases ended) before)

end

section
variable {calls : Nat → Call} {s t : State}

variable {label : SseStreams.Label} {next : SseStreams.State}

theorem step_call (taken : step calls s (.call label) = some t) :
    allowed s label = true ∧ Effect calls s.sse label t.sse ∧ t = { s with sse := t.sse, sentAt := resent s label } := by
  simp only [step,Option.ite_none_right_eq_some,Option.map_eq_some_iff] at taken
  obtain ⟨allows,next,moved,rfl⟩ := taken
  exact ⟨allows,(step_effect moved).2,rfl⟩

theorem resent_eq (s : State) (label : SseStreams.Label) (st : Nat) :
    resent s label st = s.sentAt st ∨ resent s label st = s.now := by
  unfold resent
  cases sends label with
  | none => exact .inl rfl
  | some c =>
    by_cases same : st = c
    · subst same
      exact .inr (update_self ..)
    · exact .inl (update_of_ne same ..)

theorem condemned_call {st : Nat}
    (after : Condemned { s with sse := next, sentAt := resent s label } st) : Condemned s st := by
  obtain done | elapsed := after
  · exact .inl done
  · have elapsed : resent s label st + timeout ≤ s.now := elapsed
    obtain same | same := resent_eq s label st
    · rw [same] at elapsed
      exact .inr elapsed
    · unfold timeout at elapsed
      omega

theorem read_store {c : Nat} (effect : Effect calls s.sse (.store c) next)
    (running : (s.sse.stream c).reader = .running) : Read next c := by
  cases effect with
  | storeFirst | store =>
    refine ⟨running,?_⟩
    rw [list_caller,goto_caller,if_pos rfl]
    rintro (same | ⟨event,same⟩) <;> cases same
  | abandon abandons => cases abandons

theorem outlives_call (before : Outlives s) (taken : step calls s (.call label) = some t)
    (spared : Spared s (.call label)) : Outlives t := by
  obtain ⟨-,effect,changed⟩ := step_call taken
  intro st read condemned
  rw [changed] at condemned ⊢
  have condemned := condemned_call condemned
  obtain read | ⟨rfl,running⟩ := read_effect effect read
  · exact before st read condemned
  · exact spared running condemned

theorem spared_call (taken : step calls s (.call label) = some t) (after : Outlives t) : Spared s (.call label) := by
  obtain ⟨-,effect,changed⟩ := step_call taken
  cases label with
  | store c =>
    intro running condemned
    have read := read_store effect running
    rw [changed] at after
    exact after c read condemned
  | _ => trivial

/-- What keeps streams readable, one step after the other. -/
theorem step_outlives_iff {label : Label} (before : Outlives s) (taken : step calls s label = some t) :
    Outlives t ↔ Spared s label := by
  cases label with
  | call label => exact ⟨spared_call taken,outlives_call before taken⟩
  | contextEnd c =>
    cases taken
    constructor
    · intro after read
      exact after c read (.inl (update_self ..))
    · rintro spared st read (done | elapsed)
      · by_cases same : st = c
        · subst same
          exact spared read
        · have done : update s.completed c true st = true := done
          rw [update_of_ne same] at done
          exact before st read (.inl done)
      · exact before st read (.inr elapsed)
  | tick seconds =>
    cases taken
    constructor
    · intro after st read elapsed
      exact after st read (.inr elapsed)
    · rintro spared st read (done | elapsed)
      · exact before st read (.inl done)
      · exact spared st read elapsed
  | backendEnd other =>
    cases taken
    refine iff_of_true ?_ trivial
    intro st read condemned
    obtain ended | stopped := before st read condemned
    · refine .inl ?_
      show update s.ended other true st = true
      by_cases same : st = other
      · rw [same,update_self]
      · rw [update_of_ne same,ended]
    · exact .inr stopped
  | stop =>
    cases taken
    exact iff_of_true (fun _ _ _ => .inr rfl) trivial

/-- A reader of a registered stream leaves its loop for the backend or the router. -/
def Rightly (s : State) : Label → Prop
  | .call (.readerEnd st) => Read s.sse st → s.ended st = true ∨ s.stopped = true
  | _ => True

theorem rightly_of_outlives {label : Label} (before : Outlives s) (taken : step calls s label = some t) :
    Rightly s label := by
  cases label with
  | call label =>
    obtain ⟨allows,-,-⟩ := step_call taken
    cases label with
    | readerEnd st =>
      intro read
      simp only [allowed,Bool.or_eq_true,decide_eq_true_eq,or_assoc] at allows
      obtain condemned | given := allows
      · exact before st read condemned
      · exact given
    | _ => trivial
  | _ => trivial

end

/-- Registered streams can always be read until the backend or the router ends them exactly when every step spares them;
    then no reader of one leaves its loop for another reason. -/
theorem streams_outlive_iff (calls : Nat → Call) (labels : List Label) (t : State)
    (executed : run (step calls) {} labels = some t) :
    (Always (step calls) Outlives {} labels ↔ Meets (step calls) Spared {} labels) ∧
      (Meets (step calls) Spared {} labels → Meets (step calls) Rightly {} labels) := by
  have kept : ∀ s label next, True → step calls s label = some next → True := fun _ _ _ _ _ => trivial
  have exact_iff : Always (step calls) Outlives {} labels ↔ Meets (step calls) Spared {} labels :=
    always_iff_meets kept (fun s label next _ before taken => step_outlives_iff before taken) trivial (fun _ read _ => by cases read.1)
      executed
  refine ⟨exact_iff,fun spared => ?_⟩
  exact (exact_iff.mpr spared).meets (fun s label next before taken => rightly_of_outlives before taken) executed

def oneCall (_ : Nat) : Call := ⟨"http://backend:8080/mcp",{ method := "tools/call", id := .number 1 }⟩

/-- Another call on the stream completes, the backend ends the stream, and its opener completes. -/
def endedByBackend : List Label :=
  [.call (.lookup 0),.call (.getOk 0 "a"),.call (.store 0),.call (.lookup 1),.contextEnd 1,.backendEnd 0,.contextEnd 0,
    .call (.readerEnd 0)]

theorem ended_by_backend_outlives :
    (∃ t, run (step oneCall) {} endedByBackend = some t) ∧ Always (step oneCall) Outlives {} endedByBackend := by
  refine ⟨⟨_,rfl⟩,(streams_outlive_iff oneCall endedByBackend _ rfl).1.mpr ?_⟩
  iterate 2 refine (meets_cons rfl).mpr ⟨trivial,?_⟩
  refine (meets_cons rfl).mpr ⟨fun _ condemned => absurd condemned (by decide),?_⟩
  refine (meets_cons rfl).mpr ⟨trivial,?_⟩
  refine (meets_cons rfl).mpr ⟨(fun read => by cases read.1),?_⟩
  refine (meets_cons rfl).mpr ⟨trivial,?_⟩
  refine (meets_cons rfl).mpr ⟨fun _ => .inl rfl,?_⟩
  exact ⟨trivial,fun _ _ => trivial⟩

/-- A registered stream's reader leaves its loop when its opener's context ends, or after five seconds. -/
theorem stream_ended_by_request :
    (∃ s t, run (step oneCall) {} [.call (.lookup 0),.call (.getOk 0 "a"),.call (.store 0),.contextEnd 0] = some s ∧
      Read s.sse 0 ∧ s.ended 0 = false ∧ s.stopped = false ∧
      step oneCall s (.call (.readerEnd 0)) = some t ∧ (t.sse.stream 0).reader = .closed) ∧
    ∃ s t, run (step oneCall) {} [.call (.lookup 0),.call (.getOk 0 "a"),.call (.store 0),.tick 5] = some s ∧
      Read s.sse 0 ∧ s.ended 0 = false ∧ s.stopped = false ∧
      step oneCall s (.call (.readerEnd 0)) = some t ∧ (t.sse.stream 0).reader = .closed := by
  refine ⟨⟨_,_,rfl,⟨rfl,?_⟩,rfl,rfl,rfl,rfl⟩,_,_,rfl,⟨rfl,?_⟩,rfl,rfl,rfl,rfl⟩
  all_goals rintro (same | ⟨event,same⟩) <;> cases same

end McpBridge.SseLifetimes
