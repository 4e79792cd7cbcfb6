import McpBridge.BackendReplies
import McpBridge.SseWaiters

/-!
What panics on the SSE path of the gateway's router.
-/
namespace McpBridge.SsePanics
open Values Channels Runs Option SseStreams.State
open Transparency (unmarshalResponse)
open Auth (second)
open WireTransport (Payload)
open Frontends (Data Connection processClientMessage)
open BackendReplies (trimSpace dataMark)
open SseStreams (Call Pc Event Delivery step_effect closeAll)
open SseWaiters

section
variable {calls : Nat → Call} {s t : SseStreams.State}

/-- A reader or a call has panicked. -/
def Panicked (s : SseStreams.State) : Prop := s.crashed = true ∨ ∃ c, (s.caller c).pc = .panicked

variable (calls) in
def Hashes : SseStreams.Label → Prop
  | .register c => (calls c).request.id.Hashable
  | .message _ response => response.id.Hashable
  | _ => True

section
variable (quiet : ¬ Panicked s)
include quiet

theorem quiet_of_callers (up : t.crashed = s.crashed)
    (callers : ∀ c, (t.caller c).pc = .panicked → (s.caller c).pc = .panicked) : ¬ Panicked t := by
  rintro (crashed | ⟨c,here⟩)
  · exact quiet (.inl (up ▸ crashed))
  · exact quiet (.inr ⟨c,callers c here⟩)

theorem quiet_goto {c : Nat} {pc : Pc} (calm : pc ≠ .panicked) : ¬ Panicked (s.goto c pc) := by
  refine quiet_of_callers quiet rfl fun d here => ?_
  rw [goto_caller] at here
  split at here
  next => exact absurd here calm
  next => exact here

theorem quiet_setPost (c : Nat) (post : SseStreams.Post) : ¬ Panicked (s.setPost c post) := by
  refine quiet_of_callers quiet rfl fun d here => ?_
  rwa [setPost_pc] at here

theorem quiet_setChan (c : Nat) (chan : Slot Event) : ¬ Panicked (s.setChan c chan) := by
  refine quiet_of_callers quiet rfl fun d here => ?_
  rwa [setChan_pc] at here

theorem quiet_erasePending (st : Nat) (id : Option Key) : ¬ Panicked (s.erasePending st id) := by
  refine quiet_of_callers quiet (by cases id <;> rfl) fun d here => ?_
  rwa [erasePending_caller] at here

end

section
variable (wired : Wired calls s) (quiet : ¬ Panicked s) {st : Nat}
include wired quiet

theorem delivery_quiet_iff {event : Event} (running : (s.stream st).reader = .running)
    (delivery : Delivery s st event t) : ¬ Panicked t ↔ event.response.id.Hashable := by
  unfold Any.Hashable
  cases delivery with
  | unhashable unkeyed =>
    rw [unkeyed]
    exact iff_of_false (fun calm => calm (.inl rfl)) Bool.false_ne_true
  | unknown keyed missing =>
    rw [keyed]
    exact iff_of_true quiet rfl
  | refused keyed found offered =>
    have closed := Slot.closed_of_offer offered
    rw [wired.unclosed st _ _ found running] at closed
    cases closed
  | delivered keyed found offered =>
    rw [keyed]
    exact iff_of_true (quiet_erasePending (quiet_setChan quiet _ _) _ _) rfl

theorem readerEnd_quiet (running : (s.stream st).reader = .running) :
    ¬ Panicked (closeAll (ending s st) (s.stream st).pendingRequests.entries) := by
  have unclosed : ∀ entry ∈ (s.stream st).pendingRequests.entries,
      ((ending s st).caller entry.2).respChan.closed = false := fun entry listed =>
    wired.unclosed st entry.1 entry.2 (wired.entry listed).1 running
  have spec := closeAll_spec (wired.distinct st) unclosed
  refine quiet_of_callers quiet spec.1 fun c here => ?_
  rwa [(spec.2 c).1] at here

/-- A section panics exactly when it uses an array or an object as a key. -/
theorem section_quiet_iff {label : SseStreams.Label} (taken : SseStreams.step calls s label = some t) : ¬ Panicked t ↔ Hashes calls label := by
  cases (step_effect taken).2 with
  | lookup begun onward =>
    refine iff_of_true (quiet_goto quiet ?_) trivial
    obtain rfl | rfl | ⟨st,_,rfl⟩ := onward <;> exact nofun
  | initOk | getOk | initFail | getFail | storeFirst | store | postOk => exact iff_of_true (quiet_goto quiet nofun) trivial
  | @panic c st here unlocked unkeyed =>
    refine iff_of_false (fun calm => calm (.inr ⟨c,?_⟩)) ?_
    · simp [goto,setStream]
    · show ¬ (calls c).key?.isSome = true
      rw [unkeyed]
      exact Bool.false_ne_true
  | @register c st k here unlocked keyed =>
    refine iff_of_true (quiet_of_callers quiet rfl fun d panicked => ?_) ?_
    · rw [setStream_caller,setCaller_caller] at panicked
      split at panicked
      next => cases panicked
      next => exact panicked
    · show (calls c).key?.isSome = true
      rw [keyed]
      rfl
  | abandon abandons registered unlocked =>
    refine iff_of_true (quiet_erasePending (quiet_goto quiet ?_) _ _) ?_
    · exact fun same => by cases same
    · cases label <;> trivial
  | receive waiting received => exact iff_of_true (quiet_goto (quiet_setChan quiet _ _) fun same => by cases same) trivial
  | accept inFlight | refuse inFlight => exact iff_of_true (quiet_setPost quiet _ _) trivial
  | @answer c st response t sentOn accepted same running unlocked delivery =>
    obtain ⟨k,keyed⟩ := wired.hashable c st sentOn
    have hashable : response.id.Hashable := by
      rw [Any.Hashable,same,keyed]
      rfl
    have calm := (delivery_quiet_iff (wired.setPost c .answered) (quiet_setPost quiet c .answered) running delivery).mpr
      hashable
    exact iff_of_true calm trivial
  | message running unlocked delivery => exact delivery_quiet_iff wired quiet running delivery
  | readerEnd running unlocked => exact iff_of_true (readerEnd_quiet wired quiet running) trivial
  | unlist closed => exact iff_of_true (quiet_of_callers quiet rfl fun _ here => here) trivial

end

end

/-- `ReadString('\n')`: the bytes before the next newline and those behind it, if there is one. -/
def readString (bytes : List UInt8) : Option (List UInt8 × List UInt8) :=
  match bytes.span (· != 10) with
  | (line,_ :: rest) => some (line,rest)
  | (_,[]) => none

/-- The streams with the bytes not yet read. -/
structure State where
  sse : SseStreams.State := SseStreams.init
  bytes : Nat → List UInt8 := fun _ => []

def init : State := {}

def State.setBytes (s : State) (c : Nat) (bytes : List UInt8) : State :=
  { s with bytes := Function.update s.bytes c bytes }

inductive Label where
  | call (label : SseStreams.Label)
  | send (c : Nat) (bytes : List UInt8)
  | line (st : Nat)
  /-- `readInitializeResponseFromSSE` takes a line of the reply with the session in its header. -/
  | initLine (c : Nat) (session : String)

section
variable (runes : List UInt8 → List Char) (parse : List Char → Payload) (calls : Nat → Call)

/-- What a reader finds in a line: nothing, or what the data of the line decodes to. -/
def dataOf (line : List UInt8) : Option (Except String Response) :=
  let line := trimSpace (runes line)
  if line = [] ∨ [':'].isPrefixOf line then none
  else if dataMark.isPrefixOf line then some ((parse (line.drop dataMark.length)).unmarshal unmarshalResponse)
  else none

def readsNothing : SseStreams.Label → Bool
  | .initOk _ _ _ _ => false
  | .answer _ _ => false
  | .message _ _ => false
  | _ => true

/-- `readSSEStream` at a line; data that does not decode is skipped. -/
def readLine (s : State) (st : Nat) (line rest : List UInt8) : Option State :=
  match dataOf runes parse line with
  | some (.ok response) =>
    (SseStreams.step calls s.sse (.message st response)).map fun next => { s.setBytes st rest with sse := next }
  | _ =>
    if s.sse.crashed = false ∧ (s.sse.stream st).reader = .running then some (s.setBytes st rest) else none

def isInitializing : Pc → Bool
  | .initializing => true
  | _ => false

/-- `readInitializeResponseFromSSE` at a line; data that does not decode ends the attempt. -/
def readInitLine (s : State) (c : Nat) (session : String) (line rest : List UInt8) : Option State :=
  match dataOf runes parse line with
  | some (.ok response) =>
    (SseStreams.step calls s.sse (.initOk c session response true)).map fun next => { s.setBytes c rest with sse := next }
  | some (.error _) =>
    (SseStreams.step calls s.sse (.initFail c)).map fun next => { s.setBytes c [] with sse := next }
  | none =>
    if s.sse.crashed = false ∧ isInitializing (s.sse.caller c).pc then some (s.setBytes c rest) else none

/-- One step of a call, or bytes that come or are read as a line. -/
def step (s : State) : Label → Option State
  | .call label =>
    if readsNothing label then (SseStreams.step calls s.sse label).map fun next => { s with sse := next } else none
  | .send c bytes => some (s.setBytes c (s.bytes c ++ bytes))
  | .line st => (readString (s.bytes st)).bind fun read => readLine runes parse calls s st read.1 read.2
  | .initLine c session =>
    (readString (s.bytes c)).bind fun read => readInitLine runes parse calls s c session read.1 read.2

/-- A request has a hashable identifier when registered, and a response when looked up. -/
def Keyed (s : State) : Label → Prop
  | .call label => Hashes calls label
  | .line st => ∀ read response, readString (s.bytes st) = some read → dataOf runes parse read.1 = some (.ok response) →
      response.id.Hashable
  | _ => True

variable {runes parse calls}

/-- A step takes a section of the calls and the readers, or leaves them alone. -/
theorem step_section {s t : State} {label : Label} (taken : step runes parse calls s label = some t) :
    (t.sse = s.sse ∧ Keyed runes parse calls s label) ∨ ∃ inner, SseStreams.step calls s.sse inner = some t.sse ∧
        (Hashes calls inner ↔ Keyed runes parse calls s label) := by
  cases label with
  | call inner =>
    obtain ⟨-,taken⟩ := ite_none_right_eq_some.mp taken
    obtain ⟨next,moved,rfl⟩ := map_eq_some_iff.mp taken
    exact .inr ⟨inner,moved,Iff.rfl⟩
  | send c bytes =>
    cases taken
    exact .inl ⟨rfl,trivial⟩
  | line st =>
    obtain ⟨read,found,moved⟩ := bind_eq_some_iff.mp taken
    revert moved
    fun_cases readLine runes parse calls s st read.1 read.2 <;> intro moved
    case case1 response decoded =>
      obtain ⟨next,stepped,rfl⟩ := map_eq_some_iff.mp moved
      refine .inr ⟨.message st response,stepped,fun hashable other again same decoded' => ?_,fun keyed => ?_⟩
      · rw [found] at same
        cases same
        rw [decoded] at decoded'
        cases decoded'
        exact hashable
      · exact keyed read response found decoded
    all_goals cases moved
    case line.case2.refl _ skipped =>
      refine .inl ⟨rfl,fun other response same decoded => ?_⟩
      rw [found] at same
      cases same
      exact absurd decoded (skipped response)
  | initLine c session =>
    obtain ⟨read,found,moved⟩ := bind_eq_some_iff.mp taken
    revert moved
    fun_cases readInitLine runes parse calls s c session read.1 read.2 <;> intro moved
    case case1 | case2 =>
      obtain ⟨next,stepped,rfl⟩ := map_eq_some_iff.mp moved
      exact .inr ⟨_,stepped,iff_of_true trivial trivial⟩
    all_goals cases moved
    exact .inl ⟨rfl,trivial⟩

/-- Nothing panics exactly as long as every identifier that is used as a key, of a registered request or of a response
    read from a stream, is neither an array nor an object. -/
theorem sse_never_panics_iff (runes : List UInt8 → List Char) (parse : List Char → Payload) (calls : Nat → Call)
    (labels : List Label) (t : State) (executed : run (step runes parse calls) init labels = some t) :
    Always (step runes parse calls) (fun s => ¬ Panicked s.sse) init labels ↔
      Meets (step runes parse calls) (Keyed runes parse calls) init labels := by
  have kept : ∀ s label next, Wired calls s.sse → step runes parse calls s label = some next → Wired calls next.sse := by
    intro s label next wired taken
    obtain ⟨same,_⟩ | ⟨inner,moved,_⟩ := step_section taken
    · rwa [same]
    · exact step_wired s.sse inner next.sse wired moved
  have breaks : ∀ s label next, Wired calls s.sse → ¬ Panicked s.sse → step runes parse calls s label = some next →
      (¬ Panicked next.sse ↔ Keyed runes parse calls s label) := by
    intro s label next wired quiet taken
    obtain ⟨same,keyed⟩ | ⟨inner,moved,agree⟩ := step_section taken
    · rw [same]
      exact iff_of_true quiet keyed
    · rw [← agree]
      exact section_quiet_iff wired quiet moved
  have quiet : ¬ Panicked init.sse := by
    rintro (crashed | ⟨c,here⟩)
    · cases crashed
    · cases here
  exact always_iff_meets kept breaks wired_init quiet executed

end

def messageWith (id : Any) : Data :=
  .json (.object [("mcp_payload",.object [("method",.string "tools/call"),("id",id)])])

def ascii (bytes : List UInt8) : List Char := bytes.map fun byte => Char.ofNat byte.toNat

def bytesOf (text : String) : List UInt8 := text.toList.map fun c => UInt8.ofNat c.toNat

def parseIds (text : List Char) : Payload :=
  if text = "\x7b\"id\":[]\x7d".toList then .json (.object [("id",.array [])])
  else if text = "\x7b\"id\":\"a\"\x7d".toList then .json (.object [("id",.string "a")])
  else .malformed [] "invalid character"

def callWith (id : Any) (_ : Nat) : Call := ⟨"http://backend:8080/mcp",{ method := "tools/call", id := id }⟩

/-- A call opens a stream and registers, and its answer is read from the bytes of the stream. -/
def answeredRun : List Label :=
  [.call (.lookup 0),.call (.getOk 0 "s"),.call (.store 0),.call (.register 0),
    .send 0 (bytesOf ": ping\n\ndata: \x7b\"id\":\"a\"\x7d\n"),.line 0,.line 0,.line 0]

theorem answered_call_quiet : ∃ t, run (step ascii parseIds (callWith (.string "a"))) init answeredRun = some t ∧
      Always (step ascii parseIds (callWith (.string "a"))) (fun s => ¬ Panicked s.sse) init answeredRun := by
  refine ⟨_,rfl,(sse_never_panics_iff ascii parseIds (callWith (.string "a")) answeredRun _ rfl).mpr ?_⟩
  iterate 3 refine (meets_cons rfl).mpr ⟨trivial,?_⟩
  refine (meets_cons rfl).mpr ⟨(by decide : (Any.string "a").Hashable),?_⟩
  refine (meets_cons rfl).mpr ⟨trivial,?_⟩
  refine ⟨fun read response found decoded => ?_,fun _ taken => ?_⟩
  · cases found
    cases decoded
  cases taken
  refine ⟨fun read response found decoded => ?_,fun _ taken => ?_⟩
  · cases found
    cases decoded
  cases taken
  refine ⟨fun read response found decoded => ?_,fun _ taken => trivial⟩
  cases found
  cases decoded
  decide

def alice : Connection := ⟨.webSocket,"alice",⟨"s","alice",0,0,60 * second,[],{}⟩⟩

/-- A WebSocket client with the identifier `[]` makes its call panic, with `pendingMu` held; a backend the reader. -/
theorem unhashable_ids_panic : (∃ call t, processClientMessage alice (messageWith (.array [])) = .ok call ∧
      call.request = (callWith (.array []) 0).request ∧ run (step ascii parseIds (callWith (.array []))) init
        [.call (.lookup 0),.call (.getOk 0 "s"),.call (.store 0),.call (.register 0)] = some t ∧
      (t.sse.caller 0).pc = .panicked ∧ (t.sse.stream 0).locked = true) ∧
    ∃ t, run (step ascii parseIds (callWith (.string "a"))) init
        [.call (.lookup 0),.call (.getOk 0 "s"),.call (.store 0),.send 0 (bytesOf "data: \x7b\"id\":[]\x7d\n"),
          .line 0] = some t ∧ t.sse.crashed = true := by
  refine ⟨⟨⟨[(Frontends.sessionContextKey,.session alice.session)],{ method := "tools/call", id := .array [] },""⟩,_,
    ?_,rfl,rfl,rfl,rfl⟩,_,rfl,rfl⟩
  rfl

end McpBridge.SsePanics
