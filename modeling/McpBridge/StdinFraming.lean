import McpBridge.StdioHandler

/-!
`handleStdin` on a stdin that delivers chunks, with a reader that takes the messages from `stdinChan`.
-/
namespace McpBridge.StdinFraming
open StdioHandler Runs List

/-- `chunks` is what stdin has still to deliver; the handler has what its reader has buffered. -/
structure State where
  chunks : List (List UInt8)
  handler : Handler := .loop []
  stdinChan : List (List UInt8) := []
  received : List (List UInt8) := []
  closings : Nat := 0

/-- `ReadBytes` needs more of stdin when its buffer has no newline, but at stdin's end. -/
def State.starved (s : State) : Bool :=
  match s.handler,s.chunks with
  | .reading input,_ :: _ => newline ∉ input
  | _,_ => false

inductive Label where
  | fill
  | handle
  | receive

/-- One step of the reader or of who receives. -/
def step (s : State) : Label → Option State
  | .fill =>
    match s.handler,s.chunks with
    | .reading input,chunk :: chunks =>
      if newline ∉ input then some { s with handler := .reading (input ++ chunk), chunks := chunks } else none
    | _,_ => none
  | .handle =>
    if s.starved then none
    else (s.handler.step false s.stdinChan .go).map fun (handler,stdinChan) =>
      { s with
        handler := handler, stdinChan := stdinChan
        closings := s.closings + match handler with | .closed => 1 | _ => 0 }
  | .receive =>
    match s.stdinChan with
    | line :: rest => some { s with stdinChan := rest, received := s.received ++ [line] }
    | [] => none

/-- The handler with the bytes that are still to come. -/
def feed (more : List UInt8) : Handler → Handler
  | .loop input => .loop (input ++ more)
  | .reading input => .reading (input ++ more)
  | .sending line rest => .sending line (rest.map (· ++ more))
  | .closed => .closed

def weight : Handler → Nat
  | .loop input => 4 * input.length + 3
  | .reading input => 4 * input.length + 2
  | .sending _ rest => rest.elim 3 fun input => 4 * input.length + 5
  | .closed => 0

def State.whole (s : State) : Handler := feed s.chunks.flatten s.handler

def State.measure (s : State) : Nat := weight s.whole + s.chunks.length + s.stdinChan.length

/-- What was received, is in the channel and is to come are the lines of the input. -/
structure Framed (input : List UInt8) (s : State) : Prop where
  lines : s.received ++ s.stdinChan ++ s.whole.pending = lines input
  closed : s.closings = match s.handler with | .closed => 1 | _ => 0

/-- What is put on the channel begins the lines of the input, and the channel is closed once, after all of them; when
    nothing is left to do the lines have been received. -/
structure Delivered (input : List UInt8) (s : State) : Prop where
  inOrder : s.received ++ s.stdinChan <+: lines input
  once : s.closings ≤ 1
  closed : s.closings = 1 → s.received ++ s.stdinChan = lines input
  done : (∀ label, step s label = none) → s.received = lines input ∧ s.closings = 1

variable {input line rest more : List UInt8} {stdinChan after : List (List UInt8)} {handler next : Handler} {s t : State}
  {label : Label}

theorem readBytes_line (first : newline ∉ line) : readBytes (line ++ newline :: rest) = (line ++ [newline],some rest) := by
  have before : ∀ byte ∈ line, (byte != newline) = true := fun byte member =>
    bne_iff_ne.mpr fun same => first (same ▸ member)
  simp [readBytes,span_eq_takeWhile_dropWhile,takeWhile_append_of_pos before,dropWhile_append_of_pos before]

theorem processNextLine_feed (ended : newline ∈ input ∨ more = []) :
    processNextLine (input ++ more) = feed more (processNextLine input) := by
  rcases readBytes_cases input with ⟨last,_⟩ | ⟨line,rest,first,rfl,read⟩
  · cases ended.resolve_left last
    rw [append_nil]
    cases processNextLine input <;> simp [feed]
  · simp [processNextLine,readBytes_line first]
    split <;> rfl

theorem step_weight (moved : handler.step false stdinChan .go = some (next,after)) :
    weight next + after.length < weight handler + stdinChan.length := by
  cases handler with
  | loop input => cases moved; simp [weight]
  | reading input =>
    cases moved
    rcases readBytes_cases input with ⟨_,read⟩ | ⟨line,rest,_,rfl,read⟩
    · simp only [processNextLine,read,handleReadError]
      split_ifs with empty
      · simp [weight]
      · simp [weight]
      · have positive : 0 < input.length := length_pos_iff.mpr (by simpa using empty)
        simp only [weight,Option.elim_none]
        omega
    · simp only [processNextLine,read]
      split_ifs <;> simp [weight] <;> omega
  | sending line rest =>
    obtain ⟨_,⟨⟩⟩ := Option.ite_none_right_eq_some.mp moved
    cases rest <;> simp [weight,Handler.sent] <;> omega
  | closed => cases moved

/-- The handler does with the buffered bytes what it would do with all of them. -/
theorem whole_step (fed : ¬ s.starved = true) (moved : s.handler.step false s.stdinChan .go = some (next,after)) :
    s.whole.step false s.stdinChan .go = some (feed s.chunks.flatten next,after) := by
  unfold State.whole
  cases at_ : s.handler with
  | loop input => rw [at_] at moved; cases moved; rfl
  | reading input =>
    have ended : newline ∈ input ∨ s.chunks.flatten = [] := by
      cases chunks : s.chunks <;> simp_all [State.starved]
    rw [at_] at moved
    cases moved
    simp [feed,Handler.step,processNextLine_feed ended]
  | sending line rest =>
    rw [at_] at moved
    obtain ⟨room,⟨⟩⟩ := Option.ite_none_right_eq_some.mp moved
    cases rest <;> simp [feed,Handler.step,Handler.sent,room]
  | closed => rw [at_] at moved; cases moved

theorem step_measure (taken : step s label = some t) : t.measure < s.measure := by
  revert taken
  fun_cases step s label <;> intro taken
  case case5 fed =>
    obtain ⟨⟨handler,stdinChan⟩,moved,rfl⟩ := Option.map_eq_some_iff.mp taken
    have lower := step_weight (whole_step fed moved)
    simp only [State.measure,State.whole] at lower ⊢
    omega
  all_goals cases taken
  case case1 at_ chunks _ => simp [State.measure,State.whole,feed,at_,chunks]
  case case6 waiting => simp [State.measure,State.whole,waiting]

theorem Framed.kept (framed : Framed input s) (taken : step s label = some t) : Framed input t := by
  obtain ⟨whole,closed⟩ := framed
  revert taken
  fun_cases step s label <;> intro taken
  case case5 fed =>
    obtain ⟨⟨handler,stdinChan⟩,moved,rfl⟩ := Option.map_eq_some_iff.mp taken
    obtain same | ⟨⟨⟩,-⟩ := Handler.step_pending (whole_step fed moved)
    refine ⟨?_,?_⟩
    · rw [← whole,append_assoc,append_assoc]
      exact congrArg (s.received ++ ·) same
    · cases at_ : s.handler <;> simp_all [Handler.step]
  all_goals cases taken
  case case1 chunks at_ _ =>
    refine ⟨?_,by simp [closed,at_]⟩
    rw [← whole]
    simp [State.whole,feed,at_,chunks]
  case case6 waiting => exact ⟨by simpa [State.whole,waiting] using whole,closed⟩

theorem Framed.delivered (framed : Framed input s) : Delivered input s := by
  obtain ⟨whole,closed⟩ := framed
  refine ⟨⟨_,whole⟩,?_,?_,fun stuck => ?_⟩
  · cases at_ : s.handler <;> simp [closed,at_]
  · cases at_ : s.handler <;> simp_all [State.whole,feed,Handler.pending]
  · have taken : s.stdinChan = [] := by
      cases waiting : s.stdinChan with
      | nil => rfl
      | cons => simpa [step,waiting] using stuck .receive
    cases at_ : s.handler with
    | loop input => simpa [step,State.starved,at_,Handler.step] using stuck .handle
    | reading input =>
      cases chunks : s.chunks with
      | nil => simpa [step,State.starved,at_,chunks,Handler.step] using stuck .handle
      | cons =>
        have filled : newline ∈ input := by simpa [step,at_,chunks] using stuck .fill
        simpa [step,State.starved,at_,chunks,filled,Handler.step] using stuck .handle
    | sending line rest => simpa [step,State.starved,at_,taken,Handler.step,MessageRouter.defaultChannelBufferSize] using stuck .handle
    | closed => simp_all [State.whole,feed,Handler.pending]

/-- Every run of the handler and its consumer ends, and delivers the lines of what stdin delivers. -/
theorem stdin_delivered (chunks : List (List UInt8)) (labels : List Label) :
    WellFounded (fun t s : State => ∃ label, step s label = some t) ∧
      Always step (Delivered chunks.flatten) { chunks } labels := by
  refine ⟨Subrelation.wf (fun ⟨_,taken⟩ => step_measure taken) (measure State.measure).wf,?_⟩
  have start : Framed chunks.flatten { chunks } := ⟨rfl,rfl⟩
  exact (always_of_step (fun _ _ _ framed taken => framed.kept taken) start).imp fun _ framed => framed.delivered

end McpBridge.StdinFraming
