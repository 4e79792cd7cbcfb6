import Mathlib.Data.List.TakeWhile
import McpBridge.MessageRouter

/-!
`handleStdin` of the stdio handler. It reads stdin line by line, cuts off the end of each and sends what is left, if
anything, to `stdinChan`. At the end of the file or of its context it returns, which closes the channel.
-/
namespace McpBridge.StdioHandler
open MessageRouter List

def newline : UInt8 := 10

def carriageReturn : UInt8 := 13

/-- `reader.ReadBytes('\n')` on input that ends: a line with its newline and what follows, or the rest at `io.EOF`. -/
def readBytes (input : List UInt8) : List UInt8 × Option (List UInt8) :=
  match input.span (· != newline) with
  | (line,_ :: rest) => (line ++ [newline],some rest)
  | (line,[]) => (line,none)

def trimEnd (byte : UInt8) (line : List UInt8) : List UInt8 :=
  if line.getLast? = some byte then line.dropLast else line

def cleanLine (line : List UInt8) : List UInt8 := trimEnd carriageReturn (trimEnd newline line)

inductive Handler where
  | loop (input : List UInt8)
  | reading (input : List UInt8)
  | sending (line : List UInt8) (rest : Option (List UInt8))
  | closed

/-- `handleReadError` at `io.EOF`. -/
def handleReadError (line : List UInt8) : Handler :=
  if line.isEmpty then .closed
  else if (cleanLine line).isEmpty then .closed
  else .sending (cleanLine line) none

def processNextLine (input : List UInt8) : Handler :=
  match readBytes input with
  | (line,none) => handleReadError line
  | (line,some rest) => if (cleanLine line).isEmpty then .loop rest else .sending (cleanLine line) (some rest)

/-- What follows a `sendToChannel` that has sent its line. -/
def Handler.sent : Option (List UInt8) → Handler
  | some input => .loop input
  | none => .closed

/-- How the handler moves on: by itself, or because its context is over. -/
inductive HandlerMove where
  | go
  | cancelled

/-- A step of the handler and what it does to the channel; `done` says that the context is over. -/
def Handler.step (done : Bool) (stdinChan : List (List UInt8)) :
    Handler → HandlerMove → Option (Handler × List (List UInt8))
  | .loop input,.go => some (if done then .closed else .reading input,stdinChan)
  | .reading input,.go => some (processNextLine input,stdinChan)
  | .sending line rest,.go =>
    if stdinChan.length < defaultChannelBufferSize then some (.sent rest,stdinChan ++ [line]) else none
  | .sending _ _,.cancelled => if done then some (.closed,stdinChan) else none
  | _,_ => none

def lines (input : List UInt8) : List (List UInt8) :=
  ((input.splitOn newline).map (trimEnd carriageReturn)).filter fun line => !line.isEmpty

def Handler.pending : Handler → List (List UInt8)
  | .loop input => lines input
  | .reading input => lines input
  | .sending line rest => line :: rest.elim [] lines
  | .closed => []

section reading
variable {input line rest : List UInt8}

def nonEmpty (line : List UInt8) : List (List UInt8) := if line.isEmpty then [] else [line]

theorem filter_singleton (line : List UInt8) : [line].filter (fun line => !line.isEmpty) = nonEmpty line := by
  cases line <;> rfl

theorem lines_of_newline (first : newline ∉ line) :
    lines (line ++ newline :: rest) = nonEmpty (trimEnd carriageReturn line) ++ lines rest := by
  have cut : (line ++ newline :: rest).splitOn newline = line.splitOn newline ++ rest.splitOn newline :=
    splitOnP_append_cons line rest (beq_self_eq_true newline)
  rw [lines,cut,splitOn_eq_singleton first,map_append,filter_append,map_singleton,filter_singleton]
  rfl

theorem cleanLine_last (last : newline ∉ line) : cleanLine line = trimEnd carriageReturn line := by
  have kept : trimEnd newline line = line := if_neg fun ends => last (mem_of_getLast? ends)
  rw [cleanLine,kept]

theorem cleanLine_newline (line : List UInt8) : cleanLine (line ++ [newline]) = trimEnd carriageReturn line := by
  have cut : trimEnd newline (line ++ [newline]) = line := by simp [trimEnd]
  rw [cleanLine,cut]

theorem readBytes_cases (input : List UInt8) : (newline ∉ input ∧ readBytes input = (input,none)) ∨
      ∃ line rest, newline ∉ line ∧ input = line ++ newline :: rest ∧ readBytes input = (line ++ [newline],some rest) := by
  have clean : newline ∉ input.takeWhile (· != newline) := by
    intro member
    have differs := mem_takeWhile_imp member
    simp at differs
  have whole := takeWhile_append_dropWhile (p := (· != newline)) (l := input)
  unfold readBytes
  rw [span_eq_takeWhile_dropWhile]
  cases after : input.dropWhile (· != newline) with
  | nil =>
    rw [after,append_nil] at whole
    rw [whole] at clean ⊢
    exact .inl ⟨clean,rfl⟩
  | cons byte rest =>
    have stopped := head?_dropWhile_not (· != newline) input
    rw [after] at stopped whole
    have same : byte = newline := by simpa using stopped
    subst same
    exact .inr ⟨_,rest,clean,whole.symm,rfl⟩

theorem handleReadError_pending (line : List UInt8) : (handleReadError line).pending = nonEmpty (cleanLine line) := by
  unfold handleReadError nonEmpty
  split
  next empty =>
    rw [isEmpty_iff.mp empty]
    rfl
  next =>
    split
    next => rfl
    next => rfl

theorem processNextLine_pending (input : List UInt8) : (processNextLine input).pending = lines input := by
  unfold processNextLine
  rcases readBytes_cases input with ⟨last,read⟩ | ⟨line,rest,first,rfl,read⟩
  · rw [read,lines,splitOn_eq_singleton last,map_singleton,filter_singleton,← cleanLine_last last]
    exact handleReadError_pending input
  · rw [read,lines_of_newline first,← cleanLine_newline]
    unfold nonEmpty
    simp only
    split
    next => rfl
    next => rfl

end reading

section
variable {done : Bool} {handler next : Handler} {stdinChan after : List (List UInt8)} {move : HandlerMove} (moved : handler.step done stdinChan move = some (next,after))
include moved

theorem Handler.step_pending :
    after ++ next.pending = stdinChan ++ handler.pending ∨ done = true ∧ next = .closed ∧ after = stdinChan := by
  revert moved
  fun_cases Handler.step done stdinChan handler move <;> rintro ⟨⟩
  case case1 input =>
    cases done
    · exact .inl rfl
    · exact .inr ⟨rfl,rfl,rfl⟩
  case case2 input =>
    rw [processNextLine_pending]
    exact .inl rfl
  case case3 line rest _ =>
    left
    cases rest <;> simp [sent,pending]
  case case5 ended => exact .inr ⟨ended,rfl,rfl⟩

theorem Handler.step_prefix : after ++ next.pending <+: stdinChan ++ handler.pending := by
  rcases Handler.step_pending moved with same | ⟨_,rfl,rfl⟩
  · exact same ▸ prefix_rfl
  · exact (prefix_append_right_inj after).mpr nil_prefix

end

end McpBridge.StdioHandler
