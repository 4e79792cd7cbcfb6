import Mathlib.Tactic.Common

/-!
The loop of the stdio frontend that reads the requests of a client.
-/
namespace McpBridge.StdioRequests
variable {Request Error : Type}

/-- What `Decode` finds: a JSON value, which may be no request, only white space, or the error in the bytes. -/
inductive Reading (Request Error : Type) where
  | value (req : Except Error Request) (rest : List UInt8)
  | eof
  | broken (err : Error)

/-- The JSON decoder; a value has at least one byte. -/
structure Decoder (Request Error : Type) where
  decode : List UInt8 → Reading Request Error
  shorter : ∀ {bytes req rest}, decode bytes = .value req rest → rest.length < bytes.length

/-- The decoder has these bytes left, or it returns this error from now on. -/
inductive Reader (Error : Type) where
  | bytes (left : List UInt8)
  | failed (err : Error)

/-- How the wait for the next value ends: its bytes or the end of the stream arrive, the client is silent for
    `ClientTimeout`, or the read fails. -/
inductive Event (Error : Type) where
  | arrived
  | silent
  | failed (err : Error)

/-- A connection of a client; only a socket takes a read deadline. -/
structure Connection (Error : Type) where
  socket : Bool
  timeout : Error
  event : Nat → Event Error

/-- The error of the read in a turn, under the deadline that `setReadTimeout` has set. -/
def Connection.readError (conn : Connection Error) (turn : Nat) : Option Error :=
  match conn.event turn with
  | .arrived => none
  | .silent => if conn.socket then some conn.timeout else none
  | .failed err => some err

/-- A request is answered, with a response or with an error, or an error is counted. -/
inductive Output (Request Error : Type) where
  | answered (req : Request)
  | failed (err : Error)

variable (d : Decoder Request Error) (conn : Connection Error) (shutdown : Nat → Bool)

/-- An error of the read stays with the decoder. -/
def readRequest (turn : Nat) : Reader Error → Reading Request Error × Reader Error
  | .failed err => (.broken err,.failed err)
  | .bytes left =>
    match conn.readError turn with
    | some err => (.broken err,.failed err)
    | none =>
      match d.decode left with
      | .value req rest => (.value req rest,.bytes rest)
      | .eof => (.eof,.bytes left)
      | .broken err => (.broken err,.failed err)

/-- Whether the loop goes on, and what was put out. -/
def processSingleRequest (turn : Nat) (reader : Reader Error) : Bool × Reader Error × List (Output Request Error) :=
  match readRequest d conn turn reader with
  | (.value (.ok req) _,reader) => (true,reader,[.answered req])
  | (.value (.error err) _,reader) => (true,reader,[.failed err])
  | (.eof,reader) => (false,reader,[])
  | (.broken err,reader) => (true,reader,[.failed err])

/-- What is put out until the loop returns; `shutdown` says in which turns `shutdownCh` is closed. -/
def processRequests : (fuel turn : Nat) → Reader Error → Option (List (Output Request Error))
  | 0,_,_ => none
  | fuel + 1,turn,reader =>
    if shutdown turn then some []
    else match processSingleRequest d conn turn reader with
      | (true,reader,out) => (processRequests fuel (turn + 1) reader).map (out ++ ·)
      | (false,_,out) => some out

/-- The JSON values at the front of the bytes, and the error in what is left. -/
def parse (bytes : List UInt8) : List (Except Error Request) × Option Error :=
  match _found : d.decode bytes with
  | .value req rest => (req :: (parse rest).1,(parse rest).2)
  | .eof => ([],none)
  | .broken err => ([],some err)
termination_by bytes.length
decreasing_by all_goals exact d.shorter _found

/-- The loop returns, and has put out at most so many responses and errors. -/
def Returns (turn : Nat) (reader : Reader Error) (most : Nat) : Prop :=
  ∃ fuel outputs, processRequests d conn shutdown fuel turn reader = some outputs ∧ outputs.length ≤ most

/-- The frontend is found shut down within so many turns. -/
def Soon (turn most : Nat) : Prop := ∃ t ≤ most, shutdown (turn + t) = true

variable {d conn shutdown} {turn most : Nat} {reader : Reader Error}

theorem returns_iff : Returns d conn shutdown turn reader most ↔ shutdown turn = true ∨
    match processSingleRequest d conn turn reader with
    | (true,reader,out) => out.length ≤ most ∧ Returns d conn shutdown (turn + 1) reader (most - out.length)
    | (false,_,out) => out.length ≤ most := by
  have unfolded : Returns d conn shutdown turn reader most ↔ ∃ fuel outputs,
      processRequests d conn shutdown (fuel + 1) turn reader = some outputs ∧ outputs.length ≤ most := by
    refine ⟨fun ⟨fuel,outputs,returned,few⟩ => ?_,fun ⟨fuel,returned⟩ => ⟨fuel + 1,returned⟩⟩
    cases fuel with
    | zero => cases returned
    | succ fuel => exact ⟨fuel,outputs,returned,few⟩
  rw [unfolded]
  cases down : shutdown turn with
  | true => simp [processRequests,down]
  | false =>
    simp only [processRequests,down,Bool.false_eq_true,if_false,false_or]
    obtain ⟨goes,next,out⟩ := processSingleRequest d conn turn reader
    cases goes with
    | false => simp
    | true =>
      simp only [Option.map_eq_some_iff]
      constructor
      · rintro ⟨fuel,_,⟨later,returned,rfl⟩,few⟩
        rw [List.length_append] at few
        exact ⟨by omega,fuel,later,returned,by omega⟩
      · rintro ⟨one,fuel,later,returned,few⟩
        exact ⟨fuel,_,⟨later,returned,rfl⟩,by rw [List.length_append]; omega⟩

theorem soon_succ_iff : Soon shutdown turn (most + 1) ↔ shutdown turn = true ∨ Soon shutdown (turn + 1) most := by
  constructor
  · rintro ⟨_ | t,few,down⟩
    · exact .inl down
    · exact .inr ⟨t,by omega,by rwa [Nat.add_right_comm]⟩
  · rintro (down | ⟨t,few,down⟩)
    · exact ⟨0,by omega,down⟩
    · exact ⟨t + 1,by omega,by rwa [Nat.add_right_comm] at down⟩

/-- Once the decoder has failed, every turn counts an error, until the frontend is shut down. -/
theorem returns_failed {err : Error} : Returns d conn shutdown turn (.failed err) most ↔ Soon shutdown turn most := by
  induction most generalizing turn with
  | zero =>
    rw [returns_iff]
    simp [processSingleRequest,readRequest,Soon]
  | succ most ih =>
    rw [returns_iff,soon_succ_iff]
    simp [processSingleRequest,readRequest,ih]

theorem returns_unread {err : Error} {bytes : List UInt8} (fails : conn.readError turn = some err) :
    Returns d conn shutdown turn (.bytes bytes) (most + 1) ↔ Soon shutdown turn (most + 1) := by
  rw [returns_iff,soon_succ_iff]
  simp [processSingleRequest,readRequest,fails,returns_failed]

/-- No read fails in so many turns and one more. -/
def Reads (conn : Connection Error) (turn more : Nat) : Prop := ∀ t ≤ more, conn.readError (turn + t) = none

theorem reads_succ_iff : Reads conn turn (most + 1) ↔ conn.readError turn = none ∧ Reads conn (turn + 1) most := by
  constructor
  · intro reads
    refine ⟨reads 0 (Nat.zero_le _),fun t few => ?_⟩
    rw [Nat.add_right_comm]
    exact reads (t + 1) (by omega)
  · rintro ⟨first,later⟩ (_ | t) few
    · exact first
    · have read := later t (by omega)
      rwa [Nat.add_right_comm] at read

theorem returns_bytes {bytes : List UInt8} : Returns d conn shutdown turn (.bytes bytes) ((parse d bytes).1.length + 1) ↔
    (parse d bytes).2 = none ∧ Reads conn turn (parse d bytes).1.length ∨
      Soon shutdown turn ((parse d bytes).1.length + 1) := by
  fun_induction parse d bytes generalizing turn with
  | case1 bytes req rest found ih =>
    rw [List.length_cons,reads_succ_iff]
    cases fails : conn.readError turn with
    | some err => simp [returns_unread fails]
    | none =>
      have single : ∃ out, processSingleRequest d conn turn (.bytes bytes) = (true,.bytes rest,[out]) := by
        cases req <;> simp [processSingleRequest,readRequest,fails,found]
      obtain ⟨out,single⟩ := single
      rw [returns_iff,single,soon_succ_iff]
      simp [ih,or_left_comm]
  | case2 bytes found =>
    cases fails : conn.readError turn with
    | some err => simp [returns_unread fails,Reads,fails]
    | none =>
      rw [returns_iff]
      simp [processSingleRequest,readRequest,fails,found,Reads]
  | case3 bytes err found =>
    cases fails : conn.readError turn with
    | some err => simp [returns_unread fails]
    | none =>
      rw [returns_iff,soon_succ_iff]
      simp [processSingleRequest,readRequest,fails,found,returns_failed]

/-- The loop returns, with at most one response or error for each JSON value and one for the rest, exactly when nothing
    undecodable is left and no read fails, or `shutdownCh` is closed in time. -/
theorem requests_finite_iff (d : Decoder Request Error) (conn : Connection Error) (shutdown : Nat → Bool)
    (bytes : List UInt8) : Returns d conn shutdown 0 (.bytes bytes) ((parse d bytes).1.length + 1) ↔
      (parse d bytes).2 = none ∧ Reads conn 0 (parse d bytes).1.length ∨
        Soon shutdown 0 ((parse d bytes).1.length + 1) :=
  returns_bytes

/-- A decoder that meets a syntax error at every byte, as at a closing brace. -/
def strict : Decoder Unit Unit where
  decode
    | [] => .eof
    | _ => .broken ()
  shorter {bytes} := by cases bytes <;> nofun

/-- After a closing brace the loop never returns, nor on a socket whose client is silent before it closes. -/
theorem requests_endless :
    (¬ ∃ most, Returns strict ⟨true,(),fun _ => .arrived⟩ (fun _ => false) 0 (.bytes [125]) most) ∧
      ¬ ∃ most, Returns strict ⟨true,(),fun turn => if turn = 0 then .silent else .arrived⟩ (fun _ => false) 0 (.bytes [])
        most := by
  constructor
  all_goals
    rintro ⟨most,fuel,outputs,returned,_⟩
    have few : Returns strict _ _ 0 _ (outputs.length + 1) := ⟨fuel,outputs,returned,by omega⟩
    rw [returns_iff] at few
    simp [processSingleRequest,readRequest,Connection.readError,strict,returns_failed,Soon] at few

end McpBridge.StdioRequests
