import McpBridge.SharedChannels
import McpBridge.SseFrontend
import McpBridge.WebSocketFrontend

/-!
The channels of the SSE and the WebSocket frontend, which goroutines share. A POST holds the stream it has found until
it has sent its response, and a round of keep-alives those it has not served yet.
-/
namespace McpBridge.SseFrontend
open Runs
open Channels (Panic)
open Buffers SharedChannels

def Closed (s : State) (k : Nat) : Prop := (s.stream k).eventCh.buffer.closed = true

/-- A POST has found the stream and is not done, or a round of keep-alives is to serve it. -/
def Holds (s : State) (k : Nat) : Prop :=
  (∃ p, s.post p = .found k ∨ s.post p = .sending k) ∨ ∃ rest, s.keepAlive = .round rest ∧ k ∈ rest

/-- The loop of the stream closes it, or `Stop` does. -/
def Closes (s : State) (label : Label) (k : Nat) : Prop :=
  label = .close k ∨ label = .stopClose ∧ ∃ rest, s.stop = .closing (k :: rest)

/-- A POST finds the stream, or a round of keep-alives begins with it in the registry. -/
def Finds (_ : State) (label : Label) (k : Nat) : Prop :=
  (∃ p, label = .find p k) ∨ ∃ order, label = .keepAlive order ∧ k ∈ order

/-- The step does not close a stream that somebody holds, nor does somebody get hold of a closed one. -/
def CarefulStep : State → Label → Prop := Careful Closed Holds Closes Finds

/-- The flags of all streams are right, and no channel was closed twice. -/
structure Sound (s : State) : Prop where
  flags : ∀ k, (s.stream k).eventCh.Sound
  once : s.panic ≠ some .closeOfClosed

section
variable {site : Site} {s t : State}

theorem eventCh_setStream (s : State) (k : Nat) (stream : Stream) :
    (fun j => ((s.setStream k stream).stream j).eventCh) =
      Function.update (fun j => (s.stream j).eventCh) k stream.eventCh := by
  funext j
  rw [State.setStream_stream,Function.update_apply]
  split <;> rfl

variable {label : Label}

theorem step_shift (sound : Sound s) (taken : step site s label = some t) :
    t.panic ≠ some .closeOfClosed ∧ ∃ which, (∀ j, Closes s label j ↔ which = some j) ∧
      Shift (fun k => (s.stream k).eventCh) (fun k => (t.stream k).eventCh) which := by
  obtain ⟨calm,effect⟩ := step_effect taken
  have quiet : s.panic ≠ some .closeOfClosed := by
    rw [calm]
    nofun
  cases effect with
  | @close k eventCh here done =>
    refine ⟨quiet,some k,fun j => by simp [Closes,eq_comm],?_⟩
    rw [State.setEventCh_setLoop,eventCh_setStream]
    exact .close done
  | @stopClose k rest eventCh here done =>
    refine ⟨quiet,some k,fun j => by simp [Closes,here],?_⟩
    show Shift _ (fun j => ((s.setStream k _).stream j).eventCh) _
    rw [eventCh_setStream]
    exact .close done
  | @closePanic k panic here twice | @stopPanic k rest panic here twice =>
    exact absurd twice (sound.flags k).close_ne_error
  | @receive k =>
    refine ⟨quiet,none,fun j => by simp [Closes],?_⟩
    rw [State.push,State.setEventCh_setLoop,eventCh_setStream]
    exact .update rfl rfl
  | @connect k | @ended k | @wrote k | @unwritten k | @quit k | @unlist k | @send p k | @keepSend k =>
    refine ⟨quiet,none,fun j => by simp [Closes],?_⟩
    show Shift _ (fun j => ((s.setStream k _).stream j).eventCh) _
    rw [eventCh_setStream]
    exact .update rfl rfl
  | sendPanic | keepPanic => exact ⟨nofun,none,fun j => by simp [Closes],.refl _⟩
  | _ => exact ⟨quiet,none,fun j => by simp [Closes],.refl _⟩

theorem step_sound (s : State) (label : Label) (t : State) (sound : Sound s) (taken : step site s label = some t) :
    Sound t := by
  obtain ⟨once,which,-,shift⟩ := step_shift sound taken
  exact ⟨shift.sound sound.flags,once⟩

theorem step_closed (s : State) (label : Label) (t : State) (j : Nat) (sound : Sound s)
    (taken : step site s label = some t) : Closed t j ↔ Closed s j ∨ Closes s label j := by
  obtain ⟨-,which,named,shift⟩ := step_shift sound taken
  exact (shift.closed sound.flags j).trans (or_congr_right (named j).symm)

variable {j : Nat}

/-- Who holds a stream after a step has held it before or has found it now. -/
theorem step_holds (taken : step site s label = some t) (held : Holds t j) : Holds s j ∨ Finds s label j := by
  have posts : ∀ {p post}, (∃ q, (s.setPost p post).post q = .found j ∨ (s.setPost p post).post q = .sending j) →
      Holds s j ∨ post = .found j ∨ post = .sending j := by
    rintro p post ⟨q,holds⟩
    rw [State.setPost_post] at holds
    split at holds
    next => exact .inr holds
    next => exact .inl (.inl ⟨q,holds⟩)
  rcases held with found | ⟨others,same,inside⟩
  · cases (step_effect taken).2 with
    | @find p k here =>
      rcases posts found with before | same | same
      · exact .inl before
      · cases same
        exact .inr (.inl ⟨p,rfl⟩)
      · cases same
    | @route p k ok here =>
      rcases posts found with before | same | same
      · exact .inl before
      all_goals split at same <;> cases same
      exact .inl (.inl ⟨p,.inl here⟩)
    | notFound | sendPanic | timeout | send =>
      rcases posts found with before | same | same
      · exact .inl before
      all_goals cases same
    | _ => exact .inl (.inl found)
  · cases (step_effect taken).2 with
    | keepAlive =>
      cases same
      exact .inr (.inr ⟨_,rfl,inside⟩)
    | @keepSend k rest here | @keepSkip k rest here =>
      cases same
      exact .inl (.inr ⟨k :: others,here,List.mem_cons_of_mem _ inside⟩)
    | keepEnd | keepStop => cases same
    | _ => exact .inl (.inr ⟨others,same,inside⟩)

theorem step_finds (taken : step site s label = some t) (found : Finds s label j) : Holds t j := by
  obtain ⟨p,rfl⟩ | ⟨order,rfl,inside⟩ := found
  · cases (step_effect taken).2
    exact .inl ⟨p,.inl (Function.update_self _ _ _)⟩
  · cases (step_effect taken).2
    exact .inr ⟨order,rfl,inside⟩

theorem step_closes (taken : step site s label = some t) (closes : Closes s label j)
    (held : Holds s j) : Holds t j := by
  obtain rfl | ⟨rfl,-⟩ := closes <;> cases (step_effect taken).2 <;> exact held

theorem step_panics (sound : Sound s) (taken : step site s label = some t) :
    t.panic = none ∨ t.panic = some .sendOnClosed ∧ ∃ k, Holds s k ∧ Closed s k := by
  obtain ⟨calm,effect⟩ := step_effect taken
  cases effect with
  | @sendPanic p k here closed => exact .inr ⟨rfl,k,.inl ⟨p,.inr here⟩,closed⟩
  | @keepPanic k rest here closed => exact .inr ⟨rfl,k,.inr ⟨_,here,List.mem_cons_self⟩,closed⟩
  | @closePanic k panic here twice | @stopPanic k rest panic here twice =>
    exact absurd twice (sound.flags k).close_ne_error
  | _ => exact .inl calm

theorem send_closed {p k : Nat} (calm : s.panic = none) (here : s.post p = .sending k) (closed : Closed s k) :
    ∃ last, step site s (.send p) = some last ∧ last.panic = some .sendOnClosed := by
  refine ⟨{ s.setPost p .panicked with panic := some .sendOnClosed },?_,rfl⟩
  simp [step,calm,here,stepPost,Buffer.send_closed _ _ closed]

/-- A round of keep-alives that comes to a closed stream panics. -/
theorem round_closed {k : Nat} (rest : List Nat) (s : State) (sound : Sound s) (calm : s.panic = none)
    (here : s.keepAlive = .round rest) (inside : k ∈ rest) (closed : Closed s k) :
    ∃ last, Reaches (step site) s last ∧ last.panic = some .sendOnClosed := by
  induction rest generalizing s with
  | nil => cases inside
  | cons j rest ih =>
    by_cases shut : Closed s j
    · have taken : step site s .keepSend = some { s with panic := some .sendOnClosed } := by
        simp only [step,calm,if_true,here,stepKeepAlive,Buffer.send_closed _ _ shut]
      exact ⟨_,reaches_of_step taken,rfl⟩
    · obtain ⟨next,taken,quiet,round⟩ : ∃ next, step site s .keepSend = some next ∧ next.panic = none ∧
          next.keepAlive = .round rest := by
        rcases @Buffer.send_cases _ site.capacity .keepAlive (s.stream j).eventCh.buffer _ rfl with
          ⟨now,_⟩ | ⟨_,_,sent⟩ | ⟨_,_,sent⟩
        · exact absurd now shut
        · simp only [step,calm,if_true,here,stepKeepAlive,sent]
          exact ⟨_,rfl,rfl,rfl⟩
        · simp only [step,calm,if_true,here,stepKeepAlive,sent]
          exact ⟨_,rfl,calm,rfl⟩
      have later : k ∈ rest := (List.mem_cons.mp inside).resolve_left fun same => shut (same ▸ closed)
      have still : Closed next k := (step_closed s .keepSend next k sound taken).mpr (.inl closed)
      obtain ⟨last,reached,panicked⟩ := ih next (step_sound s .keepSend next sound taken) quiet round later still
      exact ⟨last,.cons taken reached,panicked⟩

theorem panic_of_holds {k : Nat} (sound : Sound s) (calm : s.panic = none) (held : Holds s k) (closed : Closed s k) :
    ∃ last, Reaches (step site) s last ∧ last.panic = some .sendOnClosed := by
  obtain ⟨p,here | here⟩ | ⟨rest,here,inside⟩ := held
  · have routed : step site s (.route p true) = some (s.setPost p (.sending k)) := by
      simp [step,calm,here,stepPost]
    obtain ⟨last,sent,panicked⟩ := @send_closed site (s.setPost p (.sending k)) p k calm (Function.update_self _ _ _) closed
    exact ⟨last,.cons routed (reaches_of_step sent),panicked⟩
  · obtain ⟨last,sent,panicked⟩ := @send_closed site s p k calm here closed
    exact ⟨last,reaches_of_step sent,panicked⟩
  · exact round_closed rest s sound calm here inside closed

variable (site) in
theorem sharing : Sharing (step site) State.panic Closed Holds Closes Finds Sound where
  kept := step_sound
  once _ sound := sound.once
  closing := step_closed
  holding _ _ _ _ _ := step_holds
  finding _ _ _ _ := step_finds
  staying _ _ _ _ := step_closes
  apart s label j k closes found := by
    obtain rfl | ⟨rfl,-⟩ := closes <;> obtain ⟨p,same⟩ | ⟨order,same,-⟩ := found <;> cases same
  panics _ _ _ := step_panics
  ends _ _ := panic_of_holds

theorem init_quiet : Quiet State.panic Closed Holds Sound init where
  sound := ⟨fun _ => rfl,nofun⟩
  calm := rfl
  isOpen _ _ := nofun

end

end McpBridge.SseFrontend

namespace McpBridge.WebSocketFrontend
open Runs
open Channels (Panic)
open Buffers SharedChannels

def Closed (s : State) (k : Nat) : Prop := (s.connection k).writeCh.buffer.closed = true

def Reader.busy : Reader → Bool
  | .reading | .routing | .sending _ => true
  | _ => false

/-- The read loop is busy, or `Stop` is going to notify the connection. -/
def Holds (s : State) (k : Nat) : Prop :=
  (s.connection k).reader.busy = true ∨ ∃ rest, s.stop = .notifying rest ∧ k ∈ rest

/-- The end of the read loop closes the connection, or `Stop` does. -/
def Closes (s : State) (label : Label) (k : Nat) : Prop :=
  label = .close k ∨ label = .stopClose ∧ ∃ rest, s.stop = .closing (k :: rest)

/-- The read loop goes on, or `Stop` begins to notify with the connection in the registry. -/
def Finds (s : State) (label : Label) (k : Nat) : Prop :=
  label = .check k ∧ (s.connection k).writeCh.flag = false ∧ s.stop = .running ∨
    ∃ order, label = .notify order ∧ k ∈ order

/-- The step does not close a connection that somebody holds, nor does somebody get hold of a closed one. -/
def CarefulStep : State → Label → Prop := Careful Closed Holds Closes Finds

/-- The flags of all connections are right, and no channel was closed twice. -/
structure Sound (s : State) : Prop where
  flags : ∀ k, (s.connection k).writeCh.Sound
  once : s.panic ≠ some .closeOfClosed

section
variable {capacity : Nat} {s t : State}

theorem writeCh_setConnection (s : State) (k : Nat) (connection : Connection) :
    (fun j => ((s.setConnection k connection).connection j).writeCh) =
      Function.update (fun j => (s.connection j).writeCh) k connection.writeCh := by
  funext j
  rw [State.setConnection_connection,Function.update_apply]
  split <;> rfl

variable {label : Label}

/-- A step closes the channels it is said to close, leaves the others as they are, and closes none twice. -/
theorem step_shift (sound : Sound s) (taken : step capacity s label = some t) :
    t.panic ≠ some .closeOfClosed ∧ ∃ which, (∀ j, Closes s label j ↔ which = some j) ∧
      Shift (fun k => (s.connection k).writeCh) (fun k => (t.connection k).writeCh) which := by
  obtain ⟨calm,effect⟩ := step_effect taken
  have quiet : s.panic ≠ some .closeOfClosed := by
    rw [calm]
    nofun
  cases effect with
  | @close k writeCh here done =>
    refine ⟨quiet,some k,fun j => by simp [Closes,eq_comm],?_⟩
    rw [State.setWriteCh_setReader,writeCh_setConnection]
    exact .close done
  | @stopClose k rest writeCh here done =>
    refine ⟨quiet,some k,fun j => by simp [Closes,here],?_⟩
    show Shift _ (fun j => ((s.setConnection k _).connection j).writeCh) _
    rw [writeCh_setConnection]
    exact .close done
  | @closePanic k panic here twice | @stopPanic k rest panic here twice =>
    exact absurd twice (sound.flags k).close_ne_error
  | @send k =>
    refine ⟨quiet,none,fun j => by simp [Closes],?_⟩
    rw [State.push,State.setWriteCh_setReader,writeCh_setConnection]
    exact .update rfl rfl
  | @register k | @remove k | @check k | @message k | @readFail k | @route k | @giveUp k | @take k | @notifySend k =>
    refine ⟨quiet,none,fun j => by simp [Closes],?_⟩
    show Shift _ (fun j => ((s.setConnection k _).connection j).writeCh) _
    rw [writeCh_setConnection]
    exact .update rfl rfl
  | sendPanic | notifyPanic => exact ⟨nofun,none,fun j => by simp [Closes],.refl _⟩
  | _ => exact ⟨quiet,none,fun j => by simp [Closes],.refl _⟩

theorem step_sound (s : State) (label : Label) (t : State) (sound : Sound s) (taken : step capacity s label = some t) :
    Sound t := by
  obtain ⟨once,which,-,shift⟩ := step_shift sound taken
  exact ⟨shift.sound sound.flags,once⟩

theorem step_closed (s : State) (label : Label) (t : State) (j : Nat) (sound : Sound s)
    (taken : step capacity s label = some t) : Closed t j ↔ Closed s j ∨ Closes s label j := by
  obtain ⟨-,which,named,shift⟩ := step_shift sound taken
  exact (shift.closed sound.flags j).trans (or_congr_right (named j).symm)

variable {k j : Nat}

theorem busy_setConnection {connection : Connection}
    (busy : ((s.setConnection k connection).connection j).reader.busy = true)
    (before : connection.reader.busy = true → (s.connection k).reader.busy = true) :
    (s.connection j).reader.busy = true := by
  rw [State.setConnection_connection] at busy
  split at busy
  next same =>
    subst same
    exact before busy
  next => exact busy

/-- A read loop that is busy after a step was so before or goes on now. -/
theorem step_busy (taken : step capacity s label = some t)
    (busy : (t.connection j).reader.busy = true) : (s.connection j).reader.busy = true ∨ Finds s label j := by
  cases (step_effect taken).2 with
  | register | remove | readFail =>
    refine .inl (busy_setConnection busy ?_)
    nofun
  | message here | route here | giveUp here =>
    refine .inl (busy_setConnection busy fun _ => ?_)
    rw [here]
    rfl
  | take | notifySend | stopClose => exact .inl (busy_setConnection busy id)
  | send | close =>
    simp only [State.push,State.setWriteCh_setReader] at busy
    refine .inl (busy_setConnection busy ?_)
    nofun
  | @check k here =>
    by_cases same : j = k
    · subst same
      rw [State.setReader,State.setConnection_connection,if_pos rfl] at busy
      split at busy
      next => cases busy
      next goes =>
        rw [not_or,not_not] at goes
        exact .inr (.inl ⟨rfl,Bool.eq_false_iff.mpr goes.1,goes.2⟩)
    · rw [State.setReader,State.setConnection_connection,if_neg same] at busy
      exact .inl busy
  | _ => exact .inl busy

theorem step_notifies {rest : List Nat} (taken : step capacity s label = some t)
    (here : t.stop = .notifying rest) (inside : j ∈ rest) :
    (∃ rest, s.stop = .notifying rest ∧ j ∈ rest) ∨ Finds s label j := by
  cases (step_effect taken).2 with
  | notify =>
    cases here
    exact .inr (.inr ⟨_,rfl,inside⟩)
  | @notifySend k others before | @notifySkip k others before =>
    cases here
    exact .inl ⟨k :: rest,before,List.mem_cons_of_mem _ inside⟩
  | signal | notifyEnd | snapshot | stopClose | stopEnd => cases here
  | _ => exact .inl ⟨rest,here,inside⟩

theorem step_holds (taken : step capacity s label = some t) (held : Holds t j) : Holds s j ∨ Finds s label j := by
  rcases held with busy | ⟨rest,here,inside⟩
  · exact (step_busy taken busy).imp_left .inl
  · exact (step_notifies taken here inside).imp_left .inr

theorem step_finds (taken : step capacity s label = some t) (found : Finds s label j) : Holds t j := by
  obtain ⟨rfl,isOpen,running⟩ | ⟨order,rfl,inside⟩ := found
  · cases (step_effect taken).2
    refine .inl ?_
    rw [State.setReader,State.setConnection_connection,if_pos rfl,isOpen,running]
    rfl
  · cases (step_effect taken).2
    exact .inr ⟨order,rfl,inside⟩

theorem step_closes (taken : step capacity s label = some t) (closes : Closes s label j)
    (held : Holds s j) : Holds t j := by
  obtain rfl | ⟨rfl,rest,here⟩ := closes
  · cases (step_effect taken).2 with
    | close here =>
      rcases held with busy | notified
      · rw [here] at busy
        cases busy
      · exact .inr notified
    | closePanic => exact held
  · rcases held with busy | ⟨others,wrong,-⟩
    · cases (step_effect taken).2 with
      | @stopClose k others writeCh =>
        refine .inl ?_
        show ((s.setConnection k _).connection j).reader.busy = true
        rw [State.setConnection_connection]
        split
        next same =>
          subst same
          exact busy
        next => exact busy
      | stopPanic => exact .inl busy
    · rw [here] at wrong
      cases wrong

theorem step_panics (sound : Sound s) (taken : step capacity s label = some t) :
    t.panic = none ∨ t.panic = some .sendOnClosed ∧ ∃ k, Holds s k ∧ Closed s k := by
  obtain ⟨calm,effect⟩ := step_effect taken
  cases effect with
  | @sendPanic k message here closed => exact .inr ⟨rfl,k,.inl (by rw [here]; rfl),closed⟩
  | @notifyPanic k rest here closed => exact .inr ⟨rfl,k,.inr ⟨_,here,List.mem_cons_self⟩,closed⟩
  | @closePanic k panic here twice | @stopPanic k rest panic here twice =>
    exact absurd twice (sound.flags k).close_ne_error
  | _ => exact .inl calm

theorem send_closed {k : Nat} {message : Message} (calm : s.panic = none)
    (here : (s.connection k).reader = .sending message) (closed : Closed s k) :
    ∃ last, Reaches (step capacity) s last ∧ last.panic = some .sendOnClosed := by
  have taken : step capacity s (.send k) = some { s with panic := some .sendOnClosed } := by
    simp only [step,calm,if_true,here,stepReader,Buffer.send_closed _ _ closed]
  exact ⟨_,reaches_of_step taken,rfl⟩

theorem routing_closed (sound : Sound s) (calm : s.panic = none) (here : (s.connection k).reader = .routing)
    (closed : Closed s k) : ∃ last, Reaches (step capacity) s last ∧ last.panic = some .sendOnClosed := by
  have taken : step capacity s (.route k true) = some (s.setReader k (.sending .response)) := by
    simp [step,calm,here,stepReader]
  have still := (step_closed s _ _ k sound taken).mpr (.inl closed)
  have sending : ((s.setReader k (.sending .response)).connection k).reader = .sending .response := by
    rw [State.setReader,State.setConnection_connection,if_pos rfl]
  have quiet : (s.setReader k (.sending .response)).panic = none := calm
  obtain ⟨last,reached,panicked⟩ := send_closed quiet sending still
  exact ⟨last,.cons taken reached,panicked⟩

theorem busy_closed (sound : Sound s) (calm : s.panic = none) (busy : (s.connection k).reader.busy = true)
    (closed : Closed s k) : ∃ last, Reaches (step capacity) s last ∧ last.panic = some .sendOnClosed := by
  cases here : (s.connection k).reader with
  | reading =>
    have taken : step capacity s (.message k true) = some (s.setReader k .routing) := by
      simp [step,calm,here,stepReader]
    have still := (step_closed s _ _ k sound taken).mpr (.inl closed)
    have routing : ((s.setReader k .routing).connection k).reader = .routing := by
      rw [State.setReader,State.setConnection_connection,if_pos rfl]
    obtain ⟨last,reached,panicked⟩ := routing_closed (step_sound s _ _ sound taken) calm routing still
    exact ⟨last,.cons taken reached,panicked⟩
  | routing => exact routing_closed sound calm here closed
  | sending message => exact send_closed calm here closed
  | _ =>
    rw [here] at busy
    cases busy

theorem notify_closed (rest : List Nat) (s : State) (calm : s.panic = none)
    (here : s.stop = .notifying rest) (inside : k ∈ rest) (closed : Closed s k) :
    ∃ last, Reaches (step capacity) s last ∧ last.panic = some .sendOnClosed := by
  induction rest generalizing s with
  | nil => cases inside
  | cons j rest ih =>
    by_cases same : k = j
    · subst same
      have taken : step capacity s .notifySend = some { s with panic := some .sendOnClosed } := by
        simp only [step,calm,if_true,here,stepStop,Buffer.send_closed _ _ closed]
      exact ⟨_,reaches_of_step taken,rfl⟩
    · have taken : step capacity s .notifySkip = some { s with stop := .notifying rest } := by
        simp only [step,calm,if_true,here,stepStop]
      obtain ⟨last,reached,panicked⟩ := ih { s with stop := .notifying rest } calm rfl
        ((List.mem_cons.mp inside).resolve_left same) closed
      exact ⟨last,.cons taken reached,panicked⟩

variable (capacity) in
theorem sharing : Sharing (step capacity) State.panic Closed Holds Closes Finds Sound where
  kept := step_sound
  once _ sound := sound.once
  closing := step_closed
  holding _ _ _ _ _ := step_holds
  finding _ _ _ _ := step_finds
  staying _ _ _ _ := step_closes
  apart s label j k closes found := by
    obtain rfl | ⟨rfl,-⟩ := closes <;> obtain ⟨same,-⟩ | ⟨order,same,-⟩ := found <;> cases same
  panics _ _ _ := step_panics
  ends s k sound calm held closed := by
    rcases held with busy | ⟨rest,here,inside⟩
    · exact busy_closed sound calm busy closed
    · exact notify_closed rest s calm here inside closed

theorem init_quiet : Quiet State.panic Closed Holds Sound init where
  sound := ⟨fun _ => rfl,nofun⟩
  calm := rfl
  isOpen _ _ := nofun

end

end McpBridge.WebSocketFrontend

namespace McpBridge.FrontendChannels
open Runs SharedChannels

/-- No channel is ever closed twice. If no step closes a channel that somebody holds or gets hold of a closed one,
    nothing is sent on a closed channel; after the first step that does, such a send can be reached. -/
theorem frontend_channels_used_open (site : SseFrontend.Site) (capacity : Nat) {posts : List SseFrontend.Label}
    {sse : SseFrontend.State} {messages : List WebSocketFrontend.Label} {socket : WebSocketFrontend.State}
    (posted : run (SseFrontend.step site) SseFrontend.init posts = some sse)
    (sent : run (WebSocketFrontend.step capacity) WebSocketFrontend.init messages = some socket)
    (carefulPosts : Meets (SseFrontend.step site) SseFrontend.CarefulStep SseFrontend.init posts)
    (carefulMessages : Meets (WebSocketFrontend.step capacity) WebSocketFrontend.CarefulStep WebSocketFrontend.init
      messages) :
    ((∀ labels, Always (SseFrontend.step site) (·.panic ≠ some .closeOfClosed) SseFrontend.init labels) ∧
      Always (SseFrontend.step site) (·.panic = none) SseFrontend.init posts ∧
      ∀ label next, SseFrontend.step site sse label = some next →
        ¬ SseFrontend.CarefulStep sse label →
          ∃ last, Reaches (SseFrontend.step site) next last ∧ last.panic = some .sendOnClosed) ∧
    (∀ labels, Always (WebSocketFrontend.step capacity) (·.panic ≠ some .closeOfClosed) WebSocketFrontend.init labels) ∧
      Always (WebSocketFrontend.step capacity) (·.panic = none) WebSocketFrontend.init messages ∧
      ∀ label next, WebSocketFrontend.step capacity socket label = some next →
        ¬ WebSocketFrontend.CarefulStep socket label →
          ∃ last, Reaches (WebSocketFrontend.step capacity) next last ∧ last.panic = some .sendOnClosed := by
  have streams := SseFrontend.sharing site
  have sockets := WebSocketFrontend.sharing capacity
  exact ⟨⟨streams.closed_once SseFrontend.init_quiet.sound,streams.always_calm SseFrontend.init_quiet carefulPosts,
      fun _ _ => streams.careless_panics SseFrontend.init_quiet carefulPosts posted⟩,
    sockets.closed_once WebSocketFrontend.init_quiet.sound,
    sockets.always_calm WebSocketFrontend.init_quiet carefulMessages,
    fun _ _ => sockets.careless_panics WebSocketFrontend.init_quiet carefulMessages sent⟩

def alone : SseFrontend.Site := ⟨fun _ => "alice",fun _ => 0,256⟩

/-- A POST is answered before the frontend stops. -/
def answeredPost : List SseFrontend.Label :=
  [.connect 0,.find 0 0,.route 0 true,.send 0,.receive 0,.write 0 true,.signal,.quit 0,.close 0]

/-- A message is answered before the frontend stops. -/
def answeredMessage : List WebSocketFrontend.Label :=
  [.register 0,.check 0,.message 0 true,.route 0 true,.send 0,.signal,.check 0,.remove 0,.close 0]

theorem answeredPost_careful :
    Meets (SseFrontend.step alone) SseFrontend.CarefulStep SseFrontend.init answeredPost := by
  refine (meets_cons rfl).mpr ⟨careful_of_none (by rintro k (⟨⟨⟩⟩ | ⟨⟨⟩,_⟩)) (by rintro k (⟨_,⟨⟩⟩ | ⟨_,⟨⟩,_⟩)),?_⟩
  refine (meets_cons rfl).mpr ⟨⟨by rintro k (⟨⟨⟩⟩ | ⟨⟨⟩,_⟩),?_⟩,?_⟩
  · rintro k (⟨_,same⟩ | ⟨_,⟨⟩,_⟩) closed
    cases same
    cases closed
  iterate 6
    refine (meets_cons rfl).mpr ⟨careful_of_none (by rintro k (⟨⟨⟩⟩ | ⟨⟨⟩,_⟩)) (by rintro k (⟨_,⟨⟩⟩ | ⟨_,⟨⟩,_⟩)),?_⟩
  refine (meets_cons rfl).mpr ⟨⟨?_,by rintro k (⟨_,⟨⟩⟩ | ⟨_,⟨⟩,_⟩)⟩,trivial⟩
  rintro k (same | ⟨⟨⟩,_⟩) (⟨_ | p,⟨⟨⟩⟩ | ⟨⟨⟩⟩⟩ | ⟨_,⟨⟩,_⟩)

theorem answeredMessage_careful :
    Meets (WebSocketFrontend.step 256) WebSocketFrontend.CarefulStep WebSocketFrontend.init answeredMessage := by
  refine (meets_cons rfl).mpr ⟨careful_of_none (by rintro k (⟨⟨⟩⟩ | ⟨⟨⟩,_⟩)) (by rintro k (⟨⟨⟩,_⟩ | ⟨_,⟨⟩,_⟩)),?_⟩
  refine (meets_cons rfl).mpr ⟨⟨by rintro k (⟨⟨⟩⟩ | ⟨⟨⟩,_⟩),?_⟩,?_⟩
  · rintro k (⟨same,_⟩ | ⟨_,⟨⟩,_⟩) closed
    cases same
    cases closed
  iterate 4
    refine (meets_cons rfl).mpr ⟨careful_of_none (by rintro k (⟨⟨⟩⟩ | ⟨⟨⟩,_⟩)) (by rintro k (⟨⟨⟩,_⟩ | ⟨_,⟨⟩,_⟩)),?_⟩
  refine (meets_cons rfl).mpr ⟨careful_of_none (by rintro k (⟨⟨⟩⟩ | ⟨⟨⟩,_⟩)) (by rintro k (⟨_,_,⟨⟩⟩ | ⟨_,⟨⟩,_⟩)),?_⟩
  refine (meets_cons rfl).mpr ⟨careful_of_none (by rintro k (⟨⟨⟩⟩ | ⟨⟨⟩,_⟩)) (by rintro k (⟨⟨⟩,_⟩ | ⟨_,⟨⟩,_⟩)),?_⟩
  refine (meets_cons rfl).mpr ⟨⟨?_,by rintro k (⟨⟨⟩,_⟩ | ⟨_,⟨⟩,_⟩)⟩,trivial⟩
  rintro k (same | ⟨⟨⟩,_⟩) (busy | ⟨_,⟨⟩,_⟩)
  cases same
  cases busy

theorem careful_frontends_calm : ∃ sse socket, run (SseFrontend.step alone) SseFrontend.init answeredPost = some sse ∧
    run (WebSocketFrontend.step 256) WebSocketFrontend.init answeredMessage = some socket ∧
    Always (SseFrontend.step alone) (·.panic = none) SseFrontend.init answeredPost ∧
    Always (WebSocketFrontend.step 256) (·.panic = none) WebSocketFrontend.init answeredMessage := by
  have calm := frontend_channels_used_open alone 256 rfl rfl answeredPost_careful answeredMessage_careful
  exact ⟨_,_,rfl,rfl,calm.1.2.1,calm.2.2.1⟩

/-- `Stop` closes the channels of a stream whose POST and of a connection whose read loop is about to send its response. -/
theorem stop_makes_senders_panic : (∃ t, run (SseFrontend.step ⟨fun _ => "alice",fun _ => 0,256⟩) SseFrontend.init
        [.connect 0,.find 0 0,.route 0 true,.signal,.snapshot [0],.stopClose,.send 0] = some t ∧
      t.panic = some .sendOnClosed) ∧ ∃ t, run (WebSocketFrontend.step 256) WebSocketFrontend.init
        [.register 0,.check 0,.message 0 true,.route 0 true,.signal,.notify [0],.notifySend,.notifyEnd,.snapshot [0],
          .stopClose,.send 0] = some t ∧ t.panic = some .sendOnClosed :=
  ⟨⟨_,rfl,rfl⟩,_,rfl,rfl⟩

end McpBridge.FrontendChannels
