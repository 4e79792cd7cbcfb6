import McpBridge.SseFrontend

/-!
Which events the streams of the SSE frontend carry.
-/
namespace McpBridge.SseFrontend
open Runs State List
open Channels (Panic)
open Buffers

def Loop.alive : Loop → Bool
  | .waiting | .writing _ => true
  | _ => false

def Loop.inHand : Loop → List Event
  | .writing event => [event]
  | _ => []

namespace Stream

def track (stream : Stream) : List Event :=
  stream.written ++ (stream.loop.inHand ++ if stream.loop.alive then stream.eventCh.buffer.queue else [])

/-- All events that ever got into the stream's channel, but for one that could not be written. -/
def whole (stream : Stream) : List Event := stream.written ++ (stream.loop.inHand ++ stream.eventCh.buffer.queue)

theorem mem_whole_of_mem_track {stream : Stream} {event : Event} (carried : event ∈ stream.track) :
    event ∈ stream.whole := by
  unfold track at carried
  unfold whole
  simp only [mem_append] at carried ⊢
  rcases carried with written | held | queued
  · exact .inl written
  · exact .inr (.inl held)
  · split at queued
    next => exact .inr (.inr queued)
    next => cases queued

end Stream

/-- `processRequest` returned a response, and the handler is done with it. -/
def Post.answered : Post → Bool
  | .accepted | .dropped | .panicked => true
  | _ => false

section
variable (site : Site)

/-- Every stream carries the responses to its client's requests, each once, and nothing else. -/
structure Exact (s : State) : Prop where
  own : ∀ k, ∀ event ∈ (s.stream k).track, ∃ p, event = .response p ∧ site.issuer p = k
  all : ∀ p, (s.post p).answered = true → .response p ∈ (s.stream (site.issuer p)).track
  once : ∀ k, (s.stream k).track.Nodup

def Stream.Running (stream : Stream) : Prop := stream.loop.alive = true ∧ stream.eventCh.buffer.closed = false

/-- A POST has the stream. -/
def Held (s : State) (k : Nat) : Prop := ∃ p, s.post p = .found k ∨ s.post p = .sending k

/-- When a POST comes its client's stream runs and its user has no other; streams are closed when no POST has them and
    nothing is left to write, and keep-alives come when there are none. No send times out, no write fails. -/
def Fine (s : State) : Label → Prop
  | .find p _ => ∀ k ∈ s.streams, site.user k = site.user (site.issuer p) → k = site.issuer p ∧ (s.stream k).Running
  | .timeout _ => False
  | .write _ ok => ok = true
  | .quit k => (s.stream k).eventCh.buffer.queue = [] ∧ ¬ Held s k
  | .stopClose => ∀ k rest, s.stop = .closing (k :: rest) → ¬ Held s k
  | .keepAlive order => order = []
  | _ => True

/-- A POST has the running stream of its client, and only one that is done has its response in a channel. -/
structure Orderly (s : State) : Prop where
  held : ∀ p k, s.post p = .found k ∨ s.post p = .sending k → k = site.issuer p ∧ (s.stream k).Running
  quiet : ∀ rest, s.keepAlive = .round rest → rest = []
  fresh : ∀ k, (s.stream k).loop = .absent → (s.stream k).eventCh.buffer.queue = []
  done : ∀ k p, .response p ∈ (s.stream k).whole → s.post p = .accepted

end

section
variable {site : Site} {s t : State} {k : Nat} {p : Nat} {post : Post}

theorem Exact.congr (exact : Exact site s) (tracks : ∀ k, (t.stream k).track = (s.stream k).track)
    (posts : ∀ p, (t.post p).answered = (s.post p).answered) : Exact site t := by
  obtain ⟨own,all,once⟩ := exact
  refine ⟨?_,?_,?_⟩ <;> simp only [tracks,posts] <;> assumption

theorem track_setStream {stream : Stream} (same : stream.track = (s.stream k).track) (j : Nat) :
    ((s.setStream k stream).stream j).track = (s.stream j).track := by
  rw [setStream_stream]
  split
  next here => rw [same,here]
  next => rfl

theorem answered_setPost (same : post.answered = (s.post p).answered) (q : Nat) :
    ((s.setPost p post).post q).answered = (s.post q).answered := by
  rw [setPost_post]
  split
  next here => rw [same,here]
  next => rfl

/-- A stream changes, still runs if a POST has it, and gets responses of accepted POSTs only. -/
theorem Orderly.setStream (orderly : Orderly site s) {stream : Stream}
    (running : Held s k → (s.stream k).Running → stream.Running)
    (fresh : stream.loop = .absent → stream.eventCh.buffer.queue = [])
    (sub : ∀ p, .response p ∈ stream.whole → .response p ∈ (s.stream k).whole ∨ s.post p = .accepted) :
    Orderly site (s.setStream k stream) := by
  refine ⟨fun p j held => ?_,orderly.quiet,fun j here => ?_,fun j p inside => ?_⟩
  · obtain ⟨own,runs⟩ := orderly.held p j held
    refine ⟨own,?_⟩
    rw [setStream_stream]
    split
    next same =>
      subst same
      exact running ⟨p,held⟩ runs
    next => exact runs
  · rw [setStream_stream] at here ⊢
    split at here
    next same =>
      rw [if_pos same]
      exact fresh here
    next other =>
      rw [if_neg other]
      exact orderly.fresh j here
  · rw [setStream_stream] at inside
    split at inside
    next same => exact (sub p inside).elim (orderly.done k p) id
    next => exact orderly.done j p inside

theorem Orderly.setPost (orderly : Orderly site s) (here : s.post p ≠ .accepted)
    (held : ∀ k, post = .found k ∨ post = .sending k → k = site.issuer p ∧ (s.stream k).Running) :
    Orderly site (s.setPost p post) := by
  refine ⟨fun q k holds => ?_,orderly.quiet,orderly.fresh,fun k q inside => ?_⟩
  · rw [setPost_post] at holds
    split at holds
    next same => exact same ▸ held k holds
    next => exact orderly.held q k holds
  · have accepted := orderly.done k q inside
    rw [setPost_post,if_neg]
    · exact accepted
    · rintro rfl
      exact here accepted

open Loop

theorem step_orderly (s : State) (label : Label) (t : State) (orderly : Orderly site s) (fine : Fine site s label)
    (taken : step site s label = some t) : Orderly site t := by
  cases (step_effect taken).2 with
  | @connect k here =>
    have moved : Orderly site (s.setLoop k .waiting) := by
      refine orderly.setStream (fun _ runs => ⟨rfl,runs.2⟩) nofun fun p inside => .inl ?_
      simpa only [Stream.whole,here,inHand] using inside
    exact ⟨moved.held,moved.quiet,moved.fresh,moved.done⟩
  | @receive k event rest here queued =>
    rw [push,setEventCh_setLoop]
    refine orderly.setStream (fun _ runs => ⟨rfl,runs.2⟩) nofun fun p inside => .inl ?_
    simpa only [Stream.whole,here,queued,inHand,nil_append,singleton_append] using inside
  | @ended k here empty closed =>
    refine orderly.setStream (fun _ runs => absurd (runs.2.symm.trans closed) nofun) nofun fun p inside => .inl ?_
    simpa only [Stream.whole,here,inHand] using inside
  | @quit k here =>
    refine orderly.setStream (fun held => absurd held fine.2) nofun fun p inside => .inl ?_
    simpa only [Stream.whole,here,inHand] using inside
  | @wrote k event here =>
    refine orderly.setStream (fun _ runs => ⟨rfl,runs.2⟩) nofun fun p inside => .inl ?_
    simpa only [Stream.whole,here,inHand,append_assoc,nil_append] using inside
  | unwritten => cases fine
  | @close k eventCh here closed =>
    rw [setEventCh_setLoop]
    refine orderly.setStream (fun _ runs => ?_) nofun fun p inside => .inl ?_
    · rw [Stream.Running,here] at runs
      cases runs.1
    · simpa only [Stream.whole,here,inHand,Guarded.close_queue closed] using inside
  | @unlist k here =>
    have moved : Orderly site (s.setLoop k .gone) := by
      refine orderly.setStream (fun _ runs => ?_) nofun fun p inside => .inl ?_
      · rw [Stream.Running,here] at runs
        cases runs.1
      · simpa only [Stream.whole,here,inHand] using inside
    exact ⟨moved.held,moved.quiet,moved.fresh,moved.done⟩
  | @find p k here listed same =>
    refine orderly.setPost (by rw [here]; nofun) fun j holds => ?_
    rcases holds with ⟨⟨⟩⟩ | ⟨⟨⟩⟩
    exact fine k listed same
  | notFound here => exact orderly.setPost (by rw [here]; nofun) fun j holds => by rcases holds with same | same <;> cases same
  | timeout => cases fine
  | @route p k ok here =>
    refine orderly.setPost (by rw [here]; nofun) fun j holds => ?_
    cases ok with
    | true =>
      rcases holds with ⟨⟨⟩⟩ | ⟨⟨⟩⟩
      exact orderly.held p k (.inl here)
    | false => simp at holds
  | sendPanic here closed => exact absurd ((orderly.held _ _ (.inr here)).2.2.symm.trans closed) nofun
  | @send p k here usable room =>
    have moved : Orderly site (s.setPost p .accepted) :=
      orderly.setPost (by rw [here]; nofun) fun j holds => by rcases holds with same | same <;> cases same
    have runs := (orderly.held p k (.inr here)).2
    refine moved.setStream (fun _ runs => runs) (fun absent => ?_) fun q inside => ?_
    · rw [Stream.Running,show (s.stream k).loop = .absent from absent] at runs
      cases runs.1
    · simp only [Stream.whole,mem_append,mem_singleton] at inside ⊢
      rcases inside with written | held | queued | ⟨⟨⟩⟩
      · exact .inl (.inl written)
      · exact .inl (.inr (.inl held))
      · exact .inl (.inr (.inr queued))
      · rw [setPost_post,if_pos rfl]
        exact .inr rfl
  | keepAlive =>
    refine ⟨orderly.held,?_,orderly.fresh,orderly.done⟩
    rintro rest ⟨⟩
    exact fine
  | keepSend here | keepSkip here | keepPanic here => cases orderly.quiet _ here
  | keepEnd | keepStop => exact ⟨orderly.held,nofun,orderly.fresh,orderly.done⟩
  | @stopClose k rest eventCh here closed =>
    have moved : Orderly site (s.setEventCh k eventCh) := by
      refine orderly.setStream (fun held => absurd held (fine k rest here)) (fun absent => ?_) fun p inside => .inl ?_
      · exact (Guarded.close_queue closed).trans (orderly.fresh k absent)
      · simpa only [Stream.whole,Guarded.close_queue closed] using inside
    exact ⟨moved.held,moved.quiet,moved.fresh,moved.done⟩
  | _ => exact ⟨orderly.held,orderly.quiet,orderly.fresh,orderly.done⟩

/-- A response goes to its client's stream, behind all others. -/
theorem Exact.send (orderly : Orderly site s) (exact : Exact site s) {p k : Nat} (here : s.post p = .sending k) :
    Exact site ((s.push k { (s.stream k).eventCh.buffer with
        queue := (s.stream k).eventCh.buffer.queue ++ [.response p] }).setPost p .accepted) := by
  obtain ⟨mine,alive,-⟩ := orderly.held p k (.inr here)
  have new : ∀ j, .response p ∉ (s.stream j).track := by
    intro j carried
    have accepted := orderly.done j p (Stream.mem_whole_of_mem_track carried)
    rw [here] at accepted
    cases accepted
  have track : ∀ j, ((s.push k { (s.stream k).eventCh.buffer with
      queue := (s.stream k).eventCh.buffer.queue ++ [.response p] }).stream j).track =
        if j = k then (s.stream j).track ++ [.response p] else (s.stream j).track := by
    intro j
    rw [push,setEventCh,setStream_stream]
    split
    next same =>
      subst same
      simp [Stream.track,alive]
    next => rfl
  refine ⟨fun j event carried => ?_,fun q answered => ?_,fun j => ?_⟩
  · change event ∈ Stream.track ((s.push k _).stream j) at carried
    rw [track] at carried
    split at carried
    next same =>
      rcases mem_append.mp carried with before | now
      · exact exact.own j event before
      · exact ⟨p,mem_singleton.mp now,mine.symm.trans same.symm⟩
    next => exact exact.own j event carried
  · change .response q ∈ Stream.track ((s.push k _).stream (site.issuer q))
    rw [track]
    by_cases same : q = p
    · subst same
      rw [if_pos mine.symm]
      exact mem_append_right _ mem_cons_self
    · rw [setPost_post,if_neg same] at answered
      have carried := exact.all q answered
      split
      next => exact mem_append_left _ carried
      next => exact carried
  · change (Stream.track ((s.push k _).stream j)).Nodup
    rw [track]
    split
    next =>
      refine nodup_append.mpr ⟨exact.once j,pairwise_singleton _ _,fun event before last now => ?_⟩
      rintro rfl
      rw [mem_singleton.mp now] at before
      exact new j before
    next => exact exact.once j

theorem step_exact (s : State) (label : Label) (t : State) (orderly : Orderly site s) (exact : Exact site s)
    (fine : Fine site s label) (taken : step site s label = some t) : Exact site t := by
  cases (step_effect taken).2 with
  | @connect k here =>
    refine exact.congr (track_setStream ?_) fun _ => rfl
    simp [Stream.track,here,inHand,alive,orderly.fresh k here]
  | @receive k event rest here queued =>
    rw [push,setEventCh_setLoop]
    refine exact.congr (track_setStream ?_) fun _ => rfl
    simp [Stream.track,here,inHand,alive,queued]
  | @ended k here empty =>
    refine exact.congr (track_setStream ?_) fun _ => rfl
    simp [Stream.track,here,inHand,alive,empty]
  | @wrote k event here =>
    refine exact.congr (track_setStream ?_) fun _ => rfl
    simp [Stream.track,here,inHand,alive]
  | @quit k here =>
    refine exact.congr (track_setStream ?_) fun _ => rfl
    simp [Stream.track,here,inHand,alive,fine.1]
  | @close k eventCh here closed =>
    rw [setEventCh_setLoop]
    refine exact.congr (track_setStream ?_) fun _ => rfl
    simp [Stream.track,here,inHand,alive]
  | @unlist k here =>
    refine exact.congr (track_setStream ?_) fun _ => rfl
    simp [Stream.track,here,inHand,alive]
  | find here | notFound here =>
    refine exact.congr (fun _ => rfl) (answered_setPost ?_)
    rw [here]
    rfl
  | @route p k ok here =>
    refine exact.congr (fun _ => rfl) (answered_setPost ?_)
    rw [here]
    cases ok <;> rfl
  | send here => exact exact.send orderly here
  | sendPanic here closed => exact absurd ((orderly.held _ _ (.inr here)).2.2.symm.trans closed) nofun
  | unwritten | timeout => cases fine
  | keepSend here => cases orderly.quiet _ here
  | @stopClose k rest eventCh here closed =>
    refine exact.congr (track_setStream ?_) fun _ => rfl
    simp [Stream.track,Guarded.close_queue closed]
  | _ => exact exact.congr (fun _ => rfl) fun _ => rfl

end

/-- In every run of fine steps the streams carry the responses to their own client's requests and nothing else. -/
theorem delivery_exact (site : Site) (labels : List Label) (fine : Meets (step site) (Fine site) init labels) :
    Always (step site) (Exact site) init labels := by
  have start : Orderly site init ∧ Exact site init :=
    ⟨⟨fun p k holds => (by rcases holds with same | same <;> cases same),nofun,fun _ _ => rfl,nofun⟩,
      nofun,nofun,fun _ => nodup_nil⟩
  have kept : ∀ s label t, Orderly site s ∧ Exact site s → Fine site s label → step site s label = some t →
      Orderly site t ∧ Exact site t := fun s label t kept fine taken =>
    ⟨step_orderly s label t kept.1 fine taken,step_exact s label t kept.1 kept.2 fine taken⟩
  exact (always_of_keeps kept start fine).imp fun _ => And.right

def sharedUser : Site := ⟨fun _ => "alice",fun _ => 1,256⟩

def twoUsers : Site := ⟨fun k => if k = 0 then "alice" else "bob",fun p => 1 - p,256⟩

/-- Each user has one stream; their responses come in the other order, and then the frontend stops. -/
def ownStreams : List Label :=
  [.keepAlive [],.keepEnd,.connect 0,.connect 1,.find 0 1,.find 1 0,.route 1 true,.route 0 true,.send 1,.send 0,.receive 1,
    .write 1 true,.receive 0,.write 0 true,.signal,.quit 0,.close 0,.unlist 0,.snapshot [1],.stopClose,.receive 1,.close 1,
    .unlist 1,.stopEnd]

theorem own_streams_exact : ∃ t, run (step twoUsers) init ownStreams = some t ∧ (t.stream 0).written = [.response 1] ∧
      (t.stream 1).written = [.response 0] ∧ Always (step twoUsers) (Exact twoUsers) init ownStreams := by
  refine ⟨_,rfl,rfl,rfl,delivery_exact twoUsers ownStreams ?_⟩
  -- Every POST has its response when a stream is closed.
  have done : ∀ post : Nat → Post, post 0 = .accepted → post 1 = .accepted → (∀ p, post (p + 2) = .start) → ∀ k,
      ¬ ∃ p, post p = .found k ∨ post p = .sending k := by
    rintro post first second rest k ⟨_ | _ | p,holds⟩ <;> simp [first,second,rest] at holds
  iterate 4
    refine ⟨by first | exact trivial | exact rfl,fun _ moved => ?_⟩
    cases moved
  iterate 2
    refine ⟨?_,fun _ moved => ?_⟩
    · intro k listed same
      rcases mem_cons.mp listed with rfl | listed <;> [skip; rcases mem_cons.mp listed with rfl | ⟨⟨⟩⟩]
      all_goals first | exact ⟨rfl,rfl,rfl⟩ | exact absurd same (by decide)
    cases moved
  iterate 9
    refine ⟨by first | exact trivial | exact rfl,fun _ moved => ?_⟩
    cases moved
  refine ⟨⟨rfl,done _ rfl rfl (fun _ => rfl) 0⟩,fun _ moved => ?_⟩
  cases moved
  iterate 3
    refine ⟨trivial,fun _ moved => ?_⟩
    cases moved
  refine ⟨fun k _ _ => done _ rfl rfl (fun _ => rfl) k,fun _ moved => ?_⟩
  cases moved
  iterate 4
    refine ⟨trivial,fun _ moved => ?_⟩
    cases moved
  trivial

/-- The second client's response is written to the first one's stream, and a keep-alive as an event. -/
theorem shared_user_misdelivered : (∃ t, run (step sharedUser) init
        [.connect 0,.connect 1,.find 0 0,.route 0 true,.send 0,.receive 0,.write 0 true] = some t ∧
      (t.stream 0).written = [.response 0] ∧ sharedUser.issuer 0 = 1 ∧ ¬ Exact sharedUser t) ∧
    ∃ t, run (step sharedUser) init [.connect 0,.keepAlive [0],.keepSend,.receive 0,.write 0 true] = some t ∧
      (t.stream 0).written = [.keepAlive] ∧ ¬ Exact sharedUser t := by
  refine ⟨⟨_,rfl,rfl,rfl,fun exact => ?_⟩,_,rfl,rfl,fun exact => ?_⟩
  · obtain ⟨p,_,wrong⟩ := exact.own 0 (.response 0) mem_cons_self
    cases wrong
  · obtain ⟨p,wrong,_⟩ := exact.own 0 .keepAlive mem_cons_self
    cases wrong

end McpBridge.SseFrontend
