import McpBridge.SseStreams

/-!
The registry `sseStreams` of the gateway's router. A call stores the stream that it opened whatever the map holds and
became of the stream, and a reader that exits deletes its URL's entry, whosever it is.
-/
namespace McpBridge.SseRegistry
open Runs SseStreams State Function

/-- The reader's goroutine was started and has not returned from its deferred sections. -/
def Alive (reader : Reader) : Prop := reader = .running ∨ reader = .closed

instance (reader : Reader) : Decidable (Alive reader) := inferInstanceAs (Decidable (_ ∨ _))

section
variable (calls : Nat → Call)

/-- After a step the streams in the registry are read, a reader that exits removed only its own, and none was
    overwritten. -/
structure Kept (s : State) (label : Label) (t : State) : Prop where
  listed : ∀ url st, t.sseStreams url = some st → Alive (t.stream st).reader
  removed : ∀ st, label = .unlist st →
    ∀ url other, s.sseStreams url = some other → other ≠ st → t.sseStreams url = some other
  overwritten : ∀ url old new, s.sseStreams url = some old → t.sseStreams url = some new → new ≠ old →
    ¬ Alive (s.stream old).reader

/-- The step keeps the registry in order. -/
def Keeps (s : State) (label : Label) : Prop := ∀ t, step calls s label = some t → Kept s label t

/-- A call is establishing a stream from the lookup that found none on, which is open before it is stored. -/
inductive Phase where
  | idle
  | asking
  | opened
  deriving DecidableEq

def phaseOf : Pc → Phase
  | .initializing | .establishing => .asking
  | .initialized _ | .established => .opened
  | _ => .idle

def phase (s : State) (c : Nat) : Phase := phaseOf (s.caller c).pc

/-- A call looks a URL up while no other one is establishing a stream for it, and no reader exits before its stream is
    stored. -/
def Apart (s : State) : Label → Prop
  | .lookup c => ∀ d, (calls d).url = (calls c).url → phase s d = .idle
  | .readerEnd st => phase s st = .idle
  | _ => True

/-- A URL has at most one stream that is read or being established. -/
structure Single (s : State) : Prop where
  listed : ∀ url st, s.sseStreams url = some st → (calls st).url = url ∧ Alive (s.stream st).reader
  alive : ∀ st, Alive (s.stream st).reader → s.sseStreams (calls st).url = some st ∨ phase s st = .opened
  alone : ∀ c d, (calls c).url = (calls d).url → phase s c ≠ .idle → phase s d ≠ .idle → c = d
  vacant : ∀ c, phase s c ≠ .idle → s.sseStreams (calls c).url = none
  running : ∀ c, phase s c = .opened → (s.stream c).reader = .running

end

variable {calls : Nat → Call} {s t : State} {label : Label}

theorem phase_goto {c : Nat} {pc : Pc} : phase (s.goto c pc) = update (phase s) c (phaseOf pc) := by
  funext d
  by_cases same : d = c
  · subst same
    simp [phase]
  · simp [phase,same]

theorem delivery_frame {st : Nat} {event : Event} (delivery : Delivery s st event t) :
    t.sseStreams = s.sseStreams ∧ (∀ other, (t.stream other).reader = (s.stream other).reader) ∧
      ∀ c, phase t c = phase s c := by
  cases delivery with
  | unhashable | unknown | refused => exact ⟨rfl,fun _ => rfl,fun _ => rfl⟩
  | delivered =>
    refine ⟨by simp,fun other => ?_,fun c => ?_⟩
    · rw [(erasePending_stream ..).1,setChan_stream]
    · rw [phase,erasePending_caller,setChan_pc,phase]

theorem closeAll_phase (entries : List (Sigma fun _ : Values.Key => Nat)) (c : Nat) : phase (closeAll s entries) c = phase s c := by
  induction entries generalizing s with
  | nil => rfl
  | cons entry rest ih =>
    unfold closeAll
    split
    · rfl
    · rw [ih,phase,setChan_pc,phase]

/-- A step that leaves the registry as it is and begins no establishment. -/
theorem Single.moves (single : Single calls s) (map : t.sseStreams = s.sseStreams) (stays : ∀ st, label ≠ .unlist st)
    (phases : ∀ c, phase t c ≠ .idle → phase s c ≠ .idle)
    (readers : ∀ st, Alive (s.stream st).reader → Alive (t.stream st).reader)
    (alive : ∀ st, Alive (t.stream st).reader → s.sseStreams (calls st).url = some st ∨ phase t st = .opened)
    (running : ∀ c, phase t c = .opened → (t.stream c).reader = .running) : Single calls t ∧ Kept s label t := by
  have listed : ∀ url st, s.sseStreams url = some st → (calls st).url = url ∧ Alive (t.stream st).reader := fun url st found =>
    (single.listed url st found).imp_right (readers st)
  refine ⟨⟨?_,?_,fun c d same first second => single.alone c d same (phases c first) (phases d second),fun c busy => ?_,running⟩,
    fun url st found => ?_,fun st gone => absurd gone (stays st),fun url old new found found' apart => ?_⟩
  all_goals rw [map] at *
  · exact listed
  · exact alive
  · exact single.vacant c (phases c busy)
  · exact (listed url st found).2
  · exact absurd (Option.some.inj (found'.symm.trans found)) apart

theorem Single.lookup {c : Nat} (single : Single calls s) (apart : Apart calls s (.lookup c))
    (map : t.sseStreams = s.sseStreams) (readers : t.stream = s.stream) (missed : s.sseStreams (calls c).url = none)
    (phases : phase t = update (phase s) c .asking) : Single calls t ∧ Kept s (.lookup c) t := by
  have same : ∀ d, d ≠ c → phase t d = phase s d := fun d away => by rw [phases,update_of_ne away]
  have here : phase t c = .asking := by rw [phases,update_self]
  have only : ∀ d, (calls d).url = (calls c).url → phase t d ≠ .idle → d = c := by
    intro d url busy
    by_contra away
    exact busy ((same d away).trans (apart d url))
  refine ⟨⟨?_,fun st live => ?_,fun d e url first second => ?_,fun d busy => ?_,fun d opened => ?_⟩,?_,nofun,
    fun url old new found found' apart => ?_⟩
  all_goals simp only [map,readers] at *
  · exact single.listed
  · refine (single.alive st live).imp_right fun opened => ?_
    rw [same st,opened]
    rintro rfl
    rw [apart st rfl] at opened
    cases opened
  · by_cases mine : d = c
    · subst mine
      exact (only e url.symm second).symm
    · by_cases mine' : e = c
      · subst mine'
        exact only d url first
      · exact single.alone d e url (same d mine ▸ first) (same e mine' ▸ second)
  · by_cases mine : d = c
    · exact mine ▸ missed
    · exact single.vacant d (same d mine ▸ busy)
  · have mine : d ≠ c := by
      rintro rfl
      rw [here] at opened
      cases opened
    exact single.running d (same d mine ▸ opened)
  · exact fun url st found => (single.listed url st found).2
  · exact absurd (Option.some.inj (found'.symm.trans found)) apart

theorem Single.store {c : Nat} (single : Single calls s)
    (map : t.sseStreams = (s.list (calls c).url (some c)).sseStreams) (opened : phase s c = .opened)
    (readers : t.stream = s.stream) (phases : phase t = update (phase s) c .idle) :
    Single calls t ∧ Kept s (.store c) t := by
  have same : ∀ d, phase t d ≠ .idle → d ≠ c ∧ phase t d = phase s d := by
    intro d busy
    have away : d ≠ c := by
      rintro rfl
      exact busy (by rw [phases,update_self])
    exact ⟨away,by rw [phases,update_of_ne away]⟩
  have busy : phase s c ≠ .idle := by rw [opened]; nofun
  have live : Alive (s.stream c).reader := .inl (single.running c opened)
  have listed : ∀ url st, t.sseStreams url = some st → (calls st).url = url ∧ Alive (t.stream st).reader := by
    intro url st found
    rw [map,list_sseStreams] at found
    rw [readers]
    split at found
    next place =>
      cases found
      exact ⟨place.symm,live⟩
    next => exact single.listed url st found
  refine ⟨⟨listed,fun st alive => ?_,fun d e url first second => ?_,fun d establishing => ?_,fun d opened' => ?_⟩,
    fun url st found => (listed url st found).2,nofun,fun url old new found found' apart => ?_⟩
  · by_cases mine : st = c
    · exact mine ▸ .inl (by rw [map]; simp)
    · rw [readers] at alive
      refine (single.alive st alive).imp (fun found => ?_) fun opened => ?_
      · rw [map,list_sseStreams,if_neg fun url => ?_,found]
        rw [url,single.vacant c busy] at found
        cases found
      · rw [phases,update_of_ne mine,opened]
  · exact single.alone d e url ((same d first).2 ▸ first) ((same e second).2 ▸ second)
  · obtain ⟨away,before⟩ := same d establishing
    rw [before] at establishing
    rw [map,list_sseStreams,if_neg fun url => away (single.alone d c url establishing busy)]
    exact single.vacant d establishing
  · rw [readers]
    exact single.running d ((same d (by rw [opened']; nofun)).2 ▸ opened')
  · rw [map,list_sseStreams] at found'
    split at found'
    next place =>
      rw [place,single.vacant c busy] at found
      cases found
    next => exact absurd (Option.some.inj (found'.symm.trans found)) apart

theorem Single.unlist {st : Nat} (single : Single calls s)
    (map : t.sseStreams = (s.list (calls st).url none).sseStreams) (closed : (s.stream st).reader = .closed)
    (readers : ∀ other, (t.stream other).reader = if other = st then .gone else (s.stream other).reader)
    (phases : ∀ c, phase t c = phase s c) : Single calls t ∧ Kept s (.unlist st) t := by
  have stored : s.sseStreams (calls st).url = some st := by
    refine (single.alive st (.inr closed)).resolve_right fun opened => ?_
    rw [single.running st opened] at closed
    cases closed
  have place : ∀ url other, s.sseStreams url = some other → other ≠ st → url ≠ (calls st).url := by
    rintro url other found apart rfl
    exact apart (Option.some.inj (found.symm.trans stored))
  have remains : ∀ url other, t.sseStreams url = some other →
      s.sseStreams url = some other ∧ (t.stream other).reader = (s.stream other).reader := by
    intro url other found
    rw [map,list_sseStreams] at found
    split at found
    next => cases found
    next elsewhere =>
      rw [readers,if_neg]
      · exact ⟨found,rfl⟩
      · rintro rfl
        exact elsewhere (single.listed url other found).1.symm
  have listed : ∀ url other, t.sseStreams url = some other → (calls other).url = url ∧ Alive (t.stream other).reader := by
    intro url other found
    obtain ⟨before,reader⟩ := remains url other found
    exact reader ▸ single.listed url other before
  refine ⟨⟨listed,fun other alive => ?_,fun c d url => ?_,fun c => ?_,fun c opened => ?_⟩,
    fun url other found => (listed url other found).2,fun _ same url other found apart => ?_,
    fun url old new found found' apart => ?_⟩
  · have away : other ≠ st := by
      rintro rfl
      rw [readers,if_pos rfl] at alive
      rcases alive with ⟨⟨⟩⟩ | ⟨⟨⟩⟩
    rw [readers,if_neg away] at alive
    rw [phases]
    refine (single.alive other alive).imp_left fun found => ?_
    rw [map,list_sseStreams,if_neg (place _ other found away),found]
  · rw [phases,phases]
    exact single.alone c d url
  · rw [phases,map,list_sseStreams]
    intro establishing
    split
    · rfl
    · exact single.vacant c establishing
  · rw [phases] at opened
    have running := single.running c opened
    rw [readers,if_neg,running]
    rintro rfl
    rw [running] at closed
    cases closed
  · cases same
    rw [map,list_sseStreams,if_neg (place url other found apart),found]
  · exact absurd (Option.some.inj ((remains url new found').1.symm.trans found)) apart

theorem Single.frame (single : Single calls s) (map : t.sseStreams = s.sseStreams)
    (readers : ∀ st, (t.stream st).reader = (s.stream st).reader) (phases : ∀ c, phase t c = phase s c)
    (stays : ∀ st, label ≠ .unlist st) : Single calls t ∧ Kept s label t := by
  refine single.moves map stays (fun c => phases c ▸ id) (fun st => readers st ▸ id) (fun st => ?_) (fun c => ?_)
  · rw [readers,phases]
    exact single.alive st
  · rw [readers,phases]
    exact single.running c

theorem Single.open_ {c : Nat} (single : Single calls s) (map : t.sseStreams = s.sseStreams) (asked : phase s c = .asking)
    (readers : ∀ st, (t.stream st).reader = if st = c then .running else (s.stream st).reader)
    (phases : phase t = update (phase s) c .opened) (stays : ∀ st, label ≠ .unlist st) :
    Single calls t ∧ Kept s label t := by
  refine single.moves map stays (fun d busy => ?_) (fun st alive => ?_) (fun st alive => ?_) (fun d opened => ?_)
  all_goals
    rw [phases] at *
    simp only [readers,update_apply] at *
  · split at busy
    next same => rw [same,asked]; nofun
    next => exact busy
  · split
    · exact .inl rfl
    · exact alive
  · split at alive
    next same => exact .inr (if_pos same)
    next other =>
      rw [if_neg other]
      exact single.alive st alive
  · split
    · rfl
    next other =>
      rw [if_neg other] at opened
      exact single.running d opened

theorem Single.fail {c : Nat} (single : Single calls s) (map : t.sseStreams = s.sseStreams) (asked : phase s c = .asking)
    (readers : t.stream = s.stream) (phases : phase t = update (phase s) c .idle)
    (stays : ∀ st, label ≠ .unlist st) : Single calls t ∧ Kept s label t := by
  have other : ∀ d, phase s d = .opened → phase t d = .opened := by
    intro d opened
    rw [phases,update_of_ne,opened]
    rintro rfl
    rw [asked] at opened
    cases opened
  have before : ∀ d, phase t d ≠ .idle → phase t d = phase s d := by
    intro d busy
    rw [phases,update_apply] at busy ⊢
    split at busy
    next => exact absurd rfl busy
    next away => exact if_neg away
  refine single.moves map stays (fun d busy => before d busy ▸ busy) (fun st => readers ▸ id) (fun st alive => ?_)
    (fun d opened => ?_)
  · exact (single.alive st (readers ▸ alive)).imp_right (other st)
  · rw [readers]
    exact single.running d (before d (by rw [opened]; nofun) ▸ opened)

theorem Single.readerEnd {st : Nat} (single : Single calls s) (apart : phase s st = .idle)
    (map : t.sseStreams = s.sseStreams) (here : (s.stream st).reader = .running)
    (readers : ∀ other, (t.stream other).reader = if other = st then .closed else (s.stream other).reader)
    (phases : ∀ c, phase t c = phase s c) : Single calls t ∧ Kept s (.readerEnd st) t := by
  refine single.moves map nofun (fun c => phases c ▸ id) (fun other alive => ?_) (fun other alive => ?_) (fun c opened => ?_)
  all_goals
    simp only [readers,phases] at *
  · split
    · exact .inr rfl
    · exact alive
  · have idle : phase s st = .idle := apart
    split at alive
    next same =>
      subst same
      refine .inl ((single.alive other (.inl here)).resolve_right fun opened => ?_)
      rw [apart] at opened
      cases opened
    next => exact single.alive other alive
  · have idle : phase s st = .idle := apart
    rw [if_neg]
    · exact single.running c opened
    · rintro rfl
      rw [apart] at opened
      cases opened

theorem Single.step (single : Single calls s) (apart : Apart calls s label) (effect : Effect calls s label t) :
    Single calls t ∧ Kept s label t := by
  have kept : ∀ {c pc}, phaseOf pc = phase s c → ∀ d, phase (s.goto c pc) d = phase s d := by
    intro c pc same d
    rw [phase_goto,same,update_eq_self]
  cases effect with
  | lookup begun onward missed =>
    rcases onward with rfl | rfl | ⟨st,-,rfl⟩
    · obtain missed | ⟨_,⟨⟩⟩ := missed
      exact single.lookup apart rfl rfl missed phase_goto
    · obtain missed | ⟨_,⟨⟩⟩ := missed
      exact single.lookup apart rfl rfl missed phase_goto
    · exact single.frame rfl (fun _ => rfl) (kept (by simp [phase,phaseOf,begun])) nofun
  | initOk asked | getOk asked =>
    refine single.open_ rfl (by rw [phase,asked]; rfl) (fun st => ?_) phase_goto nofun
    rw [openStream_stream]
    split <;> rfl
  | initFail here | postOk here => exact single.frame rfl (fun _ => rfl) (kept (by simp [phase,phaseOf,here])) nofun
  | getFail asked => exact single.fail rfl (by rw [phase,asked]; rfl) rfl phase_goto nofun
  | storeFirst opened | store opened => exact single.store rfl (by rw [phase,opened]; rfl) rfl phase_goto
  | panic here =>
    refine single.frame rfl (fun other => ?_) (kept (by simp [phase,phaseOf,here])) nofun
    rw [setStream_stream]
    split
    next same => rw [same]
    next => rfl
  | @register c st k here =>
    refine single.frame rfl (fun other => ?_) (fun d => ?_) nofun
    · rw [setStream_stream]
      split
      next same => rw [same]
      next => rfl
    · by_cases same : d = c
      · subst same
        simp [phase,phaseOf,here]
      · simp [phase,same]
  | abandon abandons registered =>
    refine single.frame (by simp) (fun other => ?_) (fun d => ?_) ?_
    · rw [(erasePending_stream ..).1,goto_stream]
    · rw [phase,erasePending_caller]
      exact kept (by obtain here | here := registered <;> simp [phase,phaseOf,here]) d
    · rintro st rfl
      cases abandons
  | @receive c st x chan here =>
    refine single.frame rfl (fun _ => rfl) (fun d => ?_) nofun
    rw [phase_goto]
    by_cases same : d = c
    · subst same
      simp [phase,phaseOf,here]
    · rw [update_of_ne same,phase,setChan_pc,phase]
  | accept | refuse => exact single.frame rfl (fun _ => rfl) (fun _ => congrArg phaseOf (setPost_pc ..)) nofun
  | answer sentOn accepted same running unlocked delivery =>
    obtain ⟨map,readers,phases⟩ := delivery_frame delivery
    exact single.frame map readers (fun c => (phases c).trans (congrArg phaseOf (setPost_pc ..))) nofun
  | message running unlocked delivery =>
    obtain ⟨map,readers,phases⟩ := delivery_frame delivery
    exact single.frame map readers phases nofun
  | readerEnd running =>
    refine single.readerEnd apart (by simp) running (fun other => ?_) fun c => closeAll_phase ..
    rw [closeAll_stream,setStream_stream]
    split <;> rfl
  | unlist closed =>
    refine single.unlist rfl closed (fun other => ?_) fun _ => rfl
    rw [list_stream,setStream_stream]
    split <;> rfl

/-- Every step of a run keeps the registry if lookups are kept apart from establishments, and reader exits behind them. -/
theorem registry_kept (calls : Nat → Call) (labels : List Label) (apart : Meets (step calls) (Apart calls) init labels) :
    Meets (step calls) (Keeps calls) init labels := by
  have kept : ∀ s label t, Single calls s → Apart calls s label → step calls s label = some t →
      Single calls t ∧ Kept s label t := fun s label t single apart taken =>
    single.step apart (step_effect taken).2
  have start : Single calls init :=
    ⟨nofun,fun _ alive => (by rcases alive with ⟨⟨⟩⟩ | ⟨⟨⟩⟩),fun _ _ _ busy => absurd rfl busy,fun _ busy => absurd rfl busy,nofun⟩
  exact apart.of_keeps (fun s label t single apart taken => (kept s label t single apart taken).1)
    (fun s label single apart t taken => (kept s label t single apart taken).2) start

def twoCalls (n : Nat) : Call := ⟨"http://backend:8080/mcp",{ method := "tools/call", id := .number n }⟩

/-- Two calls share a stream; when its reader has exited the third opens another. -/
def apartRun : List Label :=
  [.lookup 0,.getOk 0 "a",.store 0,.lookup 1,.readerEnd 0,.unlist 0,.lookup 2,.getFail 2 "down",.lookup 3,.getOk 3 "b",.store 3]

theorem apart_run_kept : (run (step twoCalls) init apartRun).map (·.sseStreams "http://backend:8080/mcp") = some (some 3) ∧
    Meets (step twoCalls) (Keeps twoCalls) init apartRun := by
  refine ⟨rfl,registry_kept twoCalls apartRun ?_⟩
  iterate 11
    refine (meets_cons rfl).mpr ⟨by first | exact trivial | exact rfl | rintro (_ | _ | _ | _ | d) - <;> rfl,?_⟩
  trivial

/-- A stream whose reader has exited is stored; of two streams opened at once the second takes the first one's place,
    and the first one's reader removes it. -/
theorem registry_broken :
    (∃ t, run (step twoCalls) init [.lookup 0,.getOk 0 "a",.readerEnd 0,.unlist 0,.store 0] = some t ∧
      t.sseStreams "http://backend:8080/mcp" = some 0 ∧ (t.stream 0).reader = .gone) ∧
    ∃ s t u, run (step twoCalls) init [.lookup 0,.lookup 1,.getOk 0 "a",.getOk 1 "b",.store 0] = some s ∧
      s.sseStreams "http://backend:8080/mcp" = some 0 ∧ (s.stream 0).reader = .running ∧
      run (step twoCalls) s [.store 1,.readerEnd 0] = some t ∧
      t.sseStreams "http://backend:8080/mcp" = some 1 ∧ (t.stream 1).reader = .running ∧
      step twoCalls t (.unlist 0) = some u ∧ u.sseStreams "http://backend:8080/mcp" = none :=
  ⟨⟨_,rfl,rfl,rfl⟩,_,_,_,rfl,rfl,rfl,rfl,rfl,rfl,rfl,rfl⟩

end McpBridge.SseRegistry
