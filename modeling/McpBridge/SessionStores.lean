import McpBridge.Grants
import McpBridge.Runs
import McpBridge.Sessions

/-!
The two session managers side by side. `MemoryManager` keeps the sessions in a map and drops expired ones when asked for
them or in its cleanup; `RedisManager` gives each key the remaining lifetime of its session.
-/
namespace McpBridge.Sessions

/-- The errors of the lookups and updates, with the context that they carry. -/
inductive SessionError where
  | notFound (id : String)
  | expired (id : String) (expiredAt : Int)
  deriving DecidableEq, Repr

namespace MemoryManager

def removeSession (m : MemoryManager) (id : String) : MemoryManager := Function.update m id none

def getSession (m : MemoryManager) (id : String) (now : Int) : Except SessionError Session × MemoryManager :=
  match m id with
  | none => (.error (.notFound id),m)
  | some session =>
    if now > session.expiresAt then (.error (.expired session.id session.expiresAt),m.removeSession id)
    else (.ok session,m)

def updateSession (m : MemoryManager) (session : Session) (now : Int) : Except SessionError Unit × MemoryManager :=
  let session := { session with updatedAt := now }
  if now > session.expiresAt then (.error (.expired session.id session.expiresAt),m)
  else
    match m session.id with
    | none => (.error (.notFound session.id),m)
    | some _ => (.ok (),Function.update m session.id (some session))

def performCleanup (m : MemoryManager) (now : Int) : MemoryManager :=
  fun id => (m id).filter fun session => !decide (now > session.expiresAt)

end MemoryManager

end McpBridge.Sessions

namespace McpBridge.SessionStores
open Runs Grants Outcomes Function
open Auth (Claims)
open Sessions

/-- A `RedisManager`'s sessions by their keys. What `json.Marshal` writes, `json.Unmarshal` reads. -/
abbrev Redis := Store String Session

def key (id : String) : String := "session:" ++ id

namespace Redis

def createSession (r : Redis) (ttl : Int) (id : String) (claims : Claims) (now : Int) : Outcome (Session × Redis) := do
  let session ← newSession id claims now
  let remaining := session.expiresAt - now
  let remaining := if remaining > ttl then ttl else remaining
  pure (session,r.set (key session.id) session remaining now)

def removeSession (r : Redis) (id : String) : Redis := r.delete (key id)

def getSession (r : Redis) (id : String) (now : Int) : Except SessionError Session × Redis :=
  match r.get (key id) now with
  | none => (.error (.notFound id),r)
  | some session =>
    if now > session.expiresAt then (.error (.expired session.id session.expiresAt),removeSession r id)
    else (.ok session,r)

def updateSession (r : Redis) (ttl : Int) (session : Session) (now : Int) : Except SessionError Unit × Redis :=
  let session := { session with updatedAt := now }
  let remaining := session.expiresAt - now
  if remaining ≤ 0 then (.error (.expired session.id session.expiresAt),r)
  else (.ok (),r.set (key session.id) session (if remaining > ttl then ttl else remaining) now)

end Redis

structure State where
  now : Int
  memory : MemoryManager := fun _ => none
  redis : Redis := fun _ => none
  returned : List Session := []
  record : Record String := {}

def init (now : Int) : State := { now := now }

/-- An operation of both managers, the passing of time, or the cleanup of the one in memory. -/
inductive Label where
  | create (id : String) (claims : Claims)
  | get (id : String)
  | update (session : Session)
  | remove (id : String)
  | advance (later : Int)
  | cleanup

def answers (answer : Except SessionError Session) : List Session :=
  match answer with
  | .ok session => [session]
  | .error _ => []

/-- One step. A new session has a new identifier, and its claims expire within the time to live. -/
def step (ttl : Int) (s : State) : Label → Option State
  | .create id claims =>
    match s.memory.createSession id claims s.now,Redis.createSession s.redis ttl id claims s.now with
    | .value (session,memory),.value (_,redis) =>
      if s.record.unknown id ∧ s.now ≤ session.expiresAt ∧ session.expiresAt - s.now ≤ ttl then
        some { s with
          memory := memory, redis := redis, returned := session :: s.returned,
          record := s.record.issue id session.expiresAt }
      else none
    | _,_ => none
  | .get id =>
    let (memoryAnswer,memory) := s.memory.getSession id s.now
    let (redisAnswer,redis) := Redis.getSession s.redis id s.now
    some { s with
      memory := memory, redis := redis, returned := answers memoryAnswer ++ answers redisAnswer ++ s.returned }
  | .update session =>
    if session ∈ s.returned then
      some { s with
        memory := (s.memory.updateSession session s.now).2, redis := (Redis.updateSession s.redis ttl session s.now).2,
        returned := { session with updatedAt := s.now } :: s.returned }
    else none
  | .remove id =>
    some { s with
      memory := s.memory.removeSession id, redis := Redis.removeSession s.redis id, record := s.record.revoke id }
  | .advance later => if s.now ≤ later then some { s with now := later } else none
  | .cleanup => some { s with memory := s.memory.performCleanup s.now }

/-- `GetSession` of the manager in memory succeeds. -/
def MemoryHas (s : State) (id : String) : Prop := ∃ session, (s.memory.getSession id s.now).1 = .ok session

/-- `GetSession` of the Redis manager succeeds. -/
def RedisHas (s : State) (id : String) : Prop := ∃ session, (Redis.getSession s.redis id s.now).1 = .ok session

/-- Both managers answer every `GetSession` alike, and no removed session is found. -/
structure Agree (s : State) : Prop where
  alike : ∀ id, MemoryHas s id ↔ RedisHas s id
  revoked : ∀ id, s.record.revoked id = true → ¬ MemoryHas s id ∧ ¬ RedisHas s id

def Careful (s : State) : Label → Prop
  | .update session => s.record.revoked session.id = true → session.expiresAt ≤ s.now
  | _ => True

/-! ### Redis as a map of sessions -/

theorem key_injective {id other : String} (same : key id = key other) : id = other := by
  have lists := congrArg String.toList same
  simp only [key,String.toList_append] at lists
  exact String.toList_injective (List.append_cancel_left lists)

def view (r : Redis) (now : Int) (id : String) : Option Session := r.get (key id) now

section
variable {m : MemoryManager} {r : Redis} {ttl now : Int} {id : String} {session : Session} {later : Int}

theorem view_update {next : Redis} {held : Option Session} (self : next.get (key id) now = held)
    (others : ∀ {k}, k ≠ key id → next.get k now = r.get k now) : view next now = update (view r now) id held := by
  funext other
  by_cases same : other = id
  · subst other
    rw [update_self]
    exact self
  · rw [update_of_ne same]
    exact others fun keys => same (key_injective keys)

theorem view_set (remaining : Int) :
    view (r.set (key id) session remaining now) now = update (view r now) id (some session) :=
  view_update Store.get_set_self Store.get_set_of_ne

theorem view_removeSession : view (Redis.removeSession r id) now = update (view r now) id none :=
  view_update Store.get_delete_self Store.get_delete_of_ne

/-- Every deadline is the expiry of its session. -/
def Timely (r : Redis) : Prop :=
  ∀ place entry deadline, r place = some entry → entry.deadline = some deadline → deadline = entry.value.expiresAt

theorem Timely.set (timely : Timely r) (place : String) (session : Session) (now : Int) :
    Timely (r.set place session (session.expiresAt - now) now) := by
  intro other entry deadline found at_
  by_cases same : other = place
  · subst other
    simp only [Store.set,update_self,Option.some.injEq] at found
    subst entry
    simp only [Option.ite_none_right_eq_some,Option.some.injEq] at at_
    show deadline = session.expiresAt
    omega
  · simp only [Store.set,update_of_ne same] at found
    exact timely other entry deadline found at_

theorem Timely.delete (timely : Timely r) (place : String) : Timely (r.delete place) := by
  intro other entry deadline found at_
  by_cases same : other = place
  · subst other
    simp only [Store.delete,update_self] at found
    cases found
  · simp only [Store.delete,update_of_ne same] at found
    exact timely other entry deadline found at_

/-- Redis forgets a session when it has expired, and not before. -/
theorem Timely.view_later (timely : Timely r) (passes : now ≤ later) (id : String) (session : Session) :
    (view r later id = some session → view r now id = some session) ∧
      (view r now id = some session → later ≤ session.expiresAt → view r later id = some session) := by
  unfold view Store.get
  cases found : r (key id) with
  | none => exact ⟨nofun,nofun⟩
  | some entry =>
    cases at_ : entry.deadline with
    | none =>
      simp only [Entry.alive,at_,Option.all_none,Option.filter_some,if_true]
      exact ⟨fun there => there,fun there _ => there⟩
    | some deadline =>
      obtain rfl := timely _ entry deadline found at_
      simp only [Entry.alive,at_,Option.all_some,Option.filter_some,decide_eq_true_eq]
      constructor
      · intro there
        split at there
        · next alive =>
          rw [if_pos (Int.le_trans passes alive)]
          exact there
        · cases there
      · intro there fresh
        split at there
        · simp only [Option.map_some,Option.some.injEq] at there
          subst session
          rw [if_pos fresh]
          rfl
        · cases there

/-! ### Lookups and updates -/

theorem redis_getSession_eq : (Redis.getSession r id now).1 = (MemoryManager.getSession (view r now) id now).1 ∧
      view (Redis.getSession r id now).2 now = (MemoryManager.getSession (view r now) id now).2 := by
  unfold Redis.getSession MemoryManager.getSession
  cases found : r.get (key id) now with
  | none =>
    rw [view,found]
    exact ⟨rfl,rfl⟩
  | some session =>
    rw [view,found]
    by_cases late : now > session.expiresAt
    · simp only [late,if_true,true_and]
      exact view_removeSession
    · simp [late]

theorem Timely.getSession (timely : Timely r) : Timely (Redis.getSession r id now).2 := by
  unfold Redis.getSession
  split
  · exact timely
  · split
    · exact timely.delete _
    · exact timely

theorem getSession_ok_iff : (m.getSession id now).1 = .ok session ↔ m id = some session ∧ now ≤ session.expiresAt := by
  unfold MemoryManager.getSession
  split
  · next absent => simp [absent]
  · next found there =>
    rw [there,Option.some.injEq]
    split
    · next late =>
      constructor
      · nofun
      · rintro ⟨rfl,fresh⟩
        omega
    · next fresh =>
      simp only [Except.ok.injEq]
      constructor
      · rintro rfl
        exact ⟨rfl,by omega⟩
      · exact And.left

theorem mem_answers_iff {answer : Except SessionError Session} : session ∈ answers answer ↔ answer = .ok session := by
  cases answer with
  | ok found => simp [answers,eq_comm]
  | error cause => simp [answers]

structure Holds (record : Record String) (now : Int) (m : MemoryManager) : Prop where
  follows : Follows record now Session.expiresAt m
  names : ∀ id session, m id = some session → session.id = id

namespace Holds
variable {record : Record String}

section
variable (holds : Holds record now m)
include holds

theorem getSession_iff (id : String) : (∃ session, (m.getSession id now).1 = .ok session) ↔ record.Valid id now := by
  rw [← holds.follows.holds_iff id]
  exact exists_congr fun session => getSession_ok_iff

theorem getSession (id : String) : Holds record now (m.getSession id now).2 := by
  unfold MemoryManager.getSession
  split
  · exact holds
  · next session found =>
    split
    · next late =>
      refine ⟨holds.follows.discard found late,fun other session' there => ?_⟩
      by_cases same : other = id
      · subst other
        simp only [MemoryManager.removeSession,update_self] at there
        cases there
      · simp only [MemoryManager.removeSession,update_of_ne same] at there
        exact holds.names other session' there
    · exact holds

theorem issued_of_getSession (found : (m.getSession id now).1 = .ok session) :
    record.issued session.id = some session.expiresAt := by
  obtain ⟨there,_⟩ := getSession_ok_iff.mp found
  rw [holds.names id session there]
  exact (holds.follows.sound id session there).1

theorem names_update (session : Session) (other : String) (found : Session)
    (there : update m session.id (some session) other = some found) : found.id = other := by
  by_cases same : other = session.id
  · subst other
    rw [update_self] at there
    cases there
    rfl
  · rw [update_of_ne same] at there
    exact holds.names other found there

theorem issue (session : Session) (new : record.unknown session.id = true) :
    Holds (record.issue session.id session.expiresAt) now (update m session.id (some session)) :=
  ⟨holds.follows.issue new session,holds.names_update session⟩

theorem replace (session : Session) (issued : record.issued session.id = some session.expiresAt)
    (active : record.revoked session.id = false) : Holds record now (update m session.id (some session)) :=
  ⟨holds.follows.replace issued active,holds.names_update session⟩

theorem revoke (id : String) : Holds (record.revoke id) now (update m id none) := by
  refine ⟨holds.follows.revoke id,fun other found there => ?_⟩
  by_cases same : other = id
  · subst other
    rw [update_self] at there
    cases there
  · rw [update_of_ne same] at there
    exact holds.names other found there

theorem forget {next : MemoryManager} (passes : now ≤ later)
    (fewer : ∀ id session, next id = some session → m id = some session)
    (kept : ∀ id session, m id = some session → later ≤ session.expiresAt → next id = some session) :
    Holds record later next :=
  ⟨holds.follows.forget passes fewer kept,fun id session there => holds.names id session (fewer id session there)⟩

theorem updateSession (issued : record.issued session.id = some session.expiresAt) :
    Holds record now (m.updateSession session now).2 := by
  unfold MemoryManager.updateSession
  simp only
  split
  · exact holds
  · split
    · exact holds
    · next found there =>
      exact holds.replace { session with updatedAt := now } issued (holds.follows.sound _ found there).2

theorem performCleanup : Holds record now (m.performCleanup now) := by
  refine holds.forget (Int.le_refl now) (fun id session there => ?_) (fun id session there fresh => ?_)
  · exact Option.eq_some_of_filter_eq_some there
  · simp only [MemoryManager.performCleanup,there,Option.filter_some]
    rw [if_pos (by simpa using fresh)]

end

end Holds

structure Inv (ttl : Int) (s : State) : Prop where
  memory : Holds s.record s.now s.memory
  redis : Holds s.record s.now (view s.redis s.now)
  timely : Timely s.redis
  returned : ∀ session, session ∈ s.returned → s.record.issued session.id = some session.expiresAt
  bounded : ∀ id expiry, s.record.issued id = some expiry → expiry - s.now ≤ ttl

variable {s next : State} {label : Label} {claims : Claims}

theorem Inv.memoryHas_iff (inv : Inv ttl s) (id : String) : MemoryHas s id ↔ s.record.Valid id s.now :=
  inv.memory.getSession_iff id

theorem redisHas_iff : RedisHas s id ↔ ∃ session, (MemoryManager.getSession (view s.redis s.now) id s.now).1 = .ok session := by
  rw [RedisHas,redis_getSession_eq.1]

theorem Inv.redisHas_iff (inv : Inv ttl s) (id : String) : RedisHas s id ↔ s.record.Valid id s.now := by
  rw [SessionStores.redisHas_iff]
  exact inv.redis.getSession_iff id

theorem Inv.agree (inv : Inv ttl s) : Agree s := by
  refine ⟨fun id => (inv.memoryHas_iff id).trans (inv.redisHas_iff id).symm,fun id revoked => ?_⟩
  rw [inv.memoryHas_iff,inv.redisHas_iff,and_self]
  rintro ⟨_,_,_,active⟩
  rw [revoked] at active
  cases active

theorem newSession_id (made : newSession id claims now = .value session) : session.id = id := by
  unfold newSession at made
  cases expires : claims.expiresAt with
  | none =>
    rw [expires] at made
    cases made
  | some expiry =>
    rw [expires] at made
    cases made
    rfl

/-- Both managers make the same session of the claims, and store it. -/
theorem create_cases (taken : step ttl s (.create id claims) = some next) :
    ∃ session, newSession id claims s.now = .value session ∧ s.record.unknown id = true ∧
      s.now ≤ session.expiresAt ∧ session.expiresAt - s.now ≤ ttl ∧
      next = { s with
        memory := update s.memory session.id (some session)
        redis := Store.set s.redis (key session.id) session (session.expiresAt - s.now) s.now
        returned := session :: s.returned
        record := s.record.issue id session.expiresAt } := by
  simp only [step,MemoryManager.createSession,Redis.createSession] at taken
  cases made : newSession id claims s.now with
  | value session =>
    rw [made] at taken
    change (if s.record.unknown id ∧ s.now ≤ session.expiresAt ∧ session.expiresAt - s.now ≤ ttl then some _ else none) =
      some next at taken
    simp only [Option.ite_none_right_eq_some,Option.some.injEq] at taken
    obtain ⟨⟨new,fresh,bound⟩,rfl⟩ := taken
    refine ⟨session,rfl,new,fresh,bound,?_⟩
    rw [if_neg (Int.not_lt.mpr bound)]
  | error | panic =>
    rw [made] at taken
    cases taken

theorem create_inv (inv : Inv ttl s) (taken : step ttl s (.create id claims) = some next) :
    Inv ttl next := by
  obtain ⟨session,made,new,fresh,bound,rfl⟩ := create_cases taken
  obtain rfl := newSession_id made
  refine ⟨inv.memory.issue session new,?_,inv.timely.set _ session s.now,fun other listed => ?_,
    fun other expiry issued => ?_⟩
  · rw [view_set]
    exact inv.redis.issue session new
  · rcases List.mem_cons.mp listed with rfl | before
    · exact update_self _ _ _
    · have issued := inv.returned other before
      have different : other.id ≠ session.id := by
        intro same
        simp only [Record.unknown,Bool.and_eq_true,Option.isNone_iff_eq_none] at new
        rw [same,new.1] at issued
        cases issued
      exact (update_of_ne different _ _).trans issued
  · by_cases same : other = session.id
    · subst other
      simp only [Record.issue,update_self,Option.some.injEq] at issued
      show expiry - s.now ≤ ttl
      omega
    · simp only [Record.issue,update_of_ne same] at issued
      exact inv.bounded other expiry issued

theorem get_inv (inv : Inv ttl s) (taken : step ttl s (.get id) = some next) : Inv ttl next := by
  cases taken
  refine ⟨inv.memory.getSession id,?_,inv.timely.getSession,fun session listed => ?_,inv.bounded⟩
  · show Holds _ _ (view (Redis.getSession s.redis id s.now).2 s.now)
    rw [redis_getSession_eq.2]
    exact inv.redis.getSession id
  · simp only [List.mem_append,mem_answers_iff] at listed
    rcases listed with (found | found) | before
    · exact inv.memory.issued_of_getSession found
    · have there : (Redis.getSession s.redis id s.now).1 = .ok session := found
      rw [redis_getSession_eq.1] at there
      exact inv.redis.issued_of_getSession there
    · exact inv.returned session before

theorem redis_update_eq (bound : session.expiresAt - now ≤ ttl) :
    (session.expiresAt ≤ now ∧ (Redis.updateSession r ttl session now).2 = r) ∨
      (now < session.expiresAt ∧ (Redis.updateSession r ttl session now).2 =
        r.set (key session.id) { session with updatedAt := now } (session.expiresAt - now) now) := by
  unfold Redis.updateSession
  simp only
  split
  · next late => exact .inl ⟨by omega,rfl⟩
  · next fresh =>
    rw [if_neg (Int.not_lt.mpr bound)]
    exact .inr ⟨by omega,rfl⟩

section
variable (inv : Inv ttl s)
include inv

theorem update_inv (careful : Careful s (.update session)) (taken : step ttl s (.update session) = some next) : Inv ttl next := by
  obtain ⟨listed,⟨⟩⟩ := Option.ite_none_right_eq_some.mp taken
  have issued := inv.returned session listed
  have redis : Holds s.record s.now (view (Redis.updateSession s.redis ttl session s.now).2 s.now) ∧
      Timely (Redis.updateSession s.redis ttl session s.now).2 := by
    rcases redis_update_eq (r := s.redis) (inv.bounded _ _ issued) with ⟨_,same⟩ | ⟨fresh,written⟩
    · rw [same]
      exact ⟨inv.redis,inv.timely⟩
    · have active : s.record.revoked session.id = false := by
        by_contra revoked
        have late := careful (by simpa using revoked)
        omega
      rw [written,view_set]
      exact ⟨inv.redis.replace { session with updatedAt := s.now } issued active,
        inv.timely.set (key session.id) { session with updatedAt := s.now } s.now⟩
  refine ⟨inv.memory.updateSession issued,redis.1,redis.2,fun other held => ?_,inv.bounded⟩
  rcases List.mem_cons.mp held with rfl | before
  · exact issued
  · exact inv.returned other before

theorem careless_update (taken : step ttl s (.update session) = some next)
    (revoked : s.record.revoked session.id = true) (fresh : s.now < session.expiresAt) : ¬ Agree next := by
  obtain ⟨listed,⟨⟩⟩ := Option.ite_none_right_eq_some.mp taken
  intro agree
  refine (agree.revoked session.id revoked).2 (redisHas_iff.mpr ⟨{ session with updatedAt := s.now },?_⟩)
  refine getSession_ok_iff.mpr ⟨?_,Int.le_of_lt fresh⟩
  rcases redis_update_eq (r := s.redis) (inv.bounded _ _ (inv.returned session listed)) with ⟨late,_⟩ | ⟨_,written⟩
  · omega
  · rw [written,view_set,update_self]

theorem remove_inv (taken : step ttl s (.remove id) = some next) : Inv ttl next := by
  cases taken
  refine ⟨inv.memory.revoke id,?_,inv.timely.delete _,inv.returned,inv.bounded⟩
  rw [view_removeSession]
  exact inv.redis.revoke id

theorem advance_inv (taken : step ttl s (.advance later) = some next) : Inv ttl next := by
  obtain ⟨passes,⟨⟩⟩ := Option.ite_none_right_eq_some.mp taken
  refine ⟨inv.memory.forget passes (fun _ _ there => there) (fun _ _ there _ => there),?_,inv.timely,inv.returned,
    fun id expiry issued => ?_⟩
  · exact inv.redis.forget passes (fun id session => (inv.timely.view_later passes id session).1)
      (fun id session => (inv.timely.view_later passes id session).2)
  · have bound := inv.bounded id expiry issued
    show expiry - later ≤ ttl
    omega

theorem step_inv (careful : Careful s label) (taken : step ttl s label = some next) : Inv ttl next := by
  cases label with
  | create id claims => exact create_inv inv taken
  | get id => exact get_inv inv taken
  | update session => exact update_inv inv careful taken
  | remove id => exact remove_inv inv taken
  | advance later => exact advance_inv inv taken
  | cleanup =>
    cases taken
    exact ⟨inv.memory.performCleanup,inv.redis,inv.timely,inv.returned,inv.bounded⟩

theorem step_agree_iff (taken : step ttl s label = some next) : Agree next ↔ Careful s label := by
  refine ⟨fun agree => ?_,fun careful => (step_inv inv careful taken).agree⟩
  cases label with
  | update session =>
    intro revoked
    by_contra fresh
    exact careless_update inv taken revoked (by omega) agree
  | create id claims => trivial
  | get id => trivial
  | remove id => trivial
  | advance later => trivial
  | cleanup => trivial

end

theorem empty_holds : Holds {} now fun _ => none := by
  refine ⟨⟨nofun,?_⟩,nofun⟩
  rintro id ⟨_,issued,_⟩
  cases issued

theorem init_inv : Inv ttl (init now) := ⟨empty_holds,empty_holds,nofun,nofun,nofun⟩

end

/-- The managers answer every lookup alike, and find no removed session, precisely when none is updated before it has
    expired. -/
theorem stores_agree_iff (ttl now : Int) {labels : List Label} {s : State}
    (executed : run (step ttl) (init now) labels = some s) :
    Always (step ttl) Agree (init now) labels ↔ Meets (step ttl) Careful (init now) labels := by
  have any : Meets (step ttl) (fun _ _ => True) (init now) labels := meets_of_mem fun _ _ _ => trivial
  have start : Inv ttl (init now) := init_inv
  exact always_iff_meets_of_meets (fun _ _ _ inv _ _ careful taken => step_inv inv careful taken)
    (fun _ _ _ inv _ _ taken => step_agree_iff inv taken) start start.agree any executed

def aliceSession : Session := ⟨"alice-session","alice",0,0,100,["mcp:read"],{}⟩

def aliceClaims : Claims := { subject := "alice", expiresAt := some 100, scopes := ["mcp:read"] }

def ordinary : List Label :=
  [.create "alice-session" aliceClaims,.get "alice-session",.advance 10,.update aliceSession,.remove "alice-session",
    .get "alice-session"]

theorem ordinary_use_agrees :
    ∃ s, run (step 86400) (init 0) ordinary = some s ∧ Always (step 86400) Agree (init 0) ordinary := by
  have executed : run (step 86400) (init 0) ordinary = some _ := rfl
  refine ⟨_,executed,(stores_agree_iff 86400 0 executed).mpr ?_⟩
  iterate 3
    refine ⟨trivial,fun _ taken => ?_⟩
    cases taken
  refine ⟨nofun,fun _ taken => ?_⟩
  cases taken
  iterate 2
    refine ⟨trivial,fun _ taken => ?_⟩
    cases taken
  trivial

def stale : List Label :=
  [.create "alice-session" aliceClaims,.remove "alice-session",.update aliceSession]

/-- A stale update brings a removed session back in Redis, and not in memory. -/
theorem stale_update_revives : ∃ s, run (step 86400) (init 0) stale = some s ∧ ¬ MemoryHas s "alice-session" ∧
    RedisHas s "alice-session" := by
  refine ⟨_,rfl,?_,⟨aliceSession,rfl⟩⟩
  rintro ⟨session,found⟩
  cases found

end McpBridge.SessionStores
