import McpBridge.Admissions

/-!
The sliding window of the router (`ratelimit.SlidingWindowLimiter`). It keeps the times of admitted events and drops the
old ones now and then. What is dropped has left the window of every later call, and between two clean-ups the list holds
the events of two windows at most.
-/
namespace McpBridge.SlidingWindows
open Admissions

inductive RateLimitError where
  | exceeded (maxEvents windowSize : Int)

/-- Times and durations are in nanoseconds. -/
structure SlidingWindowLimiter where
  windowSize : Int
  maxEvents : Int
  events : List Int := []
  cleanupAt : Int

def newSlidingWindowLimiter (windowSize maxEvents now : Int) : SlidingWindowLimiter where
  windowSize := windowSize
  maxEvents := maxEvents
  cleanupAt := now + windowSize

def SlidingWindowLimiter.cleanup (l : SlidingWindowLimiter) (now : Int) : SlidingWindowLimiter :=
  { l with events := l.events.filter fun t => decide (now - l.windowSize < t) }

/-- The clean-up that `Allow` makes once its time has come. -/
def SlidingWindowLimiter.cleanupDue (l : SlidingWindowLimiter) (now : Int) : SlidingWindowLimiter :=
  if l.cleanupAt < now then { l.cleanup now with cleanupAt := now + l.windowSize } else l

def SlidingWindowLimiter.allow (l : SlidingWindowLimiter) (now : Int) : Except RateLimitError Unit × SlidingWindowLimiter :=
  if l.maxEvents ≤ 0 then (.error (.exceeded l.maxEvents l.windowSize),l) else
  let l := l.cleanupDue now
  let count := l.events.countP fun t => decide (now - l.windowSize < t)
  if l.maxEvents ≤ count then (.error (.exceeded l.maxEvents l.windowSize),l)
  else (.ok (),{ l with events := l.events ++ [now] })

inductive Input where
  | allow (now : Int)
  | cleanup (now : Int)
  deriving DecidableEq

def Input.now : Input → Int
  | .allow now => now
  | .cleanup now => now

def Input.serve (l : SlidingWindowLimiter) : Input → Option (Except RateLimitError Unit) × SlidingWindowLimiter
  | .allow now => (some (l.allow now).1,(l.allow now).2)
  | .cleanup now => (none,l.cleanup now)

def admits : Option (Except RateLimitError Unit) → Bool
  | some (.ok _) => true
  | _ => false

def admitted (l : SlidingWindowLimiter) (inputs : List Input) : List Int :=
  ((answers Input.serve l inputs).filter fun answered => admits answered.2).map (·.1.now)

/-- Calls at times that do not decrease, none before the limiter was made. -/
structure History (start : Int) (inputs : List Input) : Prop where
  ordered : inputs.Pairwise (·.now ≤ ·.now)
  later : ∀ input ∈ inputs, start ≤ input.now

def Current (start : Int) (inputs : List Input) (now : Int) : Prop := start ≤ now ∧ ∀ input ∈ inputs, input.now ≤ now

open SlidingWindowLimiter
open List hiding count

section
variable {l : SlidingWindowLimiter} {start now : Int} {inputs : List Input} {input : Input} {later : Int}

theorem History.init (history : History start (inputs ++ [input])) : History start inputs where
  ordered := (pairwise_append.mp history.ordered).1
  later earlier listed := history.later earlier (mem_append_left _ listed)

theorem History.last (history : History start (inputs ++ [input])) : Current start inputs input.now := by
  refine ⟨history.later input (by simp),fun earlier listed => ?_⟩
  exact (pairwise_append.mp history.ordered).2.2 earlier listed input (mem_singleton_self _)

theorem Current.init (current : Current start (inputs ++ [input]) now) : Current start inputs now ∧ input.now ≤ now :=
  ⟨⟨current.1,fun earlier listed => current.2 earlier (mem_append_left _ listed)⟩,current.2 input (by simp)⟩

theorem admitted_concat : admitted l (inputs ++ [input]) = admitted l inputs ++
    if admits (input.serve (after Input.serve l inputs)).1 then [input.now] else [] := by
  unfold admitted
  rw [answers_concat,filter_append,map_append]
  congr 1
  cases passed : admits (input.serve (after Input.serve l inputs)).1 with
  | true | false => simp [passed]

theorem admitted_ordered (ordered : inputs.Pairwise (·.now ≤ ·.now)) : (admitted l inputs).Pairwise (· ≤ ·) := by
  unfold admitted
  rw [pairwise_map]
  exact (answers_pairwise ordered).sublist filter_sublist

theorem admitted_le (current : Current start inputs now) : ∀ t ∈ admitted l inputs, t ≤ now := by
  intro t listed
  obtain ⟨⟨input,answer⟩,passed,rfl⟩ := mem_map.mp listed
  exact current.2 input (input_of_answered (mem_filter.mp passed).1)

@[simp] theorem cleanupDue_windowSize : (l.cleanupDue now).windowSize = l.windowSize := by
  unfold SlidingWindowLimiter.cleanupDue
  split <;> rfl

@[simp] theorem cleanupDue_maxEvents : (l.cleanupDue now).maxEvents = l.maxEvents := by
  unfold SlidingWindowLimiter.cleanupDue
  split <;> rfl

theorem filter_cleanup (order : now ≤ later) :
    (l.cleanup now).events.filter (fun t => decide (later - l.windowSize < t)) =
      l.events.filter (fun t => decide (later - l.windowSize < t)) := by
  unfold cleanup
  rw [filter_filter]
  refine filter_congr fun t _ => ?_
  rw [← Bool.decide_and,decide_eq_decide]
  omega

theorem filter_cleanupDue (order : now ≤ later) :
    (l.cleanupDue now).events.filter (fun t => decide (later - l.windowSize < t)) =
      l.events.filter (fun t => decide (later - l.windowSize < t)) := by
  unfold SlidingWindowLimiter.cleanupDue
  split
  next => exact filter_cleanup order
  next => rfl

def SlidingWindowLimiter.count (l : SlidingWindowLimiter) (now : Int) : Nat :=
  l.events.countP fun t => decide (now - l.windowSize < t)

theorem count_cleanupDue : (l.cleanupDue now).count now = l.count now := by
  unfold count
  rw [cleanupDue_windowSize,countP_eq_length_filter,filter_cleanupDue (Int.le_refl now),← countP_eq_length_filter]

theorem allow_full (room : 1 ≤ l.maxEvents) (full : l.maxEvents ≤ l.count now) :
    l.allow now = (.error (.exceeded l.maxEvents l.windowSize),l.cleanupDue now) := by
  unfold allow
  rw [if_neg (by omega)]
  have counted := @count_cleanupDue l now
  unfold count at counted full
  rw [cleanupDue_windowSize] at counted
  simp only [cleanupDue_windowSize,cleanupDue_maxEvents,counted]
  exact if_pos full

theorem allow_free (room : 1 ≤ l.maxEvents) (free : l.count now < l.maxEvents) :
    l.allow now = (.ok (),{ l.cleanupDue now with events := (l.cleanupDue now).events ++ [now] }) := by
  unfold allow
  rw [if_neg (by omega)]
  have counted := @count_cleanupDue l now
  unfold count at counted free
  rw [cleanupDue_windowSize] at counted
  simp only [cleanupDue_windowSize,cleanupDue_maxEvents,counted]
  exact if_neg (by omega)

end

/-- The list holds all admitted events that a later call counts, and only those of the two windows around the last
    clean-up. -/
structure Retains (history : List Int) (current : Int → Prop) (l : SlidingWindowLimiter) : Prop where
  part : l.events.Sublist history
  kept : ∀ now, current now →
    l.events.filter (fun t => decide (now - l.windowSize < t)) = history.filter (fun t => decide (now - l.windowSize < t))
  cleaned : ∀ now, current now → l.cleanupAt - l.windowSize ≤ now
  recent : ∀ t ∈ l.events, l.cleanupAt - 2 * l.windowSize < t ∧ t ≤ l.cleanupAt

section
variable {l : SlidingWindowLimiter} {now : Int} {history : List Int} {current current' : Int → Prop}

section
variable (retains : Retains history current l) (still : ∀ later, current' later → current later) (after : ∀ later, current' later → now ≤ later)
include retains still after

theorem Retains.cleanup : Retains history current' (l.cleanup now) := by
  refine ⟨?_,?_,?_,?_⟩
  · exact filter_sublist.trans retains.part
  · intro later valid
    exact (filter_cleanup (after later valid)).trans (retains.kept later (still later valid))
  · intro later valid
    exact retains.cleaned later (still later valid)
  · intro t listed
    exact retains.recent t ((mem_filter.mp listed).1)

theorem Retains.cleanupDue : Retains history current' (l.cleanupDue now) := by
  unfold SlidingWindowLimiter.cleanupDue
  split
  next due =>
    have cleaned : Retains history current' (l.cleanup now) := retains.cleanup still after
    refine ⟨cleaned.part,cleaned.kept,?_,?_⟩
    · intro later valid
      have order := after later valid
      show now + l.windowSize - l.windowSize ≤ later
      omega
    · intro t listed
      have within := of_decide_eq_true (mem_filter.mp listed).2
      have before := (retains.recent t ((mem_filter.mp listed).1)).2
      show now + l.windowSize - 2 * l.windowSize < t ∧ t ≤ now + l.windowSize
      omega
  next =>
    refine ⟨retains.part,fun later valid => retains.kept later (still later valid),?_,retains.recent⟩
    intro later valid
    exact retains.cleaned later (still later valid)

end

theorem Retains.append (retains : Retains history current l) (positive : 0 < l.windowSize) (valid : current now)
    (soon : now ≤ l.cleanupAt) : Retains (history ++ [now]) current { l with events := l.events ++ [now] } := by
  refine ⟨?_,?_,retains.cleaned,?_⟩
  · exact retains.part.append (List.Sublist.refl _)
  · intro later valid'
    rw [filter_append,filter_append,retains.kept later valid']
  · intro t listed
    rcases mem_append.mp listed with earlier | last
    · exact retains.recent t earlier
    · rw [mem_singleton.mp last]
      have cleaned := retains.cleaned now valid
      show l.cleanupAt - 2 * l.windowSize < now ∧ now ≤ l.cleanupAt
      omega

theorem le_cleanupAt (positive : 0 < l.windowSize) : now ≤ (l.cleanupDue now).cleanupAt := by
  unfold SlidingWindowLimiter.cleanupDue
  split
  next =>
    show now ≤ now + l.windowSize
    omega
  next early => omega

end

section
variable {windowSize maxEvents start now : Int} {inputs : List Input} {input : Input}

theorem serve_config {l : SlidingWindowLimiter} : (input.serve l).2.windowSize = l.windowSize ∧
    (input.serve l).2.maxEvents = l.maxEvents := by
  cases input with
  | cleanup now => exact ⟨rfl,rfl⟩
  | allow now =>
    by_cases room : 1 ≤ l.maxEvents
    · by_cases full : l.maxEvents ≤ l.count now
      · simp [Input.serve,allow_full room full]
      · simp [Input.serve,allow_free room (Int.not_le.mp full)]
    · have none : l.allow now = (.error (.exceeded l.maxEvents l.windowSize),l) := if_pos (by omega)
      simp [Input.serve,none]

theorem after_config : (after Input.serve (newSlidingWindowLimiter windowSize maxEvents start) inputs).windowSize = windowSize ∧
    (after Input.serve (newSlidingWindowLimiter windowSize maxEvents start) inputs).maxEvents = maxEvents := by
  induction inputs using reverseRecOn with
  | nil => exact ⟨rfl,rfl⟩
  | append_singleton inputs input ih =>
    rw [after_append,after_cons,after_nil]
    exact ⟨serve_config.1.trans ih.1,serve_config.2.trans ih.2⟩

section
variable (positive : 0 < windowSize) (room : 1 ≤ maxEvents) (history : History start inputs)
include positive room history

theorem retains : Retains (admitted (newSlidingWindowLimiter windowSize maxEvents start) inputs) (Current start inputs)
      (after Input.serve (newSlidingWindowLimiter windowSize maxEvents start) inputs) := by
  refine after_keeps (fun inputs l => Retains (admitted (newSlidingWindowLimiter windowSize maxEvents start) inputs)
    (Current start inputs) l) (fun _ _ => History.init) ?_ ?_ inputs history
  · refine ⟨List.Sublist.refl _,fun _ _ => rfl,?_,by simp [newSlidingWindowLimiter]⟩
    intro now current
    have late := current.1
    show start + windowSize - windowSize ≤ now
    omega
  · intro inputs input history kept
    obtain ⟨width,limit⟩ := @after_config windowSize maxEvents start inputs
    rw [admitted_concat]
    generalize after Input.serve (newSlidingWindowLimiter windowSize maxEvents start) inputs = l at kept width limit ⊢
    have still : ∀ later, Current start (inputs ++ [input]) later → Current start inputs later := fun later current =>
      current.init.1
    have order : ∀ later, Current start (inputs ++ [input]) later → input.now ≤ later := fun later current =>
      current.init.2
    have valid : Current start (inputs ++ [input]) input.now := by
      refine ⟨history.last.1,fun earlier listed => ?_⟩
      rcases mem_append.mp listed with before | last
      · exact history.last.2 earlier before
      · exact Int.le_of_eq (congrArg Input.now (mem_singleton.mp last))
    cases input with
    | cleanup now =>
      simp [Input.serve,admits]
      exact kept.cleanup still order
    | allow now =>
      have due := kept.cleanupDue still order
      by_cases full : l.maxEvents ≤ l.count now
      · simp [Input.serve,allow_full (by omega) full,admits]
        exact due
      · simp only [Input.serve,allow_free (by omega) (Int.not_le.mp full),admits,if_true]
        exact due.append (by rw [cleanupDue_windowSize]; omega) valid (le_cleanupAt (by omega))

theorem count_eq (current : Current start inputs now) :
    (after Input.serve (newSlidingWindowLimiter windowSize maxEvents start) inputs).count now =
      (admitted (newSlidingWindowLimiter windowSize maxEvents start) inputs).countP
        fun t => decide (now - windowSize < t) := by
  have kept := (retains positive room history).kept now current
  unfold count
  rw [countP_eq_length_filter,kept,← countP_eq_length_filter,after_config.1]

theorem admitted_paced :
    Paced maxEvents windowSize (admitted (newSlidingWindowLimiter windowSize maxEvents start) inputs) := by
  induction inputs using reverseRecOn with
  | nil => exact paced_nil
  | append_singleton inputs input ih =>
    have earlier := ih history.init
    obtain ⟨width,limit⟩ := @after_config windowSize maxEvents start inputs
    rw [admitted_concat]
    cases input with
    | cleanup now => simpa [Input.serve,admits] using earlier
    | allow now =>
      have counted := count_eq positive room history.init history.last
      by_cases full : maxEvents ≤
          (after Input.serve (newSlidingWindowLimiter windowSize maxEvents start) inputs).count now
      · rw [Input.serve,allow_full (by omega) (by omega)]
        simpa [admits] using earlier
      · rw [Input.serve,allow_free (by omega) (by omega)]
        simp only [admits,if_true]
        rw [paced_concat]
        refine ⟨earlier,?_⟩
        rw [← counted]
        exact Int.not_le.mp full

/-- The list never holds more than the events of two windows. -/
theorem events_length_le :
    ((after Input.serve (newSlidingWindowLimiter windowSize maxEvents start) inputs).events.length : Int) ≤ 2 * maxEvents := by
  have paced := admitted_paced positive room history
  have sorted := @admitted_ordered (newSlidingWindowLimiter windowSize maxEvents start) inputs history.ordered
  have kept := retains positive room history
  obtain ⟨width,_⟩ := @after_config windowSize maxEvents start inputs
  generalize after Input.serve (newSlidingWindowLimiter windowSize maxEvents start) inputs = l at kept width ⊢
  subst width
  have first := (paced.windows sorted (by omega) (l.cleanupAt - 2 * l.windowSize)).2
  have second := (paced.windows sorted (by omega) (l.cleanupAt - l.windowSize)).2
  have early : l.events.countP _ ≤ _ := kept.part.countP_le (p := fun t =>
    decide (l.cleanupAt - 2 * l.windowSize < t ∧ t ≤ l.cleanupAt - 2 * l.windowSize + l.windowSize))
  have late : l.events.countP _ ≤ _ := kept.part.countP_le (p := fun t =>
    decide (l.cleanupAt - l.windowSize < t ∧ t ≤ l.cleanupAt - l.windowSize + l.windowSize))
  have split := l.events.length_eq_countP_add_countP (fun t => decide (l.cleanupAt - l.windowSize < t ∧
    t ≤ l.cleanupAt - l.windowSize + l.windowSize))
  have rest : l.events.countP (fun t => decide (¬decide (l.cleanupAt - l.windowSize < t ∧
      t ≤ l.cleanupAt - l.windowSize + l.windowSize) = true)) ≤ l.events.countP (fun t =>
      decide (l.cleanupAt - 2 * l.windowSize < t ∧ t ≤ l.cleanupAt - 2 * l.windowSize + l.windowSize)) := by
    refine countP_mono_left fun t listed outside => ?_
    have within := kept.recent t listed
    simp only [decide_eq_true_eq] at outside ⊢
    omega
  omega

end

theorem full_of_rejected {err : RateLimitError} (positive : 0 < windowSize) (room : 1 ≤ maxEvents)
    (history : History start (inputs ++ [.allow now]))
    (rejected : ((after Input.serve (newSlidingWindowLimiter windowSize maxEvents start) inputs).allow now).1 = .error err) :
    ((admitted (newSlidingWindowLimiter windowSize maxEvents start) inputs).countP
      (fun t => decide (now - windowSize < t ∧ t ≤ now)) : Int) = maxEvents := by
  have current : Current start inputs now := history.last
  have counted := count_eq positive room history.init current
  have limit := (@after_config windowSize maxEvents start inputs).2
  have full : maxEvents ≤ (after Input.serve (newSlidingWindowLimiter windowSize maxEvents start) inputs).count now := by
    by_contra free
    rw [allow_free (by omega) (by omega)] at rejected
    cases rejected
  have most := ((admitted_paced positive room history.init).windows (admitted_ordered history.init.ordered) (by omega)
    (now - windowSize)).2
  have ending : (admitted (newSlidingWindowLimiter windowSize maxEvents start) inputs).countP
      (fun t => decide (now - windowSize < t ∧ t ≤ now)) =
      (admitted (newSlidingWindowLimiter windowSize maxEvents start) inputs).countP (fun t => decide (now - windowSize < t)) := by
    refine countP_congr fun t listed => ?_
    have past := admitted_le current t listed
    simp [past]
  rw [Int.sub_add_cancel] at most
  omega

end

/-- No window has more admitted events than the limiter allows, a call is rejected only if the window before it is full,
    and the list never holds more than two windows. -/
theorem sliding_window_exact (windowSize maxEvents start : Int) (positive : 0 < windowSize) (room : 1 ≤ maxEvents)
    (inputs : List Input) (ordered : inputs.Pairwise (·.now ≤ ·.now)) (later : ∀ input ∈ inputs, start ≤ input.now) :
    (∀ a, ((admitted (newSlidingWindowLimiter windowSize maxEvents start) inputs).countP
            (fun t => decide (a ≤ t ∧ t < a + windowSize)) : Int) ≤ maxEvents ∧
        ((admitted (newSlidingWindowLimiter windowSize maxEvents start) inputs).countP
            (fun t => decide (a < t ∧ t ≤ a + windowSize)) : Int) ≤ maxEvents) ∧
      (∀ before now rest err, inputs = before ++ .allow now :: rest →
        ((after Input.serve (newSlidingWindowLimiter windowSize maxEvents start) before).allow now).1 = .error err →
        ((admitted (newSlidingWindowLimiter windowSize maxEvents start) before).countP
          (fun t => decide (now - windowSize < t ∧ t ≤ now)) : Int) = maxEvents) ∧
      ((after Input.serve (newSlidingWindowLimiter windowSize maxEvents start) inputs).events.length : Int) ≤ 2 * maxEvents := by
  have history : History start inputs := ⟨ordered,later⟩
  have windows := (admitted_paced positive room history).windows (admitted_ordered ordered) (by omega)
  refine ⟨windows,?_,events_length_le positive room history⟩
  rintro before now rest err rfl rejected
  have whole : before ++ Input.allow now :: rest = before ++ [.allow now] ++ rest := by simp
  rw [whole] at ordered later
  exact full_of_rejected positive room
    ⟨(pairwise_append.mp ordered).1,fun other listed => later other (mem_append_left _ listed)⟩ rejected

/-- Two events per second: the third call is rejected, and the fourth, a second after the first, cleans up. -/
theorem sliding_window_exact_full :
    admitted (newSlidingWindowLimiter 10 2 0) [.allow 1,.allow 1,.allow 9,.cleanup 10,.allow 11] = [1,1,11] ∧
      ((after Input.serve (newSlidingWindowLimiter 10 2 0) [.allow 1,.allow 1,.allow 9,.cleanup 10,.allow 11]).events.length
        : Int) ≤ 4 :=
  ⟨by decide,(sliding_window_exact 10 2 0 (by decide) (by decide) _ (by decide) (by decide)).2.2⟩

end McpBridge.SlidingWindows
