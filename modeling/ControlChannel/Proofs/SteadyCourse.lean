import ControlChannel.Listener.Tenure
import ControlChannel.Proofs.EndingSends
import ControlChannel.Proofs.HandlerStream

/-!
# Writing ends that make progress

Over a transport that takes what is written, and whose waits come to an end, a handle gives away
just what is said, and then the terminal message when its release gets to run.

* `TransportMode.Steady`, `Course.Chance.Steady`, `Weather.Steady` — a transport that makes progress,
  and what may befall its writing end meanwhile;
* `Course.Standing` — how far a handle has come: open, closing or released;
* `Course.Goes` — **what was given away is decided by how far the handle has come and what was said**;
* `Course.send_goes`, `Course.close_goes`, `Course.befall_goes` — one thing that is done with a handle,
  or befalls it;
* `Dispatch.handOver_goes`, `Course.Goes.wait` — a whole handler, and waiting for its release.
-/

namespace ControlChannel

/-- A transport that makes progress: what is written is taken, and neither draining nor closing hangs.
Waiting for the end may fail. -/
def TransportMode.Steady (mode : TransportMode) : Prop :=
  mode.write = none ∧ mode.drain = none ∧ mode.stalls = false ∧ mode.stallsClosing = false

instance (mode : TransportMode) : Decidable mode.Steady := inferInstanceAs (Decidable (_ ∧ _))

/-- A transport that makes progress takes what it is offered. -/
theorem TransportMode.Steady.offer {t : Transport} (h : t.mode.Steady) (m : Message) :
    t.offer m = (.done, { t with taken := t.taken ++ [m] }) := by
  obtain ⟨hwrite, hdrain, hstalls, _⟩ := h
  simp [Transport.offer, hwrite, hdrain, hstalls]

theorem TransportMode.Steady.waitClosed {t : Transport} (h : t.mode.Steady) :
    t.waitClosed ≠ .stuck := by
  obtain ⟨_, _, _, hcloses⟩ := h
  unfold Transport.waitClosed
  rw [if_neg (by simp [hcloses])]
  split <;> exact nofun

/-- What befalls a writing end whose transport makes progress. -/
def Course.Chance.Steady : Course.Chance → Prop
  | .mode next => next.Steady
  | _ => True

instance : (chance : Course.Chance) → Decidable chance.Steady
  | .mode next => inferInstanceAs (Decidable next.Steady)
  | .wake _ => isTrue trivial
  | .settle => isTrue trivial
  | .expire => isTrue trivial

/-- All that a writing end meets, while its transport makes progress. -/
def Weather.Steady (weather : Weather) : Prop :=
  ∀ chances ∈ weather, ∀ chance ∈ chances, Course.Chance.Steady chance

instance (weather : Weather) : Decidable weather.Steady :=
  inferInstanceAs (Decidable (∀ chances ∈ weather, ∀ chance ∈ chances, Course.Chance.Steady chance))

/-- A writing end that makes progress is one on which nothing hangs. -/
theorem Weather.Steady.flows {weather : Weather} (steady : weather.Steady) : weather.Flows := by
  intro chances hmem chance hchance
  have hsteady := steady chances hmem chance hchance
  cases chance with
  | mode next => exact hsteady.2.2
  | _ => trivial

namespace Course

/-- How far a handle over a transport that makes progress has come. -/
inductive Standing
  | opened
  | closing
  | released
  deriving DecidableEq

namespace Standing

/-- The phase of a handle. -/
def phase : Standing → ClosePhase
  | opened => .active
  | closing => .scheduled false
  | released => .released

/-- What is given away behind what was said. -/
def ending (limit : Double) : Standing → List Message
  | released => OutputHandle.terminal limit
  | _ => []

/-- How often the connection was closed. -/
def closes : Standing → Nat
  | released => 1
  | _ => 0

/-- A handle stays where it is, or its release has got to run. -/
def Becomes (standing later : Standing) : Prop :=
  later = standing ∨ standing = closing ∧ later = released

theorem Becomes.trans {first standing later : Standing} (h : Becomes first standing)
    (h' : Becomes standing later) : Becomes first later := by
  obtain rfl | ⟨rfl, rfl⟩ := h
  · exact h'
  · obtain rfl | ⟨hother, _⟩ := h'
    · exact .inr ⟨rfl, rfl⟩
    · cases hother

theorem Becomes.ne_opened {standing later : Standing} (h : Becomes standing later)
    (hclosed : standing ≠ opened) : later ≠ opened := by
  obtain rfl | ⟨_, rfl⟩ := h
  · exact hclosed
  · exact nofun

theorem Becomes.eq_opened {later : Standing} (h : Becomes opened later) : later = opened := by
  obtain rfl | ⟨hother, _⟩ := h
  · rfl
  · cases hother

theorem Becomes.eq_released {later : Standing} (h : Becomes released later) : later = released := by
  obtain rfl | ⟨hother, _⟩ := h
  · rfl
  · cases hother

end Standing

/-- A handle over a transport that makes progress: the time that its release has, what was said, and
how far it has come. -/
structure Goes (limit : Double) (said : List Text) (standing : Standing) (c : Course) : Prop where
  limited : c.handle.closeTimeout = limit
  steady : c.handle.transport.mode.Steady
  unbroken : c.handle.broken = false
  awake : c.hanging = 0
  phase : c.handle.phase = standing.phase
  taken : c.handle.transport.taken = said.map .packet ++ standing.ending limit
  closes : c.handle.transport.closes = standing.closes

variable {c : Course} {limit : Double} {said : List Text} {standing : Standing}

/-- How far a course has come is told by its handle, and by what hangs on it. -/
theorem Goes.of_handle {c' : Course} (h : Goes limit said standing c)
    (hhandle : c'.handle = c.handle) (hhanging : c'.hanging = c.hanging) :
    Goes limit said standing c' :=
  ⟨hhandle ▸ h.limited, hhandle ▸ h.steady, hhandle ▸ h.unbroken, hhanging.trans h.awake,
    hhandle ▸ h.phase, hhandle ▸ h.taken, hhandle ▸ h.closes⟩

theorem goes_fresh (client : Text) (limit : Double) :
    Goes limit [] .opened (fresh client limit {}) :=
  ⟨rfl, ⟨rfl, rfl, rfl, rfl⟩, rfl, rfl, rfl, rfl, rfl⟩

/-! ### What is done with a handle -/

/-- **A send on an open handle** gives away the packet of what is said. -/
theorem send_goes (h : Goes limit said .opened c) (value : Json) :
    Goes limit (said ++ value.spoken?.toList) .opened (c.act (.send value)) := by
  have hphase : c.handle.phase = .active := h.phase
  have hclosed : c.handle.closed = false := by simp [OutputHandle.closed, hphase]
  have htaken : c.handle.transport.taken = said.map .packet := h.taken.trans (List.append_nil _)
  have hpacket := OutputHandle.packetFor_eq value
  cases hspoken : value.spoken? with
  | none =>
    rw [hspoken] at hpacket
    obtain ⟨fault, hfault⟩ := hpacket
    have hsend : c.handle.send value = (some false, c.handle, [.dropped c.handle.client fault]) := by
      simp [OutputHandle.send, hclosed, h.unbroken, hfault]
    have hhandle : (c.act (.send value)).handle = c.handle := by
      simp [act, OutputHandle.act, hsend]
    have hhanging : (c.act (.send value)).hanging = c.hanging := by
      simp [act, OutputHandle.act, hsend]
    rw [Option.toList_none, List.append_nil]
    exact h.of_handle hhandle hhanging
  | some text =>
    rw [hspoken] at hpacket
    have hsend : c.handle.send value = (some true,
        { c.handle with
          transport := { c.handle.transport with
            taken := c.handle.transport.taken ++ [.packet text] }
          packetsSent := c.handle.packetsSent + 1 }, []) := by
      simp [OutputHandle.send, hclosed, h.unbroken, hpacket, h.steady.offer]
    have hact : c.act (.send value) =
        { c with
          handle :=
            { c.handle with
              transport := { c.handle.transport with
                taken := c.handle.transport.taken ++ [.packet text] }
              packetsSent := c.handle.packetsSent + 1 }
          results := c.results ++ [true] } := by
      simp [act, OutputHandle.act, hsend]
    rw [hact]
    refine ⟨h.limited, h.steady, h.unbroken, h.awake, h.phase, ?_, h.closes⟩
    show c.handle.transport.taken ++ [.packet text] = (said ++ [text]).map .packet ++ []
    rw [htaken, List.map_append, List.append_nil]
    rfl

/-- A close of an open handle schedules its release. -/
theorem close_goes (h : Goes limit said .opened c) : Goes limit said .closing (c.act .close) := by
  have hphase : c.handle.phase = .active := h.phase
  have hact : c.act .close =
      { c with handle := { c.handle with phase := .scheduled c.handle.broken } } := by
    simp [act, OutputHandle.act, OutputHandle.close, hphase]
  rw [hact]
  exact ⟨h.limited, h.steady, h.unbroken, h.awake, congrArg ClosePhase.scheduled h.unbroken, h.taken,
    h.closes⟩

/-- Asking for the end of the service gives nothing away. -/
theorem requestShutdown_goes (h : Goes limit said standing c) :
    Goes limit said standing (c.act .requestShutdown) :=
  ⟨h.limited, h.steady, h.unbroken, h.awake, h.phase, h.taken, h.closes⟩

/-- **On a closed handle nothing is given away any more** by its owner. -/
theorem act_goes_closed (h : Goes limit said standing c) (hclosed : standing ≠ .opened)
    (action : Action) : Goes limit said standing (c.act action) := by
  have hphase : c.handle.phase ≠ .active := by
    rw [h.phase]
    cases standing with
    | opened => exact absurd rfl hclosed
    | _ => exact nofun
  cases action with
  | requestShutdown => exact requestShutdown_goes h
  | send value =>
    have hact : c.act (.send value) =
        { c with
          results := c.results ++ [false]
          notices := c.notices ++ [.sentAfterClose c.handle.client] } := by
      simp [act, OutputHandle.act, OutputHandle.send, OutputHandle.closed, hphase]
    rw [hact]
    exact h.of_handle rfl rfl
  | close =>
    have hhandle : (c.act .close).handle = c.handle := by
      show c.handle.close = c.handle
      unfold OutputHandle.close
      split
      · rename_i hactive
        exact absurd hactive hphase
      · rfl
    exact h.of_handle hhandle rfl

/-! ### What befalls a handle -/

/-- A release over a transport that makes progress does not hang. -/
theorem release_goes {h : OutputHandle} (steady : h.transport.mode.Steady) :
    h.release = { h with transport := h.transport.close, phase := .released } := by
  have hwait : h.transport.close.waitClosed ≠ .stuck :=
    TransportMode.Steady.waitClosed (t := h.transport.close) steady
  unfold OutputHandle.release
  dsimp only
  split
  · rfl
  · split
    · rename_i hstuck
      exact absurd hstuck hwait
    · rfl

/-- **A release that gets to run** gives the terminal message away and closes the connection. -/
theorem settle_goes (h : Goes limit said .closing c) :
    Goes limit said .released { c with handle := c.handle.runRelease.1 } := by
  have hphase : c.handle.phase = .scheduled false := h.phase
  have htaken : c.handle.transport.taken = said.map .packet := h.taken.trans (List.append_nil _)
  have hcloses : c.handle.transport.closes = 0 := h.closes
  have hrun : c.handle.runRelease.1 =
      { c.handle with
        transport :=
          { c.handle.transport with
            taken := c.handle.transport.taken ++ OutputHandle.terminal limit
            closes := c.handle.transport.closes + 1 }
        phase := .released } := by
    unfold OutputHandle.runRelease OutputHandle.terminal
    rw [hphase, ← h.limited]
    dsimp only
    unfold OutputHandle.notify
    cases htime : c.handle.closeTimeout.isAtMostZero with
    | true =>
      rw [if_pos rfl, release_goes h.steady]
      simp [Transport.close]
    | false =>
      have hrelease := release_goes (h := { c.handle with
        transport := { c.handle.transport with
          taken := c.handle.transport.taken ++ [.closeSocket] } }) h.steady
      rw [if_neg Bool.false_ne_true, h.steady.offer]
      dsimp only
      rw [hrelease]
      simp [Transport.close]
  rw [hrun]
  refine ⟨h.limited, h.steady, h.unbroken, h.awake, rfl, ?_, ?_⟩
  · show c.handle.transport.taken ++ _ = _
    rw [htaken]
    rfl
  · show c.handle.transport.closes + 1 = 1
    rw [hcloses]

/-- **What befalls a handle gives nothing away**, but that its release may get to run. -/
theorem befall_goes (h : Goes limit said standing c) {chance : Chance} (steady : chance.Steady) :
    ∃ later, Goes limit said later (c.befall chance) ∧ standing.Becomes later := by
  cases chance with
  | mode mode =>
    exact ⟨standing, ⟨h.limited, steady, h.unbroken, h.awake, h.phase, h.taken, h.closes⟩, .inl rfl⟩
  | wake fault =>
    have hnone : c.befall (.wake fault) = c := by simp [befall, wake, h.awake]
    rw [hnone]
    exact ⟨standing, h, .inl rfl⟩
  | expire =>
    have hnone : c.handle.expire = (c.handle, []) := by
      unfold OutputHandle.expire
      rw [h.phase]
      cases standing <;> rfl
    exact ⟨standing, h.of_handle (congrArg Prod.fst hnone) rfl, .inl rfl⟩
  | settle =>
    cases standing with
    | closing =>
      exact ⟨.released, (settle_goes h).of_handle rfl rfl, .inr ⟨rfl, rfl⟩⟩
    | _ =>
      have hnone : c.handle.runRelease = (c.handle, []) := by
        unfold OutputHandle.runRelease
        rw [h.phase]
        rfl
      exact ⟨_, h.of_handle (congrArg Prod.fst hnone) rfl, .inl rfl⟩

/-- Waiting for the release of a closed handle ends with its release. -/
theorem Goes.wait (h : Goes limit said standing c) (hclosed : standing ≠ .opened)
    (time : Option Double) :
    Goes limit said .released { c with handle := (c.handle.drain time).1 } := by
  have hreleased : ∀ k : OutputHandle, k.phase = .released → k.waitThrough 3 time = (k, []) := by
    intro k hphase
    simp [OutputHandle.waitThrough, OutputHandle.timeLeft, hphase]
  cases standing with
  | opened => exact absurd rfl hclosed
  | closing =>
    have hsettled := settle_goes h
    have hdrain : (c.handle.drain time).1 = c.handle.runRelease.1 := by
      unfold OutputHandle.drain
      dsimp only
      rw [hreleased _ hsettled.phase]
    rw [hdrain]
    exact hsettled
  | released =>
    have hdrain : (c.handle.drain time).1 = c.handle := by
      have hnone : c.handle.runRelease = (c.handle, []) := by
        unfold OutputHandle.runRelease
        rw [h.phase]
        rfl
      unfold OutputHandle.drain
      rw [hnone]
      dsimp only
      rw [hreleased _ h.phase]
    rw [hdrain]
    exact h

/-! ### Runs -/

/-- **Whatever befalls a handle one after the other gives nothing away**, but that its release may
get to run. -/
theorem chances_goes (h : Goes limit said standing c) {chances : List Chance}
    (steady : ∀ chance ∈ chances, chance.Steady) :
    ∃ later, Goes limit said later (c.run (chances.map .chance)) ∧ standing.Becomes later := by
  induction chances generalizing c standing with
  | nil => exact ⟨standing, h, .inl rfl⟩
  | cons chance chances ih =>
    obtain ⟨hchance, hchances⟩ := List.forall_mem_cons.1 steady
    obtain ⟨between, hstep, hfirst⟩ := befall_goes h hchance
    obtain ⟨later, hrun, hrest⟩ := ih hstep hchances
    exact ⟨later, hrun, hfirst.trans hrest⟩

theorem course_cons (weather : Weather) (c : Course) (action : Action) (actions : List Action) :
    c.run (weather.course (action :: actions)) =
      ((c.run ((weather.headD []).map .chance)).act action).run
        (Weather.course weather.tail actions) := by
  show c.run (_ ++ .act action :: _) = _
  rw [run_append, run_cons]
  rfl

/-- What a writing end that makes progress meets first, and later. -/
theorem steady_headD {weather : Weather} (steady : weather.Steady) :
    ∀ chance ∈ weather.headD [], Chance.Steady chance := by
  cases weather with
  | nil => exact fun _ hmem => by cases hmem
  | cons chances weather => exact steady chances List.mem_cons_self

theorem steady_tail {weather : Weather} (steady : weather.Steady) : Weather.Steady weather.tail :=
  fun chances hmem => steady chances (List.mem_of_mem_tail hmem)

/-- On a closed handle no action gives anything away. -/
theorem course_goes_closed {weather : Weather} (steady : weather.Steady) (actions : List Action)
    (h : Goes limit said standing c) (hclosed : standing ≠ .opened) :
    ∃ later, Goes limit said later (c.run (weather.course actions)) ∧ later ≠ .opened := by
  induction actions generalizing weather c standing with
  | nil => exact ⟨standing, h, hclosed⟩
  | cons action actions ih =>
    obtain ⟨between, hchances, hbecomes⟩ := chances_goes h (steady_headD steady)
    have hbetween := hbecomes.ne_opened hclosed
    rw [course_cons]
    exact ih (steady_tail steady) (act_goes_closed hchances hbetween action) hbetween

/-- **Actions on an open handle give away the packets of what is sent before the first close**, and
leave it closed exactly if there is one. -/
theorem course_goes {weather : Weather} (steady : weather.Steady) (actions : List Action)
    (h : Goes limit said .opened c) :
    ∃ later, Goes limit (said ++ (HandlerRun.sentOpen actions).filterMap Json.spoken?) later
        (c.run (weather.course actions)) ∧
      (later = .opened ↔ actions.any Action.closes = false) := by
  induction actions generalizing weather c said with
  | nil =>
    refine ⟨.opened, ?_, iff_of_true rfl rfl⟩
    show Goes limit (said ++ []) .opened c
    rw [List.append_nil]
    exact h
  | cons action actions ih =>
    obtain ⟨between, hchances, hbecomes⟩ := chances_goes h (steady_headD steady)
    obtain rfl := hbecomes.eq_opened
    rw [course_cons]
    cases action with
    | send value =>
      obtain ⟨later, hrun, hopen⟩ := ih (steady_tail steady) (send_goes hchances value)
      refine ⟨later, ?_, hopen⟩
      rw [HandlerRun.sentOpen_cons_send, Json.filterMap_spoken?_cons, ← List.append_assoc]
      exact hrun
    | requestShutdown =>
      obtain ⟨later, hrun, hopen⟩ := ih (steady_tail steady) (requestShutdown_goes hchances)
      exact ⟨later, hrun, hopen⟩
    | close =>
      obtain ⟨later, hrun, hclosed⟩ := course_goes_closed (steady_tail steady) actions
        (close_goes hchances) nofun
      refine ⟨later, ?_, iff_of_false hclosed (by simp [Action.closes])⟩
      rw [HandlerRun.sentOpen_cons_close, List.filterMap_nil, List.append_nil]
      exact hrun

end Course

/-! ### A handler -/

namespace HandlerRun

/-- What is sent before the first close, by actions behind others. -/
theorem sentOpen_append (actions later : List Action) :
    sentOpen (actions ++ later)
      = sentOpen actions ++ if actions.any Action.closes then [] else sentOpen later := by
  induction actions with
  | nil => rfl
  | cons action actions ih =>
    cases action with
    | send value =>
      rw [List.cons_append, sentOpen_cons_send, ih, sentOpen_cons_send]
      rfl
    | close => rfl
    | requestShutdown =>
      rw [List.cons_append, sentOpen_cons_requestShutdown, ih, sentOpen_cons_requestShutdown]
      rfl

/-- What is sent in all is what the run sends, and the report of its failure. -/
theorem sentOpen_closing (run : HandlerRun) :
    sentOpen (run.actions ++ run.closing) = sentOpen run.actions ++ run.reported := by
  rw [sentOpen_append, closing, reported]
  cases run.ending with
  | returned value => simp
  | failed fault => rfl

theorem any_closes_closing (run : HandlerRun) :
    (run.actions ++ run.closing).any Action.closes = true := by
  rw [List.any_append, closing]
  cases run.ending <;> simp [Action.closes]

end HandlerRun

/-- **A handler over a transport that makes progress** gives away the packets of what it says, and
leaves its handle closed. -/
theorem Dispatch.handOver_goes (settings : ServeSettings) (client : Text) {weather : Weather}
    (steady : weather.Steady) (run : HandlerRun) :
    ∃ standing, Course.Goes settings.closeTimeout run.spoken standing
      (handOver settings client weather run) ∧ standing ≠ .opened := by
  obtain ⟨standing, hgoes, hopen⟩ := Course.course_goes steady (run.actions ++ run.closing)
    (Course.goes_fresh client settings.closeTimeout)
  rw [List.nil_append, run.sentOpen_closing] at hgoes
  rw [run.any_closes_closing] at hopen
  exact ⟨standing, hgoes, fun h => Bool.noConfusion (hopen.1 h)⟩

end ControlChannel
