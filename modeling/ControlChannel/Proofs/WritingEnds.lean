import ControlChannel.Proofs.Isolation
import ControlChannel.Proofs.SteadyCourse

/-!
# What a connection leaves of its writing end

A connection without a command is closed before the loop goes on.  One with a command leaves the
handle that its handler had, closed by then, and the release of that goes on by itself.

* `Dispatch.conductThrough_handOver` — a connection told to its end at once is its writing end, left
  to itself;
* `Dispatch.writingEnd_of_none`, `Dispatch.writingEnd_of_command` — the two kinds of writing ends;
* `Dispatch.getElem?_runs` — the run for each connection, with the facts that those before it left;
* `WritingEnd.Left` — **what a connection has left by now, given the run of its handler**, with one
  lemma for each thing that may happen to it;
* `WritingEnd.Tells` — what such a connection has been told.
-/

namespace ControlChannel

variable {Facts Command : Type}

/-- Twice a time is above zero exactly if the time is. -/
theorem Double.twice_isPositive {time : Double} : time.twice.IsPositive ↔ time.IsPositive := by
  cases time with
  | finite negative mantissa exponent =>
    unfold twice IsPositive
    dsimp only
    split_ifs with hsmall hlarge
    · simp [isAtMostZero]
    · have hpositive : mantissa ≠ 0 := fun hzero => hsmall (hzero ▸ Nat.two_pow_pos 52)
      simp [isAtMostZero, hpositive]
    · simp [isAtMostZero]
  | infinite negative => rfl
  | nan => rfl

/-! ### A release by itself -/

/-- Actions behind others meet what is left of the weather. -/
theorem Weather.course_append (weather : Weather) (actions later : List Action) :
    weather.course (actions ++ later) =
      weather.course actions ++ Weather.course (weather.drop actions.length) later := by
  induction actions generalizing weather with
  | nil => rfl
  | cons action actions ih =>
    show (_ ++ .act action :: Weather.course weather.tail (actions ++ later)) = _
    rw [ih, List.length_cons, ← List.drop_tail]
    show _ = (_ ++ .act action :: Weather.course weather.tail actions) ++ _
    rw [List.append_assoc, List.cons_append]

namespace Dispatch

/-- A handler that is told to the end of its release at once is the course that is handed over, left
to itself. -/
theorem conductThrough_handOver (settings : ServeSettings) (client : Text) (weather : Weather)
    (run : HandlerRun) :
    (conductThrough settings client weather run).transport =
      (Weather.conclude (weather.drop (run.actions ++ run.closing).length)
        (handOver settings client weather run) []).handle.transport := by
  let acted := (Course.fresh client settings.closeTimeout {}).run (weather.course run.actions)
  let later : Weather := weather.drop run.actions.length
  have htold : (conductThrough settings client weather run).transport =
      (later.conclude acted run.closing).handle.transport := by
    unfold conductThrough HandlerRun.closing
    cases run.ending with
    | returned value =>
      refine (Weather.conclude_transport acted.handle.client ?_ later [.close]).symm
      exact ⟨rfl, rfl⟩
    | failed fault =>
      refine (Weather.conclude_transport acted.handle.client ?_ later
        [.send (.str fault.report), .close]).symm
      exact ⟨rfl, rfl⟩
  have hhanded : handOver settings client weather run = acted.run (later.course run.closing) := by
    rw [handOver, Weather.course_append, Course.run_append]
  have hrest : later.drop run.closing.length = weather.drop (run.actions ++ run.closing).length := by
    rw [List.drop_drop, List.length_append]
  rw [htold, hhanded, ← hrest]
  unfold Weather.conclude
  rw [Course.run_append]
  rfl

variable (d : Dispatch Facts Command) (settings : ServeSettings) (client : Text) (facts : Facts)

/-- What is offered closes nothing. -/
theorem offer_closes (t : Transport) (m : Message) : (t.offer m).2.closes = t.closes := by
  unfold Transport.offer
  split
  · rfl
  · dsimp only
    split
    · rfl
    · split <;> rfl

theorem write_closes (weather : Weather) (m : Message) : (weather.write m).2.closes = 0 := by
  have hoffer := offer_closes weather.opening m
  unfold Weather.write
  split
  · rename_i hstuck
    rw [hstuck] at hoffer
    cases weather.wakes with
    | none => exact hoffer
    | some fault => cases fault <;> exact hoffer
  · exact hoffer

theorem rejectedThrough_closes (weather : Weather) (text : Text) :
    (rejectedThrough client weather text).transport.closes = 1 := by
  unfold rejectedThrough
  split
  · rfl
  · rename_i packet _
    have hwrite := write_closes weather packet
    split
    all_goals
      rename_i hwritten
      rw [hwritten] at hwrite
      exact congrArg (· + 1) hwrite

theorem identifiedThrough_closes (weather : Weather) :
    (identifiedThrough settings client weather).transport.closes = 1 := by
  unfold identifiedThrough
  split
  · rfl
  · rename_i response _
    have hwrite := write_closes weather response
    split
    all_goals
      rename_i hwritten
      rw [hwritten] at hwrite
      exact congrArg (· + 1) hwrite

/-- A connection without a command leaves a writing end that was closed. -/
theorem writingEnd_of_none {connection : Connection}
    (h : d.command? settings connection.delivery = none) :
    ∃ transport, d.writingEnd settings client facts connection = .shut transport ∧
      transport.closes = 1 := by
  unfold command? at h
  split at h
  · rename_i argv later hheard
    unfold writingEnd
    rw [hheard]
    dsimp only
    cases hread : d.read argv with
    | error text => exact ⟨_, rfl, rejectedThrough_closes client _ text⟩
    | ok command =>
      rw [hread] at h
      cases h
  · rename_i hother
    unfold writingEnd
    split
    · rename_i argv later hheard
      exact absurd hheard (hother argv later)
    · refine ⟨_, rfl, ?_⟩
      unfold serveThrough
      split
      · rename_i argv later hheard
        exact absurd hheard (hother argv later)
      · exact identifiedThrough_closes settings client _
      · exact d.serve_closes client facts

/-- A connection with a command leaves the writing end that its handler had. -/
theorem writingEnd_of_command {connection : Connection} {command : Command}
    (h : d.command? settings connection.delivery = some command) :
    d.writingEnd settings client facts connection =
      .handed (handOver settings client connection.weather (d.handle facts command).1) := by
  unfold command? at h
  split at h
  · rename_i argv later hheard
    unfold writingEnd
    rw [hheard]
    dsimp only
    cases hread : d.read argv with
    | error text =>
      rw [hread] at h
      cases h
    | ok read =>
      rw [hread] at h
      cases h
      rfl
  · cases h

/-- **The run for each connection** has the facts that the connections before it left. -/
theorem getElem?_runs (l : Listener Facts) (connections : List Connection) (k : Nat) :
    (d.runs l.settings l.facts connections)[k]? =
      connections[k]?.map fun c => (d.command? l.settings c.delivery).map fun command =>
        (d.handle (l.serveAll d (connections.take k)).2.facts command).1 := by
  induction connections generalizing l k with
  | nil => rfl
  | cons first later ih =>
    rw [runs_cons d l.settings l.nextClient]
    cases k with
    | zero => rfl
    | succ k =>
      have hsettings : (l.acceptThrough d first).2.settings = l.settings := by
        rw [Listener.acceptThrough_listener]
      have hfacts : (l.acceptThrough d first).2.facts =
          (d.serveThrough l.settings l.nextClient l.facts first).2 := by
        rw [Listener.acceptThrough_listener]
      have hrest := ih (l.acceptThrough d first).2 k
      rw [hsettings, hfacts] at hrest
      rw [List.getElem?_cons_succ, hrest]
      rfl

/-- It does not matter how many connections come behind it. -/
theorem getElem?_runs_take (l : Listener Facts) (connections : List Connection) {k m : Nat}
    (h : k < m) :
    (d.runs l.settings l.facts (connections.take m))[k]? =
      connections[k]?.map fun c => (d.command? l.settings c.delivery).map fun command =>
        (d.handle (l.serveAll d (connections.take k)).2.facts command).1 := by
  rw [getElem?_runs, List.getElem?_take_of_lt h, List.take_take, Nat.min_eq_left h.le]

end Dispatch

/-! ### What one connection leaves -/

namespace WritingEnd

/-- What a connection has left of its writing end by now, given the run of its handler: without one
the connection is closed.  Behind a run it is being released, as far as its transport makes progress,
and this is done when the releases have been waited for. -/
def Left (limit : Double) (steady : Prop) (waited : Bool) (run : Option HandlerRun) :
    WritingEnd → Prop
  | shut transport => run = none ∧ transport.closes = 1
  | handed course => ∃ r, run = some r ∧ (steady → ∃ standing : Course.Standing,
      course.Goes limit r.spoken standing ∧ standing ≠ .opened ∧
        (waited = true → limit.IsPositive → standing = .released))

variable {limit : Double} {steady : Prop} {waited : Bool} {run : Option HandlerRun} {e : WritingEnd}

/-- **A connection that was served** leaves its handler at work, or is closed. -/
theorem left_of_served (d : Dispatch Facts Command) (settings : ServeSettings) (client : Text)
    (facts : Facts) (connection : Connection) (hsteady : steady → connection.weather.Steady) :
    (d.writingEnd settings client facts connection).Left settings.closeTimeout steady false
      ((d.command? settings connection.delivery).map fun command => (d.handle facts command).1) := by
  cases hcommand : d.command? settings connection.delivery with
  | none =>
    obtain ⟨transport, hshut, hcloses⟩ := d.writingEnd_of_none settings client facts hcommand
    rw [hshut]
    exact ⟨rfl, hcloses⟩
  | some command =>
    rw [d.writingEnd_of_command settings client facts hcommand]
    refine ⟨_, rfl, fun hprogress => ?_⟩
    obtain ⟨standing, hgoes, hclosed⟩ := Dispatch.handOver_goes settings client
      (hsteady hprogress) (d.handle facts command).1
    exact ⟨standing, hgoes, hclosed, fun hwaited => Bool.noConfusion hwaited⟩

/-- What befalls a writing end changes nothing of that. -/
theorem Left.befall (h : e.Left limit steady waited run) {chance : Course.Chance}
    (hsteady : steady → chance.Steady) : (e.befall chance).Left limit steady waited run := by
  cases e with
  | shut transport => exact h
  | handed course =>
    obtain ⟨r, hrun, hleft⟩ := h
    refine ⟨r, hrun, fun hprogress => ?_⟩
    obtain ⟨standing, hgoes, hclosed, hwaited⟩ := hleft hprogress
    obtain ⟨later, hlater, hbecomes⟩ := Course.befall_goes hgoes (hsteady hprogress)
    refine ⟨later, hlater, hbecomes.ne_opened hclosed, fun hended htime => ?_⟩
    rw [hwaited hended htime] at hbecomes
    exact hbecomes.eq_released

/-- Waiting for a release ends with it. -/
theorem Left.wait (h : e.Left limit steady waited run) (time : Double) :
    (e.wait time).Left limit steady true run := by
  cases e with
  | shut transport => exact h
  | handed course =>
    obtain ⟨r, hrun, hleft⟩ := h
    refine ⟨r, hrun, fun hprogress => ?_⟩
    obtain ⟨standing, hgoes, hclosed, _⟩ := hleft hprogress
    exact ⟨.released, hgoes.wait hclosed (some time), nofun, fun _ _ => rfl⟩

/-- Where there is no time for it, nothing is waited for. -/
theorem Left.unwaited (h : e.Left limit steady waited run) (htime : ¬ limit.IsPositive) :
    e.Left limit steady true run := by
  cases e with
  | shut transport => exact h
  | handed course =>
    obtain ⟨r, hrun, hleft⟩ := h
    refine ⟨r, hrun, fun hprogress => ?_⟩
    obtain ⟨standing, hgoes, hclosed, _⟩ := hleft hprogress
    exact ⟨standing, hgoes, hclosed, fun _ hpositive => absurd hpositive htime⟩

/-- What a connection whose handler said something has been told by now: all of it, and the end
behind that when its release has run. -/
def Tells (said : List Text) (waited : Bool) (e : WritingEnd) : Prop :=
  e.transport.taken = said.map .packet ++ [.closeSocket] ∧ e.transport.closes = 1 ∧ e.pending = 0 ∨
    waited = false ∧ e.transport.taken = said.map .packet ∧ e.transport.closes = 0 ∧ e.pending = 1

/-- When the releases have been waited for, nothing is left to be told. -/
theorem Tells.all {said : List Text} (h : e.Tells said waited) (hwaited : waited = true) :
    e.transport.taken = said.map .packet ++ [.closeSocket] ∧ e.transport.closes = 1 ∧ e.pending = 0 :=
  h.resolve_right fun hwaiting => Bool.noConfusion (hwaited.symm.trans hwaiting.1)

/-- Behind a release that has run stands the terminal message. -/
theorem tells_of_released {said : List Text} {course : Course}
    (h : course.Goes limit said .released) (hpositive : limit.IsPositive) (waited : Bool) :
    (handed course).Tells said waited := by
  have hterminal : OutputHandle.terminal limit = [.closeSocket] := by
    rw [OutputHandle.terminal, hpositive.1]
    rfl
  have hpending : (handed course).pending = course.handle.pending := rfl
  rw [OutputHandle.pending, h.phase] at hpending
  refine .inl ⟨?_, h.closes, hpending⟩
  rw [← hterminal]
  exact h.taken

/-- **A connection with a command** whose transport makes progress is told what its handler said, and
the end as soon as its release gets to run. -/
theorem Left.tells {r : HandlerRun} (h : e.Left limit steady waited (some r)) (hprogress : steady)
    (hpositive : limit.IsPositive) :
    e.Tells r.spoken waited ∧ (e.befall .settle).Tells r.spoken true := by
  cases e with
  | shut transport => cases h.1
  | handed course =>
    obtain ⟨_, hrun, hleft⟩ := h
    obtain rfl := Option.some.inj hrun
    obtain ⟨standing, hgoes, hclosed, hwaited⟩ := hleft hprogress
    cases standing with
    | opened => exact absurd rfl hclosed
    | closing =>
      have hpending : (handed course).pending = course.handle.pending := rfl
      rw [OutputHandle.pending, hgoes.phase] at hpending
      have hunwaited : waited = false := by
        rw [← Bool.not_eq_true]
        exact fun hended => Course.Standing.noConfusion (hwaited hended hpositive)
      exact ⟨.inr ⟨hunwaited, hgoes.taken.trans (List.append_nil _), hgoes.closes, hpending⟩,
        tells_of_released ((Course.settle_goes hgoes).of_handle rfl rfl) hpositive true⟩
    | released =>
      have hsettle : Course.Chance.Steady .settle := trivial
      obtain ⟨later, hlater, hbecomes⟩ := Course.befall_goes hgoes hsettle
      obtain rfl := hbecomes.eq_released
      exact ⟨tells_of_released hgoes hpositive waited, tells_of_released hlater hpositive true⟩

/-- **When the releases have been waited for**, a connection whose transport makes progress is closed,
and none of it is under way. -/
theorem Left.released (h : e.Left limit steady true run) (hprogress : steady)
    (hpositive : limit.IsPositive) : e.transport.closes = 1 ∧ e.pending = 0 := by
  cases run with
  | none =>
    cases e with
    | shut transport => exact ⟨h.2, rfl⟩
    | handed course => obtain ⟨r, hrun, _⟩ := h; cases hrun
  | some r => exact (h.tells hprogress hpositive).1.all rfl |>.2

end WritingEnd

end ControlChannel
