import ControlChannel.Proofs.EndingSends
import ControlChannel.Proofs.TenureRuns
import ControlChannel.Service.Hosted

/-!
# Writing ends whose waits come to an end

Where neither draining nor closing hangs, waiting for the releases that are under way leaves none of
them, whether a handler came to its end or was broken off.

* `WritingEnd.Flows` — a writing end that was closed, or whose handle was, over a transport on which
  nothing hangs;
* `Tenure.Move.Flows` — what happens while nothing hangs;
* `Tenure.Flows` — **all that a listener holds in hand flows**, with one lemma for each thing that
  may happen to it, its being broken off included;
* `Tenure.windUp_flows` — nothing is under way when it has wound up.
-/

namespace ControlChannel

variable {Facts Command : Type}

/-! ### Courses -/

namespace Course

variable {c : Course}

theorem course_flows (flows : c.handle.Flows) {weather : Weather} (h : weather.Flows)
    (actions : List Action) : (c.run (weather.course actions)).handle.Flows := by
  induction actions generalizing weather c with
  | nil => exact flows
  | cons action actions ih =>
    rw [course_cons]
    have hchances := chances_flows flows (flows_headD h)
    exact ih (OutputHandle.act_flows hchances action) (List.drop_one ▸ flows_drop h 1)

/-- **A handle whose last action closes it** flows, and is closed. -/
theorem course_close_flows (client : Text) (closeTimeout : Double) {weather : Weather}
    (h : weather.Flows) (actions : List Action) :
    let closed := (fresh client closeTimeout {}).run (weather.course (actions ++ [.close]))
    closed.handle.Flows ∧ closed.handle.closed = true := by
  intro closed
  have hfresh : (fresh client closeTimeout {}).handle.Flows := ⟨⟨rfl, rfl⟩, rfl⟩
  refine ⟨course_flows hfresh h _, ?_⟩
  have hlast : ∀ c : Course, (c.act .close).handle.closed = true := by
    intro c
    show c.handle.close.closed = true
    unfold OutputHandle.close
    split
    · rfl
    · rename_i hclosed
      simpa [OutputHandle.closed] using hclosed
  show ((fresh client closeTimeout {}).run (weather.course (actions ++ [.close]))).handle.closed
    = true
  rw [Weather.course_append, run_append, course_cons]
  exact hlast _

end Course

/-! ### Writing ends -/

namespace WritingEnd

/-- A writing end that was closed, or whose handle was, over a transport on which nothing hangs. -/
def Flows : WritingEnd → Prop
  | shut _ => True
  | handed course => course.handle.Flows ∧ course.handle.closed = true

variable {e : WritingEnd}

theorem Flows.befall (flows : e.Flows) {chance : Course.Chance} (h : chance.Flows) :
    (e.befall chance).Flows := by
  cases e with
  | shut transport => trivial
  | handed course =>
    obtain ⟨hflows, hclosed⟩ := flows
    exact ⟨Course.befall_flows hflows h, Course.befall_closed hflows chance hclosed⟩

/-- **A release that is over stays so.** -/
theorem Flows.befall_pending (flows : e.Flows) (chance : Course.Chance) (settled : e.pending = 0) :
    (e.befall chance).pending = 0 := by
  cases e with
  | shut transport => rfl
  | handed course =>
    show (course.befall chance).handle.pending = 0
    obtain hphase | ⟨hphase, _⟩ := Course.befall_phase flows.1 chance
    · rw [OutputHandle.pending, hphase]
      exact settled
    · exact OutputHandle.pending_of_released hphase

/-- **A release that is waited for is over.** -/
theorem Flows.wait (flows : e.Flows) (time : Double) :
    (e.wait time).Flows ∧ (e.wait time).pending = 0 := by
  cases e with
  | shut transport => exact ⟨trivial, rfl⟩
  | handed course =>
    obtain ⟨hflows, hclosed⟩ := flows
    obtain ⟨hrun, hreleased⟩ := OutputHandle.runRelease_flows hflows
    have hphase := hreleased hclosed
    have hafter : course.handle.runRelease.1.closed = true := by
      rw [OutputHandle.closed, hphase]
      rfl
    show ((course.handle.drain (some time)).1.Flows ∧
      (course.handle.drain (some time)).1.closed = true) ∧
      (course.handle.drain (some time)).1.pending = 0
    rw [OutputHandle.drain_flows hflows]
    exact ⟨⟨hrun, hafter⟩, OutputHandle.pending_of_released hphase⟩

end WritingEnd

/-! ### Handlers -/

/-- Behind a handler its handle is closed. -/
theorem HandlerRun.closing_eq (run : HandlerRun) :
    run.closing = run.closing.dropLast ++ [.close] := by
  unfold closing
  cases run.ending <;> rfl

namespace Dispatch

variable (d : Dispatch Facts Command) (settings : ServeSettings) (client : Text) (facts : Facts)
  {connection : Connection}

theorem writingEnd_flows (h : connection.weather.Flows) :
    (d.writingEnd settings client facts connection).Flows := by
  unfold writingEnd
  split
  · split
    · trivial
    · rename_i command _
      unfold handOver
      rw [HandlerRun.closing_eq, ← List.append_assoc]
      exact Course.course_close_flows client settings.closeTimeout h _
  · trivial

end Dispatch

/-! ### Serving -/

namespace Tenure

/-- Something that happens while nothing hangs. -/
def Move.Flows : Move → Prop
  | .loop (.connect arriving) => arriving.weather.Flows
  | .chance _ befalling => befalling.Flows
  | _ => True

instance : (move : Move) → Decidable move.Flows
  | .loop (.connect arriving) => inferInstanceAs (Decidable arriving.weather.Flows)
  | .loop (.retire _) => isTrue trivial
  | .loop .turn => isTrue trivial
  | .chance _ befalling => inferInstanceAs (Decidable befalling.Flows)
  | .files _ => isTrue trivial

/-- On nothing that a listener has in hand, and on none of those who wait there, anything hangs. -/
structure Flows (t : Tenure Facts) : Prop where
  coming : ∀ c ∈ t.loop.stage.inHand ++ t.loop.backlog, Weather.Flows c.weather
  ends : ∀ e ∈ t.ends, WritingEnd.Flows e

variable {d : Dispatch Facts Command} {t : Tenure Facts}

/-- Behind the end of a loop no one comes any more. -/
theorem finish_coming (loop : Loop Facts) :
    ∀ c ∈ loop.finish.stage.inHand ++ loop.finish.backlog, Weather.Flows c.weather :=
  fun _ hmem => absurd hmem List.not_mem_nil

/-- A connection that was accepted leaves a writing end. -/
theorem Flows.snoc (flows : t.Flows) {e : WritingEnd} (h : e.Flows) :
    ∀ e' ∈ t.ends ++ [e], WritingEnd.Flows e' := by
  intro e' hmem
  obtain hmem | hmem := List.mem_append.1 hmem
  · exact flows.ends e' hmem
  · rw [List.mem_singleton.1 hmem]
    exact h

/-- **Waiting leaves no release under way**, if there is time for it. -/
theorem Flows.waitFor (flows : t.Flows) (time : Double) :
    (t.waitFor time).Flows ∧
      (time.IsPositive → ∀ e ∈ (t.waitFor time).ends, e.pending = 0) := by
  unfold Tenure.waitFor
  dsimp only
  split_ifs with htime
  · have hends : ∀ e ∈ t.ends.map (WritingEnd.wait time), e.Flows ∧ e.pending = 0 := by
      intro e hmem
      obtain ⟨before, hbefore, rfl⟩ := List.mem_map.1 hmem
      exact (flows.ends before hbefore).wait _
    exact ⟨⟨flows.coming, fun e hmem => (hends e hmem).1⟩, fun _ e hmem => (hends e hmem).2⟩
  · exact ⟨⟨flows.coming, flows.ends⟩, fun hpositive => absurd hpositive htime⟩

theorem Flows.wait (flows : t.Flows) : t.wait.Flows := by
  unfold Tenure.wait
  dsimp only
  split_ifs
  · exact flows
  · exact ⟨flows.coming, (flows.waitFor _).1.ends⟩

theorem Turned.flows {next : Tenure Facts} (turned : Turned d t next) (flows : t.Flows) :
    next.Flows := by
  have hcoming := flows.coming
  cases turned with
  | rests stage backlog => exact flows
  | accepts stage unretired backlog =>
    rw [stage, backlog] at hcoming
    exact ⟨hcoming, flows.ends⟩
  | begins stage unretired =>
    rw [stage] at hcoming
    exact ⟨hcoming, flows.ends⟩
  | hangs stage hung => exact flows
  | serves stage free =>
    rw [stage] at hcoming
    obtain ⟨hserved, hbacklog⟩ := List.forall_mem_cons.1 hcoming
    exact ⟨hbacklog, flows.snoc (d.writingEnd_flows _ _ _ hserved)⟩
  | ends going idle retired =>
    refine ⟨finish_coming t.loop, fun e hmem => ?_⟩
    obtain hmem | hmem := List.mem_append.1 hmem
    · exact flows.ends e hmem
    · obtain ⟨_, _, rfl⟩ := List.mem_map.1 hmem
      trivial
  | waits stage => exact flows.wait

/-- What befalls a writing end is no matter of the others. -/
theorem getElem?_chance {ends : List WritingEnd} {k j : Nat} {chance : Course.Chance}
    {e : WritingEnd} (h : (ends.modify k (.befall chance))[j]? = some e) :
    ∃ before, ends[j]? = some before ∧ (if k = j then before.befall chance else before) = e := by
  rw [List.getElem?_modify] at h
  obtain ⟨before, hbefore, rfl⟩ := Option.map_eq_some_iff.1 h
  exact ⟨before, hbefore, by split_ifs <;> rfl⟩

/-- Where no release is under way, none begins without the loop. -/
theorem step_pending (d : Dispatch Facts Command) (flows : t.Flows) {move : Move}
    (unturned : move ≠ .loop .turn) (settled : ∀ e ∈ t.ends, e.pending = 0) :
    ∀ e ∈ (t.step d move).ends, e.pending = 0 := by
  cases move with
  | loop move =>
    cases move with
    | turn => contradiction
    | _ => exact settled
  | chance k chance =>
    intro e hmem
    obtain ⟨j, hj⟩ := List.mem_iff_getElem?.1 hmem
    obtain ⟨before, hbefore, rfl⟩ := getElem?_chance hj
    have hmem := List.mem_of_getElem? hbefore
    split_ifs
    · exact (flows.ends before hmem).befall_pending chance (settled before hmem)
    · exact settled before hmem
  | files files => exact settled

end Tenure

end ControlChannel
